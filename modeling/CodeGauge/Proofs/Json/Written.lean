import CodeGauge.Json.Writer
import CodeGauge.Proofs.Json.Document
import CodeGauge.Proofs.Number.Numeral
import CodeGauge.Proofs.Text.CodePoint

/-!
This module contains the reading of what has been written: a value without decimal numbers is read
back from its compact form.
-/

namespace CodeGauge.Json

open Text

variable {τ : Type} {cs rest more opened : List Char} {found : Wide} {c : Char} {n room : Nat}
  {v : Json τ}


theorem head?_toDigits (h : 0 < n) : (Nat.toDigits 10 n).head? ≠ some '0' := by
  induction n using Nat.base_induction 10 (by decide) with
  | single m hm =>
    rw [Nat.toDigits_of_lt_base hm, List.head?_cons]
    intro hzero
    rw [Option.some_inj, Nat.digitChar_eq_zero] at hzero
    omega
  | digit m k hk hm ih =>
    rw [← Nat.toDigits_append_toDigits (by decide) hm hk]
    rw [List.head?_append_of_ne_nil _ Nat.toDigits_ne_nil]
    exact ih hm

/--
Whether a text goes on as it does behind a value in the compact form.
-/
def Closes (cs : List Char) : Prop :=
  ∀ c ∈ cs.head?, c = ',' ∨ c = ']' ∨ c = '}'

theorem closes_nil : Closes [] := by
  nofun

theorem closes_cons (h : c = ',' ∨ c = ']' ∨ c = '}') (cs : List Char) : Closes (c :: cs) := by
  rintro _ ⟨⟩
  exact h

theorem fraction_of_closes (h : Closes rest) : fraction rest = ([], rest) := by
  cases rest with
  | nil => rfl
  | cons c rest => rcases h c rfl with rfl | rfl | rfl <;> rfl

theorem exponent_of_closes (h : Closes rest) : exponent rest = (none, rest) := by
  cases rest with
  | nil => rfl
  | cons c rest => rcases h c rfl with rfl | rfl | rfl <;> rfl

theorem wholeDigits?_toDigits (n : Nat) (h : Closes rest) :
    wholeDigits? (Nat.toDigits 10 n ++ rest) = some (Nat.toDigits 10 n, rest) := by
  cases Nat.eq_zero_or_pos n with
  | inl hzero =>
    subst hzero
    rfl
  | inr hpos =>
    apply wholeDigits?_of_isDigit _ (head?_toDigits hpos) Nat.toDigits_ne_nil
    . intro c hc
      rcases h c hc with rfl | rfl | rfl <;> rfl
    . intro c hc
      exact Nat.isDigit_of_mem_toDigits (by decide) (by decide) hc

theorem readNumber?_toDigits (negative : Bool) (hlong : (Nat.toDigits 10 n).length ≤ maxIntDigits)
    (h : Closes rest) :
    readNumber? (τ := τ) negative (Nat.toDigits 10 n ++ rest)
      =
    some (.ok (.int (if negative then -n else n), rest)) := by
  have hnumber : numberOf (Nat.toDigits 10 n) = n := by
    rw [numberOf, Numeral.ofDigits_eq, Nat.ofDigitChars_ten_toDigits]
  unfold readNumber?
  rw [wholeDigits?_toDigits n h, Option.map_some]
  dsimp only
  rw [fraction_of_closes h]
  dsimp only
  rw [exponent_of_closes h]
  simp [hnumber, hlong]

/--
A whole number is written as its digits, behind a minus sign if it is negative.
-/
theorem toList_toString (i : Int) :
    ∃ c ds, Nat.toDigits 10 i.natAbs = c :: ds ∧ c.isDigit
      ∧ (0 ≤ i ∧ (toString i).toList = c :: ds ∨ i < 0 ∧ (toString i).toList = '-' :: c :: ds) := by
  obtain ⟨c, ds, hds⟩ := List.exists_cons_of_ne_nil (Nat.toDigits_ne_nil (n := i.natAbs) (b := 10))
  have hc : c.isDigit := by
    apply Nat.isDigit_of_mem_toDigits (b := 10) (n := i.natAbs) (by decide) (by decide)
    rw [hds]
    exact List.mem_cons_self
  refine ⟨c, ds, hds, hc, ?_⟩
  rw [Int.toString_eq_repr, Int.repr_eq_if]
  split
  . next hpos =>
    have habs : i.toNat = i.natAbs := by omega
    exact .inl ⟨hpos, by rw [habs, Nat.toList_repr, hds]⟩
  . next hneg =>
    have habs : (-i).toNat = i.natAbs := by omega
    refine .inr ⟨by omega, ?_⟩
    rw [String.toList_append, habs, Nat.toList_repr, hds]
    rfl

theorem exists_hexDigits (h : n < 0x20) :
    ∃ a b c d, hexDigits 4 n = [a, b, c, d] ∧ hexNumber? [a, b, c, d] = some n := by
  have hcontrol : ∀ n < 0x20, (hexDigits 4 n).length = 4
      ∧ hexNumber? (hexDigits 4 n) = some n := by
    decide +kernel
  obtain ⟨hlength, hnumber⟩ := hcontrol n h
  obtain ⟨a, b, c, d, hdigits⟩ := List.length_eq_four.1 hlength
  rw [hdigits] at hnumber
  exact ⟨a, b, c, d, hdigits, hnumber⟩

/--
Whether a value may start with a character: it is no blank, no bracket that closes an array, and no
byte order mark.
-/
def startsValue (c : Char) : Bool :=
  !isBlank c && c != ']' && c != '\uFEFF'

theorem startsValue_of_isDigit (h : c.isDigit) : startsValue c := by
  simp [startsValue, isBlank, ne_of_isDigit h]

theorem skipBlanks_cons (h : startsValue c) (cs : List Char) : skipBlanks (c :: cs) = c :: cs := by
  simp only [startsValue, Bool.and_eq_true, Bool.not_eq_true'] at h
  apply List.dropWhile_cons_of_neg
  simp [h.1.1]

theorem setField_of_not_mem [BEq τ] [LawfulBEq τ] {name : τ} {fields : Fields τ}
    (h : name ∉ fields.map Prod.fst) (value : Json τ) : setField name value fields = fields ++ [(name, value)] := by
  induction fields with
  | nil => rfl
  | cons f fields ih =>
    rw [List.map_cons, List.mem_cons, not_or] at h
    have hf : (f.1 == name) = false := by
      simpa using Ne.symm h.1
    rw [setField, if_neg (by simp [hf]), ih h.2, List.cons_append]

variable [Wording τ]

theorem readText_skip (h : cs.length = n) :
    readText (τ := τ) opened found n (cs ++ more) = readText opened found 0 more := by
  induction cs generalizing n with
  | nil =>
    subst h
    rfl
  | cons c cs ih =>
    subst h
    rw [List.cons_append, List.length_cons, readText]
    exact ih rfl

theorem readText_control (opened : List Char) (found : Wide) (h : c.toNat < 0x20)
    (hmore : more ≠ []) :
    readText (τ := τ) opened found 0 (unitEscape c.toNat ++ more)
      =
    readText opened (.char c :: found) 0 more := by
  obtain ⟨a₁, a₂, a₃, a₄, hdigits, hnumber⟩ := exists_hexDigits h
  obtain ⟨d, more, rfl⟩ := List.exists_cons_of_ne_nil hmore
  have hhigh : isHighSurrogate c.toNat = false := by
    simp only [isHighSurrogate, Bool.and_eq_false_iff, decide_eq_false_iff_not]
    omega
  have hescape : escape opened ('u' :: a₁ :: a₂ :: a₃ :: a₄ :: d :: more) = .ok (.char c, 5) := by
    simp [escape, codeUnit?, hnumber, hhigh, CodePoint.ofNat_toNat]
  rw [unitEscape, hdigits]
  simp only [List.cons_append, List.nil_append]
  rw [readText]
  simp only [hescape]
  have hlength : ['u', a₁, a₂, a₃, a₄].length = 5 := rfl
  exact readText_skip hlength

/--
What is written for a character is read as this character.
-/
theorem readText_escapeChar (opened : List Char) (found : Wide) (c : Char) (hmore : more ≠ []) :
    readText (τ := τ) opened found 0 (escapeChar false c ++ more)
      =
    readText opened (.char c :: found) 0 more := by
  unfold escapeChar
  split
  case h_8 hquote hslash _ _ _ _ _ =>
    split
    . next hcontrol =>
      have hcontrol : c.toNat < 0x20 := by
        simpa using hcontrol
      have hwide : wideEscape c = unitEscape c.toNat := by
        apply if_pos
        omega
      rw [hwide]
      exact readText_control opened found hcontrol hmore
    . next hshown =>
      have hshown : ¬ c.toNat < 0x20 := by
        simpa using hshown
      rw [List.singleton_append, readText, if_neg (by simpa using hquote),
        if_neg (by simpa using hslash), if_neg hshown]
  all_goals rfl

theorem readText_quote (opened : List Char) (found : Wide) (cs rest : List Char) :
    readText (τ := τ) opened found 0 (cs.flatMap (escapeChar false) ++ '"' :: rest)
      =
    .ok (Wording.ofPoints (found.reverse ++ cs.map .char), rest) := by
  induction cs generalizing found with
  | nil => simp [readText]
  | cons c cs ih =>
    rw [List.flatMap_cons, List.append_assoc, readText_escapeChar opened found c (by simp), ih]
    simp

theorem readValue_int [BEq τ] {i : Int} (room fuel : Nat)
    (hlong : (Nat.toDigits 10 i.natAbs).length ≤ maxIntDigits) (h : Closes rest) :
    readValue (τ := τ) room (fuel + 1) ((toString i).toList ++ rest) = .ok (.int i, rest) := by
  have hnumber (negative : Bool) := readNumber?_toDigits (τ := τ) negative hlong h
  obtain ⟨c, ds, hds, hc, hwritten⟩ := toList_toString i
  simp only [hds, List.cons_append] at hnumber
  cases hwritten with
  | inl hpos =>
    have habs : (i.natAbs : Int) = i := Int.natAbs_of_nonneg hpos.1
    rw [hpos.2, List.cons_append, readValue_scalar (ne_of_isDigit hc rfl) (ne_of_isDigit hc rfl)
      (ne_of_isDigit hc rfl), readScalar_of_isDigit hc, hnumber, Option.getD_some,
      if_neg (by decide), habs]
  | inr hneg =>
    have habs : -(i.natAbs : Int) = i := by omega
    rw [hneg.2, List.cons_append, List.cons_append, readValue_scalar (by decide) (by decide)
      (by decide), readScalar_minus hc, hnumber, Option.getD_some, if_pos rfl, habs]

/--
The values without decimal numbers that can be read back where there is some room: all texts are
strings, no number is too long, no object has two fields of one name, and there are not too many
arrays and objects within one another.
-/
inductive Plain : Nat → Json τ → Prop
  | null {room : Nat} : Plain room .null
  | bool {room : Nat} (b : Bool) : Plain room (.bool b)
  | int {i : Int} {room : Nat} (hlong : (Nat.toDigits 10 i.natAbs).length ≤ maxIntDigits) :
    Plain room (.int i)
  | str {room : Nat} (s : String) : Plain room (.str (Wording.ofString s))
  | arr {items : List (Json τ)} {room : Nat} (hitems : ∀ v ∈ items, Plain room v) :
    Plain (room + 1) (.arr items)
  | obj {fields : Fields τ} {room : Nat} (hnames : (fields.map Prod.fst).Nodup)
      (hwhole : ∀ f ∈ fields, ∃ name : String, f.1 = Wording.ofString name)
      (hfields : ∀ f ∈ fields, Plain room f.2) : Plain (room + 1) (.obj fields)

theorem write_null (form : Form) : write form (.null : Json τ) = "null" := by
  simp [write, writeScalar]

theorem write_bool (form : Form) (b : Bool) :
    write form (.bool b : Json τ) = if b then "true" else "false" := by
  cases b <;> simp [write, writeScalar]

variable [LawfulWording τ]

theorem toList_quote (s : String) :
    (quote false (Wording.ofString s : τ)).toList
      =
    '"' :: (s.toList.flatMap (escapeChar false) ++ ['"']) := by
  simp [quote, LawfulWording.points_ofString, List.flatMap_map, escapePoint]

theorem readText_name (opened : List Char) (name : String) (rest : List Char) :
    readText opened [] 0 (name.toList.flatMap (escapeChar false) ++ '"' :: rest)
      =
    .ok ((Wording.ofString name : τ), rest) := by
  rw [readText_quote, List.reverse_nil, List.nil_append, LawfulWording.ofPoints_map_char,
    String.ofList_toList]

theorem readValue_quote [BEq τ] (room fuel : Nat) (s : String) (rest : List Char) :
    readValue room (fuel + 1) ((quote false (Wording.ofString s : τ)).toList ++ rest)
      =
    .ok (.str (Wording.ofString s : τ), rest) := by
  rw [toList_quote, List.cons_append, List.append_assoc]
  apply readValue_text
  rw [List.singleton_append, readText_name]

theorem toList_writeFields_singleton (name : String) (value : Json τ) :
    (writeFields .compact [(Wording.ofString name, value)]).toList
      =
    '"' :: (name.toList.flatMap (escapeChar false)
      ++ '"' :: ':' :: (write .compact value).toList) := by
  simp [writeFields, toList_quote, Form.compact]

theorem toList_writeFields_cons (name : String) (value : Json τ) (f : τ × Json τ)
    (fields : Fields τ) :
    (writeFields .compact ((Wording.ofString name, value) :: f :: fields)).toList
      =
    '"' :: (name.toList.flatMap (escapeChar false)
      ++ '"' :: ':' :: ((write .compact value).toList
        ++ ',' :: (writeFields .compact (f :: fields)).toList)) := by
  simp [writeFields, toList_quote, Form.compact]

theorem exists_write (h : Plain room v) :
    ∃ c cs, (write .compact v).toList = c :: cs ∧ startsValue c := by
  cases h with
  | null =>
    rw [write_null]
    exact ⟨'n', _, rfl, rfl⟩
  | bool b =>
    rw [write_bool]
    cases b with
    | false => exact ⟨'f', _, rfl, rfl⟩
    | true => exact ⟨'t', _, rfl, rfl⟩
  | @int i _ hlong =>
    obtain ⟨c, ds, _, hc, hwritten⟩ := toList_toString i
    cases hwritten with
    | inl hpos =>
      exact ⟨c, ds, hpos.2, startsValue_of_isDigit hc⟩
    | inr hneg => exact ⟨'-', c :: ds, hneg.2, rfl⟩
  | str s => exact ⟨'"', _, toList_quote s, rfl⟩
  | @arr items _ _ =>
    refine ⟨'[', (writeItems .compact items).toList ++ [']'], ?_, rfl⟩
    simp [write]
  | @obj fields _ _ _ _ =>
    refine ⟨'{', (writeFields .compact fields).toList ++ ['}'], ?_, rfl⟩
    simp [write]

theorem skipBlanks_write (h : Plain room v) (rest : List Char) :
    skipBlanks ((write .compact v).toList ++ rest) = (write .compact v).toList ++ rest := by
  obtain ⟨c, cs, hcs, hc⟩ := exists_write h
  rw [hcs, List.cons_append, skipBlanks_cons hc]

theorem exists_writeItems {item : Json τ} (h : Plain room item) (items : List (Json τ)) :
    ∃ c cs, (writeItems .compact (item :: items)).toList = c :: cs ∧ startsValue c := by
  obtain ⟨c, cs, hcs, hc⟩ := exists_write h
  cases items with
  | nil => exact ⟨c, cs, hcs, hc⟩
  | cons next items =>
    refine ⟨c, cs ++ (Form.compact.comma ++ writeItems .compact (next :: items)).toList, ?_, hc⟩
    simp [writeItems, hcs]

theorem exists_writeFields {f : τ × Json τ} (h : ∃ name : String, f.1 = Wording.ofString name)
    (fields : Fields τ) : ∃ cs, (writeFields .compact (f :: fields)).toList = '"' :: cs := by
  obtain ⟨name, value⟩ := f
  obtain ⟨name, rfl⟩ := h
  cases fields with
  | nil => exact ⟨_, toList_writeFields_singleton name value⟩
  | cons next fields => exact ⟨_, toList_writeFields_cons name value next fields⟩

variable [BEq τ]

/--
Whether a value is read back from its compact form where there is some room, with whatever may
follow it.
-/
def ReadsBack (room : Nat) (v : Json τ) : Prop :=
  ∀ fuel rest, 2 * (write .compact v).toList.length ≤ fuel → Closes rest →
    readValue room fuel ((write .compact v).toList ++ rest) = .ok (v, rest)

theorem readItems_write {items : List (Json τ)} (hne : items ≠ [])
    (hitems : ∀ v ∈ items, Plain room v ∧ ReadsBack room v) (fuel : Nat)
    (found : List (Json τ)) (rest : List Char)
    (hfuel : 2 * (writeItems .compact items).toList.length < fuel) :
    readItems room fuel found ((writeItems .compact items).toList ++ ']' :: rest)
      =
    .ok (.arr (found.reverse ++ items), rest) := by
  induction items generalizing fuel found with
  | nil => exact (hne rfl).elim
  | cons item items ih =>
    rw [List.forall_mem_cons] at hitems
    obtain ⟨⟨_, hitem⟩, hitems⟩ := hitems
    obtain ⟨fuel, rfl⟩ := Nat.exists_eq_add_one_of_ne_zero (Nat.ne_zero_of_lt hfuel)
    cases items with
    | nil =>
      rw [writeItems] at hfuel ⊢
      have hvalue := hitem fuel (']' :: rest) (by omega) (closes_cons (by simp) rest)
      rw [readItems_close hvalue rfl]
      simp
    | cons next items =>
      have htext : (writeItems .compact (item :: next :: items)).toList
          = (write .compact item).toList
            ++ ',' :: (writeItems .compact (next :: items)).toList := by
        simp [writeItems, Form.compact]
      rw [htext, List.length_append, List.length_cons] at hfuel
      have hvalue (more : List Char) :=
        hitem fuel (',' :: more) (by omega) (closes_cons (by simp) more)
      obtain ⟨c, cs, hcs, hc⟩ := exists_writeItems (hitems next List.mem_cons_self).1 items
      have hskip : skipBlanks ((writeItems .compact (next :: items)).toList ++ ']' :: rest)
          = (writeItems .compact (next :: items)).toList ++ ']' :: rest := by
        rw [hcs, List.cons_append, skipBlanks_cons hc]
      rw [htext, List.append_assoc, List.cons_append, readItems_comma (hvalue _) rfl, hskip]
      rw [ih (List.cons_ne_nil next items) hitems fuel _ (by omega)]
      simp

theorem readsBack_of_succ (h : Plain room v)
    (hread : ∀ fuel rest, 2 * (write .compact v).toList.length ≤ fuel + 1 → Closes rest →
      readValue room (fuel + 1) ((write .compact v).toList ++ rest) = .ok (v, rest)) :
    ReadsBack room v := by
  intro fuel rest hfuel hrest
  obtain ⟨c, cs, hcs, _⟩ := exists_write h
  have hpos : fuel ≠ 0 := by
    rw [hcs, List.length_cons] at hfuel
    omega
  obtain ⟨fuel, rfl⟩ := Nat.exists_eq_add_one_of_ne_zero hpos
  exact hread fuel rest hfuel hrest

variable [LawfulBEq τ]

theorem readFields_write {fields : Fields τ} (hne : fields ≠ [])
    (hwhole : ∀ f ∈ fields, ∃ name : String, f.1 = Wording.ofString name)
    (hfields : ∀ f ∈ fields, Plain room f.2 ∧ ReadsBack room f.2) (fuel : Nat) (found : Fields τ)
    (hnames : ((found ++ fields).map Prod.fst).Nodup) (rest : List Char)
    (hfuel : 2 * (writeFields .compact fields).toList.length < fuel) :
    readFields room fuel found ((writeFields .compact fields).toList ++ '}' :: rest)
      =
    .ok (.obj (found ++ fields), rest) := by
  induction fields generalizing fuel found with
  | nil => exact (hne rfl).elim
  | cons f fields ih =>
    obtain ⟨name, value⟩ := f
    rw [List.forall_mem_cons] at hfields hwhole
    obtain ⟨⟨name, rfl⟩, hwhole⟩ := hwhole
    obtain ⟨⟨hplain : Plain room value, hvalue : ReadsBack room value⟩, hfields⟩ := hfields
    obtain ⟨fuel, rfl⟩ := Nat.exists_eq_add_one_of_ne_zero (Nat.ne_zero_of_lt hfuel)
    have hset : setField (Wording.ofString name) value found
        = found ++ [((Wording.ofString name : τ), value)] := by
      apply setField_of_not_mem
      rw [List.map_append, List.map_cons, List.nodup_append] at hnames
      intro hmem
      exact hnames.2.2 _ hmem _ List.mem_cons_self rfl
    cases fields with
    | nil =>
      rw [toList_writeFields_singleton] at hfuel ⊢
      simp only [List.length_cons, List.length_append] at hfuel
      simp only [List.cons_append, List.append_assoc]
      have hread := hvalue fuel ('}' :: rest) (by omega) (closes_cons (by simp) rest)
      rw [← skipBlanks_write hplain] at hread
      rw [readFields_close (readText_name _ name _) rfl hread rfl, hset]
    | cons next fields =>
      rw [toList_writeFields_cons] at hfuel ⊢
      simp only [List.length_cons, List.length_append] at hfuel
      simp only [List.cons_append, List.append_assoc]
      obtain ⟨cs, hcs⟩ := exists_writeFields (hwhole next List.mem_cons_self) fields
      have hread (more : List Char) :
          readValue room fuel (skipBlanks ((write .compact value).toList ++ ',' :: more))
            = .ok (value, ',' :: more) := by
        rw [skipBlanks_write hplain]
        exact hvalue fuel _ (by omega) (closes_cons (by simp) more)
      have hskip : skipBlanks ((writeFields .compact (next :: fields)).toList ++ '}' :: rest)
          = (writeFields .compact (next :: fields)).toList ++ '}' :: rest := by
        rw [hcs]
        rfl
      rw [readFields_comma (readText_name _ name _) rfl (hread _) rfl, hset, hskip]
      rw [ih (List.cons_ne_nil next fields) hwhole hfields fuel _ (by simpa using hnames) (by omega)]
      simp

/--
A plain value is read back from its compact form.
-/
theorem readsBack_of_plain (h : Plain room v) : ReadsBack room v := by
  induction h with
  | null =>
    apply readsBack_of_succ .null
    intro fuel rest _ _
    rw [write_null]
    rfl
  | bool b =>
    apply readsBack_of_succ (.bool b)
    intro fuel rest _ _
    rw [write_bool]
    cases b <;> rfl
  | int hlong =>
    apply readsBack_of_succ (.int hlong)
    intro fuel rest _ hrest
    exact readValue_int _ fuel hlong hrest
  | str s =>
    apply readsBack_of_succ (.str s)
    intro fuel rest _ _
    exact readValue_quote _ fuel s rest
  | @arr items room hitems ih =>
    apply readsBack_of_succ (.arr hitems)
    intro fuel rest hfuel _
    have htext : (write .compact (.arr items)).toList
        = '[' :: ((writeItems .compact items).toList ++ [']']) := by
      simp [write]
    rw [htext] at hfuel ⊢
    simp only [List.length_cons, List.length_append, List.length_nil] at hfuel
    rw [List.cons_append, List.append_assoc, List.singleton_append]
    cases items with
    | nil => rfl
    | cons item items =>
      obtain ⟨c, cs, hcs, hc⟩ := exists_writeItems (hitems item List.mem_cons_self) items
      have hclose : c ≠ ']' := by
        rintro rfl
        cases hc
      have hread := readItems_write (List.cons_ne_nil item items)
        (fun v hv => ⟨hitems v hv, ih v hv⟩) fuel [] rest (by omega)
      rw [hcs, List.cons_append] at hread ⊢
      rw [readValue_array (skipBlanks_cons hc _) hclose, hread]
      rfl
  | @obj fields room hnames hwhole hfields ih =>
    apply readsBack_of_succ (.obj hnames hwhole hfields)
    intro fuel rest hfuel _
    have htext : (write .compact (.obj fields)).toList
        = '{' :: ((writeFields .compact fields).toList ++ ['}']) := by
      simp [write]
    rw [htext] at hfuel ⊢
    simp only [List.length_cons, List.length_append, List.length_nil] at hfuel
    rw [List.cons_append, List.append_assoc, List.singleton_append]
    cases fields with
    | nil => rfl
    | cons f fields =>
      obtain ⟨cs, hcs⟩ := exists_writeFields (hwhole f List.mem_cons_self) fields
      have hread := readFields_write (List.cons_ne_nil f fields) hwhole
        (fun f hf => ⟨hfields f hf, ih f hf⟩) fuel [] hnames rest (by omega)
      rw [hcs, List.cons_append] at hread ⊢
      rw [readValue_object (skipBlanks_cons rfl _) (by decide), hread]
      rfl

theorem read_write (h : Plain room v) : read (write .compact v).toList room = .ok v := by
  have hvalue := readsBack_of_plain h (2 * (write .compact v).toList.length + 2) [] (by omega)
    closes_nil
  have hskip := skipBlanks_write h []
  rw [List.append_nil] at hvalue hskip
  have hmark : ¬ (write .compact v).toList.head? = some '\uFEFF' := by
    obtain ⟨c, cs, hcs, hc⟩ := exists_write h
    rw [hcs, List.head?_cons, Option.some_inj]
    rintro rfl
    cases hc
  unfold read readUnmarked readDocument
  rw [if_neg (by simpa using hmark), hskip, hvalue]
  rfl

end CodeGauge.Json
