import CodeGauge.Json.Reader
import Mathlib.Data.List.Infix
import Mathlib.Data.List.TakeWhile

/-!
This module contains what the reader of JSON texts consumes: it leaves a part of the text that goes
up to its end, a number that it refuses for its length stands in the text, and so do more brackets
than there is room for if it refuses their nesting.
-/

namespace CodeGauge

/--
Whether a text holds `n` ASCII digits in a row.
-/
def Text.HasDigits (cs : List Char) (n : Nat) : Prop :=
  ∃ digits, digits <:+: cs ∧ digits.length = n ∧ ∀ c ∈ digits, c.isDigit

theorem Text.HasDigits.mono {cs cs' : List Char} {n : Nat} (h : HasDigits cs n)
    (hpart : cs <:+: cs') : HasDigits cs' n := by
  obtain ⟨digits, hdigits, hrest⟩ := h
  exact ⟨digits, hdigits.trans hpart, hrest⟩

namespace Json

open Text

variable {α β : Type} {cs rest : List Char} {room : Nat}


/--
The number of characters that open an array or an object.
-/
def openings (cs : List Char) : Nat :=
  cs.countP fun c => c == '[' || c == '{'

theorem openings_cons {c : Char} (hc : c = '[' ∨ c = '{') (cs : List Char) :
    openings (c :: cs) = openings cs + 1 := by
  rcases hc with rfl | rfl <;> exact List.countP_cons_of_pos rfl

theorem openings_le_of_suffix (h : rest <:+ cs) : openings rest ≤ openings cs :=
  h.sublist.countP_le

/--
Whether reading a text can have this result where there is some room: what is left are its last
characters, a number with too many digits is one of its own, and so are the brackets that are too
many.
-/
def Fits (room : Nat) (cs : List Char) : Except Stop (α × List Char) → Prop
  | .ok (_, rest) => rest <:+ cs
  | .error (.malformed ..) => True
  | .error (.tooLong n) => maxIntDigits < n ∧ HasDigits cs n
  | .error (.tooDeep _) => room < openings cs

namespace Fits

theorem of_suffix {result : Except Stop (α × List Char)} (h : Fits room rest result)
    (hsuffix : rest <:+ cs) : Fits room cs result := by
  unfold Fits at h ⊢
  split at h
  . exact h.trans hsuffix
  . trivial
  . exact ⟨h.1, h.2.mono hsuffix.isInfix⟩
  . exact Nat.lt_of_lt_of_le h (openings_le_of_suffix hsuffix)

theorem error {stop : Stop} (h : Fits (α := α) room cs (.error stop)) :
    Fits (α := β) room cs (.error stop) := by
  cases stop with
  | malformed => trivial
  | tooLong => exact h
  | tooDeep => exact h

/--
The result for the parts of an array or object fits the whole, which takes one more unit of room.
-/
theorem of_opening {result : Except Stop (α × List Char)} {c : Char} (h : Fits room rest result)
    (hc : c = '[' ∨ c = '{') (hsuffix : rest <:+ cs) : Fits (room + 1) (c :: cs) result := by
  have hsuffix' := hsuffix.trans (List.suffix_cons c cs)
  unfold Fits at h ⊢
  split at h
  . exact h.trans hsuffix'
  . trivial
  . exact ⟨h.1, h.2.mono hsuffix'.isInfix⟩
  . change _ < openings (c :: cs)
    rw [openings_cons hc]
    exact Nat.add_lt_add_right (Nat.lt_of_lt_of_le h (openings_le_of_suffix hsuffix)) 1

theorem of_no_room {nest : Nest} {c : Char} (hc : c = '[' ∨ c = '{') :
    Fits (α := α) 0 (c :: cs) (.error (.tooDeep nest)) := by
  change 0 < openings (c :: cs)
  rw [openings_cons hc]
  exact Nat.zero_lt_succ _

end Fits

theorem skipBlanks_suffix (cs : List Char) : skipBlanks cs <:+ cs :=
  List.dropWhile_suffix isBlank

theorem suffix_of_skipBlanks_eq {c : Char} (h : skipBlanks cs = c :: rest) : rest <:+ cs :=
  (List.suffix_cons c rest).trans (h ▸ skipBlanks_suffix cs)

theorem exists_malformed_of_escape {opened : List Char} {stop : Stop}
    (h : escape opened cs = .error stop) : ∃ what left, stop = .malformed what left := by
  unfold escape at h
  split at h
  . cases h
    exact ⟨_, _, rfl⟩
  . split at h
    . cases h
      exact ⟨_, _, rfl⟩
    . split at h
      . split at h
        . cases h
        . split at h
          . cases h
          . cases h
            exact ⟨_, _, rfl⟩
      . cases h
  . split at h
    . cases h
    . cases h
      exact ⟨_, _, rfl⟩

theorem readText_fits (room : Nat) (opened : List Char) (found : Wide) (skip : Nat)
    (cs : List Char) :
    Fits room cs (readText opened found skip cs) := by
  induction cs generalizing found skip with
  | nil => trivial
  | cons c rest ih =>
    have hrest := List.suffix_cons c rest
    unfold readText
    split
    . exact (ih ..).of_suffix hrest
    . split
      . exact hrest
      . split
        . split
          . next hescape =>
            obtain ⟨what, left, rfl⟩ := exists_malformed_of_escape hescape
            trivial
          . exact (ih ..).of_suffix hrest
        . split
          . trivial
          . exact (ih ..).of_suffix hrest

theorem append_of_wholeDigits? {whole : List Char} (h : wholeDigits? cs = some (whole, rest)) :
    cs = whole ++ rest ∧ ∀ c ∈ whole, c.isDigit := by
  unfold wholeDigits? at h
  split at h
  . cases h
    simp
  . split at h
    . next hdigit =>
      cases h
      constructor
      . rw [List.cons_append, List.takeWhile_append_dropWhile]
      . intro c hc
        cases List.mem_cons.1 hc with
        | inl heq => exact heq ▸ hdigit
        | inr hmem => exact List.mem_takeWhile_imp hmem
    . cases h
  . cases h

theorem fraction_suffix (cs : List Char) : (fraction cs).2 <:+ cs := by
  unfold fraction
  split
  . split
    . exact List.suffix_rfl
    . exact (List.dropWhile_suffix _).trans (List.suffix_cons ..)
  . exact List.suffix_rfl

theorem sign_suffix (cs : List Char) : (Numeral.sign cs).2 <:+ cs := by
  unfold Numeral.sign
  split
  . exact List.suffix_cons ..
  . exact List.suffix_cons ..
  . exact List.suffix_rfl

theorem exponent_suffix (cs : List Char) : (exponent cs).2 <:+ cs := by
  unfold exponent
  split
  . exact List.suffix_rfl
  . next c rest =>
    dsimp only
    split
    . exact (List.dropWhile_suffix _).trans ((sign_suffix rest).trans (List.suffix_cons c rest))
    . exact List.suffix_rfl

theorem readNumber?_fits {negative : Bool} {result : Except Stop (Json × List Char)}
    (h : readNumber? negative cs = some result) : Fits room cs result := by
  unfold readNumber? at h
  obtain ⟨⟨whole, rest⟩, hwhole, hresult⟩ := Option.map_eq_some_iff.1 h
  obtain ⟨rfl, hdigits⟩ := append_of_wholeDigits? hwhole
  have hrest : (exponent (fraction rest).2).2 <:+ whole ++ rest :=
    (exponent_suffix _).trans ((fraction_suffix rest).trans (List.suffix_append whole rest))
  dsimp only at hresult
  split at hresult
  . split at hresult
    . next hlong =>
      subst hresult
      exact ⟨hlong, whole, (List.prefix_append whole rest).isInfix, rfl, hdigits⟩
    . subst hresult
      exact hrest
  . subst hresult
    exact hrest

theorem readNumber?_getD_fits (room : Nat) (negative : Bool) (cs left : List Char) :
    Fits room cs ((readNumber? (τ := String) negative cs).getD (.error (.malformed .value left))) := by
  cases h : readNumber? negative cs with
  | none => trivial
  | some result => exact readNumber?_fits h

theorem readScalar_fits (room : Nat) (cs : List Char) : Fits room cs (readScalar (τ := String) cs) := by
  unfold readScalar
  split
  . exact List.suffix_append ['n', 'u', 'l', 'l'] _
  . exact List.suffix_append ['t', 'r', 'u', 'e'] _
  . exact List.suffix_append ['f', 'a', 'l', 's', 'e'] _
  . exact List.suffix_append ['N', 'a', 'N'] _
  . exact List.suffix_append ['I', 'n', 'f', 'i', 'n', 'i', 't', 'y'] _
  . exact List.suffix_append ['-', 'I', 'n', 'f', 'i', 'n', 'i', 't', 'y'] _
  . next rest _ => exact (readNumber?_getD_fits room true rest _).of_suffix (List.suffix_cons _ rest)
  . exact readNumber?_getD_fits room false cs _

mutual

theorem readValue_fits (room fuel : Nat) (cs : List Char) :
    Fits room cs (readValue room fuel cs) := by
  cases fuel with
  | zero => trivial
  | succ fuel =>
    unfold readValue
    split
    . next rest =>
      have htext := (readText_fits room ('"' :: rest) [] 0 rest).of_suffix (List.suffix_cons '"' rest)
      split
      . next hstop =>
        rw [hstop] at htext
        exact htext.error
      . next hok =>
        rw [hok] at htext
        exact htext
    . next rest =>
      split
      . exact Fits.of_no_room (.inl rfl)
      . next room =>
        split
        . next hskip => exact (suffix_of_skipBlanks_eq hskip).trans (List.suffix_cons '[' rest)
        . exact (readItems_fits room fuel [] _).of_opening (.inl rfl) (skipBlanks_suffix rest)
    . next rest =>
      split
      . exact Fits.of_no_room (.inr rfl)
      . next room =>
        split
        . next hskip => exact (suffix_of_skipBlanks_eq hskip).trans (List.suffix_cons '{' rest)
        . exact (readFields_fits room fuel [] _).of_opening (.inr rfl) (skipBlanks_suffix rest)
    . exact readScalar_fits room cs

theorem readItems_fits (room fuel : Nat) (found : List Json) (cs : List Char) :
    Fits room cs (readItems room fuel found cs) := by
  cases fuel with
  | zero => trivial
  | succ fuel =>
    have hvalue := readValue_fits room fuel cs
    unfold readItems
    split
    . next hstop =>
      rw [hstop] at hvalue
      exact hvalue
    . next item rest hok =>
      rw [hok] at hvalue
      have hrest : rest <:+ cs := hvalue
      split
      . next hskip => exact (suffix_of_skipBlanks_eq hskip).trans hrest
      . next left hskip =>
        have hleft := (suffix_of_skipBlanks_eq hskip).trans hrest
        exact (readItems_fits room fuel _ _).of_suffix ((skipBlanks_suffix left).trans hleft)
      . trivial

theorem readFields_fits (room fuel : Nat) (found : Fields) (cs : List Char) :
    Fits room cs (readFields room fuel found cs) := by
  cases fuel with
  | zero => trivial
  | succ fuel =>
    unfold readFields
    split
    . next opened =>
      have htext := (readText_fits room ('"' :: opened) [] 0 opened).of_suffix (List.suffix_cons '"' _)
      split
      . next hstop =>
        rw [hstop] at htext
        exact htext.error
      . next name rest hok =>
        rw [hok] at htext
        have hrest : rest <:+ '"' :: opened := htext
        split
        . next left hskip =>
          have hleft := (skipBlanks_suffix left).trans ((suffix_of_skipBlanks_eq hskip).trans hrest)
          have hvalue := (readValue_fits room fuel (skipBlanks left)).of_suffix hleft
          split
          . next hstop =>
            rw [hstop] at hvalue
            exact hvalue
          . next value rest hok =>
            rw [hok] at hvalue
            have hrest : rest <:+ '"' :: opened := hvalue
            dsimp only
            split
            . next hskip => exact (suffix_of_skipBlanks_eq hskip).trans hrest
            . next left hskip =>
              have hleft := (suffix_of_skipBlanks_eq hskip).trans hrest
              exact (readFields_fits room fuel _ _).of_suffix ((skipBlanks_suffix left).trans hleft)
            . trivial
        . trivial
    . trivial

end

end Json
end CodeGauge
