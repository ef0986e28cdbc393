import CodeGauge.Proofs.Json.Append

/-!
This module contains which documents are objects, and which are refused for a number with too many
digits or for their nesting.
-/

namespace CodeGauge.Json

open Text

variable {cs rest : List Char} {fields : Fields} {v : Json} {room : Nat}


theorem readNumber?_ne_obj {negative : Bool}
    (h : readNumber? negative cs = some (.ok (v, rest))) (fields : Fields) : v ≠ .obj fields := by
  obtain ⟨parts, _, hresult⟩ := Option.map_eq_some_iff.1 h
  dsimp only at hresult
  split at hresult
  . split at hresult
    . cases hresult
    . cases hresult
      simp
  . cases hresult
    simp

theorem readScalar_ne_obj (h : readScalar cs = .ok (v, rest)) (fields : Fields) :
    v ≠ .obj fields := by
  unfold readScalar at h
  split at h
  case h_7 => exact readNumber?_ne_obj (readNumber?_of_getD h) fields
  case h_8 => exact readNumber?_ne_obj (readNumber?_of_getD h) fields
  all_goals
    cases h
    simp

theorem readItems_ne_obj {fuel : Nat} {found : List Json}
    (h : readItems room fuel found cs = .ok (v, rest)) (fields : Fields) : v ≠ .obj fields := by
  induction fuel generalizing found cs with
  | zero => cases h
  | succ fuel ih =>
    unfold readItems at h
    split at h
    . cases h
    . split at h
      . cases h
        simp
      . exact ih h
      . cases h

theorem head_of_readValue_obj {fuel : Nat} (h : readValue room fuel cs = .ok (.obj fields, rest)) :
    cs.head? = some '{' := by
  cases fuel with
  | zero => cases h
  | succ fuel =>
    unfold readValue at h
    split at h
    . split at h <;> cases h
    . split at h
      . cases h
      . split at h
        . cases h
        . exact (readItems_ne_obj h fields rfl).elim
    . rfl
    . exact (readScalar_ne_obj h fields rfl).elim

theorem exists_of_readUnmarked {τ : Type} [BEq τ] [Wording τ] {v : Json τ}
    (h : readUnmarked cs room = .ok v) :
    ∃ rest, readValue room (2 * cs.length + 2) (skipBlanks cs) = .ok (v, rest)
      ∧ skipBlanks rest = [] := by
  unfold readUnmarked at h
  split at h
  . next hdocument =>
    cases h
    unfold readDocument at hdocument
    split at hdocument
    . cases hdocument
    . next rest hvalue =>
      split at hdocument
      . next hskip =>
        cases hdocument
        exact ⟨rest, hvalue, hskip⟩
      . cases hdocument
  . cases h

theorem readUnmarked_of_read {τ : Type} [BEq τ] [Wording τ] {v : Json τ}
    (h : read cs room = .ok v) : readUnmarked cs room = .ok v := by
  unfold read at h
  split at h
  . cases h
  . exact h

theorem exists_of_read (h : read cs room = .ok v) :
    ∃ rest, readValue room (2 * cs.length + 2) (skipBlanks cs) = .ok (v, rest)
      ∧ skipBlanks rest = [] :=
  exists_of_readUnmarked (readUnmarked_of_read h)

theorem head_of_read_obj (h : read cs room = .ok (.obj fields)) :
    (skipBlanks cs).head? = some '{' := by
  obtain ⟨rest, hvalue, _⟩ := exists_of_read h
  exact head_of_readValue_obj hvalue

/--
If a document goes on behind an object and can still be read, then it goes on with blanks.
-/
theorem isBlank_of_read_append {tail : List Char} (h : read cs room = .ok (.obj fields))
    (hread : read (cs ++ tail) room = .ok v) : ∀ c ∈ tail, isBlank c := by
  obtain ⟨rest, hvalue, _⟩ := exists_of_read h
  obtain ⟨rest', hvalue', hskip⟩ := exists_of_read hread
  have hhead := head_of_readValue_obj hvalue
  have hne : skipBlanks cs ≠ [] := by
    intro hnil
    rw [hnil] at hhead
    cases hhead
  have hfuel : 2 * cs.length + 2 ≤ 2 * (cs ++ tail).length + 2 := by
    rw [List.length_append]
    omega
  rw [skipBlanks_append hne, readValue_append hvalue hfuel (.inl hhead)] at hvalue'
  cases hvalue'
  intro c hc
  have hdrop := List.dropWhile_eq_nil_iff.1 hskip
  exact hdrop c (List.mem_append_right rest hc)

theorem skipBlanks_between_blanks {pre post : List Char} (hhead : (skipBlanks cs).head? = some '{')
    (hpre : ∀ c ∈ pre, isBlank c) :
    skipBlanks (pre ++ (cs ++ post)) = skipBlanks cs ++ post := by
  have hne : skipBlanks cs ≠ [] := by
    intro hnil
    rw [hnil] at hhead
    cases hhead
  rw [skipBlanks, List.dropWhile_append_of_pos hpre]
  exact skipBlanks_append hne post

theorem head_ne_of_skipBlanks {c d : Char} (h : (skipBlanks cs).head? = some c)
    (hd : isBlank d = false) (hne : d ≠ c) : cs.head? ≠ some d := by
  intro hhead
  obtain ⟨rest, rfl⟩ := List.head?_eq_some_iff.1 hhead
  rw [skipBlanks, List.dropWhile_cons_of_neg (by simp [hd]), List.head?_cons] at h
  exact hne (Option.some.inj h)

/--
Blanks around an object make no difference to what is read.
-/
theorem read_between_blanks {pre post : List Char} (h : read cs room = .ok (.obj fields))
    (hpre : ∀ c ∈ pre, isBlank c) (hpost : ∀ c ∈ post, isBlank c) :
    read (pre ++ (cs ++ post)) room = .ok (.obj fields) := by
  obtain ⟨rest, hvalue, hrest⟩ := exists_of_read h
  have hhead := head_of_readValue_obj hvalue
  have hskip : skipBlanks (pre ++ (cs ++ post)) = skipBlanks cs ++ post :=
    skipBlanks_between_blanks hhead hpre
  have hfuel : 2 * cs.length + 2 ≤ 2 * (pre ++ (cs ++ post)).length + 2 := by
    simp only [List.length_append]
    omega
  have hall := readValue_append hvalue hfuel (.inl hhead) post
  have hend : skipBlanks (rest ++ post) = [] := by
    rw [skipBlanks, List.dropWhile_append_of_pos (List.dropWhile_eq_nil_iff.1 hrest)]
    exact List.dropWhile_eq_nil_iff.2 hpost
  have hmark : (pre ++ (cs ++ post)).head? ≠ some '\uFEFF' := by
    apply head_ne_of_skipBlanks (c := '{') _ (by decide) (by decide)
    rw [hskip, List.head?_append, hhead, Option.some_or]
  unfold read readUnmarked readDocument
  rw [if_neg (by simpa using hmark), hskip, hall]
  dsimp only
  rw [hend]

/--
Reading a document fails where its value cannot be read, or in some other way that is a
malformation.
-/
theorem exists_of_read_error {fault : ReadFault} (h : read cs room = .error fault) :
    (∃ stop, readValue room (2 * cs.length + 2) (skipBlanks cs) = .error stop
        ∧ fault = stop.fault cs)
      ∨ ∃ what before, fault = .malformed what before := by
  unfold read at h
  split at h
  . cases h
    exact .inr ⟨_, _, rfl⟩
  . unfold readUnmarked at h
    split at h
    . cases h
    . next hdocument =>
      cases h
      unfold readDocument at hdocument
      split at hdocument
      . next hvalue =>
        cases hdocument
        exact .inl ⟨_, hvalue, rfl⟩
      . split at hdocument
        . cases hdocument
        . cases hdocument
          exact .inr ⟨_, _, rfl⟩

theorem readValue_of_tooDeep {nest : Nest} (h : read cs room = .error (.tooDeep nest)) :
    readValue room (2 * cs.length + 2) (skipBlanks cs) = .error (.tooDeep nest) := by
  obtain ⟨stop, hvalue, hstop⟩ | ⟨_, _, hmalformed⟩ := exists_of_read_error h
  . cases stop <;> cases hstop
    exact hvalue
  . cases hmalformed

/--
A number that is refused for its length stands in the text, and is longer than the limit.
-/
theorem read_tooLong {n : Nat} (h : read cs room = .error (.tooLong n)) :
    maxIntDigits < n ∧ HasDigits cs n := by
  obtain ⟨stop, hvalue, hstop⟩ | ⟨_, _, hmalformed⟩ := exists_of_read_error h
  . cases stop <;> cases hstop
    have hfits := readValue_fits room (2 * cs.length + 2) (skipBlanks cs)
    rw [hvalue] at hfits
    exact ⟨hfits.1, hfits.2.mono (skipBlanks_suffix cs).isInfix⟩
  . cases hmalformed

/--
A text that is refused for its nesting has more brackets than there is room for.
-/
theorem read_tooDeep {nest : Nest} (h : read cs room = .error (.tooDeep nest)) :
    room < openings cs := by
  have hfits := readValue_fits room (2 * cs.length + 2) (skipBlanks cs)
  rw [readValue_of_tooDeep h] at hfits
  exact Nat.lt_of_lt_of_le hfits (openings_le_of_suffix (skipBlanks_suffix cs))

theorem eq_of_prefix_of_read {cs' : List Char} (h : read cs room = .ok (.obj fields))
    (hread : read cs' room = .ok v) (hfront : cs <+: cs')
    (hlast : ∀ c ∈ cs'.getLast?, isBlank c = false) : cs = cs' := by
  obtain ⟨tail, rfl⟩ := hfront
  have hblank := isBlank_of_read_append h hread
  cases htail : tail.getLast? with
  | none => rw [List.getLast?_eq_none_iff.1 htail, List.append_nil]
  | some c =>
    have hc := hlast c (by simp [htail])
    rw [hblank c (List.mem_of_getLast? htail)] at hc
    cases hc

theorem ne_of_isDigit {c d : Char} (hc : c.isDigit) (hd : d.isDigit = false) : c ≠ d := by
  rintro rfl
  rw [hc] at hd
  cases hd

theorem wholeDigits?_of_isDigit (hdigits : ∀ c ∈ cs, c.isDigit) (hzero : cs.head? ≠ some '0')
    (hne : cs ≠ []) (hrest : ∀ c ∈ rest.head?, c.isDigit = false) :
    wholeDigits? (cs ++ rest) = some (cs, rest) := by
  obtain ⟨c, ds, rfl⟩ := List.exists_cons_of_ne_nil hne
  have hc := hdigits c List.mem_cons_self
  have hds : ∀ d ∈ ds, d.isDigit := fun d hd => hdigits d (List.mem_cons_of_mem c hd)
  have hstop : rest.takeWhile Char.isDigit = [] ∧ rest.dropWhile Char.isDigit = rest := by
    cases rest with
    | nil => exact ⟨rfl, rfl⟩
    | cons d rest => simp [hrest d rfl]
  rw [List.cons_append]
  unfold wholeDigits?
  split
  . next heq =>
    obtain ⟨rfl, _⟩ := List.cons.inj heq
    exact (hzero rfl).elim
  . next heq =>
    obtain ⟨rfl, rfl⟩ := List.cons.inj heq
    rw [if_pos hc, List.takeWhile_append_of_pos hds, List.dropWhile_append_of_pos hds, hstop.1,
      hstop.2, List.append_nil]
  . next heq => cases heq

theorem read_digits (hdigits : ∀ c ∈ cs, c.isDigit) (hzero : cs.head? ≠ some '0')
    (hlong : maxIntDigits < cs.length) : read cs room = .error (.tooLong cs.length) := by
  have hne : cs ≠ [] := by
    rintro rfl
    simp at hlong
  have hwhole : wholeDigits? (cs ++ []) = some (cs, []) :=
    wholeDigits?_of_isDigit hdigits hzero hne nofun
  rw [List.append_nil] at hwhole
  obtain ⟨c, ds, rfl⟩ := List.exists_cons_of_ne_nil hne
  have hc := hdigits c List.mem_cons_self
  have hblank : ¬ isBlank c := by
    simp [isBlank, ne_of_isDigit hc]
  have hnumber : readNumber? (τ := String) false (c :: ds) = some (.error (.tooLong (c :: ds).length)) := by
    rw [readNumber?, hwhole, Option.map_some]
    exact congrArg some (if_pos hlong)
  have hvalue (fuel : Nat) :
      readValue room (fuel + 1) (c :: ds) = .error (.tooLong (c :: ds).length) := by
    rw [readValue_scalar (ne_of_isDigit hc rfl) (ne_of_isDigit hc rfl) (ne_of_isDigit hc rfl),
      readScalar_of_isDigit hc, hnumber, Option.getD_some]
  have hmark : (c == '\uFEFF') = false := by
    simpa using ne_of_isDigit hc (d := '\uFEFF') rfl
  simp [read, readUnmarked, readDocument, Stop.fault, skipBlanks, hblank, hvalue, hmark]

end CodeGauge.Json
