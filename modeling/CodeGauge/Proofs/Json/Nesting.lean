import CodeGauge.Proofs.Json.Document

/-!
This module contains the texts that are refused for their nesting: they start with a bracket, and a
text that goes on behind one of them is refused as well, so none is the front part of a document.
-/

namespace CodeGauge.Json

open Text

variable {cs rest left : List Char} {room fuel fuel' : Nat} {nest : Nest} {stop : Stop}


theorem Fits.ne_nil {α : Type} (h : Fits (α := α) room cs (.error (.tooDeep nest))) : cs ≠ [] := by
  rintro rfl
  exact Nat.not_lt_zero room h

theorem readText_ne_tooDeep {opened : List Char} {found : Wide} {skip : Nat} :
    readText opened found skip cs ≠ .error (.tooDeep nest) := by
  intro h
  have hfits := readText_fits (openings cs) opened found skip cs
  rw [h] at hfits
  exact Nat.lt_irrefl _ hfits

theorem readScalar_ne_tooDeep : readScalar (τ := String) cs ≠ .error (.tooDeep nest) := by
  intro h
  have hfits := readScalar_fits (openings cs) cs
  rw [h] at hfits
  exact Nat.lt_irrefl _ hfits

section Steps

variable {found : List Json} {fields : Fields} {name : String}

theorem readItems_error (h : readValue room fuel cs = .error stop) :
    readItems room (fuel + 1) found cs = .error stop := by
  simp [readItems, h]

theorem readFields_error (hname : readText ('"' :: cs) [] 0 cs = .ok (name, rest))
    (hcolon : skipBlanks rest = ':' :: left)
    (hvalue : readValue room fuel (skipBlanks left) = .error stop) :
    readFields room (fuel + 1) fields ('"' :: cs) = .error stop := by
  simp [readFields, hname, hcolon, hvalue]

theorem ne_nil_of_readValue (h : readValue room fuel cs = .error (.tooDeep nest)) : cs ≠ [] :=
  (h ▸ readValue_fits room fuel cs).ne_nil

theorem ne_nil_of_readItems (h : readItems room fuel found cs = .error (.tooDeep nest)) :
    cs ≠ [] :=
  (h ▸ readItems_fits room fuel found cs).ne_nil

theorem ne_nil_of_readFields (h : readFields room fuel fields cs = .error (.tooDeep nest)) :
    cs ≠ [] :=
  (h ▸ readFields_fits room fuel fields cs).ne_nil

end Steps

mutual

/--
Reading a value stops at the same bracket if the text goes on, with any more fuel.
-/
theorem readValue_append_tooDeep {room fuel fuel' : Nat} {cs : List Char}
    (h : readValue room fuel cs = .error (.tooDeep nest)) (hfuel : fuel ≤ fuel')
    (tail : List Char) : readValue room fuel' (cs ++ tail) = .error (.tooDeep nest) := by
  cases fuel with
  | zero => cases h
  | succ fuel =>
    obtain ⟨fuel', rfl⟩ := Nat.exists_eq_add_of_le' (Nat.le_of_add_left_le hfuel)
    have hfuel := Nat.le_of_add_le_add_right hfuel
    unfold readValue at h
    split at h
    . split at h
      . next htext =>
        cases h
        exact (readText_ne_tooDeep htext).elim
      . cases h
    . next cs =>
      split at h
      . cases h
        rfl
      . split at h
        . cases h
        . next hclose =>
          obtain ⟨c, left, hskip, hc⟩ := exists_of_not_close (ne_nil_of_readItems h) hclose
          have hitems := readItems_append_tooDeep h hfuel tail
          rw [hskip] at hitems
          rw [← hitems]
          exact readValue_array (skipBlanks_append_of_eq_cons hskip tail) hc
    . next cs =>
      split at h
      . cases h
        rfl
      . split at h
        . cases h
        . next hclose =>
          obtain ⟨c, left, hskip, hc⟩ := exists_of_not_close (ne_nil_of_readFields h) hclose
          have hfields := readFields_append_tooDeep h hfuel tail
          rw [hskip] at hfields
          rw [← hfields]
          exact readValue_object (skipBlanks_append_of_eq_cons hskip tail) hc
    . exact (readScalar_ne_tooDeep h).elim

theorem readItems_append_tooDeep {room fuel fuel' : Nat} {found : List Json} {cs : List Char}
    (h : readItems room fuel found cs = .error (.tooDeep nest)) (hfuel : fuel ≤ fuel')
    (tail : List Char) : readItems room fuel' found (cs ++ tail) = .error (.tooDeep nest) := by
  cases fuel with
  | zero => cases h
  | succ fuel =>
    obtain ⟨fuel', rfl⟩ := Nat.exists_eq_add_of_le' (Nat.le_of_add_left_le hfuel)
    have hfuel := Nat.le_of_add_le_add_right hfuel
    unfold readItems at h
    split at h
    . next hvalue =>
      cases h
      exact readItems_error (readValue_append_tooDeep hvalue hfuel tail)
    . next hvalue =>
      split at h
      . cases h
      . next left hskip =>
        have hends := endsNumber_of_skipBlanks hskip (by simp)
        have hvalue := readValue_append hvalue hfuel (.inr hends) tail
        rw [readItems_comma hvalue (skipBlanks_append_of_eq_cons hskip tail),
          skipBlanks_append (ne_nil_of_readItems h)]
        exact readItems_append_tooDeep h hfuel tail
      . cases h

theorem readFields_append_tooDeep {room fuel fuel' : Nat} {found : Fields} {cs : List Char}
    (h : readFields room fuel found cs = .error (.tooDeep nest)) (hfuel : fuel ≤ fuel')
    (tail : List Char) : readFields room fuel' found (cs ++ tail) = .error (.tooDeep nest) := by
  cases fuel with
  | zero => cases h
  | succ fuel =>
    obtain ⟨fuel', rfl⟩ := Nat.exists_eq_add_of_le' (Nat.le_of_add_left_le hfuel)
    have hfuel := Nat.le_of_add_le_add_right hfuel
    unfold readFields at h
    split at h
    . next cs =>
      split at h
      . next htext =>
        cases h
        exact (readText_ne_tooDeep htext).elim
      . next hname =>
        have hname := readText_append hname ('"' :: (cs ++ tail)) tail
        split at h
        . next left hcolon =>
          have hcolon := skipBlanks_append_of_eq_cons hcolon tail
          split at h
          . next hvalue =>
            cases h
            have hleft := skipBlanks_append (ne_nil_of_readValue hvalue) tail
            have hvalue := readValue_append_tooDeep hvalue hfuel tail
            rw [← hleft] at hvalue
            exact readFields_error hname hcolon hvalue
          . next hvalue =>
            have hleft : skipBlanks left ≠ [] := by
              intro hnil
              rw [hnil] at hvalue
              exact readValue_nil _ _ _ hvalue
            dsimp only at h
            split at h
            . cases h
            . next last hskip =>
              have hends := endsNumber_of_skipBlanks hskip (by simp)
              have hvalue := readValue_append hvalue hfuel (.inr hends) tail
              rw [← skipBlanks_append hleft] at hvalue
              have hskip := skipBlanks_append_of_eq_cons hskip tail
              rw [List.cons_append, readFields_comma hname hcolon hvalue hskip,
                skipBlanks_append (ne_nil_of_readFields h)]
              exact readFields_append_tooDeep h hfuel tail
            . cases h
        . cases h
    . cases h

end

/--
No front part of a document is refused for its nesting.
-/
theorem read_ne_tooDeep_of_prefix {cs' : List Char} {v : Json} (h : read cs' room = .ok v)
    (hfront : cs <+: cs') : read cs room ≠ .error (.tooDeep nest) := by
  intro hdeep
  obtain ⟨tail, rfl⟩ := hfront
  have hvalue := readValue_of_tooDeep hdeep
  have hskip := skipBlanks_append (ne_nil_of_readValue hvalue) tail
  have hfuel : 2 * cs.length + 2 ≤ 2 * (cs ++ tail).length + 2 := by
    rw [List.length_append]
    omega
  obtain ⟨rest, hread, _⟩ := exists_of_read h
  rw [hskip, readValue_append_tooDeep hvalue hfuel] at hread
  cases hread

theorem head_of_readValue_tooDeep (h : readValue room fuel cs = .error (.tooDeep nest)) :
    cs.head? = some '[' ∨ cs.head? = some '{' := by
  unfold readValue at h
  split at h
  . cases h
  . split at h
    . split at h
      . next htext =>
        cases h
        exact (readText_ne_tooDeep htext).elim
      . cases h
    . exact .inl rfl
    . exact .inr rfl
    . exact (readScalar_ne_tooDeep h).elim

theorem head_of_read_tooDeep (h : read cs room = .error (.tooDeep nest)) :
    (skipBlanks cs).head? = some '[' ∨ (skipBlanks cs).head? = some '{' :=
  head_of_readValue_tooDeep (readValue_of_tooDeep h)

theorem readValue_brackets (room : Nat) (hfuel : 2 * room < fuel) (tail : List Char) :
    readValue room fuel (List.replicate (room + 1) '[' ++ tail) = .error (.tooDeep .array) := by
  induction room generalizing fuel with
  | zero =>
    obtain ⟨fuel, rfl⟩ := Nat.exists_eq_add_one_of_ne_zero (Nat.ne_zero_of_lt hfuel)
    rfl
  | succ room ih =>
    obtain ⟨fuel, rfl⟩ := Nat.exists_eq_add_of_le' (show 2 ≤ fuel by omega)
    have hskip : skipBlanks (List.replicate (room + 1) '[' ++ tail)
        = '[' :: (List.replicate room '[' ++ tail) := by
      rfl
    have hroom : 2 * room < fuel := by omega
    rw [List.replicate_succ, List.cons_append, readValue_array hskip (by decide)]
    exact readItems_error (ih hroom)

/--
Brackets in a row are refused for their nesting if there are more of them than there is room for.
-/
theorem read_brackets {n : Nat} (hroom : room < n) (tail : List Char) :
    read (List.replicate n '[' ++ tail) room = .error (.tooDeep .array) := by
  obtain ⟨more, rfl⟩ := Nat.exists_eq_add_of_le hroom
  rw [List.replicate_add, List.append_assoc]
  generalize List.replicate more '[' ++ tail = rest
  have hlength : 2 * room < 2 * (List.replicate (room + 1) '[' ++ rest).length + 2 := by
    simp only [List.length_append, List.length_replicate]
    omega
  have hvalue := readValue_brackets room hlength rest
  have hskip : skipBlanks (List.replicate (room + 1) '[' ++ rest)
      = List.replicate (room + 1) '[' ++ rest := by
    rfl
  unfold read readUnmarked readDocument
  rw [if_neg (by simp [List.replicate_succ]), hskip, hvalue]
  rfl

end CodeGauge.Json
