import CodeGauge.Number.Numeral
import CodeGauge.Proofs.Text.Blank

/-!
This module contains the whole numbers that are read from plain texts, in which each character
stands for itself.
-/

namespace CodeGauge.Numeral

open Text

variable {c : Char} {cs : List Char} {s : String}


theorem ofDigits_eq (cs : List Char) :
    ofDigits (cs.map fun c => c.toNat - '0'.toNat) = Nat.ofDigitChars 10 cs 0 := by
  rw [ofDigits, List.foldl_map, Nat.ofDigitChars_eq_foldl]

/--
Whether a character stands for itself in a numeral: it is no white space, sign or underscore, and no
digit of another script.
-/
def isPlain (c : Char) : Bool :=
  !isSpace c && c != '-' && c != '+' && c != '_' && (c.isDigit || (digitValue? c).isNone)

theorem isPlain_of_isDigit (h : c.isDigit) : isPlain c := by
  have hcodes : ∀ n ∈ List.range' 48 10, isPlain (.ofNat n) := by decide +kernel
  rw [Char.isDigit_iff_toNat] at h
  change 48 ≤ c.toNat ∧ c.toNat ≤ 57 at h
  rw [← Char.ofNat_toNat c]
  apply hcodes
  rw [List.mem_range'_1]
  omega

theorem digitValue?_of_isDigit (h : c.isDigit) : digitValue? c = some (c.toNat - '0'.toNat) := by
  simp only [Char.isDigit, Bool.and_eq_true, decide_eq_true_eq] at h
  exact if_pos h

theorem ofNat_digitValue (h : c.isDigit) : Char.ofNat ('0'.toNat + (c.toNat - '0'.toNat)) = c := by
  rw [Char.isDigit_iff_toNat] at h
  rw [Nat.add_sub_cancel' h.1, Char.ofNat_toNat]

theorem normalize_of_isPlain (h : ∀ c ∈ cs, isPlain c) : normalize cs = cs := by
  unfold normalize
  apply (List.map_congr_left _).trans (List.map_id cs)
  intro c hc
  have hplain := h c hc
  simp only [isPlain, Bool.and_eq_true, Bool.or_eq_true] at hplain
  cases hplain.2 with
  | inl hdigit =>
    rw [digitValue?_of_isDigit hdigit]
    apply ofNat_digitValue hdigit
  | inr hnone =>
    rw [Option.isNone_iff_eq_none.1 hnone]
    rfl

theorem strip_of_isPlain (h : ∀ c ∈ cs, isPlain c) : strip isSpace cs = cs := by
  have hspace : ∀ c ∈ cs, isSpace c = false := by
    intro c hc
    have hplain := h c hc
    simp only [isPlain, Bool.and_eq_true, Bool.not_eq_true'] at hplain
    exact hplain.1.1.1.1
  apply strip_eq_self
  . intro c hc
    exact hspace c (List.mem_of_head? hc)
  . intro c hc
    exact hspace c (List.mem_of_getLast? hc)

theorem sign_of_isPlain (h : ∀ c ∈ cs, isPlain c) : sign cs = (false, cs) := by
  unfold sign
  split
  . exact absurd (h '-' List.mem_cons_self) (by decide)
  . exact absurd (h '+' List.mem_cons_self) (by decide)
  . rfl

theorem ungroup?_go_of_isPlain (h : ∀ c ∈ cs, isPlain c) (afterDigit : Bool) :
    ungroup?.go afterDigit cs = some cs := by
  induction cs generalizing afterDigit with
  | nil => rfl
  | cons c cs ih =>
    rw [List.forall_mem_cons] at h
    have hc : c ≠ '_' := by
      rintro rfl
      exact absurd h.1 (by decide)
    rw [ungroup?.go]
    . simp [hc, ih h.2]
    . rintro _ _ rfl
      exact fun _ => hc rfl

theorem int_of_isPlain (h : ∀ c ∈ s.toList, isPlain c) :
    int s
      =
    match asciiDigits? s.toList with
    | none => .error .malformed
    | some digits =>
      if digits.length > maxIntDigits then .error (.tooLong digits.length)
      else .ok (ofDigits digits) := by
  unfold int ungroup?
  rw [normalize_of_isPlain h, strip_of_isPlain h, sign_of_isPlain h]
  dsimp only
  rw [ungroup?_go_of_isPlain h, Option.bind_some]
  rfl

/--
A plain text is read as a number if and only if it is a run of digits that is not too long.
-/
theorem int_eq_ok_iff (h : ∀ c ∈ s.toList, isPlain c) {i : Int} :
    int s = .ok i
      ↔
    s.toList ≠ [] ∧ (∀ c ∈ s.toList, c.isDigit) ∧ s.toList.length ≤ maxIntDigits
      ∧ Nat.ofDigitChars 10 s.toList 0 = i := by
  rw [int_of_isPlain h]
  unfold asciiDigits?
  by_cases hdigits : s.toList ≠ [] ∧ ∀ c ∈ s.toList, c.isDigit
  . have hall : (!s.toList.isEmpty && s.toList.all Char.isDigit) = true := by
      simpa using hdigits
    rw [if_pos hall]
    dsimp only
    rw [ofDigits_eq, List.length_map]
    split
    . next hlong => simp [Nat.not_le.2 hlong]
    . next hshort =>
      rw [Except.ok.injEq]
      constructor
      . rintro rfl
        exact ⟨hdigits.1, hdigits.2, Nat.not_lt.1 hshort, rfl⟩
      . rintro ⟨_, _, _, hvalue⟩
        exact hvalue
  . have hnone : ¬ (!s.toList.isEmpty && s.toList.all Char.isDigit) = true := by
      simpa using hdigits
    rw [if_neg hnone]
    simp only [reduceCtorEq, false_iff]
    rintro ⟨hne, hall, _⟩
    exact hdigits ⟨hne, hall⟩

end CodeGauge.Numeral
