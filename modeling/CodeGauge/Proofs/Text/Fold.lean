import CodeGauge.Proofs.Text.Blank
import CodeGauge.Proofs.Text.Case

/-!
This module contains the lower case letter that a character stands for where letter case is ignored.
Two characters outside ASCII have a lower case inside it, and two more count as forms of an ASCII
letter. Apart from these, what stands for an ASCII character is in ASCII itself.
-/

namespace CodeGauge.Text

variable {α : Type} {c d letter : Char}


section

variable {p : Char → Prop} [DecidablePred p]

/--
The characters of a list are tested one by one, not all the characters that there are.
-/
instance decidableForallMem (cs : List Char) : Decidable (∀ c ∈ cs, p c) :=
  List.decidableBAll p cs

instance decidableForallMemOption (c? : Option Char) : Decidable (∀ c ∈ c?, p c) :=
  c?.decidableForallMem

instance decidableExistsMemOption (c? : Option Char) : Decidable (∃ c ∈ c?, p c) :=
  c?.decidableExistsMem

end

/--
Whether all ranges of a table pass a test of their ends and their value.
-/
def Ranges.all (test : Nat → Nat → α → Bool) : Ranges α → Bool
  | .empty => true
  | .node left lo hi value right => left.all test && test lo hi value && right.all test

theorem Ranges.of_find? {test : Nat → Nat → α → Bool} {ranges : Ranges α} {n lo : Nat} {value : α}
    (hall : ranges.all test) (h : ranges.find? n = some (lo, value)) :
    ∃ hi, lo ≤ n ∧ n ≤ hi ∧ test lo hi value := by
  induction ranges with
  | empty => cases h
  | node left lo' hi value' right ihl ihr =>
    simp only [all, Bool.and_eq_true] at hall
    unfold find? at h
    split at h
    . exact ihl hall.1.1 h
    . split at h
      . exact ihr hall.2 h
      . cases h
        exact ⟨hi, by omega, by omega, hall.1.2⟩

/--
The character that a character stands for where letter case does not count.
-/
def fold (c : Char) : Char :=
  if c == 'ſ' then 's' else if c == 'ı' then 'i' else lowerChar c

/--
Whether the code points of a range, moved by a step, are those of characters outside ASCII.
-/
def CaseShift.leavesAscii (lo hi : Nat) (step : CaseShift) : Bool :=
  (128 ≤ lo + step.delta && hi + step.delta < 0xd800)
    || (0xe000 ≤ lo + step.delta && hi + step.delta < 0x110000)

theorem le_toNat_ofNat {n : Nat} (hle : 128 ≤ n) (h : n < 0xd800 ∨ 0xe000 ≤ n ∧ n < 0x110000) :
    128 ≤ (Char.ofNat n).toNat := by
  have hvalid : n.isValidChar := by
    unfold Nat.isValidChar
    omega
  unfold Char.ofNat
  rw [dif_pos hvalid]
  exact hle

/--
Only the dotted capital I and the sign of the kelvin come into ASCII by their lower case.
-/
theorem le_lowerChar (hc : 128 ≤ c.toNat) :
    128 ≤ (lowerChar c).toNat ∨ c.toNat = 0x130 ∨ c.toNat = 0x212a := by
  have hall : lowerShifts.all (fun lo hi step =>
      step.leavesAscii lo hi || lo == hi && (lo == 0x130 || lo == 0x212a)) := by
    decide +kernel
  unfold lowerChar shift
  rw [if_neg (by omega)]
  split
  . next lo step hfind =>
    obtain ⟨hi, hlo, hhi, htest⟩ := Ranges.of_find? hall hfind
    split
    . simp only [CaseShift.leavesAscii, Bool.or_eq_true, Bool.and_eq_true, decide_eq_true_eq,
        beq_iff_eq] at htest
      rcases htest with hmoved | ⟨rfl, hsingle⟩
      . left
        apply le_toNat_ofNat
        all_goals omega
      . right
        omega
    . exact .inl hc
  . exact .inl hc

/--
The code points of the characters that stand for ASCII characters.
-/
def foldedCodes : List Nat :=
  List.range 128 ++ [0x130, 0x131, 0x17f, 0x212a]

theorem toNat_mem_foldedCodes (h : (fold c).toNat < 128) : c.toNat ∈ foldedCodes := by
  simp only [foldedCodes, List.mem_append, List.mem_range, List.mem_cons, List.not_mem_nil,
    or_false]
  unfold fold at h
  split at h
  . next hlong =>
    rw [beq_iff_eq.1 hlong]
    decide
  . split at h
    . next hdotless =>
      rw [beq_iff_eq.1 hdotless]
      decide
    . by_cases hc : c.toNat < 128
      . exact .inl hc
      . have := le_lowerChar (c := c) (by omega)
        omega

/--
What stands for an ASCII character is that character, or both are letters.
-/
theorem eq_or_isLower_of_fold (h : (fold c).toNat < 128) :
    c = fold c ∨ (fold c).isLower ∧ isWord c := by
  have hcodes : ∀ n ∈ foldedCodes, Char.ofNat n = fold (.ofNat n)
      ∨ (fold (.ofNat n)).isLower ∧ isWord (.ofNat n) := by
    decide +kernel
  rw [← Char.ofNat_toNat c]
  exact hcodes _ (toNat_mem_foldedCodes h)

theorem isWord_eq_of_fold (h : fold c = letter) (hletter : letter.toNat < 128) :
    isWord c = isWord letter := by
  subst h
  rcases eq_or_isLower_of_fold hletter with heq | ⟨hlower, hword⟩
  . rw [← heq]
  . have : isWord (fold c) := by
      apply isWord_of_isAlphanum _ hletter
      delta Char.isAlphanum Char.isAlpha
      simp [hlower]
    rw [hword, this]

theorem eq_of_fold (h : fold c = letter) (hletter : letter.toNat < 128)
    (hlower : letter.isLower = false) : c = letter := by
  subst h
  rcases eq_or_isLower_of_fold hletter with heq | ⟨hlower', _⟩
  . exact heq
  . rw [hlower] at hlower'
    cases hlower'

theorem any_isWord_of_fold {c? : Option Char} (h : c?.map fold = some letter)
    (hletter : letter.toNat < 128) : c?.any isWord = isWord letter := by
  obtain ⟨c, rfl, hfold⟩ := Option.map_eq_some_iff.1 h
  exact isWord_eq_of_fold hfold hletter

theorem eq_of_map_fold {cs letters : List Char} (h : cs.map fold = letters)
    (hletters : ∀ letter ∈ letters, letter.toNat < 128 ∧ letter.isLower = false) :
    cs = letters := by
  subst h
  apply List.ext_getElem (by simp)
  intro n hn hn'
  have hletter := hletters (fold cs[n]) (List.mem_map_of_mem (List.getElem_mem hn))
  rw [List.getElem_map]
  exact eq_of_fold rfl hletter.1 hletter.2

theorem isFormOf_iff (hletter : letter.toNat < 128) : isFormOf letter c ↔ fold c = letter := by
  have hlong : lowerChar 'ſ' = 'ſ' := by decide +kernel
  have hdotless : lowerChar 'ı' = 'ı' := by decide +kernel
  have hne {d : Char} (hd : 128 ≤ d.toNat) : (d == letter) = false := by
    rw [beq_eq_false_iff_ne]
    rintro rfl
    omega
  unfold isFormOf fold
  split
  . next h =>
    rw [beq_iff_eq.1 h, hlong, hne (by decide)]
    simp [@eq_comm _ letter]
  . split
    . next h =>
      rw [beq_iff_eq.1 h, hdotless, hne (by decide)]
      simp [@eq_comm _ letter]
    . simp_all

theorem fold_of_lowerChar (h : (lowerChar c).toNat < 128) : fold c = lowerChar c := by
  have hlong : ¬ (lowerChar 'ſ').toNat < 128 := by decide +kernel
  have hdotless : ¬ (lowerChar 'ı').toNat < 128 := by decide +kernel
  have hc : c ≠ 'ſ' ∧ c ≠ 'ı' := by
    constructor
    . rintro rfl
      exact hlong h
    . rintro rfl
      exact hdotless h
  simp [fold, hc]

/--
A character whose lower case depends on others, or has two characters, comes to no lower case in
ASCII.
-/
theorem lowerChars_cons {before cs : List Char}
    (h : ∀ letter ∈ lowerChars before (c :: cs), letter.toNat < 128) :
    lowerChars before (c :: cs) = lowerChar c :: lowerChars (c :: before) cs := by
  rw [lowerChars] at h ⊢
  split
  . next hdotted =>
    rw [if_pos hdotted] at h
    exact absurd (h '\u0307' (by simp)) (by decide)
  . next hdotted =>
    rw [if_neg hdotted] at h
    split
    . next hsigma =>
      rw [if_pos hsigma, List.forall_mem_cons] at h
      have hfirst := h.1
      split at hfirst
      . exact absurd hfirst (by decide)
      . exact absurd hfirst (by decide)
    . rfl

/--
A text that is in ASCII in lower case stands for that lower case.
-/
theorem map_fold_of_lowerChars {before cs : List Char}
    (h : ∀ letter ∈ lowerChars before cs, letter.toNat < 128) :
    cs.map fold = lowerChars before cs := by
  induction cs generalizing before with
  | nil => rfl
  | cons c cs ih =>
    have hcons := lowerChars_cons h
    rw [hcons, List.forall_mem_cons] at h
    rw [hcons, List.map_cons, fold_of_lowerChar h.1, ih h.2]

theorem isWord_of_isLetterForm (h : isLetterForm c) : isWord c := by
  simp only [isLetterForm, Bool.or_eq_true, beq_iff_eq] at h
  by_cases hlong : c = 'ſ'
  . rw [hlong]
    decide +kernel
  by_cases hdotless : c = 'ı'
  . rw [hdotless]
    decide +kernel
  have hlower : (fold c).isLower := by
    simpa [fold, hlong, hdotless] using h
  have halpha : (fold c).isAlpha := by
    delta Char.isAlpha
    simp [hlower]
  have hascii : (fold c).toNat < 128 := by
    have := toNat_of_isAlpha halpha
    omega
  rw [isWord_eq_of_fold rfl hascii]
  exact isWord_of_isAlphanum (by simp [Char.isAlphanum, halpha]) hascii

end CodeGauge.Text
