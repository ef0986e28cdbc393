import CodeGauge.Text.Blank
import CodeGauge.Text.Case
import CodeGauge.Text.Word
import Mathlib.Data.List.Forall2

/-!
This module contains characters and texts that are the same up to the case of ASCII letters, and the
classes of characters that do not tell them apart.
-/

namespace CodeGauge.Text

open List (Forall₂)


/--
Two characters that are the same up to the case of ASCII letters.
-/
def SameLetter (c c' : Char) : Prop :=
  c.toLower = c'.toLower

instance : DecidableRel SameLetter :=
  fun c c' => inferInstanceAs (Decidable (c.toLower = c'.toLower))

/--
A class of characters that takes no notice of the case of ASCII letters.
-/
def Caseless (p : Char → Bool) : Prop :=
  ∀ c c', SameLetter c c' → p c = p c'

theorem toNat_of_isAlpha {c : Char} (h : c.isAlpha) :
    (65 ≤ c.toNat ∧ c.toNat ≤ 90) ∨ (97 ≤ c.toNat ∧ c.toNat ≤ 122) := by
  delta Char.isAlpha Char.isUpper Char.isLower at h
  simpa [UInt32.le_iff_toNat_le] using h

namespace SameLetter

variable {c c' d : Char}

theorem eq_or_isAlpha (h : SameLetter c c') : c = c' ∨ c.isAlpha ∧ c'.isAlpha := by
  unfold SameLetter Char.toLower at h
  delta Char.isAlpha Char.isUpper Char.isLower
  simp only [Bool.or_eq_true, Bool.and_eq_true, decide_eq_true_eq, Char.ext_iff] at *
  grind

theorem lowerChar_eq (h : SameLetter c c') : lowerChar c = lowerChar c' := by
  cases h.eq_or_isAlpha with
  | inl heq => rw [heq]
  | inr hletters =>
    have := toNat_of_isAlpha hletters.1
    have := toNat_of_isAlpha hletters.2
    unfold lowerChar
    rw [if_pos (by omega), if_pos (by omega)]
    exact h

end SameLetter

namespace Caseless

variable {p q : Char → Bool}

/--
It is enough to look at the letters, if all of them are in the class or none is.
-/
theorem of_isAlpha (b : Bool) (h : ∀ c, c.isAlpha → p c = b) : Caseless p := by
  intro c c' hsame
  cases hsame.eq_or_isAlpha with
  | inl heq => rw [heq]
  | inr hletters => rw [h c hletters.1, h c' hletters.2]

theorem or (hp : Caseless p) (hq : Caseless q) : Caseless fun c => p c || q c := by
  intro c c' h
  dsimp only
  rw [hp c c' h, hq c c' h]

theorem isBlank : Caseless isBlank := by
  apply of_isAlpha false
  intro c hc
  have := toNat_of_isAlpha hc
  simp only [Text.isBlank, isSpace, Bool.or_eq_false_iff, Bool.and_eq_false_iff,
    decide_eq_false_iff_not, beq_eq_false_iff_ne]
  omega

theorem isWord : Caseless isWord := by
  apply of_isAlpha true
  intro c hc
  have := toNat_of_isAlpha hc
  apply isWord_of_isAlphanum
  . simp [Char.isAlphanum, hc]
  . omega

theorem beq {d : Char} (hd : d.isAlpha = false) : Caseless (· == d) := by
  apply of_isAlpha false
  intro c hc
  rw [beq_eq_false_iff_ne]
  rintro rfl
  rw [hd] at hc
  cases hc

theorem not_contains {cs : List Char} (h : ∀ d ∈ cs, d.isAlpha = false) :
    Caseless fun c => !cs.contains c := by
  apply of_isAlpha true
  intro c hc
  simp only [Bool.not_eq_true', List.contains_eq_mem, decide_eq_false_iff_not]
  intro hmem
  rw [h c hmem] at hc
  cases hc

theorem isFormOf (letter : Char) : Caseless (isFormOf letter) := by
  intro c c' h
  have hlong : (c == 'ſ') = (c' == 'ſ') := beq (by decide) c c' h
  have hdotless : (c == 'ı') = (c' == 'ı') := beq (by decide) c c' h
  unfold Text.isFormOf
  rw [h.lowerChar_eq, hlong, hdotless]

theorem isLetterForm : Caseless isLetterForm := by
  intro c c' h
  have hlong : (c == 'ſ') = (c' == 'ſ') := beq (by decide) c c' h
  have hdotless : (c == 'ı') = (c' == 'ı') := beq (by decide) c c' h
  unfold Text.isLetterForm
  rw [h.lowerChar_eq, hlong, hdotless]

theorem casePassedOver : Caseless casePassedOver.contains := by
  have hletters : ∀ n < 128, (Char.ofNat n).isAlpha
      → Text.casePassedOver.contains (Char.ofNat n) = false := by
    decide +kernel
  apply of_isAlpha false
  intro c hc
  have := toNat_of_isAlpha hc
  rw [← Char.ofNat_toNat c] at hc ⊢
  exact hletters c.toNat (by omega) hc

theorem casedRanges : Caseless casedRanges.contains := by
  have hletters : ∀ n < 128, (Char.ofNat n).isAlpha
      → Text.casedRanges.contains (Char.ofNat n) = true := by
    decide +kernel
  apply of_isAlpha true
  intro c hc
  have := toNat_of_isAlpha hc
  rw [← Char.ofNat_toNat c] at hc ⊢
  exact hletters c.toNat (by omega) hc

end Caseless

variable {cs cs' before before' : List Char}

theorem dropWhile_sameLetter {p : Char → Bool} (hp : Caseless p) (h : Forall₂ SameLetter cs cs') :
    Forall₂ SameLetter (cs.dropWhile p) (cs'.dropWhile p) := by
  induction h with
  | nil => exact .nil
  | @cons c c' cs cs' hc hcs ih =>
    rw [List.dropWhile_cons, List.dropWhile_cons, hp c c' hc]
    split
    . exact ih
    . exact .cons hc hcs

theorem nextToCased_eq (h : Forall₂ SameLetter cs cs') : nextToCased cs = nextToCased cs' := by
  have hdrop := dropWhile_sameLetter Caseless.casePassedOver h
  unfold nextToCased
  generalize cs.dropWhile casePassedOver.contains = ds at hdrop
  generalize cs'.dropWhile casePassedOver.contains = ds' at hdrop
  cases hdrop with
  | nil => rfl
  | cons hc _ => exact Caseless.casedRanges _ _ hc

/--
Texts that are the same up to the case of ASCII letters are the same in lower case. The form of a
sigma depends on the letters beside it, but not on their case.
-/
theorem lowerChars_eq (hbefore : Forall₂ SameLetter before before')
    (h : Forall₂ SameLetter cs cs') :
    lowerChars before cs = lowerChars before' cs' := by
  induction h generalizing before before' with
  | nil => rfl
  | @cons c c' cs cs' hc hcs ih =>
    have hdotted : (c == 'İ') = (c' == 'İ') := Caseless.beq (by decide) c c' hc
    have hsigma : (c == 'Σ') = (c' == 'Σ') := Caseless.beq (by decide) c c' hc
    unfold lowerChars
    rw [ih (.cons hc hbefore), hdotted, hsigma, hc.lowerChar_eq, nextToCased_eq hbefore,
      nextToCased_eq hcs]

end CodeGauge.Text
