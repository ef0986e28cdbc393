import CodeGauge.Label
import CodeGauge.Verdict

/-!
This module contains the form of labels: in a raised one no exponent is left behind a caret.
-/

namespace CodeGauge

open Text

namespace Label

variable {cs l : List Char} {c : Char}


/--
Whether no caret of a text has a word character right behind it.
-/
def IsRaised (cs : List Char) : Prop :=
  ∀ c, ['^', c] <:+: cs → isWord c = false

theorem isRaised_nil : IsRaised [] := by
  intro c h
  simp at h

theorem isRaised_cons_iff :
    IsRaised (c :: cs) ↔ (c = '^' → ∀ d ∈ cs.head?, isWord d = false) ∧ IsRaised cs := by
  unfold IsRaised
  simp only [List.infix_cons_iff, List.cons_prefix_cons]
  constructor
  . intro h
    refine ⟨?_, fun d hd => h d (.inr hd)⟩
    rintro rfl d hd
    obtain ⟨rest, rfl⟩ := List.head?_eq_some_iff.1 hd
    exact h d (.inl ⟨rfl, by simp⟩)
  . rintro ⟨hcaret, hrest⟩ d (⟨rfl, hd⟩ | hd)
    . apply hcaret rfl
      obtain ⟨rest, rfl⟩ := hd
      rfl
    . exact hrest d hd

theorem isRaised_append (hl : '^' ∉ l) (hcs : IsRaised cs) : IsRaised (l ++ cs) := by
  induction l with
  | nil => exact hcs
  | cons c l ih =>
    rw [List.mem_cons, not_or] at hl
    rw [List.cons_append, isRaised_cons_iff]
    refine ⟨?_, ih hl.2⟩
    rintro rfl
    exact (hl.1 rfl).elim

theorem head?_raise (cs : List Char) :
    ∀ d ∈ (raise false cs).head?, isWord d → cs.head? = some d := by
  cases cs with
  | nil => nofun
  | cons c cs =>
    intro d hd hword
    simp only [raise, Bool.false_and, Bool.false_eq_true, ↓reduceIte, List.nil_append] at hd
    split at hd
    . cases hd
      cases hword
    . exact hd

theorem isRaised_raise (inWord : Bool) (cs : List Char) : IsRaised (raise inWord cs) := by
  induction cs generalizing inWord with
  | nil =>
    unfold raise
    split
    . exact isRaised_append (l := closeTag) (by decide) isRaised_nil
    . exact isRaised_nil
  | cons c cs ih =>
    unfold raise
    split
    . next hword =>
      rw [isRaised_cons_iff]
      refine ⟨?_, ih true⟩
      rintro rfl
      rw [Bool.and_eq_true] at hword
      exact absurd hword.2 (by decide)
    . apply isRaised_append
      . split <;> decide
      . split
        . exact isRaised_append (l := openTag) (by decide) (ih true)
        . next hcaret =>
          rw [isRaised_cons_iff]
          refine ⟨?_, ih false⟩
          rintro rfl d hd
          -- The caret stays only if no word follows it, and what follows it stays in front.
          rw [Bool.eq_false_iff]
          intro hword
          have hnext := head?_raise cs d hd hword
          apply hcaret
          simp [hnext, hword]

theorem isRaised_superscript (label : String) : IsRaised (superscript label).toList := by
  rw [superscript, String.toList_ofList]
  apply isRaised_raise

end Label

namespace Verdict

/--
Whether both labels of a verdict are raised.
-/
def IsRaised (v : Verdict) : Prop :=
  Label.IsRaised v.timeLabel.toList ∧ Label.IsRaised v.spaceLabel.toList

theorem isRaised_ofText (text : String) : (ofText text).IsRaised := by
  constructor <;> apply Label.isRaised_superscript

end Verdict
end CodeGauge
