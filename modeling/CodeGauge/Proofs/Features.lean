import CodeGauge.Proofs.Signal.Case
import CodeGauge.Proofs.Signal.Trim
import CodeGauge.Verdict

/-!
This module contains changes to a text that leave its features, and so the verdict on it, as they
are: letter case, and blanks at its ends.
-/

namespace CodeGauge

open List (Forall₂)
open Text

variable {t t' : String}


theorem Features.time_eq_of_eq {f g : Features}
    (h : { f with allocations := 0 } = { g with allocations := 0 }) : f.time = g.time := by
  have htime (f : Features) : f.time = { f with allocations := 0 }.time := by
    rfl
  rw [htime f, htime g, h]

/--
The case of ASCII letters makes no difference to any feature but the number of allocations, which
has no part in the class of time.
-/
theorem Features.ofText_sameLetter (h : Forall₂ SameLetter t.toList t'.toList) :
    { Features.ofText t with allocations := 0 } = { Features.ofText t' with allocations := 0 }
      ∧ (Features.ofText t).time = (Features.ofText t').time := by
  have hfields : { Features.ofText t with allocations := 0 }
      = { Features.ofText t' with allocations := 0 } := by
    dsimp only [Features.ofText]
    rw [Pattern.count_sameLetter Signal.ignoresCase_loop h,
      Pattern.count_sameLetter Signal.ignoresCase_nestedLoop h,
      Signal.recursionCount_sameLetter h,
      Pattern.count_sameLetter Signal.ignoresCase_sortCall h,
      Pattern.count_sameLetter Signal.ignoresCase_logCall h,
      Pattern.count_sameLetter Signal.ignoresCase_array h,
      Pattern.count_sameLetter Signal.ignoresCase_map h,
      Pattern.count_sameLetter Signal.ignoresCase_set h,
      Signal.halvesRange_sameLetter h]
  exact ⟨hfields, time_eq_of_eq hfields⟩

theorem Features.ofText_sameLetter_upper_case :
    Forall₂ SameLetter "for (x) new Map()".toList "FOR (X) NEW MAP()".toList
      ∧ { Features.ofText "for (x) new Map()" with allocations := 0 }
          = { Features.ofText "FOR (X) NEW MAP()" with allocations := 0 }
      ∧ (Features.ofText "for (x) new Map()").time
        = (Features.ofText "FOR (X) NEW MAP()").time := by
  have h : Forall₂ SameLetter "for (x) new Map()".toList "FOR (X) NEW MAP()".toList := by
    decide
  exact ⟨h, ofText_sameLetter h⟩

theorem Features.ofText_between_blanks {l r : List Char} (ht : t.toList = l ++ (t'.toList ++ r))
    (hl : ∀ d ∈ l, isBlank d) (hr : ∀ d ∈ r, isBlank d) : ofText t = ofText t' := by
  unfold ofText
  dsimp only
  rw [ht, Signal.count_between_blanks Signal.trims_loop (by decide) hl hr,
    Signal.count_between_blanks Signal.trims_nestedLoop (by decide) hl hr,
    Signal.recursionCount_between_blanks hl hr,
    Signal.count_between_blanks Signal.trims_sortCall (by decide) hl hr,
    Signal.count_between_blanks Signal.trims_logCall (by decide) hl hr,
    Signal.count_between_blanks Signal.trims_array (by decide) hl hr,
    Signal.count_between_blanks Signal.trims_map (by decide) hl hr,
    Signal.count_between_blanks Signal.trims_set (by decide) hl hr,
    Signal.count_between_blanks Signal.trims_allocation (by decide) hl hr,
    Signal.halvesRange_between_blanks hl hr]

/--
Blanks at the ends of a text make no difference to its features, and so none to the verdict on it.
-/
theorem ofText_blanks :
    (∀ w₁ t w₂, allBlank w₁ → allBlank w₂ → Features.ofText (w₁ ++ t ++ w₂) = Features.ofText t)
      ∧ ∀ code, Verdict.ofText code = Verdict.ofText (trim code) := by
  constructor
  . intro w₁ t w₂ h₁ h₂
    have ht : (w₁ ++ t ++ w₂).toList = w₁.toList ++ (t.toList ++ w₂.toList) := by
      simp only [String.toList_append, List.append_assoc]
    exact Features.ofText_between_blanks ht (List.all_eq_true.1 h₁) (List.all_eq_true.1 h₂)
  . intro code
    obtain ⟨l, r, hcode, hl, hr⟩ := exists_strip_append isBlank code.toList
    have htrim : code.toList = l ++ ((trim code).toList ++ r) := by
      rwa [trim, String.toList_ofList]
    unfold Verdict.ofText
    rw [Features.ofText_between_blanks htrim hl hr]

theorem ofText_blanks_lines :
    allBlank "\n\t" ∧ allBlank " \u2003"
      ∧ Features.ofText ("\n\t" ++ "while (x)" ++ " \u2003") = Features.ofText "while (x)"
      ∧ Verdict.ofText "\n\twhile (x)" = Verdict.ofText (trim "\n\twhile (x)") := by
  have h₁ : allBlank "\n\t" := by
    decide
  have h₂ : allBlank " \u2003" := by
    decide
  exact ⟨h₁, h₂, ofText_blanks.1 _ _ _ h₁ h₂, ofText_blanks.2 _⟩

end CodeGauge
