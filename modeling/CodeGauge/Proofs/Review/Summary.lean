import CodeGauge.Proofs.Review.Report
import Mathlib.Data.List.Forall2

/-!
This module contains what the summary of reviews counts. It is the sum of the summaries of its
parts, whatever their order, and what it does not count under a name of its own are the issues of
another severity than the three that have one.
-/

namespace CodeGauge.Review.Summary

open Json

variable {issue review review' : Json} {issues xs xs' ys : List Json} {s : Summary}


/--
Two summaries field by field.
-/
instance : Add Summary where
  add s t := {
    files := s.files + t.files
    issues := s.issues + t.issues
    low := s.low + t.low
    medium := s.medium + t.medium
    high := s.high + t.high
  }

theorem add_def (s t : Summary) :
    s + t = ⟨s.files + t.files, s.issues + t.issues, s.low + t.low, s.medium + t.medium,
      s.high + t.high⟩ := by
  rfl

/--
The issues that a review lists.
-/
def listed : Json → List Json
  | .obj fields => listedIssues fields
  | _ => []

/--
Whether a value stands for a review whose issues, if there is a list of them, are objects. A value
that counts as nothing does.
-/
def IsReview : Json → Prop
  | .obj fields => ∀ issue ∈ listedIssues fields, isObject issue
  | value => value.isTruthy = false

/--
The severity of an issue in lower case. One that counts as nothing is medium.
-/
def severityName (issue : Json) : String :=
  match issue.get? "severity" with
  | some value => if value.isTruthy then Text.lower value.display else "medium"
  | none => "medium"

/--
The number of issues with a severity.
-/
def severityCount (name : String) (issues : List Json) : Nat :=
  issues.countP fun issue => severityName issue == name

/--
The issues with each severity.
-/
def bySeverity (issues : List Json) : Summary where
  low := severityCount "low" issues
  medium := severityCount "medium" issues
  high := severityCount "high" issues

/--
The summary of reviews.
-/
def tally (reviews : List Json) : Summary where
  files := reviews.length
  issues := (reviews.flatMap listed).length
  low := severityCount "low" (reviews.flatMap listed)
  medium := severityCount "medium" (reviews.flatMap listed)
  high := severityCount "high" (reviews.flatMap listed)

/--
Two reviews that differ at most in the order of their issues.
-/
inductive SameIssues : Json → Json → Prop
  | refl (review : Json) : SameIssues review review
  | issues {fields : Fields} {issues issues' : List Json}
    (hissues : field? fields "issues" = some (.arr issues)) (hperm : issues.Perm issues') :
    SameIssues (.obj fields) (.obj (setField "issues" (.arr issues') fields))

/--
Two lists of the same reviews, each with the same issues, in any order.
-/
def Rearranged (xs xs' : List Json) : Prop :=
  ∃ reviews, List.Forall₂ SameIssues xs reviews ∧ reviews.Perm xs'

theorem severity_eq (h : isObject issue) : severity issue = .ok (severityName issue) := by
  cases issue with
  | obj fields =>
    have hmedium : Text.lower "medium" = "medium" := by decide
    unfold severity severityName
    simp only [lookup, get?, bind, Except.bind, pure, Except.pure]
    cases field? fields "severity" with
    | none => rw [truthyOr, display, hmedium]
    | some value =>
      dsimp only [truthyOr]
      split
      . rfl
      . rw [display, hmedium]
  | _ => cases h

theorem count_eq (name : String) (s : Summary) :
    s.count name
      = ⟨s.files, s.issues, s.low + (if name == "low" then 1 else 0),
        s.medium + (if name == "medium" then 1 else 0), s.high + (if name == "high" then 1 else 0)⟩ := by
  unfold count
  split
  . next h =>
    rw [beq_iff_eq.1 h]
    rfl
  . split
    . next h =>
      rw [beq_iff_eq.1 h]
      rfl
    . split <;> rfl

theorem count_add_bySeverity (s : Summary) (issue : Json) (issues : List Json) :
    s.count (severityName issue) + bySeverity issues = s + bySeverity (issue :: issues) := by
  rw [count_eq, add_def, add_def]
  simp only [bySeverity, severityCount, List.countP_cons, ← Nat.add_assoc, Nat.add_right_comm]

theorem addIssues_eq (h : ∀ issue ∈ issues, isObject issue) (s : Summary) :
    s.addIssues issues = .ok (s + bySeverity issues) := by
  induction issues generalizing s with
  | nil => rfl
  | cons issue issues ih =>
    rw [List.forall_mem_cons] at h
    rw [addIssues, severity_eq h.1, ← count_add_bySeverity, ← ih h.2]
    rfl

theorem issuesOf_eq (h : IsReview review) : issuesOf review = .ok (listed review) := by
  unfold issuesOf
  cases review with
  | obj fields =>
    cases fields with
    | nil => rfl
    | cons field fields =>
      simp only [isTruthy, List.isEmpty_cons, Bool.not_false, if_true, lookup, listed, listedIssues, listedAt]
      cases field? (field :: fields) "issues" with
      | none => rfl
      | some value => cases value <;> rfl
  | _ => exact if_neg (by simpa [IsReview] using h)

theorem isObject_of_mem_listed (h : IsReview review) : ∀ issue ∈ listed review, isObject issue := by
  cases review with
  | obj fields => exact h
  | _ => exact List.forall_mem_nil _

theorem addReviews_eq (h : ∀ review ∈ xs, IsReview review) (s : Summary) :
    s.addReviews xs = .ok (s + tally xs) := by
  induction xs generalizing s with
  | nil => rfl
  | cons review xs ih =>
    rw [List.forall_mem_cons] at h
    rw [addReviews, issuesOf_eq h.1]
    dsimp only [bind, Except.bind]
    rw [addIssues_eq (isObject_of_mem_listed h.1)]
    dsimp only
    rw [ih h.2, add_def, add_def, add_def]
    simp only [tally, bySeverity, severityCount, List.flatMap_cons, List.length_cons,
      List.length_append, List.countP_append, Nat.add_zero, ← Nat.add_assoc, Nat.add_right_comm]

theorem ofReviews_eq (h : ∀ review ∈ xs, IsReview review) : ofReviews xs = .ok (tally xs) := by
  rw [ofReviews, addReviews_eq h, add_def]
  simp only [Nat.zero_add]

theorem tally_append (xs ys : List Json) : tally (xs ++ ys) = tally xs + tally ys := by
  simp only [tally, severityCount, add_def, List.flatMap_append, List.length_append,
    List.countP_append]

theorem tally_eq_of_perm (hlength : xs.length = xs'.length)
    (hissues : (xs.flatMap listed).Perm (xs'.flatMap listed)) : tally xs = tally xs' := by
  simp only [tally, severityCount, hlength, hissues.length_eq, hissues.countP_eq]

theorem SameIssues.listed_perm (h : SameIssues review review') :
    (listed review).Perm (listed review') := by
  cases h with
  | refl => exact List.Perm.refl _
  | issues hissues hperm =>
    simp only [listed, listedIssues, listedAt, hissues, field?_setField_self]
    exact hperm

theorem SameIssues.isReview (h : SameIssues review review') (hreview : IsReview review) :
    IsReview review' := by
  cases h with
  | refl => exact hreview
  | issues hissues hperm =>
    simp only [IsReview, listedIssues, listedAt, hissues, field?_setField_self] at hreview ⊢
    intro issue hissue
    exact hreview issue (hperm.mem_iff.2 hissue)

theorem Rearranged.length_eq (h : Rearranged xs xs') : xs.length = xs'.length := by
  obtain ⟨reviews, hsame, hperm⟩ := h
  exact hsame.length_eq.trans hperm.length_eq

theorem flatMap_listed_perm {reviews : List Json} (h : List.Forall₂ SameIssues xs reviews) :
    (xs.flatMap listed).Perm (reviews.flatMap listed) := by
  induction h with
  | nil => exact List.Perm.refl _
  | cons hsame _ ih =>
    rw [List.flatMap_cons, List.flatMap_cons]
    exact hsame.listed_perm.append ih

theorem Rearranged.listed_perm (h : Rearranged xs xs') :
    (xs.flatMap listed).Perm (xs'.flatMap listed) := by
  obtain ⟨reviews, hsame, hperm⟩ := h
  exact (flatMap_listed_perm hsame).trans (hperm.flatMap_right listed)

theorem isReview_of_forall₂ {reviews : List Json} (h : List.Forall₂ SameIssues xs reviews)
    (hxs : ∀ review ∈ xs, IsReview review) : ∀ review ∈ reviews, IsReview review := by
  induction h with
  | nil => exact List.forall_mem_nil _
  | cons hsame _ ih =>
    rw [List.forall_mem_cons] at hxs ⊢
    exact ⟨hsame.isReview hxs.1, ih hxs.2⟩

theorem Rearranged.isReview (h : Rearranged xs xs') (hxs : ∀ review ∈ xs, IsReview review) :
    ∀ review ∈ xs', IsReview review := by
  obtain ⟨reviews, hsame, hperm⟩ := h
  intro review hreview
  exact isReview_of_forall₂ hsame hxs review (hperm.mem_iff.2 hreview)

/--
Each issue has one of the three severities with a name or another one.
-/
theorem length_eq_severityCount (issues : List Json) :
    issues.length
      = severityCount "low" issues + severityCount "medium" issues + severityCount "high" issues
        + issues.countP fun issue => severityName issue ∉ ["low", "medium", "high"] := by
  unfold severityCount
  induction issues with
  | nil => rfl
  | cons issue issues ih =>
    simp only [List.length_cons, List.countP_cons, ih]
    by_cases hlow : severityName issue = "low"
    . simp [hlow]
      omega
    . by_cases hmedium : severityName issue = "medium"
      . simp [hmedium]
        omega
      . by_cases hhigh : severityName issue = "high"
        . simp [hhigh]
          omega
        . simp [hlow, hmedium, hhigh]
          omega

/--
The summary of two lists of reviews is that of the one and that of the other, field by field. It
does not depend on the order of the reviews, nor on that of the issues in each. The issues that are
not counted by their severity are those with another one than the three that have a name.
-/
theorem ofReviews_append (hxs : ∀ review ∈ xs, IsReview review)
    (hys : ∀ review ∈ ys, IsReview review) :
    ofReviews xs = .ok (tally xs) ∧ ofReviews ys = .ok (tally ys)
      ∧ ofReviews (xs ++ ys) = .ok (tally xs + tally ys)
      ∧ (∀ xs', Rearranged xs xs' → ofReviews xs' = ofReviews xs)
      ∧ (tally xs).issues = (tally xs).low + (tally xs).medium + (tally xs).high
        + (xs.flatMap listed).countP fun issue => severityName issue ∉ ["low", "medium", "high"] := by
  refine ⟨ofReviews_eq hxs, ofReviews_eq hys, ?_, ?_, length_eq_severityCount _⟩
  . rw [← tally_append]
    apply ofReviews_eq
    rw [List.forall_mem_append]
    exact ⟨hxs, hys⟩
  . intro xs' h
    rw [ofReviews_eq hxs, ofReviews_eq (h.isReview hxs), tally_eq_of_perm h.length_eq h.listed_perm]

/--
Nothing, a review without a list of issues, and one with issues whose severity is said in several
ways or not at all.
-/
def mixedReviews : List Json :=
  [
    .null,
    .obj [("issues", .int 5)],
    .obj [("issues", .arr [
      .obj [("severity", .str "HIGH")],
      .obj [("severity", .int 0)],
      .obj [("severity", .str "critical")],
      .obj [("message", .str "off by one")]])]]

theorem ofReviews_append_mixed :
    (∀ review ∈ mixedReviews, IsReview review)
      ∧ ofReviews (mixedReviews ++ mixedReviews) = .ok ⟨6, 8, 0, 4, 2⟩
      ∧ ofReviews mixedReviews.reverse = .ok ⟨3, 4, 0, 2, 1⟩ := by
  have h : ∀ review ∈ mixedReviews, IsReview review := by
    simp [mixedReviews, IsReview, listedIssues, listedAt, field?, isTruthy, isObject]
  have htally : tally mixedReviews = ⟨3, 4, 0, 2, 1⟩ := by decide
  have hreverse : Rearranged mixedReviews mixedReviews.reverse :=
    ⟨mixedReviews, List.forall₂_same.2 fun _ _ => .refl _, mixedReviews.reverse_perm.symm⟩
  obtain ⟨hone, _, htwo, horder, _⟩ := ofReviews_append h h
  rw [htally] at hone htwo
  exact ⟨h, htwo, (horder _ hreverse).trans hone⟩

end CodeGauge.Review.Summary
