import CodeGauge.Proofs.Except
import CodeGauge.Review.Merge
import CodeGauge.Verdict

/-!
This module contains the issues that reviews carry on: those that a reply lists are those of its
review, and the review of a file has the issues of all its pieces.
-/

namespace CodeGauge.Review

open Json

variable {fields : Fields} {name name' file : String}
  {reviews : List Json}


theorem field?_setField_of_ne (h : name' ≠ name) (value : Json) (fields : Fields) :
    field? (setField name value fields) name' = field? fields name' := by
  have hne : (name' == name) = false := beq_eq_false_iff_ne.2 h
  unfold field?
  induction fields with
  | nil => rw [setField, List.lookup_cons, hne]
  | cons f fields ih =>
    rw [setField]
    split
    . next heq =>
      rw [List.lookup_cons, List.lookup_cons, beq_iff_eq.1 heq, hne]
    . rw [List.lookup_cons, List.lookup_cons, ih]

/--
What a reply lists in a field.
-/
def listedAt (name : String) (fields : Fields) : List Json :=
  match field? fields name with
  | some (.arr items) => items
  | _ => []

/--
The issues that a reply lists.
-/
def listedIssues (fields : Fields) : List Json :=
  listedAt "issues" fields

/--
The issues that come with an answer. One without an object lists none.
-/
def issuesIn : Option Fields → List Json
  | some fields => listedIssues fields
  | none => []

theorem fieldOr_isArray (fields : Fields) (name : String) :
    fieldOr fields name isArray (.arr []) = .arr (listedAt name fields) := by
  unfold fieldOr listedAt
  cases field? fields name with
  | none => rfl
  | some value => cases value <;> rfl

theorem listed_of_field? {items : List Json} (h : field? fields name = some (.arr items)) :
    listed name (.obj fields) = .ok items := by
  unfold listed lookup
  dsimp only [bind, Except.bind]
  rw [h]
  cases items <;> rfl

theorem field?_issues_normalize (reply : Option Fields) :
    field? (normalize reply) "issues" = some (.arr (issuesIn reply)) := by
  cases reply with
  | none => rfl
  | some fields =>
    simp only [normalize]
    rw [field?_setField_of_ne (by decide), field?_setField_of_ne (by decide),
      field?_setField_self, fieldOr_isArray]
    rfl

theorem listed_issues_normalize (reply : Option Fields) :
    listed "issues" (.obj (normalize reply)) = .ok (issuesIn reply) :=
  listed_of_field? (field?_issues_normalize reply)

theorem issues_normalize (replies : List (Option Fields)) :
    issues (replies.map fun reply => .obj (normalize reply)) = .ok (replies.flatMap issuesIn) := by
  induction replies with
  | nil => rfl
  | cons reply replies ih =>
    rw [List.map_cons, issues, listed_issues_normalize, ih]
    rfl

/--
What a review of a file says.
-/
structure FileReview where
  file : String
  issues : List Json
  summary : String
  actions : List Json
  verdict : Verdict

def FileReview.toFields (review : FileReview) : Fields :=
  [
    ("file", .str review.file),
    ("issues", .arr review.issues),
    ("summary", .str review.summary),
    ("recommended_actions", .arr review.actions),
    ("complexity", review.verdict.toJson)]

theorem exists_of_merge (h : merge file reviews = .ok fields) (verdict : Verdict) :
    ∃ review : FileReview, setField "complexity" verdict.toJson fields = review.toFields
      ∧ review.file = file ∧ issues reviews = .ok review.issues := by
  simp only [merge, bind_eq_ok] at h
  obtain ⟨actions, _, found, hfound, texts, _, summary, _, hfields⟩ := h
  cases hfields
  exact ⟨⟨file, found, summary, dedup actions, verdict⟩, rfl, rfl, hfound⟩

end CodeGauge.Review
