import CodeGauge.Proofs.Review.Merge
import CodeGauge.Review.File

/-!
This module contains what a review of a file is made of: the answers to the prompts about its
pieces, each of which stands for one review.
-/

namespace CodeGauge.Review

variable {σ α : Type} {reviewer : Reviewer σ α} {file : String} {state : σ} {fields : Json.Fields}


/--
What answers to prompts reply, where a reply without an object is none.
-/
def replies (reviewer : Reviewer σ α) (asked : List (String × α)) : List (Option Json.Fields) :=
  asked.map fun asked => (reviewer.reply asked.2).toOption

theorem eq_normalize_of_reviewOf {reply : Except Failure Json.Fields}
    (h : reviewOf reply = .ok fields) : fields = normalize reply.toOption := by
  unfold reviewOf at h
  split at h <;> cases h <;> rfl

theorem eq_map_of_reviewPieces {total index : Nat} {pieces : List (List Char)} {reviews : List Json}
    (h : (reviewPieces reviewer file total index state pieces).result = .ok reviews) :
    reviews
      =
    (replies reviewer (reviewPieces reviewer file total index state pieces).asked).map
      fun reply => .obj (normalize reply) := by
  -- The state goes from piece to piece, but each review depends on its own answer alone.
  induction pieces generalizing index state reviews with
  | nil =>
    cases h
    rfl
  | cons piece pieces ih =>
    unfold reviewPieces at h ⊢
    dsimp only at h ⊢
    split at h
    . cases h
    . next review hreview =>
      obtain ⟨rest, hrest, rfl⟩ := map_eq_ok.1 h
      rw [ih hrest, eq_normalize_of_reviewOf hreview]
      rfl

theorem exists_of_assemble {text : List Char} {reviews : List Json}
    (h : assemble file text reviews = .ok fields) :
    ∃ review : FileReview, fields = review.toFields
      ∧ review.file = file ∧ issues reviews = .ok review.issues := by
  unfold assemble at h
  split at h
  . cases h
  . next hmerge =>
    cases h
    exact exists_of_merge hmerge _

/--
The review of a file has the issues of all the answers, piece by piece.
-/
theorem exists_of_reviewFile {most : Int} {bytes : Option (List UInt8)}
    (h : (reviewFile reviewer file most bytes state).result = .ok (some fields)) :
    ∃ review : FileReview, fields = review.toFields
      ∧ review.file = file
      ∧ review.issues = (replies reviewer
          (reviewFile reviewer file most bytes state).asked).flatMap issuesIn := by
  unfold reviewFile at h ⊢
  split at h
  . cases h
  . cases h
  . obtain ⟨_, h, heq⟩ := map_eq_ok.1 h
    cases heq
    unfold reviewText at h ⊢
    split at h
    . cases h
    . obtain ⟨reviews, hreviews, hassemble⟩ := bind_eq_ok.1 h
      obtain ⟨review, hfields, hfile, hissues⟩ := exists_of_assemble hassemble
      rw [eq_map_of_reviewPieces hreviews, issues_normalize] at hissues
      exact ⟨review, hfields, hfile, (Except.ok.inj hissues).symm⟩

end CodeGauge.Review
