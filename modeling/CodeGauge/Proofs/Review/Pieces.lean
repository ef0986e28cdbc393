import CodeGauge.Proofs.Review.Actions
import CodeGauge.Proofs.Review.File
import Mathlib.Algebra.Order.Floor.Div

/-!
This module contains how a file is sent piece by piece: that the pieces make up its text, that each
of them is asked about in turn, and when a review comes back without any of them.
-/

namespace CodeGauge.Review

variable {σ α : Type} {reviewer : Reviewer σ α} {file : String} {state : σ}
  {text : List Char} {most : Int} {bytes : Option (List UInt8)} {total index : Nat}
  {parts : List (List Char)} {reviews : List Json} {fields : Json.Fields}


/--
A text cut into parts of a length. The last one may be shorter, but not empty.
-/
structure CutInto (most : Nat) (text : List Char) (parts : List (List Char)) : Prop where
  flatten : parts.flatten = text
  length : parts.length = text.length ⌈/⌉ most
  full : ∀ part ∈ parts.dropLast, part.length = most
  last : ∃ part, parts.getLast? = some part ∧ part ≠ []

theorem sub_ceilDiv_succ (n length : Nat) :
    (length - n) ⌈/⌉ (n + 1) + 1 = (length + 1) ⌈/⌉ (n + 1) := by
  rw [Nat.ceilDiv_eq_add_pred_div, Nat.ceilDiv_eq_add_pred_div]
  cases Nat.lt_or_ge length n with
  | inl hlt =>
    have hfirst : (length - n + (n + 1) - 1) / (n + 1) = 0 := Nat.div_eq_of_lt (by omega)
    have hboth : (length + 1 + (n + 1) - 1) / (n + 1) = 1 :=
      Nat.div_eq_of_lt_le (by omega) (by omega)
    rw [hfirst, hboth]
  | inr hge =>
    have hfirst : length - n + (n + 1) - 1 = length := by omega
    have hboth : length + 1 + (n + 1) - 1 = length + (n + 1) := by omega
    rw [hfirst, hboth, Nat.add_div_right _ n.succ_pos]

theorem length_pieces {β : Type} (n : Nat) (xs : List β) :
    (pieces n xs).length = xs.length ⌈/⌉ (n + 1) := by
  fun_induction pieces n xs with
  | case1 => exact (zero_ceilDiv _).symm
  | case2 x xs ih =>
    rw [List.length_cons, ih, List.length_drop, List.length_cons, sub_ceilDiv_succ]

theorem ne_nil_of_mem_pieces {β : Type} {n : Nat} {xs piece : List β}
    (h : piece ∈ pieces n xs) : piece ≠ [] := by
  fun_induction pieces n xs with
  | case1 => cases h
  | case2 x xs ih =>
    cases List.mem_cons.1 h with
    | inl heq =>
      rw [heq]
      exact List.cons_ne_nil _ _
    | inr hmem => exact ih hmem

/--
A piece with another one behind it is full.
-/
theorem length_of_mem_dropLast {β : Type} {n : Nat} {xs piece : List β}
    (h : piece ∈ (pieces n xs).dropLast) : piece.length = n + 1 := by
  fun_induction pieces n xs with
  | case1 => cases h
  | case2 x xs ih =>
    cases hrest : xs.drop n with
    | nil =>
      rw [hrest, pieces] at h
      cases h
    | cons y ys =>
      have hlt : n < xs.length := by
        apply Nat.lt_of_not_le
        intro hle
        rw [List.drop_of_length_le hle] at hrest
        cases hrest
      rw [List.dropLast_cons_of_ne_nil (by rw [hrest, pieces]; exact List.cons_ne_nil _ _)]
        at h
      cases List.mem_cons.1 h with
      | inl heq =>
        rw [heq, List.length_cons, List.length_take, Nat.min_eq_left (Nat.le_of_lt hlt)]
      | inr hmem => exact ih hmem

theorem cutInto_pieces {n : Nat} (hne : text ≠ []) :
    CutInto (n + 1) text (pieces n text) where
  flatten := flatten_pieces n text
  length := length_pieces n text
  full := fun _ => length_of_mem_dropLast
  last := by
    have hpieces : pieces n text ≠ [] := by
      intro hnil
      rw [← flatten_pieces n text, hnil] at hne
      exact hne rfl
    exact ⟨_, List.getLast?_eq_some_getLast hpieces,
      ne_nil_of_mem_pieces (List.getLast_mem hpieces)⟩

theorem cutInto_singleton {most : Nat} (hle : text.length ≤ most)
    (hne : text ≠ []) : CutInto most text [text] where
  flatten := List.flatten_singleton
  length := by
    have hpos : 0 < text.length := List.length_pos_iff.2 hne
    rw [List.length_singleton, Nat.ceilDiv_eq_add_pred_div]
    symm
    apply Nat.div_eq_of_lt_le <;> omega
  full := by simp
  last := ⟨text, rfl, hne⟩

theorem exists_chunks {most : Nat} (hmost : 0 < most) (hne : text ≠ []) :
    ∃ parts, chunks most text = .ok parts ∧ CutInto most text parts := by
  unfold chunks
  split
  . next hle => exact ⟨[text], rfl, cutInto_singleton (by omega) hne⟩
  . next hlt =>
    obtain ⟨n, rfl⟩ := Nat.exists_eq_succ_of_ne_zero hmost.ne'
    exact ⟨pieces n text, rfl, cutInto_pieces hne⟩

/--
Whether a reply has come, be it one with an object or one without.
-/
def isReply : Except Failure Json.Fields → Bool
  | .ok _ => true
  | .error (.unusable ..) => true
  | .error _ => false

theorem exists_reviewOf_iff {reply : Except Failure Json.Fields} :
    (∃ review, reviewOf reply = .ok review) ↔ isReply reply := by
  unfold reviewOf isReply
  split <;> simp

theorem asked_of_ok
    (h : (reviewPieces reviewer file total index state parts).result = .ok reviews) :
    (reviewPieces reviewer file total index state parts).asked.map Prod.fst
      =
    parts.mapIdx fun i part => Prompt.review (.ofList part) file (index + i : Nat) total := by
  induction parts generalizing index state reviews with
  | nil => rfl
  | cons part parts ih =>
    unfold reviewPieces at h ⊢
    dsimp only at h ⊢
    split at h
    . cases h
    . obtain ⟨rest, hrest, _⟩ := map_eq_ok.1 h
      have hindex : ∀ i, index + 1 + i = index + (i + 1) := by omega
      have hasked := ih hrest
      simp only [hindex] at hasked
      rw [List.mapIdx_cons, ← hasked]
      rfl

theorem isReply_of_ok
    (h : (reviewPieces reviewer file total index state parts).result = .ok reviews) :
    ∀ asked ∈ (reviewPieces reviewer file total index state parts).asked,
      isReply (reviewer.reply asked.2) := by
  induction parts generalizing index state reviews with
  | nil => exact List.forall_mem_nil _
  | cons part parts ih =>
    unfold reviewPieces at h ⊢
    dsimp only at h ⊢
    split at h
    . cases h
    . next hreview =>
      obtain ⟨rest, hrest, _⟩ := map_eq_ok.1 h
      exact List.forall_mem_cons.2 ⟨exists_reviewOf_iff.1 ⟨_, hreview⟩, ih hrest⟩

theorem exists_of_isReply
    (h : ∀ asked ∈ (reviewPieces reviewer file total index state parts).asked,
      isReply (reviewer.reply asked.2)) :
    ∃ reviews, (reviewPieces reviewer file total index state parts).result = .ok reviews := by
  induction parts generalizing index state with
  | nil => exact ⟨[], rfl⟩
  | cons part parts ih =>
    unfold reviewPieces at h ⊢
    dsimp only at h ⊢
    split at h
    . next hfailure =>
      obtain ⟨review, hreview⟩ := exists_reviewOf_iff.2 (h _ List.mem_cons_self)
      rw [hfailure] at hreview
      cases hreview
    . obtain ⟨rest, hrest⟩ := ih (List.forall_mem_cons.1 h).2
      dsimp only
      rw [hrest]
      exact ⟨_, rfl⟩

theorem exists_merge (file : String) (replies : List (Option Json.Fields))
    (h : ∀ action ∈ replies.flatMap actionsIn, isCompound action = false) :
    ∃ fields, merge file (replies.map fun reply => .obj (normalize reply)) = .ok fields := by
  have hkeys : (replies.flatMap actionsIn).find? isCompound = none := by
    rw [List.find?_eq_none]
    intro action haction
    rw [h action haction]
    exact Bool.false_ne_true
  unfold merge
  rw [actions_normalize, mapM_key, hkeys, issues_normalize, summaries_normalize]
  simp only [bind, Except.bind, pure, Except.pure, joined_texts]
  exact ⟨_, rfl⟩

/--
Once all replies have come, nothing but a recommended action without a key is in the way of a
review.
-/
theorem exists_assemble
    (hreviews : (reviewPieces reviewer file total index state parts).result = .ok reviews)
    (h : ∀ asked ∈ (reviewPieces reviewer file total index state parts).asked,
      ∀ action ∈ actionsIn (reviewer.reply asked.2).toOption, isCompound action = false) :
    ∃ fields, assemble file text reviews = .ok fields := by
  obtain ⟨merged, hmerged⟩ := exists_merge file
    (replies reviewer (reviewPieces reviewer file total index state parts).asked) (by
      simp only [replies, List.flatMap_map, List.mem_flatMap]
      rintro action ⟨asked, hasked, haction⟩
      exact h asked hasked action haction)
  rw [← eq_map_of_reviewPieces hreviews] at hmerged
  unfold assemble
  rw [hmerged]
  exact ⟨_, rfl⟩

theorem chunks_ne_nil (hchunks : chunks most text = .ok parts) (hne : text ≠ []) (hmost : 0 ≤ most) :
    parts ≠ [] := by
  obtain ⟨n, rfl⟩ := Int.eq_ofNat_of_zero_le hmost
  cases n with
  | zero =>
    have hpos : 0 < text.length := List.length_pos_iff.2 hne
    unfold chunks at hchunks
    rw [if_neg (by omega)] at hchunks
    cases hchunks
  | succ n =>
    obtain ⟨cut, hcut, hcutInto⟩ := exists_chunks n.succ_pos hne
    obtain rfl : cut = parts := Except.ok.inj (hcut.symm.trans hchunks)
    rintro rfl
    exact hne hcutInto.flatten.symm

theorem chunks_of_neg (text : List Char) (hmost : most < 0) : chunks most text = .ok [] := by
  obtain ⟨n, rfl⟩ := Int.eq_negSucc_of_lt_zero hmost
  unfold chunks
  rw [if_neg (by omega)]

section

variable (htext : bytes.bind textOf = some text) (hne : text ≠ [])
include htext hne

theorem reviewFile_of_text :
    reviewFile reviewer file most bytes state
      =
    let session := reviewText reviewer file most text state
    { session with result := session.result.map some } := by
  unfold reviewFile
  rw [htext]
  cases text with
  | nil => exact (hne rfl).elim
  | cons c cs => rfl

theorem reviewFile_of_chunks (reviewer : Reviewer σ α) (file : String) (state : σ)
    (hchunks : chunks most text = .ok parts) :
    reviewFile reviewer file most bytes state
      =
    let session := reviewPieces reviewer file parts.length 0 state parts
    { session with result := (session.result.bind (assemble file text)).map some } := by
  rw [reviewFile_of_text htext hne, reviewText, hchunks]

theorem exists_chunks_of_ok
    (h : (reviewFile reviewer file most bytes state).result = .ok (some fields)) :
    ∃ parts reviews, chunks most text = .ok parts
      ∧ (reviewPieces reviewer file parts.length 0 state parts).result = .ok reviews := by
  cases hchunks : chunks most text with
  | error failure =>
    rw [reviewFile_of_text htext hne, reviewText, hchunks] at h
    cases h
  | ok parts =>
    rw [reviewFile_of_chunks htext hne reviewer file state hchunks] at h
    obtain ⟨_, hbind, _⟩ := map_eq_ok.1 h
    obtain ⟨reviews, hreviews, _⟩ := bind_eq_ok.1 hbind
    exact ⟨parts, reviews, rfl, hreviews⟩

/--
A text that is not empty is cut into pieces of the given length, all but the last one of them full,
and each piece is asked about once, in order and by its number. If all these questions are replied
to, and no reply recommends an array or an object as an action, then there is a review, and it has
the issues that the replies list, one reply behind the other.
-/
theorem exists_cutInto_reviewFile {most : Nat} (hmost : 0 < most)
    (hreplies : ∀ asked ∈ (reviewFile reviewer file most bytes state).asked,
      isReply (reviewer.reply asked.2)
        ∧ ∀ action ∈ actionsIn (reviewer.reply asked.2).toOption, isCompound action = false) :
    let session := reviewFile reviewer file most bytes state
    ∃ (parts : List (List Char)) (review : FileReview),
      CutInto most text parts
        ∧ session.asked.map Prod.fst
          = parts.mapIdx (fun i part => Prompt.review (.ofList part) file i parts.length)
        ∧ session.result = .ok (some review.toFields)
        ∧ review.issues = (replies reviewer session.asked).flatMap issuesIn := by
  obtain ⟨parts, hchunks, hcut⟩ := exists_chunks hmost hne
  have hsession := reviewFile_of_chunks htext hne reviewer file state hchunks
  have hasked := congrArg Session.asked hsession
  dsimp only at hasked
  rw [hasked] at hreplies
  obtain ⟨reviews, hreviews⟩ := exists_of_isReply fun asked hmem => (hreplies asked hmem).1
  obtain ⟨fields, hfields⟩ := exists_assemble hreviews fun asked hmem => (hreplies asked hmem).2
  have hresult : (reviewFile reviewer file most bytes state).result = .ok (some fields) := by
    rw [hsession]
    dsimp only
    rw [hreviews]
    exact congrArg (Except.map some) hfields
  obtain ⟨review, rfl, _, hissues⟩ := exists_of_reviewFile hresult
  have hprompts := asked_of_ok hreviews
  simp only [Nat.zero_add] at hprompts
  exact ⟨parts, review, hcut, hasked ▸ hprompts, hresult, hissues⟩

/--
Without any piece to ask about, the review has no issues.
-/
theorem reviewFile_of_neg (reviewer : Reviewer σ α) (file : String) (state : σ) (hmost : most < 0) :
    reviewFile reviewer file most bytes state
      =
    ⟨[], .ok (some (FileReview.mk file [] "" [] (Verdict.ofText (.ofList text))).toFields), state⟩
    := by
  rw [reviewFile_of_chunks htext hne reviewer file state (chunks_of_neg text hmost)]
  rfl

theorem exists_asked_of_ok (hmost : 0 ≤ most)
    (h : (reviewFile reviewer file most bytes state).result = .ok (some fields)) :
    ∃ asked ∈ (reviewFile reviewer file most bytes state).asked,
      isReply (reviewer.reply asked.2) := by
  obtain ⟨parts, reviews, hchunks, hreviews⟩ := exists_chunks_of_ok htext hne h
  have hasked : (reviewPieces reviewer file parts.length 0 state parts).asked ≠ [] := by
    intro hnil
    have hprompts := congrArg List.length (asked_of_ok hreviews)
    rw [hnil, List.length_mapIdx] at hprompts
    exact chunks_ne_nil hchunks hne hmost (List.length_eq_zero_iff.1 hprompts.symm)
  obtain ⟨asked, hmem⟩ := List.exists_mem_of_ne_nil _ hasked
  rw [reviewFile_of_chunks htext hne reviewer file state hchunks]
  exact ⟨asked, hmem, isReply_of_ok hreviews asked hmem⟩

/--
If a review of a file with a text comes back, then somebody has replied to a question about a piece
of it, unless the number of characters in a piece is negative. Then no question is asked, and there
is a review without issues all the same.
-/
theorem exists_isReply_iff (reviewer : Reviewer σ α) (file : String) (most : Int) (state : σ) :
    let session := reviewFile reviewer file most bytes state
    ((∀ fields, session.result = .ok (some fields)
          → ∃ asked ∈ session.asked, isReply (reviewer.reply asked.2))
        ↔ 0 ≤ most)
      ∧ (most < 0
        → session.asked = []
          ∧ ∃ review : FileReview, session.result = .ok (some review.toFields)
            ∧ review.issues = []) := by
  have hunasked : most < 0 → reviewFile reviewer file most bytes state
      = ⟨[], .ok (some (FileReview.mk file [] "" [] (Verdict.ofText (.ofList text))).toFields), state⟩
    := reviewFile_of_neg htext hne reviewer file state
  refine ⟨⟨?_, fun hmost fields => exists_asked_of_ok htext hne hmost⟩, ?_⟩
  . intro h
    apply Int.not_lt.1
    intro hmost
    rw [hunasked hmost] at h
    obtain ⟨asked, hmem, _⟩ := h _ rfl
    cases hmem
  . intro hmost
    rw [hunasked hmost]
    exact ⟨rfl, _, rfl, rfl⟩

end

/--
A reviewer who finds an issue in every other piece, and has no object to say about the others.
-/
def everyOther : Reviewer Nat Nat where
  ask _ n := (n, n + 1)
  reply n :=
    if n % 2 = 0 then
      .ok [("issues", .arr [.obj [("message", .str "off by one")]]),
        ("recommended_actions", .arr [.str "add a test"])]
    else
      .error (.unusable "no object" "fine")

theorem exists_cutInto_reviewFile_three :
    let bytes := some (Text.Utf8.encode "abcdefg")
    bytes.bind textOf = some "abcdefg".toList
      ∧ ∃ (parts : List (List Char)) (review : FileReview),
        parts.flatten = "abcdefg".toList ∧ parts.length = 3
          ∧ (reviewFile everyOther "a.py" (3 : Nat) bytes 0).result = .ok (some review.toFields) := by
  intro bytes
  have htext : bytes.bind textOf = some "abcdefg".toList := by decide +kernel
  have hreplies : ∀ n, isReply (everyOther.reply n)
      ∧ ∀ action ∈ actionsIn (everyOther.reply n).toOption, isCompound action = false := by
    intro n
    unfold everyOther
    dsimp only
    split <;> decide
  obtain ⟨parts, review, hcut, _, hresult, _⟩ :=
    exists_cutInto_reviewFile htext (by decide) (by decide : 0 < 3)
      fun asked _ => hreplies asked.2
  exact ⟨htext, parts, review, hcut.flatten, hcut.length, hresult⟩

theorem exists_isReply_iff_negative :
    let session := reviewFile everyOther "a.py" (-1) (some (Text.Utf8.encode "x = 1")) 0
    ¬ (∀ fields, session.result = .ok (some fields)
        → ∃ asked ∈ session.asked, isReply (everyOther.reply asked.2))
      ∧ session.asked = []
      ∧ ∃ review : FileReview, session.result = .ok (some review.toFields)
        ∧ review.issues = [] := by
  intro session
  have htext : (some (Text.Utf8.encode "x = 1")).bind textOf = some "x = 1".toList := by
    decide +kernel
  have hiff := exists_isReply_iff htext (by decide) everyOther "a.py" (-1) 0
  exact ⟨fun h => absurd (hiff.1.1 h) (by decide), hiff.2 (by decide)⟩

end CodeGauge.Review
