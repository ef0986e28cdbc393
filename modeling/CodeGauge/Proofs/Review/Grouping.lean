import CodeGauge.Proofs.Review.Actions
import Mathlib.Data.List.Induction

/-!
This module contains that reviews can be merged in groups: the merged reviews of two groups merge
into the review of both. Of recommended actions with equal values it has the first one.
-/

namespace CodeGauge.Review

open Json

section FirstOccurrences

variable {α : Type} {same same' : α → α → Bool} {xs ys kept : List α} {x y : α}


/--
What stays of a list if of several values that are the same the first one is kept.
-/
structure KeepsFirst (same : α → α → Bool) (xs kept : List α) : Prop where
  distinct : kept.Pairwise fun a b => same a b = false
  covers : ∀ x ∈ xs, ∃ y ∈ kept, same x y
  firsts : kept = (xs.zipIdx.filter fun (x, i) => (xs.take i).all fun y => !same x y).map Prod.fst

theorem eraseDupsBy_loop_append (xs ys kept : List α) :
    List.eraseDupsBy.loop same (xs ++ ys) kept
      =
    List.eraseDupsBy.loop same ys (List.eraseDupsBy.loop same xs kept).reverse := by
  induction xs generalizing kept with
  | nil => simp [List.eraseDupsBy.loop]
  | cons x xs ih =>
    rw [List.cons_append, List.eraseDupsBy.loop, List.eraseDupsBy.loop]
    split
    . exact ih kept
    . exact ih (x :: kept)

theorem eraseDupsBy_append_singleton (xs : List α) (x : α) :
    (xs ++ [x]).eraseDupsBy same
      =
    if (xs.eraseDupsBy same).any (same x) then
      xs.eraseDupsBy same
    else
      xs.eraseDupsBy same ++ [x] := by
  unfold List.eraseDupsBy
  rw [eraseDupsBy_loop_append, List.eraseDupsBy.loop, List.any_reverse]
  split
  . next h => simp [h, List.eraseDupsBy.loop]
  . next h => simp [h, List.eraseDupsBy.loop]

theorem eraseDupsBy_sublist (xs : List α) : (xs.eraseDupsBy same).Sublist xs := by
  induction xs using List.reverseRecOn with
  | nil => exact List.Sublist.slnil
  | append_singleton xs x ih =>
    rw [eraseDupsBy_append_singleton]
    split
    . exact ih.trans (List.sublist_append_left xs [x])
    . exact ih.append (List.Sublist.refl [x])

theorem eraseDupsBy_of_pairwise (h : xs.Pairwise fun a b => same b a = false) :
    xs.eraseDupsBy same = xs := by
  induction xs using List.reverseRecOn with
  | nil => rfl
  | append_singleton xs x ih =>
    rw [List.pairwise_append] at h
    rw [eraseDupsBy_append_singleton, ih h.1, if_neg]
    simpa using h.2.2

theorem pairwise_eraseDupsBy (xs : List α) :
    (xs.eraseDupsBy same).Pairwise fun a b => same b a = false := by
  induction xs using List.reverseRecOn with
  | nil => exact List.Pairwise.nil
  | append_singleton xs x ih =>
    rw [eraseDupsBy_append_singleton]
    split
    . exact ih
    . next hnew =>
      rw [List.pairwise_append]
      refine ⟨ih, List.pairwise_singleton _ x, ?_⟩
      simpa using hnew

theorem eraseDupsBy_append_left (xs ys : List α) :
    (xs.eraseDupsBy same ++ ys).eraseDupsBy same = (xs ++ ys).eraseDupsBy same := by
  have hkept : (xs.eraseDupsBy same).eraseDupsBy same = xs.eraseDupsBy same :=
    eraseDupsBy_of_pairwise (pairwise_eraseDupsBy xs)
  unfold List.eraseDupsBy at hkept ⊢
  rw [eraseDupsBy_loop_append, hkept, eraseDupsBy_loop_append]

variable (h : Equivalence fun a b => same a b = true)
include h

/--
A value is the same as one in a list if and only if it is the same as one that stays.
-/
theorem any_eraseDupsBy (xs : List α) (x : α) :
    (xs.eraseDupsBy same).any (same x) = xs.any (same x) := by
  induction xs using List.reverseRecOn with
  | nil => rfl
  | append_singleton xs y ih =>
    rw [eraseDupsBy_append_singleton, List.any_append, ← ih]
    split
    . next hseen =>
      cases hsame : same x y with
      | false => simp [hsame]
      | true =>
        obtain ⟨z, hz, hyz⟩ := List.any_eq_true.1 hseen
        have hany := List.any_eq_true.2 ⟨z, hz, h.trans hsame hyz⟩
        rw [hany, Bool.true_or]
    . rw [List.any_append]

theorem eraseDupsBy_append_right (xs ys : List α) :
    (xs ++ ys.eraseDupsBy same).eraseDupsBy same = (xs ++ ys).eraseDupsBy same := by
  induction ys using List.reverseRecOn with
  | nil => rfl
  | append_singleton ys y ih =>
    rw [← List.append_assoc, eraseDupsBy_append_singleton (xs ++ ys), ← ih,
      eraseDupsBy_append_singleton ys]
    split
    . next hseen =>
      rw [if_pos]
      rw [any_eraseDupsBy h, List.any_append, hseen, Bool.or_true]
    . rw [← List.append_assoc, eraseDupsBy_append_singleton]

/--
Nothing is lost if two parts of a list are freed from what they have twice.
-/
theorem eraseDupsBy_append (xs ys : List α) :
    (xs.eraseDupsBy same ++ ys.eraseDupsBy same).eraseDupsBy same
      =
    (xs ++ ys).eraseDupsBy same := by
  rw [eraseDupsBy_append_left, eraseDupsBy_append_right h]

theorem eraseDupsBy_eq_firsts (xs : List α) :
    xs.eraseDupsBy same
      =
    (xs.zipIdx.filter fun (x, i) => (xs.take i).all fun y => !same x y).map Prod.fst := by
  induction xs using List.reverseRecOn with
  | nil => rfl
  | append_singleton xs x ih =>
    -- The values in front of each but the last one are the same as before.
    have hfront : (xs.zipIdx.filter fun (z, i) => ((xs ++ [x]).take i).all fun y => !same z y)
        = xs.zipIdx.filter fun (z, i) => (xs.take i).all fun y => !same z y := by
      apply List.filter_congr
      intro (z, i) hz
      have hi : i ≤ xs.length := by
        have hlt := (List.mem_zipIdx hz).2.1
        omega
      dsimp only
      rw [List.take_append_of_le_length hi]
    have hlast : (((xs ++ [x]).take xs.length).all fun y => !same x y) = !xs.any (same x) := by
      rw [List.take_left, List.not_any_eq_all_not]
    rw [eraseDupsBy_append_singleton, any_eraseDupsBy h, List.zipIdx_append, List.filter_append,
      hfront, List.map_append, ← ih, List.zipIdx_singleton, Nat.zero_add, List.filter_singleton]
    dsimp only
    rw [hlast]
    cases xs.any (same x) <;> simp

theorem keepsFirst_eraseDupsBy (xs : List α) : KeepsFirst same xs (xs.eraseDupsBy same) where
  distinct := by
    apply (pairwise_eraseDupsBy xs).imp
    intro a b hba
    rw [Bool.eq_false_iff] at hba ⊢
    exact mt h.symm hba
  covers := by
    intro x hx
    have hany : xs.any (same x) := List.any_eq_true.2 ⟨x, hx, h.refl x⟩
    rw [← any_eraseDupsBy h] at hany
    exact List.any_eq_true.1 hany
  firsts := eraseDupsBy_eq_firsts h xs

omit h in
theorem KeepsFirst.congr {kept : List α} (hkept : KeepsFirst same xs kept)
    (hsame : ∀ x ∈ xs, ∀ y ∈ xs, same x y = same' x y) : KeepsFirst same' xs kept := by
  have hsub : ∀ x ∈ kept, x ∈ xs := by
    intro x hx
    rw [hkept.firsts] at hx
    obtain ⟨⟨x, i⟩, hmem, rfl⟩ := List.mem_map.1 hx
    exact List.fst_mem_of_mem_zipIdx (List.mem_filter.1 hmem).1
  constructor
  . apply hkept.distinct.imp_of_mem
    intro x y hx hy hxy
    rw [← hsame x (hsub x hx) y (hsub y hy), hxy]
  . intro x hx
    obtain ⟨y, hy, hxy⟩ := hkept.covers x hx
    exact ⟨y, hy, by rw [← hsame x hx y (hsub y hy), hxy]⟩
  . rw [hkept.firsts]
    congr 1
    apply List.filter_congr
    intro (x, i) hx
    rw [Bool.eq_iff_iff, List.all_eq_true, List.all_eq_true]
    apply forall₂_congr
    intro y hy
    rw [hsame x (List.fst_mem_of_mem_zipIdx hx) y (List.mem_of_mem_take hy)]

end FirstOccurrences

/--
The number that a value is equal to: a truth value is equal to 0 or 1.
-/
def number? : Json → Option Int
  | .int i => some i
  | .bool b => some (if b then 1 else 0)
  | _ => none

/--
Whether two values are equal.
-/
def isEqual : Json → Json → Bool
  | .null, .null => true
  | .str s, .str t => s == t
  | a, b =>
    match number? a, number? b with
    | some i, some j => i == j
    | _, _ => false

/--
Whether a value is a text, a truth value, a whole number or null.
-/
def isSimple : Json → Bool
  | .null => true
  | .bool _ => true
  | .int _ => true
  | .str _ => true
  | _ => false

theorem sameKey_eq_isEqual {a b : Json} (ha : isSimple a) (hb : isSimple b) :
    sameKey a b = isEqual a b := by
  cases a <;> cases ha <;> cases b <;> cases hb <;> simp [sameKey, key?, isEqual, number?]

theorem equivalence_sameKey : Equivalence fun a b => sameKey a b = true := by
  simp only [sameKey, beq_iff_eq]
  exact ⟨fun _ => rfl, Eq.symm, Eq.trans⟩

/--
Summaries in a row, without those that say nothing.
-/
def summaryOf (texts : List String) : String :=
  " ".intercalate (texts.filter (!·.isEmpty))

theorem summaryOf_singleton (s : String) : summaryOf [s] = s := by
  unfold summaryOf
  cases hs : s.isEmpty with
  | true => simp [String.isEmpty_iff.1 hs]
  | false => simp [hs]

theorem summaryOf_eq_empty_iff {texts : List String} :
    summaryOf texts = "" ↔ texts.filter (!·.isEmpty) = [] := by
  unfold summaryOf
  cases hfilter : texts.filter (!·.isEmpty) with
  | nil => simp
  | cons s rest =>
    have hs : s ≠ "" := by
      have hmem := (List.mem_filter.1 (hfilter ▸ List.mem_cons_self : s ∈ texts.filter _)).2
      simpa using hmem
    cases rest with
    | nil => simp [hs]
    | cons t rest => simp [hs]

theorem summaryOf_append (texts texts' : List String) :
    summaryOf (texts ++ texts') = summaryOf [summaryOf texts, summaryOf texts'] := by
  by_cases hempty : summaryOf texts = ""
  . have hleft : summaryOf (texts ++ texts') = summaryOf texts' := by
      rw [summaryOf, List.filter_append, summaryOf_eq_empty_iff.1 hempty, List.nil_append, summaryOf]
    have hright (s : String) : summaryOf ["", s] = summaryOf [s] := by
      simp [summaryOf]
    rw [hleft, hempty, hright, summaryOf_singleton]
  . by_cases hempty' : summaryOf texts' = ""
    . have hleft : summaryOf (texts ++ texts') = summaryOf texts := by
        rw [summaryOf, List.filter_append, summaryOf_eq_empty_iff.1 hempty', List.append_nil,
          summaryOf]
      have hright (s : String) : summaryOf [s, ""] = summaryOf [s] := by
        simp [summaryOf, List.filter_cons]
      rw [hleft, hempty', hright, summaryOf_singleton]
    . have hne := mt summaryOf_eq_empty_iff.2 hempty
      have hne' := mt summaryOf_eq_empty_iff.2 hempty'
      have hright {s t : String} (hs : s ≠ "") (ht : t ≠ "") : summaryOf [s, t] = s ++ " " ++ t := by
        simp [summaryOf, hs, ht]
      rw [hright hempty hempty', summaryOf, List.filter_append,
        String.intercalate_append_of_ne_nil hne hne', summaryOf, summaryOf]

/--
The review that reviews are merged into if each recommended action has a key.
-/
def merged (file : String) (replies : List (Option Fields)) : Fields :=
  [
    ("file", .str file),
    ("issues", .arr (replies.flatMap issuesIn)),
    ("summary", .str (summaryOf (replies.map summaryIn))),
    ("recommended_actions", .arr ((replies.flatMap actionsIn).eraseDupsBy sameKey))]

theorem isCompound_of_isSimple {value : Json} (h : isSimple value) : isCompound value = false := by
  cases value with
  | arr items => cases h
  | obj fields => cases h
  | _ => rfl

theorem merge_eq_merged (file : String) {replies : List (Option Fields)}
    (h : ∀ action ∈ replies.flatMap actionsIn, isSimple action) :
    merge file (replies.map fun reply => .obj (normalize reply)) = .ok (merged file replies) := by
  have hfind : (replies.flatMap actionsIn).find? isCompound = none := by
    rw [List.find?_eq_none]
    intro action haction
    rw [isCompound_of_isSimple (h action haction)]
    exact Bool.false_ne_true
  unfold merge
  rw [actions_normalize, mapM_key, hfind, issues_normalize, summaries_normalize]
  simp only [bind, Except.bind, pure, Except.pure, joined_texts, dedup_eq_eraseDupsBy hfind]
  rfl

/--
A merged review is put right already.
-/
theorem normalize_merged (file : String) (replies : List (Option Fields)) :
    normalize (some (merged file replies)) = merged file replies := by
  rfl

theorem issuesIn_merged (file : String) (replies : List (Option Fields)) :
    issuesIn (some (merged file replies)) = replies.flatMap issuesIn := by
  rfl

theorem actionsIn_merged (file : String) (replies : List (Option Fields)) :
    actionsIn (some (merged file replies)) = (replies.flatMap actionsIn).eraseDupsBy sameKey := by
  rfl

theorem merged_append (file : String) (xs ys : List (Option Fields)) :
    merged file [some (merged file xs), some (merged file ys)] = merged file (xs ++ ys) := by
  have hissues : [some (merged file xs), some (merged file ys)].flatMap issuesIn
      = (xs ++ ys).flatMap issuesIn := by
    rw [List.flatMap_append]
    simp [issuesIn_merged]
  have hsummary : summaryOf ([some (merged file xs), some (merged file ys)].map summaryIn)
      = summaryOf ((xs ++ ys).map summaryIn) := by
    rw [List.map_append, summaryOf_append]
    rfl
  have hactions :
      ([some (merged file xs), some (merged file ys)].flatMap actionsIn).eraseDupsBy sameKey
        = ((xs ++ ys).flatMap actionsIn).eraseDupsBy sameKey := by
    rw [List.flatMap_append, ← eraseDupsBy_append equivalence_sameKey]
    simp [actionsIn_merged]
  rw [merged, hissues, hsummary, hactions, merged]

theorem merge_merged (file : String) {xs ys : List (Option Fields)}
    (hxs : ∀ action ∈ xs.flatMap actionsIn, isSimple action)
    (hys : ∀ action ∈ ys.flatMap actionsIn, isSimple action) :
    merge file [.obj (merged file xs), .obj (merged file ys)] = .ok (merged file (xs ++ ys)) := by
  have hsimple : ∀ action ∈ [some (merged file xs), some (merged file ys)].flatMap actionsIn,
      isSimple action := by
    simp only [List.flatMap_cons, List.flatMap_nil, List.append_nil, actionsIn_merged,
      List.forall_mem_append]
    constructor
    . intro action haction
      exact hxs action ((eraseDupsBy_sublist _).subset haction)
    . intro action haction
      exact hys action ((eraseDupsBy_sublist _).subset haction)
  have hmerge := merge_eq_merged file hsimple
  rw [List.map_cons, List.map_cons, List.map_nil, normalize_merged, normalize_merged,
    merged_append] at hmerge
  exact hmerge

/--
Reviews whose recommended actions are texts, truth values, whole numbers or null come to the same
if those of two groups are merged first. The merged review recommends each action once, up to equal
values, and of equal actions the first one, in their order.
-/
theorem merge_append (file : String) (xs ys : List (Option Fields))
    (hxs : ∀ action ∈ xs.flatMap actionsIn, isSimple action)
    (hys : ∀ action ∈ ys.flatMap actionsIn, isSimple action) :
    ∃ x y both kept,
      merge file (xs.map fun reply => .obj (normalize reply)) = .ok x
      ∧ merge file (ys.map fun reply => .obj (normalize reply)) = .ok y
      ∧ merge file ((xs ++ ys).map fun reply => .obj (normalize reply)) = .ok both
      ∧ merge file [.obj x, .obj y] = .ok both
      ∧ field? x "recommended_actions" = some (.arr kept)
      ∧ KeepsFirst isEqual (xs.flatMap actionsIn) kept := by
  have hboth : ∀ action ∈ (xs ++ ys).flatMap actionsIn, isSimple action := by
    rw [List.flatMap_append, List.forall_mem_append]
    exact ⟨hxs, hys⟩
  refine ⟨merged file xs, merged file ys, merged file (xs ++ ys), _, merge_eq_merged file hxs,
    merge_eq_merged file hys, merge_eq_merged file hboth, merge_merged file hxs hys, rfl, ?_⟩
  apply (keepsFirst_eraseDupsBy equivalence_sameKey _).congr
  intro a ha b hb
  exact sameKey_eq_isEqual (hxs a ha) (hxs b hb)

/--
A reply that recommends actions.
-/
def recommending (actions : List Json) : Option Fields :=
  some [("summary", .str "done"), ("recommended_actions", .arr actions)]

theorem merge_append_mixed :
    let xs := [recommending [.int 1, .str "1"], recommending [.bool true, .null]]
    let ys := [none, recommending [.bool false, .int 0, .bool true]]
    (∀ action ∈ xs.flatMap actionsIn, isSimple action)
      ∧ (∀ action ∈ ys.flatMap actionsIn, isSimple action)
      ∧ ∃ x y both kept,
        merge "a.py" (xs.map fun reply => .obj (normalize reply)) = .ok x
        ∧ merge "a.py" [.obj x, .obj y] = .ok both
        ∧ merge "a.py" ((xs ++ ys).map fun reply => .obj (normalize reply)) = .ok both
        ∧ field? x "recommended_actions" = some (.arr kept)
        ∧ KeepsFirst isEqual [.int 1, .str "1", .bool true, .null] kept := by
  intro xs ys
  have hxs : ∀ action ∈ xs.flatMap actionsIn, isSimple action := by decide
  have hys : ∀ action ∈ ys.flatMap actionsIn, isSimple action := by decide
  obtain ⟨x, y, both, kept, hx, _, hboth, hmerge, hkept, hfirst⟩ :=
    merge_append "a.py" xs ys hxs hys
  exact ⟨hxs, hys, x, y, both, kept, hx, hmerge, hboth, hkept, hfirst⟩

end CodeGauge.Review
