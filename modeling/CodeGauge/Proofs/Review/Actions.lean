import CodeGauge.Proofs.Review.Merge
import Mathlib.Data.List.Basic

/-!
This module contains what reviews of answers are merged into. Issues and summaries are put right
before, so all depends on the recommended actions: each of them needs a key, which arrays and
objects do not have.
-/

namespace CodeGauge.Review

open Json

variable {values : List Json}


/--
Whether a value has parts. Such a value has no key.
-/
def isCompound : Json → Bool
  | .arr _ => true
  | .obj _ => true
  | _ => false

/--
Whether two values have the same key.
-/
def sameKey (a b : Json) : Bool :=
  a.key? == b.key?

/--
The actions that an answer recommends. One without an object recommends none.
-/
def actionsIn : Option Fields → List Json
  | some fields => listedAt "recommended_actions" fields
  | none => []

/--
The summary that comes with an answer.
-/
def summaryIn : Option Fields → String
  | some fields =>
    match field? fields "summary" with
    | some (.str s) => s
    | _ => ""
  | none => "Non-JSON response"

theorem isSome_key? (value : Json) : value.key?.isSome = !isCompound value := by
  cases value <;> rfl

theorem key_eq (value : Json) :
    value.key
      =
    match value.key? with
    | some key => .ok key
    | none => .error (.noKey value.kind) := by
  rfl

/--
Values with their keys. The first one without a key is at fault.
-/
theorem mapM_key (values : List Json) :
    (values.mapM fun value => return (← value.key, value))
      =
    match values.find? isCompound with
    | some value => .error (.noKey value.kind)
    | none => .ok (values.filterMap fun value => value.key?.map (·, value)) := by
  induction values with
  | nil => rfl
  | cons value values ih =>
    rw [List.mapM_cons, ih, key_eq]
    have hkey := isSome_key? value
    cases h : value.key? with
    | none =>
      rw [h] at hkey
      have hcompound : isCompound value = true := by simpa using hkey
      rw [List.find?_cons_of_pos hcompound]
      rfl
    | some key =>
      rw [h] at hkey
      have hcompound : ¬ isCompound value = true := by simpa using hkey
      rw [List.find?_cons_of_neg hcompound, List.filterMap_cons, h]
      cases values.find? isCompound <;> rfl

theorem contains_key (kept : List Json) {value : Json} {key : Key} (h : value.key? = some key) :
    (kept.filterMap key?).contains key = kept.any (sameKey value) := by
  induction kept with
  | nil => rfl
  | cons first kept ih =>
    rw [List.any_cons, ← ih, sameKey, h]
    cases hfirst : first.key? with
    | none => rw [List.filterMap_cons_none hfirst, Option.some_beq_none, Bool.false_or]
    | some key' => rw [List.filterMap_cons_some hfirst, List.contains_cons, Option.some_beq_some]

theorem dedup_go_eq (kept : List Json) (h : ∀ value ∈ values, value.key?.isSome) :
    kept.reverse ++ dedup.go (kept.filterMap key?)
        (values.filterMap fun value => value.key?.map (·, value))
      =
    List.eraseDupsBy.loop sameKey values kept := by
  induction values generalizing kept with
  | nil => simp [dedup.go, List.eraseDupsBy.loop]
  | cons value values ih =>
    rw [List.forall_mem_cons] at h
    obtain ⟨key, hkey⟩ := Option.isSome_iff_exists.1 h.1
    rw [List.filterMap_cons, hkey, List.eraseDupsBy.loop, ← contains_key kept hkey]
    dsimp only [Option.map_some]
    rw [dedup.go]
    split
    . next hseen =>
      rw [hseen]
      exact ih kept h.2
    . next hseen =>
      rw [Bool.eq_false_iff.2 hseen]
      dsimp only
      rw [← ih (value :: kept) h.2, List.filterMap_cons_some hkey, List.reverse_cons,
        List.append_assoc, List.singleton_append]

/--
The values that stay are the first ones of their keys.
-/
theorem dedup_eq_eraseDupsBy (h : values.find? isCompound = none) :
    dedup (values.filterMap fun value => value.key?.map (·, value))
      =
    values.eraseDupsBy sameKey := by
  have hkeys : ∀ value ∈ values, value.key?.isSome := by
    intro value hvalue
    rw [isSome_key?]
    simpa using List.find?_eq_none.1 h value hvalue
  exact dedup_go_eq [] hkeys

theorem field?_actions_normalize (reply : Option Fields) :
    field? (normalize reply) "recommended_actions" = some (.arr (actionsIn reply)) := by
  cases reply with
  | none => rfl
  | some fields =>
    simp only [normalize]
    rw [field?_setField_self, fieldOr_isArray]
    rfl

theorem field?_summary_normalize (reply : Option Fields) :
    field? (normalize reply) "summary" = some (.str (summaryIn reply)) := by
  cases reply with
  | none => rfl
  | some fields =>
    simp only [normalize]
    rw [field?_setField_of_ne (by decide), field?_setField_self]
    unfold fieldOr
    dsimp only [summaryIn]
    cases field? fields "summary" with
    | none => rfl
    | some value => cases value <;> rfl

theorem actions_normalize (replies : List (Option Fields)) :
    actions (replies.map fun reply => .obj (normalize reply))
      =
    (replies.flatMap actionsIn).mapM fun value => return (← value.key, value) := by
  induction replies with
  | nil => rfl
  | cons reply replies ih =>
    rw [List.map_cons, actions, listed_of_field? (field?_actions_normalize reply), ih,
      List.flatMap_cons, List.mapM_append]
    rfl

theorem summaries_normalize (replies : List (Option Fields)) :
    summaries (replies.map fun reply => .obj (normalize reply))
      =
    .ok (((replies.map summaryIn).filter (!·.isEmpty)).map .str) := by
  induction replies with
  | nil => rfl
  | cons reply replies ih =>
    rw [List.map_cons, summaries, lookup, field?_summary_normalize, ih, List.map_cons]
    cases hempty : (summaryIn reply).isEmpty <;>
      simp [hempty, bind, Except.bind, pure, Except.pure, Option.filter_some, isTruthy]

theorem joined_go_texts (index : Nat) (texts : List String) :
    joined.go index (texts.map .str) = .ok texts := by
  induction texts generalizing index with
  | nil => rfl
  | cons s texts ih =>
    rw [List.map_cons, joined.go, ih]
    rfl

theorem joined_texts (texts : List String) :
    joined (texts.map .str) = .ok (" ".intercalate texts) := by
  rw [joined, joined_go_texts]
  rfl

/--
Answers are merged unless one of them recommends an array or an object as an action, and then the
first of these is at fault. The merged review has all the issues, all the summaries that say
something, and of the actions with the same key the first one.
-/
theorem merge_normalize (file : String) (replies : List (Option Fields)) :
    merge file (replies.map fun reply => .obj (normalize reply))
      =
    match (replies.flatMap actionsIn).find? isCompound with
    | some action => .error (.noKey action.kind)
    | none => .ok [
        ("file", .str file),
        ("issues", .arr (replies.flatMap issuesIn)),
        ("summary", .str (" ".intercalate ((replies.map summaryIn).filter (!·.isEmpty)))),
        ("recommended_actions", .arr ((replies.flatMap actionsIn).eraseDupsBy sameKey))] := by
  unfold merge
  rw [actions_normalize, mapM_key, issues_normalize, summaries_normalize]
  cases h : (replies.flatMap actionsIn).find? isCompound with
  | some action => rfl
  | none =>
    rw [← dedup_eq_eraseDupsBy h]
    simp only [bind, Except.bind, pure, Except.pure, joined_texts]

/--
The issue that has been found is lost with the review.
-/
theorem merge_normalize_listed_action :
    merge "a.py" ([some [("issues", .arr [.obj [("message", .str "off by one")]]),
        ("recommended_actions", .arr [.arr [.str "add a test"]])]].map fun reply =>
          .obj (normalize reply))
      =
    .error (.noKey "list") := by
  rw [merge_normalize]
  rfl

end CodeGauge.Review
