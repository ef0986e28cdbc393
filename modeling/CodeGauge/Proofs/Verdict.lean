import CodeGauge.Proofs.Json.Written
import CodeGauge.Proofs.Text.CodePoint
import CodeGauge.Verdict
import Mathlib.Tactic.Simproc.ExistsAndEq

/-!
This module contains which fields stand for a verdict, that the compact form of a verdict can be
read back, and which verdicts have a text that is no string.
-/

namespace CodeGauge

open Text

variable {fields : Json.Fields} {value : Json} {v : Verdict} {g : Growth}


theorem Growth.ofName?_eq_some_iff {name : String} : ofName? name = some g ↔ g.name = name := by
  constructor
  . intro h
    unfold ofName? at h
    have hname := List.find?_some h
    simpa using hname
  . rintro rfl
    exact ofName?_name g

theorem Field.required_eq_ok_iff {α : Type} {name : String} {check : Json → Except Fault α}
    {a : α} :
    required fields name check = .ok a
      ↔
    ∃ value, Json.field? fields name = some value ∧ check value = .ok a := by
  rw [required, Checked.ofField_eq_ok_iff, ofString_string]
  cases Json.field? fields name <;> simp

theorem Field.text_eq_ok_iff {s : String} : text value = .ok s ↔ value = .str s := by
  cases value <;> simp [text]

namespace Verdict

theorem growth_eq_ok_iff : growth value = .ok g ↔ value = .str g.name := by
  cases value with
  | str name =>
    rw [Json.str.injEq, @eq_comm _ name, ← Growth.ofName?_eq_some_iff]
    simp only [growth, whole?_string, Option.bind_some]
    split
    . next hname => rw [hname, Except.ok.injEq, Option.some.injEq]
    . next hname => simp [hname]
  | _ => simp [growth]

/--
The texts and the names of the classes are taken as they are. Only the rating is converted.
-/
theorem ofFields_eq_ok_iff :
    ofFields fields = .ok v
      ↔
    Json.field? fields "timeComplexity" = some (.str v.timeLabel)
      ∧ Json.field? fields "timeComplexityType" = some (.str v.time.name)
      ∧ Json.field? fields "timeExplanation" = some (.str v.timeNote)
      ∧ Json.field? fields "spaceComplexity" = some (.str v.spaceLabel)
      ∧ Json.field? fields "spaceComplexityType" = some (.str v.space.name)
      ∧ Json.field? fields "spaceExplanation" = some (.str v.spaceNote)
      ∧ ∃ rating, Json.field? fields "codeRating" = some rating ∧ stars rating = .ok v.rating := by
  cases v
  simp only [ofFields, Checked.seq_eq_ok_iff, Checked.map_eq_ok_iff, Field.required_eq_ok_iff,
    Field.text_eq_ok_iff, growth_eq_ok_iff, mk.injEq, existsAndEq, and_assoc, true_and, and_true]

theorem plain_toJson (room : Nat) (hmost : v.rating ≤ 5) : Json.Plain (room + 1) v.toJson := by
  apply Json.Plain.obj
  . simp only [fields, List.map_cons, List.map_nil]
    decide
  . intro f _
    exact ⟨f.1, rfl⟩
  . intro f hf
    simp only [fields, List.mem_cons, List.not_mem_nil, or_false] at hf
    rcases hf with rfl | rfl | rfl | rfl | rfl | rfl | rfl
    iterate 6 exact .str _
    apply Json.Plain.int
    rw [Int.natAbs_natCast, Nat.toDigits_of_lt_base (by omega), List.length_singleton]
    decide

theorem read_compact (hmost : v.rating ≤ 5) : Json.read v.compact.toList = .ok v.toJson :=
  Json.read_write (plain_toJson _ hmost)

/--
Whether a surrogate stands alone in one of the labels and reasons of a verdict.
-/
def IsTorn (v : Verdict Wide) : Prop :=
  ∃ s ∈ [v.timeLabel, v.timeNote, v.spaceLabel, v.spaceNote], Text.IsTorn s

theorem whole?_eq_none_iff {v : Verdict Wide} : v.whole? = none ↔ v.IsTorn := by
  simp only [IsTorn, List.mem_cons, List.not_mem_nil, or_false, exists_eq_or_imp,
    exists_eq_left, ← Text.whole?_eq_none_iff]
  unfold whole?
  cases Wording.whole? v.timeLabel with
  | none => simp
  | some timeLabel =>
    cases Wording.whole? v.timeNote with
    | none => simp
    | some timeNote =>
      cases Wording.whole? v.spaceLabel with
      | none => simp
      | some spaceLabel => cases Wording.whole? v.spaceNote <;> simp

end Verdict
end CodeGauge
