import CodeGauge.Chat.Opinion
import CodeGauge.Proofs.Chat.Reply
import CodeGauge.Proofs.Label
import CodeGauge.Proofs.Verdict

/-!
This module contains what becomes of the reply of a model: the verdict in it is taken as it stands,
and the compact form of a verdict is a reply that comes to this verdict.
-/

namespace CodeGauge

open Text

variable {τ : Type} {code : String} {model : Option String} {fields : Json.Fields} {v : Verdict}
  {answer : Query → Except Failure Json.Fields}


theorem Query.ofCode_of_visible (model : Option String)
    (hvisible : ∃ c ∈ code.toList, ¬ isBlank c) :
    ofCode (τ := τ) code model = .ok ⟨Prompt.analysis (trim code), Prompt.system, model⟩ :=
  if_neg ((not_allBlank_iff code).2 hvisible)

theorem Reply.extract_of_read {text : String} (h : Json.read text.toList = .ok (.obj fields)) :
    extract text = .ok fields := by
  have hsettles : settles Json.maxNesting text.toList = some (.ok fields) := by
    rw [settles, h]
  rw [extract_eq, pieces, List.findSome?_cons, hsettles, Option.getD_some]

namespace Verdict

/--
Whether each label that fields hold is raised.
-/
def HoldsRaised (fields : Json.Fields) : Prop :=
  ∀ name ∈ ["timeComplexity", "spaceComplexity"], ∀ label,
    Json.field? fields name = some (.str label) → Label.IsRaised label.toList

theorem isRaised_iff_of_ofFields (h : ofFields fields = .ok v) :
    v.IsRaised ↔ HoldsRaised fields := by
  obtain ⟨htime, _, _, hspace, _⟩ := ofFields_eq_ok_iff.1 h
  simp [IsRaised, HoldsRaised, htime, hspace]

end Verdict

namespace Opinion

theorem ask_of_ofCode [BEq τ] [Wording τ] {query : Query}
    {answer : Query → Except (Failure τ) (Json.Fields τ)}
    (h : Query.ofCode (τ := τ) code model = .ok query) (room : Nat) :
    ask answer code model room = ([query], ofOutcome (answer query) room) := by
  rw [ask, h]

theorem ofOutcome_error [BEq τ] [Wording τ] {failure : Failure τ}
    (h : ∀ message raw, failure ≠ .unusable message raw) (room : Nat) :
    ofOutcome (.error failure) room = .error failure := by
  unfold ofOutcome
  split
  . next heq => cases heq
  . next heq =>
    cases heq
    exact (h _ _ rfl).elim
  . next heq =>
    cases heq
    rfl

theorem ofOutcome_eq_verdict_iff {outcome : Except Failure Json.Fields} :
    ofOutcome outcome = .ok (.verdict v)
      ↔
    ∃ fields, outcome = .ok fields ∧ Verdict.ofFields fields = .ok v := by
  unfold ofOutcome
  split
  . next fields =>
    unfold ofFields
    cases hv : Verdict.ofFields fields with
    | ok w => simp [hv]
    | faulty faults =>
      dsimp only
      split <;> simp [hv]
  . simp
  . simp

theorem ofOutcome_compact (hpos : 1 ≤ v.rating) (hmost : v.rating ≤ 5) :
    ofOutcome (Reply.extract v.compact) = .ok (.verdict v) := by
  rw [ofOutcome_eq_verdict_iff]
  exact ⟨v.fields, Reply.extract_of_read (Verdict.read_compact hmost),
    Verdict.ofJson_toJson v hpos hmost⟩

/--
A model that replies with the compact form of a verdict has this verdict as its opinion on any text,
whatever stands in the labels and reasons.
-/
theorem ask_compact (hpos : 1 ≤ v.rating) (hmost : v.rating ≤ 5)
    (hvisible : ∃ c ∈ code.toList, ¬ isBlank c) :
    ask (fun _ => Reply.extract v.compact) code model
      =
    ([⟨Prompt.analysis (trim code), Prompt.system, model⟩], .ok (.verdict v)) := by
  rw [ask_of_ofCode (Query.ofCode_of_visible model hvisible), ofOutcome_compact hpos hmost]

/--
A verdict whose texts hold what a writer has to escape and what a reader of replies looks for.
-/
def oddVerdict : Verdict where
  timeLabel := "O(\"n\")"
  time := .linear
  timeNote := "```json\n\x7b\"a\": 1\x7d\n```"
  spaceLabel := "O(1)\\"
  space := .constant
  spaceNote := "\u0000\u001f\t\r é 😀 \x7d\x7b"
  rating := 4

theorem ask_compact_odd :
    ask (fun _ => Reply.extract oddVerdict.compact) " x = 1\n" (some "m")
      =
    ([⟨Prompt.analysis (trim " x = 1\n"), Prompt.system, some "m"⟩],
      .ok (.verdict oddVerdict)) :=
  ask_compact (by decide) (by decide) ⟨'x', by decide, by decide⟩

/--
The labels of the rules are raised. Those of a model are raised if and only if they are so in its
reply.
-/
theorem isRaised_iff :
    (∀ text, (Verdict.ofText text).IsRaised)
      ∧ ∀ queries v, ask answer code model = (queries, .ok (.verdict v)) →
        ∃ query fields, queries = [query] ∧ answer query = .ok fields
          ∧ (v.IsRaised ↔ Verdict.HoldsRaised fields) := by
  refine ⟨Verdict.isRaised_ofText, ?_⟩
  intro queries v hask
  unfold ask at hask
  split at hask
  . cases hask
  . next query _ =>
    rw [Prod.mk.injEq, ofOutcome_eq_verdict_iff] at hask
    obtain ⟨hqueries, fields, hanswer, hfields⟩ := hask
    exact ⟨query, fields, hqueries.symm, hanswer, Verdict.isRaised_iff_of_ofFields hfields⟩

/--
A verdict of the rules, but with a label that is not raised.
-/
def caretVerdict : Verdict :=
  { Verdict.ofGrowth .quadratic .constant with timeLabel := "O(n^2)" }

theorem not_isRaised_caret :
    ask (fun _ => Reply.extract caretVerdict.compact) "x = 1" none
      = ([⟨Prompt.analysis (trim "x = 1"), Prompt.system, none⟩], .ok (.verdict caretVerdict))
      ∧ ¬ caretVerdict.IsRaised := by
  have hvisible : ∃ c ∈ "x = 1".toList, ¬ isBlank c := ⟨'x', by decide, by decide⟩
  have hcode := Query.ofCode_of_visible (τ := String) none hvisible
  have hask : ask (fun _ => Reply.extract caretVerdict.compact) "x = 1" none = (_, _) :=
    ask_of_ofCode hcode _
  rw [ofOutcome_compact (by decide) (by decide)] at hask
  refine ⟨hask, ?_⟩
  obtain ⟨query, fields, _, hreply, hraised⟩ := isRaised_iff.2 _ _ hask
  rw [Reply.extract_of_read (Verdict.read_compact (by decide)), Except.ok.injEq] at hreply
  rw [hraised, ← hreply]
  intro hall
  have hlabel := hall "timeComplexity" (by decide) "O(n^2)" rfl '2' (by decide)
  cases hlabel

end Opinion
end CodeGauge
