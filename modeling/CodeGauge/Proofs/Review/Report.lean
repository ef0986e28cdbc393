import CodeGauge.Proofs.Review.File
import CodeGauge.Review.Run

/-!
This module contains what the report on a run depends on. All that reviews are made of is put right
but the items of their issues, and an item that is no object breaks the report off before the first
finding.
-/

namespace CodeGauge.Review

open Json

namespace Printed

variable {α : Type} {p : Printed} {next : Unit → Printed} {print : α → Printed} {xs : List α}


theorem fault_andThen :
    (p.andThen next).fault = none ↔ p.fault = none ∧ (next ()).fault = none := by
  unfold andThen
  cases hfault : p.fault <;> simp [hfault]

theorem lines_andThen (h : p.fault = none) :
    (p.andThen next).lines = p.lines ++ (next ()).lines := by
  simp [andThen, h]

theorem fault_line {value : Except UseFault String} :
    (line value).fault = none ↔ ∃ s, value = .ok s := by
  cases value <;> simp [line]

theorem fault_each : (each print xs).fault = none ↔ ∀ x ∈ xs, (print x).fault = none := by
  induction xs with
  | nil => simp [each, nothing]
  | cons x xs ih => rw [each, fault_andThen, ih, List.forall_mem_cons]

theorem lines_each (h : (each print xs).fault = none) :
    (each print xs).lines = xs.flatMap fun x => (print x).lines := by
  induction xs with
  | nil => rfl
  | cons x xs ih =>
    rw [each, fault_andThen] at h
    rw [each, lines_andThen h.1, ih h.2, List.flatMap_cons]

end Printed

open Printed

def isObject : Json → Bool
  | .obj _ => true
  | _ => false

variable {issue : Json} {issues reviews : List Json} {review : FileReview}

theorem exists_issueLine_iff : (∃ s, issueLine issue = .ok s) ↔ isObject issue := by
  unfold issueLine
  cases issue <;> simp [lookup, isObject, bind, Except.bind, pure, Except.pure]

namespace Summary

variable {s : Summary}

theorem exists_severity_iff : (∃ name, severity issue = .ok name) ↔ isObject issue := by
  unfold severity
  cases issue <;> simp [lookup, isObject, bind, Except.bind, pure, Except.pure]

theorem exists_addIssues_iff :
    (∃ s', s.addIssues issues = .ok s') ↔ ∀ issue ∈ issues, isObject issue := by
  induction issues generalizing s with
  | nil => simp [addIssues]
  | cons issue issues ih =>
    simp only [addIssues, bind_eq_ok, List.forall_mem_cons]
    constructor
    . rintro ⟨s', name, hname, hs'⟩
      exact ⟨exists_severity_iff.1 ⟨name, hname⟩, ih.1 ⟨s', hs'⟩⟩
    . rintro ⟨hissue, hissues⟩
      obtain ⟨name, hname⟩ := exists_severity_iff.2 hissue
      obtain ⟨s', hs'⟩ := ih.2 hissues
      exact ⟨s', name, hname, hs'⟩

theorem exists_addReviews_iff :
    (∃ s', s.addReviews reviews = .ok s')
      ↔
    ∀ review ∈ reviews,
      ∃ issues, issuesOf review = .ok issues ∧ ∀ issue ∈ issues, isObject issue := by
  induction reviews generalizing s with
  | nil => simp [addReviews]
  | cons review reviews ih =>
    simp only [addReviews, bind_eq_ok, List.forall_mem_cons]
    constructor
    . rintro ⟨s', issues, hissues, s₁, hs₁, hs'⟩
      exact ⟨⟨issues, hissues, exists_addIssues_iff.1 ⟨s₁, hs₁⟩⟩, ih.1 ⟨s', hs'⟩⟩
    . rintro ⟨⟨issues, hissues, hobjects⟩, hreviews⟩
      obtain ⟨s₁, hs₁⟩ := exists_addIssues_iff.2 hobjects
      obtain ⟨s', hs'⟩ := ih.2 hreviews
      exact ⟨s', issues, hissues, s₁, hs₁, hs'⟩

theorem issuesOf_toFields (review : FileReview) :
    issuesOf (.obj review.toFields) = .ok review.issues := by
  rfl

end Summary

theorem fault_printActions (actions : List Json) : (printActions (.arr actions)).fault = none := by
  unfold printActions
  split
  . rw [fault_andThen]
    refine ⟨rfl, ?_⟩
    exact fault_each.2 fun _ _ => rfl
  . rfl

theorem printFindings_toFields (review : FileReview) :
    printFindings (.obj review.toFields)
      =
    if (Json.arr review.issues).isTruthy then
      (each (fun issue => line (issueLine issue)) review.issues).andThen fun () =>
        printActions (.arr review.actions)
    else
      line (.ok "No issues found") := by
  rfl

theorem fault_printFindings (review : FileReview) :
    (printFindings (.obj review.toFields)).fault = none
      ↔
    ∀ issue ∈ review.issues, isObject issue := by
  rw [printFindings_toFields]
  split
  . -- The actions of an assembled review are a list, so they are always printed.
    simp only [fault_andThen, fault_each, fault_line, exists_issueLine_iff, fault_printActions,
      and_true]
  . next hnone =>
    have hnil : review.issues = [] := by
      simpa [isTruthy] using hnone
    simp [hnil, line]

theorem printReview_toFields (review : FileReview) :
    printReview (.obj review.toFields)
      =
    (line (.ok ("\n# " ++ review.file))).andThen fun () =>
      (line (verdictLine review.verdict.toJson)).andThen fun () =>
        printFindings (.obj review.toFields) := by
  rfl

theorem fault_printReview (review : FileReview) :
    (printReview (.obj review.toFields)).fault = none
      ↔
    ∀ issue ∈ review.issues, isObject issue := by
  have hverdict : (line (verdictLine review.verdict.toJson)).fault = none := by
    rfl
  rw [printReview_toFields, fault_andThen, fault_andThen, fault_printFindings]
  exact ⟨fun h => h.2.2, fun h => ⟨rfl, hverdict, h⟩⟩

theorem file_mem_printReview (review : FileReview) :
    "\n# " ++ review.file ∈ (printReview (.obj review.toFields)).lines := by
  rw [printReview_toFields, lines_andThen rfl]
  exact List.mem_append_left _ List.mem_cons_self

theorem report_of_error {fault : UseFault} (h : Summary.ofReviews reviews = .error fault) :
    report reviews = ⟨["\n=== Summary ==="], some fault⟩ := by
  unfold report
  rw [h]
  rfl

theorem report_of_ok {s : Summary} (h : Summary.ofReviews reviews = .ok s) :
    report reviews
      =
    ⟨["\n=== Summary ===", s.toJson.pretty, "\n=== Findings ==="]
        ++ (each printReview reviews).lines,
      (each printReview reviews).fault⟩ := by
  unfold report
  rw [h]
  rfl

section

variable (hreviews : ∀ value ∈ reviews, ∃ review : FileReview, value = .obj review.toFields)
include hreviews

theorem exists_ofReviews_iff :
    (∃ s, Summary.ofReviews reviews = .ok s)
      ↔
    ∀ value ∈ reviews, (printReview value).fault = none := by
  unfold Summary.ofReviews
  rw [Summary.exists_addReviews_iff]
  apply forall₂_congr
  intro value hvalue
  obtain ⟨review, rfl⟩ := hreviews value hvalue
  rw [fault_printReview, Summary.issuesOf_toFields]
  constructor
  . rintro ⟨issues, hissues, hobjects⟩
    cases hissues
    exact hobjects
  . intro hobjects
    exact ⟨_, rfl, hobjects⟩

theorem fault_report :
    (report reviews).fault = none ↔ ∀ value ∈ reviews, (printReview value).fault = none := by
  rw [← exists_ofReviews_iff hreviews]
  cases hs : Summary.ofReviews reviews with
  | error fault => simp [report_of_error hs]
  | ok s =>
    -- The summary reads all that the findings read, so they are printed as well.
    have hprinted := (exists_ofReviews_iff hreviews).1 ⟨s, hs⟩
    rw [report_of_ok hs]
    exact ⟨fun _ => ⟨s, rfl⟩, fun _ => fault_each.2 hprinted⟩

theorem lines_printReview_subset (h : (report reviews).fault = none) {value : Json}
    (hvalue : value ∈ reviews) : (printReview value).lines ⊆ (report reviews).lines := by
  have hprinted := (fault_report hreviews).1 h
  obtain ⟨s, hs⟩ := (exists_ofReviews_iff hreviews).2 hprinted
  rw [report_of_ok hs, lines_each (fault_each.2 hprinted)]
  intro line hline
  exact List.mem_append_right _ (List.mem_flatMap.2 ⟨value, hvalue, hline⟩)

theorem lines_report_of_fault (h : (report reviews).fault ≠ none) :
    (report reviews).lines = ["\n=== Summary ==="] := by
  cases hs : Summary.ofReviews reviews with
  | error fault => rw [report_of_error hs]
  | ok s =>
    have hprinted := (exists_ofReviews_iff hreviews).1 ⟨s, hs⟩
    exact (h ((fault_report hreviews).2 hprinted)).elim

end

/--
The issues that the replies about a file list.
-/
def FileRun.listed (run : FileRun) : List Json :=
  run.calls.flatMap fun asked => issuesIn asked.2.result.toOption

section

variable {client : Groq.Client} {most : Int} {state : Groq.State} {sources : List Source}
  {run : FileRun} {value : Json}

theorem exists_of_mem_runFiles (hrun : run ∈ (runFiles client most state sources).1)
    (hvalue : run.review? = some value) :
    ∃ review : FileReview, value = .obj review.toFields
      ∧ review.file = run.file ∧ review.issues = run.listed := by
  induction sources generalizing state with
  | nil => cases hrun
  | cons source sources ih =>
    cases List.mem_cons.1 hrun with
    | inl heq =>
      subst heq
      unfold FileRun.review? at hvalue
      dsimp only at hvalue
      split at hvalue
      . next hresult =>
        cases hvalue
        obtain ⟨review, hfields, hfile, hissues⟩ := exists_of_reviewFile hresult
        refine ⟨review, by rw [hfields], hfile, ?_⟩
        rw [hissues, replies, List.flatMap_map]
        rfl
      . cases hvalue
    | inr hmem => exact ih hmem

/--
The report on a run covers every file that has a review, unless a reply about one of these files
lists an issue that is no object. Then all that is printed is the title of the summary.
-/
theorem report_runFiles (client : Groq.Client) (most : Int) (state : Groq.State)
    (sources : List Source) :
    let runs := (runFiles client most state sources).1
    let printed := report (runs.filterMap FileRun.review?)
    (printed.fault = none
        ↔ ∀ run ∈ runs, run.review?.isSome → ∀ issue ∈ run.listed, isObject issue)
      ∧ (printed.fault = none
        → ∀ run ∈ runs, run.review?.isSome → "\n# " ++ run.file ∈ printed.lines)
      ∧ (printed.fault ≠ none → printed.lines = ["\n=== Summary ==="]) := by
  intro runs printed
  have hreviews : ∀ value ∈ runs.filterMap FileRun.review?,
      ∃ review : FileReview, value = .obj review.toFields := by
    intro value hvalue
    obtain ⟨run, hrun, hvalue⟩ := List.mem_filterMap.1 hvalue
    obtain ⟨review, hfields, _⟩ := exists_of_mem_runFiles hrun hvalue
    exact ⟨review, hfields⟩
  refine ⟨?_, ?_, lines_report_of_fault hreviews⟩
  . rw [fault_report hreviews]
    simp only [List.mem_filterMap, forall_exists_index, and_imp]
    constructor
    . intro h run hrun hsome
      obtain ⟨value, hvalue⟩ := Option.isSome_iff_exists.1 hsome
      obtain ⟨review, rfl, _, hlisted⟩ := exists_of_mem_runFiles hrun hvalue
      rw [← hlisted, ← fault_printReview]
      exact h _ run hrun hvalue
    . intro h value run hrun hvalue
      obtain ⟨review, rfl, _, hlisted⟩ := exists_of_mem_runFiles hrun hvalue
      rw [fault_printReview, hlisted]
      exact h run hrun (by rw [hvalue, Option.isSome_some])
  . intro hfault run hrun hsome
    obtain ⟨value, hvalue⟩ := Option.isSome_iff_exists.1 hsome
    obtain ⟨review, rfl, hfile, _⟩ := exists_of_mem_runFiles hrun hvalue
    rw [← hfile]
    exact lines_printReview_subset hreviews hfault (List.mem_filterMap.2 ⟨run, hrun, hvalue⟩)
      (file_mem_printReview review)

/--
An answer with a number in the place of an issue.
-/
def numberAnswer : Groq.Outcome :=
  .ok ⟨200, [], Text.Utf8.encode ("\x7b\"choices\": [\x7b\"message\": "
    ++ "\x7b\"content\": \"\x7b\\\"issues\\\": [1]\x7d\"\x7d\x7d]\x7d")⟩

theorem report_runFiles_number_issue :
    let runs := (runFiles ⟨"key", "model"⟩ 6000 { wire := [numberAnswer] }
      [⟨"a.py", some (Text.Utf8.encode "import os")⟩]).1
    let printed := report (runs.filterMap FileRun.review?)
    printed.fault ≠ none ∧ printed.lines = ["\n=== Summary ==="] := by
  intro runs printed
  have hfault : printed.fault ≠ none := by
    rw [Option.ne_none_iff_isSome]
    decide +kernel
  exact ⟨hfault, (report_runFiles _ _ _ _).2.2 hfault⟩

end

end CodeGauge.Review
