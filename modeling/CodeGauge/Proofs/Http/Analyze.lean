import CodeGauge.Proofs.Http.Handle
import CodeGauge.Proofs.Json.Start
import CodeGauge.Proofs.Json.Written
import CodeGauge.Proofs.Text.Blank
import CodeGauge.Proofs.Text.CodePoint
import CodeGauge.Proofs.Text.Encoding
import Mathlib.Tactic.Simproc.ExistsAndEq

/-!
This module contains which requests for an analysis by the rules are answered, and that all others
are refused.
-/

namespace CodeGauge.Http

open Text

variable {limit : Int} {fields : Json.Fields Wide} {code : String} {value : Json Wide}
  {request : Request} {cs : List Char} {service : Service}


/--
What fields have to say to ask for the analysis of a text: a text that is not too long and not
blank, and maybe the name of a model. No surrogate may stand alone in either.
-/
structure AsksFor (limit : Int) (fields : Json.Fields Wide) (code : String) : Prop where
  codeField : Json.field? fields (Wording.ofString "code") = some (.str (Wording.ofString code))
  length_le : code.length ≤ limit
  visible : ∃ c ∈ code.toList, ¬ isBlank c
  modelField : Json.field? fields (Wording.ofString "model") = none
    ∨ Json.field? fields (Wording.ofString "model") = some .null
    ∨ ∃ model : String, Json.field? fields (Wording.ofString "model")
      = some (.str (Wording.ofString model)) ∧ model.length ≤ 100

theorem string_eq_ok_iff {s : String} :
    Field.string value = .ok s ↔ value = .str (Wording.ofString s) := by
  cases value with
  | str text =>
    rw [Json.str.injEq, ← whole?_eq_some_iff]
    simp only [Field.string]
    split
    . next hwhole => rw [hwhole, Except.ok.injEq, Option.some.injEq]
    . next hwhole => simp [hwhole]
  | _ => simp [Field.string]

theorem checkCode_eq_ok_iff :
    checkCode limit value = .ok code
      ↔
    value = .str (Wording.ofString code) ∧ code.length ≤ limit
      ∧ ∃ c ∈ code.toList, ¬ isBlank c := by
  rw [← not_allBlank_iff, ← string_eq_ok_iff]
  unfold checkCode
  split
  . next hstring => simp [hstring]
  . next s hstring =>
    rw [hstring, Except.ok.injEq]
    split
    . next hlong =>
      constructor
      . nofun
      . rintro ⟨rfl, hle, _⟩
        omega
    . next hshort =>
      split
      . next hblank =>
        constructor
        . nofun
        . rintro ⟨rfl, _, hvisible⟩
          exact (hvisible hblank).elim
      . next hvisible =>
        rw [Except.ok.injEq]
        constructor
        . rintro rfl
          exact ⟨rfl, by omega, hvisible⟩
        . rintro ⟨rfl, _⟩
          rfl

theorem checkModel_of_ne_null (h : value ≠ .null) :
    checkModel value
      =
    match Field.string value with
    | .error fault => .error fault
    | .ok s => if 100 < s.length then .error .textTooLong else .ok (some s) := by
  cases value with
  | null => exact (h rfl).elim
  | _ => rfl

theorem exists_checkModel_iff :
    (∃ model, checkModel value = .ok model)
      ↔
    value = .null
      ∨ ∃ model : String, value = .str (Wording.ofString model) ∧ model.length ≤ 100 := by
  by_cases hnull : value = .null
  . simp [hnull, checkModel]
  . simp only [checkModel_of_ne_null hnull, hnull, false_or, ← string_eq_ok_iff]
    split
    . next hstring => simp [hstring]
    . next s hstring =>
      split
      . next hlong => simp [hstring, hlong]
      . next hshort => simpa [hstring] using hshort

/--
A missing text is read as an empty one, which is blank.
-/
theorem checkCode_field_eq_ok_iff :
    checkCode limit ((Json.field? fields (Wording.ofString "code")).getD (.str (Wording.ofString "")))
        = .ok code
      ↔
    Json.field? fields (Wording.ofString "code") = some (.str (Wording.ofString code))
      ∧ code.length ≤ limit ∧ ∃ c ∈ code.toList, ¬ isBlank c := by
  rw [checkCode_eq_ok_iff]
  cases Json.field? fields (Wording.ofString "code") with
  | none =>
    simp only [Option.getD_none, Json.str.injEq, ofString_inj, reduceCtorEq, false_and, iff_false]
    rintro ⟨rfl, _, c, hc, _⟩
    cases hc
  | some value => simp

theorem exists_optional_model_iff :
    (∃ model, Field.optional fields "model" none checkModel = .ok model)
      ↔
    Json.field? fields (Wording.ofString "model") = none
      ∨ Json.field? fields (Wording.ofString "model") = some .null
      ∨ ∃ model : String, Json.field? fields (Wording.ofString "model")
        = some (.str (Wording.ofString model)) ∧ model.length ≤ 100 := by
  simp only [Field.optional, Checked.ofField_eq_ok_iff]
  cases Json.field? fields (Wording.ofString "model") with
  | none => simp
  | some value => simp [exists_checkModel_iff]

theorem exists_ofJson_iff :
    (∃ model, AnalyzeRequest.ofJson limit value = .ok ⟨code, model⟩)
      ↔
    ∃ fields, value = .obj fields ∧ AsksFor limit fields code := by
  cases value with
  | obj fields =>
    simp only [AnalyzeRequest.ofJson, Checked.seq_eq_ok_iff, Checked.map_eq_ok_iff,
      Checked.ofField_eq_ok_iff, checkCode_field_eq_ok_iff, AnalyzeRequest.mk.injEq, existsAndEq,
      and_assoc, true_and, and_true]
    constructor
    . rintro ⟨model, hcode, hle, hvisible, hmodel⟩
      exact ⟨fields, rfl, hcode, hle, hvisible, exists_optional_model_iff.1 ⟨model, hmodel⟩⟩
    . rintro ⟨_, ⟨⟩, hasks⟩
      obtain ⟨model, hmodel⟩ := exists_optional_model_iff.2 hasks.modelField
      exact ⟨model, hasks.codeField, hasks.length_le, hasks.visible, hmodel⟩
  | _ => simp [AnalyzeRequest.ofJson]

theorem ofRequest_of_read (limit : Int) (htype : (request.header? "content-type").any isJsonType)
    (hdecode : decodeMarked request.body = .ok cs) (hread : Json.readUnmarked cs = .ok value) :
    AnalyzeRequest.ofRequest limit request
      =
    match AnalyzeRequest.ofJson limit value with
    | .ok request => .ok request
    | .faulty faults => .error (.invalid faults) := by
  have hbody : ¬ request.body.isEmpty = true := by
    intro hempty
    rw [List.isEmpty_iff.1 hempty] at hdecode
    cases hdecode
    cases hread
  unfold AnalyzeRequest.ofRequest
  rw [if_neg hbody, htype, hdecode]
  dsimp only [Bool.not_true]
  rw [hread]
  rfl

theorem ofRequest_eq (limit : Int) (htype : (request.header? "content-type").any isJsonType)
    (hutf8 : Utf8.decode (withoutMark request.body) = .ok cs)
    (hread : Json.readUnmarked cs = .ok value) :
    AnalyzeRequest.ofRequest limit request
      =
    match AnalyzeRequest.ofJson limit value with
    | .ok request => .ok request
    | .faulty faults => .error (.invalid faults) :=
  ofRequest_of_read limit htype (decodeMarked_of_utf8 hutf8 (Json.null_not_mem_take_two hread))
    hread

/--
The value that brings a text to analyze and the name of a model.
-/
def requestValue (code model : String) : Json Wide :=
  .obj [
    (Wording.ofString "code", .str (Wording.ofString code)),
    (Wording.ofString "model", .str (Wording.ofString model))]

theorem readUnmarked_requestValue (code model : String) :
    Json.readUnmarked ((requestValue code model).write .compact).toList
      =
    .ok (requestValue code model) := by
  apply Json.readUnmarked_of_read
  apply Json.read_write
  apply Json.Plain.obj
  . simp only [List.map_cons, List.map_nil]
    decide
  . intro f hf
    rcases List.mem_pair.1 hf with rfl | rfl
    . exact ⟨_, rfl⟩
    . exact ⟨_, rfl⟩
  . intro f hf
    rcases List.mem_pair.1 hf with rfl | rfl
    . exact .str _
    . exact .str _

theorem ofJson_requestValue {model : String} (hcode : code.length ≤ limit)
    (hvisible : ∃ c ∈ code.toList, ¬ isBlank c) (hmodel : model.length ≤ 100) :
    AnalyzeRequest.ofJson limit (requestValue code model) = .ok ⟨code, some model⟩ := by
  have hnull : Json.str (τ := Wide) (Wording.ofString model) ≠ .null := nofun
  have hname : checkModel (.str (Wording.ofString model)) = .ok (some model) := by
    rw [checkModel_of_ne_null hnull, string_eq_ok_iff.2 rfl]
    exact if_neg (by omega)
  have htext := checkCode_eq_ok_iff.2 ⟨rfl, hcode, hvisible⟩
  simp only [requestValue, AnalyzeRequest.ofJson, Checked.seq_eq_ok_iff, Checked.map_eq_ok_iff,
    Checked.ofField_eq_ok_iff]
  exact ⟨_, _, ⟨_, htext, rfl⟩, Checked.ofField_eq_ok_iff.2 hname, rfl⟩

theorem serve_analyze_of_ok {model : Option String} (hrules : service.rules = judgeByRules)
    (h : AnalyzeRequest.ofRequest service.settings.maxCodeLength request = .ok ⟨code, model⟩) :
    (service.serve request .analyze).response.Answers 200
      [("result", .str (Verdict.ofText code).compact)] := by
  simp only [Service.serve, Service.serve.withBody, h, Service.analyze, hrules, judgeByRules]
  exact ⟨rfl, rfl⟩

theorem serve_analyze_of_invalid {faults : List FieldFault}
    (h : AnalyzeRequest.ofRequest service.settings.maxCodeLength request
      = .error (.invalid faults)) :
    ∃ message, (service.serve request .analyze).response.Answers 400
      [("message", .str message)] := by
  simp only [Service.serve, Service.serve.withBody, h, BodyFault.response]
  exact ⟨_, rfl, rfl⟩

/--
A body that writes a value is judged if and only if the value asks for it. All other bodies are
refused with a message, and the program fails in no case.
-/
theorem handle_analyze (hrules : service.rules = judgeByRules) (hmethod : request.method = "POST")
    (hpath : request.path = Route.analyze.path)
    (htype : (request.header? "content-type").any isJsonType)
    (hlength : request.header? "content-length" = none)
    (hutf8 : Utf8.decode (withoutMark request.body) = .ok cs)
    (hread : Json.readUnmarked cs = .ok value) :
    let handled := service.handle request
    let Asks code := ∃ fields, value = .obj fields
      ∧ AsksFor service.settings.maxCodeLength fields code
    (handled.response.status = 200 ↔ ∃ code, Asks code)
      ∧ (∀ code, Asks code →
        handled.response.Answers 200 [("result", .str (Verdict.ofText code).compact)])
      ∧ ((¬ ∃ code, Asks code) →
        ∃ message, handled.response.Answers 400 [("message", .str message)])
      ∧ handled.failure = none := by
  intro handled Asks
  have hgate : gate service.settings.maxRequestSize request = .pass := by
    simp only [gate, hlength]
  obtain ⟨headers, hhandled : handled = _⟩ := handle_of_path service hpath hmethod hgate
  have hbody := ofRequest_eq service.settings.maxCodeLength htype hutf8 hread
  have hasked : ∀ code, Asks code →
      handled.response.Answers 200 [("result", .str (Verdict.ofText code).compact)] := by
    intro code hasks
    obtain ⟨model, hvalue⟩ := exists_ofJson_iff.2 hasks
    rw [hvalue] at hbody
    rw [hhandled, Response.answers_with_headers]
    exact serve_analyze_of_ok hrules hbody
  have hrefused : (¬ ∃ code, Asks code) →
      ∃ message, handled.response.Answers 400 [("message", .str message)] := by
    intro hnot
    simp only [hhandled, Response.answers_with_headers]
    cases hvalue : AnalyzeRequest.ofJson service.settings.maxCodeLength value with
    | ok body => exact (hnot ⟨body.code, exists_ofJson_iff.1 ⟨body.model, hvalue⟩⟩).elim
    | faulty faults =>
      rw [hvalue] at hbody
      exact serve_analyze_of_invalid hbody
  refine ⟨⟨?_, ?_⟩, hasked, hrefused, ?_⟩
  . intro hstatus
    by_contra hnot
    obtain ⟨_, hrefusal, _⟩ := hrefused hnot
    rw [hstatus] at hrefusal
    cases hrefusal
  . rintro ⟨code, hasks⟩
    exact (hasked code hasks).1
  . rw [hhandled]
    exact failure_serve_analyze request

/--
A service with the standard settings and no model.
-/
def ruleService : Service where
  settings := {}
  gemini := .create none none {}
  rules := judgeByRules
  model _ := .error (.unavailable [])

/--
A request for the analysis of a short text, with a model that is null.
-/
def shortRequest : Request where
  method := "POST"
  target := Route.analyze.path
  headers := [("content-type", "application/json; charset=utf-8")]
  body := Utf8.encode "\x7b\"code\": \"x = 1\", \"model\": null\x7d"

def shortFields : Json.Fields Wide :=
  [(Wording.ofString "code", .str (Wording.ofString "x = 1")), (Wording.ofString "model", .null)]

theorem handle_analyze_short :
    (ruleService.handle shortRequest).response.Answers 200
      [("result", .str (Verdict.ofText "x = 1").compact)] := by
  have hutf8 : Utf8.decode (withoutMark shortRequest.body)
      = .ok "\x7b\"code\": \"x = 1\", \"model\": null\x7d".toList :=
    strict_eq_ok_iff.2 (by decide +kernel)
  have hread : Json.readUnmarked "\x7b\"code\": \"x = 1\", \"model\": null\x7d".toList
      = .ok (.obj shortFields) := by
    cbv
  have hasks : AsksFor ruleService.settings.maxCodeLength shortFields "x = 1" :=
    ⟨rfl, by decide, ⟨'x', by decide, by decide⟩, .inr (.inl rfl)⟩
  have htype : (shortRequest.header? "content-type").any isJsonType := by decide +kernel
  have hpath : shortRequest.path = Route.analyze.path := by decide +kernel
  exact (handle_analyze rfl rfl hpath htype rfl hutf8 hread).2.1 "x = 1" ⟨_, rfl, hasks⟩

end CodeGauge.Http
