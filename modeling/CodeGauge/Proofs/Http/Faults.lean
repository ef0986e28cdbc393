import CodeGauge.Proofs.Http.Analyze

/-!
This module contains the message with which an invalid request for an analysis is refused. It is
about the length of the text to analyze not only if that text is too long, but also if the name of
the model is.
-/

namespace CodeGauge.Http

open Text

variable {limit : Int} {fields : Json.Fields Wide} {value : Json Wide} {request : Request}
  {cs : List Char} {service : Service} {route : Route} {faults : List FieldFault}


/--
Whether a value brings a text to analyze that is longer than the limit. One that is not given is
empty, and one in which a surrogate stands alone does not count.
-/
def BringsLongCode (limit : Int) (value : Json Wide) : Prop :=
  ∃ fields, value = .obj fields ∧ ∃ code : String,
    (Json.field? fields (Wording.ofString "code")).getD (.str (Wording.ofString ""))
      = .str (Wording.ofString code) ∧ limit < code.length

/--
Whether a value brings the name of a model that is longer than 100 characters.
-/
def BringsLongModel (value : Json Wide) : Prop :=
  ∃ fields, value = .obj fields ∧ ∃ model : String,
    Json.field? fields (Wording.ofString "model") = some (.str (Wording.ofString model))
      ∧ 100 < model.length

theorem ne_tooLong_of_string {fault : Fault} (h : Field.string value = .error fault) :
    fault ≠ .textTooLong := by
  unfold Field.string at h
  split at h
  . split at h <;> cases h
    nofun
  . cases h
    nofun

theorem checkCode_eq_tooLong_iff :
    checkCode limit value = .error .textTooLong
      ↔
    ∃ code : String, value = .str (Wording.ofString code) ∧ limit < code.length := by
  simp only [← string_eq_ok_iff]
  unfold checkCode
  split
  . next hstring => simp [hstring, ne_tooLong_of_string hstring]
  . next s hstring =>
    split
    . next hlong => simp [hstring, hlong]
    . next hshort =>
      split
      all_goals simp [hstring, hshort]

theorem checkModel_eq_tooLong_iff :
    checkModel value = .error .textTooLong
      ↔
    ∃ model : String, value = .str (Wording.ofString model) ∧ 100 < model.length := by
  by_cases hnull : value = .null
  . simp [hnull, checkModel]
  . simp only [checkModel_of_ne_null hnull, ← string_eq_ok_iff]
    split
    . next hstring => simp [hstring, ne_tooLong_of_string hstring]
    . next s hstring =>
      split
      . next hlong => simp [hstring, hlong]
      . next hshort => simpa [hstring] using hshort

theorem any_optional_tooLong_iff :
    (Field.optional fields "model" none checkModel).faults.any (·.fault == .textTooLong)
      ↔
    ∃ model : String,
      Json.field? fields (Wording.ofString "model") = some (.str (Wording.ofString model))
        ∧ 100 < model.length := by
  rw [Field.optional, Checked.any_faults_ofField]
  cases Json.field? fields (Wording.ofString "model") with
  | none => simp
  | some value => simp [checkModel_eq_tooLong_iff]

/--
The faults of both fields are listed, and the length of either is among them if it is at fault.
-/
theorem any_tooLong_iff :
    (AnalyzeRequest.ofJson limit value).faults.any (·.fault == .textTooLong)
      ↔
    BringsLongCode limit value ∨ BringsLongModel value := by
  unfold BringsLongCode BringsLongModel
  cases value with
  | obj fields =>
    simp only [AnalyzeRequest.ofJson, Checked.faults_seq, Checked.faults_map, List.any_append,
      Bool.or_eq_true, Checked.any_faults_ofField, checkCode_eq_tooLong_iff,
      any_optional_tooLong_iff, Json.obj.injEq, exists_eq_left']
  | _ => simp [AnalyzeRequest.ofJson, Checked.faults]

theorem ofRequest_of_invalid (htype : (request.header? "content-type").any isJsonType)
    (hdecode : decodeMarked request.body = .ok cs) (hread : Json.readUnmarked cs = .ok value)
    (hinvalid : AnalyzeRequest.ofJson limit value = .faulty faults) :
    AnalyzeRequest.ofRequest limit request = .error (.invalid faults) := by
  rw [ofRequest_of_read limit htype hdecode hread, hinvalid]

/--
Both routes for an analysis refuse an invalid request alike.
-/
theorem serve_of_invalid (hroute : route.method = "POST")
    (h : AnalyzeRequest.ofRequest service.settings.maxCodeLength request
      = .error (.invalid faults)) :
    service.serve request route
      =
    ⟨(BodyFault.invalid faults).response service.settings.maxCodeLength, [], none⟩ := by
  cases route with
  | front => exact absurd hroute (by decide)
  | health => exact absurd hroute (by decide)
  | analyze => simp only [Service.serve, Service.serve.withBody, h]
  | analyzeByModel => simp only [Service.serve, Service.serve.withBody, h]

/--
The message about the length of the text to analyze.
-/
def lengthMessage (limit : Int) : String :=
  s!"code exceeds {limit} characters"

theorem lengthMessage_ne (limit : Int) : lengthMessage limit ≠ "code is required" := by
  intro h
  have htext : lengthMessage limit = "code exceeds " ++ (toString limit ++ " characters") :=
    String.append_assoc
  rw [htext] at h
  have hletter := congrArg (fun s => s.toList[5]?) h
  rw [String.toList_append, List.getElem?_append_left (by decide)] at hletter
  exact absurd hletter (by decide)

theorem answers_response_iff {message : String} :
    ((BodyFault.invalid faults).response limit).Answers 400 [("message", .str message)]
      ↔
    (if faults.any (·.fault == .textTooLong) then lengthMessage limit else "code is required")
      = message := by
  have hresponse : (BodyFault.invalid faults).response limit
      = .object 400 [("message", .str (if faults.any (·.fault == .textTooLong) then
        lengthMessage limit else "code is required"))] := rfl
  rw [hresponse]
  simp [Response.Answers, Response.object]

/--
A JSON body that is no request for an analysis is refused with one of two messages, whatever the
model would have said. The message is about the length of the text to analyze if and only if that
text or the name of the model is too long. A text in which an escape leaves a surrogate alone is not
at fault for its length. A surrogate that the bytes encode has been replaced before.
-/
theorem handle_invalid (service : Service) (hroute : route.method = "POST")
    (hmethod : request.method = "POST") (hpath : request.path = route.path)
    (hgate : gate service.settings.maxRequestSize request = .pass)
    (htype : (request.header? "content-type").any isJsonType)
    (hdecode : decodeMarked request.body = .ok cs) (hread : Json.readUnmarked cs = .ok value)
    (hinvalid : ∀ body, AnalyzeRequest.ofJson service.settings.maxCodeLength value ≠ .ok body) :
    let limit := service.settings.maxCodeLength
    let handled := service.handle request
    (handled.response.Answers 400 [("message", .str (lengthMessage limit))]
        ↔ BringsLongCode limit value ∨ BringsLongModel value)
      ∧ (handled.response.Answers 400 [("message", .str "code is required")]
        ↔ ¬ (BringsLongCode limit value ∨ BringsLongModel value))
      ∧ handled.queries = [] ∧ handled.failure = none := by
  intro limit handled
  cases hvalue : AnalyzeRequest.ofJson limit value with
  | ok body => exact absurd hvalue (hinvalid body)
  | faulty faults =>
    have hserve := serve_of_invalid hroute (ofRequest_of_invalid htype hdecode hread hvalue)
    obtain ⟨headers, hhandled : handled = _⟩ :=
      handle_of_path service hpath (hmethod.trans hroute.symm) hgate
    rw [hserve] at hhandled
    have hanswers (message : String) : handled.response.Answers 400 [("message", .str message)]
        ↔ (if faults.any (·.fault == .textTooLong) then lengthMessage limit
          else "code is required") = message := by
      rw [hhandled]
      exact answers_response_iff
    have hne := lengthMessage_ne limit
    rw [hanswers, hanswers, ← any_tooLong_iff, hvalue, Checked.faults]
    refine ⟨?_, ?_, ?_, ?_⟩
    . split
      . next hlong => simp [hlong]
      . next hshort => simp [hshort, hne.symm]
    . split
      . next hlong => simp [hlong, hne]
      . next hshort => simp [hshort]
    . rw [hhandled]
    . rw [hhandled]

/--
A name of 101 characters.
-/
def longName : String :=
  .ofList (List.replicate 101 'm')

/--
The value of a request for the analysis of a short text, with such a name for the model.
-/
def longNameValue : Json Wide :=
  requestValue "x = 1" longName

def longNameRequest : Request where
  method := "POST"
  target := Route.analyze.path
  headers := [("content-type", "application/json")]
  body := Utf8.encode (longNameValue.write .compact)

theorem handle_invalid_long_name :
    (ruleService.handle longNameRequest).response.Answers 400
        [("message", .str (lengthMessage 50000))]
      ∧ ¬ BringsLongCode 50000 longNameValue := by
  have hread : Json.readUnmarked (longNameValue.write .compact).toList = .ok longNameValue :=
    readUnmarked_requestValue _ _
  have hutf8 : Utf8.decode (withoutMark longNameRequest.body)
      = .ok (longNameValue.write .compact).toList :=
    strict_eq_ok_iff.2 (by decide +kernel)
  have hdecode := decodeMarked_of_utf8 hutf8 (Json.null_not_mem_take_two hread)
  have hlong : BringsLongModel longNameValue :=
    ⟨_, rfl, longName, rfl, by decide⟩
  have hinvalid : ∀ body,
      AnalyzeRequest.ofJson ruleService.settings.maxCodeLength longNameValue ≠ .ok body := by
    intro body hbody
    have hfault : (AnalyzeRequest.ofJson ruleService.settings.maxCodeLength longNameValue).faults.any
        (·.fault == .textTooLong) := any_tooLong_iff.2 (.inr hlong)
    rw [hbody] at hfault
    cases hfault
  have htype : (longNameRequest.header? "content-type").any isJsonType := by decide +kernel
  have hroute : Route.analyze.method = "POST" := rfl
  have hpath : longNameRequest.path = Route.analyze.path := by decide +kernel
  obtain ⟨hlength, _⟩ :=
    handle_invalid ruleService hroute rfl hpath rfl htype hdecode hread hinvalid
  refine ⟨hlength.2 (.inr hlong), ?_⟩
  rintro ⟨_, ⟨⟩, code, hcode, hlong⟩
  obtain rfl : "x = 1" = code := ofString_inj.1 (Json.str.inj hcode)
  exact absurd hlong (by decide)

end CodeGauge.Http
