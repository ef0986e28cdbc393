import CodeGauge.Proofs.Chat.Opinion
import CodeGauge.Proofs.Http.Analyze

/-!
This module contains the requests for an analysis by a model: each that is read comes to exactly one
query, and the answer follows from what came of this query.
-/

namespace CodeGauge.Http

open Text

variable {limit : Int} {code : String} {model : Option String} {request : Request}
  {body : AnalyzeRequest} {query : Query} {service : Service}


theorem exists_ofJson_of_ofRequest (h : AnalyzeRequest.ofRequest limit request = .ok body) :
    ∃ value, AnalyzeRequest.ofJson limit value = .ok body := by
  unfold AnalyzeRequest.ofRequest at h
  split at h
  . cases h
  . split at h
    . cases h
    . split at h
      . cases h
      . split at h
        . cases h
        . cases h
        . next value _ =>
          split at h
          . next hvalue =>
            cases h
            exact ⟨value, hvalue⟩
          . cases h

theorem visible_of_ofRequest (h : AnalyzeRequest.ofRequest limit request = .ok ⟨code, model⟩) :
    ∃ c ∈ code.toList, ¬ isBlank c := by
  obtain ⟨value, hvalue⟩ := exists_ofJson_of_ofRequest h
  obtain ⟨fields, _, hasks⟩ := exists_ofJson_iff.1 ⟨model, hvalue⟩
  exact hasks.visible

/--
Whether what is to be told about the outcome of a query has a surrogate that stands alone.
-/
def TellsTorn : Except (Failure Wide) (Json.Fields Wide) → Prop
  | .ok fields => ∃ v, Verdict.ofFields fields = .ok v ∧ v.IsTorn
  | .error (.unavailable _) => False
  | .error (.unusable _ raw) => IsTorn raw
  | .error failure => IsTorn failure.message

/--
Whether a response tells what came of a query, as far as this can be told in strings. Fields that
are no verdict are told as they are written, where there is some room for arrays and objects within
one another.
-/
structure Conveys (room : Nat) (outcome : Except (Failure Wide) (Json.Fields Wide))
    (response : Response) : Prop where
  unavailable : ∀ message, outcome = .error (.unavailable message) →
    response.Answers 500 [("error", .str "Missing GEMINI_API_KEY on the backend.")]
  unusable : ∀ message raw, outcome = .error (.unusable message (Wording.ofString raw)) →
    response.Answers 200 [("result", .obj [
      ("error", .str "Gemini returned non-JSON content"), ("raw", .str raw)])]
  failed : ∀ failure message, outcome = .error failure →
    (∀ message, failure ≠ .unavailable message) →
    (∀ message raw, failure ≠ .unusable message raw) →
    failure.message = Wording.ofString message →
    response.Answers 500 [
      ("error", .str "Failed to analyze with AI."), ("message", .str message)]
  valid : ∀ fields v whole, outcome = .ok fields → Verdict.ofFields fields = .ok v →
    v.whole? = some whole → response.Answers 200 [("result", whole.toJson)]
  invalid : ∀ fields, outcome = .ok fields → (∀ v, Verdict.ofFields fields ≠ .ok v) →
    Json.writeFault? room (.obj fields) = none →
    response.Answers 200 [("result", .obj [
      ("error", .str "Gemini returned an invalid analysis"),
      ("raw", .str (Json.obj fields).text)])]
  unwritable : ∀ fields fault, outcome = .ok fields → (∀ v, Verdict.ofFields fields ≠ .ok v) →
    Json.writeFault? room (.obj fields) = some fault →
    response.Answers 500 [
      ("error", .str "Failed to analyze with AI."), ("message", .str fault.message)]

theorem conveys_analyzeByModel (hquery : Query.ofCode (τ := Wide) code model = .ok query)
    (headers : List (String × String)) :
    Conveys service.room (service.model query)
      { (service.analyzeByModel ⟨code, model⟩).response with headers := headers } := by
  unfold Service.analyzeByModel
  rw [Opinion.ask_of_ofCode hquery]
  cases service.model query with
  | ok fields =>
    dsimp only [Opinion.ofOutcome]
    unfold Opinion.ofFields
    constructor
    case valid =>
      rintro _ v whole ⟨⟩ hv hwhole
      rw [hv]
      dsimp only [Opinion.whole?]
      rw [hwhole]
      exact ⟨rfl, rfl⟩
    case invalid =>
      rintro _ ⟨⟩ hinvalid hnone
      cases hv : Verdict.ofFields fields with
      | ok v => exact (hinvalid v hv).elim
      | faulty faults =>
        dsimp only
        rw [hnone]
        dsimp only [Opinion.whole?]
        rw [whole?_ofString]
        exact ⟨rfl, rfl⟩
    case unwritable =>
      rintro _ fault ⟨⟩ hinvalid hfault
      cases hv : Verdict.ofFields fields with
      | ok v => exact (hinvalid v hv).elim
      | faulty faults =>
        dsimp only
        rw [hfault]
        dsimp only [Failure.message]
        rw [whole?_ofString]
        exact ⟨rfl, rfl⟩
    all_goals nofun
  | error failure =>
    constructor
    case unavailable =>
      rintro message ⟨⟩
      exact ⟨rfl, rfl⟩
    case unusable =>
      rintro message raw ⟨⟩
      dsimp only [Opinion.ofOutcome, Opinion.whole?]
      rw [whole?_ofString]
      exact ⟨rfl, rfl⟩
    case failed =>
      rintro _ message ⟨⟩ havailable husable hmessage
      rw [Opinion.ofOutcome_error husable]
      dsimp only
      split
      . next heq => cases heq
      . next heq =>
        cases heq
        exact (havailable _ rfl).elim
      . next heq =>
        cases heq
        rw [hmessage, whole?_ofString]
        exact ⟨rfl, rfl⟩
    case valid =>
      rintro _ _ _ ⟨⟩
    case invalid =>
      rintro _ ⟨⟩
    case unwritable =>
      rintro _ _ ⟨⟩

theorem queries_analyzeByModel (hquery : Query.ofCode (τ := Wide) code model = .ok query) :
    (service.analyzeByModel ⟨code, model⟩).queries = [query] := by
  unfold Service.analyzeByModel
  rw [Opinion.ask_of_ofCode hquery]
  dsimp only
  split
  . split <;> rfl
  . rfl
  . split <;> rfl

/--
The answer cannot be sent if and only if what it tells is torn.
-/
theorem crash_or_sent (service : Service)
    (hquery : Query.ofCode (τ := Wide) code model = .ok query) :
    (TellsTorn (service.model query)
        ∧ ∃ declared,
          service.analyzeByModel ⟨code, model⟩ = .crash [query] (.unsendable declared))
      ∨ (¬ TellsTorn (service.model query)
        ∧ (service.analyzeByModel ⟨code, model⟩).failure = none) := by
  unfold Service.analyzeByModel
  rw [Opinion.ask_of_ofCode hquery]
  cases service.model query with
  | ok fields =>
    dsimp only [Opinion.ofOutcome]
    unfold Opinion.ofFields TellsTorn
    cases hv : Verdict.ofFields fields with
    | ok v =>
      dsimp only [Opinion.whole?]
      cases hwhole : v.whole? with
      | none => exact .inl ⟨⟨v, hv, Verdict.whole?_eq_none_iff.1 hwhole⟩, true, rfl⟩
      | some whole =>
        refine .inr ⟨?_, rfl⟩
        rintro ⟨_, hv', htorn⟩
        rw [hv, Checked.ok.injEq] at hv'
        subst hv'
        rw [Verdict.whole?_eq_none_iff.2 htorn] at hwhole
        cases hwhole
    | faulty faults =>
      refine .inr ⟨by simp [hv], ?_⟩
      cases hfault : Json.writeFault? service.room (.obj fields) with
      | none =>
        dsimp only [Opinion.whole?]
        rw [whole?_ofString]
        rfl
      | some fault =>
        dsimp only [Failure.message]
        rw [whole?_ofString]
  | error failure =>
    cases failure with
    | unavailable message => exact .inr ⟨id, rfl⟩
    | unusable message raw =>
      dsimp only [Opinion.ofOutcome, Opinion.whole?, TellsTorn]
      rw [← whole?_eq_none_iff]
      cases Wording.whole? raw with
      | none => exact .inl ⟨rfl, true, rfl⟩
      | some raw => exact .inr ⟨nofun, rfl⟩
    | _ =>
      dsimp only [Opinion.ofOutcome, TellsTorn]
      rw [← whole?_eq_none_iff]
      split
      . next hwhole => exact .inr ⟨by simp [hwhole], rfl⟩
      . next hwhole => exact .inl ⟨hwhole, false, rfl⟩

/--
A request for an analysis that can be read asks the model once, and the answer conveys what came of
it. The text is not blank when it gets to the model. The program fails if and only if a surrogate
stands alone in what is to be told, and then the answer is that of an internal error.
-/
theorem handle_analyzeByModel (service : Service) (hmethod : request.method = "POST")
    (hpath : request.path = Route.analyzeByModel.path)
    (hgate : gate service.settings.maxRequestSize request = .pass)
    (hbody : AnalyzeRequest.ofRequest service.settings.maxCodeLength request = .ok ⟨code, model⟩) :
    let handled := service.handle request
    let query := ⟨Prompt.analysis (trim code), Prompt.system, model⟩
    Query.ofCode (τ := Wide) code model = .ok query
      ∧ handled.queries = [query]
      ∧ (¬ TellsTorn (service.model query) →
        Conveys service.room (service.model query) handled.response ∧ handled.failure = none)
      ∧ (TellsTorn (service.model query) →
        handled.response.Answers 500 [("error", .str "Internal server error")]
          ∧ ∃ declared, handled.failure = some (.unsendable declared)) := by
  intro handled query
  have hquery : Query.ofCode (τ := Wide) code model = .ok query :=
    Query.ofCode_of_visible model (visible_of_ofRequest hbody)
  have hserve : service.serve request .analyzeByModel = service.analyzeByModel ⟨code, model⟩ := by
    simp only [Service.serve, Service.serve.withBody, hbody]
  obtain ⟨headers, hhandled : handled = _⟩ := handle_of_path service hpath hmethod hgate
  rw [hserve] at hhandled
  have hcases := crash_or_sent service hquery
  rw [hhandled]
  refine ⟨hquery, queries_analyzeByModel hquery, ?_, ?_⟩
  . intro hwhole
    refine ⟨conveys_analyzeByModel hquery headers, ?_⟩
    obtain ⟨htorn, _⟩ | ⟨_, hnone⟩ := hcases
    . exact (hwhole htorn).elim
    . exact hnone
  . intro htorn
    obtain ⟨_, declared, hcrash⟩ | ⟨hwhole, _⟩ := hcases
    . rw [hcrash]
      exact ⟨⟨rfl, rfl⟩, declared, rfl⟩
    . exact (hwhole htorn).elim

/--
A request for the analysis of a text with blanks around it by a model of its choice.
-/
def modelRequest : Request where
  method := "POST"
  target := Route.analyzeByModel.path
  headers := [("origin", "http://localhost"), ("content-type", "application/json")]
  body := Utf8.encode ((requestValue " x = 1\n" "m").write .compact)

theorem ofRequest_modelRequest :
    AnalyzeRequest.ofRequest ({} : Settings).maxCodeLength modelRequest
      = .ok ⟨" x = 1\n", some "m"⟩ := by
  have hutf8 : Utf8.decode (withoutMark modelRequest.body)
      = .ok ((requestValue " x = 1\n" "m").write .compact).toList :=
    strict_eq_ok_iff.2 (by decide +kernel)
  have htype : (modelRequest.header? "content-type").any isJsonType := by decide +kernel
  have hvisible : ∃ c ∈ " x = 1\n".toList, ¬ isBlank c := ⟨'x', by decide, by decide⟩
  rw [ofRequest_eq _ htype hutf8 (readUnmarked_requestValue _ _),
    ofJson_requestValue (by decide) hvisible (by decide)]

/--
A service with the standard settings and a model that always replies with the same fields.
-/
def fixedService (fields : Json.Fields Wide) : Service where
  settings := {}
  gemini := .create none none {}
  rules := judgeByRules
  model _ := .ok fields

/--
The fields of a verdict with half of a surrogate pair for a label.
-/
def tornFields : Json.Fields Wide :=
  [
    (Wording.ofString "timeComplexity", .str [.surrogate 0]),
    (Wording.ofString "timeComplexityType", .str (Wording.ofString "constant")),
    (Wording.ofString "timeExplanation", .str []),
    (Wording.ofString "spaceComplexity", .str []),
    (Wording.ofString "spaceComplexityType", .str (Wording.ofString "constant")),
    (Wording.ofString "spaceExplanation", .str []),
    (Wording.ofString "codeRating", .int 5)]

/--
A rating alone, and too large a number for one, is told to be no verdict. A verdict that is torn is
not told.
-/
theorem handle_analyzeByModel_torn :
    let rated := (fixedService [(Wording.ofString "codeRating", .int 6)]).handle modelRequest
    let torn := (fixedService tornFields).handle modelRequest
    rated.queries = [⟨Prompt.analysis (trim " x = 1\n"), Prompt.system, some "m"⟩]
      ∧ rated.response.Answers 200 [("result", .obj [
        ("error", .str "Gemini returned an invalid analysis"),
        ("raw", .str "\x7b\"codeRating\": 6\x7d")])]
      ∧ torn.response.Answers 500 [("error", .str "Internal server error")]
      ∧ ∃ declared, torn.failure = some (.unsendable declared) := by
  intro rated torn
  have hpath : modelRequest.path = Route.analyzeByModel.path := by decide +kernel
  have hinvalid : ∀ v : Verdict Wide,
      Verdict.ofFields [(Wording.ofString "codeRating", .int 6)] ≠ .ok v := by
    intro v hv
    cases hv
  have hraw : (Json.obj (τ := Wide) [(Wording.ofString "codeRating", .int 6)]).text
      = "\x7b\"codeRating\": 6\x7d" := by
    decide +kernel
  have hverdict : Verdict.ofFields tornFields
      = .ok ⟨[.surrogate 0], .constant, [], [], .constant, [], 5⟩ := by
    rfl
  obtain ⟨_, hqueries, htells, _⟩ :=
    handle_analyzeByModel (fixedService [(Wording.ofString "codeRating", .int 6)]) rfl hpath rfl
      ofRequest_modelRequest
  obtain ⟨_, _, _, hcrash⟩ :=
    handle_analyzeByModel (fixedService tornFields) rfl hpath rfl ofRequest_modelRequest
  have hanswer := (htells fun ⟨v, hv, _⟩ => hinvalid v hv).1.invalid _ rfl hinvalid rfl
  rw [hraw] at hanswer
  exact ⟨hqueries, hanswer, hcrash ⟨_, hverdict, _, List.mem_cons_self, 0, List.mem_cons_self⟩⟩

end CodeGauge.Http
