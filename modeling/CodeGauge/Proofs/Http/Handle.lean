import CodeGauge.Http.Api

/-!
This module contains the way of a request to its route, past the rules for other origins and the
gate, and the way of the answer back.
-/

namespace CodeGauge.Http

variable {request : Request} {service : Service} {route : Route}


/--
Whether a response has a status and an object with given fields.
-/
def Response.Answers (response : Response) (status : Nat) (fields : Json.Fields) : Prop :=
  response.status = status ∧ response.content = .json (.obj fields)

theorem Response.answers_with_headers {response : Response} {headers : List (String × String)}
    {status : Nat} {fields : Json.Fields} :
    ({ response with headers := headers } : Response).Answers status fields
      ↔
    response.Answers status fields :=
  Iff.rfl

theorem preflight?_eq_none (hmethod : request.method ≠ "OPTIONS") :
    OriginPolicy.Preflight.ofRequest? request = none := by
  unfold OriginPolicy.Preflight.ofRequest?
  split
  . next h _ _ => exact (hmethod h).elim
  . rfl

/--
The rules for other origins add no more than headers to the answer, unless the request is a
preflight.
-/
theorem handle_eq (service : Service)
    (hpreflight : OriginPolicy.Preflight.ofRequest? request = none) :
    ∃ headers, service.handle request
      = { service.guarded request with
          response := { (service.guarded request).response with headers := headers } } := by
  unfold Service.handle
  rw [hpreflight]
  dsimp only
  split
  . exact ⟨_, rfl⟩
  . exact ⟨(service.guarded request).response.headers, rfl⟩

theorem guarded_of_pass (hgate : gate service.settings.maxRequestSize request = .pass) :
    service.guarded request = service.dispatch request := by
  simp only [Service.guarded, hgate]

theorem dispatch_of_path (hpath : request.path = route.path)
    (hmethod : request.method = route.method) :
    service.dispatch request = service.serve request route := by
  simp [Service.dispatch, hpath, hmethod]

/--
What holds of the answers of both analyses, and of all answers that need none and are no refusal for
the size, holds of what a route answers.
-/
theorem of_serve {P : Handled → Prop} (hanalyze : ∀ body, P (service.analyze body))
    (hmodel : ∀ body, P (service.analyzeByModel body))
    (hplain : ∀ response : Response, response.status ≠ 413 → P ⟨response, [], none⟩)
    (request : Request) (route : Route) : P (service.serve request route) := by
  have hbody {answer : AnalyzeRequest → Handled} (hanswer : ∀ body, P (answer body)) :
      P (Service.serve.withBody service request answer) := by
    unfold Service.serve.withBody
    dsimp only
    split
    . exact hanswer _
    . next fault _ =>
      apply hplain
      cases fault <;> nofun
  cases route with
  | front => exact hplain _ nofun
  | health => exact hplain _ nofun
  | analyze => exact hbody hanalyze
  | analyzeByModel => exact hbody hmodel

theorem of_dispatch {P : Handled → Prop} (hanalyze : ∀ body, P (service.analyze body))
    (hmodel : ∀ body, P (service.analyzeByModel body))
    (hplain : ∀ response : Response, response.status ≠ 413 → P ⟨response, [], none⟩)
    (request : Request) : P (service.dispatch request) := by
  unfold Service.dispatch
  split
  . split
    . exact of_serve hanalyze hmodel hplain request _
    . exact hplain _ nofun
  . split
    . exact hplain _ nofun
    . exact hplain _ nofun

theorem failure_analyze (body : AnalyzeRequest) : (service.analyze body).failure = none := by
  unfold Service.analyze
  split <;> rfl

theorem failure_serve_analyze (request : Request) :
    (service.serve request .analyze).failure = none := by
  unfold Service.serve Service.serve.withBody
  dsimp only
  split
  . exact failure_analyze _
  . rfl

/--
What holds of all answers that are no refusal for the size, and of those that cannot be sent, holds
of the answer to a request for an analysis by a model.
-/
theorem of_analyzeByModel {P : Handled → Prop}
    (hsent : ∀ status fields queries, status ≠ 413 → P ⟨.object status fields, queries, none⟩)
    (hcrash : ∀ queries declared, P (.crash queries (.unsendable declared)))
    (body : AnalyzeRequest) : P (service.analyzeByModel body) := by
  unfold Service.analyzeByModel
  dsimp only
  split
  . split
    . exact hsent _ _ _ (by decide)
    . exact hcrash _ _
  . exact hsent _ _ _ (by decide)
  . split
    . exact hsent _ _ _ (by decide)
    . exact hcrash _ _

/--
No route fails in the way of the gate.
-/
theorem failure_dispatch_ne (request : Request) (fault : Json.UseFault) :
    (service.dispatch request).failure ≠ some (.misused fault) := by
  apply of_dispatch (P := fun handled => handled.failure ≠ some (.misused fault))
  . intro body
    rw [failure_analyze]
    nofun
  . apply of_analyzeByModel (P := fun handled => handled.failure ≠ some (.misused fault)) <;> nofun
  . nofun

theorem Route.method_ne (route : Route) : route.method ≠ "OPTIONS" := by
  cases route <;> decide

/--
A request that the gate lets pass is answered by its route.
-/
theorem handle_of_path (service : Service) (hpath : request.path = route.path)
    (hmethod : request.method = route.method)
    (hgate : gate service.settings.maxRequestSize request = .pass) :
    ∃ headers, service.handle request
      = { service.serve request route with
          response := { (service.serve request route).response with headers := headers } } := by
  have hhandle := handle_eq service (preflight?_eq_none (hmethod ▸ route.method_ne))
  rw [guarded_of_pass hgate, dispatch_of_path hpath hmethod] at hhandle
  exact hhandle

end CodeGauge.Http
