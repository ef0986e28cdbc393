import CodeGauge.Chat.Gemini
import CodeGauge.Http.AnalyzeRequest
import CodeGauge.Http.Origin
import CodeGauge.Http.SizeGate

/-!
This module contains the interface of the program over HTTP: its routes, and what it answers.
-/

namespace CodeGauge.Http


/--
What the interface makes use of.
-/
structure Service where
  settings : Settings
  /-- The client whose state the front page shows. -/
  gemini : Gemini.Client
  rules : AnalyzeRequest → Except Failure Verdict
  model : Query → Except (Failure Text.Wide) (Json.Fields Text.Wide)
  /-- How many arrays and objects within one another can be written. -/
  room : Nat := Json.maxNesting

/--
The judgement of the rules, which ignores the model that is asked for.
-/
def judgeByRules (request : AnalyzeRequest) : Except Failure Verdict :=
  .ok (.ofText request.code)

/--
A failure that nobody deals with.
-/
inductive Crash where
  | misused (fault : Json.UseFault)
  /-- A text that is to be sent has a surrogate without partner. Responses whose fields are declared
  are written by other means than the others. -/
  | unsendable (declared : Bool)

/--
What came of a request: the response, what the model was asked, and the failure that has not been
dealt with, if any.
-/
structure Handled where
  response : Response
  queries : List Query := []
  failure : Option Crash := none

/--
What comes of a request if something fails and nobody deals with it.
-/
def Handled.crash (queries : List Query) (failure : Crash) : Handled :=
  ⟨.object 500 [("error", .str "Internal server error")], queries, some failure⟩

inductive Route where
  | front
  | health
  | analyze
  | analyzeByModel
  deriving DecidableEq, Repr

namespace Route

def all : List Route := [front, health, analyze, analyzeByModel]

def path : Route → String
  | front => "/"
  | health => "/api/health"
  | analyze => "/api/ai/analyze/complexity"
  | analyzeByModel => "/api/ai/analyze/complexity/ai"

def method : Route → String
  | front | health => "GET"
  | analyze | analyzeByModel => "POST"

def ofPath? (path : String) : Option Route :=
  all.find? (·.path == path)

@[simp]
theorem ofPath?_path (route : Route) : ofPath? route.path = some route := by
  cases route <;> decide

end Route

def version : String := "2.1.0"

namespace Service

/--
The front page.
-/
def front (service : Service) : Response :=
  .object 200 [
    ("name", .str "Code Complexity Analyzer API"),
    ("version", .str version),
    ("ai", .str (if service.gemini.available then "configured" else "unconfigured")),
    ("model", .str service.gemini.model),
    ("endpoints", .obj [
      (Route.analyze.path, .str "POST - Heuristic complexity analysis"),
      (Route.analyzeByModel.path, .str "POST - Gemini complexity analysis"),
      (Route.health.path, .str "GET - Health check")])]

/--
The answer to a request for an analysis by the rules.
-/
def analyze (service : Service) (request : AnalyzeRequest) : Handled :=
  match service.rules request with
  | .ok verdict => ⟨.object 200 [("result", .str verdict.compact)], [], none⟩
  | .error _ => ⟨.object 500 [("error", .str "Failed to analyze the code.")], [], none⟩

/--
The answer to a request for an analysis by a model.
-/
def analyzeByModel (service : Service) (request : AnalyzeRequest) : Handled :=
  let (queries, outcome) := Opinion.ask service.model request.code request.model service.room
  match outcome with
  | .ok opinion =>
    match opinion.whole? with
    | some opinion => ⟨.object 200 [("result", opinion.toJson)], queries, none⟩
    | none => .crash queries (.unsendable true)
  | .error (.unavailable _) =>
    ⟨.object 500 [("error", .str "Missing GEMINI_API_KEY on the backend.")], queries, none⟩
  | .error failure =>
    match Text.Wording.whole? failure.message with
    | some message =>
      ⟨.object 500 [
        ("error", .str "Failed to analyze with AI."),
        ("message", .str message)], queries, none⟩
    | none => .crash queries (.unsendable false)

/--
The answer of a route.
-/
def serve (service : Service) (request : Request) : Route → Handled
  | .front => ⟨service.front, [], none⟩
  | .health => ⟨.object 200 [("ok", .bool true)], [], none⟩
  | .analyze => withBody service.analyze
  | .analyzeByModel => withBody service.analyzeByModel
where
  withBody (answer : AnalyzeRequest → Handled) : Handled :=
    let limit := service.settings.maxCodeLength
    match AnalyzeRequest.ofRequest limit request with
    | .ok body => answer body
    | .error fault => ⟨fault.response limit, [], none⟩

/--
A path with the slashes at its end taken away, or with one added if there are none.
-/
def slashed (path : String) : String :=
  let cs := path.toList
  if cs.getLast? == some '/' then
    .ofList (cs.reverse.dropWhile (· == '/')).reverse
  else
    .ofList (cs ++ ['/'])

/--
The answer to a request that has passed the gate.
-/
def dispatch (service : Service) (request : Request) : Handled :=
  match Route.ofPath? request.path with
  | some route =>
    if request.method == route.method then
      service.serve request route
    else
      ⟨{ Response.object 405 [("detail", .str "Method Not Allowed")] with
        headers := [("allow", route.method)] }, [], none⟩
  | none =>
    if request.path != "/" && (Route.ofPath? (slashed request.path)).isSome then
      ⟨{ status := 307, content := .empty }, [], none⟩
    else
      ⟨.object 404 [("detail", .str "Not Found")], [], none⟩

/--
The answer to a request behind the rules for other origins. If the gate fails, so does the program.
-/
def guarded (service : Service) (request : Request) : Handled :=
  let limit := service.settings.maxRequestSize
  match gate limit request with
  | .pass => service.dispatch request
  | .refuse => ⟨tooLarge limit, [], none⟩
  | .fail size fault =>
    let fault : Json.UseFault :=
      match fault with
      | .malformed => .notNumeral size
      | .tooLong digits => .tooLong digits
    .crash [] (.misused fault)

/--
The answer to a request. A failure that has not been dealt with has no headers for the origin.
-/
def handle (service : Service) (request : Request) : Handled :=
  let policy := OriginPolicy.ofSettings service.settings
  match OriginPolicy.Preflight.ofRequest? request with
  | some preflight => ⟨policy.answer preflight, [], none⟩
  | none =>
    let handled := service.guarded request
    match request.header? "origin", handled.failure with
    | some origin, none => { handled with response := policy.mark origin handled.response }
    | _, _ => handled

end Service
end CodeGauge.Http
