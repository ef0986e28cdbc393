import CodeGauge.Chat.Opinion
import CodeGauge.Chat.Retry
import CodeGauge.Log
import CodeGauge.Settings

/-!
This module contains the client of the Gemini service. The replies that it will get are a list, and
each request takes one.
-/

namespace CodeGauge.Gemini


structure Client where
  key : String
  model : String
  temperature : Binary64
  maxTokens : Int
  timeoutSeconds : Int

/--
A client with the given key and model. The settings stand in for a key that is missing, and for a
model that is missing or empty.
-/
def Client.create (key model : Option String) (settings : Settings) : Client :=
  { key := key.getD settings.geminiKey
    model := if model.getD "" == "" then settings.geminiModel else model.getD ""
    temperature := settings.temperature
    maxTokens := settings.maxTokens
    timeoutSeconds := settings.geminiTimeoutSeconds }

/--
Whether a client has a key.
-/
def Client.available (client : Client) : Bool :=
  !client.key.isEmpty

/--
The lines of the log about a new client.
-/
def Client.creationLogs (client : Client) : List LogLine :=
  if client.available then
    [.info s!"Gemini client initialized (model={client.model})"]
  else
    [.warning "GEMINI_API_KEY not set; Gemini analysis will fail until provided"]

/--
A request for a reply.
-/
structure Request where
  model : String
  prompt : String
  system : String
  temperature : Binary64
  maxTokens : Int
  mime : String

/--
What a request meets: the text of a reply, which may be missing, or a failure.
-/
abbrev Outcome := Except Failure (Option String)

def Client.request (client : Client) (query : Query) : Request :=
  { model := if query.model.getD "" == "" then client.model else query.model.getD ""
    prompt := query.prompt
    system := query.system
    temperature := client.temperature
    maxTokens := client.maxTokens
    mime := "application/json" }

/--
The failure of a request that has taken too long.
-/
def Client.overtime (client : Client) : Failure :=
  .timedOut s!"Analysis timed out after {client.timeoutSeconds}s"

/--
The text of a reply. All failures of the clock are worded in the same way.
-/
def Client.receive (client : Client) : Outcome → Except Failure String
  | .ok text => .ok (text.getD "")
  | .error (.timedOut _) => .error client.overtime
  | .error failure => .error failure

/--
What is left of the replies, and how many requests have been sent.
-/
structure State where
  wire : List Outcome
  sent : Nat := 0

/--
One request. Without any time for it, nothing is sent.
-/
def Client.attempt (client : Client) (state : State) : Except Failure String × State :=
  if client.timeoutSeconds ≤ 0 then
    (.error client.overtime, state)
  else
    (client.receive (state.wire.head?.getD (.error .noReply)), ⟨state.wire.tail, state.sent + 1⟩)

/--
Whether another attempt makes sense.
-/
def retryable : Failure → Bool
  | .timedOut _ => true
  | .disconnected .. => true
  | _ => false

def retryRule : RetryRule := ⟨2, retryable, fun attempt _ => backoff 4 attempt⟩

/--
What a client has done for one query. All its requests are the same.
-/
structure Call (α : Type) where
  result : Except Failure α
  requests : List Request := []
  pauses : List Binary64 := []
  logs : List LogLine := []

/--
The lines of the log about a failure of the clock.
-/
def Client.overtimeLogs (client : Client) : Failure → List LogLine
  | .timedOut _ => [.error s!"Gemini API timeout after {client.timeoutSeconds}s"]
  | _ => []

/--
The failures of a run, the last one included.
-/
def failuresOf {σ α : Type} (run : RetryRun σ α) : List Failure :=
  match run.outcome with
  | .ok _ => run.failures
  | .error failure => run.failures ++ [failure]

/--
The object with which the service answers a query.
-/
def Client.complete (client : Client) (query : Query) (wire : List Outcome) :
    Call Json.Fields × List Outcome :=
  if client.available then
    let run := retryRule.run client.attempt ⟨wire, 0⟩
    ({ result := run.outcome.bind Reply.extract
       requests := List.replicate run.state.sent (client.request query)
       pauses := retryRule.pauses run
       logs := (failuresOf run).flatMap client.overtimeLogs },
     run.state.wire)
  else
    ({ result := .error (.unavailable "Missing GEMINI_API_KEY (or Gemini client not configured)") },
     wire)

/--
The opinion of the service on a text.
-/
def Client.judge (client : Client) (code : String) (model : Option String) (wire : List Outcome) :
    Call Opinion × List Outcome :=
  match Query.ofCode code model with
  | .error failure => ({ result := .error failure }, wire)
  | .ok query =>
    let (call, wire) := client.complete query wire
    ({ call with result := Opinion.ofOutcome call.result }, wire)

end CodeGauge.Gemini
