import CodeGauge.Chat.Opinion
import CodeGauge.Chat.Retry
import CodeGauge.Log
import CodeGauge.Number.Notation
import CodeGauge.Settings
import CodeGauge.Text.Encoding

/-!
This module contains the client of the Groq service: its requests, how it reads the answers, and its
account of what it has used. The answers that it will get are a list, and each request takes one.
-/

namespace CodeGauge.Groq

open Text


def url : String := "https://api.groq.com/openai/v1/chat/completions"

/--
An answer of the service.
-/
structure Response where
  status : Int
  headers : List (String × String)
  body : List UInt8

/--
What a request meets: a response, or a failure on the way.
-/
abbrev Outcome := Except Failure Response

/--
What a request meets if there is nothing left to meet.
-/
def exhausted : Outcome :=
  .error (.transport .unsupported "script exhausted")

/--
What a client has used.
-/
structure Usage where
  requests : Nat := 0
  promptTokens : Int := 0
  completionTokens : Int := 0
  deriving DecidableEq, Repr

/--
The account of a client, and the outcomes of its next requests.
-/
structure State where
  usage : Usage := {}
  wire : List Outcome

structure Client where
  key : String
  model : String

/--
A client with the given key and model. The settings stand in for those that are missing or empty.
-/
def Client.create (key model : Option String) (settings : Settings) : Except Failure Client :=
  let given (value : Option String) (default : String) : String :=
    match value with
    | some "" => default
    | some s => s
    | none => default
  let key := given key settings.groqKey
  if key.isEmpty then
    .error (.unavailable ("GROQ_API_KEY environment variable not set. Get your key from " ++
      "https://console.groq.com"))
  else
    .ok ⟨key, given model settings.groqModel⟩

/--
The authorization of a request.
-/
def Client.authorization (client : Client) : String :=
  "Bearer " ++ client.key

def contentType : String := "application/json"

/--
The body of a request.
-/
def Client.payload (client : Client) (prompt system : String) : Json :=
  let line (role content : String) : Json := .obj [("role", .str role), ("content", .str content)]
  .obj [
    ("model", .str client.model),
    ("messages", .arr [line "system" system, line "user" prompt]),
    ("max_tokens", .int 2048),
    ("temperature", .float (.ofDecimal false 1 (-1))),
    ("response_format", .obj [("type", .str "json_object")])]

/--
The JSON value in a body.
-/
def readBody (body : List UInt8) : Except Failure Json :=
  match decodeMarked body with
  | .error fault => .error (.undecodable fault)
  | .ok cs =>
    match Json.readUnmarked cs with
    | .error fault => .error (.unreadable fault)
    | .ok value => .ok value

/--
The value of a header. The letter case of its name does not count, and several values are listed.
-/
def Response.header? (response : Response) (name : String) : Option String :=
  match response.headers.filter fun (n, _) => lower n == name with
  | [] => none
  | found => some (", ".intercalate (found.map (·.2)))

/--
The text of the body of a response, in the encoding that its content type names. No bytes are the
empty text in all encodings.
-/
def Response.text (response : Response) : Except CharsetFault String :=
  if response.body.isEmpty then
    .ok ""
  else
    ((Charset.ofContentType (response.header? "content-type")).decode response.body).map .ofList

/--
What a body says about an error: the message in it, or else all of its text. The search for a
message does not expect a body that is nested too deep.
-/
def errorDetail (text : String) (body : List UInt8) : Except Failure String :=
  match readBody body with
  | .ok (.obj fields) =>
    match (Json.field? fields "error").getD (.obj []) with
    | .obj error =>
      match Json.field? error "message" with
      | some message => .ok message.display
      | none => .ok text
    | _ => .ok text
  | .error (.unreadable (.tooDeep nest)) => .error (.unreadable (.tooDeep nest))
  | _ => .ok text

/--
The number of seconds after which the service wants to be asked again.
-/
def Response.retryAfter? (response : Response) : Option Binary64 :=
  ((response.header? "retry-after").bind Numeral.float?).map (Binary64.clampBelow 0)

/--
The failure that a response with a status other than 200 means, unless its body gets in the way.
-/
def Response.refusal (response : Response) : Failure :=
  match response.text with
  | .error fault => .illegible fault
  | .ok text =>
    match errorDetail text response.body with
    | .error failure => failure
    | .ok detail =>
      let message := s!"API error ({response.status}): " ++ detail
      if response.status == 429 then
        .rateLimited message response.retryAfter?
      else
        .refused message (some response.status)

/--
The number of tokens in a field. What counts as nothing is zero.
-/
def tokens (usage : Json) (name : String) : Except Json.UseFault Int :=
  match usage.lookup name with
  | .error fault => .error fault
  | .ok value => (Json.truthyOr (.int 0) value).whole

/--
The account with one more request and its tokens. If the tokens cannot be read, what comes before
them is in the account already.
-/
def Usage.record (account : Usage) (data : Json) : Usage × Except Json.UseFault Unit :=
  match data.lookup "usage" with
  | .error fault => (account, .error fault)
  | .ok usage =>
    let usage := Json.truthyOr (.obj []) usage
    let account := { account with requests := account.requests + 1 }
    match tokens usage "prompt_tokens" with
    | .error fault => (account, .error fault)
    | .ok n =>
      let account := { account with promptTokens := account.promptTokens + n }
      match tokens usage "completion_tokens" with
      | .error fault => (account, .error fault)
      | .ok n => ({ account with completionTokens := account.completionTokens + n }, .ok ())

/--
What a client makes of the outcome of a request. A response with status 200 goes into its account.
-/
def Usage.receive (account : Usage) : Outcome → Usage × Except Failure Json
  | .error failure => (account, .error failure)
  | .ok response =>
    if response.status != 200 then
      (account, .error response.refusal)
    else
      match readBody response.body with
      | .error failure => (account, .error failure)
      | .ok data =>
        match account.record data with
        | (account, .error fault) => (account, .error (.misused fault))
        | (account, .ok ()) => (account, .ok data)

/--
One request.
-/
def attempt (state : State) : Except Failure Json × State :=
  let (usage, result) := state.usage.receive (state.wire.head?.getD exhausted)
  (result, ⟨usage, state.wire.tail⟩)

/--
The longest time in seconds that a client pauses when the service asks for it.
-/
def maxRetryAfter : Binary64 := 30

/--
Whether another attempt makes sense: the network may come back, and the service may recover or ask
for fewer requests.
-/
def retryable : Failure → Bool
  | .transport fault _ => fault.isTransient
  | .refused _ status => status == some 429 || decide (status.getD 0 ≥ 500)
  | .rateLimited .. => true
  | _ => false

/--
The pause behind an attempt: as the service asks for, but not too long, or else longer each time.
-/
def pause (attempt : Nat) : Failure → Binary64
  | .rateLimited _ (some seconds) => seconds.clampAbove maxRetryAfter
  | _ => backoff 10 attempt

def retryRule : RetryRule := ⟨2, retryable, pause⟩

/--
The line of the log about an attempt that failed.
-/
def retryLine (attempt : Nat) (failure : Failure) : LogLine :=
  let seconds := (pause attempt failure).tenths
  match failure with
  | .rateLimited .. =>
    .warning s!"Groq rate limited (attempt {attempt}); retrying in {seconds}s"
  | _ =>
    .warning
      s!"Groq request failed (attempt {attempt}): {failure.message}; retrying in {seconds}s"

/--
The content of the first choice in an answer.
-/
def content (data : Json) : Except Json.UseFault String := do
  let choices ← data.part "choices"
  let choice ← choices.first
  let message ← choice.part "message"
  let content ← message.part "content"
  (Json.truthyOr (.str "") (some content)).trimmed

/--
The object in an answer.
-/
def answerOf (data : Json) : Except Failure Json.Fields :=
  match content data with
  | .error fault => .error (.misused fault)
  | .ok text => Reply.extract text

/--
What a client has done for one prompt. All its requests have the same body.
-/
structure Call where
  result : Except Failure Json.Fields
  requests : List Json
  pauses : List Binary64
  logs : List LogLine

/--
The object with which the service answers a prompt. Nothing is sent if the key cannot be put into a
header, which is in ASCII.
-/
def Client.complete (client : Client) (prompt system : String) (state : State) : Call × State :=
  match asciiFault? client.authorization with
  | some fault =>
    ({ result := .error (.unencodable fault), requests := [], pauses := [], logs := [] }, state)
  | none =>
    let run := retryRule.run attempt state
    ({ result := run.outcome.bind answerOf
       requests := List.replicate run.attempts (client.payload prompt system)
       pauses := retryRule.pauses run
       logs := run.mapFailures retryLine },
     run.state)

/--
What a client can be told to do. A client that is closed opens again for the next prompt.
-/
inductive Action where
  | complete (prompt system : String)
  | close

inductive Report where
  | completed (call : Call)
  | closed

/--
What a client does when told to do something.
-/
def Client.perform (client : Client) (state : State) : Action → Report × State
  | .complete prompt system =>
    let (call, state) := client.complete prompt system state
    (.completed call, state)
  | .close => (.closed, state)

/--
What a client does when told to do several things, with its account behind each.
-/
def Client.performAll (client : Client) (state : State) : List Action → List (Report × Usage)
  | [] => []
  | action :: actions =>
    let (report, state) := client.perform state action
    (report, state.usage) :: client.performAll state actions

end CodeGauge.Groq
