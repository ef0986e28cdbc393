import CodeGauge.Field
import CodeGauge.Log
import CodeGauge.Text.Case

/-!
This module contains the settings of the program and how they are read from an environment.
-/

namespace CodeGauge


/--
The settings of the program.
-/
structure Settings where
  host : String := "0.0.0.0"
  port : Int := 3001
  debug : Bool := false
  logLevel : LogLevel := .info
  allowedOrigins : String := "http://localhost:3000,http://localhost:5173"
  /-- The largest number of bytes that a request may announce. -/
  maxRequestSize : Int := 1048576
  /-- The largest number of characters of a text that is to be judged. -/
  maxCodeLength : Int := 50000
  geminiKey : String := ""
  geminiModel : String := "gemini-2.5-flash-lite"
  maxTokens : Int := 1024
  temperature : Binary64 := .ofDecimal false 1 (-1)
  geminiTimeoutSeconds : Int := 30
  groqKey : String := ""
  groqModel : String := "meta-llama/llama-4-scout-17b-16e-instruct"
  /-- The number of characters of a file that are reviewed at a time. -/
  maxCharsPerChunk : Int := 8000

namespace Settings

/--
A log level by its name.
-/
def level (v : Json) : Except Fault LogLevel :=
  match v with
  | .str name =>
    match LogLevel.ofName? name with
    | some level => .ok level
    | none => .error .notChoice
  | _ => .error .notChoice

/--
The settings that a lookup by name gives. Those that it does not give have their defaults.
-/
def ofLookup (value? : String → Option Json) : Checked Settings :=
  let setting {α : Type} (name : String) (default : α) (check : Json → Except Fault α) :
      Checked α :=
    .ofField name (match value? name with
      | some v => check v
      | none => .ok default)
  let base : Settings := {}
  Settings.mk <$> setting "HOST" base.host Field.text
    <*> setting "PORT" base.port Field.int
    <*> setting "DEBUG" base.debug Field.bool
    <*> setting "LOG_LEVEL" base.logLevel level
    <*> setting "ALLOWED_ORIGINS" base.allowedOrigins Field.text
    <*> setting "MAX_REQUEST_SIZE" base.maxRequestSize Field.int
    <*> setting "MAX_CODE_LENGTH" base.maxCodeLength Field.int
    <*> setting "GEMINI_API_KEY" base.geminiKey Field.text
    <*> setting "GEMINI_MODEL" base.geminiModel Field.text
    <*> setting "MAX_TOKENS" base.maxTokens Field.int
    <*> setting "TEMPERATURE" base.temperature Field.float
    <*> setting "GEMINI_TIMEOUT_SECONDS" base.geminiTimeoutSeconds Field.int
    <*> setting "GROQ_API_KEY" base.groqKey Field.text
    <*> setting "GROQ_MODEL" base.groqModel Field.text
    <*> setting "AI_MAX_CHARS_PER_CHUNK" base.maxCharsPerChunk Field.int

/--
The settings under an environment. The letter case of names does not count, and of several variables
of one name the last one does.
-/
def ofEnvironment (env : List (String × String)) : Checked Settings :=
  ofLookup fun name =>
    (env.reverse.find? fun (n, _) => Text.lower n == Text.lower name).map fun (_, v) => .str v

/--
The settings that fields give.
-/
def ofFields (fields : Json.Fields) : Checked Settings :=
  ofLookup (Json.field? fields)

def fields (s : Settings) : Json.Fields :=
  [
    ("HOST", .str s.host),
    ("PORT", .int s.port),
    ("DEBUG", .bool s.debug),
    ("LOG_LEVEL", .str s.logLevel.name),
    ("ALLOWED_ORIGINS", .str s.allowedOrigins),
    ("MAX_REQUEST_SIZE", .int s.maxRequestSize),
    ("MAX_CODE_LENGTH", .int s.maxCodeLength),
    ("GEMINI_API_KEY", .str s.geminiKey),
    ("GEMINI_MODEL", .str s.geminiModel),
    ("MAX_TOKENS", .int s.maxTokens),
    ("TEMPERATURE", .float s.temperature),
    ("GEMINI_TIMEOUT_SECONDS", .int s.geminiTimeoutSeconds),
    ("GROQ_API_KEY", .str s.groqKey),
    ("GROQ_MODEL", .str s.groqModel),
    ("AI_MAX_CHARS_PER_CHUNK", .int s.maxCharsPerChunk)]

/--
The parts of a list between commas, without blanks around them and without the empty ones.
-/
def listed (text : String) : List String :=
  ((text.toList.splitOn ',').map (Text.strip Text.isBlank)).filterMap fun part =>
    if part.isEmpty then none else some (.ofList part)

/--
The origins from which requests are allowed. A star among them allows all.
-/
def origins (s : Settings) : List String :=
  let listed := listed s.allowedOrigins
  if listed.contains "*" then ["*"] else listed

end Settings
end CodeGauge
