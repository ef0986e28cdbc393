import CodeGauge.Chat.Groq
import CodeGauge.Review.File
import CodeGauge.Review.Report
import CodeGauge.Review.Tree

/-!
This module contains a run over all the source files below a directory, in which the Groq service is
asked for a review of each.
-/

namespace CodeGauge.Review


/--
What came of a file: the calls of the service, each with its prompt, and the review.
-/
structure FileRun where
  file : String
  calls : List (String × Groq.Call)
  result : Except Failure (Option Json.Fields)

namespace FileRun

def logs (run : FileRun) : List LogLine :=
  run.calls.flatMap (·.2.logs) ++
    match run.result with
    | .ok _ => []
    | .error failure => [.error s!"Error analyzing {run.file}: {failure.message}"]

def pauses (run : FileRun) : List Binary64 :=
  run.calls.flatMap (·.2.pauses)

/--
The prompts of all the requests that have been sent.
-/
def prompts (run : FileRun) : List String :=
  run.calls.flatMap fun (prompt, call) => List.replicate call.requests.length prompt

def review? (run : FileRun) : Option Json :=
  match run.result with
  | .ok (some review) => some (.obj review)
  | _ => none

end FileRun

/--
A client of the service as a reviewer.
-/
def reviewerOf (client : Groq.Client) : Reviewer Groq.State Groq.Call :=
  { ask := fun prompt state => client.complete prompt Prompt.reviewSystem state
    reply := Groq.Call.result }

/--
A file to be reviewed: how its path is written, and its bytes if it can be read.
-/
structure Source where
  file : String
  bytes : Option (List UInt8)

/--
The reviews of files one behind the other, and the account of the client in the end.
-/
def runFiles (client : Groq.Client) (most : Int) (state : Groq.State) :
    List Source → List FileRun × Groq.State
  | [] => ([], state)
  | source :: sources =>
    let session := reviewFile (reviewerOf client) source.file most source.bytes state
    let (runs, state) := runFiles client most session.state sources
    (⟨source.file, session.asked, session.result⟩ :: runs, state)

/--
What is seen of a run from outside.
-/
structure Outcome where
  exitCode : Nat
  output : String := ""
  errors : String := ""
  logs : List LogLine := []
  pauses : List Binary64 := []
  prompts : List String := []
  /-- The fault that ended the program, if one did. -/
  fault : Option Json.UseFault := none

/--
The line of the log about what a client has used.
-/
def usageLine (usage : Groq.Usage) : LogLine :=
  let tokens := s!"{usage.promptTokens} prompt tokens, {usage.completionTokens} completion tokens"
  .info s!"Groq usage: {usage.requests} requests, {tokens}"

/--
A run over the files that have been found below a directory.
-/
def runOver (client : Groq.Client) (root : String) (most : Int) (wire : List Groq.Outcome)
    (sources : List Source) : Outcome :=
  let (runs, state) := runFiles client most { wire := wire } sources
  let announced :=
    [s!"AI Code Analysis using model={client.model}", s!"Scanning: {root}"]
      ++ sources.map (fun source => s!"Analyzing: {source.file}")
  let reviews := runs.filterMap FileRun.review?
  let report := if reviews.isEmpty then Printed.nothing else report reviews
  { exitCode := if report.fault.isSome then 1 else 0
    output := Printed.text ⟨announced ++ report.lines, none⟩
    logs := runs.flatMap FileRun.logs ++ [usageLine state.usage]
    pauses := runs.flatMap FileRun.pauses
    prompts := runs.flatMap FileRun.prompts
    fault := report.fault }

/--
The source files below a path in a tree. Their paths are written behind that of the tree.
-/
def sourcesBelow (tree : Tree) (base : String) (path : Path) : List Source :=
  match tree.at? path with
  | none => []
  | some below =>
    (below.sources path).map fun found =>
      { file := base ++ "/" ++ Path.text found
        bytes :=
          match tree.at? found with
          | some (.file bytes) => bytes
          | _ => none }

/--
A run over a directory in a tree. `base` is how the path of the tree is written, and no directory at
all stands for one that is not there.
-/
def run (settings : Settings) (tree : Tree) (base : String) (path : Option Path) (most : Int)
    (wire : List Groq.Outcome) : Outcome :=
  if settings.groqKey.isEmpty then
    { exitCode := 1, errors := "Missing GROQ_API_KEY. Create .env with GROQ_API_KEY=...\n" }
  else
    match path.map fun path => (path, sourcesBelow tree base path) with
    | none => nothingFound
    | some (_, []) => nothingFound
    | some (path, sources) =>
      match Groq.Client.create none none settings with
      | .error failure => { exitCode := 1, errors := failure.message ++ "\n" }
      | .ok client =>
        let root := if path.isEmpty then base else base ++ "/" ++ Path.text path
        runOver client root most wire sources
where
  nothingFound : Outcome := { exitCode := 0, output := "No source files found.\n" }

end CodeGauge.Review
