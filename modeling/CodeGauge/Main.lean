import CodeGauge.Review.Recording

/-!
This module contains the program on the command line. It takes a recording from the standard input
and replays the review of its files, as the arguments ask for.
-/

namespace CodeGauge


/--
The variables of the environment that are settings.
-/
def environment : IO (List (String × String)) := do
  let base : Settings := {}
  let mut found := []
  for (name, _) in base.fields do
    if let some value ← IO.getEnv name then
      found := (name, value) :: found
  return found

/--
All that is left of a stream.
-/
partial def readAll (stream : IO.FS.Stream) (before : String) : IO String := do
  let line ← stream.getLine
  if line.isEmpty then
    return before
  else
    readAll stream (before ++ line)

/--
What a run shows on the streams, and its exit code.
-/
def present (outcome : Review.Outcome) : IO UInt32 := do
  for line in outcome.logs do
    IO.eprintln line.text
  IO.eprint outcome.errors
  IO.print outcome.output
  if let some fault := outcome.fault then
    IO.eprintln fault.message
  return outcome.exitCode.toUInt32

end CodeGauge

open CodeGauge in
def main (args : List String) : IO UInt32 := do
  match Settings.ofEnvironment (← environment) with
  | .faulty faults =>
    IO.eprintln (FieldFault.message faults)
    return 1
  | .ok settings =>
    let text ← readAll (← IO.getStdin) ""
    match Review.Recording.ofText? text with
    | none =>
      IO.eprintln "The standard input holds no recording."
      return 1
    | some recording =>
      present (Review.execute settings recording.tree "." args recording.wire)
