import CodeGauge.Json.Writer
import CodeGauge.Review.Summary
import CodeGauge.Text.Control

/-!
This module contains the printed report on reviews.
-/

namespace CodeGauge.Review

open Json


/--
Lines, and the fault that broke them off, if any.
-/
structure Printed where
  lines : List String
  fault : Option UseFault := none

namespace Printed

/--
What is printed first and, unless that breaks off, what follows.
-/
def andThen (first : Printed) (next : Unit → Printed) : Printed :=
  match first.fault with
  | some _ => first
  | none =>
    let next := next ()
    ⟨first.lines ++ next.lines, next.fault⟩

def nothing : Printed :=
  ⟨[], none⟩

/--
A single line. What goes into it has to be there.
-/
def line : Except UseFault String → Printed
  | .ok s => ⟨[s], none⟩
  | .error fault => ⟨[], some fault⟩

/--
What depends on a value that has to be there.
-/
def given {α : Type} (value : Except UseFault α) (next : α → Printed) : Printed :=
  match value with
  | .ok a => next a
  | .error fault => ⟨[], some fault⟩

/--
What is printed for the elements of a list, one behind the other.
-/
def each {α : Type} (print : α → Printed) : List α → Printed
  | [] => nothing
  | x :: xs => (print x).andThen fun () => each print xs

/--
All of it as one text, without the control sequences of terminals.
-/
def text (p : Printed) : String :=
  .ofList (Text.dropControls (String.join (p.lines.map (· ++ "\n"))).toList)

end Printed

open Printed

/--
The line about what the rules make of a file.
-/
def verdictLine (complexity : Json) : Except UseFault String := do
  let time ← complexity.part "timeComplexityType"
  let space ← complexity.part "spaceComplexityType"
  let rating ← complexity.part "codeRating"
  return s!"Heuristic: time {time.display}, space {space.display}, rating {rating.display}/5"

/--
The line about an issue.
-/
def issueLine (issue : Json) : Except UseFault String := do
  let hint ← issue.lookup "lineHint"
  let hint :=
    match hint.filter isTruthy with
    | some hint => s!" (hint: {hint.display})"
    | none => ""
  let severity ← issue.lookup "severity"
  let severity := Text.upper (truthyOr (.str "") severity).display
  let type ← issue.lookup "type"
  let message ← issue.lookup "message"
  return s!"- [{severity}] {(type.getD .null).display}: {(message.getD .null).display}{hint}"

/--
The lines about recommended actions.
-/
def printActions (actions : Json) : Printed :=
  if actions.isTruthy then
    (line (.ok "Recommended actions:")).andThen fun () =>
      given actions.items (each fun action => line (.ok ("  - " ++ action.display)))
  else
    nothing

/--
The lines about the findings in a file.
-/
def printFindings (review : Json) : Printed :=
  given (review.part "issues") fun issues =>
    if issues.isTruthy then
      (given issues.items (each fun issue => line (issueLine issue))).andThen fun () =>
        given (review.part "recommended_actions") printActions
    else
      line (.ok "No issues found")

/--
The lines about a file.
-/
def printReview (review : Json) : Printed :=
  (line ((review.part "file").map fun file => "\n# " ++ file.display)).andThen fun () =>
    given (review.lookup "complexity") fun complexity =>
      (match complexity.filter isTruthy with
        | some complexity => line (verdictLine complexity)
        | none => nothing).andThen fun () => printFindings review

/--
The report on reviews.
-/
def report (reviews : List Json) : Printed :=
  (line (.ok "\n=== Summary ===")).andThen fun () =>
    (line ((Summary.ofReviews reviews).map fun s => s.toJson.pretty)).andThen fun () =>
      (line (.ok "\n=== Findings ===")).andThen fun () =>
        each printReview reviews

end CodeGauge.Review
