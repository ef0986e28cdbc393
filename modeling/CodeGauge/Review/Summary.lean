import CodeGauge.Json.Access
import CodeGauge.Text.Case

/-!
This module contains the summary of reviews: the number of files, of issues, and of issues of each
severity.
-/

namespace CodeGauge.Review

open Json


/--
How many files, issues, and issues of each severity there are.
-/
structure Summary where
  files : Nat := 0
  issues : Nat := 0
  low : Nat := 0
  medium : Nat := 0
  high : Nat := 0
  deriving DecidableEq, Repr

namespace Summary

/--
The summary with one more issue of a severity. A severity without a name of its own does not count.
-/
def count (severity : String) (s : Summary) : Summary :=
  if severity == "low" then { s with low := s.low + 1 }
  else if severity == "medium" then { s with medium := s.medium + 1 }
  else if severity == "high" then { s with high := s.high + 1 }
  else s

/--
The severity of an issue in lower case. It is medium if nothing else is said.
-/
def severity (issue : Json) : Except UseFault String := do
  let value ← issue.lookup "severity"
  return Text.lower (truthyOr (.str "medium") value).display

/--
The summary with some more issues.
-/
def addIssues (s : Summary) : List Json → Except UseFault Summary
  | [] => .ok s
  | issue :: issues => do
    let severity ← severity issue
    (s.count severity).addIssues issues

/--
The issues of a review, if it lists any.
-/
def issuesOf (review : Json) : Except UseFault (List Json) :=
  if review.isTruthy then
    match review.lookup "issues" with
    | .ok (some (.arr issues)) => .ok issues
    | .ok _ => .ok []
    | .error fault => .error fault
  else
    .ok []

/--
The summary with some more reviews.
-/
def addReviews (s : Summary) : List Json → Except UseFault Summary
  | [] => .ok s
  | review :: reviews => do
    let issues ← issuesOf review
    let s ← { s with files := s.files + 1, issues := s.issues + issues.length }.addIssues issues
    s.addReviews reviews

def ofReviews (reviews : List Json) : Except UseFault Summary :=
  addReviews {} reviews

def toJson (s : Summary) : Json :=
  .obj [
    ("files", .int s.files),
    ("totalIssues", .int s.issues),
    ("severityCount", .obj [("low", .int s.low), ("medium", .int s.medium), ("high", .int s.high)])]

end Summary
end CodeGauge.Review
