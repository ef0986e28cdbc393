import CodeGauge.Json.Access

/-!
This module contains the reviews of the pieces of a file, and how they are made into one review.
-/

namespace CodeGauge.Review

open Json


/--
The value of a field if it is of the right kind, or else a substitute.
-/
def fieldOr (fields : Fields) (name : String) (fits : Json → Bool) (substitute : Json) : Json :=
  match field? fields name with
  | some value => if fits value then value else substitute
  | none => substitute

def isArray : Json → Bool
  | .arr _ => true
  | _ => false

def isText : Json → Bool
  | .str _ => true
  | _ => false

/--
A review with the three fields that a reader relies on. A reply without an object has no findings.
-/
def normalize : Option Fields → Fields
  | none =>
    [("issues", .arr []), ("summary", .str "Non-JSON response"), ("recommended_actions", .arr [])]
  | some fields =>
    let issues := fieldOr fields "issues" isArray (.arr [])
    let summary := fieldOr fields "summary" isText (.str "")
    let actions := fieldOr fields "recommended_actions" isArray (.arr [])
    setField "recommended_actions" actions
      (setField "summary" summary (setField "issues" issues fields))

/--
What a field of a review yields one by one. One that counts as nothing yields nothing.
-/
def listed (name : String) (review : Json) : Except UseFault (List Json) := do
  let value ← review.lookup name
  (truthyOr (.arr []) value).items

/--
The recommended actions of reviews with their keys.
-/
def actions : List Json → Except UseFault (List (Key × Json))
  | [] => .ok []
  | review :: reviews => do
    let found ← listed "recommended_actions" review
    let keyed ← found.mapM fun action => return (← action.key, action)
    return keyed ++ (← actions reviews)

/--
The issues of reviews.
-/
def issues : List Json → Except UseFault (List Json)
  | [] => .ok []
  | review :: reviews => do
    let found ← listed "issues" review
    return found ++ (← issues reviews)

/--
The summaries of reviews that count as something.
-/
def summaries : List Json → Except UseFault (List Json)
  | [] => .ok []
  | review :: reviews => do
    let found ← review.lookup "summary"
    return (found.filter isTruthy).toList ++ (← summaries reviews)

/--
One review of a file. It has all the issues, the summaries in a row, and each recommended action
once.
-/
def merge (file : String) (reviews : List Json) : Except UseFault Fields := do
  let actions ← actions reviews
  let issues ← issues reviews
  let summary ← joined (← summaries reviews)
  return [
    ("file", .str file),
    ("issues", .arr issues),
    ("summary", .str summary),
    ("recommended_actions", .arr (dedup actions))]

end CodeGauge.Review
