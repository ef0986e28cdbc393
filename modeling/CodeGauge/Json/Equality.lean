import CodeGauge.Json.Basic

/-!
This module contains the equality of JSON scalars by value.
-/

namespace CodeGauge.Json


/--
A scalar up to equality of values: numbers of both kinds and truth values are equal if they stand
for the same number.
-/
inductive Key where
  | null
  | text (s : String)
  | whole (i : Int)
  | float (x : Binary64)
  deriving DecidableEq

/--
The key of a scalar. Arrays and objects have none.
-/
def key? : Json → Option Key
  | .null => some .null
  | .bool b => some (.whole (if b then 1 else 0))
  | .int i => some (.whole i)
  | .float x => some (match x.toInt? with | some i => .whole i | none => .float x)
  | .str s => some (.text s)
  | .arr _ => none
  | .obj _ => none

/--
The values of a list whose keys have not come before.
-/
def dedup (values : List (Key × Json)) : List Json :=
  go [] values
where
  go (seen : List Key) : List (Key × Json) → List Json
    | [] => []
    | (key, value) :: values =>
      if seen.contains key then
        go seen values
      else
        value :: go (key :: seen) values

end CodeGauge.Json
