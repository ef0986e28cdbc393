import CodeGauge.Http.Message
import CodeGauge.Number.Numeral

/-!
This module contains the gate for requests that announce too large a body.
-/

namespace CodeGauge.Http


/--
What the gate does with a request.
-/
inductive Passage where
  | pass
  | refuse
  /-- The announced size looks like a number but cannot be read. -/
  | fail (size : String) (fault : NumeralFault)

/--
Whether a text consists of digits, raised ones included.
-/
def looksNumeric (s : String) : Bool :=
  !s.isEmpty && s.toList.all fun c => c.isDigit || c == '²' || c == '³' || c == '¹'

/--
The methods of requests that bring a body.
-/
def bodyMethods : List String := ["POST", "PUT", "PATCH"]

/--
What the gate does with a request when bodies may have a given number of bytes. Only the announced
size counts.
-/
def gate (limit : Int) (request : Request) : Passage :=
  match request.header? "content-length" with
  | none => .pass
  | some size =>
    if bodyMethods.contains request.method && looksNumeric size then
      match Numeral.int size with
      | .ok n => if n > limit then .refuse else .pass
      | .error fault => .fail size fault
    else
      .pass

/--
The answer to a request that is refused.
-/
def tooLarge (limit : Int) : Response :=
  .object 413 [
    ("error", .str "request_too_large"),
    ("message", .str s!"Request body exceeds {limit} bytes")]

end CodeGauge.Http
