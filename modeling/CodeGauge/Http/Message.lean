import CodeGauge.Json.Basic

/-!
This module contains requests and responses.
-/

namespace CodeGauge.Http


/--
A request. The names of the headers are in lower case, and the target may have a query.
-/
structure Request where
  method : String
  target : String
  headers : List (String × String)
  body : List UInt8

namespace Request

/--
The value of the first header of a name.
-/
def header? (request : Request) (name : String) : Option String :=
  request.headers.lookup name

/--
The target without its query.
-/
def path (request : Request) : String :=
  .ofList (request.target.toList.takeWhile (· != '?'))

end Request

/--
What a response holds.
-/
inductive Content where
  | json (value : Json)
  | text (s : String)
  | empty

structure Response where
  status : Nat
  content : Content
  headers : List (String × String) := []

namespace Response

/--
A response with an object.
-/
def object (status : Nat) (fields : Json.Fields) : Response :=
  { status := status, content := .json (.obj fields) }

/--
The type of the content.
-/
def contentType? (response : Response) : Option String :=
  match response.content with
  | .json _ => some "application/json"
  | .text _ => some "text/plain; charset=utf-8"
  | .empty => none

/--
All headers, that of the content included.
-/
def allHeaders (response : Response) : List (String × String) :=
  (response.contentType?.map (("content-type", ·))).toList ++ response.headers

end Response
end CodeGauge.Http
