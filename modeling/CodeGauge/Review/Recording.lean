import CodeGauge.Json.Reader
import CodeGauge.Review.CommandLine

/-!
This module contains recordings: the files of a directory, and the answers of the service with
which a review of them is to be replayed.
-/

namespace CodeGauge.Review


structure Recording where
  tree : Tree
  wire : List Groq.Outcome

namespace Recording

def textField (fields : Json.Fields) (name : String) : String :=
  match Json.field? fields name with
  | some (.str s) => s
  | _ => ""

def listField (fields : Json.Fields) (name : String) : List Json :=
  match Json.field? fields name with
  | some (.arr items) => items
  | _ => []

/--
A tree with one more file, which has a path and a text.
-/
def addFile (tree : Tree) : Json → Tree
  | .obj fields =>
    let bytes := Text.Utf8.encode (textField fields "text")
    tree.put (Path.parts (textField fields "path")) (.file (some bytes))
  | _ => tree

/--
An answer of the service, which has a status, headers and a body.
-/
def answer : Json → Groq.Outcome
  | .obj fields =>
    let status :=
      match Json.field? fields "status" with
      | some (.int i) => i
      | _ => 200
    let headers :=
      match Json.field? fields "headers" with
      | some (.obj headers) => headers.map fun (name, value) => (name, value.display)
      | _ => []
    .ok ⟨status, headers, Text.Utf8.encode (textField fields "body")⟩
  | _ => Groq.exhausted

/--
The recording that a document holds in its fields `files` and `answers`.
-/
def ofText? (text : String) : Option Recording :=
  match Json.read text.toList with
  | .ok (.obj fields) =>
    some {
      tree := (listField fields "files").foldl addFile .empty
      wire := (listField fields "answers").map answer }
  | _ => none

end Recording
end CodeGauge.Review
