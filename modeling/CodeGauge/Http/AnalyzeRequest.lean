import CodeGauge.Field
import CodeGauge.Http.Message
import CodeGauge.Json.Reader
import CodeGauge.Text.Case
import CodeGauge.Text.Encoding

/-!
This module contains the requests for an analysis, and how they are read from a body.
-/

namespace CodeGauge.Http

open Text


/--
The text to analyze, and the model that is asked for.
-/
structure AnalyzeRequest where
  code : String
  model : Option String

/--
Why a body is not read as a request for an analysis.
-/
inductive BodyFault where
  /-- The bytes cannot be decoded, or the text goes beyond the limits of the reader. -/
  | unreadable
  | invalid (faults : List FieldFault)

/--
Whether a content type is that of JSON: its main type is `application`, and its subtype is `json` or
ends in `+json`. Letter case and parameters do not count.
-/
def isJsonType (contentType : String) : Bool :=
  let cs := (lower contentType).toList.takeWhile (· != ';')
  match (strip isBlank cs).splitOn '/' with
  | [main, sub] =>
    main == "application".toList && (sub == "json".toList || "+json".toList.isSuffixOf sub)
  | _ => false

/--
The text to analyze, which must not be blank or longer than the limit.
-/
def checkCode (limit : Int) (v : Json Wide) : Except Fault String :=
  match Field.string v with
  | .error fault => .error fault
  | .ok s =>
    if limit < s.length then .error .textTooLong
    else if allBlank s then .error .blankText
    else .ok s

/--
The name of a model, which has at most 100 characters, or null.
-/
def checkModel : Json Wide → Except Fault (Option String)
  | .null => .ok none
  | v =>
    match Field.string v with
    | .error fault => .error fault
    | .ok s => if 100 < s.length then .error .textTooLong else .ok (some s)

namespace AnalyzeRequest

/--
The request that a value writes. A text that is not given is empty, and therefore at fault.
-/
def ofJson (limit : Int) : Json Wide → Checked AnalyzeRequest
  | .obj fields =>
    let code := (Json.field? fields (Wording.ofString "code")).getD (.str (Wording.ofString ""))
    AnalyzeRequest.mk
      <$> .ofField "code" (checkCode limit code)
      <*> Field.optional fields "model" none checkModel
  | _ => .faulty [⟨"", .notObject⟩]

/--
The request in the body of a message. It is read only if the content type is that of JSON. A
surrogate that stands alone is kept if it is written as an escape, but not if the bytes encode it.
-/
def ofRequest (limit : Int) (request : Request) : Except BodyFault AnalyzeRequest :=
  if request.body.isEmpty then
    .error (.invalid [⟨"", .missing⟩])
  else if !(request.header? "content-type").any isJsonType then
    .error (.invalid [⟨"", .notObject⟩])
  else
    match decodeMarked request.body with
    | .error _ => .error .unreadable
    | .ok cs =>
      match Json.readUnmarked cs with
      | .error (.malformed ..) => .error (.invalid [⟨"", .notObject⟩])
      | .error _ => .error .unreadable
      | .ok value =>
        match ofJson limit value with
        | .ok request => .ok request
        | .faulty faults => .error (.invalid faults)

end AnalyzeRequest

/--
The answer to a request with such a body. The message is about the length if any text is too long.
-/
def BodyFault.response (limit : Int) : BodyFault → Response
  | .unreadable => .object 400 [("detail", .str "There was an error parsing the body")]
  | .invalid faults =>
    let message :=
      if faults.any (·.fault == .textTooLong) then s!"code exceeds {limit} characters"
      else "code is required"
    .object 400 [("message", .str message)]

end CodeGauge.Http
