import CodeGauge.Chat.Failure
import CodeGauge.Pattern.Build
import CodeGauge.Pattern.Scan

/-!
This module contains the recovery of a JSON object from the reply of a model, which may put it into
a fenced block or between other text.
-/

namespace CodeGauge.Reply

open Pattern Text

variable {τ : Type} [BEq τ] [Wording τ]


def fence : Pattern :=
  exactly "```"

/--
A line feed, or nothing.
-/
def lineEnd : Pattern :=
  atMostOne (· == '\n')

/--
The shortest block between two fences, where the given pattern follows the first. The content is
group 1.
-/
def fenced (tag : Pattern) : Pattern :=
  chain [fence, tag, blanks, lineEnd, group 1 (few (fun _ => true) none), lineEnd, fence]

/--
The longest span from a brace that opens to one that closes, which is group 1.
-/
def braced : Pattern :=
  group 1 (chain [char '\x7b', many (fun _ => true) none, char '\x7d'])

/--
Where an object is looked for in a reply, in this order.
-/
def spans : List Pattern :=
  [fenced (exactly "json"), fenced empty, braced]

/--
The object that a text writes, if it is JSON and writes one. It must not go beyond the limits of the
reader.
-/
def object (room : Nat) (cs : List Char) : Except (Failure τ) (Option (Json.Fields τ)) :=
  match Json.read cs room with
  | .ok (.obj fields) => .ok (some fields)
  | .ok _ => .ok none
  | .error (.malformed ..) => .ok none
  | .error fault => .error (.unreadable fault)

/--
The first object that one of the spans of a text writes. Only the first match of each pattern
counts.
-/
def objectWithin (room : Nat) (cs : List Char) :
    List Pattern → Except (Failure τ) (Option (Json.Fields τ))
  | [] => .ok none
  | p :: ps =>
    match (p.find? (.start cs)).bind (·.group? 1) with
    | none => objectWithin room cs ps
    | some span =>
      match object room (strip isBlank span) with
      | .ok none => objectWithin room cs ps
      | result => result

/--
The object in a reply: the whole of it, or else one of its spans.
-/
def extract (text : String) (room : Nat := Json.maxNesting) :
    Except (Failure τ) (Json.Fields τ) :=
  let cs := text.toList
  let found : Except (Failure τ) (Option (Json.Fields τ)) :=
    match object room cs with
    | .ok none => objectWithin room cs spans
    | result => result
  match found with
  | .ok (some fields) => .ok fields
  | .ok none =>
    .error (.unusable (Wording.ofString "Model returned non-JSON content") (Wording.ofString text))
  | .error failure => .error failure

end CodeGauge.Reply
