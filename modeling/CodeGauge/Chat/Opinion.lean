import CodeGauge.Chat.Prompt
import CodeGauge.Chat.Reply
import CodeGauge.Verdict

/-!
This module contains what a language model makes of a text: a verdict, or a reply that is of no use.
-/

namespace CodeGauge

open Text

variable {τ : Type} [BEq τ] [Wording τ]


/--
What a model is asked.
-/
structure Query where
  prompt : String
  system : String
  model : Option String
  deriving DecidableEq, Repr

/--
The query for a verdict on a text, which must not be blank. The blanks around the text are not sent.
-/
def Query.ofCode (code : String) (model : Option String) : Except (Failure τ) Query :=
  if allBlank code then
    .error .emptyCode
  else
    .ok ⟨Prompt.analysis (trim code), Prompt.system, model⟩

/--
What a model makes of a text: a verdict, or an error about its reply. Those texts that come from the
model are of some kind.
-/
inductive Opinion (τ : Type := String) where
  | verdict (v : Verdict τ)
  | unusable (error : String) (raw : τ)

namespace Opinion

/--
The opinion in the object of a reply. An object that is no verdict is written for it, where there is
some room for arrays and objects within one another.
-/
def ofFields (room : Nat) (fields : Json.Fields τ) : Except (Failure τ) (Opinion τ) :=
  match Verdict.ofFields fields with
  | .ok v => .ok (.verdict v)
  | .faulty _ =>
    match Json.writeFault? room (.obj fields) with
    | some fault => .error (.unwritable fault)
    | none =>
      .ok (.unusable "Gemini returned an invalid analysis"
        (Wording.ofString (Json.obj fields).text))

/--
The opinion in the outcome of a query. A reply without an object is an opinion as well.
-/
def ofOutcome (outcome : Except (Failure τ) (Json.Fields τ)) (room : Nat := Json.maxNesting) :
    Except (Failure τ) (Opinion τ) :=
  match outcome with
  | .ok fields => ofFields room fields
  | .error (.unusable _ raw) => .ok (.unusable "Gemini returned non-JSON content" raw)
  | .error failure => .error failure

/--
The opinion of a model on a text, together with what the model has been asked.
-/
def ask (answer : Query → Except (Failure τ) (Json.Fields τ)) (code : String)
    (model : Option String) (room : Nat := Json.maxNesting) :
    List Query × Except (Failure τ) (Opinion τ) :=
  match Query.ofCode code model with
  | .error failure => ([], .error failure)
  | .ok query => ([query], ofOutcome (answer query) room)

/--
An opinion with its texts as strings, if all of them can be.
-/
def whole? : Opinion τ → Option Opinion
  | .verdict v => v.whole?.map .verdict
  | .unusable error raw => (Wording.whole? raw).map (.unusable error)

def toJson : Opinion → Json
  | .verdict v => v.toJson
  | .unusable error raw => .obj [("error", .str error), ("raw", .str raw)]

end Opinion
end CodeGauge
