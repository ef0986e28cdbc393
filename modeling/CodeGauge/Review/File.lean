import CodeGauge.Chat.Prompt
import CodeGauge.Review.Chunk
import CodeGauge.Review.Merge
import CodeGauge.Text.Encoding
import CodeGauge.Text.Newline
import CodeGauge.Verdict

/-!
This module contains the review of a file, piece by piece, by somebody who answers prompts.
-/

namespace CodeGauge.Review


/--
Somebody who answers prompts. An answer may tell more than the reply that counts.
-/
structure Reviewer (σ α : Type) where
  ask : String → σ → α × σ
  reply : α → Except Failure Json.Fields

/--
What came of prompts: the prompts with their answers, the result, and the state behind it.
-/
structure Session (σ α ρ : Type) where
  asked : List (String × α)
  result : Except Failure ρ
  state : σ

/--
The text in the bytes of a file, with line feeds alone at the ends of lines.
-/
def textOf (bytes : List UInt8) : Option (List Char) :=
  match Text.Utf8.decode bytes with
  | .ok cs => some (Text.unifyNewlines cs)
  | .error _ => none

/--
The review in a reply. A reply without an object counts as a review as well.
-/
def reviewOf : Except Failure Json.Fields → Except Failure Json.Fields
  | .ok fields => .ok (normalize (some fields))
  | .error (.unusable ..) => .ok (normalize none)
  | .error failure => .error failure

variable {σ α : Type}

/--
The reviews of the pieces of a file from the one with number `index` on. The first failure ends
them.
-/
def reviewPieces (reviewer : Reviewer σ α) (file : String) (total index : Nat) (state : σ) :
    List (List Char) → Session σ α (List Json)
  | [] => ⟨[], .ok [], state⟩
  | piece :: pieces =>
    let prompt := Prompt.review (.ofList piece) file index total
    let (answer, state) := reviewer.ask prompt state
    match reviewOf (reviewer.reply answer) with
    | .error failure => ⟨[(prompt, answer)], .error failure, state⟩
    | .ok review =>
      let rest := reviewPieces reviewer file total (index + 1) state pieces
      { asked := (prompt, answer) :: rest.asked
        result := rest.result.map (.obj review :: ·)
        state := rest.state }

/--
The review of a file, which carries the verdict of the rules on all of its text.
-/
def assemble (file : String) (text : List Char) (reviews : List Json) :
    Except Failure Json.Fields :=
  match merge file reviews with
  | .error fault => .error (.misused fault)
  | .ok review => .ok (Json.setField "complexity" (Verdict.ofText (.ofList text)).toJson review)

/--
The review of a text that is not empty.
-/
def reviewText (reviewer : Reviewer σ α) (file : String) (most : Int) (text : List Char)
    (state : σ) : Session σ α Json.Fields :=
  match chunks most text with
  | .error failure => ⟨[], .error failure, state⟩
  | .ok pieces =>
    let session := reviewPieces reviewer file pieces.length 0 state pieces
    { session with result := session.result.bind (assemble file text) }

/--
The review of a file. There is none if the file cannot be read or is empty.
-/
def reviewFile (reviewer : Reviewer σ α) (file : String) (most : Int) (bytes : Option (List UInt8))
    (state : σ) : Session σ α (Option Json.Fields) :=
  match bytes.bind textOf with
  | none => ⟨[], .ok none, state⟩
  | some [] => ⟨[], .ok none, state⟩
  | some text =>
    let session := reviewText reviewer file most text state
    { session with result := session.result.map some }

end CodeGauge.Review
