import CodeGauge.Review.Run

/-!
This module contains the command line of the review: a directory, and the number of characters that
are reviewed at a time.
-/

namespace CodeGauge.Review


/--
The texts on a command line: the arguments, and the last value of the option.
-/
structure Words where
  arguments : List String := []
  maxChars : Option String := none

/--
The words of a command line, in case all of its options are known and have values. Two dashes end
the options.
-/
def readWords (words : Words) : List String → Option Words
  | [] => some words
  | "--" :: rest => some { words with arguments := words.arguments ++ rest }
  | "--max-chars" :: value :: rest => readWords { words with maxChars := some value } rest
  | word :: rest =>
    match word.toList with
    | '-' :: '-' :: 'm' :: 'a' :: 'x' :: '-' :: 'c' :: 'h' :: 'a' :: 'r' :: 's' :: '=' :: value =>
      readWords { words with maxChars := some (.ofList value) } rest
    | '-' :: _ :: _ => none
    | _ => readWords { words with arguments := words.arguments ++ [word] } rest

/--
What a command line asks for.
-/
structure Command where
  root : String
  maxChars : Int

/--
What a command line asks for, if it can be understood. The settings hold the number of characters if
it does not say one.
-/
def Command.read? (settings : Settings) (words : List String) : Option Command :=
  match readWords {} words with
  | none => none
  | some words =>
    let maxChars :=
      match words.maxChars with
      | none => some settings.maxCharsPerChunk
      | some value => (Numeral.int value).toOption
    match words.arguments, maxChars with
    | [], some n => some ⟨"src", n⟩
    | [root], some n => some ⟨root, n⟩
    | _, _ => none

/--
The path of a directory from the one in which the program runs, if it lies in that.
-/
def relativePath (root : String) : Option Path :=
  if root.toList.head? == some '/' then none else some (Path.resolve (Path.parts root))

/--
What the program does for a command line in a directory, of which `base` is the written path.
-/
def execute (settings : Settings) (tree : Tree) (base : String) (words : List String)
    (wire : List Groq.Outcome) : Outcome :=
  match Command.read? settings words with
  | none => { exitCode := 2 }
  | some command => run settings tree base (relativePath command.root) command.maxChars wire

end CodeGauge.Review
