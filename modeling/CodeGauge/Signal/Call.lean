import CodeGauge.Pattern.Build
import CodeGauge.Pattern.Scan

/-!
This module contains the patterns of function heads and calls, and the count of functions that call
themselves.
-/

namespace CodeGauge.Signal

open Pattern Text


/--
The words that look like the name of a function in front of parentheses and a brace, but are none.
-/
def controlWord : Pattern :=
  chain [
    oneOf [text "for", text "foreach", text "while", text "if", text "else", text "switch",
      text "catch", text "with", text "return", text "function", text "do"],
    boundary]

/--
The head of a function: a defining word and a name, which is group 1, or a name, which is group 2,
with parentheses and an opening brace.
-/
def functionHead : Pattern :=
  alt
    (chain [boundary, oneOf [text "function", text "def", text "func", text "fn"], someBlanks,
      group 1 wordChars, boundary])
    (chain [boundary, notAhead controlWord, group 2 wordChars, blanks, parens, blanks, char '{'])

/--
A name, which is group 1, and an opening parenthesis.
-/
def call : Pattern :=
  chain [boundary, group 1 wordChars, blanks, char '(']

/--
A call of a sorting function.
-/
def sortCall : Pattern :=
  oneOf [
    chain [char '.', oneOf [text "sort", text "sorted"], blanks, char '('],
    chain [boundary, text "sorted", blanks, char '('],
    chain [boundary, text "qsort", boundary],
    chain [text "std::sort", boundary],
    chain [text "collections.sort", boundary]]

/--
The end of the name of a logging function.
-/
def consoleBehind : List (Char → Bool) :=
  "console.".toList.reverse.map isFormOf

/--
A call of a logarithm, which is not a call for logging, or of a binary search.
-/
def logCall : Pattern :=
  oneOf [
    chain [notBehind consoleBehind, boundary, text "log", atMostOne (· == '2'), blanks, char '('],
    chain [boundary, text "math.log", atMostOne (· == '2'), blanks, char '('],
    chain [boundary, text "binarysearch", blanks, char '(']]

/--
The name in a function head.
-/
def headName (head : Match) : List Char :=
  ((head.group? 1).or (head.group? 2)).getD []

/--
Whether a text that starts behind a function head calls the function. Letter case does not count.
-/
def callsItself (head : Match) (body : Cursor) : Bool :=
  (call.scan body).any fun c =>
    lowerChars [] ((c.group? 1).getD []) == lowerChars [] (headName head)

/--
Whether each function calls itself in its own body. A body ends where the next head starts.
-/
def selfCalls : List Match → List Bool
  | [] => []
  | [head] => [callsItself head (head.last.truncate head.last.after.length)]
  | head :: next :: heads =>
    callsItself head (head.last.truncate (next.first.offset - head.last.offset))
      :: selfCalls (next :: heads)

/--
The number of functions that call themselves.
-/
def recursionCount (text : List Char) : Nat :=
  (selfCalls (functionHead.findAll text)).count true

end CodeGauge.Signal
