import CodeGauge.Pattern.Build
import CodeGauge.Pattern.Scan

/-!
This module contains the shapes of loops that halve their range on every pass. `halvesRange` says
whether a text has one.
-/

namespace CodeGauge.Signal

open Pattern Text


/--
A loop with its body, which is group 1 and ends at the first closing brace. The head has at most 200
characters and the body at most 1000.
-/
def loopBody : Pattern :=
  chain [boundary, oneOf [text "for", text "while"], without ['{'] (some 200), char '{',
    group 1 (without ['}'] (some 1000)), char '}']

/--
A variable name, where a dollar sign counts as a letter.
-/
def variableName : Pattern :=
  seq (one fun c => isLetterForm c || c == '_' || c == '$')
    (many (fun c => isWord c || c == '$') none)

/--
One slash or two.
-/
def slashes : Pattern :=
  seq (char '/') (atMostOne (· == '/'))

/--
A whole part of a half.
-/
def floorOfHalf (limit : Option Nat) : Pattern :=
  chain [text "math.floor(", without [')'] limit, char '/', blanks, char '2', char ')']

/--
A variable that becomes half of itself, a shift by one, or the whole part of a half.
-/
def halving : Pattern :=
  oneOf [
    chain [boundary, group 1 variableName, blanks, oneOf [exactly "=", exactly "/=", exactly "//="],
      blanks, again 1, blanks, slashes, blanks, char '2', boundary],
    chain [boundary, variableName, blanks, slashes, char '=', blanks, char '2', boundary],
    chain [exactly ">>=", blanks, char '1'],
    chain [exactly ">>", blanks, char '1'],
    chain [boundary, floorOfHalf none]]

/--
An assignment up to the end of its statement or line.
-/
def assignment : Pattern :=
  chain [blanks, char '=', blanks, without [';', '\n'] none]

/--
An assignment to the middle of a range.
-/
def midAssignment : Pattern :=
  chain [boundary, text "mid", boundary, assignment]

/--
An assignment to a name that ends like the middle of a range.
-/
def midLine : Pattern :=
  chain [text "mid", assignment]

/--
A name of an end of a range.
-/
def boundName : Pattern :=
  wholeWord (oneOf [text "low", text "left", text "lo", text "high", text "right", text "hi",
    text "start", text "end"])

/--
An end of a range that moves just past the middle.
-/
def boundMove : Pattern :=
  alt
    (chain [boundary, oneOf [text "start", text "low", text "left", text "lo"], blanks, char '=',
      blanks, text "mid", blanks, char '+', blanks, char '1'])
    (chain [boundary, oneOf [text "end", text "high", text "right", text "hi"], blanks, char '=',
      blanks, text "mid", blanks, char '-', blanks, char '1'])

/--
The head of a counting loop whose last part halves.
-/
def halvingHeader : Pattern :=
  chain [text "for", blanks, char '(', without [')', ';'] (some 200), char ';',
    without [';'] (some 200), char ';', without [')'] (some 200),
    oneOf [
      chain [char '/', blanks, char '2'],
      chain [exactly ">>", blanks, char '1'],
      chain [exactly ">>=", blanks, char '1'],
      floorOfHalf (some 200)]]

/--
Whether the body of a loop halves something, or computes a middle beside an end of a range.
-/
def bodyHalves (body : List Char) : Bool :=
  halving.occurs body || (midAssignment.occurs body && boundName.occurs body)

/--
Whether a text has a loop that halves its range: by its body, by a middle and an end that moves past
it anywhere in the text, or by the head of a counting loop.
-/
def halvesRange (text : List Char) : Bool :=
  (loopBody.findAll text).any (fun m => bodyHalves ((m.group? 1).getD []))
    || (midLine.occurs text && boundMove.occurs text)
    || halvingHeader.occurs text

end CodeGauge.Signal
