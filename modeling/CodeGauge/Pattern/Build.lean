import CodeGauge.Pattern.Basic
import CodeGauge.Text.Blank

/-!
This module contains the words from which patterns are put together.
-/

namespace CodeGauge.Pattern

open Text


/--
Patterns one behind the other.
-/
def chain : List Pattern → Pattern
  | [] => empty
  | [p] => p
  | p :: ps => seq p (chain ps)

/--
One of several patterns, the earlier ones first.
-/
def oneOf : List Pattern → Pattern
  | [] => notAhead empty
  | [p] => p
  | p :: ps => alt p (oneOf ps)

/--
A text in any letter case, given in lower case.
-/
def text (s : String) : Pattern :=
  chain (s.toList.map fun letter => one (isFormOf letter))

/--
A text in exactly this letter case.
-/
def exactly (s : String) : Pattern :=
  chain (s.toList.map fun c => one (· == c))

/--
A single character.
-/
def char (c : Char) : Pattern :=
  one (· == c)

/--
A class of characters, or nothing.
-/
def atMostOne (p : Char → Bool) : Pattern :=
  many p (some 1)

/--
Blanks, as many as there are.
-/
def blanks : Pattern :=
  many isBlank none

/--
At least one blank.
-/
def someBlanks : Pattern :=
  seq (one isBlank) blanks

/--
At least one word character, as many as there are.
-/
def wordChars : Pattern :=
  seq (one isWord) (many isWord none)

/--
Characters other than the given ones, up to a limit.
-/
def without (cs : List Char) (limit : Option Nat) : Pattern :=
  many (fun c => !cs.contains c) limit

/--
A text in any letter case that starts and ends at the borders of a word.
-/
def wholeWord (p : Pattern) : Pattern :=
  chain [boundary, p, boundary]

/--
A span in parentheses with no parenthesis inside.
-/
def parens : Pattern :=
  chain [char '(', without ['(', ')'] none, char ')']

end CodeGauge.Pattern
