import CodeGauge.Number.Binary64
import CodeGauge.Text.Blank
import CodeGauge.Text.Digit

/-!
This module contains the reading of numerals from free text: whole numbers with their length limit,
and decimal numbers.
-/

namespace CodeGauge


/--
The largest number of digits with which a whole number is read.
-/
def maxIntDigits : Nat := 4300

/--
Why a text is not read as a whole number.
-/
inductive NumeralFault where
  | malformed
  | tooLong (digits : Nat)
  deriving DecidableEq

namespace Numeral

open Text

/--
The number that a list of digits writes.
-/
def ofDigits (digits : List Nat) : Nat :=
  digits.foldl (10 * · + ·) 0

/--
The values of ASCII digits, in case there is nothing else and at least one.
-/
def asciiDigits? (cs : List Char) : Option (List Nat) :=
  if !cs.isEmpty && cs.all Char.isDigit then
    some (cs.map fun c => c.toNat - '0'.toNat)
  else
    none

/--
A sign in front of a numeral, if any, and what follows it.
-/
def sign : List Char → Bool × List Char
  | '-' :: cs => (true, cs)
  | '+' :: cs => (false, cs)
  | cs => (false, cs)

/--
The characters without underscores, in case each underscore stands between two digits.
-/
def ungroup? (cs : List Char) : Option (List Char) :=
  go false cs
where
  /-- `afterDigit` says whether a digit was the last character. -/
  go (afterDigit : Bool) : List Char → Option (List Char)
    | [] => some []
    | '_' :: c :: cs => if afterDigit && c.isDigit then go false (c :: cs) else none
    | c :: cs => if c == '_' then none else (go c.isDigit cs).map (c :: ·)

/--
The characters with the digits of all scripts replaced by those of ASCII.
-/
def normalize (cs : List Char) : List Char :=
  cs.map fun c =>
    match digitValue? c with
    | some d => .ofNat ('0'.toNat + d)
    | none => c

/--
The whole number that a text writes: white space around it, a sign, and digits of any script, with
single underscores between them.
-/
def int (s : String) : Except NumeralFault Int :=
  let (negative, cs) := sign (strip isSpace (normalize s.toList))
  match (ungroup? cs).bind asciiDigits? with
  | none => .error .malformed
  | some digits =>
    if digits.length > maxIntDigits then
      .error (.tooLong digits.length)
    else
      let n : Int := ofDigits digits
      .ok (if negative then -n else n)

/--
The exponent of a decimal number: nothing, or an `e`, a sign and digits.
-/
def exponent? : List Char → Option Int
  | [] => some 0
  | c :: cs =>
    if c == 'e' || c == 'E' then
      let (negative, cs) := sign cs
      (asciiDigits? cs).map fun digits =>
        let n : Int := ofDigits digits
        if negative then -n else n
    else
      none

/--
A decimal number without sign: digits with at most one point, and an exponent.
-/
def unsigned? (negative : Bool) (cs : List Char) : Option Binary64 :=
  let whole := cs.takeWhile Char.isDigit
  let cs := cs.dropWhile Char.isDigit
  let (fraction, cs) :=
    match cs with
    | '.' :: cs => (cs.takeWhile Char.isDigit, cs.dropWhile Char.isDigit)
    | _ => ([], cs)
  match asciiDigits? (whole ++ fraction), exponent? cs with
  | some digits, some exponent =>
    some (.ofDecimal negative (ofDigits digits) (exponent - fraction.length))
  | _, _ => none

/--
A decimal number: a sign, then digits or the name of a value that is not finite, in any letter case.
-/
def decimal? (cs : List Char) : Option Binary64 :=
  let (negative, cs) := sign cs
  let name := cs.map Char.toLower
  if name == "inf".toList || name == "infinity".toList then
    some (.infinite negative)
  else if name == "nan".toList then
    some .nan
  else
    unsigned? negative cs

/--
The decimal number that a text writes, with white space around it and single underscores between
digits.
-/
def float? (s : String) : Option Binary64 :=
  (ungroup? (strip isSpace (normalize s.toList))).bind decimal?

end Numeral
end CodeGauge
