import CodeGauge.Number.Shortest

/-!
This module contains the written forms of numbers: with the fewest digits that read back, and with a
fixed number of places.
-/

namespace CodeGauge


def natDigits (n : Nat) : List Char :=
  Nat.toDigits 10 n

/--
The choices that a written form leaves open once the digits are known.
-/
structure NumberForm where
  /-- The least and the largest power of ten of the first digit that is written without exponent. -/
  leastPositional : Int
  largestPositional : Int
  /-- The least number of digits of the exponent. -/
  exponentWidth : Nat
  notANumber : String
  infinity : String

/--
Numbers in reports and logs: positional from 1e-4 up to below 1e16, a whole number keeps one place,
and an exponent has a sign and two digits.
-/
def NumberForm.plain : NumberForm := ⟨-4, 15, 2, "nan", "inf"⟩

/--
Numbers in JSON texts differ only in the names of what is no finite number.
-/
def NumberForm.json : NumberForm :=
  { NumberForm.plain with notANumber := "NaN", infinity := "Infinity" }

namespace NumberForm

/--
Digits with a point behind the first `places` of them, where zeros fill the gap on either side.
-/
def positional (digits : List Char) (places : Int) : List Char :=
  if places ≤ 0 then
    '0' :: '.' :: List.replicate (-places).toNat '0' ++ digits
  else
    let whole := digits.take places.toNat ++ List.replicate (places.toNat - digits.length) '0'
    let rest := digits.drop places.toNat
    whole ++ '.' :: (if rest.isEmpty then ['0'] else rest)

/--
Digits with a point behind the first and an exponent.
-/
def scientific (form : NumberForm) (digits : List Char) (power : Int) : List Char :=
  let exponent := natDigits power.natAbs
  digits.take 1 ++ (if digits.length ≤ 1 then [] else '.' :: digits.drop 1)
    ++ 'e' :: (if power < 0 then '-' else '+')
    :: List.replicate (form.exponentWidth - exponent.length) '0' ++ exponent

/--
The written form of a positive decimal.
-/
def decimal (form : NumberForm) (d : Decimal) : List Char :=
  let digits := natDigits d.digits
  let power := d.exponent + digits.length - 1
  let digits := (digits.reverse.dropWhile (· == '0')).reverse
  if form.leastPositional ≤ power ∧ power ≤ form.largestPositional then
    positional digits (power + 1)
  else
    form.scientific digits power

/--
The written form of a number, with the fewest digits that read back.
-/
def write (form : NumberForm) (x : Binary64) : String :=
  match x with
  | .nan => form.notANumber
  | .infinite negative => signed negative form.infinity.toList
  | .finite negative 0 _ => signed negative "0.0".toList
  | .finite negative significand exponent =>
    signed negative (form.decimal (shortestDecimal significand exponent))
where
  signed (negative : Bool) (cs : List Char) : String :=
    .ofList (if negative then '-' :: cs else cs)

end NumberForm

/--
The written form of a number with one place, rounded to the nearest tenth.
-/
def Binary64.tenths (x : Binary64) : String :=
  match x with
  | .nan => "nan"
  | .infinite negative => if negative then "-inf" else "inf"
  | .finite negative significand exponent =>
    let n := roundDiv ((10 * significand) <<< exponent.toNat) (1 <<< (-exponent).toNat)
    let cs := natDigits (n / 10) ++ '.' :: natDigits (n % 10)
    .ofList (if negative then '-' :: cs else cs)

end CodeGauge
