import CodeGauge.Number.Round

/-!
This module contains the binary floating point numbers of 64 bits as exact values: how a decimal
number is rounded to one, how two compare, and what whole number one holds.
-/

namespace CodeGauge


/--
A binary floating point number. A finite one is `±significand * 2 ^ exponent`, where the significand
has at most 53 bits and the exponent is the least that it can be, but never below -1074.
-/
inductive Binary64 where
  | nan
  | infinite (negative : Bool)
  | finite (negative : Bool) (significand : Nat) (exponent : Int)
  deriving DecidableEq, Inhabited

namespace Binary64

/--
The least exponent of a finite number.
-/
def minExponent : Int := -1074

/--
The largest exponent of a finite number.
-/
def maxExponent : Int := 971

def zero (negative : Bool) : Binary64 :=
  .finite negative 0 minExponent

/--
The number nearest to a quotient, where a tie goes to the even significand. Beyond the largest
finite number lies infinity.
-/
def ofRatio (negative : Bool) (num den : Nat) : Binary64 :=
  if num == 0 then
    zero negative
  else
    let guess : Int := (num.log2 : Int) - (den.log2 : Int) - 52
    -- The quotient lies between 2 ^ 51 and 2 ^ 53 units of the guess.
    let exponent := if scaled guess / denScaled guess < 1 <<< 52 then guess - 1 else guess
    let exponent := max exponent minExponent
    let significand := roundDiv (scaled exponent) (denScaled exponent)
    let (significand, exponent) :=
      if significand == 1 <<< 53 then (1 <<< 52, exponent + 1) else (significand, exponent)
    if exponent > maxExponent then
      .infinite negative
    else
      .finite negative significand exponent
where
  scaled (exponent : Int) : Nat := num <<< (-exponent).toNat
  denScaled (exponent : Int) : Nat := den <<< exponent.toNat

/--
The number nearest to `±digits * 10 ^ exponent`.
-/
def ofDecimal (negative : Bool) (digits : Nat) (exponent : Int) : Binary64 :=
  if digits == 0 then
    zero negative
  else
    -- The decimal lies between 10 ^ (magnitude - 1) and 10 ^ magnitude.
    let magnitude : Int := (Nat.toDigits 10 digits).length + exponent
    if magnitude > 400 then
      .infinite negative
    else if magnitude < -400 then
      zero negative
    else
      ofRatio negative (digits * Nat.pow 10 exponent.toNat) (Nat.pow 10 (-exponent).toNat)

/--
The number nearest to a whole number.
-/
def ofInt (i : Int) : Binary64 :=
  ofRatio (i < 0) i.natAbs 1

def ofNat (n : Nat) : Binary64 :=
  ofRatio false n 1

instance (n : Nat) : OfNat Binary64 n := ⟨ofNat n⟩

/--
Whether a number is a zero of either sign.
-/
def isZero : Binary64 → Bool
  | .finite _ significand _ => significand == 0
  | _ => false

/--
A finite number as a whole number of units of `2 ^ unit`, where the unit is not above the exponent.
-/
def units (negative : Bool) (significand : Nat) (exponent unit : Int) : Int :=
  let n : Int := (significand <<< (exponent - unit).toNat : Nat)
  if negative then -n else n

/--
Whether one number is less than another. Nothing is less or greater than what is not a number.
-/
def lt : Binary64 → Binary64 → Bool
  | .finite n₁ s₁ e₁, .finite n₂ s₂ e₂ =>
    let unit := min e₁ e₂
    units n₁ s₁ e₁ unit < units n₂ s₂ e₂ unit
  | .infinite negative, .finite .. => negative
  | .finite .., .infinite negative => !negative
  | .infinite n₁, .infinite n₂ => n₁ && !n₂
  | _, _ => false

/--
The larger of two numbers: the first, if the second is not greater.
-/
def clampBelow (least x : Binary64) : Binary64 :=
  if lt least x then x else least

/--
The smaller of two numbers: the first, if the second is not less.
-/
def clampAbove (x most : Binary64) : Binary64 :=
  if lt most x then most else x

/--
The whole part of a finite number, toward zero.
-/
def truncate? : Binary64 → Option Int
  | .finite negative significand exponent =>
    let n : Int := ((significand <<< exponent.toNat) >>> (-exponent).toNat : Nat)
    some (if negative then -n else n)
  | _ => none

/--
The whole number that a finite number is, if it is one.
-/
def toInt? : Binary64 → Option Int
  | .finite negative significand exponent =>
    let scaled := significand <<< exponent.toNat
    if scaled % 1 <<< (-exponent).toNat == 0 then
      (finite negative significand exponent).truncate?
    else
      none
  | _ => none

end Binary64
end CodeGauge
