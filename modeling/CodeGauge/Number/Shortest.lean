import CodeGauge.Number.Binary64

/-!
This module contains the shortest decimal digits that read back as a given binary number.
-/

namespace CodeGauge


/--
A positive decimal number `digits * 10 ^ exponent`.
-/
structure Decimal where
  digits : Nat
  exponent : Int
  deriving DecidableEq, Repr

/--
A positive number together with the interval of the numbers that round to it, all as multiples of
`1 / den`. The ends belong to the interval if `closed`.
-/
structure RoundingInterval where
  low : Nat
  value : Nat
  high : Nat
  den : Nat
  closed : Bool

namespace RoundingInterval

/--
The numbers that round to `significand * 2 ^ exponent`. Below a power of two they lie half as far.
-/
def of (significand : Nat) (exponent : Int) : RoundingInterval :=
  let atPower := significand == 1 <<< 52 && exponent > Binary64.minExponent
  let num := 1 <<< exponent.toNat
  { low := (4 * significand - if atPower then 1 else 2) * num
    value := 4 * significand * num
    high := (4 * significand + 2) * num
    den := 4 <<< (-exponent).toNat
    closed := significand % 2 == 0 }

/--
Whether a fraction rounds to the number.
-/
def holds (interval : RoundingInterval) (num den : Nat) : Bool :=
  let low := interval.low * den
  let high := interval.high * den
  let x := num * interval.den
  if interval.closed then
    low ≤ x && x ≤ high
  else
    low < x && x < high

/--
The nearer of the two neighbours of the number among the multiples of `10 ^ exponent` that round to
it. Of two equally near ones it is the even one.
-/
def onGrid? (interval : RoundingInterval) (exponent : Int) : Option Decimal :=
  let up := Nat.pow 10 exponent.toNat
  let down := Nat.pow 10 (-exponent).toNat
  let num := interval.value * down
  let den := interval.den * up
  let below := num / den
  let candidates := if roundDiv num den == below then [below, below + 1] else [below + 1, below]
  (candidates.find? fun d => interval.holds (d * up) down).map (⟨·, exponent⟩)

/--
The power of ten that the number is at least, but less than ten times.
-/
def magnitude (interval : RoundingInterval) : Int :=
  if interval.den ≤ interval.value then
    ((Nat.toDigits 10 (interval.value / interval.den)).length : Int) - 1
  else
    -- `d` digits of the inverse, rounded up, put the number at or above `10 ^ -d`.
    -((Nat.toDigits 10 ((interval.den - 1) / interval.value)).length : Int)

end RoundingInterval

/--
The decimal with the fewest digits that rounds to a positive number, and of those the nearest. No
number needs more than seventeen.
-/
def shortestDecimal (significand : Nat) (exponent : Int) : Decimal :=
  let interval := RoundingInterval.of significand exponent
  let magnitude := interval.magnitude
  let grids := (List.range 17).map fun (n : Nat) => magnitude - (n : Int)
  (grids.findSome? interval.onGrid?).getD ⟨0, 0⟩

end CodeGauge
