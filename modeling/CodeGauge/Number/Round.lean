/-!
This module contains the division of natural numbers with rounding to the nearest.
-/

namespace CodeGauge


/--
The natural number nearest to a quotient. A tie goes to the even one.
-/
def roundDiv (num den : Nat) : Nat :=
  let q := num / den
  let r := num % den
  if 2 * r < den then
    q
  else if den < 2 * r then
    q + 1
  else
    q + q % 2

/--
The rounded quotient is within half a unit of the exact one.
-/
theorem roundDiv_near (num : Nat) {den : Nat} (h : 0 < den) :
    2 * (roundDiv num den * den) ≤ 2 * num + den
      ∧ 2 * num ≤ 2 * (roundDiv num den * den) + den := by
  have hdiv := Nat.div_add_mod num den
  have hmod := Nat.mod_lt num h
  have hcomm : den * (num / den) = num / den * den := Nat.mul_comm ..
  simp only [roundDiv]
  split
  . omega
  . split
    . rw [Nat.add_mul]
      omega
    . rcases Nat.mod_two_eq_zero_or_one (num / den) with h2 | h2
      . rw [h2]
        simp only [Nat.add_zero]
        omega
      . rw [h2, Nat.add_mul]
        omega

/--
An exact quotient is not changed.
-/
@[simp]
theorem roundDiv_mul (q : Nat) {den : Nat} (h : 0 < den) : roundDiv (q * den) den = q := by
  simp [roundDiv, h]

end CodeGauge
