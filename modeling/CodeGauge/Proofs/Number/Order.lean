import CodeGauge.Number.Binary64
import Mathlib.Algebra.Order.Field.Power
import Mathlib.Algebra.Order.Monoid.WithTop
import Mathlib.Algebra.Order.Ring.Rat
import Mathlib.Order.WithBot

/-!
This module contains the values of binary floating point numbers, which are rational or infinite.
Comparison and clamping are those of the values as long as both numbers have one.
-/

namespace CodeGauge.Binary64

variable {a b : Binary64} {x y : WithBot (WithTop ℚ)}


/--
The rational number that is `±significand * 2 ^ exponent`.
-/
def rational (negative : Bool) (significand : Nat) (exponent : Int) : ℚ :=
  (if negative then -(significand : ℚ) else significand) * 2 ^ exponent

/--
The value of a number, if it is one.
-/
def value? : Binary64 → Option (WithBot (WithTop ℚ))
  | .nan => none
  | .infinite true => some ⊥
  | .infinite false => some ⊤
  | .finite negative significand exponent =>
    some (rational negative significand exponent : WithTop ℚ)

theorem units_mul_zpow (negative : Bool) (significand : Nat) {exponent unit : Int}
    (h : unit ≤ exponent) :
    units negative significand exponent unit * (2 : ℚ) ^ unit
      =
    rational negative significand exponent := by
  have hshift : (2 : ℚ) ^ (exponent - unit).toNat * 2 ^ unit = 2 ^ exponent := by
    rw [← zpow_natCast, ← zpow_add₀ two_ne_zero, Int.toNat_of_nonneg (Int.sub_nonneg_of_le h),
      Int.sub_add_cancel]
  unfold units rational
  rw [Nat.shiftLeft_eq, ← hshift, ← mul_assoc]
  cases negative <;> simp

theorem lt_finite_iff {n₁ n₂ : Bool} {s₁ s₂ : Nat} {e₁ e₂ : Int} :
    lt (.finite n₁ s₁ e₁) (.finite n₂ s₂ e₂) ↔ rational n₁ s₁ e₁ < rational n₂ s₂ e₂ := by
  have hpos : (0 : ℚ) < 2 ^ min e₁ e₂ := zpow_pos two_pos _
  rw [← units_mul_zpow n₁ s₁ (Int.min_le_left e₁ e₂),
    ← units_mul_zpow n₂ s₂ (Int.min_le_right e₁ e₂), mul_lt_mul_iff_left₀ hpos, Int.cast_lt]
  exact decide_eq_true_iff

/--
One number is less than another if and only if its value is.
-/
theorem lt_iff (ha : a.value? = some x) (hb : b.value? = some y) : lt a b ↔ x < y := by
  cases a with
  | nan => cases ha
  | infinite n₁ =>
    cases b with
    | nan => cases hb
    | infinite n₂ => cases n₁ <;> cases n₂ <;> cases ha <;> cases hb <;> simp [lt]
    | finite n₂ s₂ e₂ =>
      cases n₁ <;> cases ha <;> cases hb <;> simp [lt]
  | finite n₁ s₁ e₁ =>
    cases ha
    cases b with
    | nan => cases hb
    | infinite n₂ =>
      have htop := WithBot.coe_lt_coe.2 (WithTop.coe_lt_top (rational n₁ s₁ e₁))
      cases n₂ <;> cases hb
      . exact iff_of_true rfl htop
      . simp [lt]
    | finite n₂ s₂ e₂ =>
      cases hb
      rw [WithBot.coe_lt_coe, WithTop.coe_lt_coe]
      exact lt_finite_iff

theorem value?_clampBelow (ha : a.value? = some x) (hb : b.value? = some y) :
    (clampBelow a b).value? = some (max x y) := by
  unfold clampBelow
  split
  . next h => rw [hb, max_eq_right ((lt_iff ha hb).1 h).le]
  . next h => rw [ha, max_eq_left (not_lt.1 (mt (lt_iff ha hb).2 h))]

theorem value?_clampAbove (ha : a.value? = some x) (hb : b.value? = some y) :
    (clampAbove a b).value? = some (min x y) := by
  unfold clampAbove
  split
  . next h => rw [hb, min_eq_right ((lt_iff hb ha).1 h).le]
  . next h => rw [ha, min_eq_left (not_lt.1 (mt (lt_iff hb ha).2 h))]

/--
What is not a number is not greater, so the first one stays.
-/
theorem clampBelow_nan (a : Binary64) : clampBelow a .nan = a := by
  cases a <;> rfl

theorem eq_nan_of_value? (h : a.value? = none) : a = .nan := by
  cases a with
  | nan => rfl
  | infinite negative => cases negative <;> cases h
  | finite negative significand exponent => cases h

/--
A whole number of at most 53 bits is scaled until it has all of them.
-/
theorem ofNat_eq {n k : Nat} (hpos : 0 < n) (hk : n.log2 + k = 52) :
    ofNat n = .finite false (n * 2 ^ k) (-k) := by
  have hne : n ≠ 0 := Nat.ne_of_gt hpos
  have hlow : 2 ^ 52 ≤ n * 2 ^ k := by
    rw [← hk, Nat.pow_add]
    exact Nat.mul_le_mul_right _ (Nat.log2_self_le hne)
  have hhigh : n * 2 ^ k < 2 ^ 53 := by
    rw [show 53 = n.log2 + 1 + k by omega, Nat.pow_add]
    exact Nat.mul_lt_mul_of_pos_right Nat.lt_log2_self (Nat.two_pow_pos k)
  have hguess : (n.log2 : Int) - (Nat.log2 1 : Nat) - 52 = -k := by
    rw [show Nat.log2 1 = 0 from rfl]
    omega
  have hscaled : ofRatio.scaled n (-k) = n * 2 ^ k := by
    rw [ofRatio.scaled, Int.neg_neg, Int.toNat_natCast, Nat.shiftLeft_eq]
  have hden : ofRatio.denScaled 1 (-k) = 1 := by
    rw [ofRatio.denScaled, Int.toNat_neg_natCast, Nat.shiftLeft_zero]
  have hmax : max (-k : Int) minExponent = -k := by
    apply Int.max_eq_left
    unfold minExponent
    omega
  have hround : roundDiv (n * 2 ^ k) 1 = n * 2 ^ k := by
    simpa using roundDiv_mul (n * 2 ^ k) Nat.one_pos
  have hlow' : ¬ n * 2 ^ k < 1 <<< 52 := Nat.not_lt.2 hlow
  have hhigh' : ¬ (n * 2 ^ k == 1 <<< 53) = true := by
    rw [beq_iff_eq]
    exact hhigh.ne
  unfold ofNat ofRatio
  rw [if_neg (by rwa [beq_iff_eq])]
  dsimp only
  rw [hguess, hscaled, hden, Nat.div_one, if_neg hlow', hmax, hscaled, hden, hround, if_neg hhigh']
  apply if_neg
  unfold maxExponent
  omega

theorem value?_ofNat {n : Nat} (h : n < 2 ^ 53) :
    (ofNat n).value? = some ((n : ℚ) : WithTop ℚ) := by
  obtain rfl | hpos := Nat.eq_zero_or_pos n
  . simp [ofNat, ofRatio, zero, value?, rational]
  . have hlog : n.log2 < 53 := (Nat.log2_lt (Nat.ne_of_gt hpos)).2 h
    obtain ⟨k, hk⟩ := Nat.exists_eq_add_of_le (Nat.le_of_lt_succ hlog)
    rw [ofNat_eq hpos hk.symm, value?, rational]
    simp

end CodeGauge.Binary64
