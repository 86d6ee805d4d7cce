-- SUMMARY: Rounded quotients: what is kept back by a floor, by a difference of floors and by a sum of floors.
import Mathlib.Algebra.BigOperators.Ring.Finset
import Mathlib.Algebra.Order.BigOperators.Group.Finset
import Mathlib.Algebra.Order.Floor.Div

/-!
# Rounded quotients

Amounts are computed by floor division. These facts compare a sum or a
difference of rounded quotients with the rounded quotient of the whole.
-/

namespace Rounding

/-- The difference of two consecutive rounded quotients, with the remainders on
both sides: nothing is lost between them. -/
theorem div_add_sub_div (x y d : Nat) :
    d * ((x + y) / d - x / d) + (x + y) % d = y + x % d := by
  have hmono : x / d ≤ (x + y) / d := Nat.div_le_div_right (Nat.le_add_right x y)
  have hx := Nat.div_add_mod x d
  have hxy := Nat.div_add_mod (x + y) d
  have hmul : d * (x / d) ≤ d * ((x + y) / d) := Nat.mul_le_mul_left d hmono
  rw [Nat.mul_sub]
  omega

/-- A difference of rounded quotients exceeds the quotient of the difference by
less than one. -/
theorem sub_div_le {x y d k : Nat} (hd : 0 < d) (h : y ≤ k * d) : (x + y) / d - x / d ≤ k := by
  have hsplit := div_add_sub_div x y d
  have hmod := Nat.mod_lt x hd
  have hlt : d * ((x + y) / d - x / d) < d * (k + 1) := by
    rw [Nat.mul_add, Nat.mul_comm d k]
    omega
  exact Nat.le_of_lt_succ (Nat.lt_of_mul_lt_mul_left hlt)

/-- Rounding every summand down rounds the sum down. -/
theorem mul_sum_div_le {ι : Type} (s : Finset ι) (f : ι → Nat) (d : Nat) :
    d * ∑ i ∈ s, f i / d ≤ ∑ i ∈ s, f i := by
  rw [Finset.mul_sum]
  exact Finset.sum_le_sum fun i _ => Nat.mul_div_le (f i) d

/-- A multiple that stays within a fraction of one step stays within the step. -/
theorem le_of_mul_le_add {d x y r : Nat} (h : d * x ≤ d * y + r) (hr : r < d) : x ≤ y := by
  have hlt : d * x < d * (y + 1) := by
    rw [Nat.mul_add]
    omega
  exact Nat.le_of_lt_succ (Nat.lt_of_mul_lt_mul_left hlt)

/-- A quotient that is rounded down twice reaches a bound when the exact value reaches the
bound rounded up in between. -/
theorem le_div_mul_div_iff {x b s a t : Nat} (hb : 0 < b) (hs : 0 < s) (ha : 0 < a) :
    t ≤ x / b * s / a ↔ t * a ⌈/⌉ s * b ≤ x := by
  rw [Nat.le_div_iff_mul_le ha, Nat.mul_comm (x / b) s, ← Nat.le_div_iff_mul_le hb]
  exact (ceilDiv_le_iff_le_mul hs).symm

end Rounding
