-- SUMMARY: Math.sqrt: for every uint256 its loop halts, without an overflow, at the square root rounded down.
import FluxSwap.Amm.Pair
import Mathlib.Data.Nat.Sqrt
import Mathlib.Tactic.Linarith

/-!
# The square root

The loop of `sqrt` is Newton's iteration with truncating divisions: `z` is the last estimate
and `x` the next one. Both stay at or above the root, and `z` falls in every round.
-/

open Exec

namespace Math

/-- The loop of `sqrt` without a bound on its rounds: from `z` and `x` it comes to its end with
    `root` in `z`, and no operation on the way reverts. -/
inductive SqrtHalts (y : Nat) : (z x root : Nat) → Prop
  | stop {z x : Nat} : ¬ x < z → SqrtHalts y z x z
  | round {z x quotient sum root : Nat} : x < z → Uint256.div y x = .ok quotient →
      Uint256.add quotient x = .ok sum → SqrtHalts y x (sum / 2) root → SqrtHalts y z x root

/-- What holds between two rounds. The root is above neither estimate, and when the loop is
    done `z` is not above the root. -/
structure SqrtInvariant (y z x : Nat) : Prop where
  large : 3 < y
  le : z ≤ y
  z_above : y < (z + 1) ^ 2
  x_above : y < (x + 1) ^ 2
  stops : z ≤ x → z ^ 2 ≤ y

/-! ## One round -/

/-- A round of Newton's method does not fall below the root. -/
theorem lt_succ_newton_sq {x : Nat} (y : Nat) (hx : 0 < x) : y < ((y / x + x) / 2 + 1) ^ 2 := by
  have hquotient : y < (y / x + 1) * x := by
    rw [Nat.mul_comm]
    exact Nat.lt_mul_div_succ y hx
  have hhalf : y / x + 1 + x ≤ 2 * ((y / x + x) / 2 + 1) := by omega
  have hmean : 4 * ((y / x + 1) * x) ≤ (y / x + 1 + x) ^ 2 := by
    zify
    linarith [sq_nonneg ((y / x + 1 : Int) - x)]
  have hsquare : (y / x + 1 + x) ^ 2 ≤ (2 * ((y / x + x) / 2 + 1)) ^ 2 :=
    Nat.pow_le_pow_left hhalf 2
  linarith

namespace SqrtInvariant

variable {y z x : Nat}

theorem start (hy : 3 < y) : SqrtInvariant y y (y / 2 + 1) := by
  refine ⟨hy, le_rfl, by nlinarith, ?_, by omega⟩
  have hhalf : y < 2 * (y / 2 + 1) := by omega
  nlinarith

/-- An estimate is never zero, and not one either. -/
theorem two_le (h : SqrtInvariant y z x) : 2 ≤ x := by
  by_contra hsmall
  have hle : (x + 1) ^ 2 ≤ 2 ^ 2 := Nat.pow_le_pow_left (by omega) 2
  have habove := h.x_above
  have hlarge := h.large
  omega

/-- The sum of a round is no larger than `y`. -/
theorem sum_le (h : SqrtInvariant y z x) (hlt : x < z) : y / x + x ≤ y := by
  have htwo := h.two_le
  have hle := h.le
  have hmul := Nat.div_mul_le_self y x
  rcases Nat.lt_or_ge (y / x) 2 with hsmall | hlarge
  · omega
  · -- a product of two numbers from 2 on is at least their sum
    nlinarith [Nat.mul_le_mul hlarge htwo]

theorem next (h : SqrtInvariant y z x) (hlt : x < z) : SqrtInvariant y x ((y / x + x) / 2) := by
  have hpos : 0 < x := by have htwo := h.two_le; omega
  refine ⟨h.large, hlt.le.trans h.le, h.x_above, lt_succ_newton_sq y hpos, fun hdone => ?_⟩
  have hroot : x ≤ y / x := by omega
  calc x ^ 2 = x * x := Nat.pow_two x
    _ ≤ y / x * x := Nat.mul_le_mul_right x hroot
    _ ≤ y := Nat.div_mul_le_self y x

theorem root (h : SqrtInvariant y z x) (hdone : ¬ x < z) : z = Nat.sqrt y :=
  Nat.eq_sqrt'.mpr ⟨h.stops (Nat.le_of_not_lt hdone), h.z_above⟩

end SqrtInvariant

/-! ## The loop -/

/-- The loop halts at the root. `z` falls in every round. -/
theorem sqrtHalts {y : Nat} (hy : y ≤ Uint256.max) (z : Nat) {x : Nat} (h : SqrtInvariant y z x) :
    SqrtHalts y z x (Nat.sqrt y) := by
  induction z using Nat.strong_induction_on generalizing x with
  | _ z ih =>
    by_cases hlt : x < z
    · have htwo := h.two_le
      have hsum := (h.sum_le hlt).trans hy
      exact .round hlt (Uint256.div_eq_ok.mpr ⟨by omega, rfl⟩)
        (Uint256.add_eq_ok.mpr ⟨hsum, rfl⟩) (ih x hlt (h.next hlt))
    · have hstop := SqrtHalts.stop (y := y) hlt
      rwa [h.root hlt] at hstop ⊢

/-- A loop that halts does so within `z` rounds. -/
theorem SqrtHalts.sqrtLoop_eq {y z x root rounds : Nat} (h : SqrtHalts y z x root)
    (hrounds : z ≤ rounds) : sqrtLoop y rounds z x = .ok root := by
  induction h generalizing rounds with
  | stop hdone =>
    cases rounds with
    | zero => rfl
    | succ rounds => exact if_neg hdone
  | round hlt hquotient hsum _ ih =>
    cases rounds with
    | zero => omega
    | succ rounds =>
      unfold sqrtLoop
      rw [if_pos hlt, hquotient, ok_bind, hsum, ok_bind]
      exact ih (by omega)

/-- `Math.sqrt` rounds the square root down. -/
theorem sqrt_eq {y : Nat} (hy : y ≤ Uint256.max) : sqrt y = .ok (Nat.sqrt y) := by
  unfold sqrt
  by_cases hlarge : 3 < y
  · have hstart : Uint256.add (y / 2) 1 = .ok (y / 2 + 1) := Uint256.add_eq_ok.mpr ⟨by omega, rfl⟩
    rw [if_pos hlarge, hstart, ok_bind]
    exact (sqrtHalts hy y (.start hlarge)).sqrtLoop_eq le_rfl
  · rw [if_neg hlarge]
    split
    · have hroot : 1 = Nat.sqrt y := Nat.eq_sqrt'.mpr ⟨by omega, by omega⟩
      rw [← hroot]
      rfl
    · have hzero : y = 0 := by omega
      rw [hzero]
      rfl

end Math
