-- SUMMARY: Pro rata division over changing weights, and how closely a running index with rounding follows it.
import Mathlib.Algebra.BigOperators.Field
import Mathlib.Algebra.Order.Field.Basic
import Mathlib.Tactic.LinearCombination
import Mathlib.Tactic.Linarith
import Mathlib.Tactic.Ring
import Mathlib.Tactic.FieldSimp

/-!
# Pro rata division

Amounts are divided among participants in proportion to their weights. A program does this
with a running index: every release raises the index, and a participant accrues its weight
times the growth of the index. The index counts in units of `1 / scale`, and of what it hands
out to the total weight only whole units are released. What the index is ahead by is a
fraction of one unit, the lag. It is carried along while the weights stay; when they change,
the lag starts afresh, so the two accounts part by less than one unit for each change.
-/

namespace ProRata

variable {K : Type*} [Field K]

/-- What falls to `weight` of `total`. -/
def part (amount weight total : K) : K := amount * weight / total

/-- The parts of all participants make up the amount. -/
theorem sum_part {ι : Type*} (s : Finset ι) (weight : ι → K) {total : K} (amount : K)
    (hsum : ∑ i ∈ s, weight i = total) (htotal : total ≠ 0) :
    ∑ i ∈ s, part amount (weight i) total = amount := by
  simp only [part]
  rw [← Finset.sum_div, ← Finset.mul_sum, hsum, mul_div_cancel_right₀ _ htotal]

/-! ## Running indexes -/

/-- The whole units that an index has handed out to a total weight. -/
def handed (scale index total : ℕ) : ℕ := index * total / scale

/-- What the fraction that is not handed out yet comes to for one participant. -/
def lag (scale index weight total : ℕ) : K :=
  part (((index * total % scale : ℕ) : K) / scale) weight total

section Indexes

variable [LinearOrder K] [IsStrictOrderedRing K] {scale index index' weight total : ℕ}

theorem handed_mono (scale total : ℕ) (h : index ≤ index') :
    handed scale index total ≤ handed scale index' total :=
  Nat.div_le_div_right (Nat.mul_le_mul_right total h)

theorem lag_nonneg (scale index weight total : ℕ) : (0 : K) ≤ lag scale index weight total := by
  unfold lag part
  positivity

/-- A participant's lag is less than one unit. -/
theorem lag_lt_one (hscale : 0 < scale) (hweight : weight ≤ total) :
    (lag scale index weight total : K) < 1 := by
  unfold lag part
  rcases Nat.eq_zero_or_pos total with rfl | htotal
  · simp
  have hscale' : (0 : K) < scale := Nat.cast_pos.mpr hscale
  have htotal' : (0 : K) < total := Nat.cast_pos.mpr htotal
  have hfraction : ((index * total % scale : ℕ) : K) < scale :=
    Nat.cast_lt.mpr (Nat.mod_lt _ hscale)
  have hpart : (weight : K) / total ≤ 1 := (div_le_one htotal').mpr (Nat.cast_le.mpr hweight)
  rw [mul_div_assoc]
  calc ((index * total % scale : ℕ) : K) / scale * (weight / total)
      ≤ ((index * total % scale : ℕ) : K) / scale * 1 :=
        mul_le_mul_of_nonneg_left hpart (by positivity)
    _ < 1 := by rwa [mul_one, div_lt_one hscale']

theorem index_mul_eq (scale index total : ℕ) :
    (index * total : K) =
      scale * handed scale index total + ((index * total % scale : ℕ) : K) := by
  have hsplit := Nat.div_add_mod (index * total) scale
  exact_mod_cast hsplit.symm

/-- What a participant accrues while the index grows is its part of what is released, up to
    the change of the lag. -/
theorem accrued_eq (hscale : 0 < scale) (hgrows : index ≤ index') (hweight : weight ≤ total) :
    ((weight * (index' - index) : ℕ) : K) / scale =
      part ((handed scale index' total - handed scale index total : ℕ) : K) weight total +
        (lag scale index' weight total - lag scale index weight total) := by
  rcases Nat.eq_zero_or_pos total with rfl | htotal
  · obtain rfl := Nat.le_zero.mp hweight
    simp [lag, part]
  have hscale' : (scale : K) ≠ 0 := Nat.cast_ne_zero.mpr (Nat.ne_of_gt hscale)
  have htotal' : (total : K) ≠ 0 := Nat.cast_ne_zero.mpr (Nat.ne_of_gt htotal)
  have hold := index_mul_eq (K := K) scale index total
  have hnew := index_mul_eq (K := K) scale index' total
  rw [Nat.cast_mul, Nat.cast_sub hgrows, Nat.cast_sub (handed_mono scale total hgrows)]
  unfold lag part
  field_simp
  linear_combination (weight : K) * (hnew - hold)

end Indexes

/-! ## The distance to the ideal -/

variable [LinearOrder K]

/-- What an index makes a participant accrue follows the ideal division: apart from the lag it
    is off by one unit at most for each change of the weights. -/
def Follows (accrued ideal lag : K) (changes : ℕ) : Prop := |accrued - ideal - lag| ≤ changes

variable {accrued ideal lag lag' : K} {changes : ℕ}

/-- Nothing is lost while the weights stay. -/
theorem Follows.release (h : Follows accrued ideal lag changes) {growth share : K}
    (hgrowth : growth = share + (lag' - lag)) :
    Follows (accrued + growth) (ideal + share) lag' changes := by
  unfold Follows at h ⊢
  rw [hgrowth]
  convert h using 2
  ring

variable [IsStrictOrderedRing K]

/-- A change of the weights replaces the lag. -/
theorem Follows.reweigh (h : Follows accrued ideal lag changes) (hlag : 0 ≤ lag) (hone : lag < 1)
    (hlag' : 0 ≤ lag') (hone' : lag' < 1) : Follows accrued ideal lag' (changes + 1) := by
  unfold Follows at h ⊢
  rw [abs_le] at h ⊢
  push_cast
  constructor <;> linarith

theorem Follows.bounds (h : Follows accrued ideal lag changes) (hlag : 0 ≤ lag) (hone : lag < 1) :
    ideal - changes ≤ accrued ∧ accrued < ideal + changes + 1 := by
  unfold Follows at h
  rw [abs_le] at h
  constructor <;> linarith

end ProRata
