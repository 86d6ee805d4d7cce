-- SUMMARY: Shares of a pool: issues that are at most pro rata, one after another, and redemption.
import Mathlib.Tactic.Ring

/-!
# Shares of a pool

A pool has a reserve and a number of shares. An issue for a deposit is fair when the new
shares are at most the deposit's part of the reserve. Fair issues compose, and redeeming
what was issued fairly gives back at most the deposit.
-/

namespace Shares

/-- For `amount` paid into `reserve`, at most the proportional part of `total` is issued. -/
def Fair (total reserve amount issued : Nat) : Prop := issued * reserve ≤ amount * total

variable {total reserve amount issued : Nat}

/-- A floor of the proportional part is fair. -/
theorem Fair.of_le_div (h : issued ≤ amount * total / reserve) : Fair total reserve amount issued :=
  (Nat.mul_le_mul_right reserve h).trans (Nat.div_mul_le_self _ _)

theorem Fair.le_div (h : Fair total reserve amount issued) (hreserve : 0 < reserve) :
    issued ≤ amount * total / reserve :=
  (Nat.le_div_iff_mul_le hreserve).mpr h

theorem Fair.zero (total reserve : Nat) : Fair total reserve 0 0 := by
  simp [Fair]

/-- Redeeming the new shares right away gives back at most the deposit. -/
theorem Fair.redeem_le (h : Fair total reserve amount issued) :
    issued * (reserve + amount) / (total + issued) ≤ amount := by
  apply Nat.div_le_of_le_mul
  unfold Fair at h
  calc issued * (reserve + amount) = issued * reserve + issued * amount := Nat.mul_add _ _ _
    _ ≤ amount * total + issued * amount := Nat.add_le_add_right h _
    _ = (total + issued) * amount := by ring

/-- Two fair issues one after another are a fair issue for both deposits. -/
theorem Fair.trans {amount' issued' : Nat} (hreserve : 0 < reserve)
    (h : Fair total reserve amount issued)
    (h' : Fair (total + issued) (reserve + amount) amount' issued') :
    Fair total reserve (amount + amount') (issued + issued') := by
  have hlater : issued' * reserve ≤ amount' * total := by
    -- after a fair issue a share stands for at least as much as before
    have hvalue : (total + issued) * reserve ≤ total * (reserve + amount) := by
      calc (total + issued) * reserve = total * reserve + issued * reserve := Nat.add_mul _ _ _
        _ ≤ total * reserve + amount * total := Nat.add_le_add_left h _
        _ = total * (reserve + amount) := by ring
    refine Nat.le_of_mul_le_mul_right ?_ (Nat.add_pos_left hreserve amount)
    calc issued' * reserve * (reserve + amount) = issued' * (reserve + amount) * reserve := by ring
      _ ≤ amount' * (total + issued) * reserve := Nat.mul_le_mul_right reserve h'
      _ = amount' * ((total + issued) * reserve) := Nat.mul_assoc _ _ _
      _ ≤ amount' * (total * (reserve + amount)) := Nat.mul_le_mul_left amount' hvalue
      _ = amount' * total * (reserve + amount) := by ring
  unfold Fair at h ⊢
  calc (issued + issued') * reserve = issued * reserve + issued' * reserve := Nat.add_mul _ _ _
    _ ≤ amount * total + amount' * total := Nat.add_le_add h hlater
    _ = (amount + amount') * total := (Nat.add_mul _ _ _).symm

end Shares
