-- SUMMARY: Role tables: granting and revoking, and roles with one holder.
import Mathlib.Logic.Function.Basic

/-!
# Role tables

A role table says which accounts hold which roles. A role that is managed by handing it
over has at most one holder.
-/

universe u v

/-- The holders of every role. -/
abbrev Roles (ρ : Type u) (α : Type v) : Type (max u v) := ρ → α → Bool

namespace Roles

variable {ρ : Type u} {α : Type v} [DecidableEq ρ] [DecidableEq α]

/-- Grant or revoke a role. -/
def write (roles : Roles ρ α) (role : ρ) (account : α) (granted : Bool) : Roles ρ α :=
  Function.update roles role (Function.update (roles role) account granted)

variable {roles : Roles ρ α} {role : ρ} {account previous next : α} {holder : Option α}

theorem write_apply (roles : Roles ρ α) (role : ρ) (account : α) (granted : Bool) (role' : ρ)
    (account' : α) : roles.write role account granted role' account' =
      if role' = role ∧ account' = account then granted else roles role' account' := by
  unfold write
  by_cases hrole : role' = role
  · subst hrole
    simp [Function.update_apply]
  · simp [hrole]

/-- Writing what is there already. -/
theorem write_self {granted : Bool} (h : roles role account = granted) :
    roles.write role account granted = roles := by
  unfold write
  rw [← h, Function.update_eq_self, Function.update_eq_self]

/-- Another role is untouched. -/
@[simp] theorem write_of_ne {role' : ρ} (h : role' ≠ role) (granted : Bool) :
    roles.write role account granted role' = roles role' := by
  unfold write
  exact Function.update_of_ne h _ _

/-- Nobody but `holder` holds the role. -/
def Held (roles : Roles ρ α) (role : ρ) (holder : Option α) : Prop :=
  ∀ a, roles role a = true ↔ holder = some a

namespace Held

theorem write_of_ne {role' : ρ} (h : Held roles role holder) (hne : role ≠ role')
    (granted : Bool) : Held (roles.write role' account granted) role holder := by
  unfold Held
  rw [Roles.write_of_ne hne]
  exact h

/-- The role is granted to the next holder and revoked from the previous one. -/
theorem handOver (h : Held roles role holder) (hprevious : ∀ a, holder = some a → a = previous)
    (hne : next ≠ previous) :
    Held ((roles.write role next true).write role previous false) role (some next) := by
  intro a
  rw [write_apply, write_apply]
  by_cases hnext : a = next
  · simp [hnext, hne]
  · rw [Option.some.injEq, eq_comm (a := next)]
    simp only [hnext, true_and, if_false, iff_false]
    split
    · exact Bool.false_ne_true
    · rename_i hother
      rw [h a]
      exact fun ha => hother (hprevious a ha)

/-- The role is revoked from an account. -/
theorem revoke (h : Held roles role holder) (account : α) :
    Held (roles.write role account false) role (if holder = some account then none else holder) := by
  intro a
  rw [write_apply]
  by_cases heq : a = account
  · subst heq
    split <;> simp_all
  · simp only [heq, and_false, if_false, h a]
    split
    · rename_i hholder
      rw [hholder, Option.some.injEq]
      exact ⟨fun h' => (heq h'.symm).elim, fun h' => nomatch h'⟩
    · rfl

end Held

end Roles
