-- SUMMARY: Reverting computations and checked unsigned 256-bit arithmetic.
import Mathlib.Algebra.Group.Nat.Defs
import Mathlib.Tactic.SplitIfs

/-!
# Checked arithmetic

A computation either returns a value or reverts, and a reverted computation has
no effect. Unsigned 256-bit values are natural numbers; every operation checks
that its result fits. The machine reports overflow and underflow with one panic
code; they are kept apart here, because a bound excludes the first and an
accounting invariant the second.
-/

inductive Panic
  | overflow
  | underflow
  | divisionByZero
  deriving DecidableEq, Repr

inductive Revert
  | panic (p : Panic)
  | message (text : String)
  deriving DecidableEq, Repr

/-- A computation that may revert. -/
abbrev Exec (α : Type) : Type := Except Revert α

namespace Exec

variable {α β : Type}

theorem bind_eq_ok {x : Exec α} {f : α → Exec β} {b : β} :
    x >>= f = .ok b ↔ ∃ a, x = .ok a ∧ f a = .ok b := by
  cases x with
  | error r => simp [bind, Except.bind]
  | ok a => simp [bind, Except.bind]

@[simp] theorem pure_eq_ok {a b : α} : (pure a : Exec α) = .ok b ↔ a = b := by
  simp [pure, Except.pure]

@[simp] theorem ok_bind (a : α) (f : α → Exec β) : (Except.ok a : Exec α) >>= f = f a := rfl

@[simp] theorem error_bind (r : Revert) (f : α → Exec β) :
    (Except.error r : Exec α) >>= f = .error r := rfl

theorem toOption_eq_some {x : Exec α} {a : α} : x.toOption = some a ↔ x = .ok a := by
  cases x with
  | error r => simp [Except.toOption]
  | ok b => simp [Except.toOption]

/-- `require(c, text)`. -/
def require (c : Prop) [Decidable c] (text : String) : Exec Unit :=
  if c then .ok () else .error (.message text)

@[simp] theorem require_eq_ok {c : Prop} [Decidable c] {text : String} {u : Unit} :
    require c text = .ok u ↔ c := by
  unfold require
  split <;> simp_all

theorem require_bind_eq_ok {c : Prop} [Decidable c] {text : String} {x : Exec α} {a : α} :
    (require c text >>= fun _ => x) = .ok a ↔ c ∧ x = .ok a := by
  simp only [bind_eq_ok, require_eq_ok, exists_and_left, exists_const]

/-- `xs[0]`. -/
def first (xs : List α) : Exec α :=
  match xs.head? with
  | some x => .ok x
  | none => .error (.message "array out of bounds")

@[simp] theorem first_eq_ok {xs : List α} {x : α} : first xs = .ok x ↔ xs.head? = some x := by
  unfold first
  split <;> simp_all

/-- `xs[xs.length - 1]`. -/
def last (xs : List α) : Exec α :=
  match xs.getLast? with
  | some x => .ok x
  | none => .error (.panic .underflow)

@[simp] theorem last_eq_ok {xs : List α} {x : α} : last xs = .ok x ↔ xs.getLast? = some x := by
  unfold last
  split <;> simp_all

/-! ## Failures a computation avoids -/

/-- The computation does not revert with a reason in `bad`. -/
def Avoids (bad : Revert → Prop) (x : Exec α) : Prop :=
  ∀ r, x = .error r → ¬ bad r

variable {bad : Revert → Prop}

theorem Avoids.of_ok {x : Exec α} {a : α} (h : x = .ok a) : x.Avoids bad := by
  intro r hr
  rw [h] at hr
  cases hr

theorem Avoids.bind {x : Exec α} {f : α → Exec β} (hx : x.Avoids bad)
    (hf : ∀ a, x = .ok a → (f a).Avoids bad) : (x >>= f).Avoids bad := by
  cases x with
  | error r => simpa [Avoids] using hx
  | ok a => simpa using hf a rfl

theorem Avoids.error {r : Revert} (h : ¬ bad r) :
    Exec.Avoids bad (.error r : Exec α) := by
  intro r' hr
  cases hr
  exact h

theorem Avoids.pure {a : α} : (Pure.pure a : Exec α).Avoids bad := .of_ok rfl

/-- A computation that avoids every failure succeeds. -/
theorem Avoids.exists_ok {x : Exec α} (h : x.Avoids fun _ => True) : ∃ a, x = .ok a := by
  cases x with
  | error r => exact absurd trivial (h r rfl)
  | ok a => exact ⟨a, rfl⟩

/-- A failed `require` reverts with a text. -/
theorem Avoids.require {c : Prop} [Decidable c] {text : String}
    (h : ∀ text, ¬ bad (.message text)) : (Exec.require c text).Avoids bad := by
  intro r hr
  unfold Exec.require at hr
  split at hr
  · cases hr
  · cases hr; exact h text

theorem Avoids.ite {c : Prop} [Decidable c] {x y : Exec α} (hx : c → x.Avoids bad)
    (hy : ¬ c → y.Avoids bad) : (if c then x else y).Avoids bad := by
  split
  · exact hx ‹_›
  · exact hy ‹_›

end Exec

/-! ## Unsigned 256-bit operations -/

namespace Uint256

/-- `type(uint256).max`. -/
def max : Nat := 2 ^ 256 - 1

def add (a b : Nat) : Exec Nat :=
  if a + b ≤ max then .ok (a + b) else .error (.panic .overflow)

def sub (a b : Nat) : Exec Nat :=
  if b ≤ a then .ok (a - b) else .error (.panic .underflow)

def mul (a b : Nat) : Exec Nat :=
  if a * b ≤ max then .ok (a * b) else .error (.panic .overflow)

def div (a b : Nat) : Exec Nat :=
  if b ≠ 0 then .ok (a / b) else .error (.panic .divisionByZero)

variable {a b c : Nat}

@[simp] theorem add_eq_ok : add a b = .ok c ↔ a + b ≤ max ∧ a + b = c := by
  by_cases h : a + b ≤ max <;> simp [add, h]

@[simp] theorem sub_eq_ok : sub a b = .ok c ↔ b ≤ a ∧ a - b = c := by
  by_cases h : b ≤ a <;> simp [sub, h]

@[simp] theorem mul_eq_ok : mul a b = .ok c ↔ a * b ≤ max ∧ a * b = c := by
  by_cases h : a * b ≤ max <;> simp [mul, h]

@[simp] theorem div_eq_ok : div a b = .ok c ↔ b ≠ 0 ∧ a / b = c := by
  by_cases h : b = 0 <;> simp [div, h]

theorem sub_avoids {bad : Revert → Prop} (h : b ≤ a) : (sub a b).Avoids bad :=
  .of_ok (sub_eq_ok.mpr ⟨h, rfl⟩)

theorem add_avoids {bad : Revert → Prop} (h : bad (.panic .overflow) → a + b ≤ max) :
    (add a b).Avoids bad := by
  intro r hr hbad
  unfold add at hr
  split at hr
  · cases hr
  · cases hr; exact ‹¬ _› (h hbad)

theorem mul_avoids {bad : Revert → Prop} (h : bad (.panic .overflow) → a * b ≤ max) :
    (mul a b).Avoids bad := by
  intro r hr hbad
  unfold mul at hr
  split at hr
  · cases hr
  · cases hr; exact ‹¬ _› (h hbad)

end Uint256
