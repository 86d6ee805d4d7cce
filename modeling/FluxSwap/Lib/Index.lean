-- SUMMARY: Two tables that index each other: what is listed under a key, and the key of what is listed.
import Mathlib.Logic.Function.Basic

/-!
# Mutual indexes

A registry often keeps the same relation twice, from keys to items and from items to keys.
The two tables agree when each is the inverse of the other; entering a new pair and striking
a listed one out keep the agreement when both tables are written.
-/

universe u v

section Mutual

variable {κ : Type u} {α : Type v}

/-- The item listed under a key is the one whose entry is the key. -/
def Mutual (index : κ → Option α) (entry : α → Option κ) : Prop :=
  ∀ k a, index k = some a ↔ entry a = some k

variable [DecidableEq κ] [DecidableEq α] {index : κ → Option α} {entry : α → Option κ}
  {k : κ} {a : α}

namespace Mutual

/-- A new item is entered under a free key. -/
theorem enter (h : Mutual index entry) (hk : index k = none) (ha : entry a = none) :
    Mutual (Function.update index k (some a)) (Function.update entry a (some k)) := by
  intro k' a'
  by_cases hkey : k' = k
  · subst hkey
    by_cases hitem : a' = a
    · simp [hitem]
    · have hother : entry a' ≠ some k' := fun hentry => by
        rw [(h k' a').mpr hentry] at hk
        cases hk
      simp [Function.update_of_ne hitem, hother, Ne.symm hitem]
  · by_cases hitem : a' = a
    · subst hitem
      have hother : index k' ≠ some a' := fun hindex => by
        rw [(h k' a').mp hindex] at ha
        cases ha
      simp [Function.update_of_ne hkey, hother, Ne.symm hkey]
    · rw [Function.update_of_ne hkey, Function.update_of_ne hitem]
      exact h k' a'

/-- A listed item is struck out of both tables. -/
theorem strike (h : Mutual index entry) (hlisted : entry a = some k) :
    Mutual (Function.update index k none) (Function.update entry a none) := by
  have hindex : index k = some a := (h k a).mpr hlisted
  intro k' a'
  by_cases hkey : k' = k
  · subst hkey
    by_cases hitem : a' = a
    · simp [hitem]
    · have hother : entry a' ≠ some k' := fun hentry => by
        rw [(h k' a').mpr hentry] at hindex
        exact hitem (Option.some.inj hindex)
      simp [Function.update_of_ne hitem, hother]
  · by_cases hitem : a' = a
    · subst hitem
      have hother : index k' ≠ some a' := fun hindex' => by
        rw [(h k' a').mp hindex'] at hlisted
        exact hkey (Option.some.inj hlisted)
      simp [Function.update_of_ne hkey, hother]
    · rw [Function.update_of_ne hkey, Function.update_of_ne hitem]
      exact h k' a'

end Mutual

end Mutual
