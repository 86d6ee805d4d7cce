-- SUMMARY: Token ledgers: balances and allowances of many tokens, with exact transfers.
import Mathlib.Algebra.BigOperators.Fin
import Mathlib.Algebra.BigOperators.Group.Finset.Piecewise
import Mathlib.Algebra.Order.BigOperators.Group.Finset

/-!
# Token ledgers

A ledger keeps, for every token, the balance of every account and the allowance
of every owner to every spender. A transfer moves exactly the amount. A token
may refuse some receivers, as many tokens refuse the zero address.
-/

structure Ledger (Token Account : Type) where
  balanceOf : Token → Account → Nat
  allowance : Token → Account → Account → Nat
  refuses   : Token → Account → Bool

namespace Ledger

variable {Token Account : Type} [DecidableEq Token] [DecidableEq Account]

/-- Move `amount` from `src` to `dst`: first the debit, then the credit, so that
a transfer to oneself changes nothing. -/
def move (l : Ledger Token Account) (t : Token) (src dst : Account) (amount : Nat) :
    Ledger Token Account :=
  { l with balanceOf := fun t' a =>
      if t' = t then
        l.balanceOf t a - (if a = src then amount else 0) + (if a = dst then amount else 0)
      else l.balanceOf t' a }

def transfer (l : Ledger Token Account) (t : Token) (src dst : Account) (amount : Nat) :
    Option (Ledger Token Account) :=
  if amount ≤ l.balanceOf t src ∧ l.refuses t dst = false then some (l.move t src dst amount)
  else none

def approve (l : Ledger Token Account) (t : Token) (owner spender : Account) (amount : Nat) :
    Ledger Token Account :=
  { l with allowance := fun t' o s =>
      if t' = t ∧ o = owner ∧ s = spender then amount else l.allowance t' o s }

/-- Spend an allowance; `unlimited` is the value that is never decreased. -/
def spend (l : Ledger Token Account) (unlimited : Nat) (t : Token) (owner spender : Account)
    (amount : Nat) : Option (Ledger Token Account) :=
  if l.allowance t owner spender = unlimited then some l
  else if amount ≤ l.allowance t owner spender then
    some (l.approve t owner spender (l.allowance t owner spender - amount))
  else none

def transferFrom (l : Ledger Token Account) (unlimited : Nat) (t : Token)
    (spender src dst : Account) (amount : Nat) : Option (Ledger Token Account) :=
  (l.spend unlimited t src spender amount).bind fun l => l.transfer t src dst amount

/-! ## Moves -/

section Move

variable (l : Ledger Token Account) (t : Token) (src dst : Account) (amount : Nat)

@[simp] theorem move_allowance : (l.move t src dst amount).allowance = l.allowance := rfl

@[simp] theorem move_refuses : (l.move t src dst amount).refuses = l.refuses := rfl

theorem balanceOf_move (t' : Token) (a : Account) :
    (l.move t src dst amount).balanceOf t' a =
      if t' = t then
        l.balanceOf t a - (if a = src then amount else 0) + (if a = dst then amount else 0)
      else l.balanceOf t' a := rfl

@[simp] theorem balanceOf_move_of_token_ne {t' : Token} (h : t' ≠ t) (a : Account) :
    (l.move t src dst amount).balanceOf t' a = l.balanceOf t' a := by
  simp [balanceOf_move, h]

@[simp] theorem balanceOf_move_of_ne {a : Account} (hs : a ≠ src) (hd : a ≠ dst) (t' : Token) :
    (l.move t src dst amount).balanceOf t' a = l.balanceOf t' a := by
  by_cases h : t' = t
  · subst h; simp [balanceOf_move, hs, hd]
  · simp [h]

theorem balanceOf_move_src (h : src ≠ dst) :
    (l.move t src dst amount).balanceOf t src = l.balanceOf t src - amount := by
  simp [balanceOf_move, h]

theorem balanceOf_move_dst (h : src ≠ dst) :
    (l.move t src dst amount).balanceOf t dst = l.balanceOf t dst + amount := by
  simp [balanceOf_move, h.symm]

theorem balanceOf_move_self (h : amount ≤ l.balanceOf t src) :
    (l.move t src src amount).balanceOf t src = l.balanceOf t src := by
  simp only [balanceOf_move, if_true]
  omega

theorem move_zero : l.move t src dst 0 = l := by
  simp only [move, ite_self, Nat.sub_zero, Nat.add_zero]
  cases l with
  | mk balanceOf allowance refuses =>
    congr
    funext t' a
    split
    · rename_i h; rw [h]
    · rfl

/-- A move as an equation: what the sender gave is what the receiver got. -/
theorem balanceOf_move_add (h : amount ≤ l.balanceOf t src) (t' : Token) (a : Account) :
    (l.move t src dst amount).balanceOf t' a + (if t' = t ∧ a = src then amount else 0) =
      l.balanceOf t' a + if t' = t ∧ a = dst then amount else 0 := by
  by_cases ht : t' = t
  · subst ht
    simp only [balanceOf_move, if_true, true_and]
    by_cases ha : a = src
    · subst ha
      simp only [if_true]
      omega
    · simp [ha]
  · simp [ht]

/-- What somebody other than the sender gets. -/
theorem balanceOf_move_of_ne_src {a : Account} (h : a ≠ src) (t' : Token) :
    (l.move t src dst amount).balanceOf t' a =
      l.balanceOf t' a + if t' = t ∧ a = dst then amount else 0 := by
  by_cases ht : t' = t
  · subst ht
    simp [balanceOf_move, h]
  · simp [ht]

/-- Only the sender of a move can lose. -/
theorem balanceOf_le_move {a : Account} (h : a ≠ src) (t' : Token) :
    l.balanceOf t' a ≤ (l.move t src dst amount).balanceOf t' a := by
  simp only [balanceOf_move, h, if_false]
  split
  · rename_i ht
    subst ht
    omega
  · exact le_rfl

/-- A move keeps the total of every token. -/
theorem sum_balanceOf_move [Fintype Account] (h : amount ≤ l.balanceOf t src) (t' : Token) :
    ∑ a, (l.move t src dst amount).balanceOf t' a = ∑ a, l.balanceOf t' a := by
  by_cases ht : t' = t
  · subst ht
    have hle : ∀ a ∈ Finset.univ, (if a = src then amount else 0) ≤ l.balanceOf t' a := by
      intro a _
      split
      · rename_i ha; exact ha ▸ h
      · exact Nat.zero_le _
    have hsub := Finset.sum_tsub_distrib Finset.univ hle
    have htot : amount ≤ ∑ a, l.balanceOf t' a :=
      h.trans (Finset.single_le_sum (f := fun a => l.balanceOf t' a)
        (fun _ _ => Nat.zero_le _) (Finset.mem_univ src))
    simp only [balanceOf_move, if_true, Finset.sum_add_distrib, hsub, Finset.sum_ite_eq',
      Finset.mem_univ]
    omega
  · simp [ht]

end Move

/-! ## Issue and redemption -/

def credit (l : Ledger Token Account) (t : Token) (dst : Account) (amount : Nat) :
    Ledger Token Account :=
  { l with balanceOf := fun t' a =>
      if t' = t ∧ a = dst then l.balanceOf t a + amount else l.balanceOf t' a }

def debit (l : Ledger Token Account) (t : Token) (src : Account) (amount : Nat) :
    Ledger Token Account :=
  { l with balanceOf := fun t' a =>
      if t' = t ∧ a = src then l.balanceOf t a - amount else l.balanceOf t' a }

section Issue

variable (l : Ledger Token Account) (t : Token) (a : Account) (amount : Nat)

@[simp] theorem credit_allowance : (l.credit t a amount).allowance = l.allowance := rfl

@[simp] theorem debit_allowance : (l.debit t a amount).allowance = l.allowance := rfl

@[simp] theorem balanceOf_credit_of_token_ne {t' : Token} (h : t' ≠ t) (b : Account) :
    (l.credit t a amount).balanceOf t' b = l.balanceOf t' b := by
  simp [credit, h]

@[simp] theorem balanceOf_debit_of_token_ne {t' : Token} (h : t' ≠ t) (b : Account) :
    (l.debit t a amount).balanceOf t' b = l.balanceOf t' b := by
  simp [debit, h]

theorem balanceOf_credit (t' : Token) (b : Account) :
    (l.credit t a amount).balanceOf t' b =
      l.balanceOf t' b + if t' = t ∧ b = a then amount else 0 := by
  simp only [credit]
  split
  · rename_i h
    rw [h.1, h.2]
  · rfl

theorem balanceOf_le_credit (t' : Token) (b : Account) :
    l.balanceOf t' b ≤ (l.credit t a amount).balanceOf t' b := by
  rw [balanceOf_credit]
  exact Nat.le_add_right _ _

@[simp] theorem balanceOf_debit_of_ne {b : Account} (h : b ≠ a) (t' : Token) :
    (l.debit t a amount).balanceOf t' b = l.balanceOf t' b := by
  simp [debit, h]

/-- A redemption as an equation. -/
theorem balanceOf_debit_add (h : amount ≤ l.balanceOf t a) (t' : Token) (b : Account) :
    (l.debit t a amount).balanceOf t' b + (if t' = t ∧ b = a then amount else 0) =
      l.balanceOf t' b := by
  by_cases heq : t' = t ∧ b = a
  · obtain ⟨rfl, rfl⟩ := heq
    simp only [debit, and_self, if_true]
    omega
  · simp only [debit, if_neg heq, Nat.add_zero]

theorem debit_zero : l.debit t a 0 = l := by
  cases l with
  | mk balanceOf allowance refuses =>
    simp only [debit, Nat.sub_zero, mk.injEq, and_true]
    funext t' b
    split
    · rename_i h
      rw [h.1, h.2]
    · rfl

theorem sum_balanceOf_credit [Fintype Account] :
    ∑ b, (l.credit t a amount).balanceOf t b = ∑ b, l.balanceOf t b + amount := by
  simp [balanceOf_credit, Finset.sum_add_distrib]

theorem sum_balanceOf_debit [Fintype Account] (h : amount ≤ l.balanceOf t a) :
    ∑ b, (l.debit t a amount).balanceOf t b + amount = ∑ b, l.balanceOf t b := by
  have hsplit : ∀ b, (l.debit t a amount).balanceOf t b + (if b = a then amount else 0) =
      l.balanceOf t b := by
    intro b
    by_cases hb : b = a
    · subst hb
      simp only [debit, and_self, if_true]
      omega
    · simp [hb]
  have hsum := Finset.sum_congr (rfl : (Finset.univ : Finset Account) = Finset.univ)
    fun b _ => hsplit b
  simpa [Finset.sum_add_distrib] using hsum

end Issue

/-! ## Transfers -/

variable {l l' : Ledger Token Account} {t : Token} {src dst spender : Account}
  {amount unlimited : Nat}

@[simp] theorem transfer_eq_some :
    l.transfer t src dst amount = some l' ↔
      (amount ≤ l.balanceOf t src ∧ l.refuses t dst = false) ∧ l.move t src dst amount = l' := by
  by_cases h : amount ≤ l.balanceOf t src ∧ l.refuses t dst = false <;> simp [transfer, h]

@[simp] theorem approve_balanceOf (l : Ledger Token Account) (t : Token)
    (owner spender : Account) (amount : Nat) :
    (l.approve t owner spender amount).balanceOf = l.balanceOf := rfl

@[simp] theorem approve_refuses (l : Ledger Token Account) (t : Token)
    (owner spender : Account) (amount : Nat) :
    (l.approve t owner spender amount).refuses = l.refuses := rfl

/-- Spending an allowance leaves it when it is unlimited, and lowers it otherwise. -/
theorem spend_cases (h : l.spend unlimited t src spender amount = some l') :
    (l.allowance t src spender = unlimited ∧ l' = l) ∨
    (amount ≤ l.allowance t src spender ∧
      l' = l.approve t src spender (l.allowance t src spender - amount)) := by
  unfold spend at h
  split at h
  · exact .inl ⟨‹_›, (Option.some.inj h).symm⟩
  · split at h
    · exact .inr ⟨‹_›, (Option.some.inj h).symm⟩
    · cases h

/-- Spending an allowance moves nothing. -/
theorem spend_balanceOf (h : l.spend unlimited t src spender amount = some l') :
    l'.balanceOf = l.balanceOf := by
  obtain ⟨-, rfl⟩ | ⟨-, rfl⟩ := spend_cases h <;> rfl

/-- Lowering an allowance raises none from zero. -/
theorem approve_eq_zero {owner t' : _} {o s : Account} (h : amount ≤ l.allowance t owner spender)
    (hzero : l.allowance t' o s = 0) : (l.approve t owner spender amount).allowance t' o s = 0 := by
  simp only [approve]
  split
  · rename_i heq
    obtain ⟨rfl, rfl, rfl⟩ := heq
    omega
  · exact hzero

/-- An approval as an equation: it replaces one allowance of its owner. -/
theorem sum_allowance_approve [Fintype Account] (l : Ledger Token Account) (t : Token)
    (owner spender : Account) (amount : Nat) :
    ∑ s, (l.approve t owner spender amount).allowance t owner s + l.allowance t owner spender =
      ∑ s, l.allowance t owner s + amount := by
  have hsplit : ∀ s, (l.approve t owner spender amount).allowance t owner s +
      (if s = spender then l.allowance t owner spender else 0) =
        l.allowance t owner s + if s = spender then amount else 0 := by
    intro s
    by_cases hs : s = spender
    · subst hs
      simp only [approve, and_self, if_true]
      omega
    · simp [approve, hs]
  have hsum := Finset.sum_congr (rfl : (Finset.univ : Finset Account) = Finset.univ)
    fun s _ => hsplit s
  simpa [Finset.sum_add_distrib] using hsum

/-- An approval of another token or owner leaves the allowances of an owner alone. -/
theorem allowance_approve_of_ne (l : Ledger Token Account) {t t' : Token} {o owner : Account}
    (spender : Account) (amount : Nat) (h : ¬(t' = t ∧ o = owner)) (s : Account) :
    (l.approve t owner spender amount).allowance t' o s = l.allowance t' o s := by
  simp only [approve]
  rw [if_neg]
  exact fun heq => h ⟨heq.1, heq.2.1⟩

/-- A transfer on behalf of an owner moves what a plain transfer moves. -/
theorem transferFrom_balanceOf
    (h : l.transferFrom unlimited t spender src dst amount = some l') :
    amount ≤ l.balanceOf t src ∧ l'.balanceOf = (l.move t src dst amount).balanceOf := by
  obtain ⟨l₁, hspend, htransfer⟩ := Option.bind_eq_some_iff.mp h
  obtain ⟨⟨hle, -⟩, rfl⟩ := transfer_eq_some.mp htransfer
  have hbal := spend_balanceOf hspend
  refine ⟨by rw [← hbal]; exact hle, ?_⟩
  funext t' a
  simp [balanceOf_move, hbal]

/-- A transfer on behalf of an owner raises no allowance from zero. -/
theorem transferFrom_allowance_eq_zero {t' : Token} {o s : Account}
    (h : l.transferFrom unlimited t spender src dst amount = some l')
    (hzero : l.allowance t' o s = 0) : l'.allowance t' o s = 0 := by
  obtain ⟨l₁, hspend, htransfer⟩ := Option.bind_eq_some_iff.mp h
  obtain ⟨-, rfl⟩ := transfer_eq_some.mp htransfer
  obtain ⟨-, rfl⟩ | ⟨hle, rfl⟩ := spend_cases hspend
  · exact hzero
  · exact approve_eq_zero (Nat.sub_le _ _) hzero

/-- Nothing is transferred on behalf of an owner who has approved nothing. -/
theorem transferFrom_eq_none (hzero : l.allowance t src spender = 0) (hunlimited : 0 < unlimited)
    (hamount : 0 < amount) : l.transferFrom unlimited t spender src dst amount = none := by
  unfold transferFrom spend
  rw [hzero, if_neg (Nat.ne_of_lt hunlimited), if_neg (Nat.not_le.mpr hamount)]
  rfl

end Ledger
