-- SUMMARY: The inherited token contracts ERC20, ERC20Burnable and ERC20Capped: what a token relies on, as a parameter.
import FluxSwap.Contracts.Basic
import Mathlib.Algebra.BigOperators.Ring.Finset

/-!
# ERC20 with burning and a cap

Like the other inherited contracts, the token contracts are a parameter: their functions, and
what these are documented to do to balances, allowances and the supply. They move balances
without overflow checks, so an effect is exact only where the balances add up to the supply and
the supply is within a cap that fits into 256 bits; there it is stated. `OpenZeppelin` has one
implementation, with the unchecked arithmetic.
-/

open Exec

namespace Uint256

/-- `unchecked { a + b }`. -/
def uncheckedAdd (a b : Nat) : Nat := (a + b) % 2 ^ 256

/-- `unchecked { a - b }`. -/
def uncheckedSub (a b : Nat) : Nat := (a + 2 ^ 256 - b) % 2 ^ 256

theorem uncheckedAdd_eq {a b : Nat} (h : a + b ≤ max) : uncheckedAdd a b = a + b := by
  unfold uncheckedAdd
  unfold max at h
  exact Nat.mod_eq_of_lt (by omega)

theorem uncheckedSub_eq {a b : Nat} (hle : b ≤ a) (ha : a ≤ max) : uncheckedSub a b = a - b := by
  unfold uncheckedSub
  unfold max at ha
  rw [show a + 2 ^ 256 - b = a - b + 2 ^ 256 by omega, Nat.add_mod_right]
  exact Nat.mod_eq_of_lt (by omega)

end Uint256

/-- The storage of `ERC20` and the cap of `ERC20Capped`. -/
structure ERC20Storage where
  cap         : Nat
  totalSupply : Nat
  balanceOf   : Address → Nat
  allowance   : Address → Address → Nat

namespace ERC20Storage

variable {s s' : ERC20Storage} {src dst : Address} {value : Nat}

/-! ## Effects -/

/-- No tokens yet. -/
def empty (cap : Nat) : ERC20Storage where
  cap := cap
  totalSupply := 0
  balanceOf := fun _ => 0
  allowance := fun _ _ => 0

/-- After an issue. -/
def issued (s : ERC20Storage) (dst : Address) (value : Nat) : ERC20Storage :=
  { s with
    totalSupply := s.totalSupply + value
    balanceOf := fun a => s.balanceOf a + if a = dst then value else 0 }

/-- After a redemption. -/
def redeemed (s : ERC20Storage) (src : Address) (value : Nat) : ERC20Storage :=
  { s with
    totalSupply := s.totalSupply - value
    balanceOf := fun a => s.balanceOf a - if a = src then value else 0 }

/-- After a transfer. -/
def moved (s : ERC20Storage) (src dst : Address) (value : Nat) : ERC20Storage :=
  { s with balanceOf := fun a =>
      s.balanceOf a - (if a = src then value else 0) + if a = dst then value else 0 }

/-- After an approval. -/
def approved (s : ERC20Storage) (owner spender : Address) (value : Nat) : ERC20Storage :=
  { s with allowance :=
      Function.update s.allowance owner (Function.update (s.allowance owner) spender value) }

/-- After spending an allowance; one of `type(uint256).max` is not spent. -/
def spent (s : ERC20Storage) (owner spender : Address) (value : Nat) : ERC20Storage :=
  if s.allowance owner spender < Uint256.max then
    s.approved owner spender (s.allowance owner spender - value)
  else s

/-- The balances add up to the supply, and the supply is within the cap. -/
structure Backed (s : ERC20Storage) : Prop where
  supply : ∑ a, s.balanceOf a = s.totalSupply
  capped : s.totalSupply ≤ s.cap
  cap_le : s.cap ≤ Uint256.max

theorem sum_update_add (f : Address → Nat) (a : Address) (value : Nat) :
    ∑ x, Function.update f a value x + f a = ∑ x, f x + value := by
  have hupdate := Finset.sum_update_of_mem (Finset.mem_univ a) f value
  have hsplit := Finset.add_sum_erase Finset.univ f (Finset.mem_univ a)
  rw [← Finset.sdiff_singleton_eq_erase] at hsplit
  omega

theorem update_add_eq (f : Address → Nat) (a : Address) (value : Nat) :
    Function.update f a (f a + value) = fun x => f x + if x = a then value else 0 := by
  funext x
  by_cases hx : x = a
  · subst hx
    simp
  · simp [hx]

theorem update_sub_eq (f : Address → Nat) (a : Address) (value : Nat) :
    Function.update f a (f a - value) = fun x => f x - if x = a then value else 0 := by
  funext x
  by_cases hx : x = a
  · subst hx
    simp
  · simp [hx]

namespace Backed

theorem empty {cap : Nat} (h : cap ≤ Uint256.max) : (ERC20Storage.empty cap).Backed :=
  ⟨Finset.sum_const_zero, Nat.zero_le _, h⟩

theorem balance_le (h : s.Backed) (a : Address) : s.balanceOf a ≤ s.totalSupply := by
  rw [← h.supply]
  exact Finset.single_le_sum (fun _ _ => Nat.zero_le _) (Finset.mem_univ a)

theorem supply_le (h : s.Backed) : s.totalSupply ≤ Uint256.max := h.capped.trans h.cap_le

/-- Two balances together are within the supply. -/
theorem balances_le (h : s.Backed) (hne : src ≠ dst) :
    s.balanceOf src + s.balanceOf dst ≤ s.totalSupply := by
  rw [← h.supply, ← Finset.sum_pair hne]
  exact Finset.sum_le_sum_of_subset (Finset.subset_univ _)

theorem issued (h : s.Backed) (hcap : s.totalSupply + value ≤ s.cap) (dst : Address) :
    (s.issued dst value).Backed where
  supply := by
    show ∑ a, (s.balanceOf a + if a = dst then value else 0) = s.totalSupply + value
    rw [Finset.sum_add_distrib, h.supply, Finset.sum_ite_eq' Finset.univ dst]
    simp
  capped := hcap
  cap_le := h.cap_le

theorem redeemed (h : s.Backed) (hle : value ≤ s.balanceOf src) : (s.redeemed src value).Backed where
  supply := by
    show ∑ a, (s.balanceOf a - if a = src then value else 0) = s.totalSupply - value
    have hsum := sum_update_add s.balanceOf src (s.balanceOf src - value)
    simp only [update_sub_eq, h.supply] at hsum
    have hbalance := h.balance_le src
    omega
  capped := (Nat.sub_le _ _).trans h.capped
  cap_le := h.cap_le

theorem moved (h : s.Backed) (hle : value ≤ s.balanceOf src) (dst : Address) :
    (s.moved src dst value).Backed where
  supply := by
    have hredeemed := (h.redeemed hle).supply
    have hbalance := h.balance_le src
    show ∑ a, (s.balanceOf a - (if a = src then value else 0) + if a = dst then value else 0) =
      s.totalSupply
    change ∑ a, (s.balanceOf a - if a = src then value else 0) = s.totalSupply - value at hredeemed
    rw [Finset.sum_add_distrib, hredeemed, Finset.sum_ite_eq' Finset.univ dst]
    simp only [Finset.mem_univ, if_true]
    omega
  capped := h.capped
  cap_le := h.cap_le

/-- An allowance backs nothing. -/
theorem approved (h : s.Backed) (owner spender : Address) (value : Nat) :
    (s.approved owner spender value).Backed := ⟨h.supply, h.capped, h.cap_le⟩

theorem spent (h : s.Backed) (owner spender : Address) (value : Nat) :
    (s.spent owner spender value).Backed := by
  unfold ERC20Storage.spent
  split
  · exact h.approved owner spender _
  · exact h

end Backed

@[simp] theorem spent_balanceOf (owner spender : Address) :
    (s.spent owner spender value).balanceOf = s.balanceOf := by
  unfold spent
  split <;> rfl

@[simp] theorem spent_totalSupply (owner spender : Address) :
    (s.spent owner spender value).totalSupply = s.totalSupply := by
  unfold spent
  split <;> rfl

@[simp] theorem spent_cap (owner spender : Address) :
    (s.spent owner spender value).cap = s.cap := by
  unfold spent
  split <;> rfl

end ERC20Storage

/-! ## The contracts -/

/-- The contracts `ERC20`, `ERC20Burnable` and `ERC20Capped`, together; `mint` is the internal
    `_mint`. -/
class ERC20 where
  construct : (cap : Nat) → Exec ERC20Storage
  mint : (dst : Address) → (value : Nat) → ERC20Storage → Exec ERC20Storage
  transfer : (sender : Sender) → (dst : Address) → (value : Nat) → ERC20Storage → Exec ERC20Storage
  approve : (sender : Sender) → (spender : Address) → (value : Nat) → ERC20Storage →
    Exec ERC20Storage
  transferFrom : (sender : Sender) → (src dst : Address) → (value : Nat) → ERC20Storage →
    Exec ERC20Storage
  burn : (sender : Sender) → (value : Nat) → ERC20Storage → Exec ERC20Storage
  burnFrom : (sender : Sender) → (account : Address) → (value : Nat) → ERC20Storage →
    Exec ERC20Storage
  construct_ok {cap : Nat} {s : ERC20Storage} : construct cap = .ok s → s = .empty cap
  mint_ok {s s' : ERC20Storage} {dst : Address} {value : Nat} : s.Backed →
    mint dst value s = .ok s' → s.totalSupply + value ≤ s.cap ∧ s' = s.issued dst value
  transfer_ok {s s' : ERC20Storage} {sender : Sender} {dst : Address} {value : Nat} : s.Backed →
    transfer sender dst value s = .ok s' →
      value ≤ s.balanceOf sender ∧ s' = s.moved sender dst value
  approve_ok {s s' : ERC20Storage} {sender : Sender} {spender : Address} {value : Nat} :
    approve sender spender value s = .ok s' → s' = s.approved sender spender value
  transferFrom_ok {s s' : ERC20Storage} {sender : Sender} {src dst : Address} {value : Nat} :
    s.Backed → transferFrom sender src dst value s = .ok s' →
      value ≤ s.balanceOf src ∧ s' = (s.spent src sender value).moved src dst value
  burn_ok {s s' : ERC20Storage} {sender : Sender} {value : Nat} : s.Backed →
    burn sender value s = .ok s' → value ≤ s.balanceOf sender ∧ s' = s.redeemed sender value
  burnFrom_ok {s s' : ERC20Storage} {sender : Sender} {account : Address} {value : Nat} :
    s.Backed → burnFrom sender account value s = .ok s' →
      value ≤ s.balanceOf account ∧ s' = (s.spent account sender value).redeemed account value

/-! ## One implementation -/

namespace ERC20Storage

/-- The first half of `_update`: where the value comes from. -/
def takeFrom (src : Address) (value : Nat) (s : ERC20Storage) : Exec ERC20Storage :=
  if src = Address.zero then do
    let total ← Uint256.add s.totalSupply value
    pure { s with totalSupply := total }
  else do
    require (value ≤ s.balanceOf src) "ERC20InsufficientBalance"
    let left := Uint256.uncheckedSub (s.balanceOf src) value
    pure { s with balanceOf := Function.update s.balanceOf src left }

/-- The second half of `_update`: where the value goes to. -/
def giveTo (dst : Address) (value : Nat) (s : ERC20Storage) : ERC20Storage :=
  if dst = Address.zero then
    { s with totalSupply := Uint256.uncheckedSub s.totalSupply value }
  else
    let balance := Uint256.uncheckedAdd (s.balanceOf dst) value
    { s with balanceOf := Function.update s.balanceOf dst balance }

/-- `_update`, with the check that `ERC20Capped` adds. -/
def update (src dst : Address) (value : Nat) (s : ERC20Storage) : Exec ERC20Storage := do
  let s ← s.takeFrom src value
  let s := s.giveTo dst value
  require (src = Address.zero → s.totalSupply ≤ s.cap) "ERC20ExceededCap"
  pure s

/-- `_mint`. -/
def create (dst : Address) (value : Nat) (s : ERC20Storage) : Exec ERC20Storage := do
  require (dst ≠ Address.zero) "ERC20InvalidReceiver"
  s.update Address.zero dst value

/-- `_burn`. -/
def destroy (src : Address) (value : Nat) (s : ERC20Storage) : Exec ERC20Storage := do
  require (src ≠ Address.zero) "ERC20InvalidSender"
  s.update src Address.zero value

/-- `_transfer`. -/
def move (src dst : Address) (value : Nat) (s : ERC20Storage) : Exec ERC20Storage := do
  require (src ≠ Address.zero) "ERC20InvalidSender"
  require (dst ≠ Address.zero) "ERC20InvalidReceiver"
  s.update src dst value

/-- `_approve`. -/
def setAllowance (owner spender : Address) (value : Nat) (s : ERC20Storage) :
    Exec ERC20Storage := do
  require (owner ≠ Address.zero) "ERC20InvalidApprover"
  require (spender ≠ Address.zero) "ERC20InvalidSpender"
  pure (s.approved owner spender value)

/-- `_spendAllowance`. -/
def spendAllowance (owner spender : Address) (value : Nat) (s : ERC20Storage) :
    Exec ERC20Storage :=
  if s.allowance owner spender < Uint256.max then do
    require (value ≤ s.allowance owner spender) "ERC20InsufficientAllowance"
    s.setAllowance owner spender (Uint256.uncheckedSub (s.allowance owner spender) value)
  else pure s

variable {s s' : ERC20Storage} {src dst : Address} {value : Nat}

theorem create_ok (hb : s.Backed) (h : s.create dst value = .ok s') :
    s.totalSupply + value ≤ s.cap ∧ s' = s.issued dst value := by
  simp only [create, update, takeFrom, giveTo, if_true, bind_eq_ok, require_eq_ok,
    Uint256.add_eq_ok, pure_eq_ok] at h
  obtain ⟨_, hdst, _, ⟨_, ⟨-, rfl⟩, rfl⟩, _, hcap, rfl⟩ := h
  rw [if_neg hdst] at hcap ⊢
  have hcap : s.totalSupply + value ≤ s.cap := hcap trivial
  have hbalance := hb.balance_le dst
  have hle := hb.cap_le
  refine ⟨hcap, ?_⟩
  rw [Uint256.uncheckedAdd_eq (by show s.balanceOf dst + value ≤ _; omega), issued,
    ← update_add_eq]

/-- The value is taken exactly. -/
theorem takeFrom_ok (hb : s.Backed) (hsrc : src ≠ Address.zero)
    (h : s.takeFrom src value = .ok s') :
    value ≤ s.balanceOf src ∧
      s' = { s with balanceOf := fun a => s.balanceOf a - if a = src then value else 0 } := by
  rw [takeFrom, if_neg hsrc] at h
  simp only [bind_eq_ok, require_eq_ok, pure_eq_ok] at h
  obtain ⟨_, hle, rfl⟩ := h
  rw [Uint256.uncheckedSub_eq hle ((hb.balance_le src).trans hb.supply_le), update_sub_eq]
  exact ⟨hle, rfl⟩

theorem destroy_ok (hb : s.Backed) (h : s.destroy src value = .ok s') :
    value ≤ s.balanceOf src ∧ s' = s.redeemed src value := by
  simp only [destroy, update, bind_eq_ok, require_eq_ok, pure_eq_ok] at h
  obtain ⟨_, hsrc, _, htake, _, -, rfl⟩ := h
  obtain ⟨hle, rfl⟩ := takeFrom_ok hb hsrc htake
  rw [giveTo, if_pos rfl, Uint256.uncheckedSub_eq (hle.trans (hb.balance_le src)) hb.supply_le]
  exact ⟨hle, rfl⟩

theorem move_ok (hb : s.Backed) (h : s.move src dst value = .ok s') :
    value ≤ s.balanceOf src ∧ s' = s.moved src dst value := by
  simp only [move, update, bind_eq_ok, require_eq_ok, pure_eq_ok] at h
  obtain ⟨_, hsrc, _, hdst, _, htake, _, -, rfl⟩ := h
  obtain ⟨hle, rfl⟩ := takeFrom_ok hb hsrc htake
  refine ⟨hle, ?_⟩
  have hsupply := hb.supply_le
  -- what the receiver holds then is still within the supply
  have hfits : s.balanceOf dst - (if dst = src then value else 0) + value ≤ Uint256.max := by
    by_cases hsame : dst = src
    · subst hsame
      have hbalance := hb.balance_le dst
      simp only [if_true]
      omega
    · have hboth := hb.balances_le (Ne.symm hsame)
      simp only [if_neg hsame]
      omega
  rw [giveTo, if_neg hdst]
  dsimp only
  rw [Uint256.uncheckedAdd_eq hfits, moved,
    update_add_eq (fun a => s.balanceOf a - if a = src then value else 0) dst value]

theorem spendAllowance_ok {owner spender : Address}
    (h : s.spendAllowance owner spender value = .ok s') : s' = s.spent owner spender value := by
  unfold spendAllowance at h
  unfold spent
  split at h
  · rename_i hlimited
    simp only [setAllowance, bind_eq_ok, require_eq_ok, pure_eq_ok] at h
    obtain ⟨_, hle, _, -, _, -, rfl⟩ := h
    rw [if_pos hlimited, Uint256.uncheckedSub_eq hle hlimited.le]
  · rename_i hunlimited
    rw [if_neg hunlimited]
    exact (pure_eq_ok.mp h).symm

theorem setAllowance_ok {owner spender : Address}
    (h : s.setAllowance owner spender value = .ok s') : s' = s.approved owner spender value := by
  simp only [setAllowance, bind_eq_ok, pure_eq_ok] at h
  obtain ⟨_, -, _, -, rfl⟩ := h
  rfl

def construct (cap : Nat) : Exec ERC20Storage := do
  require (cap ≠ 0) "ERC20InvalidCap"
  pure (empty cap)

def transferFrom (sender : Sender) (src dst : Address) (value : Nat) (s : ERC20Storage) :
    Exec ERC20Storage := do
  let s ← s.spendAllowance src sender value
  s.move src dst value

def burnFrom (sender : Sender) (account : Address) (value : Nat) (s : ERC20Storage) :
    Exec ERC20Storage := do
  let s ← s.spendAllowance account sender value
  s.destroy account value

theorem construct_ok {cap : Nat} (h : construct cap = .ok s) : s = empty cap := by
  simp only [construct, bind_eq_ok, pure_eq_ok] at h
  obtain ⟨_, -, rfl⟩ := h
  rfl

theorem transferFrom_ok {sender : Sender} (hb : s.Backed)
    (h : s.transferFrom sender src dst value = .ok s') :
    value ≤ s.balanceOf src ∧ s' = (s.spent src sender value).moved src dst value := by
  obtain ⟨s₁, hspend, hmove⟩ := bind_eq_ok.mp h
  obtain rfl := spendAllowance_ok hspend
  obtain ⟨hle, hmoved⟩ := move_ok (hb.spent src sender value) hmove
  rw [spent_balanceOf] at hle
  exact ⟨hle, hmoved⟩

theorem burnFrom_ok {sender : Sender} {account : Address} (hb : s.Backed)
    (h : s.burnFrom sender account value = .ok s') :
    value ≤ s.balanceOf account ∧
      s' = (s.spent account sender value).redeemed account value := by
  obtain ⟨s₁, hspend, hdestroy⟩ := bind_eq_ok.mp h
  obtain rfl := spendAllowance_ok hspend
  obtain ⟨hle, hredeemed⟩ := destroy_ok (hb.spent account sender value) hdestroy
  rw [spent_balanceOf] at hle
  exact ⟨hle, hredeemed⟩

end ERC20Storage

namespace OpenZeppelin

scoped instance erc20 : ERC20 where
  construct := ERC20Storage.construct
  mint := ERC20Storage.create
  transfer sender := ERC20Storage.move sender
  approve sender := ERC20Storage.setAllowance sender
  transferFrom := ERC20Storage.transferFrom
  burn sender := ERC20Storage.destroy sender
  burnFrom := ERC20Storage.burnFrom
  construct_ok := ERC20Storage.construct_ok
  mint_ok := ERC20Storage.create_ok
  transfer_ok := ERC20Storage.move_ok
  approve_ok := ERC20Storage.setAllowance_ok
  transferFrom_ok := ERC20Storage.transferFrom_ok
  burn_ok := ERC20Storage.destroy_ok
  burnFrom_ok := ERC20Storage.burnFrom_ok

end OpenZeppelin
