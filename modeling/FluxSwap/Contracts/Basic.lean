-- SUMMARY: Addresses, token balances of a chain, and the TransferHelper library.
import FluxSwap.Lib.Checked
import FluxSwap.Lib.Ledger

/-!
# Addresses and token transfers

An address has 160 bits. The tokens of the chain are standard ERC20 tokens: a
transfer moves exactly the amount, an allowance of `type(uint256).max` is never
decreased. `TransferHelper` turns a refused transfer into a revert.
-/

abbrev Address : Type := Fin (2 ^ 160)

instance Address.neZero : NeZero (2 ^ 160) := inferInstance

/-- `address(0)`. -/
abbrev Address.zero : Address := 0

/-- The sender of a transaction, which is never `address(0)`. -/
abbrev Sender : Type := { a : Address // a ≠ Address.zero }

abbrev Tokens : Type := Ledger Address Address

/-- What an account may hold. -/
inductive Asset
  | eth
  | token (token : Address)
  deriving DecidableEq

namespace TransferHelper

def safeTransfer (l : Tokens) (token src dst : Address) (value : Nat) : Exec Tokens :=
  match l.transfer token src dst value with
  | some l' => .ok l'
  | none => .error (.message "TransferHelper: TRANSFER_FAILED")

def safeTransferFrom (l : Tokens) (token spender src dst : Address) (value : Nat) : Exec Tokens :=
  match l.transferFrom Uint256.max token spender src dst value with
  | some l' => .ok l'
  | none => .error (.message "TransferHelper: TRANSFER_FROM_FAILED")

variable {l l' : Tokens} {token spender src dst : Address} {value : Nat}

@[simp] theorem safeTransfer_eq_ok :
    safeTransfer l token src dst value = .ok l' ↔ l.transfer token src dst value = some l' := by
  unfold safeTransfer
  split <;> simp_all

@[simp] theorem safeTransferFrom_eq_ok :
    safeTransferFrom l token spender src dst value = .ok l' ↔
      l.transferFrom Uint256.max token spender src dst value = some l' := by
  unfold safeTransferFrom
  split <;> simp_all

theorem safeTransfer_avoids {bad : Revert → Prop} (h : ∀ text, ¬ bad (.message text)) :
    (safeTransfer l token src dst value).Avoids bad := by
  intro r hr
  unfold safeTransfer at hr
  split at hr
  · cases hr
  · cases hr; exact h _

theorem safeTransferFrom_avoids {bad : Revert → Prop} (h : ∀ text, ¬ bad (.message text)) :
    (safeTransferFrom l token spender src dst value).Avoids bad := by
  intro r hr
  unfold safeTransferFrom at hr
  split at hr
  · cases hr
  · cases hr; exact h _

end TransferHelper
