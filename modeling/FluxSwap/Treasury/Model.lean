-- SUMMARY: The treasury FluxSwapTreasury: timelocked operations, allocations, spending caps, approved spenders and every entry point.
import FluxSwap.Lib.System
import FluxSwap.Contracts.Abi

/-!
# FluxSwapTreasury

The treasury holds the funds of the protocol. Its configuration changes only by
operations that the multisig schedules and that anybody may execute once their delay
is over. Funds leave by allocations of the operator, by spenders with an approved
amount, and by emergency withdrawals.

What the treasury's calls do to the rest of the chain is a parameter. Every entry point
makes its call to another contract last, after all of its writes, so a call that is
made while another one is still waiting for its receiver is simply the next call of the
run. Events are left out, since no function reads them.
-/

/-- A `uint256` argument. -/
abbrev Word256 : Type := Fin (2 ^ 256)

/-- What the treasury's calls do to the balances of the chain: `transfer` and `burn` of a
token, and a payment of ETH. Each names the account that pays; `none` is a failure. -/
structure Payments (α : Type) where
  transfer : (token src dst : Address) → Nat → α → Option α
  burn     : (token src : Address) → Nat → α → Option α
  sendETH  : (src dst : Address) → Nat → α → Option α

/-- Storage of a treasury, with the clock and the balances of the chain. -/
structure Treasury (α : Type) where
  self                   : Address
  multisig               : Address
  operator               : Address
  guardian               : Address
  minDelay               : Nat
  paused                 : Bool
  allowedTokens          : Address → Bool
  allowedRecipients      : Address → Bool
  dailySpendCap          : Address → Nat
  spentToday             : Address → Nat
  lastSpendDay           : Address → Nat
  approvedSpendRemaining : Address → Address → Nat
  operationReadyAt       : Bytes32 → Nat
  timestamp              : Nat
  assets                 : α

namespace Treasury

open Exec

variable {α : Type}

/-! ## Operations -/

/-- What a timelocked operation does. -/
inductive Effect
  | setOperator (newOperator : Address)
  | setGuardian (newGuardian : Address)
  | setMinDelay (newMinDelay : Word256)
  | setAllowedToken (token : Address) (allowed : Bool)
  | setAllowedRecipient (recipient : Address) (allowed : Bool)
  | setDailySpendCap (token : Address) (newCap : Word256)
  | approveSpender (token spender : Address) (amount : Word256)
  | revokeSpender (token spender : Address)
  | emergencyWithdraw (token dst : Address) (amount : Word256)
  | emergencyWithdrawETH (dst : Address) (amount : Word256)
  deriving DecidableEq

namespace Effect

/-- The string that the hash function of each operation encodes first. -/
def tag : Effect → String
  | .setOperator .. => "SET_OPERATOR"
  | .setGuardian .. => "SET_GUARDIAN"
  | .setMinDelay .. => "SET_MIN_DELAY"
  | .setAllowedToken .. => "SET_ALLOWED_TOKEN"
  | .setAllowedRecipient .. => "SET_ALLOWED_RECIPIENT"
  | .setDailySpendCap .. => "SET_DAILY_SPEND_CAP"
  | .approveSpender .. => "APPROVE_SPENDER"
  | .revokeSpender .. => "REVOKE_SPENDER"
  | .emergencyWithdraw .. => "EMERGENCY_WITHDRAW"
  | .emergencyWithdrawETH .. => "EMERGENCY_WITHDRAW_ETH"

/-- The values that it encodes after the string. -/
def args : Effect → List Nat
  | .setOperator newOperator => [newOperator]
  | .setGuardian newGuardian => [newGuardian]
  | .setMinDelay newMinDelay => [newMinDelay]
  | .setAllowedToken token allowed => [token, allowed.toNat]
  | .setAllowedRecipient recipient allowed => [recipient, allowed.toNat]
  | .setDailySpendCap token newCap => [token, newCap]
  | .approveSpender token spender amount => [token, spender, amount]
  | .revokeSpender token spender => [token, spender]
  | .emergencyWithdraw token dst amount => [token, dst, amount]
  | .emergencyWithdrawETH dst amount => [dst, amount]

/-- What is hashed. -/
def preimage (effect : Effect) : Bytes := Abi.encodeTagged effect.tag effect.args

/-- `hashSetOperator`, `hashSetGuardian` and the other hash functions. -/
def hash (keccak256 : Bytes → Bytes32) (effect : Effect) : Bytes32 := keccak256 effect.preimage

end Effect

def scheduleOperation (sender : Address) (operationId : Bytes32) (delay : Nat) (s : Treasury α) :
    Exec (Treasury α) := do
  require (sender = s.multisig) "FluxSwapTreasury: FORBIDDEN"
  require (operationId ≠ 0) "FluxSwapTreasury: INVALID_OPERATION"
  require (s.minDelay ≤ delay) "FluxSwapTreasury: DELAY_TOO_SHORT"
  require (s.operationReadyAt operationId = 0) "FluxSwapTreasury: OPERATION_EXISTS"
  let executeAfter ← Uint256.add s.timestamp delay
  pure { s with operationReadyAt := Function.update s.operationReadyAt operationId executeAfter }

def cancelOperation (sender : Address) (operationId : Bytes32) (s : Treasury α) :
    Exec (Treasury α) := do
  require (sender = s.multisig) "FluxSwapTreasury: FORBIDDEN"
  require (s.operationReadyAt operationId ≠ 0) "FluxSwapTreasury: UNKNOWN_OPERATION"
  pure { s with operationReadyAt := Function.update s.operationReadyAt operationId 0 }

/-- `_consumeOperation`. -/
def consumeOperation (operationId expectedId : Bytes32) (s : Treasury α) :
    Exec (Treasury α) := do
  require (operationId = expectedId) "FluxSwapTreasury: INVALID_OPERATION"
  let readyAt := s.operationReadyAt operationId
  require (readyAt ≠ 0) "FluxSwapTreasury: UNKNOWN_OPERATION"
  require (readyAt ≤ s.timestamp) "FluxSwapTreasury: OPERATION_NOT_READY"
  pure { s with operationReadyAt := Function.update s.operationReadyAt operationId 0 }

/-- A call of another contract that has to succeed. -/
def call (s : Treasury α) (text : String) (assets : Option α) : Exec (Treasury α) :=
  match assets with
  | some a => .ok { s with assets := a }
  | none => .error (.message text)

/-- `TransferHelper.safeTransfer` by the treasury. -/
def safeTransfer (pay : Payments α) (token dst : Address) (amount : Nat) (s : Treasury α) :
    Exec (Treasury α) :=
  s.call "TransferHelper: TRANSFER_FAILED" (pay.transfer token s.self dst amount s.assets)

/-- `TransferHelper.safeTransferETH` by the treasury. -/
def safeTransferETH (pay : Payments α) (dst : Address) (amount : Nat) (s : Treasury α) :
    Exec (Treasury α) :=
  s.call "TransferHelper: ETH_TRANSFER_FAILED" (pay.sendETH s.self dst amount s.assets)

/-- `IBurnableERC20(token).burn` by the treasury. -/
def burn (pay : Payments α) (token : Address) (amount : Nat) (s : Treasury α) :
    Exec (Treasury α) :=
  s.call "burn failed" (pay.burn token s.self amount s.assets)

def requireNonzero (a : Address) : Exec Unit :=
  require (a ≠ Address.zero) "FluxSwapTreasury: ZERO_ADDRESS"

section Execute

variable (keccak256 : Bytes → Bytes32) (pay : Payments α) (operationId : Bytes32)

def executeSetOperator (newOperator : Address) (s : Treasury α) : Exec (Treasury α) := do
  requireNonzero newOperator
  let s ← s.consumeOperation operationId ((Effect.setOperator newOperator).hash keccak256)
  pure { s with operator := newOperator }

def executeSetGuardian (newGuardian : Address) (s : Treasury α) : Exec (Treasury α) := do
  requireNonzero newGuardian
  let s ← s.consumeOperation operationId ((Effect.setGuardian newGuardian).hash keccak256)
  pure { s with guardian := newGuardian }

def executeSetMinDelay (newMinDelay : Word256) (s : Treasury α) : Exec (Treasury α) := do
  require (0 < newMinDelay.val) "FluxSwapTreasury: INVALID_DELAY"
  let s ← s.consumeOperation operationId ((Effect.setMinDelay newMinDelay).hash keccak256)
  pure { s with minDelay := newMinDelay }

def executeSetAllowedToken (token : Address) (allowed : Bool) (s : Treasury α) :
    Exec (Treasury α) := do
  requireNonzero token
  let s ← s.consumeOperation operationId ((Effect.setAllowedToken token allowed).hash keccak256)
  pure { s with allowedTokens := Function.update s.allowedTokens token allowed }

def executeSetAllowedRecipient (recipient : Address) (allowed : Bool) (s : Treasury α) :
    Exec (Treasury α) := do
  requireNonzero recipient
  let s ← s.consumeOperation operationId
    ((Effect.setAllowedRecipient recipient allowed).hash keccak256)
  pure { s with allowedRecipients := Function.update s.allowedRecipients recipient allowed }

def executeSetDailySpendCap (token : Address) (newCap : Word256) (s : Treasury α) :
    Exec (Treasury α) := do
  let s ← s.consumeOperation operationId ((Effect.setDailySpendCap token newCap).hash keccak256)
  pure { s with dailySpendCap := Function.update s.dailySpendCap token newCap }

/-- A write to `approvedSpendRemaining`. -/
def setRemaining (token spender : Address) (amount : Nat) (s : Treasury α) : Treasury α :=
  let ofToken := Function.update (s.approvedSpendRemaining token) spender amount
  { s with approvedSpendRemaining := Function.update s.approvedSpendRemaining token ofToken }

def executeApproveSpender (token spender : Address) (amount : Word256) (s : Treasury α) :
    Exec (Treasury α) := do
  requireNonzero token
  requireNonzero spender
  let s ← s.consumeOperation operationId
    ((Effect.approveSpender token spender amount).hash keccak256)
  pure (s.setRemaining token spender amount)

def executeRevokeSpender (token spender : Address) (s : Treasury α) : Exec (Treasury α) := do
  requireNonzero token
  requireNonzero spender
  let s ← s.consumeOperation operationId ((Effect.revokeSpender token spender).hash keccak256)
  pure (s.setRemaining token spender 0)

def executeEmergencyWithdraw (token dst : Address) (amount : Word256) (s : Treasury α) :
    Exec (Treasury α) := do
  requireNonzero token
  requireNonzero dst
  let s ← s.consumeOperation operationId
    ((Effect.emergencyWithdraw token dst amount).hash keccak256)
  s.safeTransfer pay token dst amount

def executeEmergencyWithdrawETH (dst : Address) (amount : Word256) (s : Treasury α) :
    Exec (Treasury α) := do
  requireNonzero dst
  let s ← s.consumeOperation operationId ((Effect.emergencyWithdrawETH dst amount).hash keccak256)
  s.safeTransferETH pay dst amount

/-- The execute function of an effect. -/
def execute (effect : Effect) (s : Treasury α) : Exec (Treasury α) :=
  match effect with
  | .setOperator newOperator => s.executeSetOperator keccak256 operationId newOperator
  | .setGuardian newGuardian => s.executeSetGuardian keccak256 operationId newGuardian
  | .setMinDelay newMinDelay => s.executeSetMinDelay keccak256 operationId newMinDelay
  | .setAllowedToken token allowed => s.executeSetAllowedToken keccak256 operationId token allowed
  | .setAllowedRecipient recipient allowed =>
    s.executeSetAllowedRecipient keccak256 operationId recipient allowed
  | .setDailySpendCap token newCap => s.executeSetDailySpendCap keccak256 operationId token newCap
  | .approveSpender token spender amount =>
    s.executeApproveSpender keccak256 operationId token spender amount
  | .revokeSpender token spender => s.executeRevokeSpender keccak256 operationId token spender
  | .emergencyWithdraw token dst amount =>
    s.executeEmergencyWithdraw keccak256 pay operationId token dst amount
  | .emergencyWithdrawETH dst amount =>
    s.executeEmergencyWithdrawETH keccak256 pay operationId dst amount

end Execute

/-! ## Spending -/

/-- The day a block belongs to. -/
def day (s : Treasury α) : Nat := s.timestamp / 86400

/-- What counts as spent today: the counter is rolled over on its first use of a day. -/
def countedToday (s : Treasury α) (token : Address) : Nat :=
  if s.lastSpendDay token = s.day then s.spentToday token else 0

/-- `_consumeCap`; `address(0)` stands for ETH. -/
def consumeCap (token : Address) (amount : Nat) (s : Treasury α) : Exec (Treasury α) := do
  require (0 < s.dailySpendCap token) "FluxSwapTreasury: SPEND_CAP_NOT_SET"
  let spent ← Uint256.add (s.countedToday token) amount
  require (spent ≤ s.dailySpendCap token) "FluxSwapTreasury: DAILY_CAP_EXCEEDED"
  pure { s with
    lastSpendDay := Function.update s.lastSpendDay token s.day
    spentToday := Function.update s.spentToday token spent }

/-- `_consumeCapIfConfigured`. -/
def consumeCapIfConfigured (token : Address) (amount : Nat) (s : Treasury α) :
    Exec (Treasury α) :=
  if s.dailySpendCap token = 0 then pure s else s.consumeCap token amount

/-- `_consumeApprovedSpender`. -/
def consumeApprovedSpender (sender token : Address) (amount : Nat) (s : Treasury α) :
    Exec (Treasury α) := do
  requireNonzero token
  require (0 < amount) "FluxSwapTreasury: ZERO_AMOUNT"
  let remaining := s.approvedSpendRemaining token sender
  require (amount ≤ remaining) "FluxSwapTreasury: SPENDER_ALLOWANCE_EXCEEDED"
  let remainingAfter ← Uint256.sub remaining amount
  (s.setRemaining token sender remainingAfter).consumeCapIfConfigured token amount

def onlyOperatorOrMultisig (s : Treasury α) (sender : Address) : Exec Unit :=
  require (sender = s.operator ∨ sender = s.multisig) "FluxSwapTreasury: FORBIDDEN"

def whenNotPaused (s : Treasury α) : Exec Unit :=
  require (s.paused = false) "FluxSwapTreasury: PAUSED"

def allocate (pay : Payments α) (sender token dst : Address) (amount : Nat) (s : Treasury α) :
    Exec (Treasury α) := do
  s.onlyOperatorOrMultisig sender
  s.whenNotPaused
  require (s.allowedTokens token) "FluxSwapTreasury: TOKEN_NOT_ALLOWED"
  require (s.allowedRecipients dst) "FluxSwapTreasury: RECIPIENT_NOT_ALLOWED"
  let s ← s.consumeCap token amount
  s.safeTransfer pay token dst amount

def allocateETH (pay : Payments α) (sender dst : Address) (amount : Nat) (s : Treasury α) :
    Exec (Treasury α) := do
  s.onlyOperatorOrMultisig sender
  s.whenNotPaused
  require (s.allowedRecipients dst) "FluxSwapTreasury: RECIPIENT_NOT_ALLOWED"
  let s ← s.consumeCap Address.zero amount
  s.safeTransferETH pay dst amount

def consumeApprovedSpenderCap (sender token : Address) (amount : Nat) (s : Treasury α) :
    Exec (Treasury α) := do
  s.whenNotPaused
  s.consumeApprovedSpender sender token amount

def pullApprovedToken (pay : Payments α) (sender token : Address) (amount : Nat)
    (s : Treasury α) : Exec (Treasury α) := do
  s.whenNotPaused
  let s ← s.consumeApprovedSpender sender token amount
  s.safeTransfer pay token sender amount

def burnApprovedToken (pay : Payments α) (sender token : Address) (amount : Nat)
    (s : Treasury α) : Exec (Treasury α) := do
  s.whenNotPaused
  let s ← s.consumeApprovedSpender sender token amount
  s.burn pay token amount

def pause (sender : Address) (s : Treasury α) : Exec (Treasury α) := do
  require (sender = s.guardian ∨ sender = s.multisig) "FluxSwapTreasury: FORBIDDEN"
  require (s.paused = false) "FluxSwapTreasury: PAUSED"
  pure { s with paused := true }

def unpause (sender : Address) (s : Treasury α) : Exec (Treasury α) := do
  require (sender = s.multisig) "FluxSwapTreasury: FORBIDDEN"
  require (s.paused = true) "FluxSwapTreasury: NOT_PAUSED"
  pure { s with paused := false }

/-! ## Runs -/

/-- The calls of a treasury, the passing of time, and whatever others do to the balances
    (`receive` is a payment by another account). -/
inductive Op (α : Type)
  | pause (sender : Address)
  | unpause (sender : Address)
  | scheduleOperation (sender : Address) (operationId : Bytes32) (delay : Nat)
  | cancelOperation (sender : Address) (operationId : Bytes32)
  | execute (effect : Effect) (operationId : Bytes32)
  | allocate (sender token dst : Address) (amount : Nat)
  | allocateETH (sender dst : Address) (amount : Nat)
  | consumeApprovedSpenderCap (sender token : Address) (amount : Nat)
  | pullApprovedToken (sender token : Address) (amount : Nat)
  | burnApprovedToken (sender token : Address) (amount : Nat)
  | wait (seconds : Nat)
  | others (assets : α)

def exec (keccak256 : Bytes → Bytes32) (pay : Payments α) (s : Treasury α) :
    Op α → Exec (Treasury α)
  | .pause sender => s.pause sender
  | .unpause sender => s.unpause sender
  | .scheduleOperation sender operationId delay => s.scheduleOperation sender operationId delay
  | .cancelOperation sender operationId => s.cancelOperation sender operationId
  | .execute effect operationId => s.execute keccak256 pay operationId effect
  | .allocate sender token dst amount => s.allocate pay sender token dst amount
  | .allocateETH sender dst amount => s.allocateETH pay sender dst amount
  | .consumeApprovedSpenderCap sender token amount =>
    s.consumeApprovedSpenderCap sender token amount
  | .pullApprovedToken sender token amount => s.pullApprovedToken pay sender token amount
  | .burnApprovedToken sender token amount => s.burnApprovedToken pay sender token amount
  | .wait seconds => pure { s with timestamp := s.timestamp + seconds }
  | .others assets => pure { s with assets := assets }

/-- A treasury right after its constructor. -/
structure Deployed (s : Treasury α) : Prop where
  multisig : s.multisig ≠ Address.zero
  guardian : s.guardian ≠ Address.zero
  operator : s.operator ≠ Address.zero
  minDelay : 0 < s.minDelay
  paused : s.paused = false
  allowedTokens : s.allowedTokens = fun _ => false
  allowedRecipients : s.allowedRecipients = fun _ => false
  dailySpendCap : s.dailySpendCap = fun _ => 0
  spentToday : s.spentToday = fun _ => 0
  lastSpendDay : s.lastSpendDay = fun _ => 0
  approvedSpendRemaining : s.approvedSpendRemaining = fun _ _ => 0
  operationReadyAt : s.operationReadyAt = fun _ => 0

/-- All runs of a treasury, with their histories. -/
def runs (keccak256 : Bytes → Bytes32) (pay : Payments α) :
    System (Treasury α × System.History (Treasury α) (Op α)) (Op α) :=
  .ofCallsLogged Deployed (exec keccak256 pay)

end Treasury
