-- SUMMARY: The reward manager FluxMultiPoolManager: pools with weights, distribution, claims, roles and every entry point.
import FluxSwap.Access.Model

/-!
# FluxMultiPoolManager

The manager takes rewards from a treasury and spreads them over the active pools
by weight. A distribution raises the accumulator `accRewardPerAllocStored`; a pool
is owed its weight times the accumulator, less its debt, and what it is owed is
moved to its pending rewards whenever it is touched. What rounding keeps back of
a distribution is carried over in `undistributedRewards`.

Every function takes the storage and returns the new one, or reverts. Events are
left out, since no function reads them.
-/

/-- A registered pool. -/
structure PoolInfo where
  pool           : Address
  allocPoint     : Nat
  active         : Bool
  rewardDebt     : Nat
  pendingRewards : Nat
  deriving DecidableEq, Repr

/-- What the treasury answers during a distribution: whether its `paused()` probe
answers `true`, and whether it lets the manager pull. -/
structure TreasuryAnswer where
  paused : Bool
  pull   : Except String Unit

/-- Storage of a manager, with the ledger of the tokens it deals with. -/
structure MultiPoolManager where
  self                    : Address
  rewardToken             : Address
  access                  : Access
  treasury                : Address
  poolFactory             : Address
  totalAllocPoint         : Nat
  accRewardPerAllocStored : Nat
  totalPendingRewards     : Nat
  undistributedRewards    : Nat
  paused                  : Bool
  pools                   : List PoolInfo
  poolExists              : Address → Bool
  poolPidPlusOne          : Address → Nat
  tokens                  : Tokens

namespace MultiPoolManager

open Exec

def precision : Nat := 10 ^ 18

def contract : String := "FluxMultiPoolManager"

section EntryPoints

variable [Ownable]

/-! ## Pools -/

/-- `pools[pid]`. -/
def poolAt (m : MultiPoolManager) (pid : Nat) : Exec PoolInfo :=
  match m.pools[pid]? with
  | some info => .ok info
  | none => .error (.message "array index out of bounds")

/-- A write to the storage reference `pools[pid]`. -/
def store (m : MultiPoolManager) (pid : Nat) (info : PoolInfo) : MultiPoolManager :=
  { m with pools := m.pools.set pid info }

/-- The `pid` of a registered pool. -/
def pidOf (m : MultiPoolManager) (pool : Address) : Exec Nat := do
  require (m.poolPidPlusOne pool ≠ 0) "FluxMultiPoolManager: INVALID_POOL"
  pure (m.poolPidPlusOne pool - 1)

/-- `(allocPoint * accRewardPerAllocStored) / PRECISION`. -/
def share (m : MultiPoolManager) (allocPoint : Nat) : Exec Nat := do
  let scaled ← Uint256.mul allocPoint m.accRewardPerAllocStored
  pure (scaled / precision)

/-- The debt of a pool that starts with this weight and state. -/
def openingDebt (m : MultiPoolManager) (allocPoint : Nat) (active : Bool) : Exec Nat :=
  if active then m.share allocPoint else pure 0

/-- A total weight to which an active pool adds its weight. -/
def addWeight (total allocPoint : Nat) (active : Bool) : Exec Nat :=
  if active then Uint256.add total allocPoint else pure total

/-- A total weight from which an active pool's weight is taken. -/
def removeWeight (total allocPoint : Nat) (active : Bool) : Exec Nat :=
  if active then Uint256.sub total allocPoint else pure total

/-- The reward that is neither pending nor carried over. -/
def availableUnreservedRewards (m : MultiPoolManager) : Exec Nat := do
  let reservedBalance ← Uint256.add m.totalPendingRewards m.undistributedRewards
  let currentBalance := m.tokens.balanceOf m.rewardToken m.self
  pure (if reservedBalance < currentBalance then currentBalance - reservedBalance else 0)

/-- `_accruePool`: move what a pool has newly accrued, at most the unreserved balance,
    to its pending rewards. The debt moves on in full. -/
def accruePool (m : MultiPoolManager) (pid : Nat) : Exec (MultiPoolManager × Nat) := do
  let info ← m.poolAt pid
  if info.active ∧ 0 < info.allocPoint then do
    let debt ← m.share info.allocPoint
    let newlyAccrued ← Uint256.sub debt info.rewardDebt
    if 0 < newlyAccrued then do
      let available ← m.availableUnreservedRewards
      let newlyAccrued := if available < newlyAccrued then available else newlyAccrued
      let reward ← Uint256.add info.pendingRewards newlyAccrued
      let total ← Uint256.add m.totalPendingRewards newlyAccrued
      pure ({ m.store pid { info with rewardDebt := debt, pendingRewards := reward } with
        totalPendingRewards := total }, reward)
    else pure (m.store pid { info with rewardDebt := debt }, info.pendingRewards)
  else pure (m.store pid { info with rewardDebt := 0 }, info.pendingRewards)

def onlyOwnerOrPoolFactory (m : MultiPoolManager) (sender : Address) : Exec Unit :=
  require (sender = m.access.owner ∨ sender = m.poolFactory) "FluxMultiPoolManager: FORBIDDEN"

def addPool (sender pool : Address) (allocPoint : Nat) (active : Bool) (m : MultiPoolManager) :
    Exec MultiPoolManager := do
  m.onlyOwnerOrPoolFactory sender
  require (pool ≠ Address.zero) "FluxMultiPoolManager: ZERO_ADDRESS"
  require (m.poolExists pool = false) "FluxMultiPoolManager: POOL_EXISTS"
  let debt ← m.openingDebt allocPoint active
  let total ← addWeight m.totalAllocPoint allocPoint active
  pure { m with
    pools := m.pools ++ [{
      pool := pool
      allocPoint := allocPoint
      active := active
      rewardDebt := debt
      pendingRewards := 0 }]
    poolExists := Function.update m.poolExists pool true
    poolPidPlusOne := Function.update m.poolPidPlusOne pool (m.pools.length + 1)
    totalAllocPoint := total }

def deactivatePool (sender pool : Address) (m : MultiPoolManager) : Exec MultiPoolManager := do
  m.onlyOwnerOrPoolFactory sender
  let pid ← m.pidOf pool
  let (m, _) ← m.accruePool pid
  let info ← m.poolAt pid
  if info.active then do
    let total ← Uint256.sub m.totalAllocPoint info.allocPoint
    pure { m.store pid { info with active := false, rewardDebt := 0 } with
      totalAllocPoint := total }
  else pure m

def setPool (sender : Address) (pid allocPoint : Nat) (active : Bool) (m : MultiPoolManager) :
    Exec MultiPoolManager := do
  m.access.onlyOwner sender
  require (pid < m.pools.length) "FluxMultiPoolManager: INVALID_POOL"
  let (m, _) ← m.accruePool pid
  let info ← m.poolAt pid
  let without ← removeWeight m.totalAllocPoint info.allocPoint info.active
  let total ← addWeight without allocPoint active
  let debt ← m.openingDebt allocPoint active
  pure { m.store pid
      { info with allocPoint := allocPoint, active := active, rewardDebt := debt } with
    totalAllocPoint := total }

/-! ## Rewards -/

/-- `pullApprovedToken` of the treasury pays exactly what is asked for. The manager itself
    has no such function. -/
def pullApprovedToken (m : MultiPoolManager) (answer : TreasuryAnswer) (amount : Nat) :
    Exec Tokens := do
  require (m.treasury ≠ m.self) "no such function"
  match answer.pull with
  | .error text => .error (.message text)
  | .ok () => TransferHelper.safeTransfer m.tokens m.rewardToken m.treasury m.self amount

def distributeRewards (answer : TreasuryAnswer) (sender : Address) (totalReward : Nat)
    (m : MultiPoolManager) : Exec MultiPoolManager := do
  m.access.onlyOperatorOrOwner contract sender
  require (m.paused = false) "FluxMultiPoolManager: PAUSED"
  require (0 < totalReward) "FluxMultiPoolManager: ZERO_AMOUNT"
  require (0 < m.totalAllocPoint) "FluxMultiPoolManager: NO_ACTIVE_POOLS"
  require (answer.paused = false) "FluxMultiPoolManager: TREASURY_PAUSED"
  let tokens ← m.pullApprovedToken answer totalReward
  let distributable ← Uint256.add totalReward m.undistributedRewards
  let scaled ← Uint256.mul distributable precision
  let rewardDelta ← Uint256.div scaled m.totalAllocPoint
  require (0 < rewardDelta) "FluxMultiPoolManager: REWARD_TOO_SMALL"
  let accumulator ← Uint256.add m.accRewardPerAllocStored rewardDelta
  let product ← Uint256.mul rewardDelta m.totalAllocPoint
  let undistributed ← Uint256.sub distributable (product / precision)
  pure { m with
    accRewardPerAllocStored := accumulator
    undistributedRewards := undistributed
    tokens := tokens }

def claimPoolRewards (sender pool : Address) (m : MultiPoolManager) :
    Exec (MultiPoolManager × Nat) := do
  let pid ← m.pidOf pool
  require (sender = pool) "FluxMultiPoolManager: FORBIDDEN"
  let (m, reward) ← m.accruePool pid
  if reward = 0 then pure (m, 0)
  else do
    let info ← m.poolAt pid
    let total ← Uint256.sub m.totalPendingRewards reward
    let tokens ← TransferHelper.safeTransfer m.tokens m.rewardToken m.self pool reward
    pure ({ m.store pid { info with pendingRewards := 0 } with
      totalPendingRewards := total
      tokens := tokens }, reward)

def recoverToken (sender token dst : Address) (amount : Nat) (m : MultiPoolManager) :
    Exec MultiPoolManager := do
  m.access.onlyOwner sender
  require (token ≠ Address.zero) "FluxMultiPoolManager: ZERO_ADDRESS"
  require (dst ≠ Address.zero) "FluxMultiPoolManager: ZERO_ADDRESS"
  require (token ≠ m.rewardToken) "FluxMultiPoolManager: REWARD_TOKEN_LOCKED"
  let tokens ← TransferHelper.safeTransfer m.tokens token m.self dst amount
  pure { m with tokens := tokens }

/-- The view `pendingPoolRewards`. -/
def pendingPoolRewards (m : MultiPoolManager) (pool : Address) : Exec Nat := do
  let pid ← m.pidOf pool
  let info ← m.poolAt pid
  if info.active ∧ 0 < info.allocPoint then do
    let debt ← m.share info.allocPoint
    let newlyAccrued ← Uint256.sub debt info.rewardDebt
    Uint256.add info.pendingRewards newlyAccrued
  else pure info.pendingRewards

/-! ## Administration -/

def setTreasury (sender newTreasury : Address) (m : MultiPoolManager) : Exec MultiPoolManager := do
  m.access.onlyOwner sender
  require (newTreasury ≠ Address.zero) "FluxMultiPoolManager: ZERO_ADDRESS"
  pure { m with treasury := newTreasury }

def setPoolFactory (sender newPoolFactory : Address) (m : MultiPoolManager) :
    Exec MultiPoolManager := do
  m.access.onlyOwner sender
  require (newPoolFactory ≠ Address.zero) "FluxMultiPoolManager: ZERO_ADDRESS"
  pure { m with poolFactory := newPoolFactory }

def pause (sender : Address) (m : MultiPoolManager) : Exec MultiPoolManager := do
  require (m.access.hasRole .pauser sender) "FluxMultiPoolManager: FORBIDDEN"
  require (m.paused = false) "FluxMultiPoolManager: PAUSED"
  pure { m with paused := true }

def unpause (sender : Address) (m : MultiPoolManager) : Exec MultiPoolManager := do
  require (m.access.hasRole .pauser sender) "FluxMultiPoolManager: FORBIDDEN"
  require (m.paused = true) "FluxMultiPoolManager: NOT_PAUSED"
  pure { m with paused := false }

/-- The entry points for owner, operator and roles. -/
def administer [AccessControl Role] (op : Access.Op) (m : MultiPoolManager) :
    Exec MultiPoolManager := do
  let access ← m.access.exec contract op
  pure { m with access := access }

/-! ## Runs -/

/-- The transactions that concern a manager: its entry points, and token transfers and
    approvals of other accounts. -/
inductive Op
  | addPool (sender pool : Address) (allocPoint : Nat) (active : Bool)
  | deactivatePool (sender pool : Address)
  | setPool (sender : Address) (pid allocPoint : Nat) (active : Bool)
  | distributeRewards (answer : TreasuryAnswer) (sender : Address) (totalReward : Nat)
  | claimPoolRewards (sender pool : Address)
  | recoverToken (sender token dst : Address) (amount : Nat)
  | setTreasury (sender newTreasury : Address)
  | setPoolFactory (sender newPoolFactory : Address)
  | pause (sender : Address)
  | unpause (sender : Address)
  | administer (op : Access.Op)
  | tokenTransfer (token sender dst : Address) (amount : Nat)
  | tokenTransferFrom (token sender src dst : Address) (amount : Nat)
  | tokenApprove (token sender spender : Address) (amount : Nat)

def exec [AccessControl Role] (m : MultiPoolManager) : Op → Exec MultiPoolManager
  | .addPool sender pool allocPoint active => m.addPool sender pool allocPoint active
  | .deactivatePool sender pool => m.deactivatePool sender pool
  | .setPool sender pid allocPoint active => m.setPool sender pid allocPoint active
  | .distributeRewards answer sender totalReward => m.distributeRewards answer sender totalReward
  | .claimPoolRewards sender pool => do
    let (m, _) ← m.claimPoolRewards sender pool
    pure m
  | .recoverToken sender token dst amount => m.recoverToken sender token dst amount
  | .setTreasury sender newTreasury => m.setTreasury sender newTreasury
  | .setPoolFactory sender newPoolFactory => m.setPoolFactory sender newPoolFactory
  | .pause sender => m.pause sender
  | .unpause sender => m.unpause sender
  | .administer op => m.administer op
  -- The manager moves tokens only through the entry points above.
  | .tokenTransfer token sender dst amount => do
    require (sender ≠ m.self) "sender is the manager"
    let tokens ← TransferHelper.safeTransfer m.tokens token sender dst amount
    pure { m with tokens := tokens }
  | .tokenTransferFrom token sender src dst amount => do
    require (sender ≠ m.self) "sender is the manager"
    let tokens ← TransferHelper.safeTransferFrom m.tokens token sender src dst amount
    pure { m with tokens := tokens }
  | .tokenApprove token sender spender amount => do
    require (sender ≠ m.self) "sender is the manager"
    pure { m with tokens := m.tokens.approve token sender spender amount }

/-- A manager right after its constructor: any configuration, no pool and no reward. Its
    address is new, so it has approved nobody; the balances of the reward token add up to
    its supply, which fits into 256 bits. -/
structure Initial (m : MultiPoolManager) : Prop where
  totalAllocPoint : m.totalAllocPoint = 0
  accRewardPerAllocStored : m.accRewardPerAllocStored = 0
  totalPendingRewards : m.totalPendingRewards = 0
  undistributedRewards : m.undistributedRewards = 0
  pools : m.pools = []
  poolExists : m.poolExists = fun _ => false
  poolPidPlusOne : m.poolPidPlusOne = fun _ => 0
  unapproved : ∀ token spender, m.tokens.allowance token m.self spender = 0
  supply : ∑ a, m.tokens.balanceOf m.rewardToken a ≤ Uint256.max

/-- All runs of a manager. -/
def system [AccessControl Role] : System MultiPoolManager Op := .ofCalls Initial exec

/-- All runs of a manager from its constructor, with the roles that it grants. -/
def constructed [AccessControl Role] : System MultiPoolManager Op :=
  .ofCalls (fun m => Initial m ∧ m.access.Deployed contract) exec

end EntryPoints

end MultiPoolManager
