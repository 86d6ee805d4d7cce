-- SUMMARY: The pool factory FluxPoolFactory with the manager and the pools it creates: every entry point.
import FluxSwap.Manager.Model
import FluxSwap.Staking.Model

/-!
# FluxPoolFactory

The factory creates staking pools, lists them, registers them in the manager and stays their
owner until it hands them over. A call of the factory reaches the manager and the pool in the
same transaction, so the three are one state. What a pool claims from the manager on the way
is a step of the manager, and the manager and every pool keep the ledger as their own modules
do: nothing here depends on balances. Events are left out.
-/

open Exec

/-- Storage of the factory. -/
structure FluxPoolFactory where
  self                    : Address
  manager                 : Address
  dexFactory              : Address
  rewardToken             : Address
  owner                   : Address
  singleTokenPools        : Address → Address
  lpTokenPools            : Address → Address
  managedPools            : Address → Bool
  managedPoolStakingAsset : Address → Address
  managedPoolIsLP         : Address → Bool

/-- What the staking asset and the pair factory answer to the constructor of an LP pool. -/
structure PairAnswers where
  factory : Exec Address
  token0  : Exec Address
  token1  : Exec Address
  getPair : Address → Address → Exec Address

/-- The factory, the manager at its address, and the pools that the factory has created. -/
structure PoolNetwork where
  factory : FluxPoolFactory
  manager : MultiPoolManager
  pools   : Address → Option StakingRewards

/-! ## Constructors of the pools -/

namespace StakingRewards

/-- The constructor of `FluxSwapStakingRewards`. -/
def construct (self owner stakingToken rewardsToken rewardSource rewardNotifier : Address)
    (tokens : Tokens) : Exec StakingRewards := do
  require (owner ≠ Address.zero) "FluxSwapStakingRewards: ZERO_ADDRESS"
  require (stakingToken ≠ Address.zero) "FluxSwapStakingRewards: ZERO_ADDRESS"
  require (rewardsToken ≠ Address.zero) "FluxSwapStakingRewards: ZERO_ADDRESS"
  require (rewardSource ≠ Address.zero) "FluxSwapStakingRewards: ZERO_ADDRESS"
  require (rewardNotifier ≠ Address.zero) "FluxSwapStakingRewards: ZERO_ADDRESS"
  pure {
    self := self
    stakingToken := stakingToken
    rewardsToken := rewardsToken
    owner := owner
    rewardSource := rewardSource
    rewardNotifier := rewardNotifier
    rewardPerTokenStored := 0
    totalStaked := 0
    rewardReserve := 0
    queuedRewards := 0
    pendingUserRewards := 0
    unlocked := 1
    balanceOf := fun _ => 0
    userRewardPerTokenPaid := fun _ => 0
    rewards := fun _ => 0
    tokens := tokens }

/-- The constructor of `FluxSwapLPStakingPool`, which asks the pair about itself. -/
def constructLP (answers : PairAnswers)
    (self owner factory lpToken rewardsToken rewardSource rewardNotifier : Address)
    (tokens : Tokens) : Exec StakingRewards := do
  let pool ← construct self owner lpToken rewardsToken rewardSource rewardNotifier tokens
  require (factory ≠ Address.zero) "FluxSwapLPStakingPool: ZERO_ADDRESS"
  require (lpToken ≠ Address.zero) "FluxSwapLPStakingPool: ZERO_ADDRESS"
  let pairFactory ← answers.factory
  require (pairFactory = factory) "FluxSwapLPStakingPool: INVALID_FACTORY"
  let token0 ← answers.token0
  let token1 ← answers.token1
  require (token0 ≠ Address.zero ∧ token1 ≠ Address.zero) "FluxSwapLPStakingPool: INVALID_PAIR"
  let pair ← answers.getPair token0 token1
  require (pair = lpToken) "FluxSwapLPStakingPool: INVALID_PAIR"
  pure pool

/-- The account that makes a call. -/
def Op.sender : Op → Option Address
  | .stake _ sender _ | .withdraw _ sender _ | .getReward _ sender | .exit _ sender
  | .notifyRewardAmount _ sender _ | .recoverUnallocatedRewards _ sender _
  | .transferOwnership sender _ | .setRewardSource sender _ | .setRewardNotifier sender _
  | .setRewardConfiguration sender _ _ | .tokenTransfer sender _ _ _
  | .tokenApprove sender _ _ _ => some sender
  | .syncRewards _ => none

end StakingRewards

/-! ## The listing -/

namespace FluxPoolFactory

def onlyOwner [Ownable] (f : FluxPoolFactory) (sender : Address) : Exec Unit :=
  Ownable.onlyOwner sender f.owner

/-- `_requireManagedPool`. -/
def requireManagedPool (f : FluxPoolFactory) (pool : Address) : Exec Unit :=
  require (f.managedPools pool) "FluxPoolFactory: POOL_NOT_MANAGED"

/-- The writes of `createSingleTokenPool`. -/
def listSingleTokenPool (f : FluxPoolFactory) (stakingToken pool : Address) : FluxPoolFactory :=
  { f with
    singleTokenPools := Function.update f.singleTokenPools stakingToken pool
    managedPools := Function.update f.managedPools pool true
    managedPoolStakingAsset := Function.update f.managedPoolStakingAsset pool stakingToken
    managedPoolIsLP := Function.update f.managedPoolIsLP pool false }

/-- The writes of `createLPPool`. -/
def listLPPool (f : FluxPoolFactory) (lpToken pool : Address) : FluxPoolFactory :=
  { f with
    lpTokenPools := Function.update f.lpTokenPools lpToken pool
    managedPools := Function.update f.managedPools pool true
    managedPoolStakingAsset := Function.update f.managedPoolStakingAsset pool lpToken
    managedPoolIsLP := Function.update f.managedPoolIsLP pool true }

/-- `_clearManagedPoolAssetRegistration`. -/
def clearManagedPoolAssetRegistration (f : FluxPoolFactory) (pool : Address) : FluxPoolFactory :=
  let stakingAsset := f.managedPoolStakingAsset pool
  if stakingAsset = Address.zero then f
  else
    let f :=
      if f.managedPoolIsLP pool then
        { f with lpTokenPools := Function.update f.lpTokenPools stakingAsset Address.zero }
      else
        { f with singleTokenPools := Function.update f.singleTokenPools stakingAsset Address.zero }
    { f with
      managedPoolStakingAsset := Function.update f.managedPoolStakingAsset pool Address.zero
      managedPoolIsLP := Function.update f.managedPoolIsLP pool false }

/-- `transferOwnership`, as it is inherited. -/
def transferOwnership [Ownable] (sender newOwner : Address) (f : FluxPoolFactory) :
    Exec FluxPoolFactory := do
  let owner ← Ownable.transferOwnership sender newOwner f.owner
  pure { f with owner := owner }

/-- `renounceOwnership`, as it is inherited. -/
def renounceOwnership [Ownable] (sender : Address) (f : FluxPoolFactory) :
    Exec FluxPoolFactory := do
  let owner ← Ownable.renounceOwnership sender f.owner
  pure { f with owner := owner }

end FluxPoolFactory

/-! ## Entry points -/

namespace PoolNetwork

variable [Ownable] [AccessControl Role]

/-- A new contract gets an address that no contract has. -/
def Fresh (w : PoolNetwork) (pool : Address) : Prop :=
  pool ≠ Address.zero ∧ pool ≠ w.factory.self ∧ pool ≠ w.manager.self ∧ w.pools pool = none

instance (w : PoolNetwork) (pool : Address) : Decidable (w.Fresh pool) :=
  inferInstanceAs (Decidable (_ ∧ _ ∧ _ ∧ _))

/-- `new`, at an address that is not in use. -/
def deploy (w : PoolNetwork) (pool : Address) (constructed : Exec StakingRewards) :
    Exec PoolNetwork := do
  require (w.Fresh pool) "address in use"
  let s ← constructed
  pure { w with pools := Function.update w.pools pool (some s) }

def poolAt (w : PoolNetwork) (pool : Address) : Exec StakingRewards :=
  match w.pools pool with
  | some s => .ok s
  | none => .error (.message "no contract at this address")

/-- A call of a pool. -/
def callPool (w : PoolNetwork) (pool : Address) (call : StakingRewards → Exec StakingRewards) :
    Exec PoolNetwork := do
  let s ← w.poolAt pool
  let s ← call s
  pure { w with pools := Function.update w.pools pool (some s) }

def createSingleTokenPool (sender stakingToken : Address) (allocPoint : Nat) (active : Bool)
    (pool : Address) (w : PoolNetwork) : Exec PoolNetwork := do
  w.factory.onlyOwner sender
  require (stakingToken ≠ Address.zero) "FluxPoolFactory: ZERO_ADDRESS"
  require (w.factory.singleTokenPools stakingToken = Address.zero) "FluxPoolFactory: POOL_EXISTS"
  let w ← w.deploy pool (StakingRewards.construct pool w.factory.self stakingToken
    w.factory.rewardToken w.factory.manager w.factory.self w.manager.tokens)
  let w ← w.callPool pool (·.setRewardConfiguration w.factory.self w.factory.manager pool)
  let factory := w.factory.listSingleTokenPool stakingToken pool
  let manager ← w.manager.addPool w.factory.self pool allocPoint active
  pure { w with factory := factory, manager := manager }

def createLPPool (answers : PairAnswers) (sender lpToken : Address) (allocPoint : Nat)
    (active : Bool) (pool : Address) (w : PoolNetwork) : Exec PoolNetwork := do
  w.factory.onlyOwner sender
  require (lpToken ≠ Address.zero) "FluxPoolFactory: ZERO_ADDRESS"
  require (w.factory.lpTokenPools lpToken = Address.zero) "FluxPoolFactory: POOL_EXISTS"
  let w ← w.deploy pool (StakingRewards.constructLP answers pool w.factory.self
    w.factory.dexFactory lpToken w.factory.rewardToken w.factory.manager w.factory.self
    w.manager.tokens)
  let w ← w.callPool pool (·.setRewardConfiguration w.factory.self w.factory.manager pool)
  let factory := w.factory.listLPPool lpToken pool
  let manager ← w.manager.addPool w.factory.self pool allocPoint active
  pure { w with factory := factory, manager := manager }

/-- What the calls of a managed pool by the factory's owner share. -/
def callManagedPool (sender pool : Address) (call : StakingRewards → Exec StakingRewards)
    (w : PoolNetwork) : Exec PoolNetwork := do
  w.factory.onlyOwner sender
  w.factory.requireManagedPool pool
  w.callPool pool call

def setManagedPoolRewardSource (sender pool rewardSource : Address) (w : PoolNetwork) :
    Exec PoolNetwork :=
  w.callManagedPool sender pool (·.setRewardSource w.factory.self rewardSource)

def setManagedPoolRewardNotifier (sender pool rewardNotifier : Address) (w : PoolNetwork) :
    Exec PoolNetwork :=
  w.callManagedPool sender pool (·.setRewardNotifier w.factory.self rewardNotifier)

def setManagedPoolRewardConfiguration (sender pool rewardSource rewardNotifier : Address)
    (w : PoolNetwork) : Exec PoolNetwork :=
  w.callManagedPool sender pool
    (·.setRewardConfiguration w.factory.self rewardSource rewardNotifier)

def recoverManagedPoolUnallocatedRewards (src : RewardSource) (sender pool dst : Address)
    (w : PoolNetwork) : Exec PoolNetwork :=
  w.callManagedPool sender pool (StakingRewards.recoverUnallocatedRewards src w.factory.self dst)

def transferManagedPoolOwnership (sender pool newOwner : Address) (w : PoolNetwork) :
    Exec PoolNetwork := do
  w.factory.onlyOwner sender
  w.factory.requireManagedPool pool
  let s ← w.poolAt pool
  require (newOwner ≠ s.owner) "FluxPoolFactory: SAME_OWNER"
  let manager ← w.manager.deactivatePool w.factory.self pool
  let w ← { w with manager := manager }.callPool pool (·.transferOwnership w.factory.self newOwner)
  let factory := w.factory.clearManagedPoolAssetRegistration pool
  pure { w with factory :=
    { factory with managedPools := Function.update factory.managedPools pool false } }

/-- The calls of the factory, of the manager and of the pools. -/
inductive Op
  | createSingleTokenPool (sender stakingToken : Address) (allocPoint : Nat) (active : Bool)
      (pool : Address)
  | createLPPool (answers : PairAnswers) (sender lpToken : Address) (allocPoint : Nat)
      (active : Bool) (pool : Address)
  | setManagedPoolRewardSource (sender pool rewardSource : Address)
  | setManagedPoolRewardNotifier (sender pool rewardNotifier : Address)
  | setManagedPoolRewardConfiguration (sender pool rewardSource rewardNotifier : Address)
  | recoverManagedPoolUnallocatedRewards (src : RewardSource) (sender pool dst : Address)
  | transferManagedPoolOwnership (sender pool newOwner : Address)
  | transferOwnership (sender newOwner : Address)
  | renounceOwnership (sender : Address)
  | manager (op : MultiPoolManager.Op)
  | pool (pool : Address) (op : StakingRewards.Op)

def exec (w : PoolNetwork) : Op → Exec PoolNetwork
  | .createSingleTokenPool sender stakingToken allocPoint active pool =>
    w.createSingleTokenPool sender stakingToken allocPoint active pool
  | .createLPPool answers sender lpToken allocPoint active pool =>
    w.createLPPool answers sender lpToken allocPoint active pool
  | .setManagedPoolRewardSource sender pool rewardSource =>
    w.setManagedPoolRewardSource sender pool rewardSource
  | .setManagedPoolRewardNotifier sender pool rewardNotifier =>
    w.setManagedPoolRewardNotifier sender pool rewardNotifier
  | .setManagedPoolRewardConfiguration sender pool rewardSource rewardNotifier =>
    w.setManagedPoolRewardConfiguration sender pool rewardSource rewardNotifier
  | .recoverManagedPoolUnallocatedRewards src sender pool dst =>
    w.recoverManagedPoolUnallocatedRewards src sender pool dst
  | .transferManagedPoolOwnership sender pool newOwner =>
    w.transferManagedPoolOwnership sender pool newOwner
  | .transferOwnership sender newOwner => do
    let factory ← w.factory.transferOwnership sender newOwner
    pure { w with factory := factory }
  | .renounceOwnership sender => do
    let factory ← w.factory.renounceOwnership sender
    pure { w with factory := factory }
  | .manager op => do
    let manager ← w.manager.exec op
    pure { w with manager := manager }
  -- The factory calls a pool only through the entry points above.
  | .pool pool op => do
    require (op.sender ≠ some w.factory.self) "sender is the factory"
    w.callPool pool (·.exec op)

/-- After the constructor of the factory, at a manager with any history. -/
structure Deployed (w : PoolNetwork) : Prop where
  owner : w.factory.owner ≠ Address.zero
  manager : w.factory.manager ≠ Address.zero
  dexFactory : w.factory.dexFactory ≠ Address.zero
  rewardToken : w.factory.rewardToken ≠ Address.zero
  address : w.manager.self = w.factory.manager
  managed : MultiPoolManager.system.Reachable w.manager
  singleTokenPools : w.factory.singleTokenPools = fun _ => Address.zero
  lpTokenPools : w.factory.lpTokenPools = fun _ => Address.zero
  managedPools : w.factory.managedPools = fun _ => false
  managedPoolStakingAsset : w.factory.managedPoolStakingAsset = fun _ => Address.zero
  managedPoolIsLP : w.factory.managedPoolIsLP = fun _ => false
  pools : w.pools = fun _ => none

/-- All runs of a pool factory. -/
def system : System PoolNetwork Op := .ofCalls Deployed exec

end PoolNetwork
