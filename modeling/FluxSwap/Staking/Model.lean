-- SUMMARY: The staking pool FluxSwapStakingRewards: storage, reward accounting and every entry point.
import FluxSwap.Lib.System
import FluxSwap.Contracts.Basic

/-!
# FluxSwapStakingRewards

A pool pays a reward token to the stakers of a staking token. Rewards arrive
either from the notifier or, when the pool is its own notifier, from a manager
that is asked on every call. They are spread over the total stake through the
accumulator `rewardPerTokenStored`; what rounding keeps back is queued.

Every function takes the storage and returns the new one, or reverts. Events are
left out, since no function reads them.
-/

/-- What the reward source answers during one call: whether its `paused()` and
`isFluxSwapTreasury()` probes answer `true`, whether a treasury lets the pool
pull, and the amount a manager pays out (or the text it reverts with). -/
structure RewardSource where
  paused     : Bool
  isTreasury : Bool
  pull       : Except String Unit
  claim      : Except String Nat

/-- Storage of a pool, with the ledger of the tokens it deals with. -/
structure StakingRewards where
  self                   : Address
  stakingToken           : Address
  rewardsToken           : Address
  owner                  : Address
  rewardSource           : Address
  rewardNotifier         : Address
  rewardPerTokenStored   : Nat
  totalStaked            : Nat
  rewardReserve          : Nat
  queuedRewards          : Nat
  pendingUserRewards     : Nat
  unlocked               : Nat
  balanceOf              : Address → Nat
  userRewardPerTokenPaid : Address → Nat
  rewards                : Address → Nat
  tokens                 : Tokens

namespace StakingRewards

open Exec

def precision : Nat := 10 ^ 18

/-! ## Reward accounting -/

/-- `_applyRewardAmount`: spread `reward` and the queue over the total stake.
    Returns the amount that now belongs to the stakers. -/
def applyRewardAmount (s : StakingRewards) (reward : Nat) : Exec (StakingRewards × Nat) := do
  let distributable ← Uint256.add reward s.queuedRewards
  if distributable = 0 ∨ s.totalStaked = 0 then
    pure ({ s with queuedRewards := distributable }, 0)
  else do
    let scaled ← Uint256.mul distributable precision
    let increment := scaled / s.totalStaked
    if increment = 0 then
      pure ({ s with queuedRewards := distributable }, 0)
    else do
      let updated ← Uint256.add s.rewardPerTokenStored increment
      let after ← Uint256.mul updated s.totalStaked
      let before ← Uint256.mul s.rewardPerTokenStored s.totalStaked
      let accounted ← Uint256.sub (after / precision) (before / precision)
      let queued ← Uint256.sub distributable accounted
      pure ({ s with rewardPerTokenStored := updated, queuedRewards := queued }, accounted)

/-- `_flushQueuedRewards`. -/
def flushQueuedRewards (s : StakingRewards) : Exec StakingRewards :=
  if 0 < s.queuedRewards ∧ 0 < s.totalStaked then do
    let (s, _) ← s.applyRewardAmount 0
    pure s
  else pure s

/-- The first half of `_updateReward`: book an accrued amount, unless it is zero. -/
def bookAccrued (s : StakingRewards) (account : Address) (accrued : Nat) : Exec StakingRewards :=
  if 0 < accrued then do
    let mine ← Uint256.add (s.rewards account) accrued
    let pending ← Uint256.add s.pendingUserRewards accrued
    pure { s with
      rewards := Function.update s.rewards account mine
      pendingUserRewards := pending }
  else pure s

/-- `_updateReward`: book what the account has accrued, move its snapshot, and
    cap the queue at what is not owed yet. -/
def updateReward (s : StakingRewards) (account : Address) : Exec StakingRewards :=
  if account ≠ Address.zero then do
    let span ← Uint256.sub s.rewardPerTokenStored (s.userRewardPerTokenPaid account)
    let scaled ← Uint256.mul (s.balanceOf account) span
    let s ← s.bookAccrued account (scaled / precision)
    let s := { s with
      userRewardPerTokenPaid :=
        Function.update s.userRewardPerTokenPaid account s.rewardPerTokenStored }
    let unallocated ← Uint256.sub s.rewardReserve s.pendingUserRewards
    if unallocated < s.queuedRewards then pure { s with queuedRewards := unallocated }
    else pure s
  else pure s

/-- The manager's `claimPoolRewards`: it transfers exactly what it returns. -/
def claimPoolRewards (s : StakingRewards) (src : RewardSource) : Exec (StakingRewards × Nat) :=
  match src.claim with
  | .error text => .error (.message text)
  | .ok reward => do
    let tokens ← TransferHelper.safeTransfer s.tokens s.rewardsToken s.rewardSource s.self reward
    pure ({ s with tokens := tokens }, reward)

/-- `_syncRewards`: when the pool is its own notifier, ask the manager. -/
def syncRewardsFrom (s : StakingRewards) (src : RewardSource) : Exec (StakingRewards × Nat) :=
  if s.rewardNotifier ≠ s.self then pure (s, 0)
  else do
    let (s, reward) ← s.claimPoolRewards src
    if reward = 0 then pure (s, 0)
    else do
      let reserve ← Uint256.add s.rewardReserve reward
      let (s, _) ← applyRewardAmount { s with rewardReserve := reserve } reward
      pure (s, reward)

/-- `_payReward`. -/
def payReward (s : StakingRewards) (account : Address) : Exec StakingRewards :=
  if 0 < s.rewards account then do
    let reserve ← Uint256.sub s.rewardReserve (s.rewards account)
    let pending ← Uint256.sub s.pendingUserRewards (s.rewards account)
    let tokens ←
      TransferHelper.safeTransfer s.tokens s.rewardsToken s.self account (s.rewards account)
    pure { s with
      rewards := Function.update s.rewards account 0
      rewardReserve := reserve
      pendingUserRewards := pending
      tokens := tokens }
  else pure s

/-- The view `earned`. -/
def earned (s : StakingRewards) (account : Address) : Exec Nat := do
  let span ← Uint256.sub s.rewardPerTokenStored (s.userRewardPerTokenPaid account)
  let scaled ← Uint256.mul (s.balanceOf account) span
  Uint256.add (scaled / precision) (s.rewards account)

/-! ## Entry points -/

/-- The modifier `lock`. -/
def lock (body : StakingRewards → Exec StakingRewards) (s : StakingRewards) :
    Exec StakingRewards := do
  require (s.unlocked = 1) "FluxSwapStakingRewards: LOCKED"
  let s ← body { s with unlocked := 0 }
  pure { s with unlocked := 1 }

/-- What `stake`, `withdraw` and `exit` do first for their caller. -/
def settle (src : RewardSource) (sender : Address) (s : StakingRewards) : Exec StakingRewards := do
  let (s, _) ← s.syncRewardsFrom src
  let s ← s.flushQueuedRewards
  s.updateReward sender

def stake (src : RewardSource) (sender : Address) (amount : Nat) :
    StakingRewards → Exec StakingRewards :=
  lock fun s => do
    let previousTotalStaked := s.totalStaked
    let s ← s.settle src sender
    require (0 < amount) "FluxSwapStakingRewards: ZERO_AMOUNT"
    let total ← Uint256.add s.totalStaked amount
    let mine ← Uint256.add (s.balanceOf sender) amount
    let tokens ←
      TransferHelper.safeTransferFrom s.tokens s.stakingToken s.self sender s.self amount
    let s := { s with
      totalStaked := total
      balanceOf := Function.update s.balanceOf sender mine
      tokens := tokens }
    if previousTotalStaked = 0 then s.flushQueuedRewards else pure s

def withdraw (src : RewardSource) (sender : Address) (amount : Nat) :
    StakingRewards → Exec StakingRewards :=
  lock fun s => do
    let s ← s.settle src sender
    require (0 < amount) "FluxSwapStakingRewards: ZERO_AMOUNT"
    require (amount ≤ s.balanceOf sender) "FluxSwapStakingRewards: INSUFFICIENT_BALANCE"
    let total ← Uint256.sub s.totalStaked amount
    let mine ← Uint256.sub (s.balanceOf sender) amount
    let tokens ← TransferHelper.safeTransfer s.tokens s.stakingToken s.self sender amount
    pure { s with
      totalStaked := total
      balanceOf := Function.update s.balanceOf sender mine
      tokens := tokens }

def getReward (src : RewardSource) (sender : Address) : StakingRewards → Exec StakingRewards :=
  lock fun s => do
    let (s, _) ← s.syncRewardsFrom src
    let s ← s.updateReward sender
    s.payReward sender

/-- The first half of `exit`: return the whole stake, unless it is zero. -/
def releaseStake (s : StakingRewards) (sender : Address) : Exec StakingRewards :=
  if 0 < s.balanceOf sender then do
    let total ← Uint256.sub s.totalStaked (s.balanceOf sender)
    let tokens ←
      TransferHelper.safeTransfer s.tokens s.stakingToken s.self sender (s.balanceOf sender)
    pure { s with
      totalStaked := total
      balanceOf := Function.update s.balanceOf sender 0
      tokens := tokens }
  else pure s

def exit (src : RewardSource) (sender : Address) : StakingRewards → Exec StakingRewards :=
  lock fun s => do
    let s ← s.settle src sender
    let s ← s.releaseStake sender
    s.payReward sender

/-- How `notifyRewardAmount` gets its reward: a treasury is asked to pay, any other
    source has approved the pool. -/
def pullReward (s : StakingRewards) (src : RewardSource) (reward : Nat) : Exec Tokens :=
  if src.isTreasury then
    match src.pull with
    | .error text => .error (.message text)
    | .ok () => TransferHelper.safeTransfer s.tokens s.rewardsToken s.rewardSource s.self reward
  else
    TransferHelper.safeTransferFrom s.tokens s.rewardsToken s.self s.rewardSource s.self reward

def notifyRewardAmount (src : RewardSource) (sender : Address) (reward : Nat) :
    StakingRewards → Exec StakingRewards :=
  lock fun s => do
    require (sender = s.rewardNotifier) "FluxSwapStakingRewards: FORBIDDEN"
    require (0 < reward) "FluxSwapStakingRewards: ZERO_AMOUNT"
    require (src.paused = false) "FluxSwapStakingRewards: REWARD_SOURCE_PAUSED"
    let tokens ← s.pullReward src reward
    let reserve ← Uint256.add s.rewardReserve reward
    let (s, _) ← applyRewardAmount { s with tokens := tokens, rewardReserve := reserve } reward
    pure s

def syncRewards (src : RewardSource) : StakingRewards → Exec StakingRewards :=
  lock fun s => do
    let (s, _) ← s.syncRewardsFrom src
    pure s

def recoverUnallocatedRewards (src : RewardSource) (sender dst : Address) :
    StakingRewards → Exec StakingRewards :=
  lock fun s => do
    require (sender = s.owner) "FluxSwapStakingRewards: FORBIDDEN"
    require (dst ≠ Address.zero) "FluxSwapStakingRewards: ZERO_ADDRESS"
    let (s, _) ← s.syncRewardsFrom src
    require (s.totalStaked = 0) "FluxSwapStakingRewards: ACTIVE_STAKERS"
    let amount ← Uint256.sub s.rewardReserve s.pendingUserRewards
    require (0 < amount) "FluxSwapStakingRewards: NO_UNALLOCATED_REWARDS"
    let reserve ← Uint256.sub s.rewardReserve amount
    let tokens ← TransferHelper.safeTransfer s.tokens s.rewardsToken s.self dst amount
    pure { s with queuedRewards := 0, rewardReserve := reserve, tokens := tokens }

def transferOwnership (sender newOwner : Address) (s : StakingRewards) : Exec StakingRewards := do
  require (sender = s.owner) "FluxSwapStakingRewards: FORBIDDEN"
  require (newOwner ≠ Address.zero) "FluxSwapStakingRewards: ZERO_ADDRESS"
  pure { s with owner := newOwner }

def setRewardSource (sender newRewardSource : Address) (s : StakingRewards) :
    Exec StakingRewards := do
  require (sender = s.owner) "FluxSwapStakingRewards: FORBIDDEN"
  require (newRewardSource ≠ Address.zero) "FluxSwapStakingRewards: ZERO_ADDRESS"
  require (s.rewardNotifier ≠ s.self) "FluxSwapStakingRewards: USE_REWARD_CONFIGURATION"
  pure { s with rewardSource := newRewardSource }

def setRewardNotifier (sender newRewardNotifier : Address) (s : StakingRewards) :
    Exec StakingRewards := do
  require (sender = s.owner) "FluxSwapStakingRewards: FORBIDDEN"
  require (newRewardNotifier ≠ Address.zero) "FluxSwapStakingRewards: ZERO_ADDRESS"
  require (s.rewardNotifier ≠ s.self) "FluxSwapStakingRewards: USE_REWARD_CONFIGURATION"
  require (newRewardNotifier ≠ s.self) "FluxSwapStakingRewards: USE_REWARD_CONFIGURATION"
  pure { s with rewardNotifier := newRewardNotifier }

def setRewardConfiguration (sender newRewardSource newRewardNotifier : Address)
    (s : StakingRewards) : Exec StakingRewards := do
  require (sender = s.owner) "FluxSwapStakingRewards: FORBIDDEN"
  require (newRewardSource ≠ Address.zero) "FluxSwapStakingRewards: ZERO_ADDRESS"
  require (newRewardNotifier ≠ Address.zero) "FluxSwapStakingRewards: ZERO_ADDRESS"
  pure { s with rewardSource := newRewardSource, rewardNotifier := newRewardNotifier }

/-! ## Runs -/

/-- The transactions that concern a pool: its entry points, and token transfers
    and approvals of other accounts. -/
inductive Op
  | stake (src : RewardSource) (sender : Sender) (amount : Nat)
  | withdraw (src : RewardSource) (sender : Sender) (amount : Nat)
  | getReward (src : RewardSource) (sender : Sender)
  | exit (src : RewardSource) (sender : Sender)
  | notifyRewardAmount (src : RewardSource) (sender : Sender) (reward : Nat)
  | syncRewards (src : RewardSource)
  | recoverUnallocatedRewards (src : RewardSource) (sender : Sender) (dst : Address)
  | transferOwnership (sender : Sender) (newOwner : Address)
  | setRewardSource (sender : Sender) (newRewardSource : Address)
  | setRewardNotifier (sender : Sender) (newRewardNotifier : Address)
  | setRewardConfiguration (sender : Sender) (newRewardSource newRewardNotifier : Address)
  | tokenTransfer (sender : Sender) (token dst : Address) (amount : Nat)
  | tokenApprove (sender : Sender) (token spender : Address) (amount : Nat)

def exec (s : StakingRewards) : Op → Exec StakingRewards
  | .stake src sender amount => s.stake src sender amount
  | .withdraw src sender amount => s.withdraw src sender amount
  | .getReward src sender => s.getReward src sender
  | .exit src sender => s.exit src sender
  | .notifyRewardAmount src sender reward => s.notifyRewardAmount src sender reward
  | .syncRewards src => s.syncRewards src
  | .recoverUnallocatedRewards src sender dst => s.recoverUnallocatedRewards src sender dst
  | .transferOwnership sender newOwner => s.transferOwnership sender newOwner
  | .setRewardSource sender newRewardSource => s.setRewardSource sender newRewardSource
  | .setRewardNotifier sender newRewardNotifier => s.setRewardNotifier sender newRewardNotifier
  | .setRewardConfiguration sender newRewardSource newRewardNotifier =>
    s.setRewardConfiguration sender newRewardSource newRewardNotifier
  -- The pool transfers and approves only through the entry points above.
  | .tokenTransfer sender token dst amount => do
    require (sender.1 ≠ s.self) "sender is the pool"
    let tokens ← TransferHelper.safeTransfer s.tokens token sender dst amount
    pure { s with tokens := tokens }
  | .tokenApprove sender token spender amount => do
    require (sender.1 ≠ s.self) "sender is the pool"
    pure { s with tokens := s.tokens.approve token sender spender amount }

/-- A pool right after its constructor: any configuration, nothing staked and no
    reward seen. -/
structure Initial (s : StakingRewards) : Prop where
  rewardPerTokenStored : s.rewardPerTokenStored = 0
  totalStaked : s.totalStaked = 0
  rewardReserve : s.rewardReserve = 0
  queuedRewards : s.queuedRewards = 0
  pendingUserRewards : s.pendingUserRewards = 0
  unlocked : s.unlocked = 1
  balanceOf : s.balanceOf = fun _ => 0
  userRewardPerTokenPaid : s.userRewardPerTokenPaid = fun _ => 0
  rewards : s.rewards = fun _ => 0

/-- All runs of a pool. -/
def system : System StakingRewards Op := .ofCalls Initial exec

end StakingRewards
