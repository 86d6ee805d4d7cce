-- SUMMARY: The revenue distributor FluxRevenueDistributor: every entry point.
import FluxSwap.Access.Model

/-!
# FluxRevenueDistributor

The distributor has the buyback executor swap a share of the revenue, has the treasury burn
a share of what was bought, and has the manager distribute the rest. What its calls do to
the rest of the chain is a parameter. After its checks it writes nothing to its own storage,
so whatever enters it while its calls run is a further call of the run. Events are left out.
-/

open Exec

/-- The contracts around a distributor. Every call names the account that makes it. -/
structure RevenueSurroundings (ω : Type) where
  rewardToken : (manager : Address) → ω → Exec Address
  managerTreasury : (manager : Address) → ω → Exec Address
  buyToken : (executor : Address) → ω → Exec Address
  executorTreasury : (executor : Address) → ω → Exec Address
  executeBuyback : (executor sender spendToken : Address) → (amountIn amountOutMin : Nat) →
    List Address → (recipient : Address) → (deadline : Nat) → ω → Exec (ω × Nat)
  burnApprovedToken : (treasury sender token : Address) → Nat → ω → Exec ω
  distributeRewards : (manager sender : Address) → Nat → ω → Exec ω
  transfer : (token src dst : Address) → Nat → ω → Exec ω

/-- Storage of a distributor. -/
structure RevenueDistributor where
  self            : Address
  rewardToken     : Address
  access          : Access
  buybackExecutor : Address
  manager         : Address
  buybackBps      : Nat
  burnBps         : Nat
  paused          : Bool

namespace RevenueDistributor

def BPS_BASE : Nat := 10000

def contract : String := "FluxRevenueDistributor"

variable [Ownable] [AccessControl Role]

/-- The entry points for owner, operator and roles. -/
def administer (op : Access.Op) (x : RevenueDistributor) : Exec RevenueDistributor := do
  let access ← x.access.exec contract op
  pure { x with access := access }

def setRevenueConfiguration (sender : Address) (newBuybackBps newBurnBps : Nat)
    (x : RevenueDistributor) : Exec RevenueDistributor := do
  x.access.onlyOwner sender
  require (0 < newBuybackBps ∧ newBuybackBps ≤ BPS_BASE) "FluxRevenueDistributor: INVALID_BPS"
  require (newBurnBps ≤ BPS_BASE) "FluxRevenueDistributor: INVALID_BPS"
  pure { x with buybackBps := newBuybackBps, burnBps := newBurnBps }

def pause (sender : Address) (x : RevenueDistributor) : Exec RevenueDistributor := do
  require (x.access.hasRole .pauser sender) "FluxRevenueDistributor: FORBIDDEN"
  require (x.paused = false) "FluxRevenueDistributor: PAUSED"
  pure { x with paused := true }

def unpause (sender : Address) (x : RevenueDistributor) : Exec RevenueDistributor := do
  require (x.access.hasRole .pauser sender) "FluxRevenueDistributor: FORBIDDEN"
  require (x.paused = true) "FluxRevenueDistributor: NOT_PAUSED"
  pure { x with paused := false }

section Calls

variable {ω : Type} (env : RevenueSurroundings ω)

def setBuybackExecutor (sender newBuybackExecutor : Address) (x : RevenueDistributor) (w : ω) :
    Exec RevenueDistributor := do
  x.access.onlyOwner sender
  require (newBuybackExecutor ≠ Address.zero) "FluxRevenueDistributor: ZERO_ADDRESS"
  require (newBuybackExecutor ≠ x.buybackExecutor) "FluxRevenueDistributor: SAME_EXECUTOR"
  let buyToken ← env.buyToken newBuybackExecutor w
  require (buyToken = x.rewardToken) "FluxRevenueDistributor: INVALID_REWARD_TOKEN"
  let ofExecutor ← env.executorTreasury newBuybackExecutor w
  let ofManager ← env.managerTreasury x.manager w
  require (ofExecutor = ofManager) "FluxRevenueDistributor: TREASURY_MISMATCH"
  pure { x with buybackExecutor := newBuybackExecutor }

def setManager (sender newManager : Address) (x : RevenueDistributor) (w : ω) :
    Exec RevenueDistributor := do
  x.access.onlyOwner sender
  require (newManager ≠ Address.zero) "FluxRevenueDistributor: ZERO_ADDRESS"
  require (newManager ≠ x.manager) "FluxRevenueDistributor: SAME_MANAGER"
  let rewardToken ← env.rewardToken newManager w
  require (rewardToken = x.rewardToken) "FluxRevenueDistributor: INVALID_REWARD_TOKEN"
  let ofManager ← env.managerTreasury newManager w
  let ofExecutor ← env.executorTreasury x.buybackExecutor w
  require (ofManager = ofExecutor) "FluxRevenueDistributor: TREASURY_MISMATCH"
  pure { x with manager := newManager }

/-- `_requireTreasuryMatch`. -/
def requireTreasuryMatch (x : RevenueDistributor) (w : ω) : Exec Address := do
  let treasury ← env.managerTreasury x.manager w
  let ofExecutor ← env.executorTreasury x.buybackExecutor w
  require (ofExecutor = treasury) "FluxRevenueDistributor: TREASURY_MISMATCH"
  pure treasury

/-- A payment that is left out when it is zero. -/
def ifPositive (amount : Nat) (pay : ω → Exec ω) (w : ω) : Exec ω :=
  if 0 < amount then pay w else pure w

/-- What `executeBuybackAndDistribute` does with the bought tokens: the burned amount and the
    distributed one. -/
def burnAndDistribute (treasury : Address) (amountOut : Nat) (x : RevenueDistributor) (w : ω) :
    Exec (ω × Nat × Nat) := do
  let scaled ← Uint256.mul amountOut x.burnBps
  let burnedAmount := scaled / BPS_BASE
  let w ← ifPositive burnedAmount (env.burnApprovedToken treasury x.self x.rewardToken burnedAmount)
    w
  let distributedAmount ← Uint256.sub amountOut burnedAmount
  let w ← ifPositive distributedAmount (env.distributeRewards x.manager x.self distributedAmount) w
  pure (w, burnedAmount, distributedAmount)

def executeBuybackAndDistribute (sender spendToken : Address) (revenueAmount amountOutMin : Nat)
    (path : List Address) (deadline : Nat) (x : RevenueDistributor) (w : ω) : Exec (ω × Nat) := do
  x.access.onlyOperatorOrOwner contract sender
  require (x.paused = false) "FluxRevenueDistributor: PAUSED"
  require (spendToken ≠ Address.zero) "FluxRevenueDistributor: ZERO_ADDRESS"
  require (0 < revenueAmount) "FluxRevenueDistributor: ZERO_AMOUNT"
  require (2 ≤ path.length) "FluxRevenueDistributor: INVALID_PATH"
  let input ← first path
  require (input = spendToken) "FluxRevenueDistributor: INVALID_PATH"
  let output ← last path
  require (output = x.rewardToken) "FluxRevenueDistributor: INVALID_PATH"
  let treasury ← x.requireTreasuryMatch env w
  let scaled ← Uint256.mul revenueAmount x.buybackBps
  let buybackAmountIn := scaled / BPS_BASE
  require (0 < buybackAmountIn) "FluxRevenueDistributor: BUYBACK_TOO_SMALL"
  let (w, amountOut) ← env.executeBuyback x.buybackExecutor x.self spendToken buybackAmountIn
    amountOutMin path Address.zero deadline w
  let (w, _, _) ← x.burnAndDistribute env treasury amountOut w
  pure (w, amountOut)

def distributeTreasuryRewards (sender : Address) (amount : Nat) (x : RevenueDistributor) (w : ω) :
    Exec ω := do
  x.access.onlyOperatorOrOwner contract sender
  require (x.paused = false) "FluxRevenueDistributor: PAUSED"
  require (0 < amount) "FluxRevenueDistributor: ZERO_AMOUNT"
  let _ ← x.requireTreasuryMatch env w
  env.distributeRewards x.manager x.self amount w

def recoverToken (sender token dst : Address) (amount : Nat) (x : RevenueDistributor) (w : ω) :
    Exec ω := do
  x.access.onlyOwner sender
  require (token ≠ Address.zero) "FluxRevenueDistributor: ZERO_ADDRESS"
  require (dst ≠ Address.zero) "FluxRevenueDistributor: ZERO_ADDRESS"
  env.transfer token x.self dst amount w

/-- The calls of a distributor, and whatever happens elsewhere. -/
inductive Op (ω : Type)
  | administer (op : Access.Op)
  | setBuybackExecutor (sender newBuybackExecutor : Address)
  | setManager (sender newManager : Address)
  | setRevenueConfiguration (sender : Address) (newBuybackBps newBurnBps : Nat)
  | pause (sender : Address)
  | unpause (sender : Address)
  | executeBuybackAndDistribute (sender spendToken : Address) (revenueAmount amountOutMin : Nat)
      (path : List Address) (deadline : Nat)
  | distributeTreasuryRewards (sender : Address) (amount : Nat)
  | recoverToken (sender token dst : Address) (amount : Nat)
  | others (w : ω)

def exec (s : RevenueDistributor × ω) : Op ω → Exec (RevenueDistributor × ω)
  | .administer op => do
    let x ← s.1.administer op
    pure (x, s.2)
  | .setBuybackExecutor sender newBuybackExecutor => do
    let x ← s.1.setBuybackExecutor env sender newBuybackExecutor s.2
    pure (x, s.2)
  | .setManager sender newManager => do
    let x ← s.1.setManager env sender newManager s.2
    pure (x, s.2)
  | .setRevenueConfiguration sender newBuybackBps newBurnBps => do
    let x ← s.1.setRevenueConfiguration sender newBuybackBps newBurnBps
    pure (x, s.2)
  | .pause sender => do
    let x ← s.1.pause sender
    pure (x, s.2)
  | .unpause sender => do
    let x ← s.1.unpause sender
    pure (x, s.2)
  | .executeBuybackAndDistribute sender spendToken revenueAmount amountOutMin path deadline => do
    let (w, _) ← s.1.executeBuybackAndDistribute env sender spendToken revenueAmount amountOutMin
      path deadline s.2
    pure (s.1, w)
  | .distributeTreasuryRewards sender amount => do
    let w ← s.1.distributeTreasuryRewards env sender amount s.2
    pure (s.1, w)
  | .recoverToken sender token dst amount => do
    let w ← s.1.recoverToken env sender token dst amount s.2
    pure (s.1, w)
  | .others w => pure (s.1, w)

/-- After the constructor. -/
structure Deployed (s : RevenueDistributor × ω) : Prop where
  access : s.1.access.Deployed contract
  buybackExecutor : s.1.buybackExecutor ≠ Address.zero
  manager : s.1.manager ≠ Address.zero
  buybackBps : 0 < s.1.buybackBps ∧ s.1.buybackBps ≤ BPS_BASE
  burnBps : s.1.burnBps ≤ BPS_BASE
  rewardToken : env.rewardToken s.1.manager s.2 = .ok s.1.rewardToken
  rewardToken_ne : s.1.rewardToken ≠ Address.zero
  buyToken : env.buyToken s.1.buybackExecutor s.2 = .ok s.1.rewardToken
  treasury : env.executorTreasury s.1.buybackExecutor s.2 = env.managerTreasury s.1.manager s.2
  paused : s.1.paused = false

/-- All runs of a distributor. -/
def system : System (RevenueDistributor × ω) (Op ω) := .ofCalls (Deployed env) (exec env)

end Calls

end RevenueDistributor
