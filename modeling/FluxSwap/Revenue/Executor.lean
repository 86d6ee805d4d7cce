-- SUMMARY: The buyback executor FluxBuybackExecutor: every entry point.
import FluxSwap.Access.Model

/-!
# FluxBuybackExecutor

The executor pulls an approved asset from the treasury, has the router swap it, and lets the
proceeds go to the treasury only. What its calls do to the rest of the chain is a parameter.
`executeBuyback` writes nothing to the executor's storage, so whatever enters the executor
while its calls run is a further call of the run. Events are left out.
-/

open Exec

/-- The contracts around an executor. Every call names the account that makes it; an approval
that fails is `none`. -/
structure BuybackSurroundings (ω : Type) where
  paused : (source : Address) → ω → Bool
  pullApprovedToken : (treasury sender token : Address) → Nat → ω → Exec ω
  approve : (token owner spender : Address) → Nat → ω → Option ω
  swapExactTokensForTokens : (router sender : Address) → (amountIn amountOutMin : Nat) →
    List Address → Address → (deadline : Nat) → ω → Exec (ω × List Nat)
  transfer : (token src dst : Address) → Nat → ω → Exec ω

/-- Storage of an executor. -/
structure BuybackExecutor where
  self             : Address
  router           : Address
  buyToken         : Address
  access           : Access
  treasury         : Address
  defaultRecipient : Address
  paused           : Bool

namespace BuybackExecutor

def contract : String := "FluxBuybackExecutor"

variable [Ownable] [AccessControl Role]

/-- The entry points for owner, operator and roles. -/
def administer (op : Access.Op) (x : BuybackExecutor) : Exec BuybackExecutor := do
  let access ← x.access.exec contract op
  pure { x with access := access }

def setTreasury (sender newTreasury : Address) (x : BuybackExecutor) : Exec BuybackExecutor := do
  x.access.onlyOwner sender
  require (newTreasury ≠ Address.zero) "FluxBuybackExecutor: ZERO_ADDRESS"
  pure { x with treasury := newTreasury, defaultRecipient := newTreasury }

def setDefaultRecipient (sender newDefaultRecipient : Address) (x : BuybackExecutor) :
    Exec BuybackExecutor := do
  x.access.onlyOwner sender
  require (newDefaultRecipient ≠ Address.zero) "FluxBuybackExecutor: ZERO_ADDRESS"
  require (newDefaultRecipient = x.treasury) "FluxBuybackExecutor: INVALID_RECIPIENT"
  pure { x with defaultRecipient := newDefaultRecipient }

def pause (sender : Address) (x : BuybackExecutor) : Exec BuybackExecutor := do
  require (x.access.hasRole .pauser sender) "FluxBuybackExecutor: FORBIDDEN"
  require (x.paused = false) "FluxBuybackExecutor: PAUSED"
  pure { x with paused := true }

def unpause (sender : Address) (x : BuybackExecutor) : Exec BuybackExecutor := do
  require (x.access.hasRole .pauser sender) "FluxBuybackExecutor: FORBIDDEN"
  require (x.paused = true) "FluxBuybackExecutor: NOT_PAUSED"
  pure { x with paused := false }

section Calls

variable {ω : Type} (env : BuybackSurroundings ω)

/-- `_safeApprove`. -/
def safeApprove (x : BuybackExecutor) (token spender : Address) (amount : Nat) (w : ω) : Exec ω :=
  match env.approve token x.self spender amount w with
  | some w => .ok w
  | none => .error (.message "FluxBuybackExecutor: APPROVE_FAILED")

/-- Where the proceeds go. -/
def finalRecipient (x : BuybackExecutor) (recipient : Address) : Address :=
  if recipient = Address.zero then x.defaultRecipient else recipient

def executeBuyback (sender spendToken : Address) (amountIn amountOutMin : Nat)
    (path : List Address) (recipient : Address) (deadline : Nat) (x : BuybackExecutor) (w : ω) :
    Exec (ω × Nat) := do
  x.access.onlyOperatorOrOwner contract sender
  require (x.paused = false) "FluxBuybackExecutor: PAUSED"
  require (spendToken ≠ Address.zero) "FluxBuybackExecutor: ZERO_ADDRESS"
  require (0 < amountIn) "FluxBuybackExecutor: ZERO_AMOUNT"
  require (2 ≤ path.length) "FluxBuybackExecutor: INVALID_PATH"
  let input ← first path
  require (input = spendToken) "FluxBuybackExecutor: INVALID_PATH"
  let output ← last path
  require (output = x.buyToken) "FluxBuybackExecutor: INVALID_PATH"
  require (x.finalRecipient recipient = x.treasury) "InvalidRecipient"
  require (env.paused x.treasury w = false) "FluxBuybackExecutor: TREASURY_PAUSED"
  let w ← env.pullApprovedToken x.treasury x.self spendToken amountIn w
  let w ← x.safeApprove env spendToken x.router 0 w
  let w ← x.safeApprove env spendToken x.router amountIn w
  let (w, amounts) ← env.swapExactTokensForTokens x.router x.self amountIn amountOutMin path
    (x.finalRecipient recipient) deadline w
  let w ← x.safeApprove env spendToken x.router 0 w
  let amountOut ← last amounts
  pure (w, amountOut)

def recoverToken (sender token dst : Address) (amount : Nat) (x : BuybackExecutor) (w : ω) :
    Exec ω := do
  x.access.onlyOwner sender
  require (token ≠ Address.zero) "FluxBuybackExecutor: ZERO_ADDRESS"
  require (dst ≠ Address.zero) "FluxBuybackExecutor: ZERO_ADDRESS"
  env.transfer token x.self dst amount w

/-- The calls of an executor, and whatever happens elsewhere. -/
inductive Op (ω : Type)
  | administer (op : Access.Op)
  | setTreasury (sender newTreasury : Address)
  | setDefaultRecipient (sender newDefaultRecipient : Address)
  | pause (sender : Address)
  | unpause (sender : Address)
  | executeBuyback (sender spendToken : Address) (amountIn amountOutMin : Nat)
      (path : List Address) (recipient : Address) (deadline : Nat)
  | recoverToken (sender token dst : Address) (amount : Nat)
  | others (w : ω)

def exec (s : BuybackExecutor × ω) : Op ω → Exec (BuybackExecutor × ω)
  | .administer op => do
    let x ← s.1.administer op
    pure (x, s.2)
  | .setTreasury sender newTreasury => do
    let x ← s.1.setTreasury sender newTreasury
    pure (x, s.2)
  | .setDefaultRecipient sender newDefaultRecipient => do
    let x ← s.1.setDefaultRecipient sender newDefaultRecipient
    pure (x, s.2)
  | .pause sender => do
    let x ← s.1.pause sender
    pure (x, s.2)
  | .unpause sender => do
    let x ← s.1.unpause sender
    pure (x, s.2)
  | .executeBuyback sender spendToken amountIn amountOutMin path recipient deadline => do
    let (w, _) ← s.1.executeBuyback env sender spendToken amountIn amountOutMin path recipient
      deadline s.2
    pure (s.1, w)
  | .recoverToken sender token dst amount => do
    let w ← s.1.recoverToken env sender token dst amount s.2
    pure (s.1, w)
  | .others w => pure (s.1, w)

/-- After the constructor. -/
structure Deployed (x : BuybackExecutor) : Prop where
  access : x.access.Deployed contract
  treasury : x.treasury ≠ Address.zero
  router : x.router ≠ Address.zero
  buyToken : x.buyToken ≠ Address.zero
  defaultRecipient : x.defaultRecipient = x.treasury
  paused : x.paused = false

/-- All runs of an executor. -/
def system : System (BuybackExecutor × ω) (Op ω) := .ofCalls (fun s => Deployed s.1) (exec env)

end Calls

end BuybackExecutor
