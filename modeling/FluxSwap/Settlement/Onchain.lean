-- SUMMARY: The settlement on a chain with the repository's router and pairs, standard tokens and WETH; what each of its calls does there.
import FluxSwap.Amm.ExactInput
import FluxSwap.Settlement.Nonces

/-!
# The settlement on its chain

The deployment in which the world is the chain of the exchange. The router, the pairs
and the tokens are those of the model; WETH turns ETH that it is sent into a deposit;
what other accounts do when they are sent ETH is a parameter.
-/

open Exec

namespace FluxSignedOrderSettlement

/-- Where a settlement is deployed, what it inherits, and the code of the accounts that it
    may pay. -/
structure Site where
  self            : Address
  router          : Address
  WETH            : Address
  chainid         : Nat
  ownable         : Ownable
  reentrancyGuard : ReentrancyGuard
  math            : OZMath
  keccak256       : Bytes → Bytes32
  recover         : Bytes32 → Bytes → Exec Address
  decimals        : Address → Nat
  receivers       : Receivers

namespace Site

variable (k : Site)

/-- The code that runs when an account is sent ETH. -/
def receiveETH : Receivers := fun sender receiver value c =>
  if receiver = k.WETH then pure (Weth.deposit k.WETH sender value c)
  else if receiver = k.router then do
    FluxSwapRouter.receive k.WETH sender
    pure c
  else if receiver = k.self then do
    require (sender = k.router ∨ sender = k.WETH)
      "FluxSignedOrderSettlement: INVALID_NATIVE_SENDER"
    pure c
  else k.receivers sender receiver value c

/-- A token call that the caller sees as a failure. -/
def orFail (result : Option Chain) : Exec Chain :=
  match result with
  | some c => .ok c
  | none => .error (.message "call failed")

/-- The calls of the settlement, run on the chain. -/
def run (c : Chain) : Call → Exec Chain
  | .transferFrom token src dst value => orFail (c.transferFrom token k.self src dst value)
  | .approve token spender value => c.approve token k.self spender value
  | .transfer token dst value => orFail (c.transfer token k.self dst value)
  | .swapExactTokensForTokens amountIn amountOutMin path dst deadline => do
    let (c, _) ← FluxSwapRouter.swapExactTokensForTokens k.router k.self amountIn amountOutMin path
      dst deadline c
    pure c
  | .swapExactTokensForETH amountIn amountOutMin path dst deadline => do
    let (c, _) ← FluxSwapRouter.swapExactTokensForETH k.receiveETH k.router k.WETH k.self amountIn
      amountOutMin path dst deadline c
    pure c
  | .sendETH dst value => c.sendETH k.receiveETH k.self dst value

def deployment : Deployment Chain where
  self := k.self
  router := k.router
  WETH := k.WETH
  chainid := k.chainid
  ownable := k.ownable
  reentrancyGuard := k.reentrancyGuard
  math := k.math
  keccak256 := k.keccak256
  recover := k.recover
  timestamp c := c.timestamp
  getPair s tokenA tokenB := .ok (s.world.getPair tokenA tokenB)
  getAmountsOut s amountIn path := FluxSwapRouter.getAmountsOut s.world amountIn path
  decimals _ token := .ok (k.decimals token)
  balanceOf s token account := .ok (s.world.tokens.balanceOf token account)
  allowance s token owner spender := .ok (s.world.tokens.allowance token owner spender)
  call call s := do
    let c ← k.run s.world call
    pure { s with world := c }

@[simp] theorem deployment_self : k.deployment.self = k.self := rfl

@[simp] theorem deployment_router : k.deployment.router = k.router := rfl

@[simp] theorem deployment_WETH : k.deployment.WETH = k.WETH := rfl

variable {k}

theorem orFail_eq_ok {result : Option Chain} {c : Chain} :
    orFail result = .ok c ↔ result = some c := by
  cases result with
  | none => simp [orFail]
  | some c' => simp [orFail]

theorem call_eq_ok {call : Call} {s s' : State Chain} :
    k.deployment.call call s = .ok s' ↔
      ∃ c, k.run s.world call = .ok c ∧ s' = { s with world := c } := by
  simp only [deployment, bind_eq_ok, pure_eq_ok]
  exact exists_congr fun c => and_congr_right fun _ => eq_comm

/-- On this chain nobody the settlement calls enters it again. -/
theorem ownStorage (k : Site) : OwnStorage k.deployment := by
  intro call s s' h
  obtain ⟨c, -, rfl⟩ := call_eq_ok.mp h
  exact .world c (.done _)

theorem callOrRevert_eq_ok {call : Call} {text : String} {s s' : State Chain} :
    callOrRevert k.deployment call text s = .ok s' ↔
      ∃ c, k.run s.world call = .ok c ∧ s' = { s with world := c } := by
  rw [← call_eq_ok]
  unfold callOrRevert
  split
  · rename_i s₁ hcall
    rw [hcall]
  · rename_i r hcall
    simp [hcall]

theorem payReward_eq_ok {pay : Call} {text : String} {reward : Nat} {s s' : State Chain} :
    payReward k.deployment pay text reward s = .ok s' ↔
      (0 < reward ∧ ∃ c, k.run s.world pay = .ok c ∧ s' = { s with world := c }) ∨
        (reward = 0 ∧ s' = s) := by
  unfold payReward
  split
  · rename_i hpos
    rw [callOrRevert_eq_ok]
    have hne : reward ≠ 0 := by omega
    simp [hpos, hne]
  · rename_i hzero
    have hreward : reward = 0 := by omega
    rw [pure_eq_ok]
    simp [hreward, eq_comm (a := s)]

end Site

end FluxSignedOrderSettlement
