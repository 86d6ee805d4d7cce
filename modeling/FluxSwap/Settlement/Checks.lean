-- SUMMARY: The checks of executeOrder as a condition, and executeOrder taken apart into its phases.
import FluxSwap.Settlement.Model

/-!
# What executeOrder checks

`admitOrder` succeeds exactly when the order is `Admitted`, whatever the world. A
successful execution passes through its phases one after the other.
-/

open Exec

namespace FluxSignedOrderSettlement

variable {ω : Type} {d : Deployment ω} {s s' : State ω}

/-- The conditions of `_validateOrder`. -/
structure ValidOrder (d : Deployment ω) (s : State ω) (order : SignedOrder) : Prop where
  maker : order.maker ≠ Address.zero
  input : order.inputToken ≠ Address.zero
  distinct : hasIdenticalAssets d order.inputToken order.outputToken = false
  amountIn : 0 < order.amountIn
  minAmountOut : 0 < order.minAmountOut
  rewardBps : order.maxExecutorRewardBps ≤ 10000
  trigger : 0 < order.triggerPriceX18
  unexpired : d.timestamp s.world ≤ order.expiry
  recipient : order.recipient ≠ Address.zero
  pair : pairExists d s order.inputToken order.outputToken = .ok true

theorem validateOrder_eq_ok {order : SignedOrder} {u : Unit} :
    validateOrder d s order = .ok u ↔ ValidOrder d s order := by
  simp only [validateOrder, bind_eq_ok, require_eq_ok]
  constructor
  · rintro ⟨_, h1, _, h2, _, h3, _, h4, _, h5, _, h6, _, h7, _, h8, _, h9, _, hfound, rfl⟩
    exact ⟨h1, h2, h3, h4, h5, h6, h7, h8, h9, hfound⟩
  · rintro ⟨h1, h2, h3, h4, h5, h6, h7, h8, h9, hfound⟩
    exact ⟨(), h1, (), h2, (), h3, (), h4, (), h5, (), h6, (), h7, (), h8, (), h9, true, hfound, rfl⟩

/-- The conditions under which `executeOrder` goes on to its first write. -/
structure Admitted (d : Deployment ω) (sender : Address) (order : SignedOrder)
    (signature : Bytes) (deadline executorReward : Nat) (s : State ω) (amountOut : Nat) : Prop where
  unpaused : s.storage.paused = false
  executor : s.storage.onlyRestrictedExecutor = true → sender = s.storage.restrictedExecutor
  valid : ValidOrder d s order
  deadline : d.timestamp s.world ≤ deadline
  unexecuted : s.storage.orderExecuted (hashOrder d order) = false
  free : s.storage.invalidatedNonce order.maker order.nonce = false
  signed : d.recover (typedDigest d (hashOrder d order)) signature = .ok order.maker
  quote : getAmountOut d s order.inputToken order.outputToken order.amountIn = .ok amountOut
  enough : order.minAmountOut ≤ amountOut
  reached : meetsTrigger d s order.inputToken order.outputToken order.amountIn amountOut
    order.triggerPriceX18 = .ok true
  scaled : (amountOut - order.minAmountOut) * order.maxExecutorRewardBps ≤ Uint256.max
  reward : executorReward ≤ (amountOut - order.minAmountOut) * order.maxExecutorRewardBps / 10000

theorem admitOrder_eq_ok {sender : Address} {order : SignedOrder} {signature : Bytes}
    {deadline executorReward amountOut : Nat} :
    admitOrder d sender order signature deadline executorReward s = .ok amountOut ↔
      Admitted d sender order signature deadline executorReward s amountOut := by
  simp only [admitOrder, validateExecutor, verifyOrderSignature, bind_eq_ok, require_eq_ok,
    validateOrder_eq_ok, Uint256.sub_eq_ok, Uint256.mul_eq_ok, pure_eq_ok]
  constructor
  · rintro ⟨_, h1, _, h2, _, h3, _, h4, _, h5, _, h6, _, ⟨_, h7, rfl⟩, _, h8, _, h9, _, h10, _, rfl,
      _, ⟨-, rfl⟩, _, ⟨h11, rfl⟩, _, h12, rfl⟩
    exact ⟨h1, h2, h3, h4, h5, h6, h7, h8, h9, h10, h11, h12⟩
  · rintro ⟨h1, h2, h3, h4, h5, h6, h7, h8, h9, h10, h11, h12⟩
    exact ⟨(), h1, (), h2, (), h3, (), h4, (), h5, (), h6, (), ⟨_, h7, rfl⟩, _, h8, (), h9, _, h10,
      (), rfl, _, ⟨h9, rfl⟩, _, ⟨h11, rfl⟩, (), h12, rfl⟩

/-- The reward leaves the recipient the signed minimum. -/
theorem Admitted.reward_le {sender : Address} {order : SignedOrder} {signature : Bytes}
    {deadline executorReward amountOut : Nat}
    (h : Admitted d sender order signature deadline executorReward s amountOut) :
    order.minAmountOut + executorReward ≤ amountOut := by
  have hbps : (amountOut - order.minAmountOut) * order.maxExecutorRewardBps / 10000 ≤
      amountOut - order.minAmountOut := by
    refine Nat.div_le_of_le_mul ?_
    rw [Nat.mul_comm 10000]
    exact Nat.mul_le_mul_left _ h.valid.rewardBps
  have hreward := h.reward
  have henough := h.enough
  omega

/-- The state in which `executeOrder` begins to call others. -/
def marked (d : Deployment ω) (order : SignedOrder) (s : State ω) : State ω :=
  ((s.setEntered true).markExecuted (hashOrder d order)).invalidate order.maker order.nonce

@[simp] theorem marked_world (d : Deployment ω) (order : SignedOrder) (s : State ω) :
    (marked d order s).world = s.world := rfl

/-- `executeOrder` is its phases: checks, input, router, payout. -/
theorem executeOrder_eq_ok {sender : Address} {order : SignedOrder} {signature : Bytes}
    {deadline executorReward amountOut : Nat} :
    executeOrder d sender order signature deadline executorReward s = .ok (s', amountOut) ↔
      s.storage.entered = false ∧
      Admitted d sender order signature deadline executorReward (s.setEntered true) amountOut ∧
      order.minAmountOut + executorReward ≤ Uint256.max ∧
      ∃ s₁ s₂ s₃, pullInput d order (marked d order s) = .ok s₁ ∧
        d.call (settleCall d order (order.minAmountOut + executorReward) deadline) s₁ = .ok s₂ ∧
        distribute d order amountOut executorReward sender s₂ = .ok s₃ ∧
        s' = (s₃.emit (.orderExecuted (hashOrder d order) order sender amountOut
          (amountOut - executorReward) executorReward)).setEntered false := by
  simp only [executeOrder, nonReentrant_eq_ok, settleAndDistribute, emitOrderExecuted, bind_eq_ok,
    pure_eq_ok, admitOrder_eq_ok, Uint256.add_eq_ok, Uint256.sub_eq_ok, Prod.mk.injEq]
  constructor
  · rintro ⟨hopen, _, ⟨quote, hadmitted, s₁, hpull, s₃, ⟨_, ⟨hfits, rfl⟩, s₂, hswap, hpay⟩, _,
      ⟨_, ⟨hle, rfl⟩, rfl⟩, rfl, rfl⟩, rfl⟩
    exact ⟨hopen, hadmitted, hfits, s₁, s₂, s₃, hpull, hswap, hpay, rfl⟩
  · rintro ⟨hopen, hadmitted, hfits, s₁, s₂, s₃, hpull, hswap, hpay, rfl⟩
    have hle := hadmitted.reward_le
    exact ⟨hopen, _, ⟨amountOut, hadmitted, s₁, hpull, s₃, ⟨_, ⟨hfits, rfl⟩, s₂, hswap, hpay⟩, _,
      ⟨_, ⟨by omega, rfl⟩, rfl⟩, rfl, rfl⟩, rfl⟩

end FluxSignedOrderSettlement
