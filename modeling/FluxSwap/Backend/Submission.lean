-- SUMMARY: A call that the executor worker makes from one chain state passes every check of executeOrder in that state, as long as the time of the chain is below 2^63.
import FluxSwap.Backend.Expiry
import FluxSwap.Settlement.Readiness

/-!
# Submissions

The worker asks the settlement's views about the order and computes reward and deadline by
itself. Here its answers come from one state of the chain, and the call it makes is held
against the checks of the settlement in this state.
-/

open Exec

namespace Backend

open FluxSignedOrderSettlement (SignedOrder Site Admitted ValidOrder hashOrder typedDigest
  admitOrder marked)

/-! ## The settlement client -/

/-- The storage of the settlement, and the chain around it. -/
abbrev SettlementState : Type := FluxSignedOrderSettlement.State Chain

theorem bindingOrder_fits (payload : SettlementOrder) :
    ∀ n ∈ [payload.amountIn % 2 ^ 256, payload.minAmountOut % 2 ^ 256,
      payload.maxExecutorRewardBps % 2 ^ 256, payload.triggerPriceX18 % 2 ^ 256,
      payload.expiry % 2 ^ 256, payload.nonce % 2 ^ 256], n ≤ Uint256.max := by
  simp only [Uint256.max, List.forall_mem_cons, List.not_mem_nil, false_implies, implies_true,
    and_true]
  omega

/-- An order as `toBindingOrder` and the packing of its numbers pass it to the settlement. -/
def bindingOrder (payload : SettlementOrder) : SignedOrder where
  maker := payload.maker
  inputToken := payload.inputToken
  outputToken := payload.outputToken
  amountIn := payload.amountIn % 2 ^ 256
  minAmountOut := payload.minAmountOut % 2 ^ 256
  maxExecutorRewardBps := payload.maxExecutorRewardBps % 2 ^ 256
  triggerPriceX18 := payload.triggerPriceX18 % 2 ^ 256
  expiry := payload.expiry % 2 ^ 256
  nonce := payload.nonce % 2 ^ 256
  recipient := payload.recipient
  fits := bindingOrder_fits payload

/-- The arguments with which `executeOrder` is called on chain. -/
structure ContractCall where
  order          : SignedOrder
  signature      : Bytes
  deadline       : Nat
  executorReward : Nat

/-- `ExecuteOrder` of the settlement client, up to the transaction. -/
def ContractCall.ofSubmission (submission : Submission) : Except String ContractCall := do
  if submission.signature.length = 0 then throw "signature must not be empty"
  if submission.deadline ≤ 0 then throw "deadline must be a positive integer"
  return { order := bindingOrder submission.payload
           signature := submission.signature
           deadline := submission.deadline.toNat % 2 ^ 256
           executorReward := submission.quote.requiredExecutorFee % 2 ^ 256 }

theorem ContractCall.ofSubmission_ok {submission : Submission} {call : ContractCall}
    (h : ContractCall.ofSubmission submission = .ok call) :
    0 < submission.deadline ∧ call =
      { order := bindingOrder submission.payload
        signature := submission.signature
        deadline := submission.deadline.toNat % 2 ^ 256
        executorReward := submission.quote.requiredExecutorFee % 2 ^ 256 } := by
  unfold ContractCall.ofSubmission at h
  by_cases hempty : submission.signature.length = 0
  · rw [if_pos hempty] at h
    cases h
  · rw [if_neg hempty] at h
    by_cases hnonpositive : submission.deadline ≤ 0
    · rw [if_pos hnonpositive] at h
      cases h
    · rw [if_neg hnonpositive] at h
      exact ⟨not_le.mp hnonpositive, (Except.ok.inj h).symm⟩

/-- `CheckMakerFunding`, from a balance and an allowance. -/
def fundingCheck (payload : SettlementOrder) (tokenHex : String) (balance allowance : Nat) :
    MakerFundingCheck where
  tokenHex := tokenHex
  requiredAmountIn := payload.amountIn
  balance := balance
  allowance := allowance
  hasEnoughBalance := decide (payload.amountIn ≤ balance)
  hasEnoughAllowance := decide (payload.amountIn ≤ allowance)

/-- What the client answers is true of one state. It may fail at any time. The prices of gas
    are no part of the state. -/
structure AnsweredBy (k : Site) (s : SettlementState) (payload : SettlementOrder)
    (answers : Answers) : Prop where
  timestamp : ∀ timestamp, answers.currentBlockTimestamp = .ok timestamp →
    timestamp = s.world.timestamp
  executed : ∀ executed, answers.isOrderExecuted = .ok executed →
    executed = s.storage.orderExecuted (hashOrder k.deployment (bindingOrder payload))
  invalidated : ∀ invalidated, answers.isNonceInvalidated = .ok invalidated →
    invalidated = s.storage.invalidatedNonce payload.maker (bindingOrder payload).nonce
  executable : ∀ reply, answers.canExecuteOrder = .ok reply →
    FluxSignedOrderSettlement.canExecuteOrder k.deployment s (bindingOrder payload) =
      .ok (reply.executable, reply.reason)
  funding : ∀ check, answers.checkMakerFunding = .ok check →
    ∃ tokenHex balance allowance, check = fundingCheck payload tokenHex balance allowance ∧
      k.deployment.balanceOf s payload.inputToken payload.maker = .ok balance ∧
      k.deployment.allowance s payload.inputToken payload.maker k.self = .ok allowance
  quote : ∀ quotedAmountOut, answers.getOrderQuote = .ok quotedAmountOut →
    FluxSignedOrderSettlement.getOrderQuote k.deployment s (bindingOrder payload) =
      .ok quotedAmountOut

/-- The reserves of the order's pair are of type `uint112`, and the time of a block is of type
    `uint64`. -/
structure Typed (k : Site) (order : SignedOrder) (c : Chain) : Prop where
  reserves : ∀ p, c.pairs (k.pairOf order c) = some p →
    p.reserve0 ≤ FluxSwapPair.maxUint112 ∧ p.reserve1 ≤ FluxSwapPair.maxUint112
  timestamp : c.timestamp < 2 ^ 64

/-! ## What a submission rests on -/

theorem answered_eq_ok {α : Type} {what : String} {r : Except String α} {a : α} :
    answered what r = .ok a ↔ r = .ok a := by
  cases r with
  | ok a' => simp only [answered, Except.ok.injEq]
  | error e => exact ⟨nofun, nofun⟩

theorem answeredWith_eq_ok {α : Type} {quote : FeeQuote} {what : String} {r : Except String α}
    {a : α} : answeredWith quote what r = .ok a ↔ r = .ok a := by
  unfold answeredWith
  cases r with
  | ok a' => simp only [answered, Except.mapError, Except.ok.injEq]
  | error e => exact ⟨nofun, nofun⟩

theorem endIf_eq_ok {condition : Bool} {u : Update} {v : Unit} :
    endIf condition u = .ok v ↔ condition = false := by
  cases condition with
  | true => exact ⟨nofun, nofun⟩
  | false => exact ⟨fun _ => rfl, fun _ => rfl⟩

/-- The answers and computations behind a submission. -/
structure Submitted (cfg : Config) (payload : SettlementOrder) (order : Order)
    (answers : Answers) (submission : Submission) : Prop where
  samePayload : submission.payload = payload
  executable : ∃ reply, answers.canExecuteOrder = .ok reply ∧ reply.executable = true
  reward : ∃ quotedAmountOut, answers.getOrderQuote = .ok quotedAmountOut ∧
    submission.quote.requiredExecutorFee ≤ calculateMaxExecutorReward payload quotedAmountOut
  signature : order.signature = some submission.signature
  deadline : ∃ now, answers.currentBlockTimestamp = .ok now ∧
    buildDeadline cfg order now = .ok submission.deadline

theorem evaluateClaimed_ok {cfg : Config} {payload : SettlementOrder} {order : Order}
    {answers : Answers} {submission : Submission}
    (h : evaluateClaimed cfg payload order answers = .ok submission) :
    Submitted cfg payload order answers submission := by
  unfold evaluateClaimed at h
  obtain ⟨now, hnow, h⟩ := except_bind_eq_ok.mp h
  rw [answered_eq_ok] at hnow
  split at h
  · cases h
  obtain ⟨reply, hreply, h⟩ := except_bind_eq_ok.mp h
  rw [answered_eq_ok] at hreply
  split at h
  · rename_i hexecutable
    unfold evaluateExecutable at h
    simp only [except_bind_eq_ok, answered_eq_ok, answeredWith_eq_ok, endIf_eq_ok] at h
    obtain ⟨funding, -, _, -, _, -, quotedAmountOut, hquote, fee, -, _, hreward, signature,
      hsignature, deadline, hdeadline, h⟩ := h
    cases h
    refine ⟨rfl, ⟨reply, hreply, hexecutable⟩, ⟨quotedAmountOut, hquote, ?_⟩, ?_,
      now, hnow, hdeadline⟩
    · exact Nat.not_lt.mp (of_decide_eq_false hreward)
    · cases hstored : order.signature with
      | none =>
        rw [hstored] at hsignature
        cases hsignature
      | some stored =>
        rw [hstored] at hsignature
        cases hsignature
        rfl
  · cases h

/-! ## The checks of the settlement -/

/-- The bound on the reward as `executeOrder` computes it. -/
def maxAllowedReward (order : SignedOrder) (amountOut : Nat) : Exec Nat := do
  let surplus ← Uint256.sub amountOut order.minAmountOut
  let scaled ← Uint256.mul surplus order.maxExecutorRewardBps
  Uint256.div scaled 10000

/-- The checks of `executeOrder`: those before its first write, and those of the maker's funds
    after it. -/
structure PassesChecks (k : Site) (s : SettlementState) (sender : Address) (call : ContractCall) :
    Prop where
  idle : s.storage.entered = false
  admitted : ∃ amountOut, admitOrder k.deployment sender call.order call.signature call.deadline
    call.executorReward (s.setEntered true) = .ok amountOut
  balance : ∃ balance, k.deployment.balanceOf (marked k.deployment call.order s)
    call.order.inputToken call.order.maker = .ok balance ∧ call.order.amountIn ≤ balance
  allowance : ∃ allowance, k.deployment.allowance (marked k.deployment call.order s)
    call.order.inputToken call.order.maker k.self = .ok allowance ∧
      call.order.amountIn ≤ allowance

/-- The worker's bound is that of the settlement, and the call passes its checks. -/
structure SoundCall (k : Site) (s : SettlementState) (sender : Address) (call : ContractCall) :
    Prop where
  bound : ∀ order amountOut bound, maxAllowedReward order amountOut = .ok bound →
    calculateMaxExecutorReward (Signing.backendOrder order) amountOut = bound
  passes : PassesChecks k s sender call

theorem calculateMaxExecutorReward_eq (payload : SettlementOrder) (quotedAmountOut : Nat) :
    calculateMaxExecutorReward payload quotedAmountOut =
      (quotedAmountOut - payload.minAmountOut) * payload.maxExecutorRewardBps / 10000 := by
  unfold calculateMaxExecutorReward
  split
  · rename_i hle
    rw [Nat.sub_eq_zero_of_le hle, Nat.zero_mul, Nat.zero_div]
  · split
    · rename_i hzero
      rw [hzero, Nat.mul_zero, Nat.zero_div]
    · rfl

theorem calculateMaxExecutorReward_bound {order : SignedOrder} {amountOut bound : Nat}
    (h : maxAllowedReward order amountOut = .ok bound) :
    calculateMaxExecutorReward (Signing.backendOrder order) amountOut = bound := by
  simp only [maxAllowedReward, bind_eq_ok, Uint256.sub_eq_ok, Uint256.mul_eq_ok,
    Uint256.div_eq_ok] at h
  obtain ⟨_, ⟨-, rfl⟩, _, ⟨-, rfl⟩, -, rfl⟩ := h
  exact calculateMaxExecutorReward_eq _ _

/-- An order of the database, and an executor that may execute it. -/
structure Served (k : Site) (s : SettlementState) (sender : Address) (order : Order)
    (payload : SettlementOrder) : Prop where
  idle : s.storage.entered = false
  permitted : s.storage.onlyRestrictedExecutor = true → sender = s.storage.restrictedExecutor
  built : buildSettlementOrder order = .ok payload
  signed : ∀ signature, order.signature = some signature →
    k.recover (typedDigest k.deployment (hashOrder k.deployment (bindingOrder payload)))
      signature = .ok payload.maker

theorem buildSettlementOrder_rewardBps {order : Order} {payload : SettlementOrder}
    (h : buildSettlementOrder order = .ok payload) : payload.maxExecutorRewardBps ≤ 10000 := by
  unfold buildSettlementOrder at h
  obtain ⟨amountIn, -, h⟩ := except_bind_eq_ok.mp h
  obtain ⟨minAmountOut, -, h⟩ := except_bind_eq_ok.mp h
  obtain ⟨maxExecutorRewardBps, -, h⟩ := except_bind_eq_ok.mp h
  split at h
  · cases h
  · rename_i hbps
    simp only [except_bind_eq_ok] at h
    obtain ⟨_, -, _, -, _, -, h⟩ := h
    cases h
    exact Nat.not_lt.mp hbps

/-- A quote is less than a reserve of the pair. -/
theorem quote_le {k : Site} {s : SettlementState} {order : SignedOrder} {amountOut : Nat}
    (htyped : Typed k order s.world)
    (h : FluxSignedOrderSettlement.getAmountOut k.deployment s order.inputToken order.outputToken
      order.amountIn = .ok amountOut) : amountOut ≤ FluxSwapPair.maxUint112 := by
  obtain ⟨reserveIn, reserveOut, y, hreserves, hout, hamounts⟩ :=
    FluxSwapRouter.getAmountsOut_hop (FluxSignedOrderSettlement.quote_eq h)
  obtain rfl : amountOut = y := by simpa using hamounts
  have hlt := (FluxSwapRouter.getAmountOut_quoted hout).out
  simp only [FluxSwapRouter.getReserves, bind_eq_ok, FluxSwapRouter.getPairOrRevert_eq_ok,
    Chain.pairAt_eq_ok, pure_eq_ok] at hreserves
  obtain ⟨_, -, _, ⟨-, rfl⟩, p, hp, hsides⟩ := hreserves
  obtain ⟨h0, h1⟩ := htyped.reserves p hp
  split at hsides
  · obtain ⟨-, rfl⟩ := Prod.mk.inj hsides
    omega
  · obtain ⟨-, rfl⟩ := Prod.mk.inj hsides
    omega

/-- The fee that the worker asks for is within the bound of the settlement. -/
theorem requiredExecutorFee_le {payload : SettlementOrder} {amountOut fee : Nat}
    (hbps : payload.maxExecutorRewardBps ≤ 10000)
    (h : fee ≤ calculateMaxExecutorReward payload amountOut) :
    fee % 2 ^ 256 ≤ (amountOut - (bindingOrder payload).minAmountOut) *
      (bindingOrder payload).maxExecutorRewardBps / 10000 := by
  have hsame : (bindingOrder payload).maxExecutorRewardBps = payload.maxExecutorRewardBps :=
    Nat.mod_eq_of_lt (by omega)
  have hmin : (bindingOrder payload).minAmountOut ≤ payload.minAmountOut := Nat.mod_le _ _
  rw [hsame]
  calc fee % 2 ^ 256 ≤ fee := Nat.mod_le _ _
    _ ≤ calculateMaxExecutorReward payload amountOut := h
    _ = (amountOut - payload.minAmountOut) * payload.maxExecutorRewardBps / 10000 :=
      calculateMaxExecutorReward_eq payload amountOut
    _ ≤ (amountOut - (bindingOrder payload).minAmountOut) * payload.maxExecutorRewardBps /
        10000 :=
      Nat.div_le_div_right (Nat.mul_le_mul_right _ (Nat.sub_le_sub_left hmin _))

theorem buildDeadline_ok {cfg : Config} {order : Order} {timestamp : Nat} {deadline : Int}
    (h : buildDeadline cfg order timestamp = .ok deadline) :
    int64 timestamp < deadline ∧ deadline < 2 ^ 63 := by
  unfold buildDeadline at h
  obtain ⟨expiry, -, h⟩ := except_bind_eq_ok.mp h
  split at h
  · cases h
  · dsimp only at h
    split at h
    · cases h
    · rename_i hlater
      have hbound : int64 (uint64 (timestamp + cfg.txDeadline)) < 2 ^ 63 := by
        unfold int64
        rw [Int.bmod_def]
        omega
      rw [← Except.ok.inj h]
      omega

/-- The deadline on chain is not over if and only if the time has not become negative in the
    worker. -/
theorem deadline_iff {cfg : Config} {order : Order} {timestamp : Nat} {deadline : Int}
    (h : buildDeadline cfg order timestamp = .ok deadline) (hpositive : 0 < deadline) :
    timestamp ≤ deadline.toNat % 2 ^ 256 ↔ timestamp < 2 ^ 63 := by
  obtain ⟨hlater, hbound⟩ := buildDeadline_ok h
  have hsame : deadline.toNat % 2 ^ 256 = deadline.toNat := Nat.mod_eq_of_lt (by omega)
  rw [hsame]
  constructor
  · intro hle
    omega
  · intro htime
    rw [int64_of_lt htime] at hlater
    omega

/-! ## Soundness -/

/-- A call that the worker makes from one state of the chain passes every check of the
    settlement in this state if and only if the time of the chain is below 2^63. -/
theorem soundCall_iff {k : Site} {s : SettlementState} {sender : Address} {cfg : Config}
    {order : Order} {payload : SettlementOrder} {answers : Answers} {submission : Submission}
    {call : ContractCall} (hserved : Served k s sender order payload)
    (htyped : Typed k (bindingOrder payload) s.world) (hanswers : AnsweredBy k s payload answers)
    (hsubmitted : evaluateClaimed cfg payload order answers = .ok submission)
    (hcall : ContractCall.ofSubmission submission = .ok call) :
    SoundCall k s sender call ↔ s.world.timestamp < 2 ^ 63 := by
  have hsub := evaluateClaimed_ok hsubmitted
  obtain ⟨now, hnow, hdeadline⟩ := hsub.deadline
  obtain rfl := hanswers.timestamp now hnow
  obtain ⟨hpositive, rfl⟩ := ContractCall.ofSubmission_ok hcall
  -- the deadline is ahead of the clock exactly while the clock fits an `int64`
  have htime := deadline_iff hdeadline hpositive
  rw [hsub.samePayload]
  constructor
  · intro h
    obtain ⟨amountOut, hadmit⟩ := h.passes.admitted
    exact htime.mp (FluxSignedOrderSettlement.admitOrder_eq_ok.mp hadmit).deadline
  · intro h
    -- everything else was already checked off chain
    obtain ⟨reply, hreply, hyes⟩ := hsub.executable
    have hexec := FluxSignedOrderSettlement.canExecuteOrder_eq_true.mp
      ⟨reply.reason, (hanswers.executable reply hreply).trans (by rw [hyes])⟩
    obtain ⟨q, hquote, henough, hreached⟩ := hexec.quote
    obtain ⟨quoted, hquoted, hfee⟩ := hsub.reward
    obtain rfl : quoted = q := Except.ok.inj ((hanswers.quote quoted hquoted).symm.trans
      ((FluxSignedOrderSettlement.quoteFor_eq hexec.valid).trans hquote))
    -- the price of the executor is within what the maker signed
    have hreward := requiredExecutorFee_le (buildSettlementOrder_rewardBps hserved.built) hfee
    have hscaled : (quoted - (bindingOrder payload).minAmountOut) *
        (bindingOrder payload).maxExecutorRewardBps ≤ Uint256.max :=
      (Nat.mul_le_mul ((Nat.sub_le _ _).trans (quote_le htyped hquote))
        hexec.valid.rewardBps).trans (by decide)
    refine ⟨fun _ _ _ => calculateMaxExecutorReward_bound, hserved.idle, ⟨quoted,
      FluxSignedOrderSettlement.admitOrder_eq_ok.mpr ?_⟩, hexec.balance, hexec.allowance⟩
    exact ⟨hexec.unpaused, hserved.permitted,
      FluxSignedOrderSettlement.validOrder_setEntered.mpr hexec.valid, htime.mpr h,
      hexec.unexecuted, hexec.free, hserved.signed _ hsub.signature, hquote, henough, hreached,
      hscaled, hreward⟩

/-! ## Early and late -/

namespace SubmissionExample

open FluxSignedOrderSettlement.Example (site openedAt tokenA carol dave)

/-- Alice sells 10000 `tokenA` for ETH to Carol. -/
def selling (expiry : Nat) : Order where
  maker := FluxSignedOrderSettlement.Example.alice
  inputToken := tokenA
  outputToken := Address.zero
  recipient := carol
  amountIn := 10000
  minAmountOut := 39000
  executorFee := 5000
  triggerPriceX18 := 1
  expiry := expiry
  nonce := 1
  signature := some [2]
  status := Status.submittingExecute
  statusReason := .claimedForSubmission
  lastBlockReason := .none
  submittedTxHash := none
  executedTxHash := none
  cancelledTxHash := none
  settledAmountOut := 0
  settledExecutorFee := 0
  lastCheckedBlock := 0
  estimatedGasUsed := 0
  gasPriceAtQuote := 0
  lastRequiredExecutorFee := 0

def payload (expiry : Nat) : SettlementOrder where
  maker := FluxSignedOrderSettlement.Example.alice
  inputToken := tokenA
  outputToken := Address.zero
  amountIn := 10000
  minAmountOut := 39000
  maxExecutorRewardBps := 5000
  triggerPriceX18 := 1
  expiry := expiry
  nonce := 1
  recipient := carol

/-- The order can be executed, for a fee of 200. -/
def answers (timestamp expiry : Nat) : Answers where
  coolingDown := false
  currentBlockTimestamp := .ok timestamp
  isOrderExecuted := .ok false
  isNonceInvalidated := .ok false
  canExecuteOrder := .ok ⟨true, "OK"⟩
  checkMakerFunding := .ok (fundingCheck (payload expiry) "" 10000 10000)
  getOrderQuote := .ok 39486
  suggestExecutorFee := .ok ⟨200, 1⟩
  receiptStatus := .ok none
  transactionKnown := .ok true

def submission (expiry : Nat) (deadline : Int) : Submission :=
  ⟨payload expiry, [2], deadline, ⟨400000, 1, 200⟩⟩

theorem quoted (timestamp expiry : Nat) : FluxSignedOrderSettlement.getOrderQuote site.deployment
    (openedAt timestamp) (bindingOrder (payload expiry)) = .ok 39486 := by
  have hquote : FluxSignedOrderSettlement.getOrderQuote site.deployment (openedAt 0)
    (bindingOrder (payload 0)) = .ok 39486 := by decide +kernel
  exact hquote

theorem answeredBy {timestamp expiry : Nat}
    (h : FluxSignedOrderSettlement.canExecuteOrder site.deployment (openedAt timestamp)
      (bindingOrder (payload expiry)) = .ok (true, "OK")) :
    AnsweredBy site (openedAt timestamp) (payload expiry) (answers timestamp expiry) where
  timestamp _ h := (Except.ok.inj h).symm
  executed _ h := (Except.ok.inj h).symm
  invalidated _ h := (Except.ok.inj h).symm
  executable reply hreply := by
    obtain rfl := Except.ok.inj hreply
    exact h
  funding check hcheck := ⟨"", 10000, 10000, (Except.ok.inj hcheck).symm, rfl, rfl⟩
  quote amountOut hquote := by
    obtain rfl := Except.ok.inj hquote
    exact quoted timestamp expiry

theorem typed {timestamp : Nat} (expiry : Nat) (h : timestamp < 2 ^ 64) :
    Typed site (bindingOrder (payload expiry)) (openedAt timestamp).world where
  reserves p hp := by
    obtain rfl : FluxSignedOrderSettlement.Example.storageAW = p := Option.some.inj hp
    decide
  timestamp := h

theorem served {timestamp expiry : Nat} (h : 0 < expiry) :
    Served site (openedAt timestamp) dave (selling expiry) (payload expiry) where
  idle := rfl
  permitted := nofun
  built := by
    have hexpiry : parsePositiveBigInt (expiry : Int) "expiry" = .ok expiry := by
      unfold parsePositiveBigInt
      rw [if_pos (by exact_mod_cast h), Int.toNat_natCast]
    simp only [buildSettlementOrder, selling, hexpiry]
    rfl
  signed signature hsignature := by
    obtain rfl := Option.some.inj hsignature
    rfl

theorem evaluated_early : evaluateClaimed ⟨120, 400000⟩ (payload 1000) (selling 1000)
    (answers 100 1000) = .ok (submission 1000 220) := by
  rfl

theorem evaluated_late : evaluateClaimed ⟨120, 400000⟩ (payload (2 ^ 64 - 1))
    (selling (2 ^ 64 - 1)) (answers (2 ^ 64 - 2) (2 ^ 64 - 1)) =
      .ok (submission (2 ^ 64 - 1) 118) := by
  rfl

end SubmissionExample

open SubmissionExample FluxSignedOrderSettlement.Example in
/-- A call shortly after the start of the clock. -/
theorem soundCall_iff_early : ∃ call,
    ContractCall.ofSubmission (submission 1000 220) = .ok call ∧
      (SoundCall site (openedAt 100) dave call ↔ (openedAt 100).world.timestamp < 2 ^ 63) :=
  ⟨_, rfl, soundCall_iff (served (by decide)) (typed 1000 (by decide))
    (answeredBy (by decide +kernel)) evaluated_early rfl⟩

open SubmissionExample FluxSignedOrderSettlement.Example in
/-- Two seconds before the end of the clock the worker adds two minutes to a time that it
    takes for -2, and the settlement turns the deadline 118 down. -/
theorem not_soundCall_late :
    ¬∀ (k : Site) (s : SettlementState) (sender : Address) (cfg : Config) (order : Order)
      (payload : SettlementOrder) (answers : Answers) (submission : Submission)
      (call : ContractCall), Served k s sender order payload →
      Typed k (bindingOrder payload) s.world → AnsweredBy k s payload answers →
      evaluateClaimed cfg payload order answers = .ok submission →
      ContractCall.ofSubmission submission = .ok call → SoundCall k s sender call := by
  intro h
  have hsound := h site (openedAt (2 ^ 64 - 2)) dave ⟨120, 400000⟩ (selling (2 ^ 64 - 1))
    (payload (2 ^ 64 - 1)) (answers (2 ^ 64 - 2) (2 ^ 64 - 1)) (submission (2 ^ 64 - 1) 118) _
    (served (by decide)) (typed _ (by decide)) (answeredBy (by decide +kernel))
    evaluated_late rfl
  obtain ⟨amountOut, hadmit⟩ := hsound.passes.admitted
  exact absurd (FluxSignedOrderSettlement.admitOrder_eq_ok.mp hadmit).deadline (by decide)

end Backend
