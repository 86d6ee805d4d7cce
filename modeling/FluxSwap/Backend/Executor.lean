-- SUMMARY: The executor worker: what evaluateOrder and checkPendingReceipt decide from an order and the answers of the chain client.
import FluxSwap.Backend.Orders

/-!
# The executor worker

Between two accesses to the database a worker only asks the chain client. A decision is
thus a function of the order in hand and of the answers, and what it writes is a guarded
update. `evaluateOrder` and `checkPendingReceipt` ask each method of the client at most
once on every path, so the answers are a record.
-/

namespace Backend

open Status

/-! ## Data -/

/-- The order as the settlement contract takes it. -/
structure SettlementOrder where
  maker                : Address
  inputToken           : Address
  outputToken          : Address
  amountIn             : Nat
  minAmountOut         : Nat
  maxExecutorRewardBps : Nat
  triggerPriceX18      : Nat
  expiry               : Nat
  nonce                : Nat
  recipient            : Address
  deriving DecidableEq

/-- `txDeadline` is in seconds. -/
structure Config where
  txDeadline       : Nat
  estimatedGasUsed : Nat

structure MakerFundingCheck where
  tokenHex           : String
  requiredAmountIn   : Nat
  balance            : Nat
  allowance          : Nat
  hasEnoughBalance   : Bool
  hasEnoughAllowance : Bool

/-- The two results of `CanExecuteOrder`. -/
structure Executability where
  executable : Bool
  reason     : String

/-- The two results of `SuggestExecutorFee`. -/
structure ExecutorFee where
  requiredExecutorFee : Nat
  gasPriceAtQuote     : Nat

/-- A receipt, and what `ParseExecutionResult` reads from its logs. -/
structure Receipt where
  successful      : Bool
  blockNumber     : Nat
  executionResult : Option (Int × Int)

/-- What a worker is told during one round. `coolingDown` is the comparison with the clock in
    `shouldDelayProtocolBlockedRecheck`; a receipt that is not found is `none`. -/
structure Answers where
  coolingDown           : Bool
  currentBlockTimestamp : Except String Nat
  isOrderExecuted       : Except String Bool
  isNonceInvalidated    : Except String Bool
  canExecuteOrder       : Except String Executability
  checkMakerFunding     : Except String MakerFundingCheck
  getOrderQuote         : Except String Nat
  suggestExecutorFee    : Except String ExecutorFee
  receiptStatus         : Except String (Option Receipt)
  transactionKnown      : Except String Bool

/-! ## Helpers -/

/-- `shortenReason`: a text as a reason. Texts are cut at 255 bytes in the source, which no
    comparison sees. -/
def shortenReason : String → Reason
  | "" => .none
  | "updated_by_order_executed_event" => .orderExecutedEvent
  | "updated_by_order_executed_event_after_pending_cancel" => .orderExecutedEventAfterPendingCancel
  | "updated_by_order_executed_event_after_expired" => .orderExecutedEventAfterExpired
  | "confirmed_by_chain_state" => .confirmedByChainState
  | "updated_by_nonce_invalidated_event" => .nonceInvalidatedEvent
  | "updated_by_nonce_invalidated_event_after_pending_cancel" =>
    .nonceInvalidatedEventAfterPendingCancel
  | "updated_by_nonce_invalidated_event_after_pending_execute" =>
    .nonceInvalidatedEventAfterPendingExecute
  | "updated_by_nonce_invalidated_event_after_submitting_execute" =>
    .nonceInvalidatedEventAfterSubmittingExecute
  | "updated_by_nonce_invalidated_event_after_expired" => .nonceInvalidatedEventAfterExpired
  | "claimed_for_submission" => .claimedForSubmission
  | "submitted_to_chain" => .submittedToChain
  | "cancel_tx_submitted_by_user" => .cancelTxSubmittedByUser
  | "expired_by_chain_time" => .expiredByChainTime
  | "ORDER_EXPIRED" => .orderExpired
  | reason => .text reason

def parseNonNegativeBigInt (value : Int) (field : String) : Except String Nat :=
  if 0 ≤ value then .ok value.toNat else .error ("invalid " ++ field)

def parsePositiveBigInt (value : Int) (field : String) : Except String Nat :=
  if 0 < value then .ok value.toNat else .error ("invalid " ++ field)

/-- The conversion `int64(n)` of a `uint64`. -/
def int64 (n : Nat) : Int := Int.bmod n (2 ^ 64)

/-- `Uint64` of a big integer: its low 64 bits. -/
def uint64 (n : Nat) : Nat := n % 2 ^ 64

def buildSettlementOrder (order : Order) : Except String SettlementOrder := do
  let amountIn ← parsePositiveBigInt order.amountIn "amount_in"
  let minAmountOut ← parsePositiveBigInt order.minAmountOut "min_amount_out"
  let maxExecutorRewardBps ← parseNonNegativeBigInt order.executorFee "max_executor_reward_bps"
  if 10000 < maxExecutorRewardBps then throw "invalid max_executor_reward_bps"
  let triggerPriceX18 ← parsePositiveBigInt order.triggerPriceX18 "trigger_price_x18"
  let expiry ← parsePositiveBigInt order.expiry "expiry"
  let nonce ← parseNonNegativeBigInt order.nonce "nonce"
  return { maker := order.maker, inputToken := order.inputToken
           outputToken := order.outputToken, amountIn, minAmountOut, maxExecutorRewardBps
           triggerPriceX18, expiry, nonce, recipient := order.recipient }

def calculateMaxExecutorReward (payload : SettlementOrder) (quotedAmountOut : Nat) : Nat :=
  if quotedAmountOut ≤ payload.minAmountOut then 0
  else if payload.maxExecutorRewardBps = 0 then 0
  else (quotedAmountOut - payload.minAmountOut) * payload.maxExecutorRewardBps / 10000

def buildDeadline (cfg : Config) (order : Order) (chainTimestamp : Nat) : Except String Int := do
  let expiry ← parsePositiveBigInt order.expiry "order expiry"
  if chainTimestamp = 0 then throw "invalid chain timestamp"
  let deadline := min (expiry : Int) (int64 (uint64 (chainTimestamp + cfg.txDeadline)))
  if deadline ≤ int64 chainTimestamp then throw "order deadline already expired"
  return deadline

def isProtocolBlockedReason (statusReason lastBlockReason : Reason) : Bool :=
  match if statusReason = .none then lastBlockReason else statusReason with
  | .text text => decide (text.toUpper = "PAUSED" ∨ text.toUpper = "EXECUTOR_NOT_SET")
  | _ => false

def shouldDelayProtocolBlockedRecheck (order : Order) (answers : Answers) : Bool :=
  answers.coolingDown && isProtocolBlockedReason order.statusReason order.lastBlockReason

/-! ## evaluateOrder -/

/-- The order goes back to `open`, with one text as both reasons. -/
def backToOpen (reason : Reason) : Update where
  statuses := [submittingExecute]
  set o := { o with status := opened, statusReason := reason, lastBlockReason := reason }

def payloadInvalid (error : String) : Update where
  statuses := [opened]
  set o := { o with
    status := opened
    statusReason := shortenReason ("order_payload_invalid: " ++ error) }

/-- The chain says that the order has been executed. -/
def closeExecuted : Update where
  statuses := [submittingExecute]
  set o := { o with
    status := executed
    statusReason := .confirmedByChainState
    lastBlockReason := .none
    submittedTxHash := none
    cancelledTxHash := none }

/-- The chain says that the nonce has been invalidated. -/
def closeCancelled : Update where
  statuses := [submittingExecute]
  set o := { o with
    status := cancelled
    statusReason := .confirmedByChainState
    lastBlockReason := .none
    submittedTxHash := none
    executedTxHash := none }

def closeExpired : Update where
  statuses := [submittingExecute]
  set o := { o with
    status := expired
    statusReason := .expiredByChainTime
    lastBlockReason := .orderExpired }

/-- A fee quote is stored whatever happens next. -/
structure FeeQuote where
  estimatedGasUsed    : Nat
  gasPriceAtQuote     : Nat
  requiredExecutorFee : Nat

/-- The `feeQuoteUpdates` in front of an update. -/
def FeeQuote.with (quote : FeeQuote) (u : Update) : Update where
  statuses := u.statuses
  set o := u.set { o with
    estimatedGasUsed := quote.estimatedGasUsed
    gasPriceAtQuote := quote.gasPriceAtQuote
    lastRequiredExecutorFee := quote.requiredExecutorFee }

/-- The arguments of `ExecuteOrder`, and the fee quote they rest on. -/
structure Submission where
  payload   : SettlementOrder
  signature : Bytes
  deadline  : Int
  quote     : FeeQuote

/-- An answer, or the update that its failure leads to. -/
def answered {α : Type} (what : String) : Except String α → Except Update α
  | .ok a => .ok a
  | .error error => .error (backToOpen (shortenReason (what ++ ": " ++ error)))

/-- The update that an evaluation ends with, early or not. -/
def ended : Except Update Update → Update
  | .ok u => u
  | .error u => u

/-- The branch of `evaluateOrder` for an order whose time is over. -/
def evaluateExpired (answers : Answers) : Update := ended do
  if ← answered "chain_state_check_failed" answers.isOrderExecuted then return closeExecuted
  if ← answered "chain_state_check_failed" answers.isNonceInvalidated then return closeCancelled
  return closeExpired

/-- The end of `evaluateOrder` for an order that `canExecuteOrder` turns down. -/
def evaluateBlocked (reason : String) (answers : Answers) : Update := ended do
  if reason = "ORDER_ALREADY_EXECUTED" then
    if ← answered "chain_state_check_failed" answers.isOrderExecuted then return closeExecuted
    return backToOpen (.text "chain_state_inconclusive: order_already_executed")
  else if reason = "NONCE_INVALIDATED" then
    if ← answered "chain_state_check_failed" answers.isNonceInvalidated then
      return closeCancelled
    return backToOpen (.text "chain_state_inconclusive: nonce_invalidated")
  else return backToOpen (shortenReason reason)

def insufficient (what : String) (check : MakerFundingCheck) (actual : Nat) : Update where
  statuses := [submittingExecute]
  set o := { o with
    status := opened
    statusReason := .text ("insufficient_" ++ what)
    lastBlockReason := shortenReason ("insufficient_" ++ what ++ "_required_" ++
      toString check.requiredAmountIn ++ "_actual_" ++ toString actual ++ "_token_" ++
      check.tokenHex) }

def rewardInsufficient (maxExecutorReward requiredExecutorFee : Nat) : Update where
  statuses := [submittingExecute]
  set o := { o with
    status := opened
    statusReason := .text "executor_reward_insufficient_for_current_gas"
    lastBlockReason := shortenReason ("max_executor_reward_" ++ toString maxExecutorReward ++
      "_below_required_" ++ toString requiredExecutorFee) }

/-- A check that ends the evaluation with an update. -/
def endIf (condition : Bool) (u : Update) : Except Update Unit :=
  if condition then .error u else .ok ()

/-- `answered` after a fee quote. -/
def answeredWith {α : Type} (quote : FeeQuote) (what : String) (r : Except String α) :
    Except Update α :=
  (answered what r).mapError quote.with

/-- The branch of `evaluateOrder` for an order that can be executed. -/
def evaluateExecutable (cfg : Config) (payload : SettlementOrder) (order : Order)
    (currentBlockTimestamp : Nat) (answers : Answers) : Except Update Submission := do
  let funding ← answered "funding_check_failed" answers.checkMakerFunding
  endIf (!funding.hasEnoughBalance) (insufficient "balance" funding funding.balance)
  endIf (!funding.hasEnoughAllowance) (insufficient "allowance" funding funding.allowance)
  let quotedAmountOut ← answered "order_quote_failed" answers.getOrderQuote
  let maxExecutorReward := calculateMaxExecutorReward payload quotedAmountOut
  let fee ← answered "executor_fee_quote_failed" answers.suggestExecutorFee
  let quote : FeeQuote :=
    { estimatedGasUsed := cfg.estimatedGasUsed
      gasPriceAtQuote := fee.gasPriceAtQuote
      requiredExecutorFee := fee.requiredExecutorFee }
  endIf (decide (maxExecutorReward < fee.requiredExecutorFee))
    (quote.with (rewardInsufficient maxExecutorReward fee.requiredExecutorFee))
  let signature ← answeredWith quote "invalid_signature"
    (order.signature.elim (.error "signature must be a valid hex string") .ok)
  let deadline ← answeredWith quote "deadline_invalid"
    (buildDeadline cfg order currentBlockTimestamp)
  return ⟨payload, signature, deadline, quote⟩

/-- `evaluateOrder` after the claim, up to the call of `ExecuteOrder`: the arguments of the
    call, or the update that ends the evaluation. -/
def evaluateClaimed (cfg : Config) (payload : SettlementOrder) (order : Order)
    (answers : Answers) : Except Update Submission := do
  let currentBlockTimestamp ← answered "chain_time_unavailable" answers.currentBlockTimestamp
  if uint64 payload.expiry ≤ currentBlockTimestamp then throw (evaluateExpired answers)
  else
    let reply ← answered "can_execute_failed" answers.canExecuteOrder
    if reply.executable then evaluateExecutable cfg payload order currentBlockTimestamp answers
    else throw (evaluateBlocked reply.reason answers)

/-- What `evaluateOrder` records after `ExecuteOrder`. -/
def submissionResult (quote : FeeQuote) : Except String TxHash → Update
  | .error error =>
    quote.with (backToOpen (shortenReason ("submit_failed: " ++ error)))
  | .ok txHash => quote.with
    { statuses := [submittingExecute]
      set := fun o => { o with
        status := pendingExecute
        statusReason := .submittedToChain
        lastBlockReason := .none
        submittedTxHash := some txHash } }

/-- The updates that an evaluation can end with, and what it was told in each case. -/
inductive Ending (answers : Answers) : Update → Prop
  | backToOpen (reason : Reason) : Ending answers (backToOpen reason)
  | insufficient (what : String) (check : MakerFundingCheck) (actual : Nat) :
      Ending answers (insufficient what check actual)
  | rewardInsufficient (maxExecutorReward requiredExecutorFee : Nat) :
      Ending answers (rewardInsufficient maxExecutorReward requiredExecutorFee)
  | closeExecuted : answers.isOrderExecuted = .ok true → Ending answers closeExecuted
  | closeCancelled : answers.isNonceInvalidated = .ok true → Ending answers closeCancelled
  | closeExpired : Ending answers closeExpired
  | quoted (quote : FeeQuote) {u : Update} : Ending answers u → Ending answers (quote.with u)

theorem Ending.statuses {answers : Answers} {u : Update} (h : Ending answers u) :
    u.statuses = [submittingExecute] := by
  induction h with
  | quoted quote _ ih => exact ih
  | _ => rfl

/-- If the evaluation ends here, then with one of these updates. -/
def Ends {α : Type} (answers : Answers) (r : Except Update α) : Prop :=
  ∀ u, r = .error u → Ending answers u

section Ends

variable {α β : Type} {answers : Answers}

theorem Ends.bind {r : Except Update α} {f : α → Except Update β} (h : Ends answers r)
    (hf : ∀ a, Ends answers (f a)) : Ends answers (r >>= f) := by
  intro u hu
  cases r with
  | error e =>
    cases hu
    exact h u rfl
  | ok a => exact hf a u hu

theorem Ends.ok (a : α) : Ends answers (.ok a : Except Update α) := by
  rintro u ⟨⟩

theorem Ends.error {u : Update} (h : Ending answers u) :
    Ends answers (.error u : Except Update α) := by
  rintro _ ⟨⟩
  exact h

theorem answered_ends (what : String) (r : Except String α) : Ends answers (answered what r) := by
  cases r with
  | error e => exact .error (.backToOpen _)
  | ok a => exact .ok a

theorem answeredWith_ends (quote : FeeQuote) (what : String) (r : Except String α) :
    Ends answers (answeredWith quote what r) := by
  cases r with
  | error e => exact .error (.quoted quote (.backToOpen _))
  | ok a => exact .ok a

theorem endIf_ends {condition : Bool} {u : Update} (h : Ending answers u) :
    Ends answers (endIf condition u) := by
  cases condition with
  | true => exact .error h
  | false => exact .ok ()

end Ends

theorem evaluateExpired_ending (answers : Answers) : Ending answers (evaluateExpired answers) := by
  unfold evaluateExpired
  cases hexecuted : answers.isOrderExecuted with
  | error e => exact .backToOpen _
  | ok executed =>
    cases executed with
    | true => exact .closeExecuted hexecuted
    | false =>
      cases hinvalidated : answers.isNonceInvalidated with
      | error e => exact .backToOpen _
      | ok invalidated =>
        cases invalidated with
        | true => exact .closeCancelled hinvalidated
        | false => exact .closeExpired

theorem evaluateBlocked_ending (reason : String) (answers : Answers) :
    Ending answers (evaluateBlocked reason answers) := by
  unfold evaluateBlocked
  split
  · cases hexecuted : answers.isOrderExecuted with
    | error e => exact .backToOpen _
    | ok executed =>
      cases executed with
      | true => exact .closeExecuted hexecuted
      | false => exact .backToOpen _
  · split
    · cases hinvalidated : answers.isNonceInvalidated with
      | error e => exact .backToOpen _
      | ok invalidated =>
        cases invalidated with
        | true => exact .closeCancelled hinvalidated
        | false => exact .backToOpen _
    · exact .backToOpen _

theorem evaluateExecutable_ends (cfg : Config) (payload : SettlementOrder) (order : Order)
    (now : Nat) (answers : Answers) :
    Ends answers (evaluateExecutable cfg payload order now answers) := by
  unfold evaluateExecutable
  refine (answered_ends _ _).bind fun funding => ?_
  refine (endIf_ends (.insufficient _ _ _)).bind fun _ => ?_
  refine (endIf_ends (.insufficient _ _ _)).bind fun _ => ?_
  refine (answered_ends _ _).bind fun quotedAmountOut => ?_
  refine (answered_ends _ _).bind fun fee => ?_
  refine (endIf_ends (.quoted _ (.rewardInsufficient _ _))).bind fun _ => ?_
  refine (answeredWith_ends _ _ _).bind fun signature => ?_
  exact (answeredWith_ends _ _ _).bind fun deadline => .ok _

theorem evaluateClaimed_ends (cfg : Config) (payload : SettlementOrder) (order : Order)
    (answers : Answers) : Ends answers (evaluateClaimed cfg payload order answers) := by
  unfold evaluateClaimed
  refine (answered_ends _ _).bind fun now => ?_
  split
  · exact .error (evaluateExpired_ending answers)
  · refine (answered_ends _ _).bind fun reply => ?_
    split
    · exact evaluateExecutable_ends _ _ _ _ _
    · exact .error (evaluateBlocked_ending reply.reason answers)

theorem submissionResult_statuses (quote : FeeQuote) (result : Except String TxHash) :
    (submissionResult quote result).statuses = [submittingExecute] := by
  cases result <;> rfl

/-! ## checkPendingReceipt -/

/-- An order in `submitting_execute` without a hash goes back to `open`. -/
def submissionInterrupted : Update where
  statuses := [submittingExecute]
  set o := { o with
    status := opened
    statusReason := .text "submission_interrupted_before_tx_hash"
    lastBlockReason := .text "submission_interrupted_before_tx_hash"
    submittedTxHash := none
    executedTxHash := none
    cancelledTxHash := none }

/-- An order in `submitting_execute` with a hash goes on to `pending_execute`. -/
def submissionFound : Update where
  statuses := [submittingExecute]
  set o := { o with
    status := pendingExecute
    statusReason := .submittedToChain
    lastBlockReason := .none }

/-- The hash whose receipt is asked for. -/
def pendingTxHash (isPendingCancel : Bool) (order : Order) : Option TxHash :=
  if isPendingCancel then order.cancelledTxHash else order.submittedTxHash

def currentPendingStatus (isPendingCancel : Bool) : Status :=
  if isPendingCancel then pendingCancel else pendingExecute

def missingTxHash (isPendingCancel : Bool) : Update where
  statuses := [currentPendingStatus isPendingCancel]
  set o := { o with
    status := opened
    statusReason := .text "pending_without_valid_tx_hash"
    lastBlockReason := .text "pending_without_valid_tx_hash"
    submittedTxHash := none
    cancelledTxHash := none }

/-- A cancellation fails, and the order goes back to `open`. -/
def reopenCancel (text : String) (block : Order → Int) : Update where
  statuses := [pendingCancel]
  set o := { o with
    status := opened
    statusReason := .text text
    lastBlockReason := .text text
    cancelledTxHash := none
    lastCheckedBlock := block o }

/-- An execution fails, and the order goes back to `open`. -/
def reopenExecute (text : String) (block : Order → Int) : Update where
  statuses := [pendingExecute]
  set o := { o with
    status := opened
    statusReason := .text text
    lastBlockReason := .text text
    submittedTxHash := none
    lastCheckedBlock := block o }

/-- A cancellation is confirmed. -/
def confirmCancel (reason : Reason) (block : Order → Int) : Update where
  statuses := [pendingCancel]
  set o := { o with
    status := cancelled
    statusReason := reason
    lastBlockReason := .none
    submittedTxHash := none
    executedTxHash := none
    lastCheckedBlock := block o }

/-- The transaction is known and has no receipt. -/
def stillPending (isPendingCancel : Bool) : Update where
  statuses := [currentPendingStatus isPendingCancel]
  set o :=
    let reason := Reason.text
      (if isPendingCancel then "cancel_tx_pending_on_chain" else "tx_pending_on_chain")
    { o with statusReason := reason, lastBlockReason := reason }

/-- The transaction succeeded, and the chain does not show its effect yet. -/
def waitForIndexer (isPendingCancel : Bool) (block : Int) : Update where
  statuses := [currentPendingStatus isPendingCancel]
  set o := { o with
    status := currentPendingStatus isPendingCancel
    statusReason := .text (if isPendingCancel then "cancel_tx_confirmed_waiting_for_indexer"
      else "tx_confirmed_waiting_for_indexer")
    lastBlockReason := .none
    lastCheckedBlock := block }

/-- An execution is confirmed. -/
def confirmExecute (txHash : TxHash) (block : Int) (result : Option (Int × Int)) : Update where
  statuses := [pendingExecute]
  set o := { o with
    status := executed
    statusReason := .confirmedByChainState
    lastBlockReason := .none
    submittedTxHash := none
    cancelledTxHash := none
    executedTxHash := some txHash
    lastCheckedBlock := block
    settledAmountOut := (result.map Prod.fst).getD o.settledAmountOut
    settledExecutorFee := (result.map Prod.snd).getD o.settledExecutorFee }

def expireAfterRevert (block : Int) : Update where
  statuses := [pendingExecute]
  set o := { o with
    status := expired
    statusReason := .text "expired_after_reverted_execute"
    lastBlockReason := .orderExpired
    submittedTxHash := none
    lastCheckedBlock := block }

/-- Neither a receipt nor a transaction; `none` is an error of the client. -/
def checkMissing (isPendingCancel : Bool) (order : Order) (answers : Answers) : Option Update :=
  if isPendingCancel then
    match parseNonNegativeBigInt order.nonce "nonce" with
    | .error _ => some (reopenCancel "invalid_nonce_in_order_record" (·.lastCheckedBlock))
    | .ok _ =>
      match answers.isNonceInvalidated with
      | .error _ => none
      | .ok true => some (confirmCancel .confirmedByChainState (·.lastCheckedBlock))
      | .ok false => some (reopenCancel "cancel_tx_missing_from_chain_retryable"
          (·.lastCheckedBlock))
  else some (reopenExecute "submitted_tx_missing_from_chain_retryable" (·.lastCheckedBlock))

/-- A receipt of success. -/
def checkSuccess (isPendingCancel : Bool) (order : Order) (txHash : TxHash) (receipt : Receipt)
    (answers : Answers) : Option Update :=
  let block := int64 (uint64 receipt.blockNumber)
  if isPendingCancel then
    match parseNonNegativeBigInt order.nonce "nonce" with
    | .error _ => some (confirmCancel (.text "cancel_tx_confirmed_with_invalid_local_nonce")
        fun _ => block)
    | .ok _ =>
      match answers.isNonceInvalidated with
      | .error _ => none
      | .ok true => some (confirmCancel .confirmedByChainState fun _ => block)
      | .ok false => some (waitForIndexer isPendingCancel block)
  else
    match answers.isOrderExecuted with
    | .error _ => none
    | .ok true => some (confirmExecute txHash block receipt.executionResult)
    | .ok false => some (waitForIndexer isPendingCancel block)

/-- A receipt of a revert. -/
def checkReverted (isPendingCancel : Bool) (order : Order) (receipt : Receipt)
    (answers : Answers) : Update :=
  let block := int64 (uint64 receipt.blockNumber)
  if isPendingCancel then
    match parseNonNegativeBigInt order.nonce "nonce" with
    | .error _ => reopenCancel "invalid_nonce_in_order_record" fun _ => block
    | .ok _ =>
      match answers.isNonceInvalidated with
      | .ok true => confirmCancel .confirmedByChainState fun _ => block
      | _ => reopenCancel "cancel_tx_reverted_retryable" fun _ => block
  else
    match answers.currentBlockTimestamp with
    | .error _ => reopenExecute "tx_reverted_retryable" fun _ => block
    | .ok currentBlockTimestamp =>
      match parsePositiveBigInt order.expiry "expiry" with
      | .error _ => reopenExecute "invalid_expiry_in_order_record" fun _ => block
      | .ok expiry =>
        if uint64 expiry ≤ currentBlockTimestamp then expireAfterRevert block
        else reopenExecute "tx_reverted_retryable" fun _ => block

/-- `checkPendingReceipt` of an order that waits for a transaction; `none` is an error of the
    client, which writes nothing. -/
def checkPendingReceipt (isPendingCancel : Bool) (order : Order) (answers : Answers) :
    Option Update :=
  match pendingTxHash isPendingCancel order with
  | none => some (missingTxHash isPendingCancel)
  | some txHash =>
    match answers.receiptStatus with
    | .error _ => none
    | .ok (some receipt) =>
      if receipt.successful then checkSuccess isPendingCancel order txHash receipt answers
      else some (checkReverted isPendingCancel order receipt answers)
    | .ok none =>
      match answers.transactionKnown with
      | .error _ => none
      | .ok true => some (stillPending isPendingCancel)
      | .ok false => checkMissing isPendingCancel order answers

/-- The updates that a check can lead to, and what it was told in each case. -/
inductive Decision (order : Order) (answers : Answers) : Bool → Update → Prop
  | missingTxHash {isPendingCancel} : pendingTxHash isPendingCancel order = none →
      Decision order answers isPendingCancel (missingTxHash isPendingCancel)
  | stillPending (isPendingCancel : Bool) :
      Decision order answers isPendingCancel (stillPending isPendingCancel)
  | waitForIndexer (isPendingCancel : Bool) (block : Int) :
      Decision order answers isPendingCancel (waitForIndexer isPendingCancel block)
  | reopenCancel (text : String) (block : Order → Int) :
      Decision order answers true (reopenCancel text block)
  | confirmCancel (block : Order → Int) : answers.isNonceInvalidated = .ok true →
      Decision order answers true (confirmCancel .confirmedByChainState block)
  | confirmInvalidNonce (reason : Reason) (block : Order → Int) : order.nonce < 0 →
      Decision order answers true (confirmCancel reason block)
  | reopenExecute (text : String) (block : Order → Int) :
      Decision order answers false (reopenExecute text block)
  | confirmExecute {txHash} (block : Int) (result : Option (Int × Int)) :
      answers.isOrderExecuted = .ok true →
      Decision order answers false (confirmExecute txHash block result)
  | expireAfterRevert (block : Int) : Decision order answers false (expireAfterRevert block)

theorem parseNonNegativeBigInt_error {value : Int} {field error : String}
    (h : parseNonNegativeBigInt value field = .error error) : value < 0 := by
  unfold parseNonNegativeBigInt at h
  split at h
  · cases h
  · exact Int.not_le.mp ‹_›

theorem checkMissing_decides {isPendingCancel : Bool} {order : Order} {answers : Answers}
    {u : Update} (h : checkMissing isPendingCancel order answers = some u) :
    Decision order answers isPendingCancel u := by
  unfold checkMissing at h
  cases isPendingCancel with
  | false =>
    cases h
    exact .reopenExecute _ _
  | true =>
    simp only [if_true] at h
    split at h
    · cases h
      exact .reopenCancel _ _
    · split at h <;> cases h
      · exact .confirmCancel _ ‹_›
      · exact .reopenCancel _ _

theorem checkSuccess_decides {isPendingCancel : Bool} {order : Order} {txHash : TxHash}
    {receipt : Receipt} {answers : Answers} {u : Update}
    (h : checkSuccess isPendingCancel order txHash receipt answers = some u) :
    Decision order answers isPendingCancel u := by
  unfold checkSuccess at h
  cases isPendingCancel with
  | false =>
    simp only [Bool.false_eq_true, if_false] at h
    split at h <;> cases h
    · exact .confirmExecute _ _ ‹_›
    · exact .waitForIndexer _ _
  | true =>
    simp only [if_true] at h
    split at h
    · cases h
      exact .confirmInvalidNonce _ _ (parseNonNegativeBigInt_error ‹_›)
    · split at h <;> cases h
      · exact .confirmCancel _ ‹_›
      · exact .waitForIndexer _ _

theorem checkReverted_decides (isPendingCancel : Bool) (order : Order) (receipt : Receipt)
    (answers : Answers) :
    Decision order answers isPendingCancel
      (checkReverted isPendingCancel order receipt answers) := by
  unfold checkReverted
  cases isPendingCancel with
  | false =>
    simp only [Bool.false_eq_true, if_false]
    split
    · exact .reopenExecute _ _
    · split
      · exact .reopenExecute _ _
      · split
        · exact .expireAfterRevert _
        · exact .reopenExecute _ _
  | true =>
    simp only [if_true]
    split
    · exact .reopenCancel _ _
    · split
      · exact .confirmCancel _ ‹_›
      · exact .reopenCancel _ _

theorem checkPendingReceipt_decides {isPendingCancel : Bool} {order : Order} {answers : Answers}
    {u : Update} (h : checkPendingReceipt isPendingCancel order answers = some u) :
    Decision order answers isPendingCancel u := by
  unfold checkPendingReceipt at h
  split at h
  · cases h
    exact .missingTxHash ‹_›
  · split at h
    · cases h
    · split at h
      · exact checkSuccess_decides h
      · cases h
        exact checkReverted_decides _ _ _ _
    · split at h
      · cases h
      · cases h
        exact .stillPending _
      · exact checkMissing_decides h

/-- A check writes an order only in the status in which it takes the order to be. -/
theorem Decision.statuses {isPendingCancel : Bool} {order : Order} {answers : Answers}
    {u : Update} (h : Decision order answers isPendingCancel u) :
    u.statuses = [currentPendingStatus isPendingCancel] := by
  cases h <;> rfl

theorem Decision.submitting_notMem {isPendingCancel : Bool} {order : Order} {answers : Answers}
    {u : Update} (h : Decision order answers isPendingCancel u) :
    submittingExecute ∉ u.statuses := by
  rw [h.statuses]
  cases isPendingCancel <;> simp [currentPendingStatus]

/-! ## CancelOrders -/

/-- What `CancelOrders` writes to an order. -/
def registerCancel (cancelTxHash : TxHash) : Update where
  statuses := [opened]
  set o := { o with
    status := pendingCancel
    statusReason := .cancelTxSubmittedByUser
    cancelledTxHash := some cancelTxHash }

end Backend
