-- SUMMARY: The backend's four decisions about an expiry agree with the integers if and only if the low 64 bits of a later expiry are later too and the deadline fits.
import FluxSwap.Backend.Acceptance

/-!
# Expiry decisions

`CreateOrder`, `evaluateOrder` and `checkPendingReceipt` compare the low 64 bits of the
expiry with the time of the chain; `buildDeadline` compares integers, and counts the deadline
from the time of the chain in 64 bits.
-/

namespace Backend

open Status OrderSignature

/-! ## CreateOrder -/

/-- A request whose payload gets to the check of its expiry at this time of the chain. -/
structure ReachesExpiry (go : GoEthereum) (common : Common) (env : CreateEnvironment)
    (r : CreateOrderRequest) (payload : SettlementOrder) (timestamp : Nat) : Prop where
  checked : checkRequest common r = .ok ()
  fresh : ∃ db, env.db = some db ∧ dedupe db r = .ok ()
  verified : ∃ signature, verifyRequest go common r = .ok (payload, signature)
  client : ∃ client, env.chainClient = some client ∧
    client.currentBlockTimestamp = .ok timestamp

theorem orderAlreadyExists_ne_expired : orderAlreadyExists ≠ orderAlreadyExpired := by
  decide +kernel

theorem insertOrder_ne_expired (db : OrderRepository) (order : OrderRecord) :
    insertOrder db order ≠ .error (.refused none orderAlreadyExpired) := by
  unfold insertOrder
  split
  · simp only [ne_eq, reduceCtorEq, not_false_eq_true]
  · simp only [ne_eq, Except.error.injEq, Rejection.refused.injEq, true_and]
    exact orderAlreadyExists_ne_expired
  · simp only [ne_eq, Except.error.injEq, reduceCtorEq, not_false_eq_true]

theorem createOrder_expired_iff {go : GoEthereum} {common : Common} {env : CreateEnvironment}
    {r : CreateOrderRequest} {payload : SettlementOrder} {timestamp : Nat}
    (h : ReachesExpiry go common env r payload timestamp) :
    createOrder go common env r = .error (.refused none orderAlreadyExpired) ↔
      0 < payload.expiry ∧ uint64 payload.expiry ≤ timestamp := by
  obtain ⟨db, hdb, hfresh⟩ := h.fresh
  obtain ⟨signature, hverified⟩ := h.verified
  obtain ⟨client, hclient, htimestamp⟩ := h.client
  unfold createOrder initialQuote checkExpiry
  simp only [h.checked, hdb, hfresh, hverified, hclient, htimestamp, bind, Except.bind]
  by_cases hexpired : 0 < payload.expiry ∧ uint64 payload.expiry ≤ timestamp
  · rw [if_pos hexpired]
    exact ⟨fun _ => hexpired, fun _ => rfl⟩
  · rw [if_neg hexpired]
    exact ⟨fun h => (insertOrder_ne_expired _ _ h).elim, fun h => (hexpired h).elim⟩

/-! ## The executor -/

/-- The update leaves an order expired. -/
def MarksExpired (u : Update) : Prop := ∀ order, (u.set order).status = expired

/-- The update puts an order back. -/
def Reopens (u : Update) : Prop := ∀ order, (u.set order).status = opened

theorem Reopens.not_marksExpired {u : Update} (h : Reopens u) (order : Order) :
    ¬MarksExpired u := by
  intro hexpired
  have hstatus := hexpired order
  rw [h order] at hstatus
  cases hstatus

theorem answered_reopens {α : Type} {what : String} {r : Except String α} {u : Update}
    (h : answered what r = .error u) : Reopens u := by
  cases r with
  | ok a => cases h
  | error e =>
    cases h
    exact fun _ => rfl

theorem FeeQuote.with_reopens {quote : FeeQuote} {u : Update} (h : Reopens u) :
    Reopens (quote.with u) := fun _ => h _

theorem answeredWith_reopens {α : Type} {quote : FeeQuote} {what : String}
    {r : Except String α} {u : Update} (h : answeredWith quote what r = .error u) :
    Reopens u := by
  unfold answeredWith at h
  cases hanswered : answered what r with
  | ok a =>
    rw [hanswered] at h
    cases h
  | error u' =>
    rw [hanswered] at h
    cases h
    exact FeeQuote.with_reopens (answered_reopens hanswered)

theorem endIf_error {condition : Bool} {u u' : Update} (h : endIf condition u = .error u') :
    u' = u := by
  unfold endIf at h
  split at h <;> cases h
  rfl

/-- An order that can be executed, or could be but for its funds or its fee, is not marked. -/
theorem evaluateExecutable_reopens {cfg : Config} {payload : SettlementOrder} {order : Order}
    {now : Nat} {answers : Answers} {u : Update}
    (h : evaluateExecutable cfg payload order now answers = .error u) : Reopens u := by
  unfold evaluateExecutable at h
  obtain h | ⟨funding, -, h⟩ := except_bind_eq_error.mp h
  · exact answered_reopens h
  obtain h | ⟨_, -, h⟩ := except_bind_eq_error.mp h
  · rw [endIf_error h]
    exact fun _ => rfl
  obtain h | ⟨_, -, h⟩ := except_bind_eq_error.mp h
  · rw [endIf_error h]
    exact fun _ => rfl
  obtain h | ⟨quotedAmountOut, -, h⟩ := except_bind_eq_error.mp h
  · exact answered_reopens h
  obtain h | ⟨fee, -, h⟩ := except_bind_eq_error.mp h
  · exact answered_reopens h
  obtain h | ⟨_, -, h⟩ := except_bind_eq_error.mp h
  · rw [endIf_error h]
    exact FeeQuote.with_reopens fun _ => rfl
  obtain h | ⟨signature, -, h⟩ := except_bind_eq_error.mp h
  · exact answeredWith_reopens h
  obtain h | ⟨deadline, -, h⟩ := except_bind_eq_error.mp h
  · exact answeredWith_reopens h
  · cases h

/-- What the chain says of an order that is neither executed nor cancelled. -/
structure Unsettled (answers : Answers) : Prop where
  notExecuted : answers.isOrderExecuted = .ok false
  notInvalidated : answers.isNonceInvalidated = .ok false

theorem Unsettled.evaluateExpired {answers : Answers} (h : Unsettled answers) :
    evaluateExpired answers = closeExpired := by
  unfold Backend.evaluateExpired
  rw [h.notExecuted, h.notInvalidated]
  rfl

theorem Unsettled.evaluateBlocked_reopens {answers : Answers} (h : Unsettled answers)
    (reason : String) : Reopens (evaluateBlocked reason answers) := by
  unfold evaluateBlocked
  rw [h.notExecuted, h.notInvalidated]
  split
  · exact fun _ => rfl
  · split <;> exact fun _ => rfl

theorem evaluateClaimed_marksExpired_iff {cfg : Config} {payload : SettlementOrder}
    {order : Order} {answers : Answers} {timestamp : Nat}
    (htimestamp : answers.currentBlockTimestamp = .ok timestamp) (h : Unsettled answers) :
    (∃ u, evaluateClaimed cfg payload order answers = .error u ∧ MarksExpired u) ↔
      uint64 payload.expiry ≤ timestamp := by
  unfold evaluateClaimed
  rw [htimestamp]
  change (∃ u, (if uint64 payload.expiry ≤ timestamp then throw (evaluateExpired answers) else _) =
    Except.error u ∧ MarksExpired u) ↔ _
  by_cases hexpired : uint64 payload.expiry ≤ timestamp
  · rw [if_pos hexpired, h.evaluateExpired]
    exact ⟨fun _ => hexpired, fun _ => ⟨closeExpired, rfl, fun _ => rfl⟩⟩
  · rw [if_neg hexpired]
    refine ⟨?_, fun h => (hexpired h).elim⟩
    rintro ⟨u, hu, hmarks⟩
    have hreopens : Reopens u := by
      obtain hu | ⟨reply, -, hu⟩ := except_bind_eq_error.mp hu
      · exact answered_reopens hu
      · split at hu
        · exact evaluateExecutable_reopens hu
        · cases hu
          exact h.evaluateBlocked_reopens _
    exact (hreopens.not_marksExpired order hmarks).elim

/-- An order that waits for an execution which has reverted. -/
structure Reverted (order : Order) (answers : Answers) : Prop where
  submitted : ∃ txHash, order.submittedTxHash = some txHash
  receipt : ∃ receipt, answers.receiptStatus = .ok (some receipt) ∧ receipt.successful = false

theorem checkPendingReceipt_marksExpired_iff {order : Order} {answers : Answers}
    {expiry timestamp : Nat} (h : Reverted order answers) (hpositive : 0 < expiry)
    (hexpiry : order.expiry = expiry)
    (htimestamp : answers.currentBlockTimestamp = .ok timestamp) :
    (∃ u, checkPendingReceipt false order answers = some u ∧ MarksExpired u) ↔
      uint64 expiry ≤ timestamp := by
  obtain ⟨txHash, htxHash⟩ := h.submitted
  obtain ⟨receipt, hreceipt, hfailed⟩ := h.receipt
  have hparse : parsePositiveBigInt order.expiry "expiry" = .ok expiry := by
    rw [hexpiry]
    unfold parsePositiveBigInt
    rw [if_pos (by exact_mod_cast hpositive), Int.toNat_natCast]
  simp only [checkPendingReceipt, pendingTxHash, checkReverted, Bool.false_eq_true, if_false,
    htxHash, hreceipt, hfailed, htimestamp, hparse, Option.some.injEq, exists_eq_left']
  by_cases hexpired : uint64 expiry ≤ timestamp
  · rw [if_pos hexpired]
    exact ⟨fun _ => hexpired, fun _ _ => rfl⟩
  · rw [if_neg hexpired]
    have hreopens : Reopens (reopenExecute "tx_reverted_retryable"
        fun _ => int64 (uint64 receipt.blockNumber)) := fun _ => rfl
    exact ⟨fun hmarks => (hreopens.not_marksExpired order hmarks).elim,
      fun h => (hexpired h).elim⟩

/-! ## The deadline -/

theorem int64_of_lt {n : Nat} (h : n < 2 ^ 63) : int64 n = n := by
  unfold int64
  rw [Int.bmod_def]
  omega

/-- The time of the deadline is later in 64 bits if it is later at all and has not become
    negative. -/
theorem lt_int64_iff {timestamp duration : Nat} (h : timestamp < 2 ^ 63) :
    (timestamp : Int) < int64 (uint64 (timestamp + duration)) ↔
      0 < uint64 duration ∧ timestamp + uint64 duration < 2 ^ 63 := by
  unfold uint64 int64
  rw [Int.bmod_def]
  omega

/-- The deadline of an order that has not expired. -/
theorem buildDeadline_iff {cfg : Config} {order : Order} {expiry timestamp : Nat}
    (hexpiry : order.expiry = expiry) (htime : timestamp < 2 ^ 63) (hlater : timestamp < expiry) :
    (∃ deadline, buildDeadline cfg order timestamp = .ok deadline ∧ timestamp < deadline ∧
      deadline ≤ expiry) ↔
      0 < timestamp ∧ 0 < uint64 cfg.txDeadline ∧ timestamp + uint64 cfg.txDeadline < 2 ^ 63 := by
  have hparse : parsePositiveBigInt order.expiry "order expiry" = .ok expiry := by
    rw [hexpiry]
    unfold parsePositiveBigInt
    rw [if_pos (by omega), Int.toNat_natCast]
  rw [← lt_int64_iff htime]
  unfold buildDeadline
  simp only [hparse, int64_of_lt htime, bind, Except.bind]
  by_cases hzero : timestamp = 0
  · rw [if_pos hzero]
    constructor
    · rintro ⟨deadline, hbuilt, -⟩
      cases hbuilt
    · exact fun h => absurd h.1 (by omega)
  rw [if_neg hzero]
  dsimp only [pure, Except.pure]
  by_cases hover : min (expiry : Int) (int64 (uint64 (timestamp + cfg.txDeadline))) ≤ timestamp
  · rw [if_pos hover]
    constructor
    · rintro ⟨deadline, hbuilt, -⟩
      cases hbuilt
    · exact fun h => absurd h.2 (by omega)
  · rw [if_neg hover]
    refine ⟨fun _ => by omega, fun _ => ⟨_, rfl, by omega, by omega⟩⟩

/-! ## All decisions -/

/-- For orders of this expiry at this time of the chain: each of the three decisions that an
    order has expired is the comparison of the integers, and an order that has not expired
    gets a deadline between the time and its expiry. -/
structure ExpiryExact (go : GoEthereum) (common : Common) (cfg : Config)
    (expiry timestamp : Nat) : Prop where
  created : ∀ env r payload, ReachesExpiry go common env r payload timestamp →
    payload.expiry = expiry →
    (createOrder go common env r = .error (.refused none orderAlreadyExpired) ↔
      expiry ≤ timestamp)
  evaluated : ∀ order payload answers, buildSettlementOrder order = .ok payload →
    payload.expiry = expiry → answers.currentBlockTimestamp = .ok timestamp →
    Unsettled answers →
    ((∃ u, evaluateClaimed cfg payload order answers = .error u ∧ MarksExpired u) ↔
      expiry ≤ timestamp)
  reverted : ∀ order answers, Reverted order answers → order.expiry = expiry →
    answers.currentBlockTimestamp = .ok timestamp →
    ((∃ u, checkPendingReceipt false order answers = some u ∧ MarksExpired u) ↔
      expiry ≤ timestamp)
  deadline : ∀ order : Order, order.expiry = expiry → timestamp < expiry →
    ∃ deadline, buildDeadline cfg order timestamp = .ok deadline ∧ timestamp < deadline ∧
      deadline ≤ expiry

/-- An order that waits for its execution. -/
def expiringOrder (expiry : Nat) : Order where
  maker := 1
  inputToken := 2
  outputToken := 3
  recipient := 1
  amountIn := 1
  minAmountOut := 1
  executorFee := 0
  triggerPriceX18 := 1
  expiry := expiry
  nonce := 0
  signature := none
  status := pendingExecute
  statusReason := .submittedToChain
  lastBlockReason := .none
  submittedTxHash := some 1
  executedTxHash := none
  cancelledTxHash := none
  settledAmountOut := 0
  settledExecutorFee := 0
  lastCheckedBlock := 0
  estimatedGasUsed := 0
  gasPriceAtQuote := 0
  lastRequiredExecutorFee := 0

/-- The receipt of a revert, and the time of the chain. -/
def revertedAt (timestamp : Nat) : Answers where
  coolingDown := false
  currentBlockTimestamp := .ok timestamp
  isOrderExecuted := .ok false
  isNonceInvalidated := .ok false
  canExecuteOrder := .error ""
  checkMakerFunding := .error ""
  getOrderQuote := .error ""
  suggestExecutorFee := .error ""
  receiptStatus := .ok (some ⟨false, 1, none⟩)
  transactionKnown := .ok true

theorem reverted_expiringOrder (expiry timestamp : Nat) :
    Reverted (expiringOrder expiry) (revertedAt timestamp) where
  submitted := ⟨1, rfl⟩
  receipt := ⟨_, rfl, rfl⟩

/-- The decisions are those of the integers exactly if the order has expired, or the low 64
    bits of the expiry are later than the time of the chain too and the deadline fits. -/
theorem expiryExact_iff (go : GoEthereum) (common : Common) (cfg : Config)
    {expiry timestamp : Nat} (hpositive : 0 < expiry) (htime : timestamp < 2 ^ 63) :
    ExpiryExact go common cfg expiry timestamp ↔
      expiry ≤ timestamp ∨ timestamp < uint64 expiry ∧
        0 < timestamp ∧ 0 < uint64 cfg.txDeadline ∧
        timestamp + uint64 cfg.txDeadline < 2 ^ 63 := by
  constructor
  · intro h
    by_cases hexpired : expiry ≤ timestamp
    · exact .inl hexpired
    · refine .inr ⟨?_, ?_⟩
      · have hreverted := reverted_expiringOrder expiry timestamp
        have hdecided := h.reverted _ _ hreverted rfl rfl
        rw [checkPendingReceipt_marksExpired_iff hreverted hpositive rfl rfl] at hdecided
        omega
      · have hlater := Nat.not_le.mp hexpired
        exact (buildDeadline_iff rfl htime hlater).mp
          (h.deadline (expiringOrder expiry) rfl hlater)
  · intro h
    have hlow : uint64 expiry ≤ expiry := Nat.mod_le _ _
    have hsame : uint64 expiry ≤ timestamp ↔ expiry ≤ timestamp := by omega
    refine ⟨?_, ?_, ?_, ?_⟩
    · rintro env r payload hreaches rfl
      rw [createOrder_expired_iff hreaches, ← hsame]
      exact and_iff_right hpositive
    · rintro order payload answers - rfl htimestamp hunsettled
      rw [evaluateClaimed_marksExpired_iff htimestamp hunsettled, hsame]
    · intro order answers hreverted hexpiry htimestamp
      rw [checkPendingReceipt_marksExpired_iff hreverted hpositive hexpiry htimestamp, hsame]
    · intro order hexpiry hlater
      exact (buildDeadline_iff hexpiry htime hlater).mpr (h.resolve_left (by omega)).2

/-- At a usual time, with the usual two minutes, the decisions are exact. -/
theorem expiryExact_iff_usual : ExpiryExact SignedExample.goEthereum SignedExample.common
    ⟨120, 400000⟩ 1800000000 1700000000 :=
  (expiryExact_iff _ _ _ (by decide) (by decide)).mpr
    (.inr ⟨by decide, by decide, by decide, by decide⟩)

/-- An expiry whose low 64 bits are zero counts as over. -/
theorem not_expiryExact_of_large :
    ¬∀ (go : GoEthereum) (common : Common) (cfg : Config) (expiry timestamp : Nat), 0 < expiry →
      expiry < 2 ^ 256 → timestamp < 2 ^ 63 → ExpiryExact go common cfg expiry timestamp := by
  intro h
  have hexact := h SignedExample.goEthereum SignedExample.common ⟨120, 400000⟩ (2 ^ 64) 1
    (by decide) (by decide) (by decide)
  have hreverted := reverted_expiringOrder (2 ^ 64) 1
  have hdecided := hexact.reverted _ _ hreverted rfl rfl
  rw [checkPendingReceipt_marksExpired_iff hreverted (by decide) rfl rfl] at hdecided
  exact absurd (hdecided.mp (by decide)) (by decide)

end Backend
