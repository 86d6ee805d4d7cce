-- SUMMARY: The settlement contract, the executor and the indexer as one system, and what each of its steps does to the chain and to the tables.
import FluxSwap.Backend.Absorbing
import FluxSwap.Indexer.Decoding
import FluxSwap.Indexer.Foreign
import FluxSwap.Settlement.Nonces

/-!
# The contract, the executor and the indexer

The chain moves by transactions of anybody. The executor's loops and `CancelOrders` write the
tables by what the chain has answered, and the indexer applies the logs in their order, late
and maybe again. Flags on the chain only go up, so a positive answer stays right however old
it is; a negative one says nothing.
-/

namespace Outcome

open Backend
open Backend.Status (opened submittingExecute pendingExecute pendingCancel executed cancelled expired)
open FluxSignedOrderSettlement (Deployment SignedOrder Event hashOrder)

variable {ω : Type}

/-! ## Data -/

/-- Where the logs of the contract stand on the chain, in the order of their events. -/
structure Places where
  txHash      : Nat → TxHash
  logIndex    : Nat → Nat
  blockNumber : Nat → Nat
  distinct    : ∀ {i j}, txHash i = txHash j → logIndex i = logIndex j → i = j

/-- The contract, the tables with the executor's instances, and how many logs have been
    applied. -/
structure State (ω : Type) where
  chain     : FluxSignedOrderSettlement.State ω
  backend   : Backend.State
  delivered : Nat

/-- The steps: anything happens on the chain, a signed order is stored, an instance of the
    executor works, a cancellation is registered, and a log is delivered, for the first time
    or again. -/
inductive Op (ω : Type)
  | chain (step : FluxSignedOrderSettlement.Step ω)
  | createOrder (signed : SignedOrder) (new : NewOrder)
  | worker (i : Nat) (act : Act)
  | cancelOrders (key : OrderKey) (cancelTxHash : TxHash)
  | deliver (i : Nat)

inductive OpError
  | service (error : ServiceError)
  | otherOrder
  | untruthful
  | notEmitted
  | indexer (error : EventError)

/-! ## Answers of the chain -/

/-- The client says yes. -/
def saysYes : Except String Bool → Bool
  | .ok answer => answer
  | .error _ => false

/-- What the client affirms of the order in hand is so. -/
def truthful (chain : FluxSignedOrderSettlement.State ω) (task : Task) (act : Act) : Bool :=
  match act.answers, task.entries.head? with
  | some answers, some (key, order) =>
    (!saysYes answers.isOrderExecuted || chain.storage.orderExecuted key.orderHash) &&
      (!saysYes answers.isNonceInvalidated ||
        chain.storage.invalidatedNonce order.maker order.nonce.toNat)
  | _, _ => true

/-- `checkPendingReceipt` asks whether the nonce has been invalidated. -/
def receiptAsksNonce (order : Order) (answers : Answers) : Bool :=
  decide (order.status = pendingCancel) && order.cancelledTxHash.isSome &&
    match answers.receiptStatus with
    | .error _ => false
    | .ok (some _) => true
    | .ok none =>
      match answers.transactionKnown with
      | .error _ => false
      | .ok known => !known

/-- `evaluateOrder` asks whether the nonce has been invalidated. -/
def evaluationAsksNonce (payload : SettlementOrder) (answers : Answers) : Bool :=
  match answers.currentBlockTimestamp with
  | .error _ => false
  | .ok now =>
    if uint64 payload.expiry ≤ now then
      match answers.isOrderExecuted with
      | .error _ => false
      | .ok answer => !answer
    else
      match answers.canExecuteOrder with
      | .error _ => false
      | .ok reply => !reply.executable && decide (reply.reason = "NONCE_INVALIDATED")

/-- The order of which the instance asks whether its nonce has been invalidated, and the status
    in which it closes it on a yes. -/
def asksNonce : Task → Act → Option (OrderKey × Status)
  | .claimed key payload _ _, .executeOrder answers _ =>
    if evaluationAsksNonce payload answers then some (key, submittingExecute) else none
  | .reconciling ((key, order) :: _), .checkPendingReceipt answers =>
    if receiptAsksNonce order answers then some (key, pendingCancel) else none
  | _, _ => none

/-! ## Steps -/

section Steps

variable (d : Deployment ω) (places : Places)

/-- The key of an order of the contract. -/
def keyOf (orderHash : Bytes32) : OrderKey := ⟨d.chainid, d.self, orderHash⟩

/-- The part of the event that every log has. -/
def baseEvent (i : Nat) (name : EventName) : Indexer.OrderEvent where
  chainId := d.chainid
  contractAddress := d.self
  name := name
  removed := false
  txHash := places.txHash i
  logIndex := places.logIndex i
  blockNumber := places.blockNumber i
  orderHash := 0
  maker := 0
  nonce := 0
  grossAmountOut := 0
  recipientAmountOut := 0
  executorFeeAmount := 0

/-- What the indexer reads of the log of an event, if it is one of its events. -/
def standardised (i : Nat) : Event → Option Indexer.OrderEvent
  | .orderExecuted orderHash order _ grossAmountOut recipientAmountOut executorFeeAmount =>
    some { baseEvent d places i .orderExecuted with
      orderHash := orderHash
      maker := order.maker
      grossAmountOut := grossAmountOut
      recipientAmountOut := recipientAmountOut
      executorFeeAmount := executorFeeAmount }
  | .nonceInvalidated maker nonce =>
    some { baseEvent d places i .nonceInvalidated with maker := maker, nonce := nonce }
  | _ => none

/-- The log is that of the `i`-th event. -/
structure LogAt (cfg : Indexer.Config) (i : Nat) (entry : Indexer.Log) : Prop where
  chainId : cfg.chainId = d.chainid
  address : entry.address = d.self
  txHash : entry.txHash = places.txHash i
  index : entry.index = places.logIndex i
  blockNumber : entry.blockNumber = places.blockNumber i
  kept : entry.removed = false

/-- `ApplyEvent` of the `i`-th event. -/
def applyLog (i : Nat) (event : Event) (db : Database) : Except EventError Database :=
  match standardised d places i event with
  | none => .ok db
  | some event => Indexer.applyEvent event db

def exec (cfg : Backend.Config) (s : State ω) : Op ω → Except OpError (State ω)
  | .chain step => .ok { s with chain := step.apply d s.chain }
  | .createOrder signed new =>
    if new.maker = signed.maker ∧ new.nonce = signed.nonce then
      match serve cfg s.backend (.createOrder (keyOf d (hashOrder d signed)) new) with
      | .ok backend => .ok { s with backend := backend }
      | .error error => .error (.service error)
    else .error .otherOrder
  | .worker i act =>
    if truthful s.chain (s.backend.tasks i) act then
      match serve cfg s.backend (.backend (.worker i act)) with
      | .ok backend => .ok { s with backend := backend }
      | .error error => .error (.service error)
    else .error .untruthful
  | .cancelOrders key cancelTxHash =>
    match serve cfg s.backend (.backend (.cancelOrders key cancelTxHash)) with
    | .ok backend => .ok { s with backend := backend }
    | .error error => .error (.service error)
  | .deliver i =>
    if i ≤ s.delivered then
      match s.chain.events[i]? with
      | none => .error .notEmitted
      | some event =>
        match applyLog d places i event s.backend.db with
        | .ok db => .ok { s with backend := { s.backend with db := db }
                                 delivered := max s.delivered (i + 1) }
        | .error error => .error (.indexer error)
    else .error .notEmitted

end Steps

/-- A contract that has just been deployed, empty tables, and instances that have not started. -/
structure State.Initial (s : State ω) : Prop where
  deployed : FluxSignedOrderSettlement.Deployed s.chain
  orders : ∀ key, s.backend.db.orders key = none
  events : s.backend.db.events = []
  idle : s.backend.Initial
  delivered : s.delivered = 0

def system (d : Deployment ω) (places : Places) (cfg : Backend.Config) : System (State ω) (Op ω) :=
  System.ofCalls State.Initial (exec d places cfg)

/-! ## What the chain has seen -/

/-- The event of the execution of an order has been emitted. -/
def Executed (chain : FluxSignedOrderSettlement.State ω) (orderHash : Bytes32) : Prop :=
  ∃ e ∈ chain.events, e.executedHash = some orderHash

/-- The nonce of a maker has been consumed. -/
def Consumed (chain : FluxSignedOrderSettlement.State ω) (maker : Address) (nonce : Nat) : Prop :=
  ∃ e ∈ chain.events, e.consumed = some (maker, nonce)

/-! ## Closing an order as cancelled -/

theorem saysYes_eq_true {answer : Except String Bool} : saysYes answer = true ↔ answer = .ok true := by
  cases answer with
  | error error => simp [saysYes]
  | ok answer => simp [saysYes]

/-- A check cancels only in the receipt loop of a cancellation. -/
theorem decision_cancels {order row : Order} {answers : Answers} {isPendingCancel : Bool}
    {u : Update} (h : Decision order answers isPendingCancel u)
    (hst : (u.set row).status = cancelled) :
    row.status = cancelled ∨ isPendingCancel = true ∧
      (answers.isNonceInvalidated = .ok true ∨ order.nonce < 0) := by
  cases h with
  | stillPending => exact .inl hst
  | waitForIndexer => cases isPendingCancel <;> cases hst
  | confirmCancel _ htold => exact .inr ⟨rfl, .inl htold⟩
  | confirmInvalidNonce _ _ hnonce => exact .inr ⟨rfl, .inr hnonce⟩
  | _ => cases hst

/-- A check that cancels has asked about the nonce. -/
theorem receiptAsksNonce_of_cancels {order row : Order} {answers : Answers} {u : Update}
    (hpending : order.status = pendingCancel)
    (h : checkPendingReceipt true order answers = some u) (hrow : row.status ≠ cancelled)
    (hst : (u.set row).status = cancelled) : receiptAsksNonce order answers = true := by
  unfold checkPendingReceipt pendingTxHash at h
  unfold receiptAsksNonce
  rw [if_pos rfl] at h
  rw [hpending]
  cases htxHash : order.cancelledTxHash with
  | none =>
    rw [htxHash] at h
    cases h
    cases hst
  | some txHash =>
    rw [htxHash] at h
    cases hreceipt : answers.receiptStatus with
    | error error => simp [hreceipt] at h
    | ok receipt =>
      cases receipt with
      | some receipt => rfl
      | none =>
        cases hknown : answers.transactionKnown with
        | error error => simp [hreceipt, hknown] at h
        | ok known =>
          cases known with
          | true =>
            simp only [hreceipt, hknown] at h
            cases h
            exact absurd hst hrow
          | false => rfl

/-- The branch of an executable order does not ask about the nonce. -/
theorem evaluateExecutable_cancels {cfg : Backend.Config} {payload : SettlementOrder}
    {order row : Order} {now : Nat} {answers : Answers} {u : Update}
    (h : evaluateExecutable cfg payload order now answers = .error u) :
    (u.set row).status ≠ cancelled := by
  intro hst
  have hother : evaluateExecutable cfg payload order now
      { answers with isNonceInvalidated := .ok false } = .error u := h
  have htold := (evaluateExecutable_ends _ _ _ _ _ u hother).toldInvalidated row hst
  cases htold

theorem answered_error {α : Type} {what error : String} {u : Update} {row : Order}
    (h : answered what (.error error : Except String α) = .error u) :
    (u.set row).status ≠ cancelled := by
  cases h
  exact nofun

/-- An order that is turned down is cancelled only for its nonce. -/
theorem evaluateBlocked_cancels {reason : String} {answers : Answers} {row : Order}
    (hst : ((evaluateBlocked reason answers).set row).status = cancelled) :
    reason = "NONCE_INVALIDATED" := by
  unfold evaluateBlocked at hst
  split at hst
  · cases hexecuted : answers.isOrderExecuted with
    | error error =>
      rw [hexecuted] at hst
      cases hst
    | ok answer =>
      rw [hexecuted] at hst
      cases answer <;> cases hst
  · split at hst
    · assumption
    · cases hst

/-- An evaluation that cancels has asked about the nonce. -/
theorem evaluationAsksNonce_of_cancels {cfg : Backend.Config} {payload : SettlementOrder}
    {order row : Order} {answers : Answers} {u : Update}
    (h : evaluateClaimed cfg payload order answers = .error u)
    (hst : (u.set row).status = cancelled) : evaluationAsksNonce payload answers = true := by
  unfold evaluateClaimed at h
  unfold evaluationAsksNonce
  cases hnow : answers.currentBlockTimestamp with
  | error error =>
    rw [hnow] at h
    exact absurd hst (answered_error h)
  | ok now =>
    dsimp only
    rw [hnow] at h
    -- an order that has expired is asked about after its execution
    change (if uint64 payload.expiry ≤ now then _ else _) = _ at h
    split at h
    · rw [if_pos ‹_›]
      cases h
      unfold evaluateExpired at hst
      cases hexecuted : answers.isOrderExecuted with
      | error error =>
        rw [hexecuted] at hst
        cases hst
      | ok answer =>
        rw [hexecuted] at hst
        cases answer with
        | true => cases hst
        | false => rfl
    · rw [if_neg ‹_›]
      cases hreply : answers.canExecuteOrder with
      | error error =>
        rw [hreply] at h
        exact absurd hst (answered_error h)
      | ok reply =>
        rw [hreply] at h
        change (if reply.executable = true then _ else _) = _ at h
        split at h
        · exact absurd hst (evaluateExecutable_cancels h)
        · cases h
          have hreason := evaluateBlocked_cancels hst
          simp_all

/-- What a guarded update makes of a row that it leaves cancelled. -/
theorem update_cancels {db : Database} {key k : OrderKey} {u : Update} {row row' : Order}
    (hrow : db.orders k = some row) (hrow' : (db.update key u).orders k = some row')
    (hst : row'.status = cancelled) :
    row.status = cancelled ∨
      (k = key ∧ row.status ∈ u.statuses ∧ (u.set row).status = cancelled) := by
  rw [Database.orders_update_map, hrow, Option.map_some] at hrow'
  obtain rfl := Option.some.inj hrow'
  split at hst
  · unfold Update.apply at hst
    split at hst
    · exact .inr ⟨‹_›, List.contains_iff_mem.mp ‹_›, hst⟩
    · exact .inl hst
  · exact .inl hst

/-- An update that does not cancel leaves a row cancelled only if it was. -/
theorem update_keeps {db : Database} {key k : OrderKey} {u : Update} {row row' : Order}
    (hrow : db.orders k = some row) (hrow' : (db.update key u).orders k = some row')
    (hst : row'.status = cancelled) (hset : (u.set row).status ≠ cancelled) :
    row.status = cancelled :=
  (update_cancels hrow hrow' hst).resolve_right fun h => hset h.2.2

/-- A step that cancels an order has asked about its nonce and was told that it has been
    invalidated, and the row was in the status that the step closes. -/
theorem step_cancels {cfg : Backend.Config} {db db' : Database} {task task' : Task}
    {act : Act} (h : Task.Step cfg db task act db' task') {key : OrderKey} {row row' : Order}
    (hrow : db.orders key = some row) (hrow' : db'.orders key = some row')
    (hst : row'.status = cancelled) (hactive : row.status ≠ cancelled) :
    ∃ answers order, act.answers = some answers ∧ task.entries.head? = some (key, order) ∧
      (answers.isNonceInvalidated = .ok true ∨ order.nonce < 0) ∧
      asksNonce task act = some (key, row.status) := by
  -- a step that leaves the table as it is has cancelled nothing
  have hunchanged : db' ≠ db := by
    rintro rfl
    rw [hrow] at hrow'
    exact hactive ((Option.some.inj hrow').symm ▸ hst)
  cases h with
  | pass hbegin =>
    rcases beginEvaluation_none hbegin with hsame | ⟨error, rfl⟩
    · exact absurd hsame hunchanged
    · exact absurd (update_keeps hrow hrow' hst nofun) hactive
  | claim hbegin =>
    obtain ⟨-, rfl, -⟩ := beginEvaluation_some hbegin
    exact absurd (update_keeps hrow hrow' hst nofun) hactive
  | @record _ _ result _ =>
    refine absurd (update_keeps hrow hrow' hst ?_) hactive
    cases result <;> exact nofun
  -- the evaluation that closes the order has the answer about its nonce
  | @close key' payload order rest answers result u hclaimed =>
    have hending := evaluateClaimed_ends _ _ _ _ _ hclaimed
    obtain ⟨rfl, hstatus, hset⟩ := (update_cancels hrow hrow' hst).resolve_left hactive
    rw [hending.statuses, List.mem_singleton] at hstatus
    refine ⟨answers, order, rfl, rfl, .inl (hending.toldInvalidated _ hset), ?_⟩
    simp only [asksNonce, evaluationAsksNonce_of_cancels hclaimed hset, if_true, hstatus]
  -- a receipt decides on a cancellation only for a pending cancel
  | @check key' order rest answers _ _ hbegin =>
    unfold beginCheck at hbegin
    split at hbegin
    · split at hbegin <;> cases hbegin
      · exact absurd (update_keeps hrow hrow' hst nofun) hactive
      · exact absurd (update_keeps hrow hrow' hst nofun) hactive
    · split at hbegin <;> cases hbegin
      · rename_i u hcheck
        have hdecision := checkPendingReceipt_decides hcheck
        obtain ⟨rfl, hstatus, hset⟩ := (update_cancels hrow hrow' hst).resolve_left hactive
        obtain ⟨hpending, htold⟩ := (decision_cancels hdecision hset).resolve_left hactive
        rw [hdecision.statuses, List.mem_singleton, hpending] at hstatus
        rw [hpending] at hcheck
        refine ⟨answers, order, rfl, rfl, htold, ?_⟩
        simp only [asksNonce, receiptAsksNonce_of_cancels (of_decide_eq_true hpending) hcheck
          hactive hset, if_true, hstatus]
        rfl
      · exact absurd rfl hunchanged
  | @track key' order rest answers =>
    unfold finishCheck at hrow'
    split at hrow'
    · have hdecision := checkPendingReceipt_decides ‹_›
      obtain ⟨-, -, hset⟩ := (update_cancels hrow hrow' hst).resolve_left hactive
      cases ((decision_cancels hdecision hset).resolve_left hactive).1
    · rw [hrow] at hrow'
      exact absurd ((Option.some.inj hrow').symm ▸ hst) hactive
  | _ => exact absurd rfl hunchanged

/-! ## The chain -/

section Chain

variable {d : Deployment ω} {chain chain' : FluxSignedOrderSettlement.State ω}

/-- Two events that consume one nonce are the same. -/
theorem consumed_unique (h : FluxSignedOrderSettlement.Sound d chain) {maker : Address}
    {nonce : Nat} {e e' : Event} (he : e ∈ chain.events) (he' : e' ∈ chain.events)
    (hconsumed : e.consumed = some (maker, nonce)) (hconsumed' : e'.consumed = some (maker, nonce)) :
    e = e' := by
  have honce := h.once maker nonce
  rw [FluxSignedOrderSettlement.State.consumptions, List.countP_eq_length_filter] at honce
  have hmem : e ∈ chain.events.filter fun e => decide (e.consumed = some (maker, nonce)) :=
    List.mem_filter.mpr ⟨he, decide_eq_true hconsumed⟩
  have hmem' : e' ∈ chain.events.filter fun e => decide (e.consumed = some (maker, nonce)) :=
    List.mem_filter.mpr ⟨he', decide_eq_true hconsumed'⟩
  cases hfilter : chain.events.filter fun e => decide (e.consumed = some (maker, nonce)) with
  | nil =>
    rw [hfilter] at hmem
    cases hmem
  | cons first rest =>
    rw [hfilter] at honce hmem hmem'
    obtain rfl := List.eq_nil_of_length_eq_zero (Nat.le_zero.mp (Nat.le_of_succ_le_succ honce))
    exact (List.mem_singleton.mp hmem).trans (List.mem_singleton.mp hmem').symm

theorem orderExecuted_iff (h : FluxSignedOrderSettlement.Sound d chain) {orderHash : Bytes32} :
    chain.storage.orderExecuted orderHash = true ↔ Executed chain orderHash :=
  h.executed orderHash

theorem invalidatedNonce_iff (h : FluxSignedOrderSettlement.Sound d chain) {maker : Address}
    {nonce : Nat} : chain.storage.invalidatedNonce maker nonce = true ↔ Consumed chain maker nonce :=
  h.invalidated maker nonce

theorem Executed.mono {orderHash : Bytes32} (h : Executed chain orderHash)
    (hevents : chain.events ⊆ chain'.events) : Executed chain' orderHash := by
  obtain ⟨e, he, hhash⟩ := h
  exact ⟨e, hevents he, hhash⟩

theorem Consumed.mono {maker : Address} {nonce : Nat} (h : Consumed chain maker nonce)
    (hevents : chain.events ⊆ chain'.events) : Consumed chain' maker nonce := by
  obtain ⟨e, he, hconsumed⟩ := h
  exact ⟨e, hevents he, hconsumed⟩

end Chain

/-! ## Rows -/

/-- What a step that reads the chain may do to a row: an executed row stays so, and a row is
    closed only as the chain has it. -/
structure Follows (chain : FluxSignedOrderSettlement.State ω) (key : OrderKey) (row row' : Order) :
    Prop where
  keepsNonce : KeepsNonce row row'
  executed : row.status = Status.executed → row'.status = Status.executed
  toExecuted : row'.status = Status.executed →
    row.status = Status.executed ∨ Executed chain key.orderHash
  toCancelled : row'.status = cancelled → row.status = cancelled ∨
    (Consumed chain row.maker row.nonce.toNat ∧ ¬Executed chain key.orderHash)

/-- The rows are those from before, rewritten by the chain's word. -/
def RowsFollow (chain : FluxSignedOrderSettlement.State ω) (db db' : Database) : Prop :=
  ∃ f : OrderKey → Order → Order, (∀ key, db'.orders key = (db.orders key).map (f key)) ∧
    ∀ key row, db.orders key = some row → Follows chain key row (f key row)

/-- Every row is there with the same maker and nonce. -/
def RowsKept (db db' : Database) : Prop :=
  ∀ key row, db.orders key = some row → ∃ row', db'.orders key = some row' ∧ KeepsNonce row row'

theorem Follows.refl (chain : FluxSignedOrderSettlement.State ω) (key : OrderKey) (row : Order) :
    Follows chain key row row where
  keepsNonce := ⟨rfl, rfl⟩
  executed h := h
  toExecuted h := .inl h
  toCancelled h := .inl h

theorem RowsKept.of_map {db db' : Database} {f : OrderKey → Order → Order}
    (h : ∀ key, db'.orders key = (db.orders key).map (f key))
    (hf : ∀ key row, KeepsNonce row (f key row)) : RowsKept db db' := by
  intro key row hrow
  refine ⟨f key row, ?_, hf key row⟩
  rw [h, hrow, Option.map_some]

theorem RowsKept.refl (db : Database) : RowsKept db db := fun _ row hrow => ⟨row, hrow, rfl, rfl⟩

theorem applyExecuted_keepsNonce (e : Backend.OrderEvent) (row : Order) :
    KeepsNonce row (EventService.applyExecuted e row) := by
  unfold EventService.applyExecuted
  split
  · exact ⟨rfl, rfl⟩
  · split <;> exact ⟨rfl, rfl⟩

theorem invalidateOrder_keepsNonce (e : Backend.OrderEvent) (row : Order) :
    KeepsNonce row (EventService.invalidateOrder e row) := by
  unfold EventService.invalidateOrder
  split
  · exact ⟨rfl, rfl⟩
  · split <;> exact ⟨rfl, rfl⟩

/-! ## Delivering a log -/

section Delivery

variable {d : Deployment ω} {places : Places} {i : Nat} {db db' : Database}

theorem LogAt.baseEvent_eq {cfg : Indexer.Config} {entry : Indexer.Log}
    (h : LogAt d places cfg i entry) (name : EventName) :
    Indexer.baseEvent cfg name entry = baseEvent d places i name := by
  simp only [Indexer.baseEvent, baseEvent, h.chainId, h.address, h.txHash, h.index,
    h.blockNumber, h.kept]

/-- The indexer reads the event of an execution from its log. -/
theorem LogAt.decodeLog_orderExecuted {cfg : Indexer.Config} {entry : Indexer.Log}
    (h : LogAt d places cfg i entry) {ev : Indexer.OrderExecuted} (hev : ev.InLog cfg entry)
    {order : SignedOrder} (hmaker : ev.maker = order.maker) (executor : Address) :
    Indexer.decodeLog cfg .orderExecuted entry = standardised d places i
      (.orderExecuted ev.orderHash order executor ev.grossAmountOut.val ev.recipientAmountOut.val
        ev.executorFeeAmount.val) := by
  rw [hev.decode, h.baseEvent_eq, hmaker]
  rfl

/-- The indexer reads the event of an invalidation from its log. -/
theorem LogAt.decodeLog_nonceInvalidated {cfg : Indexer.Config} {entry : Indexer.Log}
    (h : LogAt d places cfg i entry) {ev : Indexer.NonceInvalidated} (hev : ev.InLog cfg entry) :
    Indexer.decodeLog cfg .nonceInvalidated entry =
      standardised d places i (.nonceInvalidated ev.maker ev.nonce.val) := by
  rw [hev.decode, h.baseEvent_eq]
  rfl

/-- What the stored row of the `i`-th event is found by. -/
def idOf (d : Deployment ω) (places : Places) (i : Nat) : Nat × TxHash × Nat :=
  (d.chainid, places.txHash i, places.logIndex i)

/-- What the delivery of a log does. -/
inductive Applied (d : Deployment ω) (places : Places) (i : Nat) (db : Database) :
    Event → Database → Prop
  | unread {event : Event} : event.executedHash = none → Applied d places i db event db
  | repeated {event : Event} {stored : Backend.OrderEvent} : stored ∈ db.events →
      stored.id = idOf d places i → Applied d places i db event db
  | orderExecuted {orderHash order executor gross recipientOut fee} {e : Backend.OrderEvent}
      {row : Order} {db' : Database} : db.orders (keyOf d orderHash) = some row →
      e.id = idOf d places i → db'.events = e :: db.events →
      (∀ key, db'.orders key = (db.orders key).map fun row =>
        if key = keyOf d orderHash then EventService.applyExecuted e row else row) →
      Applied d places i db (.orderExecuted orderHash order executor gross recipientOut fee) db'
  | nonceInvalidated {maker : Address} {nonce : Nat} {e : Backend.OrderEvent} {db' : Database} :
      e.id = idOf d places i → e.maker = maker → e.nonce = nonce → db'.events = e :: db.events →
      (∀ key, db'.orders key = (db.orders key).map fun row =>
        if Database.ofMakerAndNonce e key row then EventService.invalidateOrder e row else row) →
      Applied d places i db (.nonceInvalidated maker nonce) db'

theorem ignoreDuplicate_ok {result : Except EventError Database}
    (h : Indexer.ignoreDuplicate db result = .ok db') :
    result = .ok db' ∨ (db' = db ∧ result = .error .duplicateOrderEvent) := by
  unfold Indexer.ignoreDuplicate at h
  split at h
  · exact .inr ⟨(Except.ok.inj h).symm, rfl⟩
  · exact .inl h

theorem apply_duplicate {e : Backend.OrderEvent}
    (h : EventService.apply e db = .error .duplicateOrderEvent) :
    ∃ stored ∈ db.events, stored.id = e.id := by
  unfold EventService.apply at h
  split at h
  · cases h
  · split at h
    · exact Indexer.stored_of_createEvent_none ‹_›
    · split at h
      · cases h
      · dsimp only at h
        split at h
        · cases h
        · split at h <;> cases h

theorem applyLog_ok {event : Event} (h : applyLog d places i event db = .ok db') :
    Applied d places i db event db' := by
  unfold applyLog at h
  cases event with
  | orderExecuted orderHash order executor gross recipientOut fee =>
    simp only [standardised] at h
    rw [Indexer.applyEvent_executed rfl rfl] at h
    rcases ignoreDuplicate_ok h with happly | ⟨rfl, hduplicate⟩
    · obtain ⟨-, ⟨row, hrow⟩, -, hevents, horders⟩ := EventService.apply_ok happly
      exact .orderExecuted hrow rfl hevents horders
    · obtain ⟨stored, hstored, hid⟩ := apply_duplicate hduplicate
      exact .repeated hstored hid
  | nonceInvalidated maker nonce =>
    simp only [standardised] at h
    rw [Indexer.applyEvent_invalidated rfl rfl] at h
    rcases ignoreDuplicate_ok h with happly | ⟨rfl, -⟩
    · obtain ⟨-, hevents, horders⟩ := EventService.applyNonceInvalidated_ok happly
      exact .nonceInvalidated rfl rfl rfl hevents horders
    · exact .unread rfl
  | _ =>
    cases h
    exact .unread rfl

theorem Applied.rowsKept {event : Event} (h : Applied d places i db event db') :
    RowsKept db db' := by
  cases h with
  | unread => exact .refl db
  | repeated => exact .refl db
  | @orderExecuted _ _ _ _ _ _ e _ _ _ _ _ horders =>
    refine .of_map horders fun key row => ?_
    split
    · exact applyExecuted_keepsNonce e row
    · exact ⟨rfl, rfl⟩
  | @nonceInvalidated _ _ e _ _ _ _ _ horders =>
    refine .of_map horders fun key row => ?_
    split
    · exact invalidateOrder_keepsNonce e row
    · exact ⟨rfl, rfl⟩

end Delivery

/-! ## Steps -/

section StepCases

variable {d : Deployment ω} {places : Places} {cfg : Backend.Config} {s s' : State ω}

/-- The steps, case by case. -/
inductive Stepped (d : Deployment ω) (places : Places) (cfg : Backend.Config) (s : State ω) :
    Op ω → State ω → Prop
  | chain (step : FluxSignedOrderSettlement.Step ω) :
      Stepped d places cfg s (.chain step) { s with chain := step.apply d s.chain }
  | createOrder {signed : SignedOrder} {new : NewOrder} {db : Database} :
      s.backend.db.create (keyOf d (hashOrder d signed)) new.row = some db →
      Stepped d places cfg s (.createOrder signed new)
        { s with backend := { s.backend with db := db } }
  | worker {i : Nat} {act : Act} {db : Database} {task : Task} :
      truthful s.chain (s.backend.tasks i) act = true →
      Task.Step cfg s.backend.db (s.backend.tasks i) act db task →
      Stepped d places cfg s (.worker i act)
        { s with backend := { db := db, tasks := Function.update s.backend.tasks i task } }
  | cancelOrders (key : OrderKey) (cancelTxHash : TxHash) :
      Stepped d places cfg s (.cancelOrders key cancelTxHash)
        { s with backend :=
          { s.backend with db := s.backend.db.update key (registerCancel cancelTxHash) } }
  | deliver {i : Nat} {event : Event} {db : Database} :
      i ≤ s.delivered → s.chain.events[i]? = some event →
      Applied d places i s.backend.db event db →
      Stepped d places cfg s (.deliver i)
        { s with backend := { s.backend with db := db }, delivered := max s.delivered (i + 1) }

theorem exec_stepped {op : Op ω} (h : exec d places cfg s op = .ok s') :
    Stepped d places cfg s op s' := by
  cases op with
  | chain step =>
    cases h
    exact .chain step
  | createOrder signed new =>
    simp only [exec] at h
    split at h
    · split at h <;> cases h
      rename_i hserve
      obtain ⟨db, hcreate, rfl⟩ := serve_createOrder hserve
      exact .createOrder hcreate
    · cases h
  | worker i act =>
    simp only [exec] at h
    split at h
    · split at h <;> cases h
      rename_i htruthful _ _ hserve
      obtain ⟨db, task, hstep, rfl⟩ := exec_worker (serve_backend hserve)
      exact .worker htruthful hstep
    · cases h
  | cancelOrders key cancelTxHash =>
    simp only [exec] at h
    split at h <;> cases h
    rename_i hserve
    obtain ⟨-, rfl⟩ := exec_cancelOrders (serve_backend hserve)
    exact .cancelOrders key cancelTxHash
  -- the next log in the order of emission, and no other
  | deliver i =>
    simp only [exec] at h
    split at h
    · split at h
      · cases h
      · split at h <;> cases h
        exact .deliver ‹_› ‹_› (applyLog_ok ‹_›)
    · cases h

/-- The chain and the tables only grow. -/
structure Grows (s s' : State ω) : Prop where
  events : s.chain.events ⊆ s'.chain.events
  rows : RowsKept s.backend.db s'.backend.db

theorem Stepped.grows (hown : FluxSignedOrderSettlement.OwnStorage d) {op : Op ω}
    (h : Stepped d places cfg s op s') : Grows s s' := by
  cases h with
  | chain step =>
    obtain ⟨new, hnew⟩ := step.disciplined hown s.chain
    refine ⟨?_, .refl _⟩
    rw [hnew.events]
    exact List.subset_append_left _ _
  | createOrder hcreate =>
    exact ⟨List.Subset.refl _, fun _ row hrow =>
      ⟨row, Database.orders_create hcreate hrow, rfl, rfl⟩⟩
  | worker htruthful hstep =>
    obtain ⟨f, horders, hinformed⟩ := hstep.informs
    exact ⟨List.Subset.refl _, .of_map horders fun key row => (hinformed key row).keepsNonce⟩
  | cancelOrders key cancelTxHash =>
    refine ⟨List.Subset.refl _, .of_map (Database.orders_update_map _ _ _) fun k row => ?_⟩
    split
    · have hinformed : Informed False False row ((registerCancel cancelTxHash).apply row) :=
        registerCancel_informed cancelTxHash row
      exact hinformed.keepsNonce
    · exact ⟨rfl, rfl⟩
  | deliver _ _ happlied => exact ⟨List.Subset.refl _, happlied.rowsKept⟩

end StepCases

end Outcome
