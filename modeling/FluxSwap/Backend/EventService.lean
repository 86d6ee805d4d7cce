-- SUMMARY: OrderEventService: applying and reverting settlement events, and the status reasons that reverting reads.
import FluxSwap.Backend.Orders

/-!
# The event service

`Apply` and `ApplyNonceInvalidated` store an event and move the orders it is about;
`Revert` deletes a stored event and rebuilds these orders from the rows that are left.
A status reason says what an event has overwritten, and reverting reads it.
-/

namespace Backend

open Status

def orderExecutedTransitionStatuses : List Status :=
  [opened, submittingExecute, pendingExecute, pendingCancel, expired]

def orderCancelledTransitionStatuses : List Status :=
  [opened, submittingExecute, pendingExecute, pendingCancel, expired]

def orderRevertCancelledStatuses : List Status :=
  [opened, submittingExecute, pendingExecute, pendingCancel, cancelled]

/-! ## Reasons -/

def shouldClearExecutedStatusReason : Reason → Bool
  | .orderExecutedEvent
  | .orderExecutedEventAfterPendingCancel
  | .orderExecutedEventAfterExpired
  | .confirmedByChainState => true
  | _ => false

def buildExecutedStatusReason (order : Order) : Reason :=
  match order.status with
  | pendingCancel => .orderExecutedEventAfterPendingCancel
  | expired => .orderExecutedEventAfterExpired
  | _ => .orderExecutedEvent

def buildExecutedStatusReasonForRestoredEvent (order : Order) : Reason :=
  if order.cancelledTxHash.isSome then .orderExecutedEventAfterPendingCancel
  else if shouldClearExecutedStatusReason order.statusReason then order.statusReason
  else .orderExecutedEvent

def shouldBackfillExecutedEvent (order : Order) : Bool :=
  decide (order.status = executed ∧ order.statusReason = .confirmedByChainState)

def shouldClearCancelledStatusReason : Reason → Bool
  | .nonceInvalidatedEvent
  | .nonceInvalidatedEventAfterPendingCancel
  | .nonceInvalidatedEventAfterPendingExecute
  | .nonceInvalidatedEventAfterSubmittingExecute
  | .confirmedByChainState => true
  | _ => false

def buildCancelledStatusReason (order : Order) : Reason :=
  match order.status with
  | expired => .nonceInvalidatedEventAfterExpired
  | pendingCancel =>
    if order.cancelledTxHash.isSome then .nonceInvalidatedEventAfterPendingCancel
    else .nonceInvalidatedEvent
  | pendingExecute =>
    if order.submittedTxHash.isSome then .nonceInvalidatedEventAfterPendingExecute
    else .nonceInvalidatedEvent
  | submittingExecute => .nonceInvalidatedEventAfterSubmittingExecute
  | _ => .nonceInvalidatedEvent

/-- The last part of `buildCancelledStatusReasonForRestoredEvent`, after both switches. -/
def cancelledStatusReasonByHashes (order : Order) : Reason :=
  if order.submittedTxHash.isSome then .nonceInvalidatedEventAfterPendingExecute
  else if order.cancelledTxHash.isSome then .nonceInvalidatedEventAfterPendingCancel
  else if order.lastBlockReason = .orderExpired then .nonceInvalidatedEventAfterExpired
  else .nonceInvalidatedEvent

def buildCancelledStatusReasonForRestoredEvent (order : Order) : Reason :=
  match order.statusReason with
  | .nonceInvalidatedEvent
  | .nonceInvalidatedEventAfterPendingCancel
  | .nonceInvalidatedEventAfterPendingExecute
  | .nonceInvalidatedEventAfterSubmittingExecute
  | .nonceInvalidatedEventAfterExpired => order.statusReason
  | .orderExecutedEventAfterPendingCancel => .nonceInvalidatedEventAfterPendingCancel
  | .orderExecutedEventAfterExpired => .nonceInvalidatedEventAfterExpired
  | _ =>
    match order.status with
    | opened | pendingCancel | pendingExecute | submittingExecute | expired =>
      buildCancelledStatusReason order
    | executed =>
      if order.cancelledTxHash.isSome then .nonceInvalidatedEventAfterPendingCancel
      else cancelledStatusReasonByHashes order
    | cancelled => cancelledStatusReasonByHashes order

def shouldBackfillCancelledEvent (order : Order) : Bool :=
  decide (order.status = cancelled ∧ order.statusReason = .confirmedByChainState)

/-- The updates of `buildCancelledReorgRestoreUpdates`, if there are any. -/
def buildCancelledReorgRestoreUpdates (order : Order) : Option (Order → Order) :=
  match order.statusReason with
  | .nonceInvalidatedEventAfterExpired => some fun o => { o with
      status := expired
      statusReason := .expiredByChainTime
      cancelledTxHash := none
      lastCheckedBlock := 0
      lastBlockReason := .orderExpired }
  | .nonceInvalidatedEventAfterPendingCancel =>
    if order.cancelledTxHash.isSome then some fun o => { o with
      status := pendingCancel
      statusReason := .cancelTxSubmittedByUser
      lastCheckedBlock := 0
      lastBlockReason := .none }
    else none
  | .nonceInvalidatedEventAfterPendingExecute =>
    if order.submittedTxHash.isSome then some fun o => { o with
      status := pendingExecute
      statusReason := .submittedToChain
      cancelledTxHash := none
      lastCheckedBlock := 0
      lastBlockReason := .none }
    else none
  | .nonceInvalidatedEventAfterSubmittingExecute => some fun o => { o with
      status := submittingExecute
      statusReason := .claimedForSubmission
      cancelledTxHash := none
      lastCheckedBlock := 0
      lastBlockReason := .none }
  | _ => none

/-! ## Applying -/

inductive EventError
  | recordNotFound
  | duplicateOrderEvent
  | invalidData
  deriving DecidableEq, Repr

namespace EventService

/-- What `Apply` writes to an order in a status that it may leave. -/
def executeByEvent (e : OrderEvent) (order : Order) : Order → Order := fun o => { o with
  status := executed
  statusReason := buildExecutedStatusReason order
  lastBlockReason := .none
  cancelledTxHash := if order.status = pendingCancel then o.cancelledTxHash else none
  executedTxHash := some e.txHash
  settledAmountOut := e.grossAmountOut
  settledExecutorFee := e.executorFeeAmount
  lastCheckedBlock := e.blockNumber }

/-- An execution event restored or completed on an order. -/
def restoreExecuted (e : OrderEvent) (order : Order) : Order → Order := fun o => { o with
  status := executed
  statusReason := buildExecutedStatusReasonForRestoredEvent order
  lastBlockReason := .none
  executedTxHash := some e.txHash
  settledAmountOut := e.grossAmountOut
  settledExecutorFee := e.executorFeeAmount
  lastCheckedBlock := e.blockNumber }

/-- `Apply`. -/
def apply (e : OrderEvent) (db : Database) : Except EventError Database :=
  match db.getByOrderHash e.orderKey with
  | none => .error .recordNotFound
  | some order =>
    match db.createEvent e with
    | none => .error .duplicateOrderEvent
    | some db =>
      match e.name with
      | .nonceInvalidated => .error .invalidData
      | .orderExecuted =>
        let (db, updated) := db.updateFieldsIfStatusIn e.orderKey orderExecutedTransitionStatuses
          (executeByEvent e order)
        if updated then .ok db
        else if shouldBackfillExecutedEvent order then
          .ok (db.updateFields e.orderKey (restoreExecuted e order))
        else .ok db

/-- What `ApplyNonceInvalidated` and `Revert` write to an order that an event cancels. -/
def cancelByEvent (e : OrderEvent) (reason : Reason) : Order → Order := fun o => { o with
  status := cancelled
  statusReason := reason
  cancelledTxHash := some e.txHash
  lastCheckedBlock := e.blockNumber
  lastBlockReason := .none }

/-- One round of the loop of `ApplyNonceInvalidated`. -/
def invalidateOrder (e : OrderEvent) (order : Order) : Order :=
  if orderCancelledTransitionStatuses.contains order.status then
    cancelByEvent e (buildCancelledStatusReason order) order
  else if shouldBackfillCancelledEvent order then
    cancelByEvent e (buildCancelledStatusReasonForRestoredEvent order) order
  else order

/-- `ApplyNonceInvalidated`. -/
def applyNonceInvalidated (e : OrderEvent) (db : Database) : Except EventError Database :=
  match db.createEvent e with
  | none => .error .duplicateOrderEvent
  | some db => .ok (db.writeByMakerAndNonce e fun _ => invalidateOrder e)

/-! ## Reverting -/

/-- The fields of an execution that is no more. -/
def clearExecution (o : Order) : Order := { o with
  executedTxHash := none
  settledAmountOut := 0
  settledExecutorFee := 0
  lastCheckedBlock := 0 }

/-- The end of `Revert` of an `OrderExecuted` event of which no row is left, nor one that
    cancels the order. -/
def clearExecutedStatus (order : Order) : Order → Order := fun o =>
  if shouldClearExecutedStatusReason order.statusReason then { clearExecution o with
    status := opened
    statusReason := .none
    lastBlockReason := .none
    cancelledTxHash := if order.status = cancelled then none else o.cancelledTxHash }
  else { clearExecution o with lastBlockReason := .none }

/-- What `Revert` of an `OrderExecuted` event writes to its order, given the rows left. -/
def revertExecuted (remaining remainingCancel : List OrderEvent) (order : Order) : Order :=
  match OrderEvent.latest remaining with
  | some latest => restoreExecuted latest order order
  | none =>
    match OrderEvent.latest remainingCancel with
    | some latestCancel => { clearExecution order with
        status := cancelled
        statusReason := buildCancelledStatusReasonForRestoredEvent order
        lastBlockReason := .none
        cancelledTxHash := some latestCancel.txHash
        lastCheckedBlock := latestCancel.blockNumber }
    | none =>
      if order.status = executed ∧ order.statusReason = .orderExecutedEventAfterPendingCancel ∧
          order.cancelledTxHash.isSome then { clearExecution order with
        status := pendingCancel
        statusReason := .cancelTxSubmittedByUser
        lastBlockReason := .none }
      else if order.status = executed ∧ order.statusReason = .orderExecutedEventAfterExpired then
        { clearExecution order with
          status := expired
          statusReason := .expiredByChainTime
          lastBlockReason := .orderExpired }
      else clearExecutedStatus order order

/-- What `Revert` of the last `NonceInvalidated` event of a nonce writes to an order, given
    the order's `OrderExecuted` rows. -/
def revertLastInvalidated (executedRows : List OrderEvent) (order : Order) : Order :=
  match if shouldBackfillCancelledEvent order then OrderEvent.latest executedRows else none with
  | some latestExecuted => restoreExecuted latestExecuted order order
  | none =>
    match buildCancelledReorgRestoreUpdates order with
    | some restore => if order.status = cancelled then restore order else order
    | none =>
      if order.status = cancelled ∧ shouldClearCancelledStatusReason order.statusReason then
        { order with
          status := opened
          statusReason := .none
          cancelledTxHash := none
          lastCheckedBlock := 0
          lastBlockReason := .none }
      else order

/-- One round of the loop of `Revert` of a `NonceInvalidated` event, given the rows left. -/
def revertInvalidated (remaining executedRows : List OrderEvent) (order : Order) : Order :=
  match OrderEvent.latest remaining with
  | none => revertLastInvalidated executedRows order
  | some latest =>
    if order.status = executed then order
    else if orderRevertCancelledStatuses.contains order.status then
      cancelByEvent latest (buildCancelledStatusReasonForRestoredEvent order) order
    else order

/-- `Revert`. -/
def revert (e : OrderEvent) (db : Database) : Database :=
  let (db, deleted) := db.deleteEvent e
  if deleted then
    match e.name with
    | .orderExecuted =>
      match db.getByOrderHash e.orderKey with
      | none => db
      | some order =>
        let remaining := db.executedEvents e.orderKey
        let remainingCancel := db.invalidatedEvents e.orderKey order.maker order.nonce
        db.updateFields e.orderKey (revertExecuted remaining remainingCancel)
    | .nonceInvalidated =>
      db.writeByMakerAndNonce e fun key order =>
        revertInvalidated (db.invalidatedEvents key order.maker order.nonce)
          (db.executedEvents key) order
  else db

/-! ## Calls -/

inductive Call
  | apply (e : OrderEvent)
  | applyNonceInvalidated (e : OrderEvent)
  | revert (e : OrderEvent)

def exec (db : Database) : Call → Except EventError Database
  | .apply e => apply e db
  | .applyNonceInvalidated e => applyNonceInvalidated e db
  | .revert e => .ok (revert e db)

/-! ## What a call does -/

/-- What `Apply` makes of the order of the event. -/
def applyExecuted (e : OrderEvent) (order : Order) : Order :=
  if orderExecutedTransitionStatuses.contains order.status then executeByEvent e order order
  else if shouldBackfillExecutedEvent order then restoreExecuted e order order
  else order

/-- What `Revert` makes of an order, given the rows that are left. -/
def revertOrder (e : OrderEvent) (db : Database) (key : OrderKey) (order : Order) : Order :=
  match e.name with
  | .orderExecuted =>
    if key = e.orderKey then
      revertExecuted (db.executedEvents key) (db.invalidatedEvents key order.maker order.nonce) order
    else order
  | .nonceInvalidated =>
    if Database.ofMakerAndNonce e key order then
      revertInvalidated (db.invalidatedEvents key order.maker order.nonce) (db.executedEvents key)
        order
    else order

theorem revertOrder_of_executed {e : OrderEvent} (h : e.name = .orderExecuted) (db : Database)
    (key : OrderKey) : revertOrder e db key = fun order =>
      if key = e.orderKey then
        revertExecuted (db.executedEvents key) (db.invalidatedEvents key order.maker order.nonce)
          order
      else order := by
  unfold revertOrder
  rw [h]

theorem revertOrder_of_invalidated {e : OrderEvent} (h : e.name = .nonceInvalidated)
    (db : Database) (key : OrderKey) : revertOrder e db key = fun order =>
      if Database.ofMakerAndNonce e key order then
        revertInvalidated (db.invalidatedEvents key order.maker order.nonce)
          (db.executedEvents key) order
      else order := by
  unfold revertOrder
  rw [h]

theorem apply_ok {e : OrderEvent} {db db' : Database} (h : apply e db = .ok db') :
    e.name = .orderExecuted ∧ (∃ order, db.orders e.orderKey = some order) ∧
      (∀ row ∈ db.events, row.id ≠ e.id) ∧ db'.events = e :: db.events ∧
      ∀ key, db'.orders key =
        (db.orders key).map fun order => if key = e.orderKey then applyExecuted e order else order := by
  unfold apply at h
  split at h
  · cases h
  · rename_i order horder
    split at h
    · cases h
    · rename_i db₁ hcreate
      obtain ⟨hfresh, rfl⟩ := Database.createEvent_some hcreate
      split at h
      · cases h
      · refine ⟨‹_›, ⟨order, horder⟩, hfresh, ?_⟩
        have hrow : ({ db with events := e :: db.events } : Database).orders e.orderKey =
            some order := horder
        rw [Database.updateFieldsIfStatusIn_of hrow] at h
        -- the order is closed, filled up, or left, by the status it is in
        cases htransition : orderExecutedTransitionStatuses.contains order.status with
        | true =>
          rw [htransition] at h
          cases h
          refine ⟨rfl, Database.orders_write_of hrow ?_⟩
          rw [applyExecuted, if_pos htransition]
        | false =>
          rw [htransition] at h
          cases hbackfill : shouldBackfillExecutedEvent order with
          | true =>
            simp only [hbackfill, Bool.false_eq_true, if_false, if_true] at h
            cases h
            refine ⟨rfl, Database.orders_write_of hrow ?_⟩
            rw [applyExecuted, htransition, hbackfill]
            rfl
          | false =>
            simp only [hbackfill, Bool.false_eq_true, if_false] at h
            cases h
            refine ⟨rfl, Database.orders_of hrow ?_⟩
            rw [applyExecuted, htransition, hbackfill]
            rfl

theorem applyNonceInvalidated_ok {e : OrderEvent} {db db' : Database}
    (h : applyNonceInvalidated e db = .ok db') :
    (∀ row ∈ db.events, row.id ≠ e.id) ∧ db'.events = e :: db.events ∧
      ∀ key, db'.orders key = (db.orders key).map fun order =>
        if Database.ofMakerAndNonce e key order then invalidateOrder e order else order := by
  unfold applyNonceInvalidated at h
  split at h
  · cases h
  · obtain ⟨hfresh, rfl⟩ := Database.createEvent_some ‹_›
    cases h
    exact ⟨hfresh, rfl, fun key => rfl⟩

/-- `Revert` of an event without a row does nothing. -/
theorem revert_of_not_stored {e : OrderEvent} {db : Database}
    (h : ∀ row ∈ db.events, row.id ≠ e.id) : revert e db = db := by
  unfold revert Database.deleteEvent
  have hnone : (db.events.any fun row => row.id = e.id) = false := by simpa using h
  have hall : (db.events.filter fun row => row.id ≠ e.id) = db.events := by simpa using h
  simp only [hnone, hall, Bool.false_eq_true, if_false]

/-- `Revert` of an event with a row deletes the row and rebuilds the orders. -/
theorem revert_of_stored {e : OrderEvent} {db : Database} (h : ∃ row ∈ db.events, row.id = e.id) :
    (revert e db).events = (db.events.filter fun row => row.id ≠ e.id) ∧
      ∀ key, (revert e db).orders key =
        (db.orders key).map (revertOrder e (db.deleteEvent e).1 key) := by
  have hany : (db.events.any fun row => row.id = e.id) = true := by simpa using h
  have hdeleted : (db.deleteEvent e).2 = true := hany
  unfold revert
  cases hname : e.name with
  | nonceInvalidated =>
    simp only [hdeleted, if_true, revertOrder_of_invalidated hname]
    exact ⟨rfl, fun key => rfl⟩
  | orderExecuted =>
    simp only [hdeleted, if_true, revertOrder_of_executed hname]
    split
    · rename_i hnone
      refine ⟨rfl, fun key => ?_⟩
      by_cases hkey : key = e.orderKey
      · subst hkey
        have hrow : db.orders e.orderKey = none := hnone
        rw [hrow]
        exact hrow
      · simp only [if_neg hkey, Option.map_id']
        rfl
    · rename_i order horder
      exact ⟨rfl, Database.orders_write_of (g := fun key order => revertExecuted
        ((db.deleteEvent e).1.executedEvents key)
        ((db.deleteEvent e).1.invalidatedEvents key order.maker order.nonce) order) horder rfl⟩

end EventService

end Backend
