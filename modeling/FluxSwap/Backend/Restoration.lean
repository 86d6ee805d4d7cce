-- SUMMARY: Cancelling the orders of a nonce and reverting it: exactly when every order gets back what it tracked.
import FluxSwap.Backend.StatusLog

/-!
# Reverting a cancellation

A `NonceInvalidated` event overwrites the status and the cancel hash of every order of the
nonce, and leaves the previous status in the reason. Reverting reads the reason. The cancel
hash that the user had registered is nowhere: it comes back only if the event was mined in
the same transaction.
-/

namespace Backend

open Status

namespace EventService

/-! ## One order -/

/-- The statuses that a cancellation overwrites, with the hash that a pending one tracks. -/
def Revertible (order : Order) : Prop :=
  match order.status with
  | opened | submittingExecute | expired => True
  | pendingExecute => order.submittedTxHash.isSome
  | pendingCancel => order.cancelledTxHash.isSome
  | executed | cancelled => False

/-- The order has its status and its tracked hash again. -/
structure Restored (order order' : Order) : Prop where
  status : order'.status = order.status
  submitted : order.status = pendingExecute → order'.submittedTxHash = order.submittedTxHash
  registered : order.status = pendingCancel → order'.cancelledTxHash = order.cancelledTxHash
  cleared : order.status ≠ pendingCancel → order'.cancelledTxHash = none

/-- The cancel hash that the order tracks is the transaction of the event. -/
def CancelledBy (e : OrderEvent) (order : Order) : Prop :=
  order.status = pendingCancel → order.cancelledTxHash = some e.txHash

/-- The reason that goes with a status after a restoration. -/
def restoredReason : Status → Reason
  | submittingExecute => .claimedForSubmission
  | pendingExecute => .submittedToChain
  | pendingCancel => .cancelTxSubmittedByUser
  | expired => .expiredByChainTime
  | opened | executed | cancelled => .none

/-- What comes back of an order: the cancel hash is the transaction of the event. -/
def comesBack (e : OrderEvent) (order : Order) : Order := { order with
  statusReason := restoredReason order.status
  lastBlockReason := if order.status = expired then .orderExpired else .none
  cancelledTxHash := if order.status = pendingCancel then some e.txHash else none
  lastCheckedBlock := 0 }

theorem invalidateOrder_of_revertible (e : OrderEvent) {order : Order} (h : Revertible order) :
    invalidateOrder e order = cancelByEvent e (buildCancelledStatusReason order) order := by
  unfold Revertible at h
  unfold invalidateOrder
  rw [if_pos]
  cases hst : order.status <;> simp [hst, orderCancelledTransitionStatuses] at h ⊢

/-- The last cancellation of a nonce is reverted by the reason that it left. -/
theorem revertInvalidated_cancelByEvent (e : OrderEvent) (executedRows : List OrderEvent)
    {order : Order} (h : Revertible order) :
    revertInvalidated [] executedRows (cancelByEvent e (buildCancelledStatusReason order) order) =
      comesBack e order := by
  unfold Revertible at h
  unfold comesBack
  cases hst : order.status with
  | opened =>
    simp [hst, revertInvalidated, revertLastInvalidated, cancelByEvent, buildCancelledStatusReason,
      shouldBackfillCancelledEvent, buildCancelledReorgRestoreUpdates, OrderEvent.latest,
      shouldClearCancelledStatusReason, restoredReason]
  | submittingExecute =>
    simp [hst, revertInvalidated, revertLastInvalidated, cancelByEvent, buildCancelledStatusReason,
      shouldBackfillCancelledEvent, buildCancelledReorgRestoreUpdates, OrderEvent.latest,
      restoredReason]
  | pendingExecute =>
    rw [hst] at h
    have hsubmitted : order.submittedTxHash.isSome := h
    simp [hst, revertInvalidated, revertLastInvalidated, cancelByEvent, buildCancelledStatusReason,
      shouldBackfillCancelledEvent, buildCancelledReorgRestoreUpdates, OrderEvent.latest,
      restoredReason, hsubmitted]
  | pendingCancel =>
    rw [hst] at h
    have hregistered : order.cancelledTxHash.isSome := h
    simp [hst, revertInvalidated, revertLastInvalidated, cancelByEvent, buildCancelledStatusReason,
      shouldBackfillCancelledEvent, buildCancelledReorgRestoreUpdates, OrderEvent.latest,
      restoredReason, hregistered]
  | expired =>
    simp [hst, revertInvalidated, revertLastInvalidated, cancelByEvent, buildCancelledStatusReason,
      shouldBackfillCancelledEvent, buildCancelledReorgRestoreUpdates, OrderEvent.latest,
      restoredReason]
  | executed =>
    rw [hst] at h
    exact h.elim
  | cancelled =>
    rw [hst] at h
    exact h.elim

/-- An order gets back what it tracked exactly if the event is the cancellation it tracked. -/
theorem restored_comesBack_iff (e : OrderEvent) (order : Order) :
    Restored order (comesBack e order) ↔ CancelledBy e order := by
  constructor
  · intro h hpending
    have hregistered := h.registered hpending
    simp only [comesBack, if_pos hpending] at hregistered
    exact hregistered.symm
  · intro h
    refine ⟨rfl, fun _ => rfl, ?_, ?_⟩
    · intro hpending
      simp only [comesBack, if_pos hpending]
      exact (h hpending).symm
    · intro hother
      simp only [comesBack, if_neg hother]

/-! ## All orders of the nonce -/

/-- No other cancellation of the event's nonce is stored. -/
def OnlyCancellation (e : OrderEvent) (db : Database) : Prop :=
  ∀ row ∈ db.events, row.name = .nonceInvalidated →
    ¬(row.chainId = e.chainId ∧ row.contractAddress = e.contractAddress ∧ row.maker = e.maker ∧
      row.nonce = e.nonce)

/-- After the event is deleted, no row is left that cancels the orders of its nonce. -/
theorem invalidatedEvents_eq_nil {e : OrderEvent} {db db' : Database} {key : OrderKey}
    {order : Order} (honly : OnlyCancellation e db) (hevents : db'.events = e :: db.events)
    (hnonce : Database.ofMakerAndNonce e key order = true) :
    (db'.deleteEvent e).1.invalidatedEvents key order.maker order.nonce = [] := by
  obtain ⟨hchain, hcontract, hmaker, hnonce⟩ := of_decide_eq_true hnonce
  simp only [Database.invalidatedEvents, Database.deleteEvent, hevents, List.filter_filter,
    List.filter_eq_nil_iff, Bool.and_eq_true, decide_eq_true_eq, not_and]
  intro row hrow hmatch hid
  obtain ⟨hname, hmatch⟩ := hmatch
  rcases List.mem_cons.mp hrow with rfl | hrow
  · exact hid rfl
  · rw [hchain, hcontract, hmaker, hnonce] at hmatch
    exact honly row hrow hname hmatch

/-- `ApplyNonceInvalidated` and then `Revert` of the only cancellation of a nonce. -/
theorem revert_applyNonceInvalidated {e : OrderEvent} {db db' : Database} {key : OrderKey}
    {order : Order} (hname : e.name = .nonceInvalidated) (honly : OnlyCancellation e db)
    (happly : applyNonceInvalidated e db = .ok db') (hrow : db.orders key = some order)
    (hnonce : Database.ofMakerAndNonce e key order = true) (hrevertible : Revertible order) :
    (revert e db').orders key = some (comesBack e order) := by
  obtain ⟨-, hevents, horders⟩ := applyNonceInvalidated_ok happly
  have hstored : ∃ row ∈ db'.events, row.id = e.id := ⟨e, by rw [hevents]; exact .head _, rfl⟩
  obtain ⟨-, hreverted⟩ := revert_of_stored hstored
  have hkeeps := invalidateOrder_keepsNonce e order
  have hnonce' : Database.ofMakerAndNonce e key (invalidateOrder e order) = true := by
    unfold Database.ofMakerAndNonce at hnonce ⊢
    rw [hkeeps.1, hkeeps.2]
    exact hnonce
  rw [hreverted, horders, hrow, Option.map_some, Option.map_some, if_pos hnonce,
    revertOrder_of_invalidated hname]
  simp only [hnonce', if_true]
  rw [invalidatedEvents_eq_nil honly hevents hnonce', invalidateOrder_of_revertible e hrevertible,
    revertInvalidated_cancelByEvent e _ hrevertible]

/-- The orders of the event's nonce. -/
def Affected (e : OrderEvent) (db : Database) (key : OrderKey) (order : Order) : Prop :=
  db.orders key = some order ∧ Database.ofMakerAndNonce e key order = true

/-- The event is stored and deleted again, and every order of the nonce is restored. -/
def RoundTrips (e : OrderEvent) (db : Database) : Prop :=
  ∃ db', applyNonceInvalidated e db = .ok db' ∧ ∀ key order, Affected e db key order →
    ∃ order', (revert e db').orders key = some order' ∧ Restored order order'

/-- For every set of orders of one nonce in statuses that a cancellation overwrites, and every
    event that is the only cancellation of the nonce: applying and reverting it restores all of
    them exactly if each order with a registered cancel transaction was cancelled by it. -/
theorem roundTrips_iff {e : OrderEvent} {db : Database} (hname : e.name = .nonceInvalidated)
    (hfresh : ∀ row ∈ db.events, row.id ≠ e.id) (honly : OnlyCancellation e db)
    (hrevertible : ∀ key order, Affected e db key order → Revertible order) :
    RoundTrips e db ↔ ∀ key order, Affected e db key order → CancelledBy e order := by
  have hcreate : ∃ db', applyNonceInvalidated e db = .ok db' := by
    unfold applyNonceInvalidated Database.createEvent
    have hnone : (db.events.any fun row => row.id = e.id) = false := by simpa using hfresh
    rw [hnone]
    exact ⟨_, rfl⟩
  obtain ⟨db', happly⟩ := hcreate
  have hback : ∀ key order, Affected e db key order →
      (revert e db').orders key = some (comesBack e order) := by
    intro key order haffected
    exact revert_applyNonceInvalidated hname honly happly haffected.1 haffected.2
      (hrevertible key order haffected)
  constructor
  · rintro ⟨db₁, happly₁, hall⟩ key order haffected
    obtain rfl := Except.ok.inj (happly.symm.trans happly₁)
    obtain ⟨order', hrow, hrestored⟩ := hall key order haffected
    obtain rfl := Option.some.inj ((hback key order haffected).symm.trans hrow)
    exact (restored_comesBack_iff e order).mp hrestored
  · intro hall
    refine ⟨db', happly, fun key order haffected => ?_⟩
    exact ⟨comesBack e order, hback key order haffected,
      (restored_comesBack_iff e order).mpr (hall key order haffected)⟩

end EventService

/-! ## Concrete cancellations -/

namespace Example

/-- The user registered a cancel transaction for the order. -/
def cancelling (cancelTxHash : TxHash) : Order :=
  { openOrder with
    status := pendingCancel
    statusReason := .cancelTxSubmittedByUser
    cancelledTxHash := some cancelTxHash }

/-- Another order of the same nonce, on its way to the chain. -/
def executing : Order :=
  { openOrder with
    status := pendingExecute
    statusReason := .submittedToChain
    submittedTxHash := some 60 }

def twoOrders (cancelTxHash : TxHash) : Database where
  orders := fun key =>
    if key = orderKey then some (cancelling cancelTxHash)
    else if key = { orderKey with orderHash := 6 } then some executing
    else none
  events := []

theorem twoOrders_affected {cancelTxHash : TxHash} {key : OrderKey} {order : Order}
    (h : EventService.Affected invalidation (twoOrders cancelTxHash) key order) :
    order = cancelling cancelTxHash ∨ order = executing := by
  obtain ⟨hrow, -⟩ := h
  simp only [twoOrders] at hrow
  split at hrow
  · exact .inl (Option.some.inj hrow).symm
  · split at hrow
    · exact .inr (Option.some.inj hrow).symm
    · cases hrow

theorem twoOrders_revertible {cancelTxHash : TxHash} {key : OrderKey} {order : Order}
    (h : EventService.Affected invalidation (twoOrders cancelTxHash) key order) :
    EventService.Revertible order := by
  rcases twoOrders_affected h with rfl | rfl <;> rfl

end Example

open Example in
/-- The registered transaction 77 cancels both orders, and both come back. -/
theorem roundTrips_registered : EventService.RoundTrips invalidation (twoOrders 77) := by
  apply (EventService.roundTrips_iff rfl (by decide) (by simp [EventService.OnlyCancellation,
    twoOrders]) fun key order => twoOrders_revertible).mpr
  intro key order haffected
  rcases twoOrders_affected haffected with rfl | rfl
  · intro _
    rfl
  · intro hpending
    cases hpending

open Example in
/-- Transaction 66 was registered and transaction 77 cancels the nonce: the order is
    `pending_cancel` again, and waits for transaction 77. -/
theorem not_roundTrips_of_other_transaction :
    EventService.OnlyCancellation invalidation (twoOrders 66) ∧
      (∀ key order, EventService.Affected invalidation (twoOrders 66) key order →
        EventService.Revertible order) ∧
      ¬EventService.RoundTrips invalidation (twoOrders 66) := by
  have honly : EventService.OnlyCancellation invalidation (twoOrders 66) := by
    simp [EventService.OnlyCancellation, twoOrders]
  refine ⟨honly, fun key order => twoOrders_revertible, ?_⟩
  rintro ⟨db', happly, hall⟩
  have haffected : EventService.Affected invalidation (twoOrders 66) orderKey (cancelling 66) :=
    ⟨rfl, by decide⟩
  obtain ⟨order', hrow, hrestored⟩ := hall orderKey (cancelling 66) haffected
  have hback := EventService.revert_applyNonceInvalidated rfl honly happly haffected.1 haffected.2
    (twoOrders_revertible haffected)
  obtain rfl := Option.some.inj (hback.symm.trans hrow)
  have hcancelled := (EventService.restored_comesBack_iff _ _).mp hrestored rfl
  exact absurd hcancelled (by decide)

end Backend
