-- SUMMARY: The status of an order follows the stored events over every sequence of event service calls, unless the last cancellation of an executed order is reverted.
import FluxSwap.Backend.EventService
import FluxSwap.Lib.System

/-!
# Status and stored events

An order that was created `open` is rebuilt from the rows that are stored for it: those that
execute it and those that invalidate its nonce. Both kinds can be there during a
reorganisation, and then either of the two final states is right.
-/

namespace Backend

open Status

namespace EventService

/-! ## Reasons -/

theorem buildExecutedStatusReason_clears (order : Order) :
    shouldClearExecutedStatusReason (buildExecutedStatusReason order) = true := by
  unfold buildExecutedStatusReason
  split <;> rfl

theorem buildExecutedStatusReasonForRestoredEvent_clears (order : Order) :
    shouldClearExecutedStatusReason (buildExecutedStatusReasonForRestoredEvent order) = true := by
  unfold buildExecutedStatusReasonForRestoredEvent
  split
  · rfl
  · split
    · assumption
    · rfl

/-- The reasons of a cancellation by an event. -/
def IsCancellation (reason : Reason) : Prop :=
  shouldClearCancelledStatusReason reason = true ∨ reason = .nonceInvalidatedEventAfterExpired

theorem buildCancelledStatusReason_isCancellation (order : Order) :
    IsCancellation (buildCancelledStatusReason order) := by
  unfold buildCancelledStatusReason IsCancellation
  split
  · exact .inr rfl
  · split <;> exact .inl rfl
  · split <;> exact .inl rfl
  · exact .inl rfl
  · exact .inl rfl

theorem cancelledStatusReasonByHashes_isCancellation (order : Order) :
    IsCancellation (cancelledStatusReasonByHashes order) := by
  unfold cancelledStatusReasonByHashes IsCancellation
  split
  · exact .inl rfl
  · split
    · exact .inl rfl
    · split
      · exact .inr rfl
      · exact .inl rfl

theorem buildCancelledStatusReasonForRestoredEvent_isCancellation (order : Order) :
    IsCancellation (buildCancelledStatusReasonForRestoredEvent order) := by
  unfold buildCancelledStatusReasonForRestoredEvent
  split
  · exact .inl (by rw [‹order.statusReason = _›]; rfl)
  · exact .inl (by rw [‹order.statusReason = _›]; rfl)
  · exact .inl (by rw [‹order.statusReason = _›]; rfl)
  · exact .inl (by rw [‹order.statusReason = _›]; rfl)
  · exact .inr ‹_›
  · exact .inl rfl
  · exact .inr rfl
  · split
    · exact buildCancelledStatusReason_isCancellation order
    · exact buildCancelledStatusReason_isCancellation order
    · exact buildCancelledStatusReason_isCancellation order
    · exact buildCancelledStatusReason_isCancellation order
    · exact buildCancelledStatusReason_isCancellation order
    · split
      · exact .inl rfl
      · exact cancelledStatusReasonByHashes_isCancellation order
    · exact cancelledStatusReasonByHashes_isCancellation order

/-! ## The invariant of one order -/

/-- The status of an order follows its stored `OrderExecuted` and `NonceInvalidated` rows. -/
structure FollowsRows (executedRows invalidatedRows : List OrderEvent) (order : Order) : Prop where
  executed : executedRows ≠ [] → invalidatedRows = [] → order.status = executed
  cancelled : invalidatedRows ≠ [] → executedRows = [] → order.status = cancelled
  neither : executedRows = [] → invalidatedRows = [] →
    order.status ≠ Status.executed ∧ order.status ≠ Status.cancelled

/-- Its reason is one that reverting an event undoes. -/
structure Rebuildable (executedRows invalidatedRows : List OrderEvent) (order : Order) : Prop
    extends FollowsRows executedRows invalidatedRows order where
  both : executedRows ≠ [] → invalidatedRows ≠ [] →
    order.status = Status.executed ∨ order.status = Status.cancelled
  executedReason : order.status = Status.executed →
    shouldClearExecutedStatusReason order.statusReason = true
  cancelledReason : order.status = Status.cancelled → IsCancellation order.statusReason

namespace Rebuildable

variable {executedRows invalidatedRows rows : List OrderEvent} {order : Order}

theorem of_executed (hst : order.status = Status.executed) (hrows : executedRows ≠ [])
    (hreason : shouldClearExecutedStatusReason order.statusReason = true) :
    Rebuildable executedRows invalidatedRows order where
  executed _ _ := hst
  cancelled _ hnone := (hrows hnone).elim
  neither hnone := (hrows hnone).elim
  both _ _ := .inl hst
  executedReason _ := hreason
  cancelledReason h := by
    rw [hst] at h
    cases h

theorem of_cancelled (hst : order.status = Status.cancelled) (hrows : invalidatedRows ≠ [])
    (hreason : IsCancellation order.statusReason) :
    Rebuildable executedRows invalidatedRows order where
  executed _ hnone := (hrows hnone).elim
  cancelled _ _ := hst
  neither _ hnone := (hrows hnone).elim
  both _ _ := .inr hst
  executedReason h := by
    rw [hst] at h
    cases h
  cancelledReason _ := hreason

theorem of_active (hexecuted : order.status ≠ Status.executed)
    (hcancelled : order.status ≠ Status.cancelled) : Rebuildable [] [] order where
  executed h := (h rfl).elim
  cancelled h := (h rfl).elim
  neither _ _ := ⟨hexecuted, hcancelled⟩
  both h := (h rfl).elim
  executedReason h := (hexecuted h).elim
  cancelledReason h := (hcancelled h).elim

/-- An executed order has a row that executes it. -/
theorem executed_rows (h : Rebuildable executedRows invalidatedRows order)
    (hst : order.status = Status.executed) : executedRows ≠ [] := by
  intro hnone
  by_cases hrows : invalidatedRows = []
  · exact (h.neither hnone hrows).1 hst
  · have hcancelled := h.cancelled hrows hnone
    rw [hst] at hcancelled
    cases hcancelled

/-- A cancelled order has a row that invalidates its nonce. -/
theorem cancelled_rows (h : Rebuildable executedRows invalidatedRows order)
    (hst : order.status = Status.cancelled) : invalidatedRows ≠ [] := by
  intro hnone
  by_cases hrows : executedRows = []
  · exact (h.neither hrows hnone).2 hst
  · have hexecuted := h.executed hrows hnone
    rw [hst] at hexecuted
    cases hexecuted

/-- An order with rows is in one of the two final states. -/
theorem final (h : Rebuildable executedRows invalidatedRows order)
    (hrows : executedRows ≠ [] ∨ invalidatedRows ≠ []) :
    order.status = Status.executed ∨ order.status = Status.cancelled := by
  by_cases hexecuted : executedRows = []
  · exact .inr (h.cancelled (hrows.resolve_left fun hne => hne hexecuted) hexecuted)
  · by_cases hinvalidated : invalidatedRows = []
    · exact .inl (h.executed hexecuted hinvalidated)
    · exact h.both hexecuted hinvalidated

end Rebuildable

/-! ## The writers -/

namespace Rebuildable

variable {executedRows invalidatedRows rows : List OrderEvent} {order : Order}

theorem restored (e : OrderEvent) (order : Order) (hrows : executedRows ≠ []) :
    Rebuildable executedRows invalidatedRows (restoreExecuted e order order) :=
  .of_executed rfl hrows (buildExecutedStatusReasonForRestoredEvent_clears order)

/-- An execution is applied. -/
theorem applyExecuted (h : Rebuildable executedRows invalidatedRows order) (e : OrderEvent)
    (hrows : rows ≠ []) :
    Rebuildable rows invalidatedRows (EventService.applyExecuted e order) := by
  unfold EventService.applyExecuted
  split
  · exact .of_executed rfl hrows (buildExecutedStatusReason_clears order)
  · rename_i hguard
    split
    · exact restored e order hrows
    · -- The statuses that `Apply` leaves alone are the two final ones.
      cases hst : order.status with
      | executed => exact .of_executed hst hrows (h.executedReason hst)
      | cancelled => exact .of_cancelled hst (h.cancelled_rows hst) (h.cancelledReason hst)
      | _ =>
        rw [hst] at hguard
        exact (hguard rfl).elim

/-- An invalidation is applied. -/
theorem invalidateOrder (h : Rebuildable executedRows invalidatedRows order) (e : OrderEvent)
    (hrows : rows ≠ []) :
    Rebuildable executedRows rows (EventService.invalidateOrder e order) := by
  unfold EventService.invalidateOrder
  split
  · exact .of_cancelled rfl hrows (buildCancelledStatusReason_isCancellation order)
  · rename_i hguard
    split
    · exact .of_cancelled rfl hrows (buildCancelledStatusReasonForRestoredEvent_isCancellation order)
    · cases hst : order.status with
      | executed => exact .of_executed hst (h.executed_rows hst) (h.executedReason hst)
      | cancelled => exact .of_cancelled hst hrows (h.cancelledReason hst)
      | _ =>
        rw [hst] at hguard
        exact (hguard rfl).elim

/-- An execution is reverted. -/
theorem revertExecuted (h : Rebuildable executedRows invalidatedRows order)
    (hrows : executedRows ≠ []) :
    Rebuildable rows invalidatedRows
      (EventService.revertExecuted rows invalidatedRows order) := by
  unfold EventService.revertExecuted
  split
  · exact restored _ order (OrderEvent.ne_nil_of_latest ‹_›)
  · rename_i hlatest
    rw [OrderEvent.latest_eq_none.mp hlatest]
    split
    · exact .of_cancelled rfl (OrderEvent.ne_nil_of_latest ‹_›)
        (buildCancelledStatusReasonForRestoredEvent_isCancellation order)
    · rename_i hcancel
      rw [OrderEvent.latest_eq_none.mp hcancel] at h ⊢
      have hst := h.executed hrows rfl
      split
      · exact .of_active (by rintro ⟨⟩) (by rintro ⟨⟩)
      · split
        · exact .of_active (by rintro ⟨⟩) (by rintro ⟨⟩)
        · rw [clearExecutedStatus, if_pos (h.executedReason hst)]
          exact .of_active (by rintro ⟨⟩) (by rintro ⟨⟩)

/-- The updates of a reorganisation bring the order back to a status that is not final. -/
theorem active_of_restore {restore : Order → Order}
    (h : buildCancelledReorgRestoreUpdates order = some restore) (o : Order) :
    (restore o).status ≠ Status.executed ∧ (restore o).status ≠ Status.cancelled := by
  unfold buildCancelledReorgRestoreUpdates at h
  split at h
  · cases h
    exact ⟨by rintro ⟨⟩, by rintro ⟨⟩⟩
  · split at h <;> cases h
    exact ⟨by rintro ⟨⟩, by rintro ⟨⟩⟩
  · split at h <;> cases h
    exact ⟨by rintro ⟨⟩, by rintro ⟨⟩⟩
  · cases h
    exact ⟨by rintro ⟨⟩, by rintro ⟨⟩⟩
  · cases h

/-- The last invalidation is reverted. A cancelled order with executions has to be one that
    `Revert` looks up the executions of. -/
theorem revertLastInvalidated (h : Rebuildable executedRows invalidatedRows order)
    (hrows : invalidatedRows ≠ [])
    (hclean : order.status = Status.cancelled → executedRows ≠ [] →
      shouldBackfillCancelledEvent order = true) :
    Rebuildable executedRows [] (EventService.revertLastInvalidated executedRows order) := by
  unfold EventService.revertLastInvalidated
  rcases h.final (.inr hrows) with hst | hst
  · -- An executed order stays as it is.
    have hnot : order.status ≠ Status.cancelled := by
      rw [hst]
      rintro ⟨⟩
    have hbackfill : shouldBackfillCancelledEvent order = false := by
      unfold shouldBackfillCancelledEvent
      exact decide_eq_false fun hboth => hnot hboth.1
    have hkept : Rebuildable executedRows [] order :=
      .of_executed hst (h.executed_rows hst) (h.executedReason hst)
    simp only [hbackfill, Bool.false_eq_true, if_false, if_neg hnot]
    split
    · exact hkept
    · rw [if_neg fun hboth => hnot hboth.1]
      exact hkept
  · by_cases hexecuted : executedRows = []
    · -- Without executions the order becomes active again.
      subst hexecuted
      have hlatest : (if shouldBackfillCancelledEvent order = true then OrderEvent.latest []
          else none) = none := by
        split <;> rfl
      rw [hlatest]
      dsimp only
      split
      · rename_i restore hrestore
        rw [if_pos hst]
        exact .of_active (active_of_restore hrestore order).1 (active_of_restore hrestore order).2
      · rename_i hnone
        have hclear : shouldClearCancelledStatusReason order.statusReason = true := by
          rcases h.cancelledReason hst with hclear | hexpired
          · exact hclear
          · unfold buildCancelledReorgRestoreUpdates at hnone
            rw [hexpired] at hnone
            cases hnone
        rw [if_pos ⟨hst, hclear⟩]
        exact .of_active (by rintro ⟨⟩) (by rintro ⟨⟩)
    · -- With executions the latest one is restored.
      rw [hclean hst hexecuted]
      obtain ⟨latest, hlatest⟩ := OrderEvent.exists_latest hexecuted
      simp only [if_true, hlatest]
      exact restored latest order hexecuted

/-- An invalidation is reverted. -/
theorem revertInvalidated (h : Rebuildable executedRows invalidatedRows order)
    (hrows : invalidatedRows ≠ [])
    (hclean : order.status = Status.cancelled → executedRows ≠ [] → rows = [] →
      shouldBackfillCancelledEvent order = true) :
    Rebuildable executedRows rows (EventService.revertInvalidated rows executedRows order) := by
  unfold EventService.revertInvalidated
  split
  · rename_i hlatest
    have hnone := OrderEvent.latest_eq_none.mp hlatest
    rw [hnone]
    exact h.revertLastInvalidated hrows fun hst hexecuted => hclean hst hexecuted hnone
  · have hsome := OrderEvent.ne_nil_of_latest ‹_›
    rcases h.final (.inr hrows) with hst | hst
    · rw [if_pos hst]
      exact .of_executed hst (h.executed_rows hst) (h.executedReason hst)
    · rw [if_neg (by rw [hst]; rintro ⟨⟩), if_pos (by rw [hst]; rfl)]
      exact .of_cancelled rfl hsome
        (buildCancelledStatusReasonForRestoredEvent_isCancellation order)

end Rebuildable

/-! ## The maker and the nonce -/

theorem applyExecuted_keepsNonce (e : OrderEvent) (order : Order) :
    KeepsNonce order (applyExecuted e order) := by
  unfold applyExecuted
  split
  · exact ⟨rfl, rfl⟩
  · split <;> exact ⟨rfl, rfl⟩

theorem invalidateOrder_keepsNonce (e : OrderEvent) (order : Order) :
    KeepsNonce order (invalidateOrder e order) := by
  unfold invalidateOrder
  split
  · exact ⟨rfl, rfl⟩
  · split <;> exact ⟨rfl, rfl⟩

theorem revertExecuted_keepsNonce (remaining remainingCancel : List OrderEvent) (order : Order) :
    KeepsNonce order (revertExecuted remaining remainingCancel order) := by
  unfold revertExecuted
  split
  · exact ⟨rfl, rfl⟩
  · split
    · exact ⟨rfl, rfl⟩
    · split
      · exact ⟨rfl, rfl⟩
      · split
        · exact ⟨rfl, rfl⟩
        · unfold clearExecutedStatus
          split <;> exact ⟨rfl, rfl⟩

theorem restore_keepsNonce {order : Order} {restore : Order → Order}
    (h : buildCancelledReorgRestoreUpdates order = some restore) (o : Order) :
    KeepsNonce o (restore o) := by
  unfold buildCancelledReorgRestoreUpdates at h
  split at h
  · cases h
    exact ⟨rfl, rfl⟩
  · split at h <;> cases h
    exact ⟨rfl, rfl⟩
  · split at h <;> cases h
    exact ⟨rfl, rfl⟩
  · cases h
    exact ⟨rfl, rfl⟩
  · cases h

theorem revertInvalidated_keepsNonce (remaining executedRows : List OrderEvent) (order : Order) :
    KeepsNonce order (revertInvalidated remaining executedRows order) := by
  unfold revertInvalidated
  split
  · unfold revertLastInvalidated
    split
    · exact ⟨rfl, rfl⟩
    · split
      · split
        · exact restore_keepsNonce ‹_› order
        · exact ⟨rfl, rfl⟩
      · split <;> exact ⟨rfl, rfl⟩
  · split
    · exact ⟨rfl, rfl⟩
    · split <;> exact ⟨rfl, rfl⟩

theorem revertOrder_keepsNonce (e : OrderEvent) (db : Database) (key : OrderKey) (order : Order) :
    KeepsNonce order (revertOrder e db key order) := by
  unfold revertOrder
  split
  · split
    · exact revertExecuted_keepsNonce _ _ order
    · exact ⟨rfl, rfl⟩
  · split
    · exact revertInvalidated_keepsNonce _ _ order
    · exact ⟨rfl, rfl⟩

/-! ## Calls -/

/-- The parameters of a call are those of a stored row. -/
def Agrees (row e : OrderEvent) : Prop :=
  row.name = e.name ∧ row.contractAddress = e.contractAddress ∧
    match e.name with
    | .orderExecuted => row.orderHash = e.orderHash
    | .nonceInvalidated => row.maker = e.maker ∧ row.nonce = e.nonce

/-- Reverting the event deletes the last `NonceInvalidated` row of an order that is cancelled
    and has `OrderExecuted` rows, which `Revert` looks up only if the chain state, and not an
    event, has cancelled the order. -/
def HidesExecution (db : Database) (e : OrderEvent) : Prop :=
  e.name = .nonceInvalidated ∧ ∃ key order, db.orders key = some order ∧
    Database.ofMakerAndNonce e key order = true ∧ order.status = cancelled ∧
    shouldBackfillCancelledEvent order = false ∧ db.executedEvents key ≠ [] ∧
    (db.deleteEvent e).1.invalidatedEvents key order.maker order.nonce = []

/-- A call has the name of its event. A call of `Revert` has the parameters of the row that it
    deletes, and it does not hide an execution. -/
def Rebuilds (db : Database) : Call → Prop
  | .apply _ => True
  | .applyNonceInvalidated e => e.name = .nonceInvalidated
  | .revert e => (∀ row ∈ db.events, row.id = e.id → Agrees row e) ∧
      ((∃ row ∈ db.events, row.id = e.id) → ¬HidesExecution db e)

/-- Every order is rebuilt from its rows. -/
def StatusFollows (db : Database) : Prop :=
  ∀ key order, db.orders key = some order →
    Rebuildable (db.executedEvents key) (db.invalidatedEvents key order.maker order.nonce) order

namespace StatusFollows

variable {db db' : Database} {e : OrderEvent}

theorem apply (h : StatusFollows db) (hcall : EventService.apply e db = .ok db') :
    StatusFollows db' := by
  obtain ⟨hname, -, -, hevents, horders⟩ := apply_ok hcall
  intro key order' hrow'
  rw [horders] at hrow'
  obtain ⟨order, hrow, rfl⟩ := Option.map_eq_some_iff.mp hrow'
  have hinvalidated : ∀ maker nonce,
      db'.invalidatedEvents key maker nonce = db.invalidatedEvents key maker nonce := by
    intro maker nonce
    simp [Database.invalidatedEvents, hevents, hname]
  rw [hinvalidated]
  have hinv := h key order hrow
  split
  · subst key
    have hexecuted : db'.executedEvents e.orderKey = e :: db.executedEvents e.orderKey := by
      simp [Database.executedEvents, hevents, hname]
    obtain ⟨hmaker, hnonce⟩ := applyExecuted_keepsNonce e order
    rw [hexecuted, hmaker, hnonce]
    exact hinv.applyExecuted e (List.cons_ne_nil _ _)
  · rename_i hkey
    have hexecuted : db'.executedEvents key = db.executedEvents key := by
      simp [Database.executedEvents, hevents, Ne.symm hkey]
    rw [hexecuted]
    exact hinv

theorem applyNonceInvalidated (h : StatusFollows db)
    (hcall : EventService.applyNonceInvalidated e db = .ok db')
    (hname : e.name = .nonceInvalidated) : StatusFollows db' := by
  obtain ⟨-, hevents, horders⟩ := applyNonceInvalidated_ok hcall
  intro key order' hrow'
  rw [horders] at hrow'
  obtain ⟨order, hrow, rfl⟩ := Option.map_eq_some_iff.mp hrow'
  have hexecuted : db'.executedEvents key = db.executedEvents key := by
    simp [Database.executedEvents, hevents, hname]
  have hinv := h key order hrow
  rw [hexecuted]
  split
  · rename_i hof
    obtain ⟨hmaker, hnonce⟩ := invalidateOrder_keepsNonce e order
    obtain ⟨hchain, haddress, hm, hn⟩ := of_decide_eq_true hof
    have hinvalidated : db'.invalidatedEvents key order.maker order.nonce =
        e :: db.invalidatedEvents key order.maker order.nonce := by
      simp [Database.invalidatedEvents, hevents, hname, hchain, haddress, hm, hn]
    rw [hmaker, hnonce, hinvalidated]
    exact hinv.invalidateOrder e (List.cons_ne_nil _ _)
  · rename_i hof
    have hinvalidated : db'.invalidatedEvents key order.maker order.nonce =
        db.invalidatedEvents key order.maker order.nonce := by
      unfold Database.invalidatedEvents
      rw [hevents, List.filter_cons_of_neg]
      intro hmatch
      obtain ⟨-, hchain, haddress, hm, hn⟩ := of_decide_eq_true hmatch
      exact hof (decide_eq_true ⟨hchain.symm, haddress.symm, hm.symm, hn.symm⟩)
    rw [hinvalidated]
    exact hinv

/-- Deleting an event leaves a query that does not match it. -/
theorem filter_delete {p : OrderEvent → Bool}
    (h : ∀ row ∈ db.events, row.id = e.id → p row = false) :
    (db.deleteEvent e).1.events.filter p = db.events.filter p := by
  unfold Database.deleteEvent
  rw [List.filter_filter]
  apply List.filter_congr
  intro row hrow
  by_cases hid : row.id = e.id
  · rw [h row hrow hid, Bool.false_and]
  · simp [hid]

/-- An execution is reverted. -/
theorem revert_executed (h : StatusFollows db)
    (hagree : ∀ row ∈ db.events, row.id = e.id → Agrees row e)
    (hstored : ∃ row ∈ db.events, row.id = e.id) (hname : e.name = .orderExecuted) :
    StatusFollows (EventService.revert e db) := by
  obtain ⟨hevents, horders⟩ := revert_of_stored hstored
  intro key order' hrow'
  rw [horders] at hrow'
  obtain ⟨order, hrow, rfl⟩ := Option.map_eq_some_iff.mp hrow'
  have hinv := h key order hrow
  -- The call deletes no row that invalidates a nonce.
  have hinvalidated : (db.deleteEvent e).1.invalidatedEvents key order.maker order.nonce =
      db.invalidatedEvents key order.maker order.nonce := by
    refine filter_delete fun row hrow hid => decide_eq_false fun hmatch => ?_
    have hagreed := (hagree row hrow hid).1
    rw [hmatch.1, hname] at hagreed
    cases hagreed
  obtain ⟨hmaker, hnonce⟩ := revertOrder_keepsNonce e (db.deleteEvent e).1 key order
  change Rebuildable ((EventService.revert e db).events.filter _)
    ((EventService.revert e db).events.filter _) _
  rw [hmaker, hnonce, hevents]
  change Rebuildable ((db.deleteEvent e).1.executedEvents key)
    ((db.deleteEvent e).1.invalidatedEvents key order.maker order.nonce) _
  rw [revertOrder_of_executed hname]
  dsimp only
  rw [hinvalidated]
  split
  · subst key
    refine hinv.revertExecuted ?_
    obtain ⟨row, hmem, hid⟩ := hstored
    have hagreed := hagree row hmem hid
    refine List.ne_nil_of_mem (List.mem_filter.mpr ⟨hmem, decide_eq_true ?_⟩)
    unfold Agrees at hagreed
    rw [hname] at hagreed
    obtain ⟨hrowname, haddress, hhash⟩ := hagreed
    refine ⟨hrowname, ?_⟩
    unfold OrderEvent.orderKey
    rw [(Prod.mk.inj hid).1, haddress, hhash]
  · rename_i hkey
    have hexecuted : (db.deleteEvent e).1.executedEvents key = db.executedEvents key := by
      refine filter_delete fun row hrow hid => decide_eq_false fun hmatch => ?_
      have hagreed := hagree row hrow hid
      unfold Agrees at hagreed
      rw [hname] at hagreed
      obtain ⟨-, haddress, hhash⟩ := hagreed
      apply hkey
      rw [← hmatch.2]
      unfold OrderEvent.orderKey
      rw [(Prod.mk.inj hid).1, haddress, hhash]
    rw [hexecuted]
    exact hinv

/-- An invalidation is reverted. -/
theorem revert_invalidated (h : StatusFollows db)
    (hagree : ∀ row ∈ db.events, row.id = e.id → Agrees row e)
    (hstored : ∃ row ∈ db.events, row.id = e.id) (hname : e.name = .nonceInvalidated)
    (hclean : ¬HidesExecution db e) : StatusFollows (EventService.revert e db) := by
  obtain ⟨hevents, horders⟩ := revert_of_stored hstored
  intro key order' hrow'
  rw [horders] at hrow'
  obtain ⟨order, hrow, rfl⟩ := Option.map_eq_some_iff.mp hrow'
  have hinv := h key order hrow
  -- The call deletes no row that executes an order.
  have hexecuted : (db.deleteEvent e).1.executedEvents key = db.executedEvents key := by
    refine filter_delete fun row hrow hid => decide_eq_false fun hmatch => ?_
    have hagreed := (hagree row hrow hid).1
    rw [hmatch.1, hname] at hagreed
    cases hagreed
  obtain ⟨hmaker, hnonce⟩ := revertOrder_keepsNonce e (db.deleteEvent e).1 key order
  change Rebuildable ((EventService.revert e db).events.filter _)
    ((EventService.revert e db).events.filter _) _
  rw [hmaker, hnonce, hevents]
  change Rebuildable ((db.deleteEvent e).1.executedEvents key)
    ((db.deleteEvent e).1.invalidatedEvents key order.maker order.nonce) _
  rw [revertOrder_of_invalidated hname]
  dsimp only
  rw [hexecuted]
  have hrows : ∀ row ∈ db.events, row.id = e.id → row.chainId = e.chainId ∧
      row.contractAddress = e.contractAddress ∧ row.maker = e.maker ∧ row.nonce = e.nonce := by
    intro row hmem hid
    have hagreed := hagree row hmem hid
    unfold Agrees at hagreed
    rw [hname] at hagreed
    exact ⟨(Prod.mk.inj hid).1, hagreed.2⟩
  split
  · rename_i hof
    refine hinv.revertInvalidated ?_ ?_
    · obtain ⟨row, hmem, hid⟩ := hstored
      obtain ⟨hchain, haddress, hm, hn⟩ := hrows row hmem hid
      obtain ⟨hkchain, hkaddress, hom, hon⟩ := of_decide_eq_true hof
      refine List.ne_nil_of_mem (List.mem_filter.mpr ⟨hmem, decide_eq_true ⟨?_, ?_, ?_, ?_, ?_⟩⟩)
      · rw [(hagree row hmem hid).1, hname]
      · rw [hchain, hkchain]
      · rw [haddress, hkaddress]
      · rw [hm, hom]
      · rw [hn, hon]
    · intro hst hexecutedRows hnone
      by_contra hbackfill
      exact hclean ⟨hname, key, order, hrow, hof, hst, Bool.not_eq_true _ ▸ hbackfill,
        hexecutedRows, hnone⟩
  · rename_i hof
    have hinvalidated : (db.deleteEvent e).1.invalidatedEvents key order.maker order.nonce =
        db.invalidatedEvents key order.maker order.nonce := by
      refine filter_delete fun row hmem hid => decide_eq_false fun hmatch => ?_
      obtain ⟨hchain, haddress, hm, hn⟩ := hrows row hmem hid
      obtain ⟨-, hkchain, hkaddress, hom, hon⟩ := hmatch
      exact hof (decide_eq_true ⟨by rw [← hkchain, hchain], by rw [← hkaddress, haddress],
        by rw [← hom, hm], by rw [← hon, hn]⟩)
    rw [hinvalidated]
    exact hinv

theorem step (h : StatusFollows db) {call : Call} (hok : Rebuilds db call)
    (hcall : exec db call = .ok db') : StatusFollows db' := by
  cases call with
  | apply e => exact h.apply hcall
  | applyNonceInvalidated e => exact h.applyNonceInvalidated hcall hok
  | revert e =>
    cases hcall
    by_cases hstored : ∃ row ∈ db.events, row.id = e.id
    · cases hname : e.name with
      | orderExecuted => exact h.revert_executed hok.1 hstored hname
      | nonceInvalidated => exact h.revert_invalidated hok.1 hstored hname (hok.2 hstored)
    · rw [revert_of_not_stored fun row hrow hid => hstored ⟨row, hrow, hid⟩]
      exact h

end StatusFollows

/-! ## Runs -/

/-- Orders that were all created `open`, and no event yet. -/
def Created (db : Database) : Prop :=
  db.events = [] ∧ ∀ key order, db.orders key = some order → order.status = opened

/-- Sequences of event service calls. -/
def calls : System Database Call := System.ofCalls Created exec

theorem Created.statusFollows {db : Database} (h : Created db) : StatusFollows db := by
  intro key order hrow
  have hst := h.2 key order hrow
  unfold Database.executedEvents Database.invalidatedEvents
  rw [h.1]
  exact .of_active (by rw [hst]; rintro ⟨⟩) (by rw [hst]; rintro ⟨⟩)

/-- The status of every order follows the stored events: with executions only it is
    `executed`, with invalidations of its nonce only it is `cancelled`, and with neither it is
    none of the two. -/
theorem status_follows_rows {db : Database} (h : calls.ReachableWith Rebuilds db)
    {key : OrderKey} {order : Order} (hrow : db.orders key = some order) :
    FollowsRows (db.executedEvents key) (db.invalidatedEvents key order.maker order.nonce)
      order := by
  have hfollows : StatusFollows db := by
    refine System.ReachableWith.invariant ?_ ?_ h
    · intro db hcreated
      exact Created.statusFollows hcreated
    · intro db call db' hdb hok hcall
      exact StatusFollows.step hdb hok hcall
  exact (hfollows key order hrow).toFollowsRows

end EventService

/-! ## Concrete runs -/

namespace Example

/-- Transaction 50 executes the order. -/
def execution : OrderEvent where
  chainId := 1
  contractAddress := 900
  name := .orderExecuted
  txHash := 50
  logIndex := 0
  blockNumber := 100
  orderHash := 5
  maker := 11
  nonce := 0
  grossAmountOut := 1000
  executorFeeAmount := 40

/-- Transaction 77 invalidates its nonce. -/
def invalidation : OrderEvent := { execution with
  name := .nonceInvalidated
  txHash := 77
  blockNumber := 99
  orderHash := 0
  nonce := 7
  grossAmountOut := 0
  executorFeeAmount := 0 }

def created : Database where
  orders := fun key => if key = orderKey then some openOrder else none
  events := []

theorem created_created : EventService.Created created := by
  refine ⟨rfl, fun key order hrow => ?_⟩
  simp only [created, Option.ite_none_right_eq_some] at hrow
  rw [← Option.some.inj hrow.2]
  rfl

/-- Calls that apply events, and revert executions by their own rows. -/
def revertsExecutions (db : Database) : EventService.Call → Bool
  | .apply _ => true
  | .applyNonceInvalidated e => decide (e.name = .nonceInvalidated)
  | .revert e => decide (e.name = .orderExecuted ∧ ∀ row ∈ db.events, row.id = e.id → row = e)

theorem rebuilds_of_revertsExecutions {db : Database} {call : EventService.Call}
    (h : revertsExecutions db call = true) : EventService.Rebuilds db call := by
  cases call with
  | apply e => exact trivial
  | applyNonceInvalidated e =>
    have hname : e.name = .nonceInvalidated := of_decide_eq_true h
    exact hname
  | revert e =>
    obtain ⟨hname, hrows⟩ := of_decide_eq_true h
    refine ⟨fun row hrow hid => ?_, fun _ hhides => ?_⟩
    · rw [hrows row hrow hid]
      unfold EventService.Agrees
      rw [hname]
      exact ⟨rfl, rfl, rfl⟩
    · rw [hhides.1] at hname
      cases hname

end Example

open Example in
/-- The execution of an order is replaced by a cancellation. -/
theorem status_follows_rows_reorganised :
    ∃ db order, EventService.calls.ReachableWith EventService.Rebuilds db ∧
      db.orders orderKey = some order ∧ order.status = cancelled ∧
      EventService.FollowsRows (db.executedEvents orderKey)
        (db.invalidatedEvents orderKey order.maker order.nonce) order := by
  have hrun : (System.runWith EventService.exec
      (fun db call => revertsExecutions db call = true) created
      [.apply execution, .applyNonceInvalidated invalidation, .revert execution]).map
        (fun db => db.statusOf orderKey) = some (some cancelled) := by
    decide +kernel
  obtain ⟨db, hdb, hst⟩ := Option.map_eq_some_iff.mp hrun
  obtain ⟨order, hrow, hcancelled⟩ := Option.map_eq_some_iff.mp hst
  have hreach : EventService.calls.ReachableWith EventService.Rebuilds db :=
    System.ReachableWith.mono (fun _ _ => rebuilds_of_revertsExecutions)
      (System.reachableWith_of_runWith (.init created_created) hdb)
  exact ⟨db, order, hreach, hrow, hcancelled, EventService.status_follows_rows hreach hrow⟩

open Example in
/-- When the cancellation of an executed order is reverted, the order is `open`, although the
    row of its execution is still there. -/
theorem not_follows_rows_after_revert :
    ∃ db order, EventService.calls.Reachable db ∧ db.orders orderKey = some order ∧
      ¬EventService.FollowsRows (db.executedEvents orderKey)
        (db.invalidatedEvents orderKey order.maker order.nonce) order := by
  have hrun : (System.runWith EventService.exec (fun _ _ => True) created
      [.applyNonceInvalidated invalidation, .apply execution, .revert invalidation]).map (fun db =>
        ((db.orders orderKey).map fun order =>
            (order.status, db.invalidatedEvents orderKey order.maker order.nonce),
          db.executedEvents orderKey)) =
        some (some (opened, []), [execution]) := by
    decide +kernel
  obtain ⟨db, hdb, hsummary⟩ := Option.map_eq_some_iff.mp hrun
  obtain ⟨horder, hexecuted⟩ := Prod.mk.inj hsummary
  obtain ⟨order, hrow, hpair⟩ := Option.map_eq_some_iff.mp horder
  obtain ⟨hst, hinvalidated⟩ := Prod.mk.inj hpair
  refine ⟨db, order, System.reachableWith_of_runWith (.init created_created) hdb, hrow, ?_⟩
  intro h
  have hexec := h.executed (by rw [hexecuted]; exact List.cons_ne_nil _ _) hinvalidated
  rw [hst] at hexec
  cases hexec

end Backend
