-- SUMMARY: Once every log has been applied, an order is executed exactly if its event was emitted, as long as nobody takes the nonce of an executed order for a cancelled one.
import FluxSwap.Indexer.Joint

/-!
# What becomes of an order

`executeOrder` raises the flag of the nonce too. The receipt loop asks for that flag alone,
closes an order as cancelled that has just been executed, and a cancelled order is not written
by the execution's event any more. Without this the rows are what the chain has made of the
orders, and every step keeps them so.
-/

namespace Outcome

open Backend
open Backend.Status (opened submittingExecute pendingExecute pendingCancel executed cancelled expired)
open FluxSignedOrderSettlement (Deployment SignedOrder Event hashOrder)

variable {ω : Type}

/-! ## Agreement -/

/-- Once every log has been applied, an order is executed exactly if its event was emitted, and
    cancelled only if its nonce was consumed by something else. -/
def Agrees (s : State ω) : Prop :=
  s.delivered = s.chain.events.length → ∀ key row, s.backend.db.orders key = some row →
    (row.status = executed ↔ Executed s.chain key.orderHash) ∧
    (row.status = cancelled →
      Consumed s.chain row.maker row.nonce.toNat ∧ ¬Executed s.chain key.orderHash)

/-- The executed orders that share the hash of a stored one share its maker and nonce. -/
def NoCollision (d : Deployment ω) (s : State ω) : Prop :=
  ∀ e ∈ s.chain.events, ∀ orderHash row, e.executedHash = some orderHash →
    s.backend.db.orders (keyOf d orderHash) = some row →
      e.consumed = some (row.maker, row.nonce.toNat)

/-- The check of `NoCollision`. -/
def collisionFree (d : Deployment ω) (s : State ω) : Bool :=
  s.chain.events.all fun e =>
    e.executedHash.all fun orderHash =>
      (s.backend.db.orders (keyOf d orderHash)).all fun row =>
        decide (e.consumed = some (row.maker, row.nonce.toNat))

theorem collisionFree_iff {d : Deployment ω} {s : State ω} :
    collisionFree d s = true ↔ NoCollision d s := by
  simp only [collisionFree, NoCollision, List.all_eq_true, Option.all_eq_true, decide_eq_true_eq]
  exact ⟨fun h e he orderHash row hhash hrow => h e he orderHash hhash row hrow,
    fun h e he orderHash hhash row hrow => h e he orderHash row hhash hrow⟩

/-- When an instance is told of an order that its nonce has been invalidated, and the row is
    still in the status that the instance would close, the order has not been executed. -/
def cancelsUnexecuted (s : State ω) : Op ω → Bool
  | .worker i act =>
    match asksNonce (s.backend.tasks i) act, act.answers with
    | some (key, status), some answers =>
      !saysYes answers.isNonceInvalidated ||
        !decide (s.backend.db.statusOf key = some status) ||
        !s.chain.storage.orderExecuted key.orderHash
    | _, _ => true
  | _ => true

/-! ## The invariant -/

section Invariant

variable {d : Deployment ω} {places : Places} {cfg : Backend.Config} {s s' : State ω}

/-- What holds between steps: closed rows are what the chain has made of their orders, the
    executions that have been applied are in the rows, and the rows in hand belong to stored
    orders. -/
structure Consistent (d : Deployment ω) (places : Places) (s : State ω) : Prop where
  sound : FluxSignedOrderSettlement.Sound d s.chain
  delivered : s.delivered ≤ s.chain.events.length
  own : ∀ key row, s.backend.db.orders key = some row →
    key = keyOf d key.orderHash ∧ 0 ≤ row.nonce
  executed : ∀ key row, s.backend.db.orders key = some row → row.status = Status.executed →
    Executed s.chain key.orderHash
  cancelled : ∀ key row, s.backend.db.orders key = some row → row.status = Status.cancelled →
    Consumed s.chain row.maker row.nonce.toNat ∧ ¬Executed s.chain key.orderHash
  applied : ∀ i event orderHash, i < s.delivered → s.chain.events[i]? = some event →
    event.executedHash = some orderHash →
      ∃ row, s.backend.db.orders (keyOf d orderHash) = some row ∧ row.status = Status.executed
  stored : ∀ e ∈ s.backend.db.events, ∃ i < s.delivered, e.id = idOf d places i
  inHand : ∀ i entry, entry ∈ (s.backend.tasks i).entries →
    ∃ row, s.backend.db.orders entry.1 = some row ∧ KeepsNonce row entry.2

/-- What shares no hash now shared none before. -/
theorem NoCollision.of_grows (h : NoCollision d s') (hgrows : Grows s s') : NoCollision d s := by
  intro e he orderHash row hhash hrow
  obtain ⟨row', hrow', hmaker, hnonce⟩ := hgrows.rows _ _ hrow
  rw [h e (hgrows.events he) orderHash row' hhash hrow', hmaker, hnonce]

theorem State.Initial.consistent (h : s.Initial) : Consistent d places s where
  sound := h.deployed.sound
  delivered := by rw [h.delivered]; exact Nat.zero_le _
  own key row hrow := by rw [h.orders] at hrow; cases hrow
  executed key row hrow := by rw [h.orders] at hrow; cases hrow
  cancelled key row hrow := by rw [h.orders] at hrow; cases hrow
  applied i _ _ hi := by rw [h.delivered] at hi; exact absurd hi (Nat.not_lt_zero i)
  stored e he := by rw [h.events] at he; cases he
  inHand i entry hentry := by
    rw [h.idle] at hentry
    cases hentry

/-- A transaction that executes an order consumes its nonce, so it executes no order whose nonce
    is gone. -/
theorem Consistent.chain (h : Consistent d places s) {chain' : FluxSignedOrderSettlement.State ω}
    (hno : NoCollision d { s with chain := chain' })
    (hdisciplined : FluxSignedOrderSettlement.Disciplined d s.chain chain') :
    Consistent d places { s with chain := chain' } := by
  have hsound := h.sound.disciplined hdisciplined
  obtain ⟨new, hnew⟩ := hdisciplined
  have hsubset : s.chain.events ⊆ chain'.events := by
    rw [hnew.events]
    exact List.subset_append_left _ _
  refine
    { sound := hsound
      delivered := ?_
      own := h.own
      executed := fun key row hrow hst => (h.executed key row hrow hst).mono hsubset
      cancelled := ?_
      applied := ?_
      stored := h.stored
      inHand := h.inHand }
  · rw [hnew.events, List.length_append]
    exact Nat.le_add_right_of_le h.delivered
  · intro key row hrow hst
    obtain ⟨hconsumed, hnot⟩ := h.cancelled key row hrow hst
    refine ⟨hconsumed.mono hsubset, ?_⟩
    rintro ⟨e, he, hhash⟩
    obtain ⟨e₀, he₀, hconsumed₀⟩ := hconsumed
    have hkey := (h.own key row hrow).1
    have hconsumed' := hno e he _ row hhash (hkey ▸ hrow)
    obtain rfl := consumed_unique hsound he (hsubset he₀) hconsumed' hconsumed₀
    exact hnot ⟨e, he₀, hhash⟩
  · intro i event orderHash hi hevent hhash
    have hold : s.chain.events[i]? = some event := by
      rw [← hevent, hnew.events, List.getElem?_append_left (Nat.lt_of_lt_of_le hi h.delivered)]
    exact h.applied i event orderHash hi hold hhash

theorem create_some {db db' : Database} {key : OrderKey} {new : Order}
    (h : db.create key new = some db') :
    db'.events = db.events ∧
      ∀ k row, db'.orders k = some row → db.orders k = some row ∨ (k = key ∧ row = new) := by
  unfold Database.create at h
  split at h
  · cases h
  · cases h
    refine ⟨rfl, fun k row hrow => ?_⟩
    dsimp only at hrow
    rw [Function.update_apply] at hrow
    split at hrow
    · exact .inr ⟨‹_›, (Option.some.inj hrow).symm⟩
    · exact .inl hrow

/-- A new order is open. -/
theorem Consistent.createOrder (h : Consistent d places s) {signed : SignedOrder} {new : NewOrder}
    {db : Database}
    (hcreate : s.backend.db.create (keyOf d (hashOrder d signed)) new.row = some db) :
    Consistent d places { s with backend := { s.backend with db := db } } := by
  obtain ⟨hevents, hrows⟩ := create_some hcreate
  refine
    { sound := h.sound
      delivered := h.delivered
      own := ?_
      executed := ?_
      cancelled := ?_
      applied := ?_
      stored := hevents ▸ h.stored
      inHand := ?_ }
  · intro key row hrow
    rcases hrows key row hrow with hold | ⟨rfl, rfl⟩
    · exact h.own key row hold
    · exact ⟨rfl, Int.natCast_nonneg new.nonce⟩
  · intro key row hrow hst
    rcases hrows key row hrow with hold | ⟨-, rfl⟩
    · exact h.executed key row hold hst
    · cases hst
  · intro key row hrow hst
    rcases hrows key row hrow with hold | ⟨-, rfl⟩
    · exact h.cancelled key row hold hst
    · cases hst
  · intro i event orderHash hi hevent hhash
    obtain ⟨row, hrow, hst⟩ := h.applied i event orderHash hi hevent hhash
    exact ⟨row, Database.orders_create hcreate hrow, hst⟩
  · intro i entry hentry
    obtain ⟨row, hrow, hkeeps⟩ := h.inHand i entry hentry
    exact ⟨row, Database.orders_create hcreate hrow, hkeeps⟩

/-- A step that rewrites rows by the chain's word, applies what it delivers, and takes rows in
    hand from the tables. -/
theorem Consistent.follow (h : Consistent d places s) {backend : Backend.State} {delivered : Nat}
    (hrows : RowsFollow s.chain s.backend.db backend.db)
    (hlater : s.delivered ≤ delivered) (hdelivered : delivered ≤ s.chain.events.length)
    (happlied : ∀ i event orderHash, s.delivered ≤ i → i < delivered →
      s.chain.events[i]? = some event → event.executedHash = some orderHash →
        ∃ row, backend.db.orders (keyOf d orderHash) = some row ∧ row.status = Status.executed)
    (hstored : ∀ e ∈ backend.db.events, e ∈ s.backend.db.events ∨
      ∃ i < delivered, e.id = idOf d places i)
    (hhand : ∀ i entry, entry ∈ (backend.tasks i).entries →
      entry ∈ (s.backend.tasks i).entries ∨ backend.db.orders entry.1 = some entry.2) :
    Consistent d places { s with backend := backend, delivered := delivered } := by
  obtain ⟨f, horders, hfollows⟩ := hrows
  -- every row was there before, and every row that was there still is
  have hold : ∀ key row', backend.db.orders key = some row' →
      ∃ row, s.backend.db.orders key = some row ∧ Follows s.chain key row row' := by
    intro key row' hrow'
    rw [horders] at hrow'
    obtain ⟨row, hrow, rfl⟩ := Option.map_eq_some_iff.mp hrow'
    exact ⟨row, hrow, hfollows key row hrow⟩
  have hnew : ∀ key row, s.backend.db.orders key = some row →
      ∃ row', backend.db.orders key = some row' ∧ Follows s.chain key row row' := by
    intro key row hrow
    exact ⟨f key row, by rw [horders, hrow, Option.map_some], hfollows key row hrow⟩
  refine
    { sound := h.sound
      delivered := hdelivered
      own := ?_
      executed := ?_
      cancelled := ?_
      applied := ?_
      stored := ?_
      inHand := ?_ }
  · intro key row' hrow'
    obtain ⟨row, hrow, hfollow⟩ := hold key row' hrow'
    rw [hfollow.keepsNonce.2]
    exact h.own key row hrow
  · intro key row' hrow' hst
    obtain ⟨row, hrow, hfollow⟩ := hold key row' hrow'
    exact (hfollow.toExecuted hst).elim (h.executed key row hrow) id
  · intro key row' hrow' hst
    obtain ⟨row, hrow, hfollow⟩ := hold key row' hrow'
    rw [hfollow.keepsNonce.1, hfollow.keepsNonce.2]
    exact (hfollow.toCancelled hst).elim (h.cancelled key row hrow) id
  · intro i event orderHash hi hevent hhash
    -- an event of before has closed its order, and a closed order stays closed
    by_cases hbefore : i < s.delivered
    · obtain ⟨row, hrow, hst⟩ := h.applied i event orderHash hbefore hevent hhash
      obtain ⟨row', hrow', hfollow⟩ := hnew _ row hrow
      exact ⟨row', hrow', hfollow.executed hst⟩
    · exact happlied i event orderHash (Nat.le_of_not_lt hbefore) hi hevent hhash
  · intro e he
    rcases hstored e he with hbefore | hdelivered
    · obtain ⟨i, hi, hid⟩ := h.stored e hbefore
      exact ⟨i, Nat.lt_of_lt_of_le hi hlater, hid⟩
    · exact hdelivered
  · intro i entry hentry
    rcases hhand i entry hentry with hbefore | hrow
    · obtain ⟨row, hrow, hkeeps⟩ := h.inHand i entry hbefore
      obtain ⟨row', hrow', hfollow⟩ := hnew _ row hrow
      exact ⟨row', hrow', hkeeps.1.trans hfollow.keepsNonce.1.symm,
        hkeeps.2.trans hfollow.keepsNonce.2.symm⟩
    · exact ⟨entry.2, hrow, rfl, rfl⟩

theorem events_of_writesActive {db db' : Database} (h : db.WritesActive db') :
    db'.events = db.events := by
  cases h with
  | inl hsame => rw [hsame]
  | inr hupdate =>
    obtain ⟨key, u, -, rfl⟩ := hupdate
    exact Database.events_update db key u

/-- What an instance does to a row follows the chain. -/
theorem Consistent.worker_follows (h : Consistent d places s) {i : Nat} {act : Act} {db : Database}
    {task : Task} (htruthful : truthful s.chain (s.backend.tasks i) act = true)
    (hok : cancelsUnexecuted s (.worker i act) = true)
    (hstep : Task.Step cfg s.backend.db (s.backend.tasks i) act db task) :
    RowsFollow s.chain s.backend.db db := by
  obtain ⟨f, horders, hinformed⟩ := hstep.informs
  refine ⟨f, horders, fun key row hrow => ?_⟩
  have hrow' : db.orders key = some (f key row) := by rw [horders, hrow, Option.map_some]
  refine
    { keepsNonce := (hinformed key row).keepsNonce
      executed := fun hst => by rw [(hinformed key row).closed (.inl hst), hst]
      toExecuted := fun hst => ((hinformed key row).toExecuted hst).imp_right ?_
      toCancelled := fun hst => ?_ }
  -- a step marks an order executed only on a truthful answer of the contract
  · rintro ⟨answers, order, hanswers, hhead, htold⟩
    have hflag : s.chain.storage.orderExecuted key.orderHash = true := by
      simp only [truthful, hanswers, hhead, saysYes_eq_true.mpr htold, Bool.not_true,
        Bool.false_or, Bool.and_eq_true] at htruthful
      exact htruthful.1
    exact (orderExecuted_iff h.sound).mp hflag
  -- and cancelled only if the nonce is invalidated and the order not executed
  · by_cases hactive : row.status = Status.cancelled
    · exact .inl hactive
    · obtain ⟨answers, order, hanswers, hhead, htold, hasks⟩ :=
        step_cancels hstep hrow hrow' hst hactive
      obtain ⟨row₀, hrow₀, hmaker, hnonce⟩ :=
        h.inHand i (key, order) (List.mem_of_mem_head? hhead)
      obtain rfl := Option.some.inj (hrow.symm.trans hrow₀)
      have hnonneg := (h.own key row hrow).2
      have hyes : saysYes answers.isNonceInvalidated = true := by
        rcases htold with htold | hnegative
        · exact saysYes_eq_true.mpr htold
        · rw [hnonce] at hnegative
          exact absurd hnegative (Int.not_lt.mpr hnonneg)
      have hstatus : s.backend.db.statusOf key = some row.status := by
        rw [Database.statusOf, hrow, Option.map_some]
      simp only [truthful, hanswers, hhead, hyes, Bool.not_true, Bool.false_or, Bool.and_eq_true]
        at htruthful
      simp only [cancelsUnexecuted, hasks, hanswers, hyes, hstatus, decide_true, Bool.not_true,
        Bool.false_or, Bool.not_eq_true'] at hok
      refine .inr ⟨?_, fun hexecuted => ?_⟩
      · rw [← hmaker, ← hnonce]
        exact (invalidatedNonce_iff h.sound).mp htruthful.2
      · rw [(orderExecuted_iff h.sound).mpr hexecuted] at hok
        cases hok

theorem Consistent.worker (h : Consistent d places s) {i : Nat} {act : Act} {db : Database}
    {task : Task} (htruthful : truthful s.chain (s.backend.tasks i) act = true)
    (hok : cancelsUnexecuted s (.worker i act) = true)
    (hstep : Task.Step cfg s.backend.db (s.backend.tasks i) act db task) :
    Consistent d places { s with backend :=
      { db := db, tasks := Function.update s.backend.tasks i task } } := by
  refine h.follow (h.worker_follows htruthful hok hstep) (Nat.le_refl _) h.delivered ?_ ?_ ?_
  · intro j event orderHash hbefore hj
    exact absurd hj (Nat.not_lt.mpr hbefore)
  · intro e he
    refine .inl ?_
    rwa [events_of_writesActive hstep.writesActive] at he
  · intro j entry hentry
    dsimp only at hentry
    rw [Function.update_apply] at hentry
    split at hentry
    · subst j
      exact hstep.entries hentry
    · exact .inl hentry

theorem Consistent.cancelOrders (h : Consistent d places s) (key : OrderKey)
    (cancelTxHash : TxHash) :
    Consistent d places { s with backend :=
      { s.backend with db := s.backend.db.update key (registerCancel cancelTxHash) } } := by
  refine h.follow ?_ (Nat.le_refl _) h.delivered ?_ ?_ ?_
  · refine ⟨_, Database.orders_update_map _ _ _, fun k row _ => ?_⟩
    split
    · have hinformed : Informed False False row ((registerCancel cancelTxHash).apply row) :=
        registerCancel_informed cancelTxHash row
      exact
        { keepsNonce := hinformed.keepsNonce
          executed := fun hst => by rw [hinformed.closed (.inl hst), hst]
          toExecuted := fun hst => (hinformed.toExecuted hst).imp_right False.elim
          toCancelled := fun hst => (hinformed.toCancelled hst).imp_right False.elim }
    · exact .refl _ _ _
  · intro j event orderHash hbefore hj
    exact absurd hj (Nat.not_lt.mpr hbefore)
  · intro e he
    exact .inl (by rwa [Database.events_update] at he)
  · exact fun j entry hentry => .inl hentry

/-- An order that is not cancelled is executed by its event. -/
theorem applyExecuted_status (e : Backend.OrderEvent) {row : Order} (h : row.status ≠ cancelled) :
    (EventService.applyExecuted e row).status = executed := by
  unfold EventService.applyExecuted
  split
  · rfl
  · split
    · rfl
    · cases hst : row.status <;> simp_all [orderExecutedTransitionStatuses]

theorem applyExecuted_follows {chain : FluxSignedOrderSettlement.State ω} {key : OrderKey}
    (e : Backend.OrderEvent) {row : Order} (h : row.status ≠ cancelled)
    (hexecuted : Executed chain key.orderHash) :
    Follows chain key row (EventService.applyExecuted e row) where
  keepsNonce := applyExecuted_keepsNonce e row
  executed _ := applyExecuted_status e h
  toExecuted _ := .inr hexecuted
  toCancelled hst := by
    rw [applyExecuted_status e h] at hst
    cases hst

theorem invalidateOrder_follows {chain : FluxSignedOrderSettlement.State ω} {key : OrderKey}
    (e : Backend.OrderEvent) {row : Order}
    (h : Consumed chain row.maker row.nonce.toNat ∧ ¬Executed chain key.orderHash) :
    Follows chain key row (EventService.invalidateOrder e row) where
  keepsNonce := invalidateOrder_keepsNonce e row
  executed hst := by
    have hclosed := (Absorbs.invalidateOrder e row).closed (.inl hst)
    rw [hclosed, hst]
  toExecuted hst := by
    unfold EventService.invalidateOrder at hst
    split at hst
    · cases hst
    · split at hst
      · cases hst
      · exact .inl hst
  toCancelled _ := .inr h

/-- An applied log follows the chain: of an execution its order is not cancelled, and a nonce
    that an event of its own has invalidated executes nothing. -/
theorem Consistent.applied_follows (h : Consistent d places s) (hno : NoCollision d s) {i : Nat}
    {event : Event} {db : Database} (hevent : event ∈ s.chain.events)
    (happlied : Applied d places i s.backend.db event db) :
    RowsFollow s.chain s.backend.db db := by
  cases happlied with
  | unread => exact ⟨fun _ row => row, fun key => by simp, fun key row _ => .refl _ _ _⟩
  | repeated => exact ⟨fun _ row => row, fun key => by simp, fun key row _ => .refl _ _ _⟩
  | @orderExecuted orderHash _ _ _ _ _ e _ _ _ _ _ horders =>
    refine ⟨_, horders, fun key row hrow => ?_⟩
    split
    · rename_i hkey
      have hexecuted : Executed s.chain key.orderHash := ⟨_, hevent, by rw [hkey]; rfl⟩
      refine applyExecuted_follows e (fun hst => ?_) hexecuted
      exact (h.cancelled key row hrow hst).2 hexecuted
    · exact .refl _ _ _
  | @nonceInvalidated maker nonce e _ hid hmaker hnonce _ horders =>
    refine ⟨_, horders, fun key row hrow => ?_⟩
    split
    · rename_i hof
      obtain ⟨-, -, hsameMaker, hsameNonce⟩ := of_decide_eq_true hof
      have hconsumed : (Event.nonceInvalidated maker nonce).consumed =
          some (row.maker, row.nonce.toNat) := by
        rw [hsameMaker, hsameNonce, hmaker, hnonce, Int.toNat_natCast]
        rfl
      refine invalidateOrder_follows e ⟨⟨_, hevent, hconsumed⟩, ?_⟩
      rintro ⟨e', he', hhash⟩
      have hconsumed' := hno e' he' _ row hhash ((h.own key row hrow).1 ▸ hrow)
      obtain rfl := consumed_unique h.sound he' hevent hconsumed' hconsumed
      cases hhash
    · exact .refl _ _ _

theorem Applied.stored {i : Nat} {event : Event} {db db' : Database}
    (h : Applied d places i db event db') {e : Backend.OrderEvent} (he : e ∈ db'.events) :
    e ∈ db.events ∨ e.id = idOf d places i := by
  cases h with
  | unread => exact .inl he
  | repeated => exact .inl he
  | orderExecuted _ hid hevents =>
    rw [hevents] at he
    rcases List.mem_cons.mp he with rfl | hold
    · exact .inr hid
    · exact .inl hold
  | nonceInvalidated hid _ _ hevents =>
    rw [hevents] at he
    rcases List.mem_cons.mp he with rfl | hold
    · exact .inr hid
    · exact .inl hold

/-- An execution that is delivered for the first time is in the rows from then on. -/
theorem Consistent.applies (h : Consistent d places s) {i : Nat} {event : Event} {db : Database}
    {orderHash : Bytes32} (hfirst : i = s.delivered) (hevent : event ∈ s.chain.events)
    (hhash : event.executedHash = some orderHash)
    (happlied : Applied d places i s.backend.db event db) :
    ∃ row, db.orders (keyOf d orderHash) = some row ∧ row.status = Status.executed := by
  cases happlied with
  | unread hnone =>
    rw [hnone] at hhash
    cases hhash
  | repeated hstored hid =>
    obtain ⟨j, hj, hid'⟩ := h.stored _ hstored
    have hsame := hid.symm.trans hid'
    simp only [idOf, Prod.mk.injEq, true_and] at hsame
    exact absurd (places.distinct hsame.1 hsame.2) (by omega)
  | @orderExecuted orderHash' _ _ _ _ _ e row _ hrow _ _ horders =>
    cases hhash
    refine ⟨EventService.applyExecuted e row, ?_, applyExecuted_status e fun hst => ?_⟩
    · rw [horders, hrow, Option.map_some, if_pos rfl]
    · exact (h.cancelled _ row hrow hst).2 ⟨_, hevent, rfl⟩
  | nonceInvalidated => cases hhash

theorem Consistent.deliver (h : Consistent d places s) (hno : NoCollision d s) {i : Nat}
    {event : Event} {db : Database} (hi : i ≤ s.delivered)
    (hevent : s.chain.events[i]? = some event) (happlied : Applied d places i s.backend.db event db) :
    Consistent d places
      { s with backend := { s.backend with db := db }, delivered := max s.delivered (i + 1) } := by
  have hmem := List.mem_of_getElem? hevent
  refine h.follow (h.applied_follows hno hmem happlied) (Nat.le_max_left _ _) ?_ ?_ ?_ ?_
  · obtain ⟨hlt, -⟩ := List.getElem?_eq_some_iff.mp hevent
    exact Nat.max_le.mpr ⟨h.delivered, hlt⟩
  · intro j event' orderHash hj hlt hevent' hhash
    obtain rfl : j = i := by omega
    obtain rfl := Option.some.inj (hevent.symm.trans hevent')
    exact h.applies (Nat.le_antisymm hi hj) hmem hhash happlied
  · intro e he
    refine (happlied.stored he).imp_right fun hid => ⟨i, ?_, hid⟩
    exact Nat.lt_of_lt_of_le (Nat.lt_succ_self i) (Nat.le_max_right _ _)
  · exact fun j entry hentry => .inl hentry

/-- The step lemma. -/
theorem Consistent.step (h : Consistent d places s)
    (hown : FluxSignedOrderSettlement.OwnStorage d) (hno : NoCollision d s') {op : Op ω}
    (hok : cancelsUnexecuted s op = true) (hstep : Stepped d places cfg s op s') :
    Consistent d places s' := by
  have hno₀ := hno.of_grows (hstep.grows hown)
  cases hstep with
  | chain step => exact h.chain hno (step.disciplined hown s.chain)
  | createOrder hcreate => exact h.createOrder hcreate
  | worker htruthful hworker => exact h.worker htruthful hok hworker
  | cancelOrders key cancelTxHash => exact h.cancelOrders key cancelTxHash
  | deliver hi hevent happlied => exact h.deliver hno₀ hi hevent happlied

theorem Consistent.agrees (h : Consistent d places s) : Agrees s := by
  intro hall key row hrow
  refine ⟨⟨h.executed key row hrow, ?_⟩, h.cancelled key row hrow⟩
  rintro ⟨e, he, hhash⟩
  obtain ⟨i, hi, hevent⟩ := List.getElem_of_mem he
  obtain ⟨row', hrow', hst⟩ := h.applied i e key.orderHash (hall ▸ hi)
    (List.getElem?_eq_some_iff.mpr ⟨hi, hevent⟩) hhash
  rw [← (h.own key row hrow).1, hrow] at hrow'
  obtain rfl := Option.some.inj hrow'
  exact hst

/-- The run lemma: as long as no two orders share a hash. -/
theorem consistent_of_reachable (hown : FluxSignedOrderSettlement.OwnStorage d)
    (h : (system d places cfg).ReachableWith (fun s op => cancelsUnexecuted s op = true) s) :
    NoCollision d s → Consistent d places s := by
  refine h.invariant (I := fun s => NoCollision d s → Consistent d places s) ?_ ?_
  · exact fun s hinit _ => hinit.consistent
  · intro s op s' ih hok hcall hno
    have hstep := exec_stepped hcall
    exact (ih (hno.of_grows (hstep.grows hown))).step hown hno hok hstep

end Invariant

/-- In every run in which no instance takes the nonce of an executed order for a cancelled one,
    once every log has been applied: an order is executed exactly if its event was emitted, and
    cancelled only if something else consumed its nonce. -/
theorem outcome_agrees {d : Deployment ω} {places : Places} {cfg : Backend.Config} {s : State ω}
    (hown : FluxSignedOrderSettlement.OwnStorage d) (hno : NoCollision d s)
    (h : (system d places cfg).ReachableWith (fun s op => cancelsUnexecuted s op = true) s) :
    Agrees s :=
  (consistent_of_reachable hown h hno).agrees

/-! ## Two runs -/

namespace OutcomeExample

open FluxSignedOrderSettlement.Example (quiet reentrant reentrant_own alice bob order)

theorem quiet_own : FluxSignedOrderSettlement.OwnStorage quiet := by
  intro call s s' h
  cases h
  exact .done _

def places : Places where
  txHash _ := 7
  logIndex i := i
  blockNumber _ := 1
  distinct _ hindex := hindex

def fresh : State Unit where
  chain := FluxSignedOrderSettlement.Example.start
  backend := { db := { orders := fun _ => none, events := [] }, tasks := fun _ => .idle }
  delivered := 0

theorem fresh_initial : fresh.Initial where
  deployed := ⟨⟨1, rfl⟩, 1, rfl⟩
  orders _ := rfl
  events := rfl
  idle := rfl
  delivered := rfl

/-- Another order of Alice, with the nonce that the re-entrant receiver of ETH invalidates. -/
def other : SignedOrder where
  maker := alice
  inputToken := 30
  outputToken := Address.zero
  amountIn := 100
  minAmountOut := 150
  maxExecutorRewardBps := 0
  triggerPriceX18 := 1
  expiry := 1000
  nonce := 2
  recipient := 40

def stored (signed : SignedOrder) : NewOrder where
  maker := signed.maker
  inputToken := signed.inputToken
  outputToken := signed.outputToken
  recipient := signed.recipient
  amountIn := signed.amountIn
  minAmountOut := signed.minAmountOut
  maxExecutorRewardBps := signed.maxExecutorRewardBps
  triggerPriceX18 := signed.triggerPriceX18
  expiry := signed.expiry
  nonce := signed.nonce
  normalizedSignature := [2]
  lastBlockReason := .none
  estimatedGasUsed := 0
  gasPriceAtQuote := 0
  lastRequiredExecutorFee := 0

/-- The transaction of a cancellation has been reverted, since the nonce was gone. -/
def reverted (isOrderExecuted : Bool) : Answers where
  coolingDown := false
  currentBlockTimestamp := .ok 100
  isOrderExecuted := .ok isOrderExecuted
  isNonceInvalidated := .ok true
  canExecuteOrder := .ok ⟨false, "ORDER_ALREADY_EXECUTED"⟩
  checkMakerFunding := .ok ⟨"", 100, 1000, 1000, true, true⟩
  getOrderQuote := .ok 200
  suggestExecutorFee := .ok ⟨0, 1⟩
  receiptStatus := .ok (some ⟨false, 5, none⟩)
  transactionKnown := .ok true

/-- What has become of two orders once the logs have been applied. -/
structure Summary where
  applied : Nat
  emitted : Nat
  status  : Option Status
  status' : Option Status
  deriving DecidableEq

def summary (key key' : OrderKey) (s : State Unit) : Summary :=
  ⟨s.delivered, s.chain.events.length, s.backend.db.statusOf key, s.backend.db.statusOf key'⟩

end OutcomeExample

open OutcomeExample FluxSignedOrderSettlement.Example in
/-- One order is executed, and meanwhile the nonce of the other one is invalidated; one log is
    delivered twice. -/
theorem outcome_agrees_reentered : ∃ s,
    summary (keyOf reentrant (hashOrder reentrant order)) (keyOf reentrant (hashOrder reentrant other))
      s = ⟨3, 3, some executed, some cancelled⟩ ∧ Agrees s := by
  have hrun : (System.runWith (exec reentrant places Backend.Example.config)
      (fun s op => cancelsUnexecuted s op = true) fresh
      [.createOrder order (stored order), .createOrder other (stored other),
        .cancelOrders (keyOf reentrant (hashOrder reentrant other)) 77,
        .chain (.transaction bob (.executeOrder order [2] 1000 0)),
        .worker 0 (.reconcilePendingOnce [keyOf reentrant (hashOrder reentrant other)]),
        .worker 0 (.checkPendingReceipt (reverted false)),
        .deliver 0, .deliver 1, .deliver 1, .deliver 2]).map (fun s =>
          (summary (keyOf reentrant (hashOrder reentrant order))
            (keyOf reentrant (hashOrder reentrant other)) s, collisionFree reentrant s)) =
      some (⟨3, 3, some executed, some cancelled⟩, true) := by
    decide +kernel
  obtain ⟨s, hs, hsummary⟩ := Option.map_eq_some_iff.mp hrun
  obtain ⟨hsummary, hfree⟩ := Prod.mk.inj hsummary
  exact ⟨s, hsummary, outcome_agrees reentrant_own (collisionFree_iff.mp hfree)
    (System.reachableWith_of_runWith (.init fresh_initial) hs)⟩

open OutcomeExample FluxSignedOrderSettlement.Example in
/-- An order is executed while its cancellation is pending. The receipt loop finds the
    transaction of the cancellation reverted and the nonce invalidated, and the execution's event
    comes to a cancelled order. -/
theorem not_outcome_agrees_cancelled : ∃ s,
    FluxSignedOrderSettlement.OwnStorage quiet ∧
      (system quiet places Backend.Example.config).Reachable s ∧ NoCollision quiet s ∧
      s.delivered = s.chain.events.length ∧
      s.backend.db.statusOf (keyOf quiet (hashOrder quiet order)) = some cancelled ∧
      Executed s.chain (hashOrder quiet order) ∧ ¬Agrees s := by
  have hrun : (System.runWith (exec quiet places Backend.Example.config) (fun _ _ => True) fresh
      [.createOrder order (stored order),
        .cancelOrders (keyOf quiet (hashOrder quiet order)) 77,
        .chain (.transaction bob (.executeOrder order [2] 1000 0)),
        .worker 0 (.reconcilePendingOnce [keyOf quiet (hashOrder quiet order)]),
        .worker 0 (.checkPendingReceipt (reverted true)),
        .deliver 0, .deliver 1]).map (fun s =>
          ((s.delivered, s.chain.events.length),
            (s.backend.db.statusOf (keyOf quiet (hashOrder quiet order)),
              (collisionFree quiet s,
                s.chain.events.any fun e =>
                  decide (e.executedHash = some (hashOrder quiet order)))))) =
      some ((2, 2), (some cancelled, (true, true))) := by
    decide +kernel
  obtain ⟨s, hs, hsummary⟩ := Option.map_eq_some_iff.mp hrun
  obtain ⟨hcounts, hrest⟩ := Prod.mk.inj hsummary
  obtain ⟨happlied, hemitted⟩ := Prod.mk.inj hcounts
  obtain ⟨hstatus, hrest⟩ := Prod.mk.inj hrest
  obtain ⟨hfree, hany⟩ := Prod.mk.inj hrest
  have hall : s.delivered = s.chain.events.length := happlied.trans hemitted.symm
  have hexecuted : Executed s.chain (hashOrder quiet order) := by
    obtain ⟨e, he, hhash⟩ := List.any_eq_true.mp hany
    exact ⟨e, he, of_decide_eq_true hhash⟩
  refine ⟨s, quiet_own, System.reachableWith_of_runWith (.init fresh_initial) hs,
    collisionFree_iff.mp hfree, hall, hstatus, hexecuted, fun hagrees => ?_⟩
  obtain ⟨row, hrow, hcancelled⟩ := Option.map_eq_some_iff.mp hstatus
  have hst := (hagrees hall _ row hrow).1.mpr hexecuted
  rw [hcancelled] at hst
  cases hst

end Outcome
