-- SUMMARY: A receipt check decides about the transaction the order is waiting for, unless the order has come back to the same status with another transaction.
import FluxSwap.Backend.Workers

/-!
# Receipts and tracked transactions

A receipt check reads the hash of a transaction, asks the chain about it, and then writes
the order if it is still in the status in which it was read. No writer changes the hash of
an order that stays in its pending status, so the hash can only differ if the order has left
the status and come back in the meantime.
-/

namespace Backend

open Status

/-! ## Unfinished checks -/

/-- What an unfinished receipt check has read: the order, which of the two hashes it goes by,
    and this hash. -/
structure Watch where
  key             : OrderKey
  isPendingCancel : Bool
  txHash          : Option TxHash

/-- The watch of a row in the batch of the receipt loop. -/
def watchOf (entry : OrderKey × Order) : Option Watch :=
  if entry.2.status = submittingExecute then none
  else
    let isPendingCancel := decide (entry.2.status = pendingCancel)
    some ⟨entry.1, isPendingCancel, pendingTxHash isPendingCancel entry.2⟩

theorem mem_watches_of_rest {w : Watch} {rest : List (OrderKey × Order)}
    (h : w ∈ rest.filterMap watchOf) (entry : OrderKey × Order) :
    w ∈ (entry :: rest).filterMap watchOf := by
  obtain ⟨a, ha, hw⟩ := List.mem_filterMap.mp h
  exact List.mem_filterMap.mpr ⟨a, List.mem_cons_of_mem _ ha, hw⟩

/-- The receipt checks that an instance has not finished. -/
def Task.watches : Task → List Watch
  | .reconciling orders => orders.filterMap watchOf
  | .promoted _ rest => rest.filterMap watchOf
  | .tracking key order rest => ⟨key, false, order.submittedTxHash⟩ :: rest.filterMap watchOf
  | _ => []

/-- The order does not wait for another transaction in the status of the watch. -/
def Watch.Current (w : Watch) (db : Database) : Prop :=
  ∀ row, db.orders w.key = some row → row.status = currentPendingStatus w.isPendingCancel →
    pendingTxHash w.isPendingCancel row = w.txHash

/-- The step puts the order of a watch into the status of the watch with another hash. -/
def Watch.Reentered (w : Watch) (db db' : Database) : Prop :=
  ∃ row row', db.orders w.key = some row ∧ db'.orders w.key = some row' ∧
    row.status ≠ currentPendingStatus w.isPendingCancel ∧
    row'.status = currentPendingStatus w.isPendingCancel ∧
    pendingTxHash w.isPendingCancel row' ≠ w.txHash

namespace State

/-- The step is a receipt check that moves the order out of its pending status because of
    what the chain says about the transaction. -/
def MovesOut (s : State) (op : Op) (key : OrderKey) (isPendingCancel : Bool) (txHash : TxHash) :
    Prop :=
  ∃ i answers order rest u row,
    ((op = .worker i (.checkPendingReceipt answers) ∧
        s.tasks i = .reconciling ((key, order) :: rest) ∧ order.status ≠ submittingExecute ∧
        isPendingCancel = decide (order.status = pendingCancel)) ∨
      (op = .worker i (.trackReceipt answers) ∧ s.tasks i = .tracking key order rest ∧
        isPendingCancel = false)) ∧
    checkPendingReceipt isPendingCancel order answers = some u ∧
    pendingTxHash isPendingCancel order = some txHash ∧
    s.db.orders key = some row ∧ row.status = currentPendingStatus isPendingCancel ∧
    (u.apply row).status ≠ row.status

end State

/-- The step does not bring an order back to a pending status, with another hash than the one
    that an unfinished receipt check of the order has read in this status. -/
def NoReentry (cfg : Config) (s : State) (op : Op) : Prop :=
  ∀ s', exec cfg s op = .ok s' → ∀ i, ∀ w ∈ (s.tasks i).watches, ¬w.Reentered s.db s'.db

/-! ## Writers -/

/-- A writer that leaves the order in a pending status leaves its hash. -/
def KeepsTracked (order order' : Order) : Prop :=
  ∀ isPendingCancel, order.status = currentPendingStatus isPendingCancel →
    order'.status = currentPendingStatus isPendingCancel →
    pendingTxHash isPendingCancel order' = pendingTxHash isPendingCancel order

theorem KeepsTracked.refl (order : Order) : KeepsTracked order order := fun _ _ _ => rfl

theorem KeepsTracked.of_status {order order' : Order}
    (h : order'.status ≠ pendingExecute ∧ order'.status ≠ pendingCancel) :
    KeepsTracked order order' := by
  intro isPendingCancel _ hst
  cases isPendingCancel with
  | false => exact (h.1 hst).elim
  | true => exact (h.2 hst).elim

theorem KeepsTracked.of_hashes {order order' : Order}
    (hsubmitted : order'.submittedTxHash = order.submittedTxHash)
    (hcancelled : order'.cancelledTxHash = order.cancelledTxHash) : KeepsTracked order order' := by
  intro isPendingCancel _ _
  unfold pendingTxHash
  rw [hsubmitted, hcancelled]

theorem KeepsTracked.of_not_pending {order order' : Order}
    (h : order.status ≠ pendingExecute ∧ order.status ≠ pendingCancel) :
    KeepsTracked order order' := by
  intro isPendingCancel hst
  cases isPendingCancel with
  | false => exact (h.1 hst).elim
  | true => exact (h.2 hst).elim

/-- An update that does not touch orders in a pending status. -/
theorem Update.keepsTracked_of_statuses {u : Update} {st : Status} (h : u.statuses = [st])
    (hst : st ≠ pendingExecute ∧ st ≠ pendingCancel) (order : Order) :
    KeepsTracked order (u.apply order) := by
  unfold Update.apply
  rw [h]
  split
  · rename_i hguard
    apply KeepsTracked.of_not_pending
    rw [List.contains_iff_mem, List.mem_singleton] at hguard
    rw [hguard]
    exact hst
  · exact .refl order

theorem Decision.keepsTracked {isPendingCancel : Bool} {order : Order} {answers : Answers}
    {u : Update} (h : Decision order answers isPendingCancel u) (row : Order) :
    KeepsTracked row (u.apply row) := by
  unfold Update.apply
  split
  · cases h with
    | stillPending => exact .of_hashes rfl rfl
    | waitForIndexer => exact .of_hashes rfl rfl
    | _ => exact .of_status ⟨by rintro ⟨⟩, by rintro ⟨⟩⟩
  · exact .refl row

theorem restoreExecuted_keepsTracked (e : OrderEvent) (order row : Order) :
    KeepsTracked row (EventService.restoreExecuted e order row) :=
  .of_status ⟨by rintro ⟨⟩, by rintro ⟨⟩⟩

theorem invalidateOrder_keepsTracked (e : OrderEvent) (order : Order) :
    KeepsTracked order (EventService.invalidateOrder e order) := by
  unfold EventService.invalidateOrder
  split
  · exact .of_status ⟨by rintro ⟨⟩, by rintro ⟨⟩⟩
  · split
    · exact .of_status ⟨by rintro ⟨⟩, by rintro ⟨⟩⟩
    · exact .refl order

theorem clearExecutedStatus_keepsTracked (order : Order) :
    KeepsTracked order (EventService.clearExecutedStatus order order) := by
  unfold EventService.clearExecutedStatus
  split
  · exact .of_status ⟨by rintro ⟨⟩, by rintro ⟨⟩⟩
  · exact .of_hashes rfl rfl

theorem revertExecuted_keepsTracked (remaining remainingCancel : List OrderEvent)
    (order : Order) :
    KeepsTracked order (EventService.revertExecuted remaining remainingCancel order) := by
  unfold EventService.revertExecuted
  split
  · exact restoreExecuted_keepsTracked _ _ _
  · split
    · exact .of_status ⟨by rintro ⟨⟩, by rintro ⟨⟩⟩
    · split
      · rename_i h
        apply KeepsTracked.of_not_pending
        rw [h.1]
        exact ⟨by rintro ⟨⟩, by rintro ⟨⟩⟩
      · split
        · exact .of_status ⟨by rintro ⟨⟩, by rintro ⟨⟩⟩
        · exact clearExecutedStatus_keepsTracked order

theorem revertInvalidated_keepsTracked (remaining executedRows : List OrderEvent)
    (order : Order) :
    KeepsTracked order (EventService.revertInvalidated remaining executedRows order) := by
  have hcancelled : ∀ order', order.status = cancelled → KeepsTracked order order' := by
    intro order' hst
    apply KeepsTracked.of_not_pending
    rw [hst]
    exact ⟨by rintro ⟨⟩, by rintro ⟨⟩⟩
  unfold EventService.revertInvalidated
  split
  · unfold EventService.revertLastInvalidated
    split
    · exact restoreExecuted_keepsTracked _ _ _
    · split
      · split
        · exact hcancelled _ ‹_›
        · exact .refl order
      · split
        · rename_i h
          exact hcancelled _ h.1
        · exact .refl order
  · split
    · exact .refl order
    · split
      · exact .of_status ⟨by rintro ⟨⟩, by rintro ⟨⟩⟩
      · exact .refl order

/-! ## Steps -/

/-- No row is new, and every row that stays in a pending status keeps its hash. -/
def Tracks (db db' : Database) : Prop :=
  ∀ key row', db'.orders key = some row' →
    ∃ row, db.orders key = some row ∧ KeepsTracked row row'

namespace Tracks

theorem refl (db : Database) : Tracks db db := fun _ row h => ⟨row, h, .refl row⟩

theorem of_map {db db' : Database} {f : OrderKey → Order → Order}
    (h : ∀ key, db'.orders key = (db.orders key).map (f key))
    (hf : ∀ key row, KeepsTracked row (f key row)) : Tracks db db' := by
  intro key row' hrow'
  rw [h] at hrow'
  obtain ⟨row, hrow, rfl⟩ := Option.map_eq_some_iff.mp hrow'
  exact ⟨row, hrow, hf key row⟩

theorem update {db : Database} {u : Update} (h : ∀ row, KeepsTracked row (u.apply row))
    (key : OrderKey) : Tracks db (db.update key u) := by
  apply of_map (db.orders_update_map key u)
  intro k row
  split
  · exact h row
  · exact .refl row

end Tracks

namespace Task.Step

variable {cfg : Config} {db db' : Database} {task task' : Task} {act : Act}

theorem tracks (h : Task.Step cfg db task act db' task') : Tracks db db' := by
  have hopened : opened ≠ pendingExecute ∧ opened ≠ pendingCancel := by decide
  have hsubmitting : submittingExecute ≠ pendingExecute ∧ submittingExecute ≠ pendingCancel := by
    decide
  cases h with
  | pass hbegin =>
    rcases beginEvaluation_none hbegin with rfl | ⟨error, rfl⟩
    · exact .refl _
    · exact .update (Update.keepsTracked_of_statuses rfl hopened) _
  | claim hbegin =>
    obtain ⟨-, rfl, -⟩ := beginEvaluation_some hbegin
    exact .update (Update.keepsTracked_of_statuses rfl hopened) _
  | close hclaimed =>
    have hst := (evaluateClaimed_ends _ _ _ _ _ hclaimed).statuses
    exact .update (Update.keepsTracked_of_statuses hst hsubmitting) _
  | record =>
    exact .update (Update.keepsTracked_of_statuses (submissionResult_statuses _ _) hsubmitting) _
  | check hbegin =>
    unfold beginCheck at hbegin
    split at hbegin
    · split at hbegin <;> cases hbegin <;>
        exact .update (Update.keepsTracked_of_statuses rfl hsubmitting) _
    · split at hbegin <;> cases hbegin
      · exact .update (checkPendingReceipt_decides ‹_›).keepsTracked _
      · exact .refl _
  | track =>
    unfold finishCheck
    split
    · exact .update (checkPendingReceipt_decides ‹_›).keepsTracked _
    · exact .refl _
  | _ => exact .refl _

/-- A watch after a step was there before, or it has just been read. -/
theorem watches (h : Task.Step cfg db task act db' task') {w : Watch} (hw : w ∈ task'.watches) :
    w ∈ task.watches ∨ w.Current db' := by
  cases h with
  -- a row that is loaded is watched with the transaction it shows now
  | reconcilePendingOnce keys =>
    refine .inr ?_
    obtain ⟨⟨key, order⟩, hmem, hwatch⟩ := List.mem_filterMap.mp hw
    have hrow := (Database.mem_load hmem).1
    unfold watchOf at hwatch
    split at hwatch
    · cases hwatch
    · cases hwatch
      intro row hrow' _
      rw [hrow] at hrow'
      cases hrow'
      rfl
  | refresh hrow =>
    rcases List.mem_cons.mp hw with rfl | hw
    · refine .inr fun row hrow' _ => ?_
      rw [hrow] at hrow'
      cases hrow'
      rfl
    · exact .inl hw
  | @check key order rest answers _ _ hbegin =>
    have hrest : w ∈ rest.filterMap watchOf := by
      unfold beginCheck at hbegin
      split at hbegin <;> split at hbegin <;> cases hbegin <;> exact hw
    exact .inl (mem_watches_of_rest hrest _)
  | lost => exact .inl hw
  | track => exact .inl (List.mem_cons_of_mem _ hw)
  | @skip task task' hrest =>
    refine .inl ?_
    cases task with
    | scanning orders => cases orders <;> cases hrest <;> cases hw
    | reconciling orders =>
      cases orders with
      | nil => cases hrest
      | cons head tail =>
        cases hrest
        exact mem_watches_of_rest hw _
    | promoted key rest =>
      cases hrest
      exact hw
    | tracking key order rest =>
      cases hrest
      exact List.mem_cons_of_mem _ hw
    | _ => cases hrest <;> cases hw
  | _ => cases hw

end Task.Step

namespace EventService

theorem apply_tracks {e : OrderEvent} {db db' : Database} (h : apply e db = .ok db') :
    Tracks db db' := by
  obtain ⟨-, -, -, -, horders⟩ := apply_ok h
  refine .of_map horders fun key row => ?_
  split
  · unfold applyExecuted
    split
    · exact .of_status ⟨by rintro ⟨⟩, by rintro ⟨⟩⟩
    · split
      · exact restoreExecuted_keepsTracked _ _ _
      · exact .refl row
  · exact .refl row

theorem applyNonceInvalidated_tracks {e : OrderEvent} {db db' : Database}
    (h : applyNonceInvalidated e db = .ok db') : Tracks db db' := by
  obtain ⟨-, -, horders⟩ := applyNonceInvalidated_ok h
  refine .of_map horders fun key row => ?_
  split
  · exact invalidateOrder_keepsTracked e row
  · exact .refl row

theorem revert_tracks (e : OrderEvent) (db : Database) : Tracks db (revert e db) := by
  by_cases hstored : ∃ row ∈ db.events, row.id = e.id
  · refine .of_map (revert_of_stored hstored).2 fun key row => ?_
    unfold revertOrder
    split
    · split
      · exact revertExecuted_keepsTracked _ _ _
      · exact .refl row
    · split
      · exact revertInvalidated_keepsTracked _ _ _
      · exact .refl row
  · rw [revert_of_not_stored fun row hrow hid => hstored ⟨row, hrow, hid⟩]
    exact .refl db

theorem exec_tracks {call : Call} {db db' : Database} (h : exec db call = .ok db') :
    Tracks db db' := by
  cases call with
  | apply e => exact apply_tracks h
  | applyNonceInvalidated e => exact applyNonceInvalidated_tracks h
  | revert e =>
    cases h
    exact revert_tracks e db

end EventService

/-- Every step of the backend keeps the hash of an order that stays in a pending status. -/
theorem exec_tracks {cfg : Config} {s s' : State} {op : Op} (h : exec cfg s op = .ok s') :
    Tracks s.db s'.db := by
  cases op with
  | worker i act =>
    obtain ⟨db, task, hnext, rfl⟩ := exec_worker h
    exact hnext.tracks
  | cancelOrders key cancelTxHash =>
    obtain ⟨-, rfl⟩ := exec_cancelOrders h
    have hopened : opened ≠ pendingExecute ∧ opened ≠ pendingCancel := by decide
    exact .update (Update.keepsTracked_of_statuses rfl hopened) key
  | event call =>
    obtain ⟨db, hdb, rfl⟩ := exec_event h
    exact EventService.exec_tracks hdb

/-- An unfinished check after a step was there before, or it has just read the row. -/
theorem exec_watches {cfg : Config} {s s' : State} {op : Op} (h : exec cfg s op = .ok s')
    {i : Nat} {w : Watch} (hw : w ∈ (s'.tasks i).watches) :
    w ∈ (s.tasks i).watches ∨ w.Current s'.db := by
  cases op with
  | worker j act =>
    obtain ⟨db, task, hnext, rfl⟩ := exec_worker h
    by_cases hi : i = j
    · subst i
      simp only [Function.update_self] at hw
      exact hnext.watches hw
    · simp only [Function.update_of_ne hi] at hw
      exact .inl hw
  | cancelOrders key cancelTxHash =>
    obtain ⟨-, rfl⟩ := exec_cancelOrders h
    exact .inl hw
  | event call =>
    obtain ⟨db, -, rfl⟩ := exec_event h
    exact .inl hw

/-! ## Runs -/

/-- Runs of instances, requests and the event service. -/
def writers (cfg : Config) : System State Op := System.ofCalls State.Initial (exec cfg)

theorem Watch.Current.step {w : Watch} {db db' : Database} (h : w.Current db)
    (htracks : Tracks db db') (hreentry : ¬w.Reentered db db') : w.Current db' := by
  intro row' hrow' hst'
  obtain ⟨row, hrow, hkeeps⟩ := htracks w.key row' hrow'
  by_cases hst : row.status = currentPendingStatus w.isPendingCancel
  · rw [hkeeps _ hst hst', h row hrow hst]
  · by_contra hother
    exact hreentry ⟨row, row', hrow, hrow', hst, hst', hother⟩

/-- As long as no order comes back to a pending status with another transaction, what an
    unfinished check has read is current. -/
theorem watches_current {cfg : Config} {s : State}
    (h : (writers cfg).ReachableWith (NoReentry cfg) s) :
    ∀ i, ∀ w ∈ (s.tasks i).watches, w.Current s.db := by
  refine System.ReachableWith.invariant
    (I := fun s => ∀ i, ∀ w ∈ (s.tasks i).watches, w.Current s.db) ?_ ?_ h
  · intro s hs i w hw
    rw [hs] at hw
    cases hw
  · intro s op s' ih hok hstep i w hw
    rcases exec_watches hstep hw with hold | hnew
    · exact (ih i w hold).step (exec_tracks hstep) (hok s' hstep i w hold)
    · exact hnew

/-- Receipt decisions are about the tracked transaction: when a check moves an order out of
    its pending status because of a transaction, the order waits for this transaction. -/
theorem movesOut_tracked {cfg : Config} {s : State}
    (h : (writers cfg).ReachableWith (NoReentry cfg) s) {op : Op} {key : OrderKey}
    {isPendingCancel : Bool} {txHash : TxHash}
    (hmoves : s.MovesOut op key isPendingCancel txHash) :
    ∃ row, s.db.orders key = some row ∧ pendingTxHash isPendingCancel row = some txHash := by
  obtain ⟨i, answers, order, rest, u, row, hcheck, -, hhash, hrow, hst, -⟩ := hmoves
  have hcurrent := watches_current h i
  refine ⟨row, hrow, ?_⟩
  rcases hcheck with ⟨-, htask, hsub, rfl⟩ | ⟨-, htask, rfl⟩
  · have hwatch : watchOf (key, order) = some ⟨key, decide (order.status = pendingCancel),
        pendingTxHash (decide (order.status = pendingCancel)) order⟩ := by
      rw [watchOf, if_neg hsub]
    rw [← hhash]
    refine hcurrent ⟨key, _, pendingTxHash (decide (order.status = pendingCancel)) order⟩ ?_ row
      hrow hst
    rw [htask]
    exact List.mem_filterMap.mpr ⟨(key, order), List.mem_cons_self, hwatch⟩
  · rw [← hhash]
    refine hcurrent ⟨key, false, order.submittedTxHash⟩ ?_ row hrow hst
    rw [htask]
    exact List.mem_cons_self

/-! ## Concrete runs -/

namespace Example

/-- An instance sends transaction 50 for the order and loads it for a receipt check. -/
def submitAndLoad : List Op :=
  [.worker 0 (.scanOnce [orderKey]), .worker 0 (.evaluateOrder willing),
    .worker 0 (.executeOrder willing (.ok 50)), .worker 0 .recordSubmission, .worker 0 .stop,
    .worker 0 (.reconcilePendingOnce [orderKey])]

/-- Another instance finds that transaction 50 is missing, reopens the order and sends
    transaction 51 for it. -/
def resubmit : List Op :=
  submitAndLoad ++ [.worker 1 (.reconcilePendingOnce [orderKey]),
    .worker 1 (.checkPendingReceipt willing), .worker 1 .stop, .worker 1 (.scanOnce [orderKey]),
    .worker 1 (.evaluateOrder willing), .worker 1 (.executeOrder willing (.ok 51)),
    .worker 1 .recordSubmission]

/-- Whether instance 0 is about to check the order, which waited for transaction 50. -/
def checksFifty : Task → Bool
  | .reconciling ((key, order) :: _) =>
    decide (key = orderKey ∧ order.status = pendingExecute ∧ order.submittedTxHash = some 50)
  | _ => false

theorem movesOut_of_checksFifty {s : State} (htask : checksFifty (s.tasks 0) = true)
    (hst : s.db.statusOf orderKey = some pendingExecute) :
    s.MovesOut (.worker 0 (.checkPendingReceipt willing)) orderKey false 50 := by
  unfold checksFifty at htask
  split at htask
  · rename_i key order rest heq
    obtain ⟨rfl, hpending, hhash⟩ := of_decide_eq_true htask
    obtain ⟨row, hrow, hrowst⟩ := Option.map_eq_some_iff.mp hst
    refine ⟨0, willing, order, rest,
      reopenExecute "submitted_tx_missing_from_chain_retryable" (·.lastCheckedBlock), row,
      .inl ⟨rfl, heq, ?_, ?_⟩, ?_, hhash, hrow, hrowst, ?_⟩
    · rw [hpending]
      rintro ⟨⟩
    · rw [hpending]
      rfl
    · unfold checkPendingReceipt
      rw [show pendingTxHash false order = some 50 from hhash]
      rfl
    · rw [Update.apply, if_pos (by rw [hrowst]; rfl), hrowst]
      rintro ⟨⟩
  · cases htask

/-- A run of instance 0 alone that takes no step while a check is unfinished. -/
theorem noReentry_of_alone {s : State}
    (h : (writers config).ReachableWith (fun s op =>
      (s.tasks 0).watches.isEmpty = true ∧ ∃ act, op = .worker 0 act) s) :
    (writers config).ReachableWith (NoReentry config) s ∧ ∀ i, i ≠ 0 → s.tasks i = .idle := by
  induction h with
  | init hs =>
    refine ⟨.init hs, fun i _ => ?_⟩
    rw [hs]
  | @step s s' op _ hok hstep ih =>
    obtain ⟨hempty, act, rfl⟩ := hok
    obtain ⟨hreach, hidle⟩ := ih
    constructor
    · refine .step hreach ?_ hstep
      intro s' _ i w hw
      by_cases hi : i = 0
      · subst hi
        rw [List.isEmpty_iff.mp hempty] at hw
        cases hw
      · rw [hidle i hi] at hw
        cases hw
    · intro i hi
      obtain ⟨db, task, -, rfl⟩ := exec_worker hstep
      rw [← hidle i hi]
      exact Function.update_of_ne hi _ _

def byZero : Op → Bool
  | .worker 0 _ => true
  | _ => false

end Example

open Example in
theorem movesOut_tracked_submitAndLoad :
    ∃ s, (writers config).ReachableWith (NoReentry config) s ∧
      s.MovesOut (.worker 0 (.checkPendingReceipt willing)) orderKey false 50 ∧
      ∃ row, s.db.orders orderKey = some row ∧ pendingTxHash false row = some 50 := by
  have hrun : (System.runWith (exec config) (fun s op =>
      (s.tasks 0).watches.isEmpty = true ∧ byZero op = true) start submitAndLoad).map (fun s =>
        (checksFifty (s.tasks 0), s.db.statusOf orderKey)) =
        some (true, some pendingExecute) := by
    decide +kernel
  obtain ⟨s, hs, hsummary⟩ := Option.map_eq_some_iff.mp hrun
  obtain ⟨htask, hst⟩ := Prod.mk.inj hsummary
  have hmoves := movesOut_of_checksFifty htask hst
  have halone : (writers config).ReachableWith (fun s op =>
      (s.tasks 0).watches.isEmpty = true ∧ ∃ act, op = .worker 0 act) s := by
    refine System.ReachableWith.mono ?_ (System.reachableWith_of_runWith (.init start_initial) hs)
    intro s op ⟨hempty, hop⟩
    unfold byZero at hop
    split at hop
    · exact ⟨hempty, _, rfl⟩
    · cases hop
  have hreach := (noReentry_of_alone halone).1
  exact ⟨s, hreach, hmoves, movesOut_tracked hreach hmoves⟩

open Example in
/-- A check that has read transaction 50 reopens the order when it waits for transaction 51. -/
theorem movesOut_of_earlier_transaction :
    ∃ s, (writers config).Reachable s ∧
      s.MovesOut (.worker 0 (.checkPendingReceipt willing)) orderKey false 50 ∧
      ∃ row, s.db.orders orderKey = some row ∧ pendingTxHash false row = some 51 := by
  have hrun : (System.runWith (exec config) (fun _ _ => True) start resubmit).map (fun s =>
      (checksFifty (s.tasks 0), (s.db.orders orderKey).map fun row =>
        (row.status, row.submittedTxHash))) = some (true, some (pendingExecute, some 51)) := by
    decide +kernel
  obtain ⟨s, hs, hsummary⟩ := Option.map_eq_some_iff.mp hrun
  obtain ⟨htask, hrow⟩ := Prod.mk.inj hsummary
  obtain ⟨row, horders, heq⟩ := Option.map_eq_some_iff.mp hrow
  obtain ⟨hst, hhash⟩ := Prod.mk.inj heq
  have hpending : s.db.statusOf orderKey = some pendingExecute := by
    rw [Database.statusOf, horders, Option.map_some, hst]
  exact ⟨s, System.reachableWith_of_runWith (.init start_initial) hs,
    movesOut_of_checksFifty htask hpending, row, horders, hhash⟩

end Backend
