-- SUMMARY: A worker closes an order only on the word of the chain, and never touches a closed one; maker and nonce of an order never change.
import FluxSwap.Backend.Workers

/-!
# Closing orders

A worker marks an order `executed` or `cancelled` only when the chain client has answered
that it was executed, or that its nonce was invalidated. All its updates are guarded by
statuses of active orders, so it leaves a closed order as it is.
-/

namespace Backend

open Status

/-- What a writer may do to a row that goes by the word of the chain. -/
structure Informed (toldExecuted toldInvalidated : Prop) (order order' : Order) : Prop where
  keepsNonce : KeepsNonce order order'
  closed : order.status = .executed ∨ order.status = .cancelled → order' = order
  toExecuted : order'.status = .executed → order.status = .executed ∨ toldExecuted
  toCancelled : order'.status = .cancelled → order.status = .cancelled ∨ toldInvalidated

namespace Informed

variable {toldExecuted toldInvalidated : Prop}

theorem refl (order : Order) : Informed toldExecuted toldInvalidated order order where
  keepsNonce := ⟨rfl, rfl⟩
  closed _ := rfl
  toExecuted h := .inl h
  toCancelled h := .inl h

theorem weaken {toldExecuted' toldInvalidated' : Prop} {order order' : Order}
    (h : Informed toldExecuted toldInvalidated order order')
    (hexecuted : toldExecuted → toldExecuted')
    (hinvalidated : toldInvalidated → toldInvalidated') :
    Informed toldExecuted' toldInvalidated' order order' where
  keepsNonce := h.keepsNonce
  closed := h.closed
  toExecuted hst := (h.toExecuted hst).imp_right hexecuted
  toCancelled hst := (h.toCancelled hst).imp_right hinvalidated

/-- An update of active orders that closes an order only on the word of the chain. -/
theorem of_active {u : Update} (hguard : ∀ st ∈ u.statuses, st ≠ executed ∧ st ≠ cancelled)
    (hset : ∀ o, KeepsNonce o (u.set o))
    (hexecuted : ∀ o, (u.set o).status = executed → o.status = executed ∨ toldExecuted)
    (hcancelled : ∀ o, (u.set o).status = cancelled → o.status = cancelled ∨ toldInvalidated)
    (order : Order) : Informed toldExecuted toldInvalidated order (u.apply order) := by
  unfold Update.apply
  split
  · rename_i hmem
    have hactive := hguard _ (List.contains_iff_mem.mp hmem)
    exact
      { keepsNonce := hset order
        closed := fun hclosed => (hclosed.elim hactive.1 hactive.2).elim
        toExecuted := hexecuted order
        toCancelled := hcancelled order }
  · exact .refl order

end Informed

/-! ## Updates -/

theorem Ending.keepsNonce {answers : Answers} {u : Update} (h : Ending answers u) (o : Order) :
    KeepsNonce o (u.set o) := by
  induction h generalizing o with
  | quoted quote _ ih => exact ih _
  | _ => exact ⟨rfl, rfl⟩

theorem Ending.toldExecuted {answers : Answers} {u : Update} (h : Ending answers u) (o : Order)
    (hst : (u.set o).status = executed) : answers.isOrderExecuted = .ok true := by
  induction h generalizing o with
  | quoted quote _ ih => exact ih _ hst
  | closeExecuted htold => exact htold
  | _ => cases hst

theorem Ending.toldInvalidated {answers : Answers} {u : Update} (h : Ending answers u) (o : Order)
    (hst : (u.set o).status = cancelled) : answers.isNonceInvalidated = .ok true := by
  induction h generalizing o with
  | quoted quote _ ih => exact ih _ hst
  | closeCancelled htold => exact htold
  | _ => cases hst

theorem Ending.informed {answers : Answers} {u : Update} (h : Ending answers u) (order : Order) :
    Informed (answers.isOrderExecuted = .ok true) (answers.isNonceInvalidated = .ok true) order
      (u.apply order) := by
  refine .of_active ?_ h.keepsNonce (fun o hst => .inr (h.toldExecuted o hst))
    (fun o hst => .inr (h.toldInvalidated o hst)) order
  rw [h.statuses]
  simp

theorem Decision.informed {isPendingCancel : Bool} {order : Order} {answers : Answers}
    {u : Update} (h : Decision order answers isPendingCancel u) (row : Order) :
    Informed (answers.isOrderExecuted = .ok true)
      (answers.isNonceInvalidated = .ok true ∨ order.nonce < 0) row (u.apply row) := by
  refine .of_active ?_ ?_ ?_ ?_ row
  · rw [h.statuses]
    cases isPendingCancel <;> simp [currentPendingStatus]
  · intro o
    cases h <;> exact ⟨rfl, rfl⟩
  · intro o hst
    cases h with
    | stillPending => exact .inl hst
    | waitForIndexer => cases isPendingCancel <;> cases hst
    | confirmExecute _ _ htold => exact .inr htold
    | _ => cases hst
  · intro o hst
    cases h with
    | stillPending => exact .inl hst
    | waitForIndexer => cases isPendingCancel <;> cases hst
    | confirmCancel _ htold => exact .inr (.inl htold)
    | confirmInvalidNonce _ _ hnonce => exact .inr (.inr hnonce)
    | _ => cases hst

section Updates

variable {toldExecuted toldInvalidated : Prop}

theorem submissionResult_informed (quote : FeeQuote) (result : Except String TxHash)
    (order : Order) :
    Informed toldExecuted toldInvalidated order ((submissionResult quote result).apply order) := by
  refine .of_active ?_ ?_ ?_ ?_ order
  · rw [submissionResult_statuses]
    simp
  · intro o
    cases result <;> exact ⟨rfl, rfl⟩
  · intro o hst
    cases result <;> cases hst
  · intro o hst
    cases result <;> cases hst

/-- An update of active orders that writes one active status. -/
theorem informed_of_status {u : Update} (st : Status) (hst : ∀ o, (u.set o).status = st)
    (hactive : st ≠ executed ∧ st ≠ cancelled)
    (hguard : ∀ st ∈ u.statuses, st ≠ executed ∧ st ≠ cancelled)
    (hset : ∀ o, KeepsNonce o (u.set o)) (order : Order) :
    Informed toldExecuted toldInvalidated order (u.apply order) := by
  refine .of_active hguard hset ?_ ?_ order
  · intro o hclosed
    rw [hst] at hclosed
    exact (hactive.1 hclosed).elim
  · intro o hclosed
    rw [hst] at hclosed
    exact (hactive.2 hclosed).elim

theorem claim_informed (order : Order) :
    Informed toldExecuted toldInvalidated order (Database.claim.apply order) :=
  informed_of_status submittingExecute (fun _ => rfl) (by decide) (by decide) (fun _ => ⟨rfl, rfl⟩)
    order

theorem payloadInvalid_informed (error : String) (order : Order) :
    Informed toldExecuted toldInvalidated order ((payloadInvalid error).apply order) :=
  informed_of_status opened (fun _ => rfl) (by decide) (by simp [payloadInvalid])
    (fun _ => ⟨rfl, rfl⟩) order

theorem submissionFound_informed (order : Order) :
    Informed toldExecuted toldInvalidated order (submissionFound.apply order) :=
  informed_of_status pendingExecute (fun _ => rfl) (by decide) (by decide) (fun _ => ⟨rfl, rfl⟩)
    order

theorem submissionInterrupted_informed (order : Order) :
    Informed toldExecuted toldInvalidated order (submissionInterrupted.apply order) :=
  informed_of_status opened (fun _ => rfl) (by decide) (by decide) (fun _ => ⟨rfl, rfl⟩) order

theorem registerCancel_informed (cancelTxHash : TxHash) (order : Order) :
    Informed toldExecuted toldInvalidated order ((registerCancel cancelTxHash).apply order) :=
  informed_of_status pendingCancel (fun _ => rfl) (by decide) (by simp [registerCancel])
    (fun _ => ⟨rfl, rfl⟩) order

end Updates

/-! ## Steps of an instance -/

/-- The rows that an instance has in hand. -/
def Task.entries : Task → List (OrderKey × Order)
  | .idle => []
  | .scanning orders | .reconciling orders => orders
  | .claimed key _ order rest | .tracking key order rest => (key, order) :: rest
  | .submitted _ _ _ rest | .promoted _ rest => rest

/-- In this step the chain answers for the order that it has been executed. -/
def Task.ToldExecuted (key : OrderKey) (task : Task) (act : Act) : Prop :=
  ∃ answers order, act.answers = some answers ∧ task.entries.head? = some (key, order) ∧
    answers.isOrderExecuted = .ok true

/-- In this step the chain answers for the order that its nonce has been invalidated, or the
    nonce in hand is none. -/
def Task.ToldInvalidated (key : OrderKey) (task : Task) (act : Act) : Prop :=
  ∃ answers order, act.answers = some answers ∧ task.entries.head? = some (key, order) ∧
    (answers.isNonceInvalidated = .ok true ∨ order.nonce < 0)

/-- Every row is one from before, rewritten on the word of the chain. -/
def Database.Informs (db db' : Database) (toldExecuted toldInvalidated : OrderKey → Prop) : Prop :=
  ∃ f : OrderKey → Order → Order, (∀ key, db'.orders key = (db.orders key).map (f key)) ∧
    ∀ key order, Informed (toldExecuted key) (toldInvalidated key) order (f key order)

namespace Database.Informs

variable {toldExecuted toldInvalidated : OrderKey → Prop}

theorem refl (db : Database) : db.Informs db toldExecuted toldInvalidated :=
  ⟨fun _ order => order, fun key => by simp, fun _ order => .refl order⟩

theorem update {db : Database} {key : OrderKey} {u : Update}
    (h : ∀ order, Informed (toldExecuted key) (toldInvalidated key) order (u.apply order)) :
    db.Informs (db.update key u) toldExecuted toldInvalidated := by
  refine ⟨_, db.orders_update_map key u, fun k order => ?_⟩
  split
  · subst k
    exact h order
  · exact .refl order

end Database.Informs

namespace Task.Step

variable {cfg : Config} {db db' : Database} {task task' : Task} {act : Act}

theorem informs (h : Task.Step cfg db task act db' task') :
    db.Informs db' (task.ToldExecuted · act) (task.ToldInvalidated · act) := by
  cases h with
  | pass hbegin =>
    rcases beginEvaluation_none hbegin with rfl | ⟨error, rfl⟩
    · exact .refl _
    · exact .update (payloadInvalid_informed error)
  | claim hbegin =>
    obtain ⟨-, rfl, -⟩ := beginEvaluation_some hbegin
    exact .update claim_informed
  | @close key payload order rest answers result u hclaimed =>
    refine .update fun row => ?_
    have hinformed := (evaluateClaimed_ends _ _ _ _ _ hclaimed).informed row
    exact hinformed.weaken (fun htold => ⟨answers, order, rfl, rfl, htold⟩)
      (fun htold => ⟨answers, order, rfl, rfl, .inl htold⟩)
  | record => exact .update (submissionResult_informed _ _)
  | @check key order rest answers _ _ hbegin =>
    unfold beginCheck at hbegin
    split at hbegin
    · split at hbegin <;> cases hbegin
      · exact .update submissionFound_informed
      · exact .update submissionInterrupted_informed
    · split at hbegin <;> cases hbegin
      · refine .update fun row => ?_
        have hinformed := (checkPendingReceipt_decides ‹_›).informed row
        exact hinformed.weaken (fun htold => ⟨answers, order, rfl, rfl, htold⟩)
          (fun htold => ⟨answers, order, rfl, rfl, htold⟩)
      · exact .refl _
  | @track key order rest answers =>
    unfold finishCheck
    split
    · refine .update fun row => ?_
      have hinformed := (checkPendingReceipt_decides ‹_›).informed row
      exact hinformed.weaken (fun htold => ⟨answers, order, rfl, rfl, htold⟩)
        (fun htold => ⟨answers, order, rfl, rfl, htold⟩)
    · exact .refl _
  | _ => exact .refl _

/-- A row in hand was in hand before the step, or it is the row of the table. -/
theorem entries (h : Task.Step cfg db task act db' task') {entry : OrderKey × Order}
    (hentry : entry ∈ task'.entries) :
    entry ∈ task.entries ∨ db'.orders entry.1 = some entry.2 := by
  cases h with
  | scanOnce keys => exact .inr (Database.mem_load hentry).1
  | reconcilePendingOnce keys => exact .inr (Database.mem_load hentry).1
  | pass => exact .inl (List.mem_cons_of_mem _ hentry)
  | claim hbegin =>
    rcases List.mem_cons.mp hentry with rfl | hrest
    · exact .inr (beginEvaluation_some hbegin).2.2
    · exact .inl (List.mem_cons_of_mem _ hrest)
  | submit => exact .inl (List.mem_cons_of_mem _ hentry)
  | close => exact .inl (List.mem_cons_of_mem _ hentry)
  | record => exact .inl hentry
  | @check key order rest answers _ _ hbegin =>
    have hrest : entry ∈ rest := by
      unfold beginCheck at hbegin
      split at hbegin <;> split at hbegin <;> cases hbegin <;> exact hentry
    exact .inl (List.mem_cons_of_mem _ hrest)
  | refresh hrow =>
    rcases List.mem_cons.mp hentry with rfl | hrest
    · exact .inr hrow
    · exact .inl hrest
  | lost => exact .inl hentry
  | track => exact .inl (List.mem_cons_of_mem _ hentry)
  | @skip task task' hrest =>
    refine .inl ?_
    cases task with
    | scanning orders =>
      cases orders <;> cases hrest
      exact List.mem_cons_of_mem _ hentry
    | reconciling orders =>
      cases orders <;> cases hrest
      exact List.mem_cons_of_mem _ hentry
    | claimed | tracking =>
      cases hrest
      exact List.mem_cons_of_mem _ hentry
    | submitted | promoted =>
      cases hrest
      exact hentry
    | idle => cases hrest
  | stop => cases hentry

end Task.Step

end Backend
