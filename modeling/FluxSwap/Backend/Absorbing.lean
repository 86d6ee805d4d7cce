-- SUMMARY: While no event is reverted a closed order keeps its status, and an expired order is closed by an applied event only.
import FluxSwap.Backend.Closing

/-!
# Settled orders

Workers and requests write an order only in an active status, whatever copy of the order
they go by, and `CreateOrder` inserts a row only where there is none. So `executed` and
`cancelled` are left by no step but a revert, and `expired` is left by an event alone.
-/

namespace Backend

open Status

/-! ## CreateOrder -/

/-- What `CreateOrder` writes to a new row: the order of a request that has passed its checks,
    and what the chain client has said about fees. -/
structure NewOrder where
  maker                   : Address
  inputToken              : Address
  outputToken             : Address
  recipient               : Address
  amountIn                : Nat
  minAmountOut            : Nat
  maxExecutorRewardBps    : Nat
  triggerPriceX18         : Nat
  expiry                  : Nat
  nonce                   : Nat
  normalizedSignature     : Bytes
  lastBlockReason         : Reason
  estimatedGasUsed        : Nat
  gasPriceAtQuote         : Nat
  lastRequiredExecutorFee : Nat

/-- The row of a new order. -/
def NewOrder.row (new : NewOrder) : Order where
  maker := new.maker
  inputToken := new.inputToken
  outputToken := new.outputToken
  recipient := new.recipient
  amountIn := new.amountIn
  minAmountOut := new.minAmountOut
  executorFee := new.maxExecutorRewardBps
  triggerPriceX18 := new.triggerPriceX18
  expiry := new.expiry
  nonce := new.nonce
  signature := some new.normalizedSignature
  status := opened
  statusReason := .none
  lastBlockReason := new.lastBlockReason
  submittedTxHash := none
  executedTxHash := none
  cancelledTxHash := none
  settledAmountOut := 0
  settledExecutorFee := 0
  lastCheckedBlock := 0
  estimatedGasUsed := new.estimatedGasUsed
  gasPriceAtQuote := new.gasPriceAtQuote
  lastRequiredExecutorFee := new.lastRequiredExecutorFee

/-- `OrderRepository.Create`; `none` is a violation of the unique index. -/
def Database.create (db : Database) (key : OrderKey) (order : Order) : Option Database :=
  match db.orders key with
  | some _ => none
  | none => some { db with orders := Function.update db.orders key (some order) }

theorem Database.orders_create {db db' : Database} {key k : OrderKey} {new order : Order}
    (h : db.create key new = some db') (horder : db.orders k = some order) :
    db'.orders k = some order := by
  unfold create at h
  split at h
  · cases h
  · cases h
    refine (Function.update_of_ne ?_ _ _).trans horder
    rintro rfl
    simp_all

/-! ## The service -/

/-- The steps of the backend and the insertions of `CreateOrder`. The query in front of an
    insertion only ends a request early. -/
inductive ServiceOp
  | backend (op : Op)
  | createOrder (key : OrderKey) (new : NewOrder)

inductive ServiceError
  | backend (error : OpError)
  | orderAlreadyExists

def serve (cfg : Config) (s : State) : ServiceOp → Except ServiceError State
  | .backend op => (exec cfg s op).mapError .backend
  | .createOrder key new =>
    match s.db.create key new.row with
    | some db => .ok { s with db := db }
    | none => .error .orderAlreadyExists

def service (cfg : Config) : System State ServiceOp := System.ofCalls State.Initial (serve cfg)

def ServiceOp.isRevert : ServiceOp → Bool
  | .backend (.event (.revert _)) => true
  | _ => false

/-- The step applies an event to the order and closes it. -/
def ServiceOp.ClosesByEvent (key : OrderKey) (order order' : Order) : ServiceOp → Prop
  | .backend (.event (.apply e)) =>
    e.name = .orderExecuted ∧ key = e.orderKey ∧ order'.status = executed
  | .backend (.event (.applyNonceInvalidated e)) =>
    Database.ofMakerAndNonce e key order = true ∧ order'.status = cancelled
  | _ => False

theorem serve_backend {cfg : Config} {s s' : State} {op : Op}
    (h : serve cfg s (.backend op) = .ok s') : exec cfg s op = .ok s' := by
  simp only [serve] at h
  cases hexec : exec cfg s op with
  | error error =>
    rw [hexec] at h
    cases h
  | ok s'' =>
    rw [hexec] at h
    exact congrArg _ (Except.ok.inj h)

theorem serve_createOrder {cfg : Config} {s s' : State} {key : OrderKey} {new : NewOrder}
    (h : serve cfg s (.createOrder key new) = .ok s') :
    ∃ db, s.db.create key new.row = some db ∧ s' = { s with db := db } := by
  simp only [serve] at h
  split at h
  · exact ⟨_, ‹_›, (Except.ok.inj h).symm⟩
  · cases h

/-! ## Updates of active orders -/

/-- The statuses of orders that are still worked on. -/
def Status.isActive : Status → Bool
  | opened | submittingExecute | pendingExecute | pendingCancel => true
  | executed | cancelled | expired => false

/-- The update writes orders in active statuses only. -/
def Update.OnlyActive (u : Update) : Prop := ∀ st ∈ u.statuses, st.isActive = true

namespace Update.OnlyActive

theorem of_statuses {u : Update} (st : Status) (h : u.statuses = [st])
    (hst : st.isActive = true) : u.OnlyActive := by
  intro st' hmem
  rw [h, List.mem_singleton] at hmem
  rw [hmem]
  exact hst

theorem apply_eq {u : Update} (h : u.OnlyActive) {order : Order}
    (horder : order.status.isActive = false) : u.apply order = order := by
  unfold Update.apply
  split
  · rename_i hguard
    have hactive := h _ (List.contains_iff_mem.mp hguard)
    rw [horder] at hactive
    cases hactive
  · rfl

end Update.OnlyActive

theorem currentPendingStatus_isActive (isPendingCancel : Bool) :
    (currentPendingStatus isPendingCancel).isActive = true := by
  cases isPendingCancel <;> rfl

theorem Decision.onlyActive {isPendingCancel : Bool} {order : Order} {answers : Answers}
    {u : Update} (h : Decision order answers isPendingCancel u) : u.OnlyActive :=
  .of_statuses _ h.statuses (currentPendingStatus_isActive _)

/-- The tables stay as they are, or one guarded update of an active order is made. -/
def Database.WritesActive (db db' : Database) : Prop :=
  db' = db ∨ ∃ key u, Update.OnlyActive u ∧ db' = db.update key u

/-- Every step of an instance makes at most one update, of an active order. -/
theorem Task.Step.writesActive {cfg : Config} {db db' : Database} {task task' : Task} {act : Act}
    (h : Task.Step cfg db task act db' task') : db.WritesActive db' := by
  cases h with
  | pass hbegin =>
    cases beginEvaluation_none hbegin with
    | inl hsame => exact .inl hsame
    | inr hinvalid =>
      obtain ⟨error, rfl⟩ := hinvalid
      exact .inr ⟨_, _, .of_statuses opened rfl rfl, rfl⟩
  | claim hbegin =>
    obtain ⟨-, rfl, -⟩ := beginEvaluation_some hbegin
    exact .inr ⟨_, _, .of_statuses opened rfl rfl, rfl⟩
  | close hclaimed =>
    have hstatuses := (evaluateClaimed_ends _ _ _ _ _ hclaimed).statuses
    exact .inr ⟨_, _, .of_statuses _ hstatuses rfl, rfl⟩
  | record => exact .inr ⟨_, _, .of_statuses _ (submissionResult_statuses _ _) rfl, rfl⟩
  | check hbegin =>
    unfold beginCheck at hbegin
    split at hbegin
    · split at hbegin <;> cases hbegin
      · exact .inr ⟨_, _, .of_statuses submittingExecute rfl rfl, rfl⟩
      · exact .inr ⟨_, _, .of_statuses submittingExecute rfl rfl, rfl⟩
    · split at hbegin <;> cases hbegin
      · exact .inr ⟨_, _, (checkPendingReceipt_decides ‹_›).onlyActive, rfl⟩
      · exact .inl rfl
  | track =>
    unfold finishCheck
    split
    · exact .inr ⟨_, _, (checkPendingReceipt_decides ‹_›).onlyActive, rfl⟩
    · exact .inl rfl
  | _ => exact .inl rfl

theorem Database.WritesActive.orders {db db' : Database} (h : db.WritesActive db')
    {key : OrderKey} {order : Order} (horder : db.orders key = some order) :
    ∃ order', db'.orders key = some order' ∧
      (order.status.isActive = false → order' = order) := by
  cases h with
  | inl hsame =>
    rw [hsame]
    exact ⟨order, horder, fun _ => rfl⟩
  | inr hupdate =>
    obtain ⟨k, u, hactive, rfl⟩ := hupdate
    rw [orders_update_map, horder]
    refine ⟨_, rfl, fun hst => ?_⟩
    split
    · exact hactive.apply_eq hst
    · rfl

/-! ## Steps -/

/-- A closed order keeps its status, and an expired one does unless it is closed as stated. -/
structure Absorbs (closes : Prop) (order order' : Order) : Prop where
  closed : order.status = executed ∨ order.status = cancelled → order'.status = order.status
  expired : order.status = expired → order'.status = Status.expired ∨ closes

namespace Absorbs

theorem of_inactive {closes : Prop} {order order' : Order}
    (h : order.status.isActive = false → order' = order) : Absorbs closes order order' where
  closed hst := by
    rw [h (by cases hst with | _ hst => rw [hst]; rfl)]
  expired hst := by
    rw [h (by rw [hst]; rfl)]
    exact .inl hst

theorem refl (closes : Prop) (order : Order) : Absorbs closes order order :=
  .of_inactive fun _ => rfl

theorem applyExecuted (e : OrderEvent) (order : Order) :
    Absorbs ((EventService.applyExecuted e order).status = executed) order
      (EventService.applyExecuted e order) := by
  unfold EventService.applyExecuted
  split
  · rename_i hguard
    exact
      { closed := fun hst => by
          cases hst with | _ hst => rw [hst] at hguard; cases hguard
        expired := fun _ => .inr rfl }
  · split
    · rename_i hbackfill
      have hexecuted := (of_decide_eq_true hbackfill).1
      exact { closed := fun _ => hexecuted.symm, expired := fun _ => .inr rfl }
    · exact .refl _ order

theorem invalidateOrder (e : OrderEvent) (order : Order) :
    Absorbs ((EventService.invalidateOrder e order).status = cancelled) order
      (EventService.invalidateOrder e order) := by
  unfold EventService.invalidateOrder
  split
  · rename_i hguard
    exact
      { closed := fun hst => by
          cases hst with | _ hst => rw [hst] at hguard; cases hguard
        expired := fun _ => .inr rfl }
  · split
    · rename_i hbackfill
      have hcancelled := (of_decide_eq_true hbackfill).1
      exact { closed := fun _ => hcancelled.symm, expired := fun _ => .inr rfl }
    · exact .refl _ order

end Absorbs

/-- The step lemma: what any step but a revert makes of an order. -/
theorem serve_absorbs {cfg : Config} {s s' : State} {op : ServiceOp}
    (h : serve cfg s op = .ok s') (hop : op.isRevert = false) {key : OrderKey} {order : Order}
    (horder : s.db.orders key = some order) :
    ∃ order', s'.db.orders key = some order' ∧
      Absorbs (op.ClosesByEvent key order order') order order' := by
  cases op with
  | createOrder k new =>
    obtain ⟨db, hcreate, rfl⟩ := serve_createOrder h
    exact ⟨order, Database.orders_create hcreate horder, .refl _ order⟩
  | backend op =>
    replace h := serve_backend h
    cases op with
    -- workers and CancelOrders write only rows in statuses that are not closed
    | worker i act =>
      obtain ⟨db, task, hstep, rfl⟩ := exec_worker h
      obtain ⟨order', horder', hsame⟩ := hstep.writesActive.orders horder
      exact ⟨order', horder', .of_inactive hsame⟩
    | cancelOrders k cancelTxHash =>
      obtain ⟨-, rfl⟩ := exec_cancelOrders h
      have hwrites : s.db.WritesActive (s.db.update k (registerCancel cancelTxHash)) :=
        .inr ⟨_, _, .of_statuses opened rfl rfl, rfl⟩
      obtain ⟨order', horder', hsame⟩ := hwrites.orders horder
      exact ⟨order', horder', .of_inactive hsame⟩
    -- the event service reads the name of the event, then writes the orders it is about
    | event call =>
      obtain ⟨db, hcall, rfl⟩ := exec_event h
      cases call with
      | apply e =>
        obtain ⟨hname, -, -, -, horders⟩ := EventService.apply_ok hcall
        have hkey := horders key
        rw [horder, Option.map_some] at hkey
        refine ⟨_, hkey, ?_⟩
        split
        · have habsorbs := Absorbs.applyExecuted e order
          exact
            { closed := habsorbs.closed
              expired := fun hst => (habsorbs.expired hst).imp_right
                fun hexecuted => ⟨hname, ‹_›, hexecuted⟩ }
        · exact .refl _ order
      | applyNonceInvalidated e =>
        obtain ⟨-, -, horders⟩ := EventService.applyNonceInvalidated_ok hcall
        have hkey := horders key
        rw [horder, Option.map_some] at hkey
        refine ⟨_, hkey, ?_⟩
        split
        · have habsorbs := Absorbs.invalidateOrder e order
          exact
            { closed := habsorbs.closed
              expired := fun hst => (habsorbs.expired hst).imp_right
                fun hcancelled => ⟨‹_›, hcancelled⟩ }
        · exact .refl _ order
      | revert e => cases hop

/-! ## Runs -/

/-- What has become of an order after any number of steps. -/
structure Absorbed (order order' : Order) : Prop where
  closed : order.status = executed ∨ order.status = cancelled → order'.status = order.status
  expired : order.status = expired →
    order'.status = Status.expired ∨ order'.status = executed ∨ order'.status = cancelled

theorem ServiceOp.ClosesByEvent.closed {op : ServiceOp} {key : OrderKey} {order order' : Order}
    (h : op.ClosesByEvent key order order') :
    order'.status = executed ∨ order'.status = cancelled := by
  unfold ClosesByEvent at h
  split at h
  · exact .inl h.2.2
  · exact .inr h.2
  · exact h.elim

theorem Absorbed.step {first order order' : Order} (h : Absorbed first order) {closes : Prop}
    (hcloses : closes → order'.status = executed ∨ order'.status = cancelled)
    (hstep : Absorbs closes order order') : Absorbed first order' where
  closed hst := by
    have hkept := h.closed hst
    rw [hstep.closed (by rwa [hkept]), hkept]
  expired hst := by
    cases h.expired hst with
    | inl hexpired => exact (hstep.expired hexpired).imp_right hcloses
    | inr hclosed =>
      rw [hstep.closed hclosed]
      exact .inr hclosed

/-- From any state on, whatever the steps, as long as none is a revert: an order that is
    executed or cancelled stays so, and an order that is expired stays so up to the step that
    applies an event to it and closes it. -/
theorem settled_absorbs {cfg : Config} {s s' : State}
    (hrun : (service cfg).LeadsTo (fun _ op => op.isRevert = false) s s') {key : OrderKey}
    {order : Order} (horder : s.db.orders key = some order) :
    ∃ order', s'.db.orders key = some order' ∧ Absorbed order order' ∧
      ∀ op s'', op.isRevert = false → serve cfg s' op = .ok s'' →
        ∃ order'', s''.db.orders key = some order'' ∧
          Absorbs (op.ClosesByEvent key order' order'') order' order'' := by
  have hreached : ∃ order', s'.db.orders key = some order' ∧ Absorbed order order' := by
    refine hrun.preserves (I := fun s => ∃ order', s.db.orders key = some order' ∧
      Absorbed order order') ⟨order, horder, fun _ => rfl, .inl⟩ ?_
    intro s₁ op s₂ hinv hop hstep
    obtain ⟨order₁, horder₁, habsorbed⟩ := hinv
    obtain ⟨order₂, horder₂, habsorbs⟩ := serve_absorbs hstep hop horder₁
    exact ⟨order₂, horder₂, habsorbed.step ServiceOp.ClosesByEvent.closed habsorbs⟩
  obtain ⟨order', horder', habsorbed⟩ := hreached
  exact ⟨order', horder', habsorbed, fun op s'' hop hstep => serve_absorbs hstep hop horder'⟩

namespace Example

/-- An instance has loaded the order as open, and it has been executed since. -/
def overtaken : State where
  db := { orders := fun key =>
            if key = orderKey then some { openOrder with status := executed } else none
          events := [] }
  tasks := fun _ => .scanning [(orderKey, openOrder)]

theorem settled_absorbs_overtaken :
    ∃ s' order', serve config overtaken (.backend (.worker 0 (.evaluateOrder willing))) = .ok s' ∧
      s'.db.orders orderKey = some order' ∧ order'.status = executed := by
  have hstep : ∃ s', serve config overtaken (.backend (.worker 0 (.evaluateOrder willing))) =
      .ok s' := ⟨_, rfl⟩
  obtain ⟨s', hstep⟩ := hstep
  have hrun : (service config).LeadsTo (fun _ op => op.isRevert = false) overtaken s' :=
    .step (.init rfl) rfl hstep
  have horder : overtaken.db.orders orderKey = some { openOrder with status := executed } := rfl
  obtain ⟨order', horder', habsorbed, -⟩ := settled_absorbs hrun horder
  exact ⟨s', order', hstep, horder', habsorbed.closed (.inl rfl)⟩

end Example

end Backend
