-- SUMMARY: Executor instances, CancelOrders requests and the event service on one database, interleaved at the granularity of database transactions.
import FluxSwap.Backend.EventService
import FluxSwap.Backend.Executor
import FluxSwap.Lib.System

/-!
# Instances on one database

An instance runs its two loops one after the other: it loads a batch, and then goes through
the rows it has loaded while the database changes under it. A step is one database
transaction with the questions to the chain that lead to it, or the sending of a
transaction. An instance can fail on an order and go on with the next one, and it can stop
at any time.
-/

namespace Backend

open Status

/-! ## Loading -/

/-- The rows of a query by status, in the order and up to the limit given by `keys`. -/
def Database.load (db : Database) (statuses : List Status) (keys : List OrderKey) :
    List (OrderKey × Order) :=
  keys.filterMap fun key =>
    match db.orders key with
    | some order => if statuses.contains order.status then some (key, order) else none
    | none => none

theorem Database.mem_load {db : Database} {statuses : List Status} {keys : List OrderKey}
    {key : OrderKey} {order : Order} (h : (key, order) ∈ db.load statuses keys) :
    db.orders key = some order ∧ order.status ∈ statuses := by
  obtain ⟨key', -, hloaded⟩ := List.mem_filterMap.mp h
  split at hloaded
  · split at hloaded
    · rename_i hguard
      cases hloaded
      exact ⟨‹_›, List.contains_iff_mem.mp hguard⟩
    · cases hloaded
  · cases hloaded

/-- `ListOpenOrdersForSettlement`. -/
def Database.listOpenOrders (db : Database) (keys : List OrderKey) : List (OrderKey × Order) :=
  db.load [opened] keys

/-- `ListPendingOrdersForSettlement`. -/
def Database.listPendingOrders (db : Database) (keys : List OrderKey) : List (OrderKey × Order) :=
  db.load [pendingExecute, pendingCancel, submittingExecute] keys

/-! ## Tasks -/

/-- What an instance is doing, with the rows it has loaded and not yet handled. -/
inductive Task
  | idle
  /-- In `scanOnce`, before the next order. -/
  | scanning (orders : List (OrderKey × Order))
  /-- In `evaluateOrder`, after the claim. -/
  | claimed (key : OrderKey) (payload : SettlementOrder) (order : Order)
      (rest : List (OrderKey × Order))
  /-- In `evaluateOrder`, after `ExecuteOrder`. -/
  | submitted (key : OrderKey) (quote : FeeQuote) (result : Except String TxHash)
      (rest : List (OrderKey × Order))
  /-- In `reconcilePendingOnce`, before the next order. -/
  | reconciling (orders : List (OrderKey × Order))
  /-- In `checkPendingReceipt`, before the row is read again. -/
  | promoted (key : OrderKey) (rest : List (OrderKey × Order))
  /-- In `checkPendingReceipt`, after the row has been read again. -/
  | tracking (key : OrderKey) (order : Order) (rest : List (OrderKey × Order))

/-- Where an instance stands when it gives up the order in hand. -/
def Task.rest : Task → Option Task
  | .idle | .scanning [] | .reconciling [] => none
  | .scanning (_ :: rest) | .claimed _ _ _ rest | .submitted _ _ _ rest => some (.scanning rest)
  | .reconciling (_ :: rest) | .promoted _ rest | .tracking _ _ rest => some (.reconciling rest)

structure State where
  db    : Database
  tasks : Nat → Task

/-- The steps of an instance. `skip` is an error of the database or of the chain client, which
    ends the work on an order; `stop` ends a batch, or the instance. -/
inductive Act
  | scanOnce (keys : List OrderKey)
  | evaluateOrder (answers : Answers)
  | executeOrder (answers : Answers) (result : Except String TxHash)
  | recordSubmission
  | reconcilePendingOnce (keys : List OrderKey)
  | checkPendingReceipt (answers : Answers)
  | refresh
  | trackReceipt (answers : Answers)
  | skip
  | stop

/-- What the chain client answers during a step. -/
def Act.answers : Act → Option Answers
  | .evaluateOrder answers | .executeOrder answers _ | .checkPendingReceipt answers
  | .trackReceipt answers => some answers
  | _ => none

/-- The steps of the backend; `i` is the instance. -/
inductive Op
  | worker (i : Nat) (act : Act)
  | cancelOrders (key : OrderKey) (cancelTxHash : TxHash)
  | event (call : EventService.Call)

/-- A step of the event service. -/
def Op.isEvent : Op → Bool
  | .worker _ _ | .cancelOrders _ _ => false
  | .event _ => true

inductive OpError
  | notEnabled
  | orderNotFound
  | orderNonceInvalid
  | event (error : EventError)

/-! ## Steps -/

/-- The start of `evaluateOrder`, up to the claim: the tables, and the payload and the row of
    an order that was claimed. -/
def beginEvaluation (answers : Answers) (db : Database) (key : OrderKey) (order : Order) :
    Database × Option (SettlementOrder × Order) :=
  if shouldDelayProtocolBlockedRecheck order answers then (db, none)
  else
    match buildSettlementOrder order with
    | .error error => (db.update key (payloadInvalid error), none)
    | .ok payload =>
      match db.claimOpenOrderForExecution key with
      | (db, true) => (db, (db.getByOrderHash key).map fun row => (payload, row))
      | (db, false) => (db, none)

/-- An order of the receipt loop. -/
def beginCheck (answers : Answers) (db : Database) (key : OrderKey) (order : Order)
    (rest : List (OrderKey × Order)) : Database × Task :=
  if order.status = submittingExecute then
    if order.submittedTxHash.isSome then (db.update key submissionFound, .promoted key rest)
    else (db.update key submissionInterrupted, .reconciling rest)
  else
    match checkPendingReceipt (decide (order.status = pendingCancel)) order answers with
    | some u => (db.update key u, .reconciling rest)
    | none => (db, .reconciling rest)

/-- The rest of `checkPendingReceipt` after the row has been read again. -/
def finishCheck (answers : Answers) (db : Database) (key : OrderKey) (order : Order) : Database :=
  match checkPendingReceipt false order answers with
  | some u => db.update key u
  | none => db

/-- A step of an instance: the tables and where it stands afterwards. -/
def Task.next (cfg : Config) (db : Database) : Task → Act → Option (Database × Task)
  | .idle, .scanOnce keys => some (db, .scanning (db.listOpenOrders keys))
  | .idle, .reconcilePendingOnce keys => some (db, .reconciling (db.listPendingOrders keys))
  | .scanning ((key, order) :: rest), .evaluateOrder answers =>
    match beginEvaluation answers db key order with
    | (db, some (payload, row)) => some (db, .claimed key payload row rest)
    | (db, none) => some (db, .scanning rest)
  | .claimed key payload order rest, .executeOrder answers result =>
    match evaluateClaimed cfg payload order answers with
    | .ok submission => some (db, .submitted key submission.quote result rest)
    | .error u => some (db.update key u, .scanning rest)
  | .submitted key quote result rest, .recordSubmission =>
    some (db.update key (submissionResult quote result), .scanning rest)
  | .reconciling ((key, order) :: rest), .checkPendingReceipt answers =>
    some (beginCheck answers db key order rest)
  | .promoted key rest, .refresh =>
    match db.getByOrderHash key with
    | some order => some (db, .tracking key order rest)
    | none => some (db, .reconciling rest)
  | .tracking key order rest, .trackReceipt answers =>
    some (finishCheck answers db key order, .reconciling rest)
  | task, .skip => task.rest.map fun rest => (db, rest)
  | _, .stop => some (db, .idle)
  | _, _ => none

/-- One step of the backend. -/
def exec (cfg : Config) (s : State) : Op → Except OpError State
  | .worker i act =>
    match (s.tasks i).next cfg s.db act with
    | some (db, task) => .ok { db := db, tasks := Function.update s.tasks i task }
    | none => .error .notEnabled
  | .cancelOrders key cancelTxHash =>
    match s.db.getByOrderHash key with
    | none => .error .orderNotFound
    | some order =>
      if order.nonce < 0 then .error .orderNonceInvalid
      else .ok { s with db := s.db.update key (registerCancel cancelTxHash) }
  | .event call =>
    match EventService.exec s.db call with
    | .ok db => .ok { s with db := db }
    | .error error => .error (.event error)

/-- Any tables, and instances that have not started. -/
def State.Initial (s : State) : Prop := s.tasks = fun _ => .idle

/-! ## What a step of an instance can do -/

/-- The steps of an instance, case by case. -/
inductive Task.Step (cfg : Config) (db : Database) : Task → Act → Database → Task → Prop
  | scanOnce (keys : List OrderKey) :
      Step cfg db .idle (.scanOnce keys) db (.scanning (db.listOpenOrders keys))
  | reconcilePendingOnce (keys : List OrderKey) :
      Step cfg db .idle (.reconcilePendingOnce keys) db (.reconciling (db.listPendingOrders keys))
  | pass {key order rest answers db'} :
      beginEvaluation answers db key order = (db', none) →
      Step cfg db (.scanning ((key, order) :: rest)) (.evaluateOrder answers) db' (.scanning rest)
  | claim {key order rest answers db' payload row} :
      beginEvaluation answers db key order = (db', some (payload, row)) →
      Step cfg db (.scanning ((key, order) :: rest)) (.evaluateOrder answers) db'
        (.claimed key payload row rest)
  | submit {key payload order rest answers result submission} :
      evaluateClaimed cfg payload order answers = .ok submission →
      Step cfg db (.claimed key payload order rest) (.executeOrder answers result) db
        (.submitted key submission.quote result rest)
  | close {key payload order rest answers result u} :
      evaluateClaimed cfg payload order answers = .error u →
      Step cfg db (.claimed key payload order rest) (.executeOrder answers result)
        (db.update key u) (.scanning rest)
  | record {key quote result rest} :
      Step cfg db (.submitted key quote result rest) .recordSubmission
        (db.update key (submissionResult quote result)) (.scanning rest)
  | check {key order rest answers db' task} :
      beginCheck answers db key order rest = (db', task) →
      Step cfg db (.reconciling ((key, order) :: rest)) (.checkPendingReceipt answers) db' task
  | refresh {key order rest} :
      db.orders key = some order →
      Step cfg db (.promoted key rest) .refresh db (.tracking key order rest)
  | lost {key rest} :
      db.orders key = none →
      Step cfg db (.promoted key rest) .refresh db (.reconciling rest)
  | track {key order rest answers} :
      Step cfg db (.tracking key order rest) (.trackReceipt answers)
        (finishCheck answers db key order) (.reconciling rest)
  | skip {task task' : Task} : task.rest = some task' → Step cfg db task .skip db task'
  | stop {task : Task} : Step cfg db task .stop db .idle

theorem Task.next_step {cfg : Config} {db db' : Database} {task task' : Task} {act : Act}
    (h : task.next cfg db act = some (db', task')) : Task.Step cfg db task act db' task' := by
  unfold Task.next at h
  split at h
  · cases h
    exact .scanOnce _
  · cases h
    exact .reconcilePendingOnce _
  · split at h <;> cases h
    · exact .claim ‹_›
    · exact .pass ‹_›
  · split at h <;> cases h
    · exact .submit ‹_›
    · exact .close ‹_›
  · cases h
    exact .record
  · exact .check (Option.some.inj h)
  · split at h <;> cases h
    · exact .refresh ‹_›
    · exact .lost ‹_›
  · cases h
    exact .track
  · obtain ⟨rest, hrest, heq⟩ := Option.map_eq_some_iff.mp h
    cases heq
    exact .skip hrest
  · cases h
    exact .stop
  · cases h

theorem exec_worker {cfg : Config} {s s' : State} {i : Nat} {act : Act}
    (h : exec cfg s (.worker i act) = .ok s') : ∃ db task,
      Task.Step cfg s.db (s.tasks i) act db task ∧
        s' = { db := db, tasks := Function.update s.tasks i task } := by
  simp only [exec] at h
  split at h
  · exact ⟨_, _, Task.next_step ‹_›, (Except.ok.inj h).symm⟩
  · cases h

theorem exec_cancelOrders {cfg : Config} {s s' : State} {key : OrderKey} {cancelTxHash : TxHash}
    (h : exec cfg s (.cancelOrders key cancelTxHash) = .ok s') :
    (∃ order, s.db.orders key = some order ∧ 0 ≤ order.nonce) ∧
      s' = { s with db := s.db.update key (registerCancel cancelTxHash) } := by
  simp only [exec] at h
  split at h
  · cases h
  · split at h
    · cases h
    · exact ⟨⟨_, ‹_›, Int.not_lt.mp ‹_›⟩, (Except.ok.inj h).symm⟩

theorem exec_event {cfg : Config} {s s' : State} {call : EventService.Call}
    (h : exec cfg s (.event call) = .ok s') :
    ∃ db, EventService.exec s.db call = .ok db ∧ s' = { s with db := db } := by
  simp only [exec] at h
  split at h
  · exact ⟨_, ‹_›, (Except.ok.inj h).symm⟩
  · cases h

/-- A claim found the order in `open` and wrote it. -/
theorem beginEvaluation_some {answers : Answers} {db db' : Database} {key : OrderKey}
    {order row : Order} {payload : SettlementOrder}
    (h : beginEvaluation answers db key order = (db', some (payload, row))) :
    db.statusOf key = some opened ∧ db' = db.update key Database.claim ∧
      db'.orders key = some row := by
  unfold beginEvaluation at h
  split at h
  · cases h
  · split at h
    · cases h
    · split at h
      · rename_i hclaim
        rw [Database.claimOpenOrderForExecution_eq] at hclaim
        obtain ⟨rfl, hguard⟩ := Prod.mk.inj hclaim
        obtain ⟨hdb, hrow⟩ := Prod.mk.inj h
        obtain ⟨row', hrow', heq⟩ := Option.map_eq_some_iff.mp hrow
        obtain ⟨-, rfl⟩ := Prod.mk.inj heq
        refine ⟨?_, hdb.symm, hdb ▸ hrow'⟩
        exact Database.hasStatusIn_singleton.mp hguard
      · cases h

/-- An evaluation that ends before a claim. -/
theorem beginEvaluation_none {answers : Answers} {db db' : Database} {key : OrderKey}
    {order : Order} (h : beginEvaluation answers db key order = (db', none)) :
    db' = db ∨ ∃ error, db' = db.update key (payloadInvalid error) := by
  unfold beginEvaluation at h
  split at h
  · exact .inl (Prod.mk.inj h).1.symm
  · split at h
    · exact .inr ⟨_, (Prod.mk.inj h).1.symm⟩
    · split at h
      · rename_i hclaim
        rw [Database.claimOpenOrderForExecution_eq] at hclaim
        obtain ⟨rfl, hguard⟩ := Prod.mk.inj hclaim
        obtain ⟨row, hrow, -⟩ := Option.map_eq_some_iff.mp (Database.hasStatusIn_singleton.mp hguard)
        have hnone := (Prod.mk.inj h).2
        rw [Option.map_eq_none_iff, Database.getByOrderHash, Database.orders_update, if_pos rfl,
          hrow] at hnone
        cases hnone
      · rename_i hclaim
        rw [Database.claimOpenOrderForExecution_eq, Database.update_of_not_hasStatusIn
          (Prod.mk.inj hclaim).2] at hclaim
        rw [(Prod.mk.inj hclaim).1]
        exact .inl (Prod.mk.inj h).1.symm

namespace Example

/-- One open order, and instances that have not started. -/
def start : State where
  db := { orders := fun key => if key = orderKey then some openOrder else none, events := [] }
  tasks := fun _ => .idle

theorem start_initial : start.Initial := rfl

def config : Config := ⟨120, 400000⟩

/-- The chain is ready to execute the order and knows no transaction yet. -/
def willing : Answers where
  coolingDown := false
  currentBlockTimestamp := .ok 1800000000
  isOrderExecuted := .ok false
  isNonceInvalidated := .ok false
  canExecuteOrder := .ok ⟨true, ""⟩
  checkMakerFunding := .ok ⟨"", 1000, 1000, 1000, true, true⟩
  getOrderQuote := .ok 1000
  suggestExecutorFee := .ok ⟨40, 3⟩
  receiptStatus := .ok none
  transactionKnown := .ok false

end Example

end Backend
