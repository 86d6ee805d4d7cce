-- SUMMARY: The backend's tables: orders with their runtime state and order events; lookups, guarded updates and the claim of an order.
import FluxSwap.Contracts.Abi
import Mathlib.Logic.Function.Basic

/-!
# Orders and events in the database

An order row and its runtime row are one record, since every query joins them. Numeric
columns hold integers, and a column of a transaction hash is either empty or a hash.
Every function here is one database transaction. Timestamps and the activity trail
are left out: no decision about a status reads them.
-/

namespace Backend

abbrev TxHash : Type := Bytes32

/-- The column `status`; `opened` is the status `open`. -/
inductive Status
  | opened
  | submittingExecute
  | pendingExecute
  | pendingCancel
  | executed
  | cancelled
  | expired
  deriving DecidableEq, Repr

/-- The columns `status_reason` and `last_block_reason`: the reasons that are compared with
    somewhere, and all other texts. -/
inductive Reason
  | none
  | orderExecutedEvent
  | orderExecutedEventAfterPendingCancel
  | orderExecutedEventAfterExpired
  | confirmedByChainState
  | nonceInvalidatedEvent
  | nonceInvalidatedEventAfterPendingCancel
  | nonceInvalidatedEventAfterPendingExecute
  | nonceInvalidatedEventAfterSubmittingExecute
  | nonceInvalidatedEventAfterExpired
  | claimedForSubmission
  | submittedToChain
  | cancelTxSubmittedByUser
  | expiredByChainTime
  | orderExpired
  | text (text : String)
  deriving DecidableEq, Repr

/-- The key of an order: chain, settlement contract, order hash. -/
structure OrderKey where
  chainId           : Nat
  settlementAddress : Address
  orderHash         : Bytes32
  deriving DecidableEq

/-- A row of `orders`, without its key, and its row of `order_runtime`. -/
structure Order where
  maker                   : Address
  inputToken              : Address
  outputToken             : Address
  recipient               : Address
  amountIn                : Int
  minAmountOut            : Int
  executorFee             : Int
  triggerPriceX18         : Int
  expiry                  : Int
  nonce                   : Int
  signature               : Option Bytes
  status                  : Status
  statusReason            : Reason
  lastBlockReason         : Reason
  submittedTxHash         : Option TxHash
  executedTxHash          : Option TxHash
  cancelledTxHash         : Option TxHash
  settledAmountOut        : Int
  settledExecutorFee      : Int
  lastCheckedBlock        : Int
  estimatedGasUsed        : Int
  gasPriceAtQuote         : Int
  lastRequiredExecutorFee : Int
  deriving DecidableEq

/-- The maker and the nonce stay as they are. -/
def KeepsNonce (order order' : Order) : Prop :=
  order'.maker = order.maker ∧ order'.nonce = order.nonce

inductive EventName
  | orderExecuted
  | nonceInvalidated
  deriving DecidableEq, Repr

/-- A row of `order_events`, and the parameters of the event service. -/
structure OrderEvent where
  chainId           : Nat
  contractAddress   : Address
  name              : EventName
  txHash            : TxHash
  logIndex          : Nat
  blockNumber       : Int
  orderHash         : Bytes32
  maker             : Address
  nonce             : Int
  grossAmountOut    : Int
  executorFeeAmount : Int
  deriving DecidableEq

namespace OrderEvent

/-- The unique key of the table. -/
def id (e : OrderEvent) : Nat × TxHash × Nat := (e.chainId, e.txHash, e.logIndex)

/-- The order that an `OrderExecuted` event is about. -/
def orderKey (e : OrderEvent) : OrderKey := ⟨e.chainId, e.contractAddress, e.orderHash⟩

/-- `block_number ASC, log_index ASC`. -/
def notLater (e e' : OrderEvent) : Bool :=
  decide (e.blockNumber < e'.blockNumber) ||
    (decide (e.blockNumber = e'.blockNumber) && decide (e.logIndex ≤ e'.logIndex))

/-- The last row of a query that is ordered by block and log. -/
def latest : List OrderEvent → Option OrderEvent
  | [] => none
  | e :: es =>
    match latest es with
    | some e' => if notLater e e' then some e' else some e
    | none => some e

theorem exists_latest {rows : List OrderEvent} (h : rows ≠ []) : ∃ e, latest rows = some e := by
  cases rows with
  | nil => exact (h rfl).elim
  | cons e es =>
    unfold latest
    split
    · split <;> exact ⟨_, rfl⟩
    · exact ⟨_, rfl⟩

theorem latest_eq_none {rows : List OrderEvent} : latest rows = none ↔ rows = [] := by
  constructor
  · intro h
    by_contra hrows
    obtain ⟨e, he⟩ := exists_latest hrows
    rw [h] at he
    cases he
  · rintro rfl
    rfl

theorem ne_nil_of_latest {rows : List OrderEvent} {e : OrderEvent} (h : latest rows = some e) :
    rows ≠ [] := by
  rintro rfl
  cases h

end OrderEvent

/-- A status-guarded update of a row. -/
structure Update where
  statuses : List Status
  set      : Order → Order

/-- What an update makes of a row. -/
def Update.apply (u : Update) (o : Order) : Order :=
  if u.statuses.contains o.status then u.set o else o

structure Database where
  orders : OrderKey → Option Order
  events : List OrderEvent

namespace Database

/-! ## Orders -/

/-- Write a row. -/
def write (db : Database) (key : OrderKey) (set : Order → Order) : Database :=
  { db with orders := Function.update db.orders key ((db.orders key).map set) }

/-- `GetByOrderHash`. -/
def getByOrderHash (db : Database) (key : OrderKey) : Option Order := db.orders key

/-- `UpdateFields`. -/
def updateFields (db : Database) (key : OrderKey) (set : Order → Order) : Database :=
  db.write key set

/-- The status of an order, if there is a row. -/
def statusOf (db : Database) (key : OrderKey) : Option Status := (db.orders key).map Order.status

/-- The row has one of the statuses. -/
def hasStatusIn (db : Database) (key : OrderKey) (statuses : List Status) : Bool :=
  match db.orders key with
  | some order => statuses.contains order.status
  | none => false

/-- `UpdateFieldsIfStatusIn`: the new tables, and whether the row was written. -/
def updateFieldsIfStatusIn (db : Database) (key : OrderKey) (statuses : List Status)
    (set : Order → Order) : Database × Bool :=
  if db.hasStatusIn key statuses then (db.write key set, true) else (db, false)

/-- The tables after an update that may find the order in another status. -/
def update (db : Database) (key : OrderKey) (u : Update) : Database :=
  (db.updateFieldsIfStatusIn key u.statuses u.set).1

/-- What `ClaimOpenOrderForExecution` writes. -/
def claim : Update where
  statuses := [.opened]
  set o := { o with
    status := .submittingExecute
    statusReason := .claimedForSubmission
    lastBlockReason := .none
    submittedTxHash := none }

/-- `ClaimOpenOrderForExecution`. -/
def claimOpenOrderForExecution (db : Database) (key : OrderKey) : Database × Bool :=
  db.updateFieldsIfStatusIn key claim.statuses claim.set

/-- The orders of `ListOrdersByMakerAndNonce` for the maker and the nonce of an event. -/
def ofMakerAndNonce (e : OrderEvent) (key : OrderKey) (order : Order) : Bool :=
  decide (key.chainId = e.chainId ∧ key.settlementAddress = e.contractAddress ∧
    order.maker = e.maker ∧ order.nonce = e.nonce)

/-- Write each of these orders in turn. -/
def writeByMakerAndNonce (db : Database) (e : OrderEvent) (set : OrderKey → Order → Order) :
    Database :=
  { db with orders := fun key =>
      (db.orders key).map fun order =>
        if ofMakerAndNonce e key order then set key order else order }

/-! ## Events -/

/-- `OrderEventRepository.Create`; `none` is a violation of the unique index. -/
def createEvent (db : Database) (e : OrderEvent) : Option Database :=
  if db.events.any fun row => row.id = e.id then none else some { db with events := e :: db.events }

/-- `DeleteByTxHashAndLogIndex`: the new tables, and whether a row was deleted. -/
def deleteEvent (db : Database) (e : OrderEvent) : Database × Bool :=
  ({ db with events := db.events.filter fun row => row.id ≠ e.id },
    db.events.any fun row => row.id = e.id)

/-- The `OrderExecuted` rows of `ListByOrderHash`. -/
def executedEvents (db : Database) (key : OrderKey) : List OrderEvent :=
  db.events.filter fun row => row.name = .orderExecuted ∧ row.orderKey = key

/-- The `NonceInvalidated` rows of `ListByMakerAndNonce` for the maker and the nonce of an
    order. -/
def invalidatedEvents (db : Database) (key : OrderKey) (maker : Address) (nonce : Int) :
    List OrderEvent :=
  db.events.filter fun row => row.name = .nonceInvalidated ∧ row.chainId = key.chainId ∧
    row.contractAddress = key.settlementAddress ∧ row.maker = maker ∧ row.nonce = nonce

/-! ## Guarded updates -/

theorem orders_update (db : Database) (key : OrderKey) (u : Update) (k : OrderKey) :
    (db.update key u).orders k = if k = key then (db.orders k).map u.apply else db.orders k := by
  unfold update updateFieldsIfStatusIn hasStatusIn
  rcases hrow : db.orders key with _ | row
  · split <;> simp_all
  · by_cases hstatus : u.statuses.contains row.status
    · simp only [hstatus, if_true, write, Function.update_apply, hrow]
      split
      · subst k
        rw [hrow, Option.map_some, Option.map_some, Update.apply, if_pos hstatus]
      · rfl
    · simp only [hstatus, Bool.false_eq_true, if_false]
      split
      · subst k
        rw [hrow, Option.map_some, Update.apply, if_neg hstatus]
      · rfl

theorem orders_update_map (db : Database) (key : OrderKey) (u : Update) (k : OrderKey) :
    (db.update key u).orders k =
      (db.orders k).map fun order => if k = key then u.apply order else order := by
  rw [orders_update]
  split
  · simp [‹k = key›]
  · simp

@[simp] theorem events_update (db : Database) (key : OrderKey) (u : Update) :
    (db.update key u).events = db.events := by
  unfold update updateFieldsIfStatusIn
  split <;> rfl

/-- A row is written. -/
theorem orders_write_of {db : Database} {key : OrderKey} {row : Order} {f : Order → Order}
    {g : OrderKey → Order → Order} (hrow : db.orders key = some row) (hg : f row = g key row)
    (k : OrderKey) :
    (db.write key f).orders k = (db.orders k).map fun o => if k = key then g k o else o := by
  simp only [write, Function.update_apply]
  split
  · subst k
    rw [hrow, Option.map_some, Option.map_some, hg]
  · simp

/-- A row is left as it is. -/
theorem orders_of {db : Database} {key : OrderKey} {row : Order} {g : OrderKey → Order → Order}
    (hrow : db.orders key = some row) (hg : g key row = row) (k : OrderKey) :
    db.orders k = (db.orders k).map fun o => if k = key then g k o else o := by
  by_cases hk : k = key
  · subst k
    simp [hrow, hg]
  · simp [hk]

theorem updateFieldsIfStatusIn_of {db : Database} {key : OrderKey} {row : Order}
    {statuses : List Status} {set : Order → Order} (hrow : db.orders key = some row) :
    db.updateFieldsIfStatusIn key statuses set =
      if statuses.contains row.status then (db.write key set, true) else (db, false) := by
  unfold updateFieldsIfStatusIn hasStatusIn
  rw [hrow]

theorem hasStatusIn_singleton {db : Database} {key : OrderKey} {st : Status} :
    db.hasStatusIn key [st] = true ↔ db.statusOf key = some st := by
  unfold hasStatusIn statusOf
  rcases db.orders key with _ | row <;> simp

theorem update_of_not_hasStatusIn {db : Database} {key : OrderKey} {u : Update}
    (h : db.hasStatusIn key u.statuses = false) : db.update key u = db := by
  unfold update updateFieldsIfStatusIn
  rw [h]
  rfl

/-- An update of another order, or of an order in another status, keeps a status. -/
theorem statusOf_update {db : Database} {key k : OrderKey} {u : Update} {st : Status}
    (h : db.statusOf k = some st) (hkeep : k = key → st ∉ u.statuses) :
    (db.update key u).statusOf k = some st := by
  unfold statusOf at *
  rw [orders_update]
  split
  · obtain ⟨row, hrow, hst⟩ := Option.map_eq_some_iff.mp h
    have hguard : ¬u.statuses.contains row.status := by
      rw [hst, List.contains_iff_mem]
      exact hkeep ‹_›
    rw [hrow, Option.map_some, Update.apply, if_neg hguard, Option.map_some, hst]
  · exact h

theorem claimOpenOrderForExecution_eq (db : Database) (key : OrderKey) :
    db.claimOpenOrderForExecution key = (db.update key claim, db.hasStatusIn key claim.statuses) := by
  unfold claimOpenOrderForExecution update updateFieldsIfStatusIn
  cases db.hasStatusIn key claim.statuses <;> rfl

/-! ## Event rows -/

theorem createEvent_some {db db' : Database} {e : OrderEvent} (h : db.createEvent e = some db') :
    (∀ row ∈ db.events, row.id ≠ e.id) ∧ db' = { db with events := e :: db.events } := by
  unfold createEvent at h
  split at h
  · cases h
  · rename_i hfresh
    refine ⟨?_, (Option.some.inj h).symm⟩
    simpa using hfresh

end Database

namespace Example

def orderKey : OrderKey := ⟨1, 900, 5⟩

/-- An order as `CreateOrder` stores it. -/
def openOrder : Order where
  maker := 11
  inputToken := 21
  outputToken := 22
  recipient := 11
  amountIn := 1000
  minAmountOut := 900
  executorFee := 5000
  triggerPriceX18 := 1
  expiry := 2000000000
  nonce := 7
  signature := some []
  status := .opened
  statusReason := .none
  lastBlockReason := .none
  submittedTxHash := none
  executedTxHash := none
  cancelledTxHash := none
  settledAmountOut := 0
  settledExecutorFee := 0
  lastCheckedBlock := 0
  estimatedGasUsed := 0
  gasPriceAtQuote := 0
  lastRequiredExecutorFee := 0

end Example

end Backend
