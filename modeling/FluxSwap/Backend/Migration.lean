-- SUMMARY: Moving the runtime columns of the orders table to a table of their own: lossless and restartable at every step.
import FluxSwap.Lib.System
import FluxSwap.Lib.Selection
import FluxSwap.Lib.Text

/-!
# The migration of the order runtime

`AutoMigrate` creates `order_runtime`, inserts a row for every order that has none, and drops the
columns of `orders` that the rows were filled from. Each of these is a step of its own, after
which the run may stop, and the next run decides from the columns and the rows it finds.
-/

namespace Migration

/-! ## Tables -/

/-- A point in time, counted from Go's zero time. -/
abbrev Instant : Type := Int

/-- The columns that leave the orders table. -/
inductive Column
  | statusReason
  | estimatedGasUsed
  | gasPriceAtQuote
  | feeQuoteAt
  | lastRequiredExecutorFee
  | lastFeeCheckAt
  | lastExecutionCheckAt
  | lastBlockReason
  | settledAmountOut
  | settledExecutorFee
  | submittedTxHash
  | executedTxHash
  | cancelledTxHash
  | lastCheckedBlock
  deriving DecidableEq

open Column in
/-- The columns in the order in which they are dropped. -/
def legacyOrderRuntimeColumns : List Column :=
  [statusReason, estimatedGasUsed, gasPriceAtQuote, feeQuoteAt, lastRequiredExecutorFee,
    lastFeeCheckAt, lastExecutionCheckAt, lastBlockReason, settledAmountOut, settledExecutorFee,
    submittedTxHash, executedTxHash, cancelledTxHash, lastCheckedBlock]

/-- What an order has in these columns. The default is what Go's zero values are. -/
structure RuntimeValues where
  statusReason            : Text := []
  estimatedGasUsed        : Text := []
  gasPriceAtQuote         : Text := []
  feeQuoteAt              : Instant := 0
  lastRequiredExecutorFee : Text := []
  lastFeeCheckAt          : Instant := 0
  lastExecutionCheckAt    : Instant := 0
  lastBlockReason         : Text := []
  settledAmountOut        : Text := []
  settledExecutorFee      : Text := []
  submittedTxHash         : Text := []
  executedTxHash          : Text := []
  cancelledTxHash         : Text := []
  lastCheckedBlock        : Int := 0
  deriving DecidableEq

/-- A row of `orders`, less the columns that the migration does not read. -/
structure OrderRow extends RuntimeValues where
  id        : Nat
  createdAt : Instant
  updatedAt : Instant
  deriving DecidableEq

/-- A row of `order_runtime`, less its own key. -/
structure OrderRuntime extends RuntimeValues where
  orderId   : Nat
  createdAt : Instant
  updatedAt : Instant
  deriving DecidableEq

/-- The table `orders` with those of the columns that it still has. -/
structure OrdersTable where
  rows     : List OrderRow
  columns  : List Column
  ids_nodup : (rows.map (·.id)).Nodup
  deriving DecidableEq

/-- The table `order_runtime`. There is a unique index on the order. -/
structure RuntimeTable where
  rows : List OrderRuntime
  orderIds_nodup : (rows.map (·.orderId)).Nodup
  deriving DecidableEq

structure DB where
  orders       : OrdersTable
  orderRuntime : Option RuntimeTable
  deriving DecidableEq

def DB.withRuntime (db : DB) (t : RuntimeTable) : DB := { db with orderRuntime := some t }

/-- Reading a row: a column that is not there leaves the field at its zero value. -/
def RuntimeValues.read (columns : List Column) (v : RuntimeValues) : RuntimeValues where
  statusReason := if .statusReason ∈ columns then v.statusReason else []
  estimatedGasUsed := if .estimatedGasUsed ∈ columns then v.estimatedGasUsed else []
  gasPriceAtQuote := if .gasPriceAtQuote ∈ columns then v.gasPriceAtQuote else []
  feeQuoteAt := if .feeQuoteAt ∈ columns then v.feeQuoteAt else 0
  lastRequiredExecutorFee :=
    if .lastRequiredExecutorFee ∈ columns then v.lastRequiredExecutorFee else []
  lastFeeCheckAt := if .lastFeeCheckAt ∈ columns then v.lastFeeCheckAt else 0
  lastExecutionCheckAt := if .lastExecutionCheckAt ∈ columns then v.lastExecutionCheckAt else 0
  lastBlockReason := if .lastBlockReason ∈ columns then v.lastBlockReason else []
  settledAmountOut := if .settledAmountOut ∈ columns then v.settledAmountOut else []
  settledExecutorFee := if .settledExecutorFee ∈ columns then v.settledExecutorFee else []
  submittedTxHash := if .submittedTxHash ∈ columns then v.submittedTxHash else []
  executedTxHash := if .executedTxHash ∈ columns then v.executedTxHash else []
  cancelledTxHash := if .cancelledTxHash ∈ columns then v.cancelledTxHash else []
  lastCheckedBlock := if .lastCheckedBlock ∈ columns then v.lastCheckedBlock else 0

def OrderRow.read (columns : List Column) (row : OrderRow) : OrderRow :=
  { row with toRuntimeValues := row.toRuntimeValues.read columns }

@[simp] theorem OrderRow.read_id (columns : List Column) (row : OrderRow) :
    (row.read columns).id = row.id := rfl

namespace OrdersTable

/-- `db.Find(&orders)`. The runtime fields of `domain.Order` are no columns of its own. -/
def find (t : OrdersTable) : List OrderRow := t.rows.map (·.read [])

def hasColumn (t : OrdersTable) (column : Column) : Prop := column ∈ t.columns

instance (t : OrdersTable) (column : Column) : Decidable (t.hasColumn column) :=
  inferInstanceAs (Decidable (column ∈ t.columns))

def dropColumn (t : OrdersTable) (column : Column) : OrdersTable :=
  { t with columns := t.columns.filter (· ≠ column) }

/-- The legacy rows, to be looked up by their ids; none if no legacy column is left. -/
def loadLegacyOrderRuntimeRows (t : OrdersTable) : List OrderRow :=
  if legacyOrderRuntimeColumns.any fun column => t.hasColumn column then
    t.rows.map (·.read t.columns)
  else []

end OrdersTable

namespace RuntimeTable

def empty : RuntimeTable := ⟨[], List.nodup_nil⟩

def getByOrderId (t : RuntimeTable) (orderId : Nat) : Option OrderRuntime :=
  t.rows.find? fun runtime => runtime.orderId = orderId

/-- Inserting a row. The caller takes a duplicate of the index for done. -/
def create (t : RuntimeTable) (runtime : OrderRuntime) : RuntimeTable :=
  if h : runtime.orderId ∈ t.rows.map (·.orderId) then t
  else
    { rows := runtime :: t.rows
      orderIds_nodup := List.nodup_cons.mpr ⟨h, t.orderIds_nodup⟩ }

end RuntimeTable

/-! ## The row of an order -/

def numericStringOrZero (value : Text) : Text := if value = [] then ['0'] else value

def zeroTimeOr (value fallback : Instant) : Instant := if value = 0 then fallback else value

/-- `newOrderRuntimeSnapshot`: the row made from the order itself. -/
def newOrderRuntimeSnapshot (order : OrderRow) (now : Instant) : Option OrderRuntime :=
  if order.id = 0 then none
  else
    let createdAt := if order.createdAt = 0 then now else order.createdAt
    let updatedAt := if order.updatedAt = 0 then now else order.updatedAt
    some {
      orderId := order.id
      statusReason := order.statusReason
      estimatedGasUsed := numericStringOrZero order.estimatedGasUsed
      gasPriceAtQuote := numericStringOrZero order.gasPriceAtQuote
      feeQuoteAt := zeroTimeOr order.feeQuoteAt updatedAt
      lastRequiredExecutorFee := numericStringOrZero order.lastRequiredExecutorFee
      lastFeeCheckAt := zeroTimeOr order.lastFeeCheckAt updatedAt
      lastExecutionCheckAt := zeroTimeOr order.lastExecutionCheckAt updatedAt
      lastBlockReason := order.lastBlockReason
      settledAmountOut := numericStringOrZero order.settledAmountOut
      settledExecutorFee := numericStringOrZero order.settledExecutorFee
      submittedTxHash := order.submittedTxHash
      executedTxHash := order.executedTxHash
      cancelledTxHash := order.cancelledTxHash
      lastCheckedBlock := order.lastCheckedBlock
      createdAt := createdAt
      updatedAt := updatedAt }

/-- The assignments of `backfillOrderRuntime` for an order with a legacy row. -/
def OrderRuntime.assignLegacy (runtime : OrderRuntime) (legacy : OrderRow) : OrderRuntime :=
  { runtime with
    statusReason := legacy.statusReason
    estimatedGasUsed := numericStringOrZero legacy.estimatedGasUsed
    gasPriceAtQuote := numericStringOrZero legacy.gasPriceAtQuote
    feeQuoteAt := zeroTimeOr legacy.feeQuoteAt runtime.updatedAt
    lastRequiredExecutorFee := numericStringOrZero legacy.lastRequiredExecutorFee
    lastFeeCheckAt := zeroTimeOr legacy.lastFeeCheckAt runtime.updatedAt
    lastExecutionCheckAt := zeroTimeOr legacy.lastExecutionCheckAt runtime.updatedAt
    lastBlockReason := legacy.lastBlockReason
    settledAmountOut := numericStringOrZero legacy.settledAmountOut
    settledExecutorFee := numericStringOrZero legacy.settledExecutorFee
    submittedTxHash := legacy.submittedTxHash
    executedTxHash := legacy.executedTxHash
    cancelledTxHash := legacy.cancelledTxHash
    lastCheckedBlock := legacy.lastCheckedBlock
    createdAt := zeroTimeOr legacy.createdAt runtime.createdAt
    updatedAt := zeroTimeOr legacy.updatedAt runtime.updatedAt }

/-- The row that is to be inserted for an order. -/
def backfilled (legacyById : List OrderRow) (order : OrderRow) (now : Instant) :
    Option OrderRuntime :=
  (newOrderRuntimeSnapshot order now).map fun runtime =>
    match legacyById.find? fun legacy => legacy.id = order.id with
    | some legacy => runtime.assignLegacy legacy
    | none => runtime

/-! ## Runs -/

/-- Where a run of `AutoMigrate` stands. -/
inductive Phase
  | stopped
  | tablesCreated
  | backfilling (orders legacyById : List OrderRow)
  | dropping (columns : List Column)
  | finished
  deriving DecidableEq

structure State where
  db    : DB
  phase : Phase
  deriving DecidableEq

/-- A run takes its next step, at this time, or ends where it is: it is cut off or one of its
    statements fails. -/
inductive Op
  | next (now : Instant)
  | interrupt

/-- One order of the loop in `backfillOrderRuntime`. -/
def backfillOrder (t : RuntimeTable) (legacyById : List OrderRow) (order : OrderRow)
    (now : Instant) : RuntimeTable :=
  match t.getByOrderId order.id with
  | some _ => t
  | none =>
    match backfilled legacyById order now with
    | none => t
    | some runtime => t.create runtime

/-- The next step of the run, or the first of a new one. -/
def State.next (now : Instant) (s : State) : State :=
  match s.phase with
  | .stopped | .finished =>
    { db := s.db.withRuntime (s.db.orderRuntime.getD .empty)
      phase := .tablesCreated }
  | .tablesCreated =>
    { s with phase := .backfilling s.db.orders.find s.db.orders.loadLegacyOrderRuntimeRows }
  | .backfilling [] _ => { s with phase := .dropping legacyOrderRuntimeColumns }
  | .backfilling (order :: orders) legacyById =>
    match s.db.orderRuntime with
    | none => { s with phase := .stopped }
    | some t =>
      { db := s.db.withRuntime (backfillOrder t legacyById order now)
        phase := .backfilling orders legacyById }
  | .dropping [] => { s with phase := .finished }
  | .dropping (column :: columns) =>
    { db :=
        if s.db.orders.hasColumn column then
          { s.db with orders := s.db.orders.dropColumn column }
        else s.db
      phase := .dropping columns }

def State.exec (s : State) : Op → Except Unit State
  | .next now => .ok (s.next now)
  | .interrupt => .ok { s with phase := .stopped }

/-- A database from before the migration. -/
def State.Legacy (s : State) : Prop :=
  s.phase = .stopped ∧ ∀ t, s.db.orderRuntime = some t → t.rows = []

/-- Runs of `AutoMigrate`, each of which may be interrupted, with no other writer. -/
def autoMigrate : System State Op := System.ofCalls State.Legacy State.exec

/-- A step at one of these times. -/
def Op.At (during : Instant → Prop) : Op → Prop
  | .next now => during now
  | .interrupt => True

instance (during : Instant → Prop) [DecidablePred during] : (op : Op) → Decidable (op.At during)
  | .next now => inferInstanceAs (Decidable (during now))
  | .interrupt => .isTrue trivial

/-- A run that nothing interrupts, for a number of steps. -/
def State.run (clock : Nat → Instant) (s : State) : Nat → State
  | 0 => s
  | n + 1 => (s.next (clock 0)).run (fun i => clock (i + 1)) n

/-! ## The row that has to come out -/

/-- The row that an order has to end with: its values, where an empty number is zero, and a
    zero time the time of its update; where that is zero too, it is the time of the insertion. -/
def OrderRow.migrated (row : OrderRow) (now : Instant) : OrderRuntime where
  orderId := row.id
  statusReason := row.statusReason
  estimatedGasUsed := numericStringOrZero row.estimatedGasUsed
  gasPriceAtQuote := numericStringOrZero row.gasPriceAtQuote
  feeQuoteAt := zeroTimeOr row.feeQuoteAt (zeroTimeOr row.updatedAt now)
  lastRequiredExecutorFee := numericStringOrZero row.lastRequiredExecutorFee
  lastFeeCheckAt := zeroTimeOr row.lastFeeCheckAt (zeroTimeOr row.updatedAt now)
  lastExecutionCheckAt := zeroTimeOr row.lastExecutionCheckAt (zeroTimeOr row.updatedAt now)
  lastBlockReason := row.lastBlockReason
  settledAmountOut := numericStringOrZero row.settledAmountOut
  settledExecutorFee := numericStringOrZero row.settledExecutorFee
  submittedTxHash := row.submittedTxHash
  executedTxHash := row.executedTxHash
  cancelledTxHash := row.cancelledTxHash
  lastCheckedBlock := row.lastCheckedBlock
  createdAt := zeroTimeOr row.createdAt now
  updatedAt := zeroTimeOr row.updatedAt now

@[simp] theorem OrderRow.migrated_orderId (row : OrderRow) (now : Instant) :
    (row.migrated now).orderId = row.id := rfl

theorem zeroTimeOr_zeroTimeOr (value fallback : Instant) :
    zeroTimeOr value (zeroTimeOr value fallback) = zeroTimeOr value fallback := by
  unfold zeroTimeOr
  split_ifs <;> rfl

theorem newOrderRuntimeSnapshot_eq {order : OrderRow} (hid : order.id ≠ 0) (now : Instant) :
    newOrderRuntimeSnapshot order now = some (order.migrated now) := by
  rw [newOrderRuntimeSnapshot, if_neg hid]
  rfl

theorem newOrderRuntimeSnapshot_zero {order : OrderRow} (hid : order.id = 0) (now : Instant) :
    newOrderRuntimeSnapshot order now = none := if_pos hid

/-- The assignments replace all that was taken from the order but its times. -/
theorem assignLegacy_migrated {order legacy : OrderRow} (hid : legacy.id = order.id)
    (hcreated : legacy.createdAt = order.createdAt) (hupdated : legacy.updatedAt = order.updatedAt)
    (now : Instant) : (order.migrated now).assignLegacy legacy = legacy.migrated now := by
  unfold OrderRuntime.assignLegacy OrderRow.migrated
  rw [hid, hcreated, hupdated, zeroTimeOr_zeroTimeOr, zeroTimeOr_zeroTimeOr]

theorem mem_legacyOrderRuntimeColumns (column : Column) : column ∈ legacyOrderRuntimeColumns := by
  cases column <;> decide

/-- With the legacy columns as they were, the loop inserts the row that an order has to end
    with, whichever of the columns the table has. -/
theorem backfilled_eq {t : OrdersTable} {row : OrderRow} (hrow : row ∈ t.rows) (hid : row.id ≠ 0)
    (now : Instant) : backfilled t.loadLegacyOrderRuntimeRows (row.read []) now =
      some ((row.read t.columns).migrated now) := by
  rw [backfilled, newOrderRuntimeSnapshot_eq (show (row.read []).id ≠ 0 from hid), Option.map_some]
  by_cases hany : legacyOrderRuntimeColumns.any fun column => t.hasColumn column
  · have hfound : t.loadLegacyOrderRuntimeRows.find? (fun legacy => legacy.id = (row.read []).id) =
        some (row.read t.columns) := by
      rw [OrdersTable.loadLegacyOrderRuntimeRows, if_pos hany, List.find?_map]
      exact congrArg _ (Selection.find?_of_mem t.ids_nodup hrow)
    rw [hfound]
    exact congrArg some (assignLegacy_migrated rfl rfl rfl now)
  · have hcolumns : t.columns = [] := by
      rw [List.eq_nil_iff_forall_not_mem]
      intro column hcolumn
      exact hany (List.any_eq_true.mpr
        ⟨column, mem_legacyOrderRuntimeColumns column, decide_eq_true hcolumn⟩)
    rw [OrdersTable.loadLegacyOrderRuntimeRows, if_neg hany, hcolumns]
    rfl

/-! ## What has been moved -/

namespace DB

def runtimeRows (db : DB) : List OrderRuntime := (db.orderRuntime.map RuntimeTable.rows).getD []

@[simp] theorem runtimeRows_withRuntime (db : DB) (t : RuntimeTable) :
    (db.withRuntime t).runtimeRows = t.rows := rfl

/-- The rows that an order has in `order_runtime`. -/
def runtimeRowsOf (db : DB) (orderId : Nat) : List OrderRuntime :=
  db.runtimeRows.filter fun runtime => runtime.orderId = orderId

/-- An order has a row. -/
def HasRuntime (db : DB) (orderId : Nat) : Prop :=
  ∃ runtime ∈ db.runtimeRows, runtime.orderId = orderId

/-- Every order that can have a row has one. -/
def Moved (db : DB) : Prop := ∀ row ∈ db.orders.rows, row.id ≠ 0 → db.HasRuntime row.id

variable {db db' : DB}

theorem HasRuntime.mono (hsub : db.runtimeRows ⊆ db'.runtimeRows) {orderId : Nat}
    (h : db.HasRuntime orderId) : db'.HasRuntime orderId := by
  obtain ⟨runtime, hmem, hid⟩ := h
  exact ⟨runtime, hsub hmem, hid⟩

theorem Moved.mono (h : db.Moved) (hrows : db'.orders.rows = db.orders.rows)
    (hsub : db.runtimeRows ⊆ db'.runtimeRows) : db'.Moved := by
  intro row hrow hid
  rw [hrows] at hrow
  exact (h row hrow hid).mono hsub

/-- More rows of the runtime. -/
theorem Moved.withRuntime {t : RuntimeTable} (hsub : db.runtimeRows ⊆ t.rows) (h : db.Moved) :
    (db.withRuntime t).Moved := h.mono rfl hsub

theorem runtimeRows_nodup (db : DB) : (db.runtimeRows.map (·.orderId)).Nodup := by
  unfold runtimeRows
  cases db.orderRuntime with
  | none => exact List.nodup_nil
  | some t => exact t.orderIds_nodup

end DB

/-! ## One order -/

section BackfillOrder

variable {t : RuntimeTable} {legacyById : List OrderRow} {order : OrderRow} {now : Instant}
  {runtime r : OrderRuntime}

theorem RuntimeTable.mem_create_iff :
    runtime ∈ (t.create r).rows ↔ runtime ∈ t.rows ∨
      r.orderId ∉ t.rows.map (·.orderId) ∧ runtime = r := by
  unfold RuntimeTable.create
  split <;> rename_i h
  · simp [h]
  · rw [List.mem_cons]
    exact ⟨fun h' => h'.elim (fun h' => .inr ⟨h, h'⟩) .inl,
      fun h' => h'.elim .inr fun h' => .inl h'.2⟩

/-- An order that has a row, or can have none, is passed over. -/
theorem backfillOrder_eq_self
    (h : order.id = 0 ∨ ∃ runtime ∈ t.rows, runtime.orderId = order.id) :
    backfillOrder t legacyById order now = t := by
  unfold backfillOrder
  rcases h with hid | ⟨runtime, hmem, hid⟩
  · split
    · rfl
    · rw [backfilled, newOrderRuntimeSnapshot_zero hid]
      rfl
  · have hfound : (t.getByOrderId order.id).isSome :=
      List.find?_isSome.mpr ⟨runtime, hmem, decide_eq_true hid⟩
    obtain ⟨_, hget⟩ := Option.isSome_iff_exists.mp hfound
    rw [hget]

/-- An order without a row gets the one made for it. -/
theorem mem_backfillOrder_iff (hnone : ∀ runtime ∈ t.rows, runtime.orderId ≠ order.id)
    (hrow : backfilled legacyById order now = some r) (hid : r.orderId = order.id) :
    runtime ∈ (backfillOrder t legacyById order now).rows ↔ runtime ∈ t.rows ∨ runtime = r := by
  have hget : t.getByOrderId order.id = none :=
    List.find?_eq_none.mpr fun runtime hmem => by simpa using hnone runtime hmem
  have hfresh : r.orderId ∉ t.rows.map (·.orderId) := by
    intro hmem
    obtain ⟨runtime, hmem, hsame⟩ := List.mem_map.mp hmem
    exact hnone runtime hmem (hsame.trans hid)
  rw [backfillOrder, hget]
  simp only [hrow]
  rw [RuntimeTable.mem_create_iff]
  exact or_congr_right (and_iff_right hfresh)

end BackfillOrder

/-! ## What every step keeps -/

/-- What a phase rests on, of the table that the first run found. -/
def PhaseOk (t₀ : OrdersTable) (db : DB) : Phase → Prop
  | .stopped => True
  | .tablesCreated => db.orderRuntime.isSome
  | .backfilling orders legacyById =>
    db.orderRuntime.isSome ∧ (legacyById = t₀.loadLegacyOrderRuntimeRows ∨ db.Moved) ∧
      (∀ order ∈ orders, ∃ row ∈ t₀.rows, order = row.read []) ∧
      ∀ row ∈ t₀.rows, row.id ≠ 0 → db.HasRuntime row.id ∨ row.read [] ∈ orders
  | .dropping columns =>
    db.orderRuntime.isSome ∧ db.Moved ∧ ∀ column ∈ db.orders.columns, column ∈ columns
  | .finished => db.orderRuntime.isSome ∧ db.Moved ∧ db.orders.columns = []

/-- The migration of a table at any point: as long as an order lacks its row, the columns are
    all there, and every row is the one that its order has to end with. -/
structure Migrating (t₀ : OrdersTable) (during : Instant → Prop) (s : State) : Prop where
  rows : s.db.orders.rows = t₀.rows
  kept : s.db.orders = t₀ ∨ s.db.Moved
  entries : ∀ runtime ∈ s.db.runtimeRows, ∃ row ∈ t₀.rows, row.id ≠ 0 ∧
    ∃ now, during now ∧ runtime = (row.read t₀.columns).migrated now
  phase : PhaseOk t₀ s.db s.phase

section Steps

variable {t₀ : OrdersTable} {during : Instant → Prop} {s s' : State} {now : Instant} {op : Op}

theorem State.Legacy.migrating (h : s.Legacy) : Migrating s.db.orders during s where
  rows := rfl
  kept := .inl rfl
  entries := by
    intro runtime hmem
    unfold DB.runtimeRows at hmem
    cases ht : s.db.orderRuntime with
    | none =>
      rw [ht] at hmem
      cases hmem
    | some t =>
      rw [ht, Option.map_some, Option.getD_some, h.2 t ht] at hmem
      cases hmem
  phase := by
    rw [h.1]
    trivial

/-- A step that only goes on to another phase. -/
theorem Migrating.withPhase (h : Migrating t₀ during s) {phase : Phase}
    (hphase : PhaseOk t₀ s.db phase) : Migrating t₀ during { s with phase := phase } :=
  ⟨h.rows, h.kept, h.entries, hphase⟩

/-- The table of the rows is created, or found. -/
theorem Migrating.created (h : Migrating t₀ during s) : Migrating t₀ during
    { db := s.db.withRuntime (s.db.orderRuntime.getD .empty)
      phase := .tablesCreated } := by
  have hsame : (s.db.withRuntime (s.db.orderRuntime.getD .empty)).runtimeRows =
      s.db.runtimeRows := by
    unfold DB.runtimeRows
    cases s.db.orderRuntime <;> rfl
  have hsub : s.db.runtimeRows ⊆
      (s.db.withRuntime (s.db.orderRuntime.getD .empty)).runtimeRows := by
    rw [hsame]
    exact List.Subset.refl _
  refine ⟨h.rows, h.kept.imp_right (DB.Moved.withRuntime hsub), ?_, rfl⟩
  rw [hsame]
  exact h.entries

/-- The loop begins with every order, and with the legacy rows as the columns are. -/
theorem Migrating.loaded (h : Migrating t₀ during s) (hsome : s.db.orderRuntime.isSome) :
    PhaseOk t₀ s.db
      (.backfilling s.db.orders.find s.db.orders.loadLegacyOrderRuntimeRows) := by
  unfold OrdersTable.find
  rw [h.rows]
  refine ⟨hsome, h.kept.imp_left fun hsame => by rw [hsame], ?_, ?_⟩
  · intro order horder
    obtain ⟨row, hrow, rfl⟩ := List.mem_map.mp horder
    exact ⟨row, hrow, rfl⟩
  · intro row hrow _
    exact .inr (List.mem_map_of_mem hrow)

/-- What an order of the loop does to the rows: nothing if it has a row or can have none, and
    otherwise it gets the row that it has to end with. -/
theorem mem_backfillOrder_or (h : Migrating t₀ during s) {t : RuntimeTable}
    (ht : s.db.orderRuntime = some t) {legacyById : List OrderRow}
    (hlegacy : legacyById = t₀.loadLegacyOrderRuntimeRows ∨ s.db.Moved) {row : OrderRow}
    (hrow : row ∈ t₀.rows) (now : Instant) :
    backfillOrder t legacyById (row.read []) now = t ∧ (row.id ≠ 0 → s.db.HasRuntime row.id) ∨
      row.id ≠ 0 ∧ ∀ runtime, runtime ∈ (backfillOrder t legacyById (row.read []) now).rows ↔
        runtime ∈ t.rows ∨ runtime = (row.read t₀.columns).migrated now := by
  have hrows : s.db.runtimeRows = t.rows := by
    rw [DB.runtimeRows, ht]
    rfl
  by_cases hid : row.id = 0
  · exact .inl ⟨backfillOrder_eq_self (.inl hid), fun hne => absurd hid hne⟩
  by_cases hhas : s.db.HasRuntime row.id
  · have hfound := hhas
    unfold DB.HasRuntime at hfound
    rw [hrows] at hfound
    exact .inl ⟨backfillOrder_eq_self (.inr hfound), fun _ => hhas⟩
  · have hloaded : legacyById = t₀.loadLegacyOrderRuntimeRows :=
      hlegacy.resolve_right fun hmoved => hhas (hmoved row (h.rows ▸ hrow) hid)
    refine .inr ⟨hid, fun runtime => mem_backfillOrder_iff ?_ (hloaded ▸ backfilled_eq hrow hid now)
      rfl⟩
    intro runtime hmem hsame
    exact hhas ⟨runtime, hrows ▸ hmem, hsame⟩

/-- A step of the loop. -/
theorem Migrating.backfilled (h : Migrating t₀ during s) {order : OrderRow}
    {orders legacyById : List OrderRow}
    (hphase : PhaseOk t₀ s.db (.backfilling (order :: orders) legacyById)) {t : RuntimeTable}
    (ht : s.db.orderRuntime = some t) (hnow : during now) :
    Migrating t₀ during
      { db := s.db.withRuntime (backfillOrder t legacyById order now)
        phase := .backfilling orders legacyById } := by
  obtain ⟨_, hlegacy, hreads, hrest⟩ := hphase
  obtain ⟨row, hrow, rfl⟩ := hreads order List.mem_cons_self
  have hrows : s.db.runtimeRows = t.rows := by
    rw [DB.runtimeRows, ht]
    rfl
  have hcases := mem_backfillOrder_or h ht hlegacy hrow now
  have hsub : s.db.runtimeRows ⊆
      (s.db.withRuntime (backfillOrder t legacyById (row.read []) now)).runtimeRows := by
    intro runtime hmem
    rw [hrows] at hmem
    rw [DB.runtimeRows_withRuntime]
    rcases hcases with ⟨hsame, _⟩ | ⟨_, hmem_iff⟩
    · rwa [hsame]
    · exact (hmem_iff runtime).mpr (.inl hmem)
  -- either way the order has its row afterwards, unless its id is zero
  have hhas : row.id ≠ 0 →
      (s.db.withRuntime (backfillOrder t legacyById (row.read []) now)).HasRuntime row.id := by
    intro hid
    rcases hcases with ⟨_, hhas⟩ | ⟨_, hmem_iff⟩
    · exact (hhas hid).mono hsub
    · exact ⟨_, (hmem_iff _).mpr (.inr rfl), rfl⟩
  refine ⟨h.rows, h.kept.imp_right (DB.Moved.withRuntime hsub), ?_, rfl,
    hlegacy.imp_right (DB.Moved.withRuntime hsub), fun order horder =>
      hreads order (List.mem_cons_of_mem _ horder), ?_⟩
  · intro runtime hmem
    rcases hcases with ⟨hsame, _⟩ | ⟨hid, hmem_iff⟩
    · rw [DB.runtimeRows_withRuntime, hsame, ← hrows] at hmem
      exact h.entries runtime hmem
    · rcases (hmem_iff runtime).mp hmem with hmem | rfl
      · exact h.entries runtime (hrows ▸ hmem)
      · exact ⟨row, hrow, hid, now, hnow, rfl⟩
  · intro row' hrow' hid'
    rcases hrest row' hrow' hid' with hold | hmem
    · exact .inl (hold.mono hsub)
    rcases List.mem_cons.mp hmem with hsame | hmem
    · have hidEq : (row'.read []).id = (row.read []).id := congrArg OrderRow.id hsame
      rw [OrderRow.read_id, OrderRow.read_id] at hidEq
      rw [hidEq] at hid' ⊢
      exact .inl (hhas hid')
    · exact .inr hmem

/-- A column may go once every order has its row. -/
theorem Migrating.dropped (h : Migrating t₀ during s) {column : Column} {columns : List Column}
    (hphase : PhaseOk t₀ s.db (.dropping (column :: columns))) :
    Migrating t₀ during
      { db := { s.db with orders := s.db.orders.dropColumn column }
        phase := .dropping columns } := by
  obtain ⟨hsome, hmoved, hcolumns⟩ := hphase
  refine ⟨h.rows, .inr hmoved, h.entries, hsome, hmoved, ?_⟩
  intro column' hmem
  obtain ⟨hmem, hne⟩ := List.mem_filter.mp hmem
  exact (List.mem_cons.mp (hcolumns column' hmem)).resolve_left (of_decide_eq_true hne)

theorem PhaseOk.skipped {db : DB} {column : Column} {columns : List Column}
    (hphase : PhaseOk t₀ db (.dropping (column :: columns))) (habsent : ¬ db.orders.hasColumn column) :
    PhaseOk t₀ db (.dropping columns) := by
  obtain ⟨hsome, hmoved, hcolumns⟩ := hphase
  refine ⟨hsome, hmoved, ?_⟩
  intro column' hmem
  refine (List.mem_cons.mp (hcolumns column' hmem)).resolve_left ?_
  rintro rfl
  exact habsent hmem

/-- The loop ends with a row for every order. -/
theorem Migrating.looped (h : Migrating t₀ during s) {legacyById : List OrderRow}
    (hphase : PhaseOk t₀ s.db (.backfilling [] legacyById)) :
    PhaseOk t₀ s.db (.dropping legacyOrderRuntimeColumns) := by
  obtain ⟨hsome, _, _, hrest⟩ := hphase
  refine ⟨hsome, ?_, fun column _ => mem_legacyOrderRuntimeColumns column⟩
  intro row hrow hid
  rw [h.rows] at hrow
  exact (hrest row hrow hid).resolve_right List.not_mem_nil

theorem Migrating.next (h : Migrating t₀ during s) (hnow : during now) :
    Migrating t₀ during (s.next now) := by
  have hphase := h.phase
  unfold State.next
  cases hs : s.phase with
  | stopped | finished => exact h.created
  | tablesCreated =>
    rw [hs] at hphase
    exact h.withPhase (h.loaded hphase)
  | backfilling orders legacyById =>
    rw [hs] at hphase
    cases orders with
    | nil => exact h.withPhase (h.looped hphase)
    | cons order orders =>
      obtain ⟨t, ht⟩ := Option.isSome_iff_exists.mp hphase.1
      simp only [ht]
      exact h.backfilled hphase ht hnow
  | dropping columns =>
    rw [hs] at hphase
    cases columns with
    | nil =>
      obtain ⟨hsome, hmoved, hcolumns⟩ := hphase
      exact h.withPhase ⟨hsome, hmoved, List.eq_nil_iff_forall_not_mem.mpr fun column hmem =>
        List.not_mem_nil (hcolumns column hmem)⟩
    | cons column columns =>
      simp only
      split
      · exact h.dropped hphase
      · exact h.withPhase (hphase.skipped ‹_›)

theorem Migrating.exec (h : Migrating t₀ during s) (hop : op.At during)
    (hexec : s.exec op = .ok s') : Migrating t₀ during s' := by
  cases op with
  | next now =>
    cases hexec
    exact h.next hop
  | interrupt =>
    cases hexec
    exact h.withPhase trivial

/-- Once all is moved and no column is left, no step changes the database. -/
theorem Migrating.exec_db (h : Migrating t₀ during s) (hsome : s.db.orderRuntime.isSome)
    (hmoved : s.db.Moved) (hcolumns : s.db.orders.columns = []) (hexec : s.exec op = .ok s') :
    s'.db = s.db := by
  obtain ⟨t, ht⟩ := Option.isSome_iff_exists.mp hsome
  cases op with
  | interrupt =>
    cases hexec
    rfl
  | next now =>
    cases hexec
    have hphase := h.phase
    have hfound : s.db.withRuntime t = s.db := by rw [DB.withRuntime, ← ht]
    unfold State.next
    cases hs : s.phase with
    | stopped | finished =>
      simp only [ht, Option.getD_some]
      exact hfound
    | tablesCreated => rfl
    | backfilling orders legacyById =>
      rw [hs] at hphase
      cases orders with
      | nil => rfl
      | cons order orders =>
        obtain ⟨row, hrow, rfl⟩ := hphase.2.2.1 order List.mem_cons_self
        -- an order that has its row is left alone
        have hself : backfillOrder t legacyById (row.read []) now = t := by
          refine backfillOrder_eq_self (or_iff_not_imp_left.mpr fun hid => ?_)
          have hhas := hmoved row (h.rows ▸ hrow) hid
          unfold DB.HasRuntime DB.runtimeRows at hhas
          rw [ht] at hhas
          exact hhas
        simp only [ht, hself]
        exact hfound
    | dropping columns =>
      cases columns with
      | nil => rfl
      | cons column columns =>
        -- and there is no column to drop
        have habsent : ¬ s.db.orders.hasColumn column := by
          unfold OrdersTable.hasColumn
          rw [hcolumns]
          exact List.not_mem_nil
        simp only [if_neg habsent]

/-- Every state that a legacy database leads to, at the given times. -/
theorem migrating_of_leadsTo {s₀ : State} (hlegacy : s₀.Legacy)
    (h : autoMigrate.LeadsTo (fun _ op => op.At during) s₀ s) :
    Migrating s₀.db.orders during s :=
  h.preserves hlegacy.migrating fun _ _ _ hs hop hexec => hs.exec hop hexec

/-- The steps that a run has before it, if nothing interrupts it. -/
def State.stepsLeft (s : State) : Nat :=
  match s.phase with
  | .stopped => s.db.orders.rows.length + 18
  | .tablesCreated => s.db.orders.rows.length + 17
  | .backfilling orders _ => orders.length + 16
  | .dropping columns => columns.length + 1
  | .finished => 0

theorem Migrating.stepsLeft_next (h : Migrating t₀ during s) (now : Instant)
    (hrunning : s.phase ≠ .finished) :
    (s.next now).stepsLeft < s.stepsLeft := by
  have hphase := h.phase
  unfold State.next State.stepsLeft
  cases hs : s.phase with
  | finished => exact absurd hs hrunning
  | stopped => exact Nat.lt_succ_self _
  | tablesCreated =>
    simp only [OrdersTable.find, List.length_map]
    exact Nat.lt_succ_self _
  | backfilling orders legacyById =>
    rw [hs] at hphase
    cases orders with
    | nil => exact Nat.lt_succ_self 15
    | cons order orders =>
      obtain ⟨t, ht⟩ := Option.isSome_iff_exists.mp hphase.1
      simp only [ht, List.length_cons]
      omega
  | dropping columns =>
    cases columns with
    | nil => exact Nat.zero_lt_one
    | cons column columns => exact Nat.lt_succ_self _

/-- A run that nothing interrupts comes to its end. -/
theorem Migrating.run_finishes (clock : Nat → Instant) (h : Migrating t₀ (fun _ => True) s) :
    ∃ n, (s.run clock n).phase = .finished := by
  induction hleft : s.stepsLeft using Nat.strong_induction_on generalizing s clock with
  | _ left ih =>
    by_cases hfinished : s.phase = .finished
    · exact ⟨0, hfinished⟩
    · have hless := h.stepsLeft_next (clock 0) hfinished
      rw [hleft] at hless
      obtain ⟨n, hn⟩ := ih _ hless (fun i => clock (i + 1)) (h.next trivial) rfl
      exact ⟨n + 1, hn⟩

end Steps

/-! ## The whole migration -/

/-- The database holds the migration of a table: its orders without the columns, and in the other
    table one row for every order with an id, and no rows besides. -/
structure DB.MigratedFrom (t₀ : OrdersTable) (during : Instant → Prop) (db : DB) : Prop where
  orders : db.orders.rows = t₀.rows
  columns : db.orders.columns = []
  moved : ∀ row ∈ t₀.rows, row.id ≠ 0 →
    ∃ now, during now ∧ db.runtimeRowsOf row.id = [(row.read t₀.columns).migrated now]
  nothingElse : ∀ runtime ∈ db.runtimeRows, ∃ row ∈ t₀.rows, row.id ≠ 0 ∧ row.id = runtime.orderId

theorem Migrating.migratedFrom {t₀ : OrdersTable} {during : Instant → Prop} {s : State}
    (h : Migrating t₀ during s) (hfinished : s.phase = .finished) :
    s.db.MigratedFrom t₀ during := by
  obtain ⟨_, hmoved, hcolumns⟩ : PhaseOk t₀ s.db .finished := hfinished ▸ h.phase
  refine ⟨h.rows, hcolumns, ?_, ?_⟩
  · intro row hrow hid
    obtain ⟨runtime, hmem, hsame⟩ := hmoved row (h.rows ▸ hrow) hid
    obtain ⟨row', hrow', _, now, hnow, rfl⟩ := h.entries runtime hmem
    obtain rfl : row' = row := List.inj_on_of_nodup_map t₀.ids_nodup hrow' hrow hsame
    exact ⟨now, hnow, Selection.filter_of_mem s.db.runtimeRows_nodup hmem⟩
  · intro runtime hmem
    obtain ⟨row, hrow, hid, now, _, rfl⟩ := h.entries runtime hmem
    exact ⟨row, hrow, hid, rfl⟩

/-- Wherever runs were interrupted, a complete one ends with all of the table migrated, and no
    later run changes it. -/
theorem autoMigrate_lossless {during : Instant → Prop} {s₀ s : State} (hlegacy : s₀.Legacy)
    (h : autoMigrate.LeadsTo (fun _ op => op.At during) s₀ s) :
    (∀ clock, ∃ n, (s.run clock n).phase = .finished) ∧
      (s.phase = .finished → s.db.MigratedFrom s₀.db.orders during ∧
        ∀ s', autoMigrate.LeadsTo (fun _ _ => True) s s' → s'.db = s.db) := by
  have hany : Migrating s₀.db.orders (fun _ => True) s :=
    migrating_of_leadsTo hlegacy (h.mono fun _ op _ => by cases op <;> trivial)
  refine ⟨fun clock => hany.run_finishes clock, fun hfinished =>
    ⟨(migrating_of_leadsTo hlegacy h).migratedFrom hfinished, ?_⟩⟩
  obtain ⟨hsome, hmoved, hcolumns⟩ : PhaseOk s₀.db.orders s.db .finished := hfinished ▸ hany.phase
  intro s' hlater
  have hkept : Migrating s₀.db.orders (fun _ => True) s' ∧ s'.db = s.db := by
    refine System.LeadsTo.preserves (I := fun x => Migrating s₀.db.orders _ x ∧ x.db = s.db)
      hlater ⟨hany, rfl⟩ ?_
    rintro x op x' ⟨hx, hdb⟩ _ hexec
    refine ⟨hx.exec (by cases op <;> trivial) hexec, ?_⟩
    rw [hx.exec_db (hdb ▸ hsome) (hdb ▸ hmoved) (hdb ▸ hcolumns) hexec, hdb]
  exact hkept.2

/-! ## Two orders -/

namespace Example

/-- An order from before the migration, with a gas estimate and a time of its last check. -/
def order : OrderRow where
  id := 1
  statusReason := "fee".toList
  estimatedGasUsed := ['9']
  lastFeeCheckAt := 40
  createdAt := 30
  updatedAt := 50

/-- A database before the migration. -/
def legacy (orders : List OrderRow) (h : (orders.map (·.id)).Nodup) : State :=
  ⟨⟨⟨orders, legacyOrderRuntimeColumns, h⟩, none⟩, .stopped⟩

theorem legacy_legacy (orders : List OrderRow) (h : (orders.map (·.id)).Nodup) :
    (legacy orders h).Legacy := ⟨rfl, nofun⟩

/-- A run over one order, from its beginning to its end. -/
def complete (now : Instant) : List Op := List.replicate 19 (.next now)

end Example

open Example in
/-- A run is cut off after it has inserted the row, and one after it has dropped two columns. -/
theorem autoMigrate_lossless_interrupted : ∃ s, s.phase = .finished ∧
    s.db.runtimeRowsOf 1 = [(order.read legacyOrderRuntimeColumns).migrated 60] ∧
    (∀ clock, ∃ n, (s.run clock n).phase = .finished) ∧
    s.db.MigratedFrom (legacy [order] (List.nodup_singleton _)).db.orders (fun now => 60 ≤ now) ∧
    ∀ s', autoMigrate.LeadsTo (fun _ _ => True) s s' → s'.db = s.db := by
  have hrun : (System.runWith State.exec (fun _ op => op.At fun now => 60 ≤ now)
      (legacy [order] (List.nodup_singleton _))
      (List.replicate 3 (.next 60) ++ [.interrupt] ++ List.replicate 6 (.next 70) ++
        [.interrupt] ++ complete 80)).map (fun s => (s.phase, s.db.runtimeRowsOf 1)) =
      some (.finished, [(order.read legacyOrderRuntimeColumns).migrated 60]) := by
    decide +kernel
  obtain ⟨s, hs, hsummary⟩ := Option.map_eq_some_iff.mp hrun
  obtain ⟨hfinished, hrows⟩ := Prod.mk.inj hsummary
  obtain ⟨hends, hdone⟩ := autoMigrate_lossless (legacy_legacy [order] (List.nodup_singleton _))
    (System.reachableWith_of_runWith (.init rfl) hs)
  exact ⟨s, hfinished, hrows, hends, hdone hfinished⟩

open Example in
/-- An order without an update time gets the time of the run, not that of its update, and an order
    with the id zero gets no row. -/
theorem not_autoMigrate_lossless_zero :
    ∃ s, autoMigrate.LeadsTo (fun _ _ => True)
        (legacy [{ order with updatedAt := 0 }, { order with id := 0 }] (by decide)) s ∧
      s.phase = .finished ∧ s.db.runtimeRowsOf 0 = [] ∧
      (s.db.runtimeRowsOf 1).map (fun runtime => (runtime.feeQuoteAt, runtime.updatedAt)) =
        [(60, 60)] ∧
      ¬ ∃ runtime, s.db.runtimeRowsOf 1 = [runtime] ∧ runtime.feeQuoteAt = 0 := by
  have hrun : (System.runWith State.exec (fun _ _ => True)
      (legacy [{ order with updatedAt := 0 }, { order with id := 0 }] (by decide))
      (.next 60 :: complete 60)).map (fun s =>
        (s.phase, s.db.runtimeRowsOf 0, (s.db.runtimeRowsOf 1).map fun runtime =>
          (runtime.feeQuoteAt, runtime.updatedAt))) =
      some (.finished, [], [(60, 60)]) := by
    decide +kernel
  obtain ⟨s, hs, hsummary⟩ := Option.map_eq_some_iff.mp hrun
  obtain ⟨hfinished, hrest⟩ := Prod.mk.inj hsummary
  obtain ⟨hnone, hone⟩ := Prod.mk.inj hrest
  refine ⟨s, System.reachableWith_of_runWith (.init rfl) hs, hfinished, hnone, hone, ?_⟩
  rintro ⟨runtime, hrow, hzero⟩
  rw [hrow, List.map_singleton, hzero] at hone
  cases hone

end Migration
