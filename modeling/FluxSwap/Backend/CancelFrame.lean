-- SUMMARY: The frame of `CancelOrders`: which rows a batch may change, and that its results tell which it did.
import FluxSwap.Backend.Cancellation

/-!
# The frame of CancelOrders

Two results of a batch can have the same key, and then the second one is a duplicate. So the first
result with the key of a target belongs to the target itself, and it is the only one that its
transaction writes to.
-/

namespace Backend

open Text

/-! ## Keys -/

def RowKey.batchKey (key : RowKey) : Text :=
  buildBatchOrderKey key.chainID key.settlementAddress key.orderHash

/-- The row that an item names. -/
def CancelOrderItem.key (item : CancelOrderItem) : RowKey :=
  rowKey item.chainId item.settlementAddress item.orderHash

/-- The row that a result is about. -/
def CancelOrdersResult.key (result : CancelOrdersResult) : RowKey :=
  ⟨result.chainId, result.settlementAddress, result.orderHash⟩

theorem rowKey_eq (chainID : Int) (settlementAddress orderHash : Text) :
    rowKey chainID settlementAddress orderHash =
      ⟨chainID, normalize settlementAddress, normalize orderHash⟩ := rfl

theorem batchKey_rowKey (chainID : Int) (settlementAddress orderHash : Text) :
    (rowKey chainID settlementAddress orderHash).batchKey =
      buildBatchOrderKey chainID settlementAddress orderHash := by
  unfold RowKey.batchKey buildBatchOrderKey normalizeAddress normalizeHash
  rw [rowKey_eq, normalize_normalize, normalize_normalize]

theorem CancelOrdersResult.batchKey_eq (result : CancelOrdersResult) :
    result.batchKey = result.key.batchKey := rfl

theorem OrderRecord.batchKey_eq (order : OrderRecord) : order.batchKey = order.key.batchKey := rfl

theorem CancelOrderItem.batchKey_eq (item : CancelOrderItem) :
    item.batchKey = item.key.batchKey := (batchKey_rowKey _ _ _).symm

/-- The order has the columns that a query for them is made with. -/
def OrderRecord.Normal (order : OrderRecord) : Prop :=
  rowKey order.chainID order.settlementAddress order.orderHash = order.key

theorem OrderRecord.normal_of_key {order : OrderRecord} {item : CancelOrderItem}
    (h : item.key = order.key) : order.Normal := by
  rw [CancelOrderItem.key, rowKey_eq] at h
  obtain ⟨-, haddress, hhash⟩ := RowKey.mk.inj h
  rw [OrderRecord.Normal, rowKey_eq, ← haddress, ← hhash, normalize_normalize,
    normalize_normalize, haddress, hhash]
  rfl

/-! ## Results -/

section Results

variable {results : List CancelOrdersResult} {result result' : CancelOrdersResult} {key key' : Text}
  {set : CancelOrdersResult → CancelOrdersResult}

/-- Writing to a result leaves what it is about. -/
def KeepsKey (set : CancelOrdersResult → CancelOrdersResult) : Prop :=
  ∀ result, (set result).key = result.key

theorem KeepsKey.batchKey (h : KeepsKey set) (result : CancelOrdersResult) :
    (set result).batchKey = result.batchKey := congrArg RowKey.batchKey (h result)

theorem find_setCancelResult (hset : KeepsKey set)
    (h : findCancelResultByKey results key = some result) :
    findCancelResultByKey (setCancelResult key set results) key = some (set result) := by
  induction results with
  | nil => cases h
  | cons first results ih =>
    unfold findCancelResultByKey at h ih ⊢
    by_cases hfirst : first.batchKey = key
    · rw [List.find?_cons_of_pos (by simpa using hfirst)] at h
      obtain rfl := Option.some.inj h
      rw [setCancelResult, if_pos hfirst,
        List.find?_cons_of_pos (by simpa [hset.batchKey] using hfirst)]
    · rw [List.find?_cons_of_neg (by simpa using hfirst)] at h
      rw [setCancelResult, if_neg hfirst, List.find?_cons_of_neg (by simpa using hfirst)]
      exact ih h

theorem find_setCancelResult_ne (hset : KeepsKey set) (hkey : key' ≠ key) :
    findCancelResultByKey (setCancelResult key set results) key' =
      findCancelResultByKey results key' := by
  induction results with
  | nil => rfl
  | cons first results ih =>
    unfold findCancelResultByKey at ih ⊢
    by_cases hfirst : first.batchKey = key
    · have hother : first.batchKey ≠ key' := fun h => hkey (h.symm.trans hfirst)
      rw [setCancelResult, if_pos hfirst,
        List.find?_cons_of_neg (by simpa [hset.batchKey] using hother),
        List.find?_cons_of_neg (by simpa using hother)]
    · rw [setCancelResult, if_neg hfirst, List.find?_cons, List.find?_cons, ih]

/-- The number of the cancelled results goes up if the result was not cancelled before. -/
theorem countP_setCancelResult (h : findCancelResultByKey results key = some result)
    (hcancelled : result.cancelled = false) :
    (setCancelResult key set results).countP (·.cancelled) =
      results.countP (·.cancelled) + (set result).cancelled.toNat := by
  induction results with
  | nil => cases h
  | cons first results ih =>
    unfold findCancelResultByKey at h ih
    by_cases hfirst : first.batchKey = key
    · rw [List.find?_cons_of_pos (by simpa using hfirst)] at h
      obtain rfl := Option.some.inj h
      rw [setCancelResult, if_pos hfirst, List.countP_cons, List.countP_cons, hcancelled]
      cases (set first).cancelled <;> rfl
    · rw [List.find?_cons_of_neg (by simpa using hfirst)] at h
      rw [setCancelResult, if_neg hfirst, List.countP_cons, List.countP_cons, ih h]
      omega

theorem mem_setCancelResult (h : result' ∈ setCancelResult key set results) :
    result' ∈ results ∨
      ∃ result, findCancelResultByKey results key = some result ∧ result' = set result := by
  induction results with
  | nil => cases h
  | cons first results ih =>
    unfold findCancelResultByKey at ih ⊢
    by_cases hfirst : first.batchKey = key
    · rw [setCancelResult, if_pos hfirst] at h
      rcases List.mem_cons.mp h with rfl | h
      · exact .inr ⟨first, List.find?_cons_of_pos (by simpa using hfirst), rfl⟩
      · exact .inl (List.mem_cons_of_mem _ h)
    · rw [setCancelResult, if_neg hfirst] at h
      rw [List.find?_cons_of_neg (by simpa using hfirst)]
      rcases List.mem_cons.mp h with rfl | h
      · exact .inl List.mem_cons_self
      · exact (ih h).imp_left (List.mem_cons_of_mem _)

/-- Every item has its result, in the same order. -/
def ResultsOf (items : List CancelOrderItem) (results : List CancelOrdersResult) : Prop :=
  List.Forall₂ (fun item result => result.key = item.key) items results

variable {items : List CancelOrderItem}

theorem ResultsOf.setResult (hset : KeepsKey set) (h : ResultsOf items results) :
    ResultsOf items (setCancelResult key set results) := by
  induction h with
  | nil => exact .nil
  | cons hfirst hrest ih =>
    unfold setCancelResult
    split
    · exact .cons ((hset _).trans hfirst) hrest
    · exact .cons hfirst ih

theorem ResultsOf.snoc {item : CancelOrderItem} (h : ResultsOf items results)
    (hkey : result.key = item.key) : ResultsOf (items ++ [item]) (results ++ [result]) :=
  List.rel_append h (.cons hkey .nil)

/-- No result has the key of an item that is the first one with its key. -/
theorem ResultsOf.find_eq_none {item : CancelOrderItem} (h : ResultsOf items results)
    (hnew : ∀ earlier ∈ items, earlier.batchKey ≠ item.batchKey) :
    findCancelResultByKey results item.batchKey = none := by
  refine List.find?_eq_none.mpr fun result hresult => ?_
  obtain ⟨i, hi, rfl⟩ := List.getElem_of_mem hresult
  have hlength := List.Forall₂.length_eq h
  have hkey := List.Forall₂.get h (hlength ▸ hi) hi
  have hbatch := hnew items[i] (List.getElem_mem _)
  simp only [List.get_eq_getElem] at hkey
  rw [CancelOrderItem.batchKey_eq, ← hkey, ← CancelOrdersResult.batchKey_eq] at hbatch
  simpa using hbatch

end Results

/-! ## The items -/

/-- The order is registered with the transaction. -/
def RegisteredWith (cancelTxHash : Text) (order : OrderRecord) : Prop :=
  normalizeHex order.status.toList = "pending_cancel".toList ∧
    normalizeHash order.cancelledTxHash = cancelTxHash

/-- The order of an item that is accepted after these items: it is no duplicate, passes its own
    checks, and is not being cancelled. -/
def acceptedOrder (env : CancelEnvironment) (table : OrderTable) (before : List CancelOrderItem)
    (item : CancelOrderItem) : Option OrderRecord :=
  if ∃ earlier ∈ before, earlier.batchKey = item.batchKey then none
  else
    match cancelOrderByRequest env table item with
    | .ok order => if order.isPendingCancel then none else some order
    | .error _ => none

/-- The order of the first item that is accepted. -/
def firstAccepted (env : CancelEnvironment) (table : OrderTable) (before : List CancelOrderItem) :
    List CancelOrderItem → Option OrderRecord
  | [] => none
  | item :: items =>
    (acceptedOrder env table before item).or (firstAccepted env table (before ++ [item]) items)

theorem firstAccepted_snoc (env : CancelEnvironment) (table : OrderTable)
    (before items : List CancelOrderItem) (item : CancelOrderItem) :
    firstAccepted env table before (items ++ [item]) =
      (firstAccepted env table before items).or
        (acceptedOrder env table (before ++ items) item) := by
  induction items generalizing before with
  | nil =>
    simp only [List.nil_append, List.append_nil, firstAccepted, Option.or_none, Option.none_or]
  | cons first items ih =>
    rw [List.cons_append, firstAccepted, firstAccepted, ih, List.append_assoc, Option.or_assoc]
    rfl

/-- The order is accepted at some place of the batch. -/
def Accepted (env : CancelEnvironment) (table : OrderTable) (items : List CancelOrderItem)
    (order : OrderRecord) : Prop :=
  ∃ before item after, items = before ++ item :: after ∧
    acceptedOrder env table before item = some order

theorem accepted_snoc {env : CancelEnvironment} {table : OrderTable}
    {items : List CancelOrderItem} {item : CancelOrderItem} {order : OrderRecord} :
    Accepted env table (items ++ [item]) order ↔
      Accepted env table items order ∨ acceptedOrder env table items item = some order := by
  constructor
  · rintro ⟨before, item', after, heq, horder⟩
    rcases List.eq_nil_or_concat after with rfl | ⟨after, last, rfl⟩
    · obtain ⟨rfl, hitem⟩ := List.append_inj' heq rfl
      obtain rfl := List.head_eq_of_cons_eq hitem
      exact .inr horder
    · rw [List.concat_eq_append, ← List.cons_append, ← List.append_assoc] at heq
      exact .inl ⟨before, item', after, (List.append_inj' heq rfl).1, horder⟩
  · rintro (⟨before, item', after, rfl, horder⟩ | horder)
    · exact ⟨before, item', after ++ [item], by simp, horder⟩
    · exact ⟨items, item, [], rfl, horder⟩

/-- One of the accepted orders is the first. -/
theorem Accepted.first {env : CancelEnvironment} {table : OrderTable}
    {items : List CancelOrderItem} {order : OrderRecord} (h : Accepted env table items order) :
    ∃ first, firstAccepted env table [] items = some first := by
  induction items using List.reverseRecOn with
  | nil =>
    obtain ⟨before, item, after, heq, -⟩ := h
    simp at heq
  | append_singleton items item ih =>
    rw [firstAccepted_snoc, List.nil_append]
    rcases accepted_snoc.mp h with hearlier | hlast
    · obtain ⟨first, hfirst⟩ := ih hearlier
      exact ⟨first, by rw [hfirst, Option.some_or]⟩
    · rw [hlast]
      cases firstAccepted env table [] items with
      | none => exact ⟨order, rfl⟩
      | some first => exact ⟨first, rfl⟩

/-- The order has the chain, the maker and the contract of another one. -/
structure OrderRecord.SameBatch (order first : OrderRecord) : Prop where
  chainID : order.chainID = first.chainID
  maker : normalizeAddress order.maker = normalizeAddress first.maker
  settlementAddress :
    normalizeAddress order.settlementAddress = normalizeAddress first.settlementAddress

/-- The batch is going to write to this order if the transaction covers it. -/
structure Registrable (env : CancelEnvironment) (table : OrderTable)
    (items : List CancelOrderItem) (order : OrderRecord) : Prop where
  accepted : Accepted env table items order
  first : ∃ first, firstAccepted env table [] items = some first ∧ order.SameBatch first
  nonce : ∃ nonce, parseUintStrict order.nonce "nonce" = .ok nonce

/-- An order that passes the checks of its item. -/
structure Cancellable (table : OrderTable) (item : CancelOrderItem) (order : OrderRecord) :
    Prop where
  stored : table.row item.key = some order
  maker : normalizeAddress order.maker = normalizeAddress item.maker
  maker_ne : normalizeAddress order.maker ≠ []
  settlement_ne : normalizeAddress order.settlementAddress ≠ []

theorem ne_nil_of_isAddress {value : Text} (h : isAddress value = true) :
    normalizeAddress value ≠ [] := by
  intro hnil
  unfold isAddress at h
  rw [hnil] at h
  cases h

theorem checkCancellable_ok {item : CancelOrderItem} {order order' : OrderRecord}
    (h : checkCancellable item order = .ok order') :
    order' = order ∧ normalizeAddress order.maker = normalizeAddress item.maker := by
  unfold checkCancellable at h
  split at h
  · cases h
  · rename_i hmaker
    simp only at h
    split_ifs at h
    exact ⟨(Except.ok.inj h).symm, not_not.mp hmaker⟩

theorem getByOrderHash_found {env : CancelEnvironment} {table : OrderTable} {chainID : Int}
    {settlementAddress orderHash : Text} {order : OrderRecord}
    (h : getByOrderHash env table chainID settlementAddress orderHash = .found order) :
    table.row (rowKey chainID settlementAddress orderHash) = some order := by
  unfold getByOrderHash at h
  split at h
  · cases h
  · split at h
    · rename_i hrow
      rw [hrow, OrderQuery.found.inj h]
    · cases h

theorem cancelOrderByRequest_ok {env : CancelEnvironment} {table : OrderTable}
    {item : CancelOrderItem} {order : OrderRecord}
    (h : cancelOrderByRequest env table item = .ok order) : Cancellable table item order := by
  unfold cancelOrderByRequest at h
  split at h
  · cases h
  split at h
  · cases h
  rename_i hsettlement
  split at h
  · cases h
  split at h
  · cases h
  rename_i hmakerAddress
  split at h
  · cases h
  · cases h
  rename_i found hquery
  obtain ⟨rfl, hmaker⟩ := checkCancellable_ok h
  have hrow : table.row item.key = some order := getByOrderHash_found hquery
  have haddress : order.settlementAddress = normalizeAddress item.settlementAddress :=
    congrArg RowKey.settlementAddress (table.keyed hrow)
  refine ⟨hrow, hmaker, ?_, ?_⟩
  · rw [hmaker]
    exact ne_nil_of_isAddress (by simpa using hmakerAddress)
  · rw [haddress, normalizeAddress_normalizeAddress]
    exact ne_nil_of_isAddress (by simpa using hsettlement)

/-- The first result with the key of the order is its own, and not cancelled. -/
def Waiting (results : List CancelOrdersResult) (order : OrderRecord) : Prop :=
  ∃ result, findCancelResultByKey results order.batchKey = some result ∧
    result.key = order.key ∧ result.cancelled = false

/-- What is known of an order that the batch is going to write. -/
structure Target (env : CancelEnvironment) (table : OrderTable) (items : List CancelOrderItem)
    (b : CancelBatch) (order : OrderRecord) : Prop where
  accepted : Accepted env table items order
  stored : table.row order.key = some order
  named : ∃ item ∈ items, item.key = order.key ∧
    normalizeAddress item.maker = normalizeAddress order.maker
  chainID : order.chainID = b.chainID
  maker : normalizeAddress order.maker = b.maker
  settlementAddress : normalizeAddress order.settlementAddress = b.settlementAddress
  nonce : ∃ nonce, parseUintStrict order.nonce "nonce" = .ok nonce ∧
    b.cancelTargetNonces order.batchKey = some nonce
  waiting : Waiting b.results order

/-- Chain, maker and contract of the batch are those of the first accepted order. -/
inductive Header (b : CancelBatch) : Option OrderRecord → Prop
  | unset : b.maker = [] → b.settlementAddress = [] → b.cancelTargets = [] → Header b none
  | fixed {first : OrderRecord} : b.chainID = first.chainID →
      b.maker = normalizeAddress first.maker →
      b.settlementAddress = normalizeAddress first.settlementAddress →
      b.maker ≠ [] → b.settlementAddress ≠ [] → Header b (some first)

/-- The loop after some of the items. -/
structure Checked (env : CancelEnvironment) (table : OrderTable) (cancelTxHash : Text)
    (items : List CancelOrderItem) (b : CancelBatch) : Prop where
  results : ResultsOf items b.results
  seen : ∀ key, key ∈ b.seenOrders ↔ ∃ item ∈ items, item.batchKey = key
  header : Header b (firstAccepted env table [] items)
  target : ∀ order ∈ b.cancelTargets, Target env table items b order
  complete : ∀ order, Registrable env table items order → order ∈ b.cancelTargets
  distinct : (b.cancelTargets.map OrderRecord.batchKey).Nodup
  count : b.idempotentCount = b.results.countP (·.cancelled)
  cancelled : ∀ result ∈ b.results, result.cancelled = true →
    ∃ order, table.row result.key = some order ∧ RegisteredWith cancelTxHash order

section Items

variable {env : CancelEnvironment} {table : OrderTable} {cancelTxHash : Text}
  {items : List CancelOrderItem} {item : CancelOrderItem} {b b' : CancelBatch}
  {result : CancelOrdersResult} {order : OrderRecord}

theorem not_registrable_nil : ¬Registrable env table [] order := by
  intro h
  obtain ⟨first, hfirst, -⟩ := h.first
  cases hfirst

theorem Checked.empty : Checked env table cancelTxHash [] .empty :=
  ⟨.nil, fun _ => by simp [CancelBatch.empty], .unset rfl rfl rfl, nofun,
    fun _ h => absurd h not_registrable_nil, .nil, rfl, nofun⟩

theorem Waiting.append {results : List CancelOrdersResult} (h : Waiting results order)
    (result : CancelOrdersResult) : Waiting (results ++ [result]) order := by
  obtain ⟨own, hfind, hkey, hcancelled⟩ := h
  refine ⟨own, ?_, hkey, hcancelled⟩
  unfold findCancelResultByKey at hfind ⊢
  rw [List.find?_append, hfind, Option.some_or]

theorem Header.congr {first : Option OrderRecord} (h : Header b first)
    (hchainID : b'.chainID = b.chainID) (hmaker : b'.maker = b.maker)
    (hsettlement : b'.settlementAddress = b.settlementAddress)
    (htargets : b'.cancelTargets = b.cancelTargets) : Header b' first := by
  cases h with
  | unset hnoMaker hnoSettlement hnoTargets =>
    exact .unset (hmaker.trans hnoMaker) (hsettlement.trans hnoSettlement)
      (htargets.trans hnoTargets)
  | fixed hfirstChain hfirstMaker hfirstSettlement hne hne' =>
    exact .fixed (hchainID.trans hfirstChain) (hmaker.trans hfirstMaker)
      (hsettlement.trans hfirstSettlement) (hmaker ▸ hne) (hsettlement ▸ hne')

/-- A target stays one as long as chain, maker, contract and its nonce stay. -/
theorem Target.mono (h : Target env table items b order) (item : CancelOrderItem)
    (hresults : b'.results = b.results ++ [result]) (hchainID : b'.chainID = b.chainID)
    (hmaker : b'.maker = b.maker) (hsettlement : b'.settlementAddress = b.settlementAddress)
    (hnonce : b'.cancelTargetNonces order.batchKey = b.cancelTargetNonces order.batchKey) :
    Target env table (items ++ [item]) b' order := by
  obtain ⟨named, hnamed, hkey⟩ := h.named
  obtain ⟨nonce, hparse, hstored⟩ := h.nonce
  exact {
    accepted := accepted_snoc.mpr (.inl h.accepted)
    stored := h.stored
    named := ⟨named, List.mem_append_left _ hnamed, hkey⟩
    chainID := h.chainID.trans hchainID.symm
    maker := h.maker.trans hmaker.symm
    settlementAddress := h.settlementAddress.trans hsettlement.symm
    nonce := ⟨nonce, hparse, hnonce.trans hstored⟩
    waiting := hresults ▸ h.waiting.append result }

/-- The key of an item is noted whether or not it was before. -/
theorem Checked.seen_snoc (h : Checked env table cancelTxHash items b) (item : CancelOrderItem)
    (hseen : ∀ key, key ∈ b'.seenOrders ↔ key = item.batchKey ∨ key ∈ b.seenOrders) (key : Text) :
    key ∈ b'.seenOrders ↔ ∃ item' ∈ items ++ [item], item'.batchKey = key := by
  rw [hseen, h.seen]
  simp only [List.mem_append, List.mem_singleton, or_and_right, exists_or, exists_eq_left]
  exact or_comm.trans (or_congr_right eq_comm)

theorem Checked.count_snoc (h : Checked env table cancelTxHash items b)
    (result : CancelOrdersResult) : b.idempotentCount + result.cancelled.toNat =
      (b.results ++ [result]).countP (·.cancelled) := by
  rw [List.countP_append, ← h.count]
  cases hcancelled : result.cancelled <;> simp [hcancelled]

theorem Checked.cancelled_snoc (h : Checked env table cancelTxHash items b)
    (hcancelled : result.cancelled = true →
      ∃ order, table.row result.key = some order ∧ RegisteredWith cancelTxHash order) :
    ∀ other ∈ b.results ++ [result], other.cancelled = true →
      ∃ order, table.row other.key = some order ∧ RegisteredWith cancelTxHash order := by
  intro other hother hothers
  rcases List.mem_append.mp hother with hother | hother
  · exact h.cancelled other hother hothers
  · obtain rfl := List.mem_singleton.mp hother
    exact hcancelled hothers

/-- What can be registered after one more item: its own order, or one from before. -/
theorem Registrable.snoc_cases (h : Registrable env table (items ++ [item]) order) :
    Registrable env table items order ∨ acceptedOrder env table items item = some order := by
  refine (accepted_snoc.mp h.accepted).imp_left fun hearlier => ⟨hearlier, ?_, h.nonce⟩
  obtain ⟨first, hfirst⟩ := hearlier.first
  have hsame := h.first
  rw [firstAccepted_snoc, hfirst, Option.some_or] at hsame
  exact ⟨first, hfirst, by simpa using hsame⟩

/-- An item that is answered without becoming a target, and leaves chain, maker and contract. -/
theorem Checked.answered (h : Checked env table cancelTxHash items b)
    (hfirst : firstAccepted env table [] (items ++ [item]) = firstAccepted env table [] items)
    (hleft : ∀ order first, acceptedOrder env table items item = some order →
      firstAccepted env table [] items = some first → ¬order.SameBatch first)
    (hseen : ∀ key, key ∈ b'.seenOrders ↔ key = item.batchKey ∨ key ∈ b.seenOrders)
    (hb : b' = { b with
      results := b.results ++ [result]
      seenOrders := b'.seenOrders
      idempotentCount := b.idempotentCount + result.cancelled.toNat })
    (hkey : result.key = item.key)
    (hcancelled : result.cancelled = true →
      ∃ order, table.row result.key = some order ∧ RegisteredWith cancelTxHash order) :
    Checked env table cancelTxHash (items ++ [item]) b' := by
  have hseen' := h.seen_snoc item hseen
  rw [hb] at hseen' ⊢
  exact {
    results := h.results.snoc hkey
    seen := hseen'
    header := hfirst ▸ h.header.congr rfl rfl rfl rfl
    target := fun order horder => (h.target order horder).mono item rfl rfl rfl rfl rfl
    complete := fun order horder => by
      rcases horder.snoc_cases with hearlier | hlast
      · exact h.complete order hearlier
      · obtain ⟨first, haccepted, hsame⟩ := horder.first
        exact absurd hsame (hleft order first hlast (hfirst ▸ haccepted))
    distinct := h.distinct
    count := h.count_snoc result
    cancelled := h.cancelled_snoc hcancelled }

/-- The batch with chain, maker and contract of an order. -/
def CancelBatch.fixedBy (b : CancelBatch) (order : OrderRecord) : CancelBatch :=
  { b with
    maker := normalizeAddress order.maker
    settlementAddress := normalizeAddress order.settlementAddress
    chainID := order.chainID }

/-- An accepted order is answered with a mismatch, or it agrees with the batch. -/
theorem CancelBatch.checkHomogeneous_cases {first : Option OrderRecord} (h : Header b first)
    (result : CancelOrdersResult) (order : OrderRecord) :
    ((∃ accepted, first = some accepted ∧ ¬order.SameBatch accepted) ∧
      ∃ mismatch : CancelOrdersResult, b.checkHomogeneous result order = b.answer mismatch ∧ mismatch.key = result.key ∧
        mismatch.cancelled = result.cancelled) ∨
    (b.checkHomogeneous result order = (b.fixedBy order).addTarget result order ∧
      (first = none ∨ b.fixedBy order = b)) := by
  cases h with
  | unset hmaker hsettlement =>
    refine .inr ⟨?_, .inl rfl⟩
    unfold checkHomogeneous checkSettlement
    rw [if_pos hmaker, if_pos hsettlement]
    rfl
  | fixed hchainID hmaker hsettlement hne hne' =>
    unfold checkHomogeneous
    rw [if_neg hne]
    by_cases hchain : b.chainID = order.chainID
    · rw [if_neg (not_not.mpr hchain)]
      by_cases hsame : b.maker = normalizeAddress order.maker
      · rw [if_neg (not_not.mpr hsame), checkSettlement, if_neg hne']
        by_cases hcontract : b.settlementAddress = normalizeAddress order.settlementAddress
        · rw [if_neg (not_not.mpr hcontract)]
          have hfixed : b.fixedBy order = b := by
            unfold fixedBy
            rw [← hchain, ← hsame, ← hcontract]
          exact .inr ⟨by rw [hfixed], .inr hfixed⟩
        · rw [if_pos hcontract]
          have hother := fun h : order.SameBatch _ =>
            hcontract (hsettlement.trans h.settlementAddress.symm)
          exact .inl ⟨⟨_, rfl, hother⟩, _, rfl, rfl, rfl⟩
      · rw [if_pos hsame]
        have hother := fun h : order.SameBatch _ => hsame (hmaker.trans h.maker.symm)
        exact .inl ⟨⟨_, rfl, hother⟩, _, rfl, rfl, rfl⟩
    · rw [if_pos hchain]
      have hother := fun h : order.SameBatch _ => hchain (hchainID.trans h.chainID.symm)
      exact .inl ⟨⟨_, rfl, hother⟩, _, rfl, rfl, rfl⟩

theorem Header.fixedBy {first : Option OrderRecord} (h : Header b first)
    (hfixed : first = none ∨ b.fixedBy order = b) (horder : Cancellable table item order) :
    Header (b.fixedBy order) (first.or (some order)) := by
  cases first with
  | none => exact .fixed rfl rfl rfl horder.maker_ne horder.settlement_ne
  | some first =>
    rw [hfixed.resolve_left nofun]
    exact h

/-- There are no targets yet if the order fixes the batch. -/
theorem Target.fixedBy {first : Option OrderRecord} {other : OrderRecord} (h : Header b first)
    (hfixed : first = none ∨ b.fixedBy order = b) (hmem : other ∈ b.cancelTargets)
    (htarget : Target env table items b other) :
    Target env table items (b.fixedBy order) other := by
  rcases hfixed with rfl | hfixed
  · cases h with
    | unset _ _ htargets =>
      rw [htargets] at hmem
      cases hmem
  · rw [hfixed]
    exact htarget

/-- No target has the key of an item that is the first one with its key. -/
theorem Checked.batchKey_ne (h : Checked env table cancelTxHash items b)
    (hnew : item.batchKey ∉ b.seenOrders) {other : OrderRecord}
    (hother : other ∈ b.cancelTargets) : other.batchKey ≠ item.batchKey := by
  intro hsame
  obtain ⟨named, hnamed, hkey, -⟩ := (h.target other hother).named
  refine hnew ((h.seen _).mpr ⟨named, hnamed, ?_⟩)
  rw [← hsame, OrderRecord.batchKey_eq, ← hkey, CancelOrderItem.batchKey_eq]

/-- An item whose order becomes a target, if its nonce can be read. -/
theorem Checked.added (h : Checked env table cancelTxHash items b)
    (hnew : item.batchKey ∉ b.seenOrders) (horder : Cancellable table item order)
    (haccepted : acceptedOrder env table items item = some order)
    (hfixed : firstAccepted env table [] items = none ∨ b.fixedBy order = b)
    (hb' : b' = { b.fixedBy order with seenOrders := item.batchKey :: b.seenOrders }) :
    Checked env table cancelTxHash (items ++ [item])
      (b'.addTarget (newCancelResult item) order) := by
  subst hb'
  have hfirst := firstAccepted_snoc env table [] items item
  rw [List.nil_append, haccepted] at hfirst
  have hheader := h.header.fixedBy hfixed horder
  rw [← hfirst] at hheader
  have hseen := @Checked.seen_snoc _ _ _ _ b
    { b.fixedBy order with seenOrders := item.batchKey :: b.seenOrders } h item
    fun key => List.mem_cons
  have hkey : (newCancelResult item).key = item.key := rfl
  have horderKey : order.key = item.key := table.keyed horder.stored
  unfold CancelBatch.addTarget
  split
  -- the nonce cannot be read: the order is accepted, but it is no target
  · rename_i nonceErr hnonceErr
    exact {
      results := h.results.snoc hkey
      seen := hseen
      header := hheader.congr rfl rfl rfl rfl
      target := fun other hother => (Target.fixedBy h.header hfixed hother
        (h.target other hother)).mono item rfl rfl rfl rfl rfl
      complete := fun other hother => by
        rcases hother.snoc_cases with hearlier | hlast
        · exact h.complete other hearlier
        · obtain rfl := Option.some.inj (haccepted.symm.trans hlast)
          obtain ⟨nonce, hnonce⟩ := hother.nonce
          rw [hnonceErr] at hnonce
          cases hnonce
      distinct := h.distinct
      count := h.count_snoc
        (.invalidNonce { newCancelResult item with order := some order } nonceErr)
      cancelled := h.cancelled_snoc nofun }
  -- the order becomes the last target; the earlier targets have other keys
  · rename_i nonceValue hnonce
    have hbatch : order.batchKey = item.batchKey := by
      rw [OrderRecord.batchKey_eq, horderKey, CancelOrderItem.batchKey_eq]
    have hne : ∀ other ∈ b.cancelTargets, other.batchKey ≠ order.batchKey := fun other hother =>
      hbatch ▸ h.batchKey_ne hnew hother
    have hnone : findCancelResultByKey b.results order.batchKey = none := by
      rw [hbatch]
      exact h.results.find_eq_none fun earlier hearlier hsame =>
        hnew ((h.seen _).mpr ⟨earlier, hearlier, hsame⟩)
    refine {
      results := h.results.snoc hkey
      seen := hseen
      header := ?_
      target := ?_
      complete := ?_
      distinct := ?_
      count := h.count_snoc { newCancelResult item with order := some order }
      cancelled := h.cancelled_snoc nofun }
    · cases hfirstAccepted : firstAccepted env table [] (items ++ [item]) with
      | none =>
        rw [hfirst] at hfirstAccepted
        simp at hfirstAccepted
      | some first =>
        rw [hfirstAccepted] at hheader
        cases hheader with
        | fixed hchainID hmaker hsettlement hne hne' =>
          exact .fixed hchainID hmaker hsettlement hne hne'
    · intro other hother
      rcases List.mem_append.mp hother with hother | hother
      · exact (Target.fixedBy h.header hfixed hother (h.target other hother)).mono item rfl rfl rfl
          rfl (Function.update_of_ne (hne other hother) _ _)
      · obtain rfl := List.mem_singleton.mp hother
        refine ⟨accepted_snoc.mpr (.inr haccepted), horderKey ▸ horder.stored, ⟨item, List.mem_append_right _ List.mem_cons_self,
          horderKey.symm, horder.maker.symm⟩, rfl, rfl, rfl,
          ⟨nonceValue, hnonce, Function.update_self _ _ _⟩,
          { newCancelResult item with order := some other }, ?_, hkey.trans horderKey.symm, rfl⟩
        unfold findCancelResultByKey at hnone ⊢
        change (b.results ++ [_]).find? _ = _
        rw [List.find?_append, hnone, Option.none_or, List.find?_cons_of_pos]
        rw [decide_eq_true_iff, CancelOrdersResult.batchKey_eq, OrderRecord.batchKey_eq, horderKey]
        rfl
    · intro other hother
      rcases hother.snoc_cases with hearlier | hlast
      · exact List.mem_append_left _ (h.complete other hearlier)
      · obtain rfl := Option.some.inj (haccepted.symm.trans hlast)
        exact List.mem_append_right _ List.mem_cons_self
    · change ((b.cancelTargets ++ [order]).map OrderRecord.batchKey).Nodup
      rw [List.map_append, List.nodup_append]
      refine ⟨h.distinct, List.nodup_singleton _, ?_⟩
      intro key hkeyTarget key' hkeyOrder
      obtain ⟨other, hother, rfl⟩ := List.mem_map.mp hkeyTarget
      obtain rfl := List.mem_singleton.mp hkeyOrder
      exact hne other hother

/-- One item. -/
theorem Checked.step (h : Checked env table cancelTxHash items b) (item : CancelOrderItem) :
    Checked env table cancelTxHash (items ++ [item])
      (checkItem env table cancelTxHash b item) := by
  have hfirst := firstAccepted_snoc env table [] items item
  rw [List.nil_append] at hfirst
  unfold checkItem
  by_cases hseen : item.batchKey ∈ b.seenOrders
  · have hnone : acceptedOrder env table items item = none := if_pos ((h.seen _).mp hseen)
    rw [hnone, Option.or_none] at hfirst
    rw [if_pos hseen]
    refine h.answered hfirst (fun _ _ hsome => by cases hnone ▸ hsome) (fun key => ?_) rfl rfl nofun
    exact ⟨.inr, fun hkey => hkey.elim (fun heq => heq ▸ hseen) id⟩
  have haccept : acceptedOrder env table items item = _ :=
    if_neg fun hearlier => hseen ((h.seen _).mpr hearlier)
  rw [if_neg hseen]
  cases hrequest : cancelOrderByRequest env table item with
  | error validateErr =>
    simp only [hrequest] at haccept
    rw [haccept, Option.or_none] at hfirst
    exact h.answered hfirst (fun _ _ hsome => by cases haccept ▸ hsome) (fun _ => List.mem_cons)
      rfl rfl nofun
  | ok order =>
    have horder := cancelOrderByRequest_ok hrequest
    simp only [hrequest] at haccept ⊢
    by_cases hpending : order.isPendingCancel = true
    · rw [if_pos hpending] at haccept
      rw [haccept, Option.or_none] at hfirst
      have hleft : ∀ other first, acceptedOrder env table items item = some other →
          firstAccepted env table [] items = some first → ¬other.SameBatch first :=
        fun _ _ hsome => by cases haccept ▸ hsome
      rw [if_pos hpending, CancelBatch.answerPending]
      split
      · rename_i hsame
        exact h.answered hfirst hleft (fun _ => List.mem_cons) rfl rfl fun _ =>
          ⟨order, horder.stored, of_decide_eq_true hpending, hsame.2⟩
      · exact h.answered hfirst hleft (fun _ => List.mem_cons) rfl rfl nofun
    · rw [if_neg hpending] at haccept
      rw [if_neg hpending]
      have hheader : Header { b with seenOrders := item.batchKey :: b.seenOrders }
          (firstAccepted env table [] items) := h.header.congr rfl rfl rfl rfl
      rcases CancelBatch.checkHomogeneous_cases hheader (newCancelResult item) order with
        ⟨⟨accepted, hsome, hother⟩, mismatch, hanswer, hkey, hcancelled⟩ | ⟨hadd, hfixed⟩
      · rw [hanswer]
        rw [hsome, Option.some_or, ← hsome] at hfirst
        have hidle : mismatch.cancelled = false := hcancelled
        refine h.answered hfirst (fun other first hlast hfirst' => ?_) (fun _ => List.mem_cons) ?_
          hkey ?_
        · obtain rfl := Option.some.inj (haccept.symm.trans hlast)
          obtain rfl := Option.some.inj (hsome.symm.trans hfirst')
          exact hother
        · rw [hidle]
          rfl
        · rw [hidle]
          nofun
      · rw [hadd]
        refine h.added hseen horder haccept (hfixed.imp_right fun heq => ?_) rfl
        exact congrArg (fun batch : CancelBatch => { batch with seenOrders := b.seenOrders }) heq

/-- All of the items. -/
theorem checkItems_checked (env : CancelEnvironment) (table : OrderTable) (cancelTxHash : Text)
    (items : List CancelOrderItem) :
    Checked env table cancelTxHash items (checkItems env table cancelTxHash items) := by
  induction items using List.reverseRecOn with
  | nil => exact .empty
  | append_singleton items item ih =>
    unfold checkItems at ih ⊢
    rw [List.foldl_append]
    exact ih.step item

end Items

/-! ## The targets -/

/-- The transaction covers the nonce of the order. -/
def CoveredBy (validation : CancelTxValidationResult) (order : OrderRecord) : Prop :=
  ∃ nonce, parseUintStrict order.nonce "nonce" = .ok nonce ∧
    some nonce ∈ validation.registeredNonces

/-- The order is the row of this key, and the row is written, as the first result with its key
    tells. -/
structure Written (table₀ table : OrderTable) (cancelTxHash : Text)
    (results : List CancelOrdersResult) (key : RowKey) (order : OrderRecord) : Prop where
  stored : table₀.row key = some order
  opened : order.status = "open"
  written : table.row key = some ((pendingCancelUpdate cancelTxHash).set order)
  told : ∃ result, findCancelResultByKey results key.batchKey = some result ∧ result.key = key ∧
    result.cancelled = true

/-- The loop with these targets to go. `P` is what is known of every target that is written, and
    `n` the number of results that were cancelled before. -/
structure Registering (table₀ : OrderTable) (cancelTxHash : Text) (items : List CancelOrderItem)
    (P : OrderRecord → Prop) (n : Nat) (remaining : List OrderRecord) (r : Registration) :
    Prop where
  results : ResultsOf items r.results
  frame : ∀ key, r.table.row key = table₀.row key ∨
    ∃ order, P order ∧ Written table₀ r.table cancelTxHash r.results key order
  waiting : ∀ order ∈ remaining, table₀.row order.key = some order ∧
    r.table.row order.key = some order ∧ Waiting r.results order
  distinct : (remaining.map OrderRecord.batchKey).Nodup
  count : r.registeredCount + n = r.results.countP (·.cancelled)
  cancelled : ∀ result ∈ r.results, result.cancelled = true →
    ∃ order, r.table.row result.key = some order ∧ RegisteredWith cancelTxHash order

section Targets

variable {env : CancelEnvironment} {table₀ table table' : OrderTable} {cancelTxHash : Text}
  {items : List CancelOrderItem} {P : OrderRecord → Prop} {n : Nat} {remaining : List OrderRecord}
  {order other : OrderRecord} {r : Registration} {results : List CancelOrdersResult}
  {set : CancelOrdersResult → CancelOrdersResult}

theorem OrderTable.write_row (table : OrderTable) (key : RowKey) (u : RowUpdate) :
    (table.write key u).row key = (table.row key).map u.set := if_pos rfl

theorem OrderTable.write_row_ne (table : OrderTable) {key key' : RowKey} (u : RowUpdate)
    (h : key' ≠ key) : (table.write key u).row key' = table.row key' := if_neg h

/-- Writing to the result of one order leaves the one of another order. -/
theorem Waiting.set_ne (h : Waiting results other) (hset : KeepsKey set)
    (hne : other.batchKey ≠ order.batchKey) :
    Waiting (setCancelResult order.batchKey set results) other := by
  obtain ⟨result, hfind, hkey, hcancelled⟩ := h
  exact ⟨result, (find_setCancelResult_ne hset hne).trans hfind, hkey, hcancelled⟩

/-- The keys of the orders to go are not that of the present one. -/
theorem Registering.batchKey_ne
    (h : Registering table₀ cancelTxHash items P n (order :: remaining) r)
    (hother : other ∈ remaining) : other.batchKey ≠ order.batchKey := fun hsame =>
  (List.nodup_cons.mp h.distinct).1 (hsame ▸ List.mem_map_of_mem hother)

/-- A row that is written stays told when the result of a waiting order is written to. -/
theorem Written.kept {key : RowKey} {written : OrderRecord}
    (h : Written table₀ table cancelTxHash results key written) (hwaiting : Waiting results order)
    (hset : KeepsKey set) (htable : table'.row key = table.row key) :
    Written table₀ table' cancelTxHash (setCancelResult order.batchKey set results) key
      written := by
  obtain ⟨result, hfind, hkey, hcancelled⟩ := h.told
  refine ⟨h.stored, h.opened, htable.trans h.written, result, ?_, hkey, hcancelled⟩
  have hne : key.batchKey ≠ order.batchKey := by
    intro hsame
    obtain ⟨result', hfind', -, hidle⟩ := hwaiting
    rw [hsame, hfind'] at hfind
    obtain rfl := Option.some.inj hfind
    exact absurd hcancelled (by rw [hidle]; decide)
  rw [find_setCancelResult_ne hset hne, hfind]

/-- One target whose order is not written: its result says why. -/
theorem Registering.refuse
    (h : Registering table₀ cancelTxHash items P n (order :: remaining) r) (hset : KeepsKey set)
    (hidle : ∀ result, (set result).cancelled = result.cancelled) :
    Registering table₀ cancelTxHash items P n remaining
      { r with results := setCancelResult order.batchKey set r.results } := by
  obtain ⟨-, -, hwaiting⟩ := h.waiting order List.mem_cons_self
  obtain ⟨own, hfind, hkey, hcancelled⟩ := id hwaiting
  exact {
    results := h.results.setResult hset
    frame := by
      intro key
      refine (h.frame key).imp_right ?_
      rintro ⟨written, hP, hwritten⟩
      exact ⟨written, hP, hwritten.kept hwaiting hset rfl⟩
    waiting := by
      intro other hother
      obtain ⟨hstored, hrow, hwaiting⟩ := h.waiting other (List.mem_cons_of_mem _ hother)
      exact ⟨hstored, hrow, hwaiting.set_ne hset (h.batchKey_ne hother)⟩
    distinct := (List.nodup_cons.mp h.distinct).2
    count := by
      rw [countP_setCancelResult hfind hcancelled, hidle, hcancelled]
      exact h.count
    cancelled := by
      intro result hresult hregistered
      rcases mem_setCancelResult hresult with hresult | ⟨old, hold, rfl⟩
      · exact h.cancelled result hresult hregistered
      · rw [hfind] at hold
        obtain rfl := Option.some.inj hold
        exact absurd hregistered (by rw [hidle, hcancelled]; decide) }

theorem registered_with (cancelTxHash : Text) (order : OrderRecord) :
    RegisteredWith (normalizeHash cancelTxHash)
      ((pendingCancelUpdate (normalizeHash cancelTxHash)).set order) :=
  ⟨(by decide : normalizeHex "pending_cancel".toList = "pending_cancel".toList),
    normalize_normalize cancelTxHash⟩

/-- One target whose row is written. -/
theorem Registering.register {rawHash : Text} (hhash : cancelTxHash = normalizeHash rawHash)
    (h : Registering table₀ cancelTxHash items P n (order :: remaining) r) (hP : P order)
    (hopened : order.status = "open") (order' : OrderRecord) :
    Registering table₀ cancelTxHash items P n remaining
      ⟨r.table.write order.key (pendingCancelUpdate cancelTxHash),
        setCancelResult order.batchKey (·.registered order') r.results, r.registeredCount + 1⟩ := by
  have hset : KeepsKey (·.registered order') := fun _ => rfl
  obtain ⟨hstored, hrow, hwaiting⟩ := h.waiting order List.mem_cons_self
  obtain ⟨own, hfind, hkey, hcancelled⟩ := id hwaiting
  have hwrite : (r.table.write order.key (pendingCancelUpdate cancelTxHash)).row order.key =
      some ((pendingCancelUpdate cancelTxHash).set order) := by
    rw [OrderTable.write_row, hrow, Option.map_some]
  exact {
    results := h.results.setResult hset
    frame := by
      intro key
      -- the row of the order is written, and no other one
      by_cases hown : key = order.key
      · subst hown
        exact .inr ⟨order, hP, hstored, hopened, hwrite, _, find_setCancelResult hset hfind, hkey,
          rfl⟩
      · have hsame := r.table.write_row_ne (pendingCancelUpdate cancelTxHash) hown
        rcases h.frame key with hframe | ⟨written, hPwritten, hwritten⟩
        · exact .inl (hsame.trans hframe)
        · exact .inr ⟨written, hPwritten, hwritten.kept hwaiting hset hsame⟩
    waiting := by
      intro other hother
      have hne := h.batchKey_ne hother
      obtain ⟨hstored, hrow, hwaiting⟩ := h.waiting other (List.mem_cons_of_mem _ hother)
      have hkeys : other.key ≠ order.key := fun hsame => hne (congrArg RowKey.batchKey hsame)
      exact ⟨hstored, (r.table.write_row_ne _ hkeys).trans hrow, hwaiting.set_ne hset hne⟩
    distinct := (List.nodup_cons.mp h.distinct).2
    count := by
      rw [countP_setCancelResult hfind hcancelled, ← h.count, Nat.add_right_comm]
      rfl
    cancelled := by
      intro result hresult hregistered
      rcases mem_setCancelResult hresult with hresult | ⟨old, hold, rfl⟩
      · obtain ⟨pending, hpending, hregisteredWith⟩ := h.cancelled result hresult hregistered
        by_cases hown : result.key = order.key
        · refine ⟨_, (congrArg _ hown).trans hwrite, ?_⟩
          rw [hhash]
          exact registered_with rawHash order
        · exact ⟨pending, (r.table.write_row_ne _ hown).trans hpending, hregisteredWith⟩
      · rw [hfind] at hold
        obtain rfl := Option.some.inj hold
        refine ⟨_, (congrArg _ hkey).trans hwrite, ?_⟩
        rw [hhash]
        exact registered_with rawHash order }

/-- The transaction of an order whose row is as it was read. -/
theorem registerOrder_eq (hnormal : order.Normal) (hrow : table.row order.key = some order) :
    registerOrder env cancelTxHash table order =
      match env.writeError order.key with
      | some error => .error error
      | none =>
        if order.status = "open" then
          .ok (table.write order.key (pendingCancelUpdate cancelTxHash),
            some ((pendingCancelUpdate cancelTxHash).set order))
        else .ok (table, none) := by
  unfold registerOrder OrderTable.updateFieldsIfStatusIn
  rw [hnormal, hrow]
  cases env.writeError order.key with
  | some error => rfl
  | none =>
    by_cases hopened : order.status = "open"
    · simp only [hopened, List.mem_singleton, if_true, OrderTable.write_row, hrow, Option.map_some]
    · simp only [hopened, List.mem_singleton, if_false, Bool.false_eq_true]

/-- One target. -/
theorem Registering.step {rawHash : Text} {validation : CancelTxValidationResult}
    {nonces : Text → Option Int} {nonce : Int} (hhash : cancelTxHash = normalizeHash rawHash)
    (h : Registering table₀ cancelTxHash items P n (order :: remaining) r)
    (hnormal : order.Normal) (hnonce : nonces order.batchKey = some nonce)
    (hP : some nonce ∈ validation.registeredNonces → P order) :
    Registering table₀ cancelTxHash items P n remaining
      (registerTarget env cancelTxHash validation nonces r order) := by
  obtain ⟨-, hrow, own, hfind, -⟩ := h.waiting order List.mem_cons_self
  unfold registerTarget
  by_cases hcovered : some nonce ∈ validation.registeredNonces
  · have hincludes : cancelValidationIncludesNonce (some validation) (nonces order.batchKey) =
        true := by
      rw [hnonce]
      exact decide_eq_true hcovered
    rw [if_neg (by rw [hincludes]; decide), registerOrder_eq hnormal hrow]
    cases env.writeError order.key with
    | some error => exact h.refuse (fun _ => rfl) fun _ => rfl
    | none =>
      by_cases hopened : order.status = "open"
      · simp only [if_pos hopened, hfind, Option.isSome_some, if_true]
        exact h.register hhash (hP hcovered) hopened _
      · simp only [if_neg hopened]
        exact h.refuse (fun _ => rfl) fun _ => rfl
  · have hincludes : cancelValidationIncludesNonce (some validation) (nonces order.batchKey) =
        false := by
      rw [hnonce]
      exact decide_eq_false hcovered
    rw [if_pos hincludes]
    exact h.refuse (fun _ => rfl) fun _ => rfl

/-- All of the targets. -/
theorem Registering.run {rawHash : Text} {validation : CancelTxValidationResult}
    {nonces : Text → Option Int} (hhash : cancelTxHash = normalizeHash rawHash)
    (h : Registering table₀ cancelTxHash items P n remaining r)
    (htarget : ∀ order ∈ remaining, order.Normal ∧ ∃ nonce, nonces order.batchKey = some nonce ∧
      (some nonce ∈ validation.registeredNonces → P order)) :
    Registering table₀ cancelTxHash items P n []
      (remaining.foldl (registerTarget env cancelTxHash validation nonces) r) := by
  induction remaining generalizing r with
  | nil => exact h
  | cons order remaining ih =>
    obtain ⟨hnormal, nonce, hnonce, hP⟩ := htarget order List.mem_cons_self
    exact ih (h.step hhash hnormal hnonce hP) fun other hother =>
      htarget other (List.mem_cons_of_mem _ hother)

/-- The targets of a transaction that is not valid. -/
theorem Registering.invalid (error : CancelTxError)
    (h : Registering table₀ cancelTxHash items P n remaining r) :
    Registering table₀ cancelTxHash items P n []
      { r with results := remaining.foldl (fun results order =>
          setCancelResult order.batchKey (·.invalidTransaction error) results) r.results } := by
  have hset : KeepsKey (·.invalidTransaction error) := by
    intro result
    unfold CancelOrdersResult.invalidTransaction
    split <;> rfl
  have hidle : ∀ result : CancelOrdersResult,
      (result.invalidTransaction error).cancelled = result.cancelled := by
    intro result
    unfold CancelOrdersResult.invalidTransaction
    split <;> rfl
  induction remaining generalizing r with
  | nil => exact h
  | cons order remaining ih => exact ih (h.refuse hset hidle)

end Targets

/-! ## The request -/

/-- What a request needs to write to an order. -/
structure MayCancel (env : CancelEnvironment) (table : OrderTable) (request : CancelOrdersRequest)
    (order : OrderRecord) : Prop where
  named : ∃ item ∈ request.orders, item.key = order.key ∧
    normalizeAddress item.maker = normalizeAddress order.maker
  first : ∃ first, firstAccepted env table [] request.orders = some first ∧ order.SameBatch first
  covered : ∃ client validation,
    env.lookupChainClient order.chainID (normalizeAddress order.settlementAddress) = some client ∧
    client.validateCancelTransactionBatch (normalizeHash request.cancelTxHash)
      (normalizeAddress order.maker) = .ok validation ∧
    CoveredBy validation order

/-- The rows before and after a request that is answered, and the answer. -/
structure CancelFrame (env : CancelEnvironment) (table table' : OrderTable)
    (request : CancelOrdersRequest) (response : CancelOrdersResponse) : Prop where
  results : ResultsOf request.orders response.results
  changes : ∀ key, table'.row key ≠ table.row key → ∃ order, table.row key = some order ∧
    order.status = "open" ∧ MayCancel env table request order ∧
    table'.row key = some { order with
      status := "pending_cancel"
      statusReason := "cancel_tx_submitted_by_user"
      cancelledTxHash := normalizeHash request.cancelTxHash }
  count : response.cancelledCount = response.results.countP (·.cancelled)
  cancelled : ∀ result ∈ response.results, result.cancelled = true →
    ∃ order, table'.row result.key = some order ∧
      RegisteredWith (normalizeHash request.cancelTxHash) order
  failures : ∀ (i : Nat) (result : CancelOrdersResult), response.results[i]? = some result →
    result.cancelled = false → table'.row result.key = table.row result.key ∨
      ∃ j < i, ∃ earlier, response.results[j]? = some earlier ∧ earlier.key = result.key ∧
        earlier.cancelled = true

section Request

variable {env : CancelEnvironment} {table : OrderTable} {request : CancelOrdersRequest}
  {b : CancelBatch} {r : Registration}

/-- The order that fixed the batch agrees with every target. -/
theorem Checked.sameBatch {cancelTxHash : Text} {items : List CancelOrderItem}
    {order : OrderRecord} (h : Checked env table cancelTxHash items b)
    (horder : order ∈ b.cancelTargets) :
    ∃ first, firstAccepted env table [] items = some first ∧ order.SameBatch first := by
  have htarget := h.target order horder
  obtain ⟨first, hfirst⟩ := htarget.accepted.first
  have hheader := h.header
  rw [hfirst] at hheader
  cases hheader with
  | fixed hchainID hmaker hsettlement =>
    exact ⟨first, hfirst, htarget.chainID.trans hchainID, htarget.maker.trans hmaker,
      htarget.settlementAddress.trans hsettlement⟩

/-- The targets are the orders that can be registered. -/
theorem Checked.mem_cancelTargets_iff {cancelTxHash : Text} {items : List CancelOrderItem}
    {order : OrderRecord} (h : Checked env table cancelTxHash items b) :
    order ∈ b.cancelTargets ↔ Registrable env table items order := by
  refine ⟨fun horder => ⟨(h.target order horder).accepted, h.sameBatch horder, ?_⟩, h.complete order⟩
  obtain ⟨nonce, hparse, -⟩ := (h.target order horder).nonce
  exact ⟨nonce, hparse⟩

/-- A target that the transaction covers may be written. -/
theorem Checked.mayCancel {order : OrderRecord} {client : CancelClient}
    {validation : CancelTxValidationResult} {nonce : Int}
    (h : Checked env table (normalizeHash request.cancelTxHash) request.orders b)
    (horder : order ∈ b.cancelTargets)
    (hclient : env.lookupChainClient b.chainID b.settlementAddress = some client)
    (hvalid : client.validateCancelTransactionBatch (normalizeHash request.cancelTxHash) b.maker =
      .ok validation)
    (hparse : parseUintStrict order.nonce "nonce" = .ok nonce)
    (hcovered : some nonce ∈ validation.registeredNonces) :
    MayCancel env table request order := by
  have htarget := h.target order horder
  refine ⟨htarget.named, h.sameBatch horder, client, validation, ?_, ?_, nonce, hparse, hcovered⟩
  · rw [htarget.chainID, htarget.settlementAddress]
    exact hclient
  · rw [htarget.maker]
    exact hvalid

/-- Before the first target. -/
theorem Checked.registering {cancelTxHash : Text} {items : List CancelOrderItem}
    {P : OrderRecord → Prop} (h : Checked env table cancelTxHash items b) :
    Registering table cancelTxHash items P b.idempotentCount b.cancelTargets
      ⟨table, b.results, 0⟩ where
  results := h.results
  frame _ := .inl rfl
  waiting order horder :=
    have htarget := h.target order horder
    ⟨htarget.stored, htarget.stored, htarget.waiting⟩
  distinct := h.distinct
  count := (Nat.zero_add _).trans h.count
  cancelled := h.cancelled

/-- After the last target. -/
theorem Registering.cancelFrame {n : Nat} {response : CancelOrdersResponse}
    (h : Registering table (normalizeHash request.cancelTxHash) request.orders
      (MayCancel env table request) n [] r)
    (hresults : response.results = r.results) (hcount : response.cancelledCount = r.registeredCount + n) :
    CancelFrame env table r.table request response where
  results := hresults ▸ h.results
  changes := by
    intro key hchanged
    obtain ⟨order, hmay, hwritten⟩ := (h.frame key).resolve_left hchanged
    exact ⟨order, hwritten.stored, hwritten.opened, hmay, hwritten.written⟩
  count := hresults ▸ hcount.trans h.count
  cancelled := hresults ▸ h.cancelled
  failures := by
    rw [hresults]
    intro i result hresult hidle
    refine (h.frame result.key).imp_right ?_
    rintro ⟨order, -, hwritten⟩
    obtain ⟨earlier, hfind, hkey, hcancelled⟩ := hwritten.told
    obtain ⟨-, j, hj, hget, hbefore⟩ := List.find?_eq_some_iff_getElem.mp hfind
    refine ⟨j, ?_, earlier, List.getElem?_eq_some_iff.mpr ⟨hj, hget⟩, hkey, hcancelled⟩
    by_contra hnot
    obtain ⟨hi, rfl⟩ := List.getElem?_eq_some_iff.mp hresult
    rcases Nat.lt_or_eq_of_le (Nat.le_of_not_lt hnot) with hlt | rfl
    · exact absurd (hbefore i hlt) (by simp [CancelOrdersResult.batchKey_eq])
    · rw [hget, hcancelled] at hidle
      cases hidle

end Request

/-- The service can answer a request: there is a database, the request is well-formed, and if
    the batch is to be registered there is a client for its chain and contract. -/
structure Answerable (env : CancelEnvironment) (table : OrderTable)
    (request : CancelOrdersRequest) : Prop where
  database : env.hasDatabase = true
  orders : request.orders ≠ []
  hash : isHash request.cancelTxHash = true
  client : ∀ order, Registrable env table request.orders order →
    ∃ client, env.lookupChainClient order.chainID (normalizeAddress order.settlementAddress) =
      some client

/-- A request fails exactly if it cannot be answered, and then it changes no row; one that is
    answered tells of every change. -/
def CancelFramed (env : CancelEnvironment) (table : OrderTable) (request : CancelOrdersRequest) :
    OrderTable × Except StatusError CancelOrdersResponse → Prop
  | (table', .error _) => ¬Answerable env table request ∧ table' = table
  | (table', .ok response) =>
    Answerable env table request ∧ CancelFrame env table table' request response

theorem cancelOrders_frame (env : CancelEnvironment) (table : OrderTable)
    (request : CancelOrdersRequest) :
    CancelFramed env table request (cancelOrders env table request) := by
  unfold cancelOrders
  split
  · rename_i hdatabase
    exact ⟨fun h => absurd h.database (by rw [hdatabase]; decide), rfl⟩
  rename_i hdatabase
  split
  · rename_i horders
    exact ⟨fun h => h.orders horders, rfl⟩
  rename_i horders
  split
  · rename_i hhash
    exact ⟨fun h => absurd h.hash (by rw [hhash]; decide), rfl⟩
  rename_i hhash
  have hchecked := checkItems_checked env table (normalizeHash request.cancelTxHash) request.orders
  have hanswerable : (∀ order, Registrable env table request.orders order →
      ∃ client, env.lookupChainClient order.chainID (normalizeAddress order.settlementAddress) =
        some client) → Answerable env table request :=
    Answerable.mk (by simpa using hdatabase) horders (by simpa using hhash)
  by_cases htargets : (checkItems env table (normalizeHash request.cancelTxHash)
      request.orders).cancelTargets = []
  · simp only [if_pos htargets]
    have hregistering := @Checked.registering _ _ _ _ _ (MayCancel env table request) hchecked
    rw [htargets] at hregistering
    refine ⟨hanswerable fun order horder => ?_,
      hregistering.cancelFrame rfl (Nat.zero_add _).symm⟩
    have hmem := hchecked.complete order horder
    rw [htargets] at hmem
    cases hmem
  simp only [if_neg htargets]
  cases hclient : env.lookupChainClient
      (checkItems env table (normalizeHash request.cancelTxHash) request.orders).chainID
      (checkItems env table (normalizeHash request.cancelTxHash) request.orders).settlementAddress with
  | none =>
    refine ⟨fun h => ?_, rfl⟩
    -- the lookup is made for every target alike
    obtain ⟨order, horder⟩ := List.exists_mem_of_ne_nil _ htargets
    obtain ⟨client, hfound⟩ := h.client order (hchecked.mem_cancelTargets_iff.mp horder)
    have htarget := hchecked.target order horder
    rw [htarget.chainID, htarget.settlementAddress, hclient] at hfound
    cases hfound
  | some client =>
    refine ⟨hanswerable fun order horder => ?_, Registering.cancelFrame ?_ rfl rfl⟩
    · have htarget := hchecked.target order (hchecked.complete order horder)
      rw [htarget.chainID, htarget.settlementAddress]
      exact ⟨client, hclient⟩
    unfold registerTargets
    cases hvalid : client.validateCancelTransactionBatch (normalizeHash request.cancelTxHash)
        (checkItems env table (normalizeHash request.cancelTxHash) request.orders).maker with
    | error validateErr => exact hchecked.registering.invalid validateErr
    | ok validation =>
      refine hchecked.registering.run rfl fun order horder => ?_
      have htarget := hchecked.target order horder
      obtain ⟨item, -, hkey, -⟩ := htarget.named
      obtain ⟨nonce, hparse, hnonce⟩ := htarget.nonce
      exact ⟨OrderRecord.normal_of_key hkey, nonce, hnonce,
        hchecked.mayCancel horder hclient hvalid hparse⟩

namespace CancelExample

/-- An address or a hash with one digit throughout. -/
def hex (length : Nat) : Text := '0' :: 'x' :: List.replicate length '1'

/-- An order that waits, with nonce 5 and texts that do not matter. -/
def openOrder : OrderRecord where
  chainID := 1
  settlementAddress := hex 40
  orderHash := hex 64
  maker := hex 40
  inputToken := hex 40
  outputToken := hex 40
  amountIn := ['1']
  minAmountOut := ['1']
  executorFee := ['0']
  executorFeeToken := hex 40
  triggerPriceX18 := ['1']
  expiry := ['1']
  nonce := ['5']
  recipient := hex 40
  signature := []
  source := []
  status := "open"
  statusReason := ""
  estimatedGasUsed := ['0']
  gasPriceAtQuote := ['0']
  lastRequiredExecutorFee := ['0']
  lastBlockReason := []
  settledAmountOut := ['0']
  settledExecutorFee := ['0']
  submittedTxHash := []
  executedTxHash := []
  cancelledTxHash := []
  lastCheckedBlock := 0

/-- The table with this order only. -/
def table : OrderTable where
  row key := if key = openOrder.key then some openOrder else none
  keyed := by
    intro key order h
    split at h
    · rename_i hkey
      exact Option.some.inj h ▸ hkey.symm
    · cases h

/-- Everything works, but no chain has a client. -/
def offline : CancelEnvironment where
  hasDatabase := true
  queryFails _ := false
  writeError _ := none
  lookupChainClient _ _ := none

def request : CancelOrdersRequest where
  orders := [⟨1, hex 40, hex 64, hex 40⟩]
  cancelTxHash := hex 64

end CancelExample

open CancelExample in
/-- The one item of a well-formed batch is accepted, and there is no answer with a result for it. -/
theorem cancelOrders_fails_without_client :
    isHash request.cancelTxHash = true ∧
      firstAccepted offline table [] request.orders = some openOrder ∧
      cancelOrders offline table request = (table, .error ⟨.failedPrecondition,
        "settlement chain client is not initialized for requested chain"⟩) := by
  refine ⟨by decide +kernel, by decide +kernel, ?_⟩
  have htargets : ¬(checkItems offline table (normalizeHash request.cancelTxHash)
      request.orders).cancelTargets = [] := by
    decide +kernel
  unfold cancelOrders
  rw [if_neg (by decide), if_neg (by decide), if_neg (by decide +kernel)]
  simp only [if_neg htargets]
  rfl

end Backend
