-- SUMMARY: The executor's activity trail: every change of status has a row of its own as long as an order does not pass the same site twice.
import FluxSwap.Backend.Workers
import FluxSwap.Lib.Text
import Mathlib.Data.List.Perm.Subperm

/-!
# The activity trail of the executor

Where the executor changes a status for good reason, it records an activity in the same
transaction. The row has a dedupe key, and a row whose key is there already is not inserted. The
key is made of the order and of the place in the code, without anything that tells one round from
the next. Times, blocks and payloads of activities are left out.
-/

namespace Backend

open Status Text

/-! ## Activities -/

/-- The places of `evaluateOrder` and `checkPendingReceipt` that record an activity. -/
inductive WriteSite
  | claim
  | expiredCheckExecuted
  | expiredCheckCancelled
  | submitFailed
  | submit
  | reportedExecuted
  | reportedCancelled
  | submissionInterrupted
  | missingTxHash
  | cancelReceiptMissing
  | cancelMissing
  | executeMissing
  | cancelConfirmed
  | executeConfirmed
  | cancelRevertedReceipt
  | expire
  | executeReverted
  deriving DecidableEq

/-- The constants of a site: the two parts of its dedupe key, and what its row says. -/
structure SiteConstants where
  kind         : String
  detail       : Option String
  activityType : String
  toStatus     : Status
  reasonCode   : String

def WriteSite.constants : WriteSite → SiteConstants
  | claim => ⟨"claim", none, "execution_claimed", submittingExecute, "claimed_for_submission"⟩
  | expiredCheckExecuted => ⟨"reconcile", some "expired_check_executed", "chain_state_reconciled",
      executed, "confirmed_by_chain_state"⟩
  | expiredCheckCancelled => ⟨"reconcile", some "expired_check_cancelled",
      "chain_state_reconciled", cancelled, "confirmed_by_chain_state"⟩
  | submitFailed => ⟨"submit_failed", none, "execution_reverted", opened, "submit_failed"⟩
  | submit => ⟨"submit", none, "execution_submitted", pendingExecute, "submitted_to_chain"⟩
  | reportedExecuted => ⟨"reconcile", some "reported_executed", "chain_state_reconciled",
      executed, "confirmed_by_chain_state"⟩
  | reportedCancelled => ⟨"reconcile", some "reported_cancelled", "chain_state_reconciled",
      cancelled, "confirmed_by_chain_state"⟩
  | submissionInterrupted => ⟨"reopen", some "submission_interrupted", "order_reopened", opened,
      "submission_interrupted_before_tx_hash"⟩
  | missingTxHash => ⟨"reopen", some "missing_tx_hash", "order_reopened", opened,
      "pending_without_valid_tx_hash"⟩
  | cancelReceiptMissing => ⟨"cancel_confirmed", some "receipt_missing", "cancel_confirmed",
      cancelled, "confirmed_by_chain_state"⟩
  | cancelMissing => ⟨"reopen", some "cancel_missing", "order_reopened", opened,
      "cancel_tx_missing_from_chain_retryable"⟩
  | executeMissing => ⟨"reopen", some "execute_missing", "order_reopened", opened,
      "submitted_tx_missing_from_chain_retryable"⟩
  | cancelConfirmed => ⟨"cancel_confirmed", none, "cancel_confirmed", cancelled,
      "confirmed_by_chain_state"⟩
  | executeConfirmed => ⟨"execute_confirmed", none, "execution_confirmed", executed,
      "confirmed_by_chain_state"⟩
  | cancelRevertedReceipt => ⟨"cancel_confirmed", some "reverted_receipt", "cancel_confirmed",
      cancelled, "confirmed_by_chain_state"⟩
  | expire => ⟨"expire", none, "order_expired", expired, "expired_after_reverted_execute"⟩
  | executeReverted => ⟨"reopen", some "execute_reverted", "order_reopened", opened,
      "tx_reverted_retryable"⟩

/-- What the trail tells of a change of status. -/
structure Change where
  orderKey   : OrderKey
  fromStatus : Status
  toStatus   : Status
  txHash     : Option TxHash
  deriving DecidableEq

/-- A row of `order_activities`. -/
structure Activity extends Change where
  activityType : String
  reasonCode   : String
  dedupeKey    : Text

/-- The texts that the columns of an order's key hold. -/
def OrderKey.texts (key : OrderKey) : List Text :=
  [formatInt key.chainId, lowerHex 40 key.settlementAddress.val, lowerHex 64 key.orderHash.val]

/-- The parts of a dedupe key, between colons. -/
def WriteSite.keyParts (site : WriteSite) (key : OrderKey) : List Text :=
  ["executor".toList, site.constants.kind.toList] ++ key.texts ++
    (site.constants.detail.map String.toList).toList

/-- The dedupe key of an activity. It is shorter than the 191 bytes beyond which keys are
    hashed. -/
def WriteSite.dedupeKey (site : WriteSite) (key : OrderKey) : Text :=
  [':'].intercalate (site.keyParts key)

/-- `RecordOrderActivity`: on a conflict of the key nothing is done. -/
def recordOrderActivity (activities : List Activity) (activity : Activity) : List Activity :=
  if activities.any fun row => row.dedupeKey = activity.dedupeKey then activities
  else activity :: activities

/-- The arguments of `updateOrderAndRecordActivity`, and those of
    `updateClaimedOrderAndRecordActivity` with what it fills in. -/
structure RecordedUpdate where
  key        : OrderKey
  update     : Update
  site       : WriteSite
  fromStatus : Status
  txHash     : Option TxHash

def RecordedUpdate.activity (call : RecordedUpdate) : Activity where
  orderKey := call.key
  fromStatus := call.fromStatus
  toStatus := call.site.constants.toStatus
  txHash := call.txHash
  activityType := call.site.constants.activityType
  reasonCode := call.site.constants.reasonCode
  dedupeKey := call.site.dedupeKey call.key

/-! ## The sites of evaluateOrder -/

/-- The site at which the branch for an order whose time is over ends. -/
def expiredSite (answers : Answers) : Option WriteSite :=
  match answers.isOrderExecuted with
  | .error _ => none
  | .ok true => some .expiredCheckExecuted
  | .ok false =>
    match answers.isNonceInvalidated with
    | .ok true => some .expiredCheckCancelled
    | _ => none

/-- The site at which the branch for an order that is turned down ends. -/
def blockedSite (reason : String) (answers : Answers) : Option WriteSite :=
  if reason = "ORDER_ALREADY_EXECUTED" then
    match answers.isOrderExecuted with
    | .ok true => some .reportedExecuted
    | _ => none
  else if reason = "NONCE_INVALIDATED" then
    match answers.isNonceInvalidated with
    | .ok true => some .reportedCancelled
    | _ => none
  else none

/-- The site at which `evaluateOrder` ends after the claim and before a submission. -/
def evaluationSite (payload : SettlementOrder) (answers : Answers) : Option WriteSite :=
  match answers.currentBlockTimestamp with
  | .error _ => none
  | .ok currentBlockTimestamp =>
    if uint64 payload.expiry ≤ currentBlockTimestamp then expiredSite answers
    else
      match answers.canExecuteOrder with
      | .error _ => none
      | .ok reply => if reply.executable then none else blockedSite reply.reason answers

/-! ## The sites of checkPendingReceipt -/

def missingSite (isPendingCancel : Bool) (order : Order) (answers : Answers) : Option WriteSite :=
  if isPendingCancel then
    match parseNonNegativeBigInt order.nonce "nonce" with
    | .error _ => none
    | .ok _ =>
      match answers.isNonceInvalidated with
      | .error _ => none
      | .ok true => some .cancelReceiptMissing
      | .ok false => some .cancelMissing
  else some .executeMissing

def successSite (isPendingCancel : Bool) (order : Order) (answers : Answers) : Option WriteSite :=
  if isPendingCancel then
    match parseNonNegativeBigInt order.nonce "nonce" with
    | .error _ => none
    | .ok _ =>
      match answers.isNonceInvalidated with
      | .ok true => some .cancelConfirmed
      | _ => none
  else
    match answers.isOrderExecuted with
    | .ok true => some .executeConfirmed
    | _ => none

def revertedSite (isPendingCancel : Bool) (order : Order) (answers : Answers) : Option WriteSite :=
  if isPendingCancel then
    match parseNonNegativeBigInt order.nonce "nonce" with
    | .error _ => none
    | .ok _ =>
      match answers.isNonceInvalidated with
      | .ok true => some .cancelRevertedReceipt
      | _ => none
  else
    match answers.currentBlockTimestamp with
    | .error _ => some .executeReverted
    | .ok currentBlockTimestamp =>
      match parsePositiveBigInt order.expiry "expiry" with
      | .error _ => none
      | .ok expiry =>
        if uint64 expiry ≤ currentBlockTimestamp then some .expire else some .executeReverted

/-- The site at which `checkPendingReceipt` ends. -/
def receiptSite (isPendingCancel : Bool) (order : Order) (answers : Answers) : Option WriteSite :=
  match pendingTxHash isPendingCancel order with
  | none => some .missingTxHash
  | some _ =>
    match answers.receiptStatus with
    | .error _ => none
    | .ok (some receipt) =>
      if receipt.successful then successSite isPendingCancel order answers
      else revertedSite isPendingCancel order answers
    | .ok none =>
      match answers.transactionKnown with
      | .ok false => missingSite isPendingCancel order answers
      | _ => none

/-! ## The recorded updates -/

/-- The call in the middle of `evaluateOrder`; the status is that of the order in hand. -/
def evaluationCall (cfg : Config) (key : OrderKey) (payload : SettlementOrder) (order : Order)
    (answers : Answers) : Option RecordedUpdate :=
  match evaluateClaimed cfg payload order answers, evaluationSite payload answers with
  | .error u, some site => some ⟨key, u, site, order.status, none⟩
  | _, _ => none

/-- The call at the end of `evaluateOrder`. -/
def submissionCall (key : OrderKey) (quote : FeeQuote) :
    Except String TxHash → RecordedUpdate
  | .error error =>
    ⟨key, submissionResult quote (.error error), .submitFailed, submittingExecute, none⟩
  | .ok txHash =>
    ⟨key, submissionResult quote (.ok txHash), .submit, submittingExecute, some txHash⟩

/-- The call of `checkPendingReceipt`. Without a hash, the status is that of the order in hand. -/
def receiptCall (key : OrderKey) (isPendingCancel : Bool) (order : Order) (answers : Answers) :
    Option RecordedUpdate :=
  match checkPendingReceipt isPendingCancel order answers,
      receiptSite isPendingCancel order answers with
  | some u, some .missingTxHash => some ⟨key, u, .missingTxHash, order.status, none⟩
  | some u, some site => some ⟨key, u, site, currentPendingStatus isPendingCancel,
      pendingTxHash isPendingCancel order⟩
  | _, _ => none

/-- The recorded update that a step of an instance makes. -/
def Task.recorded (cfg : Config) : Task → Act → Option RecordedUpdate
  | .scanning ((key, order) :: _), .evaluateOrder answers =>
    if shouldDelayProtocolBlockedRecheck order answers then none
    else
      match buildSettlementOrder order with
      | .error _ => none
      | .ok _ => some ⟨key, Database.claim, .claim, opened, none⟩
  | .claimed key payload order _, .executeOrder answers _ =>
    evaluationCall cfg key payload order answers
  | .submitted key quote result _, .recordSubmission => some (submissionCall key quote result)
  | .reconciling ((key, order) :: _), .checkPendingReceipt answers =>
    if order.status = submittingExecute then
      if order.submittedTxHash.isSome then none
      else some ⟨key, submissionInterrupted, .submissionInterrupted, submittingExecute, none⟩
    else receiptCall key (decide (order.status = pendingCancel)) order answers
  | .tracking key order _, .trackReceipt answers => receiptCall key false order answers
  | _, _ => none

/-! ## The backend with its trail -/

/-- A change of status that was committed with an activity: the statuses are those of the row. -/
structure Commit extends Change where
  site : WriteSite

/-- The backend, the rows of `order_activities`, and what was committed. -/
structure Trailed where
  backend    : State
  activities : List Activity
  committed  : List Commit

/-- The steps of the backend. Other writers record activities as well. -/
inductive TrailOp
  | worker (i : Nat) (act : Act)
  | cancelOrders (key : OrderKey) (cancelTxHash : TxHash) (rows : List Activity)
  | event (call : EventService.Call) (rows : List Activity)

/-- The key is one of the executor's. Those of the other writers start with `rpc:`, `indexer:`
    and `reorg:`. -/
def isExecutorKey (dedupeKey : Text) : Bool := "executor:".toList.isPrefixOf dedupeKey

namespace Trailed

/-- The transaction of a recorded update: without a change there is no activity. -/
def record (s : Trailed) (backend : State) (call : RecordedUpdate) : Trailed :=
  match s.backend.db.orders call.key, backend.db.orders call.key with
  | some old, some new =>
    if call.update.statuses.contains old.status then
      { backend := backend
        activities := recordOrderActivity s.activities call.activity
        committed := ⟨⟨call.key, old.status, new.status, call.txHash⟩, call.site⟩ :: s.committed }
    else { s with backend := backend }
  | _, _ => { s with backend := backend }

/-- A step of another writer and the activities it records. -/
def others (s : Trailed) (result : Except OpError State) (rows : List Activity) :
    Except OpError Trailed :=
  match result with
  | .error error => .error error
  | .ok backend =>
    if rows.any fun row => isExecutorKey row.dedupeKey then .error .notEnabled
    else .ok { s with
      backend := backend
      activities := rows.foldl recordOrderActivity s.activities }

end Trailed

def execTrail (cfg : Config) (s : Trailed) : TrailOp → Except OpError Trailed
  | .worker i act =>
    match exec cfg s.backend (.worker i act) with
    | .error error => .error error
    | .ok backend =>
      match (s.backend.tasks i).recorded cfg act with
      | some call => .ok (s.record backend call)
      | none => .ok { s with backend := backend }
  | .cancelOrders key cancelTxHash rows =>
    s.others (exec cfg s.backend (.cancelOrders key cancelTxHash)) rows
  | .event call rows => s.others (exec cfg s.backend (.event call)) rows

namespace Trailed

/-- Instances that have not started, and no activity of an executor. -/
def Initial (s : Trailed) : Prop :=
  s.backend.Initial ∧ (∀ row ∈ s.activities, isExecutorKey row.dedupeKey = false) ∧
    s.committed = []

/-- The executor's rows are the changes that were committed, with one row for each. -/
def Complete (s : Trailed) : Prop :=
  ((s.activities.filter fun row => isExecutorKey row.dedupeKey).map Activity.toChange).Perm
    (s.committed.map Commit.toChange)

end Trailed

/-- The backend with its trail, as a system. -/
def trail (cfg : Config) : System Trailed TrailOp := System.ofCalls Trailed.Initial (execTrail cfg)

/-- An update that writes the order is the first one of its site for the order. An order that has
    lost its hash is in hand with the status that it has. -/
def SinglePass (cfg : Config) (s : Trailed) : TrailOp → Prop
  | .worker i act =>
    match (s.backend.tasks i).recorded cfg act with
    | none => True
    | some call => s.backend.db.hasStatusIn call.key call.update.statuses = true →
        (∀ c ∈ s.committed, c.orderKey = call.key → c.site ≠ call.site) ∧
        (call.site = .missingTxHash → s.backend.db.statusOf call.key = some call.fromStatus)
  | .cancelOrders _ _ _ | .event _ _ => True

instance (cfg : Config) (s : Trailed) (op : TrailOp) : Decidable (SinglePass cfg s op) := by
  unfold SinglePass
  split
  · split <;> infer_instance
  · infer_instance
  · infer_instance

/-! ## Dedupe keys -/

/-- All sites. -/
def WriteSite.all : List WriteSite :=
  [claim, expiredCheckExecuted, expiredCheckCancelled, submitFailed, submit, reportedExecuted,
    reportedCancelled, submissionInterrupted, missingTxHash, cancelReceiptMissing, cancelMissing,
    executeMissing, cancelConfirmed, executeConfirmed, cancelRevertedReceipt, expire,
    executeReverted]

/-- A site is known by the two parts of its keys. -/
theorem WriteSite.find_all (site : WriteSite) :
    WriteSite.all.find? (fun other => other.constants.kind = site.constants.kind ∧
      other.constants.detail = site.constants.detail) = some site := by
  cases site <;> decide

theorem WriteSite.eq_of_constants {site site' : WriteSite} (hkind : site.constants.kind = site'.constants.kind)
    (hdetail : site.constants.detail = site'.constants.detail) : site = site' := by
  have h := site.find_all
  rw [hkind, hdetail, site'.find_all] at h
  exact (Option.some.inj h).symm

theorem colon_notMem_formatInt (n : Nat) : ':' ∉ formatInt n := fun h =>
  absurd (Nat.isDigit_of_mem_toDigits (by decide) (by decide) h) (by decide)

theorem colon_notMem_lowerHex (k n : Nat) : ':' ∉ lowerHex k n := by
  intro h
  rcases List.mem_cons.mp h with h | h
  · exact absurd h (by decide)
  rcases List.mem_cons.mp h with h | h
  · exact absurd h (by decide)
  · exact absurd (isHexDigit_of_mem_lowerHexDigits h) (by decide)

theorem WriteSite.colon_notMem_constants (site : WriteSite) : ':' ∉ site.constants.kind.toList ∧
    ∀ detail, site.constants.detail = some detail → ':' ∉ detail.toList := by
  cases site <;> refine ⟨by decide, ?_⟩ <;> rintro _ ⟨⟩ <;> decide

theorem WriteSite.colon_notMem_keyParts (site : WriteSite) (key : OrderKey) :
    ∀ part ∈ site.keyParts key, ':' ∉ part := by
  have hconstants := site.colon_notMem_constants
  intro part hpart
  rcases List.mem_append.mp hpart with hpart | hpart
  · rcases List.mem_append.mp hpart with hpart | hpart
    · rcases List.mem_cons.mp hpart with rfl | hpart
      · decide
      · rw [List.mem_singleton.mp hpart]
        exact hconstants.1
    · rcases List.mem_cons.mp hpart with rfl | hpart
      · exact colon_notMem_formatInt _
      rcases List.mem_cons.mp hpart with rfl | hpart
      · exact colon_notMem_lowerHex _ _
      · rw [List.mem_singleton.mp hpart]
        exact colon_notMem_lowerHex _ _
  · obtain ⟨detail, hdetail, rfl⟩ := Option.map_eq_some_iff.mp (Option.mem_toList.mp hpart)
    exact hconstants.2 detail hdetail

theorem lowerHex_injective {k n n' : Nat} (hn : n < 16 ^ k) (hn' : n' < 16 ^ k)
    (h : lowerHex k n = lowerHex k n') : n = n' := by
  have hdigits : lowerHexDigits k n = lowerHexDigits k n' := congrArg (List.drop 2) h
  have hvalue := congrArg hexadecimal hdigits
  rwa [hexadecimal_lowerHexDigits, hexadecimal_lowerHexDigits, Nat.mod_eq_of_lt hn,
    Nat.mod_eq_of_lt hn'] at hvalue

theorem OrderKey.eq_of_texts {key key' : OrderKey} (h : key.texts = key'.texts) : key = key' := by
  unfold OrderKey.texts at h
  simp only [List.cons.injEq, and_true] at h
  obtain ⟨hchain, haddress, hhash⟩ := h
  have hchainId : key.chainId = key'.chainId := by
    have hparse := congrArg parseInt hchain
    rw [parseInt_formatInt, parseInt_formatInt] at hparse
    exact Int.ofNat.inj (Option.some.inj hparse)
  have hsettlement : key.settlementAddress = key'.settlementAddress :=
    Fin.ext (lowerHex_injective key.settlementAddress.isLt key'.settlementAddress.isLt haddress)
  have horder : key.orderHash = key'.orderHash :=
    Fin.ext (lowerHex_injective key.orderHash.isLt key'.orderHash.isLt hhash)
  cases key
  cases key'
  subst hchainId hsettlement horder
  rfl

theorem detail_eq_of_texts {detail detail' : Option String}
    (h : (detail.map String.toList).toList = (detail'.map String.toList).toList) :
    detail = detail' := by
  have hhead := congrArg List.head? h
  rw [Option.head?_toList, Option.head?_toList] at hhead
  exact Option.map_injective (fun _ _ => String.toList_injective) hhead

/-- A dedupe key tells the site and the order. -/
theorem WriteSite.dedupeKey_injective {site site' : WriteSite} {key key' : OrderKey}
    (h : site.dedupeKey key = site'.dedupeKey key') : site = site' ∧ key = key' := by
  have hparts : site.keyParts key = site'.keyParts key' := by
    have hsplit := congrArg (List.splitOn ':') h
    rwa [dedupeKey, dedupeKey, List.splitOn_intercalate _ (site.colon_notMem_keyParts key) nofun,
      List.splitOn_intercalate _ (site'.colon_notMem_keyParts key') nofun] at hsplit
  unfold keyParts OrderKey.texts at hparts
  simp only [List.cons_append, List.nil_append, List.cons.injEq, true_and] at hparts
  obtain ⟨hkind, hchain, haddress, hhash, hdetail⟩ := hparts
  refine ⟨WriteSite.eq_of_constants (String.toList_injective hkind) (detail_eq_of_texts hdetail),
    OrderKey.eq_of_texts ?_⟩
  unfold OrderKey.texts
  rw [hchain, haddress, hhash]

theorem WriteSite.isExecutorKey_dedupeKey (site : WriteSite) (key : OrderKey) :
    isExecutorKey (site.dedupeKey key) = true := by
  unfold isExecutorKey dedupeKey keyParts
  rw [List.cons_append, List.cons_append, List.cons_append, List.cons_append,
    List.intercalate_cons_cons]
  exact List.isPrefixOf_iff_prefix.mpr (List.prefix_append _ _)

/-! ## What a recorded update writes -/

/-- The update takes an order from this status to the one that its site tells. -/
structure RecordedUpdate.Sound (call : RecordedUpdate) (st : Status) : Prop where
  statuses : call.update.statuses = [st]
  toStatus : ∀ order, (call.update.set order).status = call.site.constants.toStatus
  fromStatus : call.site ≠ .missingTxHash → call.fromStatus = st

section Sites

variable {cfg : Config} {key : OrderKey} {payload : SettlementOrder} {order : Order}
  {answers : Answers} {site : WriteSite} {call : RecordedUpdate} {isPendingCancel : Bool}

theorem expiredSite_toStatus (h : expiredSite answers = some site) (o : Order) :
    ((evaluateExpired answers).set o).status = site.constants.toStatus := by
  unfold expiredSite at h
  unfold evaluateExpired
  cases hexecuted : answers.isOrderExecuted with
  | error e => simp [hexecuted] at h
  | ok executed =>
    rw [hexecuted] at h
    cases executed with
    | true =>
      cases h
      rfl
    | false =>
      cases hinvalidated : answers.isNonceInvalidated with
      | error e => simp [hinvalidated] at h
      | ok invalidated =>
        rw [hinvalidated] at h
        cases invalidated with
        | true =>
          cases h
          rfl
        | false => cases h

theorem blockedSite_toStatus {reason : String} (h : blockedSite reason answers = some site)
    (o : Order) : ((evaluateBlocked reason answers).set o).status = site.constants.toStatus := by
  unfold blockedSite at h
  unfold evaluateBlocked
  split at h
  · split at h
    · rename_i hreason _ hexecuted
      cases h
      rw [if_pos hreason, hexecuted]
      rfl
    · cases h
  · split at h
    · split at h
      · rename_i hother hreason _ hinvalidated
        cases h
        rw [if_neg hother, if_pos hreason, hinvalidated]
        rfl
      · cases h
    · cases h

/-- An evaluation that ends at a site ends with its update. -/
theorem evaluationSite_toStatus {u : Update} (hsite : evaluationSite payload answers = some site)
    (hended : evaluateClaimed cfg payload order answers = .error u) (o : Order) :
    (u.set o).status = site.constants.toStatus := by
  unfold evaluationSite at hsite
  unfold evaluateClaimed at hended
  cases htime : answers.currentBlockTimestamp with
  | error e => simp [htime] at hsite
  | ok now =>
    rw [htime] at hsite hended
    by_cases hexpired : uint64 payload.expiry ≤ now
    · simp only [if_pos hexpired] at hsite
      simp only [answered, Except.bind, bind, if_pos hexpired] at hended
      cases hended
      exact expiredSite_toStatus hsite o
    · simp only [if_neg hexpired] at hsite
      cases hreply : answers.canExecuteOrder with
      | error e => simp [hreply] at hsite
      | ok reply =>
        rw [hreply] at hsite hended
        cases hexecutable : reply.executable with
        | true => simp [hexecutable] at hsite
        | false =>
          simp only [hexecutable, Bool.false_eq_true, if_false] at hsite
          simp only [answered, Except.bind, bind, if_neg hexpired, hexecutable, Bool.false_eq_true,
            if_false] at hended
          cases hended
          exact blockedSite_toStatus hsite o

theorem evaluationCall_sound (h : evaluationCall cfg key payload order answers = some call)
    (horder : order.status = submittingExecute) :
    call.key = key ∧ evaluateClaimed cfg payload order answers = .error call.update ∧
      call.Sound submittingExecute := by
  unfold evaluationCall at h
  split at h
  · rename_i u site hended hsite
    cases h
    exact ⟨rfl, hended, (evaluateClaimed_ends cfg payload order answers u hended).statuses,
      evaluationSite_toStatus hsite hended, fun _ => horder⟩
  · cases h

theorem submissionCall_sound (quote : FeeQuote) (result : Except String TxHash) :
    (submissionCall key quote result).Sound submittingExecute := by
  cases result <;> exact ⟨rfl, fun _ => rfl, fun _ => rfl⟩

theorem missingSite_toStatus {u : Update}
    (hsite : missingSite isPendingCancel order answers = some site)
    (hcheck : checkMissing isPendingCancel order answers = some u) (o : Order) :
    (u.set o).status = site.constants.toStatus := by
  unfold missingSite at hsite
  unfold checkMissing at hcheck
  cases isPendingCancel with
  | false =>
    cases hsite
    cases hcheck
    rfl
  | true =>
    simp only [if_true] at hsite hcheck
    cases hnonce : parseNonNegativeBigInt order.nonce "nonce" with
    | error e => simp [hnonce] at hsite
    | ok nonce =>
      rw [hnonce] at hsite hcheck
      cases hinvalidated : answers.isNonceInvalidated with
      | error e => simp [hinvalidated] at hsite
      | ok invalidated =>
        rw [hinvalidated] at hsite hcheck
        cases invalidated <;> cases hsite <;> cases hcheck <;> rfl

theorem successSite_toStatus {u : Update} {txHash : TxHash} {receipt : Receipt}
    (hsite : successSite isPendingCancel order answers = some site)
    (hcheck : checkSuccess isPendingCancel order txHash receipt answers = some u) (o : Order) :
    (u.set o).status = site.constants.toStatus := by
  unfold successSite at hsite
  unfold checkSuccess at hcheck
  cases isPendingCancel with
  | false =>
    simp only [Bool.false_eq_true, if_false] at hsite hcheck
    split at hsite
    · rename_i hexecuted
      rw [hexecuted] at hcheck
      cases hsite
      cases hcheck
      rfl
    · cases hsite
  | true =>
    simp only [if_true] at hsite hcheck
    cases hnonce : parseNonNegativeBigInt order.nonce "nonce" with
    | error e => simp [hnonce] at hsite
    | ok nonce =>
      simp only [hnonce] at hsite hcheck
      split at hsite
      · rename_i hinvalidated
        rw [hinvalidated] at hcheck
        cases hsite
        cases hcheck
        rfl
      · cases hsite

theorem revertedSite_toStatus {receipt : Receipt}
    (hsite : revertedSite isPendingCancel order answers = some site) (o : Order) :
    ((checkReverted isPendingCancel order receipt answers).set o).status =
      site.constants.toStatus := by
  unfold revertedSite at hsite
  unfold checkReverted
  cases isPendingCancel with
  | false =>
    simp only [Bool.false_eq_true, if_false] at hsite ⊢
    cases htime : answers.currentBlockTimestamp with
    | error e =>
      simp only [htime] at hsite
      cases hsite
      rfl
    | ok now =>
      simp only [htime] at hsite
      cases hexpiry : parsePositiveBigInt order.expiry "expiry" with
      | error e => simp [hexpiry] at hsite
      | ok expiry =>
        simp only [hexpiry] at hsite ⊢
        split at hsite <;> cases hsite
        · rw [if_pos ‹_›]
          rfl
        · rw [if_neg ‹_›]
          rfl
  | true =>
    simp only [if_true] at hsite ⊢
    cases hnonce : parseNonNegativeBigInt order.nonce "nonce" with
    | error e => simp [hnonce] at hsite
    | ok nonce =>
      simp only [hnonce] at hsite ⊢
      cases hinvalidated : answers.isNonceInvalidated with
      | error e => simp [hinvalidated] at hsite
      | ok invalidated =>
        rw [hinvalidated] at hsite
        cases invalidated with
        | true =>
          cases hsite
          rfl
        | false => cases hsite

/-- A check that ends at a site ends with its update. -/
theorem receiptSite_toStatus {u : Update}
    (hsite : receiptSite isPendingCancel order answers = some site)
    (hcheck : checkPendingReceipt isPendingCancel order answers = some u) (o : Order) :
    (u.set o).status = site.constants.toStatus := by
  unfold receiptSite at hsite
  unfold checkPendingReceipt at hcheck
  cases hhash : pendingTxHash isPendingCancel order with
  | none =>
    rw [hhash] at hsite hcheck
    cases hsite
    cases hcheck
    rfl
  | some txHash =>
    rw [hhash] at hsite hcheck
    cases hreceipt : answers.receiptStatus with
    | error e => simp [hreceipt] at hsite
    | ok found =>
      simp only [hreceipt] at hsite hcheck
      cases found with
      | some receipt =>
        simp only at hsite hcheck
        split at hsite
        · rename_i hsuccessful
          rw [if_pos hsuccessful] at hcheck
          exact successSite_toStatus hsite hcheck o
        · rename_i hreverted
          rw [if_neg hreverted] at hcheck
          cases hcheck
          exact revertedSite_toStatus hsite o
      | none =>
        simp only at hsite hcheck
        split at hsite
        · rename_i hunknown
          rw [hunknown] at hcheck
          exact missingSite_toStatus hsite hcheck o
        · cases hsite

theorem receiptCall_sound (h : receiptCall key isPendingCancel order answers = some call) :
    call.key = key ∧ checkPendingReceipt isPendingCancel order answers = some call.update ∧
      call.Sound (currentPendingStatus isPendingCancel) := by
  unfold receiptCall at h
  split at h
  · rename_i u hcheck hsite
    cases h
    exact ⟨rfl, hcheck, (checkPendingReceipt_decides hcheck).statuses,
      receiptSite_toStatus hsite hcheck, fun hother => (hother rfl).elim⟩
  · rename_i u site hcheck hsite
    cases h
    exact ⟨rfl, hcheck, (checkPendingReceipt_decides hcheck).statuses,
      receiptSite_toStatus hsite hcheck, fun _ => rfl⟩
  · cases h

/-- The order in hand after a claim is in `submitting_execute`. -/
def Task.ClaimedRow : Task → Prop
  | .claimed _ _ order _ => order.status = submittingExecute
  | _ => True

theorem Task.ClaimedRow.next {db db' : Database} {task task' : Task} {act : Act}
    (hstep : Task.Step cfg db task act db' task') : task'.ClaimedRow := by
  cases hstep with
  | claim hbegin =>
    obtain ⟨hopened, rfl, hrow⟩ := beginEvaluation_some hbegin
    obtain ⟨old, hold, hstatus⟩ := Option.map_eq_some_iff.mp hopened
    rw [Database.orders_update, if_pos rfl, hold] at hrow
    obtain rfl := Option.some.inj hrow
    unfold Task.ClaimedRow Update.apply
    rw [hstatus]
    rfl
  | check hbegin =>
    unfold beginCheck at hbegin
    split at hbegin
    · split at hbegin <;> cases hbegin <;> trivial
    · split at hbegin <;> cases hbegin <;> trivial
  | @skip task task' hrest =>
    unfold Task.rest at hrest
    split at hrest <;> cases hrest <;> trivial
  | _ => trivial

theorem Task.recorded_skip (task : Task) : task.recorded cfg .skip = none := by
  cases task with
  | scanning orders => cases orders <;> rfl
  | reconciling orders => cases orders <;> rfl
  | _ => rfl

theorem Task.recorded_stop (task : Task) : task.recorded cfg .stop = none := by
  cases task with
  | scanning orders => cases orders <;> rfl
  | reconciling orders => cases orders <;> rfl
  | _ => rfl

/-- An evaluation that gets to the claim tries it, with or without success. -/
theorem claim_recorded {rest : List (OrderKey × Order)}
    (h : Task.recorded cfg (.scanning ((key, order) :: rest)) (.evaluateOrder answers) =
      some call) (db : Database) :
    (beginEvaluation answers db key order).1 = db.update call.key call.update ∧
      call.Sound opened := by
  simp only [Task.recorded] at h
  unfold beginEvaluation
  split at h
  · cases h
  · rename_i hready
    rw [if_neg hready]
    cases hpayload : buildSettlementOrder order with
    | error e => simp [hpayload] at h
    | ok payload =>
      simp only [hpayload] at h ⊢
      cases h
      refine ⟨?_, rfl, fun _ => rfl, fun _ => rfl⟩
      rw [Database.claimOpenOrderForExecution_eq]
      cases db.hasStatusIn key Database.claim.statuses <;> rfl

/-- An order of the receipt loop. -/
theorem check_recorded {rest : List (OrderKey × Order)}
    (h : Task.recorded cfg (.reconciling ((key, order) :: rest)) (.checkPendingReceipt answers) =
      some call) (db : Database) :
    (beginCheck answers db key order rest).1 = db.update call.key call.update ∧
      ∃ st, call.Sound st := by
  simp only [Task.recorded] at h
  unfold beginCheck
  by_cases hsubmitting : order.status = submittingExecute
  · rw [if_pos hsubmitting] at h ⊢
    split at h
    · cases h
    · rename_i hlost
      cases h
      rw [if_neg hlost]
      exact ⟨rfl, _, rfl, fun _ => rfl, fun _ => rfl⟩
  · rw [if_neg hsubmitting] at h ⊢
    obtain ⟨rfl, hcheck, hsound⟩ := receiptCall_sound h
    rw [hcheck]
    exact ⟨rfl, _, hsound⟩

/-- A step that makes a recorded update makes no other one. -/
theorem Task.recorded_next {db db' : Database} {task task' : Task} {act : Act}
    (hclaimed : task.ClaimedRow) (hstep : Task.Step cfg db task act db' task')
    (h : task.recorded cfg act = some call) :
    db' = db.update call.key call.update ∧ ∃ st, call.Sound st := by
  cases hstep with
  | scanOnce => cases h
  | reconcilePendingOnce => cases h
  | pass hbegin =>
    obtain ⟨hdb, hsound⟩ := claim_recorded h db
    rw [hbegin] at hdb
    exact ⟨hdb, _, hsound⟩
  | claim hbegin =>
    obtain ⟨hdb, hsound⟩ := claim_recorded h db
    rw [hbegin] at hdb
    exact ⟨hdb, _, hsound⟩
  | submit hevaluate =>
    obtain ⟨-, hended, -⟩ := evaluationCall_sound h hclaimed
    rw [hevaluate] at hended
    cases hended
  | close hevaluate =>
    obtain ⟨rfl, hended, hsound⟩ := evaluationCall_sound h hclaimed
    rw [hevaluate] at hended
    obtain rfl := Except.error.inj hended
    exact ⟨rfl, _, hsound⟩
  | @record key quote result rest =>
    obtain rfl := Option.some.inj h
    refine ⟨?_, _, submissionCall_sound _ _⟩
    cases result <;> rfl
  | check hbegin =>
    obtain ⟨hdb, hsound⟩ := check_recorded h db
    rw [hbegin] at hdb
    exact ⟨hdb, hsound⟩
  | refresh => cases h
  | lost => cases h
  | track =>
    obtain ⟨rfl, hcheck, hsound⟩ := receiptCall_sound h
    refine ⟨?_, _, hsound⟩
    unfold finishCheck
    rw [hcheck]
  | skip => rw [Task.recorded_skip] at h; cases h
  | stop => rw [Task.recorded_stop] at h; cases h

end Sites

/-! ## The trail -/

/-- What holds as long as no site is passed twice. -/
structure Trailed.Good (s : Trailed) : Prop where
  complete : s.Complete
  keys : ∀ row ∈ s.activities, isExecutorKey row.dedupeKey = true →
    ∃ c ∈ s.committed, row.dedupeKey = c.site.dedupeKey c.orderKey
  claimed : ∀ i, (s.backend.tasks i).ClaimedRow

section Trail

variable {cfg : Config} {s s' : Trailed} {backend : State}

/-- What other writers record leaves the rows of the executor. -/
theorem recordOrderActivity_others {activities rows : List Activity}
    (h : ∀ row ∈ rows, isExecutorKey row.dedupeKey = false) :
    (rows.foldl recordOrderActivity activities).filter (fun row => isExecutorKey row.dedupeKey) =
      activities.filter fun row => isExecutorKey row.dedupeKey := by
  induction rows generalizing activities with
  | nil => rfl
  | cons row rows ih =>
    rw [List.foldl_cons, ih fun other hother => h other (List.mem_cons_of_mem _ hother)]
    unfold recordOrderActivity
    split
    · rfl
    · rw [List.filter_cons_of_neg]
      rw [h row List.mem_cons_self]
      decide

/-- The executor's rows decide about a good trail. -/
theorem Trailed.Good.of_rows (h : s.Good)
    (hrows : s'.activities.filter (fun row => isExecutorKey row.dedupeKey) =
      s.activities.filter fun row => isExecutorKey row.dedupeKey)
    (hcommitted : s'.committed = s.committed)
    (hclaimed : ∀ i, (s'.backend.tasks i).ClaimedRow) : s'.Good where
  complete := by
    unfold Complete
    rw [hrows, hcommitted]
    exact h.complete
  keys row hrow hkey := by
    have hmem : row ∈ s'.activities.filter fun row => isExecutorKey row.dedupeKey :=
      List.mem_filter.mpr ⟨hrow, hkey⟩
    rw [hrows] at hmem
    rw [hcommitted]
    exact h.keys row (List.mem_filter.mp hmem).1 hkey
  claimed := hclaimed

theorem Trailed.Good.others {result : Except OpError State} {rows : List Activity} (h : s.Good)
    (htasks : ∀ backend, result = .ok backend → backend.tasks = s.backend.tasks)
    (hstep : s.others result rows = .ok s') : s'.Good := by
  unfold Trailed.others at hstep
  split at hstep
  · cases hstep
  · rename_i backend
    split at hstep
    · cases hstep
    · rename_i hforeign
      cases hstep
      refine h.of_rows (recordOrderActivity_others fun row hrow => ?_) rfl fun i => ?_
      · exact Bool.eq_false_iff.mpr fun hkey => hforeign (List.any_eq_true.mpr ⟨row, hrow, hkey⟩)
      · rw [htasks backend rfl]
        exact h.claimed i

/-- The activity of an update that writes the order tells what happens to its status. -/
theorem RecordedUpdate.Sound.toChange {call : RecordedUpdate} {st : Status} {old new : Order}
    (hsound : call.Sound st) (hdb : backend.db = s.backend.db.update call.key call.update)
    (hold : s.backend.db.orders call.key = some old)
    (hnew : backend.db.orders call.key = some new)
    (hguard : call.update.statuses.contains old.status = true)
    (hmissing : call.site = .missingTxHash → s.backend.db.statusOf call.key = some call.fromStatus) :
    call.activity.toChange = ⟨call.key, old.status, new.status, call.txHash⟩ := by
  have hst : old.status = st := by
    rw [hsound.statuses] at hguard
    exact List.mem_singleton.mp (List.contains_iff_mem.mp hguard)
  have hto : new.status = call.site.constants.toStatus := by
    rw [hdb, Database.orders_update, if_pos rfl, hold] at hnew
    obtain rfl := Option.some.inj hnew
    unfold Update.apply
    rw [if_pos hguard]
    exact hsound.toStatus old
  have hfrom : call.fromStatus = old.status := by
    by_cases hsite : call.site = .missingTxHash
    · have hstored := hmissing hsite
      unfold Database.statusOf at hstored
      rw [hold] at hstored
      exact (Option.some.inj hstored).symm
    · exact (hsound.fromStatus hsite).trans hst.symm
  rw [← hfrom, hto]
  rfl

/-- A recorded update that passes its site for the first time. -/
theorem Trailed.Good.record {call : RecordedUpdate} {st : Status} (h : s.Good)
    (hclaimed : ∀ i, (backend.tasks i).ClaimedRow) (hsound : call.Sound st)
    (hdb : backend.db = s.backend.db.update call.key call.update)
    (hsingle : s.backend.db.hasStatusIn call.key call.update.statuses = true →
      (∀ c ∈ s.committed, c.orderKey = call.key → c.site ≠ call.site) ∧
      (call.site = .missingTxHash → s.backend.db.statusOf call.key = some call.fromStatus)) :
    (s.record backend call).Good := by
  have hidle : Trailed.Good { s with backend := backend } := h.of_rows rfl rfl hclaimed
  unfold Trailed.record
  split
  · rename_i old new hold hnew
    split
    · rename_i hguard
      have hwrites : s.backend.db.hasStatusIn call.key call.update.statuses = true := by
        unfold Database.hasStatusIn
        rw [hold]
        exact hguard
      obtain ⟨hfirst, hmissing⟩ := hsingle hwrites
      have hchange := hsound.toChange hdb hold hnew hguard hmissing
      have hexecutor : isExecutorKey call.activity.dedupeKey = true :=
        call.site.isExecutorKey_dedupeKey call.key
      -- a row with this key would come from an earlier update at the same site
      have hfresh : ¬(s.activities.any fun row => row.dedupeKey = call.activity.dedupeKey) := by
        intro hany
        obtain ⟨row, hrow, hsame⟩ := List.any_eq_true.mp hany
        have hkey : row.dedupeKey = call.activity.dedupeKey := of_decide_eq_true hsame
        obtain ⟨c, hc, hcommit⟩ := h.keys row hrow (hkey ▸ hexecutor)
        obtain ⟨hsite, horder⟩ := WriteSite.dedupeKey_injective (hcommit.symm.trans hkey)
        exact hfirst c hc horder hsite
      unfold recordOrderActivity
      rw [if_neg hfresh]
      exact {
        complete := by
          have hrows : (call.activity :: s.activities).filter
              (fun row => isExecutorKey row.dedupeKey) =
              call.activity :: s.activities.filter fun row => isExecutorKey row.dedupeKey :=
            List.filter_cons_of_pos hexecutor
          unfold Complete
          simp only [hrows, List.map_cons, hchange]
          exact h.complete.cons _
        keys := by
          intro row hrow hkey
          rcases List.mem_cons.mp hrow with rfl | hrow
          · exact ⟨_, List.mem_cons_self, rfl⟩
          · obtain ⟨c, hc, hcommit⟩ := h.keys row hrow hkey
            exact ⟨c, List.mem_cons_of_mem _ hc, hcommit⟩
        claimed := hclaimed }
    · exact hidle
  · exact hidle

theorem Trailed.Initial.good (h : s.Initial) : s.Good where
  complete := by
    obtain ⟨-, hforeign, hnone⟩ := h
    unfold Complete
    rw [hnone, List.filter_eq_nil_iff.mpr fun row hrow => by rw [hforeign row hrow]; decide]
    exact .nil
  keys row hrow hkey := absurd hkey (by rw [h.2.1 row hrow]; decide)
  claimed i := by
    rw [h.1]
    trivial

theorem Trailed.Good.step (h : s.Good) {op : TrailOp} (hsingle : SinglePass cfg s op)
    (hstep : execTrail cfg s op = .ok s') : s'.Good := by
  cases op with
  | cancelOrders key cancelTxHash rows =>
    refine h.others (fun backend hbackend => ?_) hstep
    rw [(exec_cancelOrders hbackend).2]
  | event call rows =>
    refine h.others (fun backend hbackend => ?_) hstep
    obtain ⟨db, -, rfl⟩ := exec_event hbackend
    rfl
  | worker i act =>
    simp only [execTrail] at hstep
    split at hstep
    · cases hstep
    · rename_i backend hexec
      obtain ⟨db, task, hnext, rfl⟩ := exec_worker hexec
      have hclaimed : ∀ j, (Function.update s.backend.tasks i task j).ClaimedRow := by
        intro j
        by_cases hj : j = i
        · subst hj
          rw [Function.update_self]
          exact Task.ClaimedRow.next hnext
        · rw [Function.update_of_ne hj]
          exact h.claimed j
      split at hstep
      · rename_i call hcall
        cases hstep
        obtain ⟨hdb, st, hsound⟩ := Task.recorded_next (h.claimed i) hnext hcall
        simp only [SinglePass, hcall] at hsingle
        exact h.record hclaimed hsound hdb hsingle
      · cases hstep
        exact h.of_rows rfl rfl hclaimed

end Trail

/-- An event whose row is stored is not applied again. -/
theorem EventService.replay_error {db : Database} {e : OrderEvent}
    (h : ∃ row ∈ db.events, row.id = e.id) :
    (∃ error, apply e db = .error error) ∧ ∃ error, applyNonceInvalidated e db = .error error := by
  have hduplicate : db.createEvent e = none := by
    unfold Database.createEvent
    rw [if_pos]
    simpa using h
  constructor
  · unfold apply
    cases db.getByOrderHash e.orderKey with
    | none => exact ⟨_, rfl⟩
    | some order =>
      simp only [hduplicate]
      exact ⟨_, rfl⟩
  · unfold applyNonceInvalidated
    rw [hduplicate]
    exact ⟨_, rfl⟩

/-- As long as no order passes a site twice, the executor's rows are the changes of status that
    were committed; and a stored event that is replayed adds no row. -/
theorem trail_complete {cfg : Config} {s : Trailed}
    (h : (trail cfg).ReachableWith (SinglePass cfg) s) :
    s.Complete ∧ ∀ (e : OrderEvent) (rows : List Activity),
      (∃ row ∈ s.backend.db.events, row.id = e.id) →
        (∃ error, execTrail cfg s (.event (.apply e) rows) = .error error) ∧
        ∃ error, execTrail cfg s (.event (.applyNonceInvalidated e) rows) = .error error := by
  have hgood : s.Good := h.invariant (fun _ hinit => Trailed.Initial.good hinit)
    fun _ _ _ hgood hsingle hstep => Trailed.Good.step hgood hsingle hstep
  refine ⟨hgood.complete, fun e rows hstored => ?_⟩
  obtain ⟨⟨error, happly⟩, error', hinvalidate⟩ := EventService.replay_error hstored
  constructor
  · refine ⟨.event error, ?_⟩
    simp only [execTrail, exec, EventService.exec, happly, Trailed.others]
  · refine ⟨.event error', ?_⟩
    simp only [execTrail, exec, EventService.exec, hinvalidate, Trailed.others]

namespace TrailExample

open Example

/-- The open order of the other runs, and no activities yet. -/
def start : Trailed := ⟨Example.start, [], []⟩

theorem start_initial : start.Initial := ⟨Example.start_initial, nofun, rfl⟩

/-- The order is claimed and sent, in a transaction with this hash. -/
def submission (txHash : TxHash) : List TrailOp :=
  [.worker 0 (.scanOnce [orderKey]), .worker 0 (.evaluateOrder willing),
    .worker 0 (.executeOrder willing (.ok txHash)), .worker 0 .recordSubmission, .worker 0 .stop]

/-- The transaction is lost, so that the order is open again. -/
def loss : List TrailOp :=
  [.worker 0 (.reconcilePendingOnce [orderKey]), .worker 0 (.checkPendingReceipt willing),
    .worker 0 .stop]

/-- How many changes are committed at a site. -/
def passes (s : Trailed) (site : WriteSite) : Nat := s.committed.countP fun c => c.site = site

/-- How many activities of a type there are. -/
def rows (s : Trailed) (activityType : String) : Nat :=
  s.activities.countP fun row => row.activityType = activityType

end TrailExample

open TrailExample in
theorem trail_complete_submission :
    ∃ s, passes s .claim = 1 ∧ passes s .submit = 1 ∧ s.Complete ∧
      ∀ (e : OrderEvent) (rows : List Activity), (∃ row ∈ s.backend.db.events, row.id = e.id) →
        (∃ error, execTrail Example.config s (.event (.apply e) rows) = .error error) ∧
        ∃ error, execTrail Example.config s (.event (.applyNonceInvalidated e) rows) =
          .error error := by
  have hrun : (System.runWith (execTrail Example.config) (SinglePass Example.config) start
      (submission 41)).map (fun s => (passes s .claim, passes s .submit)) = some (1, 1) := by
    decide +kernel
  obtain ⟨s, hs, hsummary⟩ := Option.map_eq_some_iff.mp hrun
  obtain ⟨hclaims, hsubmissions⟩ := Prod.mk.inj hsummary
  exact ⟨s, hclaims, hsubmissions,
    trail_complete (System.reachableWith_of_runWith (.init start_initial) hs)⟩

open TrailExample in
/-- An order that is sent a second time passes both sites again, and neither is recorded. -/
theorem not_trail_complete_resubmission :
    ∃ s, (trail Example.config).Reachable s ∧ passes s .claim = 2 ∧ passes s .submit = 2 ∧
      rows s "execution_claimed" = 1 ∧ rows s "execution_submitted" = 1 ∧ ¬ s.Complete := by
  have hrun : (System.runWith (execTrail Example.config) (fun _ _ => True) start
      (submission 41 ++ loss ++ submission 42)).map (fun s =>
        ((passes s .claim, passes s .submit),
          (rows s "execution_claimed", rows s "execution_submitted"),
          decide (s.activities.length < s.committed.length))) =
      some ((2, 2), (1, 1), true) := by
    decide +kernel
  obtain ⟨s, hs, hsummary⟩ := Option.map_eq_some_iff.mp hrun
  obtain ⟨hpasses, hrest⟩ := Prod.mk.inj hsummary
  obtain ⟨hrows, hfewer⟩ := Prod.mk.inj hrest
  obtain ⟨hclaims, hsubmissions⟩ := Prod.mk.inj hpasses
  obtain ⟨hclaimRows, hsubmissionRows⟩ := Prod.mk.inj hrows
  refine ⟨s, System.reachableWith_of_runWith (.init start_initial) hs, hclaims, hsubmissions,
    hclaimRows, hsubmissionRows, fun hcomplete => ?_⟩
  have hlength := hcomplete.length_eq
  rw [List.length_map, List.length_map] at hlength
  have hle := List.length_filter_le (fun row : Activity => isExecutorKey row.dedupeKey) s.activities
  have hlt : s.activities.length < s.committed.length := of_decide_eq_true hfewer
  omega

end Backend
