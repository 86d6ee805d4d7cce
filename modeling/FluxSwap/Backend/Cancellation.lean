-- SUMMARY: `CancelOrders` over a batch of any items: which rows it writes, and what its results say.
import FluxSwap.Backend.Creation
import Mathlib.Data.List.Infix

/-!
# Cancelling a batch of orders

Every item is checked on its own, the first accepted one fixes chain, maker and contract of the
batch, and one transaction of the chain is validated for all of them. Then every order is written
in a transaction of the database of its own. Results are found again by a text key. The queries,
the writes and the validation may fail; timestamps and the activity trail are left out.
-/

namespace Backend

open Text

/-! ## Data -/

structure CancelOrderItem where
  chainId           : Int
  settlementAddress : Text
  orderHash         : Text
  maker             : Text

structure CancelOrdersRequest where
  orders       : List CancelOrderItem
  cancelTxHash : Text

structure CancelOrdersResult where
  chainId           : Int
  settlementAddress : Text
  orderHash         : Text
  cancelled         : Bool
  error             : String
  code              : String
  message           : String
  hint              : String
  stage             : String
  order             : Option OrderRecord

structure CancelOrdersResponse where
  total          : Nat
  cancelledCount : Nat
  results        : List CancelOrdersResult
  notice         : ResponseNotice

inductive StatusCode
  | invalidArgument
  | notFound
  | alreadyExists
  | permissionDenied
  | failedPrecondition
  | internal

structure StatusError where
  code    : StatusCode
  message : String

/-- The columns of the unique index of `orders`. -/
structure RowKey where
  chainID           : Int
  settlementAddress : Text
  orderHash         : Text
  deriving DecidableEq

def OrderRecord.key (order : OrderRecord) : RowKey :=
  ⟨order.chainID, order.settlementAddress, order.orderHash⟩

/-- The table `orders`: one row at most for a key. -/
@[ext]
structure OrderTable where
  row   : RowKey → Option OrderRecord
  keyed : ∀ {key order}, row key = some order → order.key = key

/-- New values of some columns, none of which is in the key. -/
structure RowUpdate where
  set     : OrderRecord → OrderRecord
  key_set : ∀ order, (set order).key = order.key

structure CancelTxValidationResult where
  registeredNonces : List (Option Int)

/-- An error of the validation, and whether it is `ErrCancelTransactionNotFound`. -/
structure CancelTxError where
  notFound : Bool
  message  : String

/-- What the validation of a transaction answers for a hash and a maker. -/
structure CancelClient where
  validateCancelTransactionBatch : Text → Text → Except CancelTxError CancelTxValidationResult

/-- The service around a request. An order is asked for once and written once, so that failures
    are given by its key. -/
structure CancelEnvironment where
  hasDatabase       : Bool
  queryFails        : RowKey → Bool
  writeError        : RowKey → Option String
  lookupChainClient : Int → Text → Option CancelClient

/-! ## The table -/

/-- The key that a query is made with. -/
def rowKey (chainID : Int) (settlementAddress orderHash : Text) : RowKey :=
  ⟨chainID, toLower (trimSpace settlementAddress), toLower (trimSpace orderHash)⟩

inductive OrderQuery
  | found (order : OrderRecord)
  | recordNotFound
  | failed

def getByOrderHash (env : CancelEnvironment) (table : OrderTable) (chainID : Int)
    (settlementAddress orderHash : Text) : OrderQuery :=
  if env.queryFails (rowKey chainID settlementAddress orderHash) then .failed
  else
    match table.row (rowKey chainID settlementAddress orderHash) with
    | some order => .found order
    | none => .recordNotFound

def OrderTable.write (table : OrderTable) (key : RowKey) (u : RowUpdate) : OrderTable where
  row k := if k = key then (table.row k).map u.set else table.row k
  keyed := by
    intro k order h
    split at h
    · obtain ⟨old, hold, rfl⟩ := Option.map_eq_some_iff.mp h
      exact (u.key_set old).trans (table.keyed hold)
    · exact table.keyed h

/-- The rows after the update, and whether one was written. -/
def OrderTable.updateFieldsIfStatusIn (table : OrderTable) (chainID : Int)
    (settlementAddress orderHash : Text) (statuses : List String) (u : RowUpdate) :
    OrderTable × Bool :=
  match table.row (rowKey chainID settlementAddress orderHash) with
  | none => (table, false)
  | some order =>
    if order.status ∈ statuses then
      (table.write (rowKey chainID settlementAddress orderHash) u, true)
    else (table, false)

/-! ## One item -/

def parseUintStrict (value : Text) (field : String) : Except StatusError Int :=
  match parseInt (trimSpace value) with
  | some parsed =>
    if parsed < 0 then .error ⟨.failedPrecondition, field ++ " is invalid in stored order"⟩
    else .ok parsed
  | none => .error ⟨.failedPrecondition, field ++ " is invalid in stored order"⟩

/-- The checks of an order's maker and status. -/
def checkCancellable (item : CancelOrderItem) (order : OrderRecord) :
    Except StatusError OrderRecord :=
  if normalizeAddress order.maker ≠ normalizeAddress item.maker then
    .error ⟨.permissionDenied, "maker does not match order owner"⟩
  else
    let status := toLower (trimSpace order.status.toList)
    if status = "submitting_execute".toList then
      .error ⟨.failedPrecondition, "order submission is in progress"⟩
    else if status = "pending_execute".toList then
      .error ⟨.failedPrecondition, "order execution is pending on chain"⟩
    else if status = "executed".toList then
      .error ⟨.failedPrecondition, "executed order cannot be cancelled"⟩
    else if status = "cancelled".toList then .error ⟨.alreadyExists, "order already cancelled"⟩
    else if status = "expired".toList then
      .error ⟨.failedPrecondition, "expired order cannot be cancelled"⟩
    else .ok order

def cancelOrderByRequest (env : CancelEnvironment) (table : OrderTable) (item : CancelOrderItem) :
    Except StatusError OrderRecord :=
  if item.chainId ≤ 0 then .error ⟨.invalidArgument, "chainId must be greater than 0"⟩
  else if isAddress item.settlementAddress = false then
    .error ⟨.invalidArgument, "settlementAddress must be a valid address"⟩
  else if isHash item.orderHash = false then
    .error ⟨.invalidArgument, "orderHash must be a valid bytes32 hex string"⟩
  else if isAddress item.maker = false then
    .error ⟨.invalidArgument, "maker must be a valid address"⟩
  else
    match getByOrderHash env table item.chainId item.settlementAddress item.orderHash with
    | .recordNotFound => .error ⟨.notFound, "order not found"⟩
    | .failed => .error ⟨.internal, "query order failed"⟩
    | .found order => checkCancellable item order

def buildBatchOrderKey (chainID : Int) (settlementAddress orderHash : Text) : Text :=
  normalizeHash (formatInt chainID ++ [':'] ++ normalizeAddress settlementAddress ++ [':'] ++
    normalizeHash orderHash)

def CancelOrderItem.batchKey (item : CancelOrderItem) : Text :=
  buildBatchOrderKey item.chainId item.settlementAddress item.orderHash

def OrderRecord.batchKey (order : OrderRecord) : Text :=
  buildBatchOrderKey order.chainID order.settlementAddress order.orderHash

def CancelOrdersResult.batchKey (result : CancelOrdersResult) : Text :=
  buildBatchOrderKey result.chainId result.settlementAddress result.orderHash

/-! ## Texts -/

def StatusCode.name : StatusCode → String
  | invalidArgument => "InvalidArgument"
  | notFound => "NotFound"
  | alreadyExists => "AlreadyExists"
  | permissionDenied => "PermissionDenied"
  | failedPrecondition => "FailedPrecondition"
  | internal => "Internal"

/-- `Error` of a status. -/
def StatusError.text (error : StatusError) : String :=
  "rpc error: code = " ++ error.code.name ++ " desc = " ++ error.message

/-- `strings.Contains`. -/
def contains (text part : String) : Bool := decide (part.toList <:+: text.toList)

/-- Code, message, hint and stage that an error is shown with. Its text has no white space around
    it. -/
def mapStatusError (error : StatusError) : String × String × String × String :=
  let text := error.text
  if contains text "InvalidArgument" then
    ("INVALID_ARGUMENT", "请求参数不合法", "请检查地址、订单哈希和数值字段后重试。", "request_validation")
  else if contains text "FailedPrecondition" then
    if contains text "order submission is in progress" then
      ("ORDER_SUBMISSION_IN_PROGRESS", "订单正在提交执行，暂时不能登记撤单",
        "请稍后刷新订单状态，等待进入待执行或最终成交状态。", "business_validation")
    else if contains text "order execution is pending on chain" then
      ("ORDER_EXECUTION_PENDING", "订单执行交易已在链上等待确认",
        "当前已不能再登记撤单，请先等待执行交易落最终状态。", "business_validation")
    else if contains text "executed order cannot be cancelled" then
      ("ORDER_ALREADY_EXECUTED", "订单无法撤销", "该订单可能已经先一步成交，请刷新状态确认最终结果。",
        "business_validation")
    else if contains text "expired order cannot be cancelled" then
      ("ORDER_ALREADY_EXPIRED", "订单已过期，无法撤销", "该订单已经失效，无需重复撤销。",
        "business_validation")
    else if contains text "database is not initialized" then
      ("DATABASE_UNAVAILABLE", "数据库尚未初始化", "请先检查数据库连接和迁移状态。", "dependency_check")
    else
      ("FAILED_PRECONDITION", "当前状态不允许执行该操作", "请刷新订单状态后再决定是否重试。",
        "business_validation")
  else if contains text "PermissionDenied" then
    ("MAKER_MISMATCH", "当前地址不是该订单的所有者", "请确认使用的是创建该订单的钱包地址。",
      "permission_check")
  else if contains text "NotFound" then
    ("ORDER_NOT_FOUND", "未找到对应订单", "请确认订单哈希、链 ID 和结算合约地址是否正确。", "query")
  else if contains text "AlreadyExists" then
    if contains text "order already cancelled" then
      ("ORDER_ALREADY_CANCELLED", "订单已经撤销", "这笔订单已经是撤销状态，无需重复提交。",
        "business_validation")
    else if contains text "order already exists" then
      ("ORDER_ALREADY_EXISTS", "订单已经存在", "请不要重复创建同一笔签名订单。", "dedupe_check")
    else ("ALREADY_EXISTS", "数据已存在", "请刷新当前状态后再继续。", "dedupe_check")
  else if contains text "Internal" then
    if contains text "query order failed" then
      ("QUERY_FAILED", "查询订单失败", "请稍后重试，或检查数据库服务是否正常。", "query")
    else if contains text "create order failed" then
      ("CREATE_ORDER_FAILED", "创建订单失败", "请稍后重试，如持续失败请检查数据库日志。", "write")
    else if contains text "update order failed" then
      ("UPDATE_ORDER_FAILED", "更新订单失败", "请稍后重试，如持续失败请检查数据库日志。", "write")
    else if contains text "apply order event failed" then
      ("APPLY_EVENT_FAILED", "回写订单事件失败", "请稍后重试，并检查事件是否已被重复处理。", "event_apply")
    else ("INTERNAL_ERROR", "服务内部处理失败", "请稍后重试。", "internal")
  else ("UNKNOWN_ERROR", "操作失败", "请刷新状态后重试。", "unknown")

def newCancelResult (item : CancelOrderItem) : CancelOrdersResult where
  chainId := item.chainId
  settlementAddress := normalizeAddress item.settlementAddress
  orderHash := normalizeHash item.orderHash
  cancelled := false
  error := ""
  code := ""
  message := ""
  hint := ""
  stage := "request_validation"
  order := none

namespace CancelOrdersResult

variable (result : CancelOrdersResult)

def duplicate : CancelOrdersResult :=
  { result with
    code := "DUPLICATE_ORDER_IN_BATCH"
    message := "批量撤单请求中包含重复订单"
    hint := "请先按订单去重后再提交，避免同一笔订单被重复登记。" }

def rejected (error : StatusError) : CancelOrdersResult :=
  { result with
    error := error.text
    code := (mapStatusError error).1
    message := (mapStatusError error).2.1
    hint := (mapStatusError error).2.2.1
    stage := (mapStatusError error).2.2.2 }

def alreadyRegistered (order : OrderRecord) : CancelOrdersResult :=
  { result with
    cancelled := true
    code := "CANCEL_TX_ALREADY_REGISTERED"
    message := "当前撤单交易已登记，无需重复提交"
    hint := "系统已记录这笔撤单交易哈希，等待链上确认和状态回写即可。"
    stage := "register_cancel_tx"
    order := some order }

def cancellationPending (order : OrderRecord) : CancelOrdersResult :=
  { result with
    code := "ORDER_CANCELLATION_PENDING"
    message := "订单撤单已在处理中"
    hint := "请先等待当前撤单交易确认或状态回写，不要登记新的撤单交易哈希。"
    stage := "business_validation"
    order := some order }

def chainMismatch : CancelOrdersResult :=
  { result with
    code := "CHAIN_MISMATCH_IN_BATCH"
    message := "批量撤单中的订单必须属于同一条链"
    hint := "请按 chainId 分批提交撤单登记请求。" }

def makerMismatch : CancelOrdersResult :=
  { result with
    code := "MAKER_MISMATCH_IN_BATCH"
    message := "批量撤单中的订单必须属于同一 maker"
    hint := "请按 maker 分批提交撤单登记请求。" }

def settlementMismatch : CancelOrdersResult :=
  { result with
    code := "SETTLEMENT_MISMATCH_IN_BATCH"
    message := "批量撤单中的订单必须属于同一结算合约"
    hint := "请按 settlementAddress 分批提交撤单登记请求。" }

def invalidNonce (error : StatusError) : CancelOrdersResult :=
  { result with
    error := error.text
    code := "ORDER_NONCE_INVALID_IN_RECORD"
    message := "订单本地记录里的 nonce 无法用于校验撤单交易"
    hint := "这通常表示数据库中的订单记录异常，建议重新创建订单或联系管理员修复数据。"
    stage := "verify_cancel_tx" }

def mismatch (error : String) : CancelOrdersResult :=
  { result with
    error := error
    stage := "verify_cancel_tx"
    code := "CANCEL_TX_MISMATCH"
    message := "撤单交易与当前订单不匹配"
    hint := "请确认传入的是这批订单真实对应的 invalidateNoncesBySig 交易哈希。" }

def invalidTransaction (error : CancelTxError) : CancelOrdersResult :=
  if error.notFound then
    { result with
      error := error.message
      stage := "verify_cancel_tx"
      code := "CANCEL_TX_NOT_INDEXED_YET"
      message := "撤单交易暂未被当前 RPC 节点索引到"
      hint := "如果这是刚发出的链上撤单交易，请稍后再次登记同一个 cancelTxHash。" }
  else result.mismatch error.message

def updateFailed (error : String) : CancelOrdersResult :=
  { result with
    error := error
    code := "UPDATE_ORDER_FAILED"
    message := "撤单登记写入失败"
    hint := "请稍后重试，如持续失败请检查数据库状态。"
    stage := "write" }

def stateChanged : CancelOrdersResult :=
  { result with
    code := "ORDER_STATE_CHANGED"
    message := "订单状态已变化，撤单登记未写入"
    hint := "请先刷新订单状态，再决定是否重新登记撤单。"
    stage := "write" }

def registered (order : OrderRecord) : CancelOrdersResult :=
  { result with
    cancelled := true
    code := "CANCEL_TX_REGISTERED"
    message := "用户已提交撤单交易，等待链上确认"
    hint := "当链上发出 NonceInvalidated 事件后，订单会被正式回写为 cancelled。"
    stage := "register_cancel_tx"
    order := some order }

end CancelOrdersResult

/-! ## The loop over the items -/

/-- The variables of the loop. -/
structure CancelBatch where
  results            : List CancelOrdersResult
  cancelTargets      : List OrderRecord
  cancelTargetNonces : Text → Option Int
  seenOrders         : List Text
  idempotentCount    : Nat
  maker              : Text
  settlementAddress  : Text
  chainID            : Int

def CancelBatch.empty : CancelBatch := ⟨[], [], fun _ => none, [], 0, [], [], 0⟩

namespace CancelBatch

variable (b : CancelBatch) (result : CancelOrdersResult) (order : OrderRecord)

/-- `append` to the results. -/
def answer : CancelBatch := { b with results := b.results ++ [result] }

/-- An accepted order is a target if its nonce can be read. -/
def addTarget : CancelBatch :=
  let result := { result with order := some order }
  match parseUintStrict order.nonce "nonce" with
  | .error nonceErr => b.answer (result.invalidNonce nonceErr)
  | .ok nonceValue =>
    { b.answer result with
      cancelTargets := b.cancelTargets ++ [order]
      cancelTargetNonces :=
        Function.update b.cancelTargetNonces order.batchKey (some nonceValue) }

def checkSettlement : CancelBatch :=
  if b.settlementAddress = [] then
    { b with settlementAddress := normalizeAddress order.settlementAddress }.addTarget result order
  else if b.settlementAddress ≠ normalizeAddress order.settlementAddress then
    b.answer result.settlementMismatch
  else b.addTarget result order

def checkHomogeneous : CancelBatch :=
  if b.maker = [] then
    { b with maker := normalizeAddress order.maker, chainID := order.chainID }.checkSettlement
      result order
  else if b.chainID ≠ order.chainID then b.answer result.chainMismatch
  else if b.maker ≠ normalizeAddress order.maker then b.answer result.makerMismatch
  else b.checkSettlement result order

end CancelBatch

/-- The order is read as `pending_cancel`. -/
def OrderRecord.isPendingCancel (order : OrderRecord) : Bool :=
  decide (normalizeHex order.status.toList = "pending_cancel".toList)

/-- An order that is `pending_cancel` already: with this transaction or another one. -/
def CancelBatch.answerPending (b : CancelBatch) (cancelTxHash : Text) (result : CancelOrdersResult)
    (order : OrderRecord) : CancelBatch :=
  if normalizeHash order.cancelledTxHash ≠ [] ∧
      normalizeHash order.cancelledTxHash = cancelTxHash then
    { b.answer (result.alreadyRegistered order) with idempotentCount := b.idempotentCount + 1 }
  else b.answer (result.cancellationPending order)

def checkItem (env : CancelEnvironment) (table : OrderTable) (cancelTxHash : Text)
    (b : CancelBatch) (item : CancelOrderItem) : CancelBatch :=
  if item.batchKey ∈ b.seenOrders then b.answer (newCancelResult item).duplicate
  else
    let b := { b with seenOrders := item.batchKey :: b.seenOrders }
    match cancelOrderByRequest env table item with
    | .error validateErr => b.answer ((newCancelResult item).rejected validateErr)
    | .ok order =>
      if order.isPendingCancel then b.answerPending cancelTxHash (newCancelResult item) order
      else b.checkHomogeneous (newCancelResult item) order

def checkItems (env : CancelEnvironment) (table : OrderTable) (cancelTxHash : Text)
    (items : List CancelOrderItem) : CancelBatch :=
  items.foldl (checkItem env table cancelTxHash) .empty

/-! ## The loop over the targets -/

def cancelValidationIncludesNonce (validation : Option CancelTxValidationResult)
    (nonce : Option Int) : Bool :=
  match validation, nonce with
  | some validation, some nonce => decide (some nonce ∈ validation.registeredNonces)
  | _, _ => false

def findCancelResultByKey (results : List CancelOrdersResult) (resultKey : Text) :
    Option CancelOrdersResult :=
  results.find? fun result => result.batchKey = resultKey

/-- Write to the result that `findCancelResultByKey` finds. -/
def setCancelResult (resultKey : Text) (set : CancelOrdersResult → CancelOrdersResult) :
    List CancelOrdersResult → List CancelOrdersResult
  | [] => []
  | result :: results =>
    if result.batchKey = resultKey then set result :: results
    else result :: setCancelResult resultKey set results

/-- What is written to an order whose cancellation is registered. -/
def pendingCancelUpdate (cancelTxHash : Text) : RowUpdate where
  set order := { order with
    status := "pending_cancel"
    statusReason := "cancel_tx_submitted_by_user"
    cancelledTxHash := cancelTxHash }
  key_set _ := rfl

/-- The variables of the loop over the targets. -/
structure Registration where
  table           : OrderTable
  results         : List CancelOrdersResult
  registeredCount : Nat

/-- The transaction of one order: its error, or the rows and the order as it is read again. -/
def registerOrder (env : CancelEnvironment) (cancelTxHash : Text) (table : OrderTable)
    (order : OrderRecord) : Except String (OrderTable × Option OrderRecord) :=
  match env.writeError (rowKey order.chainID order.settlementAddress order.orderHash) with
  | some error => .error error
  | none =>
    let (table', updated) := table.updateFieldsIfStatusIn order.chainID order.settlementAddress
      order.orderHash ["open"] (pendingCancelUpdate cancelTxHash)
    if updated then
      .ok (table', table'.row (rowKey order.chainID order.settlementAddress order.orderHash))
    else .ok (table, none)

def registerTarget (env : CancelEnvironment) (cancelTxHash : Text)
    (validation : CancelTxValidationResult) (nonces : Text → Option Int) (r : Registration)
    (order : OrderRecord) : Registration :=
  let set := fun f => setCancelResult order.batchKey f r.results
  if cancelValidationIncludesNonce (some validation) (nonces order.batchKey) = false then
    { r with results := set (·.mismatch "cancel transaction does not cover target nonce") }
  else
    match registerOrder env cancelTxHash r.table order with
    | .error updateErr => { r with results := set (·.updateFailed updateErr) }
    | .ok (_, none) => { r with results := set (·.stateChanged) }
    | .ok (table, some order') =>
      { table := table
        results := set (·.registered order')
        registeredCount :=
          if (findCancelResultByKey r.results order.batchKey).isSome then r.registeredCount + 1
          else r.registeredCount }

/-! ## The request -/

/-- The answer if there is no target. -/
def withoutTargets (request : CancelOrdersRequest) (b : CancelBatch) : CancelOrdersResponse where
  total := request.orders.length
  cancelledCount := b.idempotentCount
  results := b.results
  notice :=
    if 0 < b.idempotentCount then
      successNotice "CANCEL_TX_ALREADY_REGISTERED" "撤单交易已登记"
        "当前请求没有写入新的撤单交易哈希，系统会继续等待已登记交易的链上确认。"
        "register_cancel_tx"
    else
      failureNotice "CANCEL_ORDERS_REJECTED" "撤单请求未通过校验"
        "请根据 results 中的错误提示修正参数后重试。" "request_validation"

def afterTargets (request : CancelOrdersRequest) (results : List CancelOrdersResult)
    (successfulCount : Nat) : CancelOrdersResponse where
  total := request.orders.length
  cancelledCount := successfulCount
  results := results
  notice :=
    if successfulCount = 0 then
      failureNotice "CANCEL_ORDERS_REJECTED" "撤单登记未通过校验"
        "请根据 results 中的错误提示检查 cancelTxHash 与订单是否匹配，然后重新提交。"
        "verify_cancel_tx"
    else
      successNotice "CANCEL_TX_REGISTERED" "撤单交易已登记"
        "当前批次撤单交易已记录，后续由 indexer 和回执对账收口最终状态。" "register_cancel_tx"

/-- The rows and the results after the targets of a batch. -/
def registerTargets (env : CancelEnvironment) (table : OrderTable) (cancelTxHash : Text)
    (client : CancelClient) (b : CancelBatch) : Registration :=
  match client.validateCancelTransactionBatch cancelTxHash b.maker with
  | .error validateErr =>
    { table := table
      results := b.cancelTargets.foldl (fun results order =>
        setCancelResult order.batchKey (·.invalidTransaction validateErr) results) b.results
      registeredCount := 0 }
  | .ok validation =>
    b.cancelTargets.foldl (registerTarget env cancelTxHash validation b.cancelTargetNonces)
      ⟨table, b.results, 0⟩

/-- The rows after a request, and its answer. -/
def cancelOrders (env : CancelEnvironment) (table : OrderTable) (request : CancelOrdersRequest) :
    OrderTable × Except StatusError CancelOrdersResponse :=
  if env.hasDatabase = false then
    (table, .error ⟨.failedPrecondition, "database is not initialized"⟩)
  else if request.orders = [] then
    (table, .error ⟨.invalidArgument, "orders must not be empty"⟩)
  else if isHash request.cancelTxHash = false then
    (table, .error ⟨.invalidArgument, "cancelTxHash must be a valid transaction hash"⟩)
  else
    let cancelTxHash := normalizeHash request.cancelTxHash
    let b := checkItems env table cancelTxHash request.orders
    if b.cancelTargets = [] then (table, .ok (withoutTargets request b))
    else
      match env.lookupChainClient b.chainID b.settlementAddress with
      | none => (table, .error ⟨.failedPrecondition,
          "settlement chain client is not initialized for requested chain"⟩)
      | some client =>
        let r := registerTargets env table cancelTxHash client b
        (r.table, .ok (afterTargets request r.results (r.registeredCount + b.idempotentCount)))

end Backend
