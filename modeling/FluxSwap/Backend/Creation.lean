-- SUMMARY: The backend's CreateOrder: the checks of a request, its payload, hash, signature and expiry, and the record that is stored and read back.
import FluxSwap.Lib.Text
import FluxSwap.Signing.OrderSignature

/-!
# CreateOrder

A request consists of texts, and so does the record that is made of it. The database brings
numbers into normal form, and the executor parses them again. The time of the request and the
activity trail are left out, as is the notice that goes with a stored order.
-/

namespace Backend

open Text OrderSignature

/-! ## Texts -/

def normalizeAddress (value : Text) : Text := normalize value

theorem normalizeAddress_normalizeAddress (value : Text) :
    normalizeAddress (normalizeAddress value) = normalizeAddress value :=
  normalize_normalize value

def normalizeHash (value : Text) : Text := normalize value

def normalizeHex (value : Text) : Text := normalize value

def isAddress (value : Text) : Bool := isHex 40 (normalizeAddress value)

def isHash (value : Text) : Bool := isHex 64 (normalizeHash value)

def isSignature (value : Text) : Bool := isHex 130 (normalizeHex value)

def isPositiveUint (value : Text) : Bool :=
  isDecimal (trimSpace value) && decide (trimSpace value ≠ ['0'])

def isUint (value : Text) : Bool := isDecimal (trimSpace value)

def mustBigInt (value : Text) : Int := (parseInt (trimSpace value)).getD 0

/-- What is used of go-ethereum's texts: `IsHexAddress`, `HexToAddress`, `Hex` of a hash, and
    `hexutil.Encode`. -/
structure Common where
  isHexAddress : Text → Bool
  hexToAddress : Text → Address
  hashHex      : Bytes32 → Text
  encode       : Bytes → Text

/-! ## Data -/

structure CreateOrderRequest where
  chainId              : Int
  settlementAddress    : Text
  orderHash            : Text
  maker                : Text
  inputToken           : Text
  outputToken          : Text
  amountIn             : Text
  minAmountOut         : Text
  maxExecutorRewardBps : Text
  triggerPriceX18      : Text
  expiry               : Text
  nonce                : Text
  recipient            : Text
  signature            : Text
  source               : Text

/-- `domain.Order`, where every number of the chain is a text. -/
structure OrderRecord where
  chainID                 : Int
  settlementAddress       : Text
  orderHash               : Text
  maker                   : Text
  inputToken              : Text
  outputToken             : Text
  amountIn                : Text
  minAmountOut            : Text
  executorFee             : Text
  executorFeeToken        : Text
  triggerPriceX18         : Text
  expiry                  : Text
  nonce                   : Text
  recipient               : Text
  signature               : Text
  source                  : Text
  status                  : String
  statusReason            : String
  estimatedGasUsed        : Text
  gasPriceAtQuote         : Text
  lastRequiredExecutorFee : Text
  lastBlockReason         : Text
  settledAmountOut        : Text
  settledExecutorFee      : Text
  submittedTxHash         : Text
  executedTxHash          : Text
  cancelledTxHash         : Text
  lastCheckedBlock        : Int
  deriving DecidableEq

/-- A text in a numeric column. -/
def numericColumn (value : Text) : Text :=
  match parseInt value with
  | some n => formatInt n
  | none => value

/-- The record as the table `orders` holds it. -/
def OrderRecord.columns (order : OrderRecord) : OrderRecord :=
  { order with
    amountIn := numericColumn order.amountIn
    minAmountOut := numericColumn order.minAmountOut
    executorFee := numericColumn order.executorFee
    triggerPriceX18 := numericColumn order.triggerPriceX18
    expiry := numericColumn order.expiry
    nonce := numericColumn order.nonce }

inductive RpcCode
  | invalidArgument
  | failedPrecondition
  | notFound
  | internal
  deriving DecidableEq

structure RpcError where
  code    : RpcCode
  message : String
  deriving DecidableEq

structure ResponseNotice where
  success : Bool
  code    : String
  message : String
  hint    : String
  stage   : String
  deriving DecidableEq

/-- The texts of a notice are constants without white space around them, which is what
    `TrimSpace` would take away. -/
def buildNotice (success : Bool) (code message hint stage : String) : ResponseNotice :=
  ⟨success, code, message, hint, stage⟩

def successNotice (code message hint stage : String) : ResponseNotice :=
  buildNotice true code message hint stage

def failureNotice (code message hint stage : String) : ResponseNotice :=
  buildNotice false code message hint stage

/-- A return of `CreateOrder` before an order is stored. -/
inductive Rejection
  | failed (error : RpcError)
  | refused (order : Option OrderRecord) (notice : ResponseNotice)
  deriving DecidableEq

/-- The order that `CreateOrder` answers with, and the row that the table then holds. -/
structure Created where
  order : OrderRecord
  row   : OrderRecord
  deriving DecidableEq

inductive QueryError
  | recordNotFound
  | other (message : String)

inductive CreateError
  | duplicateKey
  | other (message : String)

/-- The order repository; `create` returns the new row. -/
structure OrderRepository where
  getByOrderHash : Int → Text → Text → Except QueryError OrderRecord
  create         : OrderRecord → Except CreateError OrderRecord

/-- What the chain client answers during one call. -/
structure CreationClient where
  currentBlockTimestamp : Except String Nat
  suggestExecutorFee    : Address → Except String ExecutorFee

structure CreateEnvironment where
  db                       : Option OrderRepository
  chainClient              : Option CreationClient
  executorEstimatedGasUsed : Nat

/-! ## Checks of the request -/

/-- A check whose failure is an `InvalidArgument`. -/
def argument (condition : Bool) (message : String) : Except Rejection Unit :=
  if condition then .ok () else .error (.failed ⟨.invalidArgument, message⟩)

/-- The checks before the database is asked. -/
def checkRequest (common : Common) (r : CreateOrderRequest) : Except Rejection Unit := do
  argument (decide (0 < r.chainId)) "chainId must be greater than 0"
  argument (isAddress r.settlementAddress) "settlementAddress must be a valid address"
  argument (isHash r.orderHash) "orderHash must be a valid bytes32 hex string"
  argument (isAddress r.maker) "maker must be a valid address"
  argument (isAddress r.inputToken) "inputToken must be a valid address"
  argument (decide (common.hexToAddress (normalizeAddress r.inputToken) ≠ Address.zero))
    "inputToken must be an ERC20 token address"
  argument (isAddress r.outputToken) "outputToken must be a valid address"
  argument (decide (normalizeAddress r.inputToken ≠ normalizeAddress r.outputToken))
    "inputToken and outputToken must be different"
  argument (isPositiveUint r.amountIn) "amountIn must be a positive integer string"
  argument (isPositiveUint r.minAmountOut) "minAmountOut must be a positive integer string"
  argument (decide (trimSpace r.maxExecutorRewardBps = []) || isUint r.maxExecutorRewardBps)
    "maxExecutorRewardBps must be an unsigned integer string"
  argument (decide (trimSpace r.maxExecutorRewardBps = []) ||
      decide (mustBigInt r.maxExecutorRewardBps ≤ 10000))
    "maxExecutorRewardBps must be less than or equal to 10000"
  argument (isPositiveUint r.triggerPriceX18) "triggerPriceX18 must be a positive integer string"
  argument (isPositiveUint r.expiry) "expiry must be a positive integer string"
  argument (isUint r.nonce) "nonce must be an unsigned integer string"
  argument (isAddress r.recipient) "recipient must be a valid address"
  argument (isSignature r.signature) "signature must be a valid 65-byte hex signature"

def orderAlreadyExists : ResponseNotice :=
  failureNotice "ORDER_ALREADY_EXISTS" "order already exists"
    "reuse the stored order instead of creating the same signed order again" "dedupe_check"

/-- The query for an order of the same hash. -/
def dedupe (db : OrderRepository) (r : CreateOrderRequest) : Except Rejection Unit :=
  match db.getByOrderHash r.chainId r.settlementAddress r.orderHash with
  | .ok existingOrder => .error (.refused (some existingOrder) orderAlreadyExists)
  | .error .recordNotFound => .ok ()
  | .error (.other _) => .error (.failed ⟨.internal, "query existing order failed"⟩)

/-! ## Payload and signature -/

/-- A check of `buildSettlementOrderFromRequest`. -/
def valid (condition : Bool) (message : String) : Except String Unit :=
  if condition then .ok () else .error message

/-- The payload itself. Negative numbers do not pass the checks of the request. -/
def requestPayload (common : Common) (r : CreateOrderRequest) : SettlementOrder where
  maker := common.hexToAddress (normalizeAddress r.maker)
  inputToken := common.hexToAddress (normalizeAddress r.inputToken)
  outputToken := common.hexToAddress (normalizeAddress r.outputToken)
  amountIn := (mustBigInt r.amountIn).toNat
  minAmountOut := (mustBigInt r.minAmountOut).toNat
  maxExecutorRewardBps := (mustBigInt r.maxExecutorRewardBps).toNat
  triggerPriceX18 := (mustBigInt r.triggerPriceX18).toNat
  expiry := (mustBigInt r.expiry).toNat
  nonce := (mustBigInt r.nonce).toNat
  recipient := common.hexToAddress (normalizeAddress r.recipient)

def buildSettlementOrderFromRequest (common : Common) (r : CreateOrderRequest) :
    Except String SettlementOrder := do
  valid (isAddress r.maker) "maker must be a valid address"
  valid (isAddress r.inputToken) "inputToken must be a valid address"
  valid (decide (common.hexToAddress (normalizeAddress r.inputToken) ≠ Address.zero))
    "inputToken must be an ERC20 token address"
  valid (isAddress r.outputToken) "outputToken must be a valid address"
  valid (isAddress r.recipient) "recipient must be a valid address"
  return requestPayload common r

def normalizeHexSignature (go : GoEthereum) (common : Common) (raw : Text) :
    Except String Text := do
  let signatureBytes ← wrapped "decode signature" (go.decode (.ofList raw))
  let normalized ← normalizeSignatureBytes go signatureBytes
  return common.encode normalized

def orderHashMismatch : ResponseNotice :=
  failureNotice "ORDER_HASH_MISMATCH" "order hash does not match payload"
    "recompute orderHash from the exact signed payload before submitting" "request_validation"

def invalidSignature (message hint : String) : ResponseNotice :=
  failureNotice "INVALID_SIGNATURE" message hint "request_validation"

/-- The payload of the request and its signature as it is stored. -/
def verifyRequest (go : GoEthereum) (common : Common) (r : CreateOrderRequest) :
    Except Rejection (SettlementOrder × Text) := do
  let payload ← (buildSettlementOrderFromRequest common r).mapError fun error =>
    .failed ⟨.invalidArgument, error⟩
  let computedOrderHash ← (computeOrderHash go payload).mapError fun _ =>
    .failed ⟨.internal, "compute order hash failed"⟩
  if normalizeHash r.orderHash ≠ toLower (common.hashHex computedOrderHash) then
    throw (.refused none orderHashMismatch)
  let normalizedSignature ← (normalizeHexSignature go common r.signature).mapError fun _ =>
    .refused none (invalidSignature "signature format is invalid"
      "submit a complete EIP-712 hex signature")
  (verifyOrderSignature go r.chainId (.ofList r.settlementAddress) payload
      (.ofList normalizedSignature)).mapError fun _ => .refused none (invalidSignature "signature verification failed"
      "make sure maker, chainId, settlementAddress and payload all match the signature")
  return (payload, normalizedSignature)

/-! ## The chain -/

/-- What the record keeps of the answers of the chain. -/
structure InitialQuote where
  estimatedGasUsed        : Text
  gasPriceAtQuote         : Text
  lastRequiredExecutorFee : Text
  lastBlockReason         : Text

def orderAlreadyExpired : ResponseNotice :=
  failureNotice "ORDER_ALREADY_EXPIRED" "order already expired"
    "sign a new order with an expiry later than the current on-chain block time"
    "request_validation"

/-- The check of the expiry: the reason to keep, or a refusal. -/
def checkExpiry (client : CreationClient) (payload : SettlementOrder) :
    Except Rejection Text :=
  match client.currentBlockTimestamp with
  | .error error => .ok (trimSpace ("chain_time_unavailable_at_create: " ++ error).toList)
  | .ok currentBlockTimestamp =>
    if 0 < payload.expiry ∧ uint64 payload.expiry ≤ currentBlockTimestamp then
      .error (.refused none orderAlreadyExpired)
    else .ok []

/-- The estimate of the executor's fee. -/
def estimateFee (common : Common) (env : CreateEnvironment) (client : CreationClient)
    (r : CreateOrderRequest) (lastBlockReason : Text) : InitialQuote :=
  match client.suggestExecutorFee (common.hexToAddress (normalizeAddress r.outputToken)) with
  | .error quoteErr =>
    ⟨['0'], ['0'], ['0'],
      if lastBlockReason = [] then
        trimSpace ("initial_executor_fee_quote_failed: " ++ quoteErr).toList
      else lastBlockReason⟩
  | .ok fee =>
    ⟨formatInt env.executorEstimatedGasUsed, formatInt fee.gasPriceAtQuote,
      formatInt fee.requiredExecutorFee, lastBlockReason⟩

/-- The part of `CreateOrder` that asks the chain client. -/
def initialQuote (common : Common) (env : CreateEnvironment) (r : CreateOrderRequest)
    (payload : SettlementOrder) : Except Rejection InitialQuote :=
  match env.chainClient with
  | none => .ok ⟨['0'], ['0'], ['0'], "chain_client_unavailable_at_create".toList⟩
  | some client => do
    let lastBlockReason ← checkExpiry client payload
    return estimateFee common env client r lastBlockReason

/-! ## The order -/

def newOrder (r : CreateOrderRequest) (normalizedSignature : Text) (quote : InitialQuote) :
    OrderRecord where
  chainID := r.chainId
  settlementAddress := normalizeAddress r.settlementAddress
  orderHash := normalizeHash r.orderHash
  maker := normalizeAddress r.maker
  inputToken := normalizeAddress r.inputToken
  outputToken := normalizeAddress r.outputToken
  amountIn := trimSpace r.amountIn
  minAmountOut := trimSpace r.minAmountOut
  executorFee :=
    if trimSpace r.maxExecutorRewardBps = [] then ['0'] else trimSpace r.maxExecutorRewardBps
  executorFeeToken := normalizeAddress r.outputToken
  triggerPriceX18 := trimSpace r.triggerPriceX18
  expiry := trimSpace r.expiry
  nonce := trimSpace r.nonce
  recipient := normalizeAddress r.recipient
  signature := normalizedSignature
  source := if trimSpace r.source = [] then ['r', 'p', 'c'] else trimSpace r.source
  status := "open"
  statusReason := ""
  estimatedGasUsed := quote.estimatedGasUsed
  gasPriceAtQuote := quote.gasPriceAtQuote
  lastRequiredExecutorFee := quote.lastRequiredExecutorFee
  lastBlockReason := quote.lastBlockReason
  settledAmountOut := ['0']
  settledExecutorFee := ['0']
  submittedTxHash := []
  executedTxHash := []
  cancelledTxHash := []
  lastCheckedBlock := 0

/-- The insertion of a new order. -/
def insertOrder (db : OrderRepository) (order : OrderRecord) : Except Rejection Created :=
  match db.create order with
  | .ok row => .ok ⟨order, row⟩
  | .error .duplicateKey => .error (.refused none orderAlreadyExists)
  | .error (.other _) => .error (.failed ⟨.internal, "create order failed"⟩)

def createOrder (go : GoEthereum) (common : Common) (env : CreateEnvironment)
    (r : CreateOrderRequest) : Except Rejection Created := do
  checkRequest common r
  match env.db with
  | none => throw (.failed ⟨.failedPrecondition, "database is not initialized"⟩)
  | some db =>
    dedupe db r
    let (payload, normalizedSignature) ← verifyRequest go common r
    let quote ← initialQuote common env r payload
    insertOrder db (newOrder r normalizedSignature quote)

/-! ## The stored record in the executor -/

/-- `SetString` of a column, whose failure is that of the parser. -/
def parseText (value : Text) (field : String) : Except String Int :=
  match parseInt (trimSpace value) with
  | some n => .ok n
  | none => .error ("invalid " ++ field)

def parsePositiveText (value : Text) (field : String) : Except String Nat := do
  parsePositiveBigInt (← parseText value field) field

def parseNonNegativeText (value : Text) (field : String) : Except String Nat := do
  parseNonNegativeBigInt (← parseText value field) field

/-- `buildSettlementOrder` of the executor, on the record as it is read. -/
def OrderRecord.buildSettlementOrder (common : Common) (order : OrderRecord) :
    Except String SettlementOrder := do
  valid (common.isHexAddress (trimSpace order.maker)) "invalid maker address"
  valid (common.isHexAddress (trimSpace order.inputToken)) "invalid input token address"
  valid (common.isHexAddress (trimSpace order.outputToken)) "invalid output token address"
  valid (common.isHexAddress (trimSpace order.recipient)) "invalid recipient address"
  let amountIn ← parsePositiveText order.amountIn "amount_in"
  let minAmountOut ← parsePositiveText order.minAmountOut "min_amount_out"
  let maxExecutorRewardBps ← parseNonNegativeText order.executorFee "max_executor_reward_bps"
  if 10000 < maxExecutorRewardBps then throw "invalid max_executor_reward_bps"
  let triggerPriceX18 ← parsePositiveText order.triggerPriceX18 "trigger_price_x18"
  let expiry ← parsePositiveText order.expiry "expiry"
  let nonce ← parseNonNegativeText order.nonce "nonce"
  return { maker := common.hexToAddress order.maker
           inputToken := common.hexToAddress order.inputToken
           outputToken := common.hexToAddress order.outputToken, amountIn, minAmountOut
           maxExecutorRewardBps, triggerPriceX18, expiry, nonce
           recipient := common.hexToAddress order.recipient }

/-- The row of texts is the row of values: the addresses are valid, and the columns hold the
    integers. -/
structure OrderRecord.Represents (common : Common) (record : OrderRecord) (order : Order) :
    Prop where
  makerValid : common.isHexAddress (trimSpace record.maker) = true
  inputValid : common.isHexAddress (trimSpace record.inputToken) = true
  outputValid : common.isHexAddress (trimSpace record.outputToken) = true
  recipientValid : common.isHexAddress (trimSpace record.recipient) = true
  maker : common.hexToAddress record.maker = order.maker
  input : common.hexToAddress record.inputToken = order.inputToken
  output : common.hexToAddress record.outputToken = order.outputToken
  recipient : common.hexToAddress record.recipient = order.recipient
  amountIn : parseInt (trimSpace record.amountIn) = some order.amountIn
  minAmountOut : parseInt (trimSpace record.minAmountOut) = some order.minAmountOut
  executorFee : parseInt (trimSpace record.executorFee) = some order.executorFee
  trigger : parseInt (trimSpace record.triggerPriceX18) = some order.triggerPriceX18
  expiry : parseInt (trimSpace record.expiry) = some order.expiry
  nonce : parseInt (trimSpace record.nonce) = some order.nonce

theorem parsePositiveText_eq {value : Text} {n : Int} (h : parseInt (trimSpace value) = some n)
    (field : String) : parsePositiveText value field = parsePositiveBigInt n field := by
  unfold parsePositiveText parseText
  rw [h]
  rfl

theorem parseNonNegativeText_eq {value : Text} {n : Int}
    (h : parseInt (trimSpace value) = some n) (field : String) :
    parseNonNegativeText value field = parseNonNegativeBigInt n field := by
  unfold parseNonNegativeText parseText
  rw [h]
  rfl

/-- On both rows the executor builds the same payload. -/
theorem OrderRecord.Represents.buildSettlementOrder {common : Common} {record : OrderRecord}
    {order : Order} (h : record.Represents common order) :
    record.buildSettlementOrder common = Backend.buildSettlementOrder order := by
  unfold OrderRecord.buildSettlementOrder Backend.buildSettlementOrder
  rw [h.makerValid, h.inputValid, h.outputValid, h.recipientValid,
    parsePositiveText_eq h.amountIn, parsePositiveText_eq h.minAmountOut,
    parseNonNegativeText_eq h.executorFee, parsePositiveText_eq h.trigger,
    parsePositiveText_eq h.expiry, parseNonNegativeText_eq h.nonce, h.maker, h.input, h.output,
    h.recipient]
  rfl

/-! ## Early returns -/

section Returns

variable {ε α β : Type}

theorem except_bind_eq_ok {x : Except ε α} {f : α → Except ε β} {b : β} :
    x >>= f = .ok b ↔ ∃ a, x = .ok a ∧ f a = .ok b := by
  cases x with
  | error e => simp [bind, Except.bind]
  | ok a => simp [bind, Except.bind]

theorem except_bind_eq_error {x : Except ε α} {f : α → Except ε β} {e : ε} :
    x >>= f = .error e ↔ x = .error e ∨ ∃ a, x = .ok a ∧ f a = .error e := by
  cases x with
  | error e => simp [bind, Except.bind]
  | ok a => simp [bind, Except.bind]

theorem except_mapError_eq_ok {ε' : Type} {f : ε → ε'} {x : Except ε α} {a : α} :
    x.mapError f = .ok a ↔ x = .ok a := by
  cases x with
  | error e => simp [Except.mapError]
  | ok a' => simp [Except.mapError]

theorem except_toOption_eq_some {x : Except ε α} {a : α} :
    x.toOption = some a ↔ x = .ok a := by
  cases x with
  | error e => simp [Except.toOption]
  | ok a' => simp [Except.toOption]

end Returns

end Backend
