-- SUMMARY: The settlement contract FluxSignedOrderSettlement over an arbitrary world of tokens, router and receivers.
import FluxSwap.Contracts.Abi
import FluxSwap.Contracts.OpenZeppelin

/-!
# FluxSignedOrderSettlement

The settlement's own storage and events, and the world around it. Everything the
settlement calls is part of its deployment: what a view returns and what a call
leaves behind. A call gets and returns the whole state, so that a token, the router
or a receiver of ETH can re-enter the settlement.
-/

open Exec

namespace FluxSignedOrderSettlement

/-! ## Data -/

structure SignedOrder where
  maker                : Address
  inputToken           : Address
  outputToken          : Address
  amountIn             : Nat
  minAmountOut         : Nat
  maxExecutorRewardBps : Nat
  triggerPriceX18      : Nat
  expiry               : Nat
  nonce                : Nat
  recipient            : Address
  /-- Every number is a `uint256`. -/
  fits : ∀ n ∈ [amountIn, minAmountOut, maxExecutorRewardBps, triggerPriceX18, expiry, nonce],
    n ≤ Uint256.max := by decide
  deriving DecidableEq

/-- The storage; `entered` is the flag of `ReentrancyGuard`. -/
structure Storage where
  owner                  : Address
  paused                 : Bool
  restrictedExecutor     : Address
  onlyRestrictedExecutor : Bool
  orderExecuted          : Bytes32 → Bool
  invalidatedNonce       : Address → Nat → Bool
  entered                : Bool

/-- The events. `OrderExecuted` carries the maker, the tokens, the input amount and the
    recipient of its order; here it carries the order itself. -/
inductive Event
  | orderExecuted (orderHash : Bytes32) (order : SignedOrder) (executor : Address)
      (grossAmountOut recipientAmountOut executorFeeAmount : Nat)
  | nonceInvalidated (maker : Address) (nonce : Nat)
  | executorPolicyUpdated (restricted : Bool) (executor : Address)
  | paused (account : Address)
  | unpaused (account : Address)
  | ownershipTransferred (previousOwner newOwner : Address)
  deriving DecidableEq

structure State (ω : Type) where
  storage : Storage
  events  : List Event
  world   : ω

/-- The calls by which the settlement hands over control. -/
inductive Call
  | transferFrom (token src dst : Address) (value : Nat)
  | approve (token spender : Address) (value : Nat)
  | transfer (token dst : Address) (value : Nat)
  | swapExactTokensForTokens (amountIn amountOutMin : Nat) (path : List Address) (dst : Address)
      (deadline : Nat)
  | swapExactTokensForETH (amountIn amountOutMin : Nat) (path : List Address) (dst : Address)
      (deadline : Nat)
  | sendETH (dst : Address) (value : Nat)

/-- A deployed settlement: its immutables, what it inherits, the cryptography, and the
    contracts around it. A token that answers `false` counts as a call that fails. -/
structure Deployment (ω : Type) where
  self            : Address
  router          : Address
  WETH            : Address
  chainid         : Nat
  ownable         : Ownable
  reentrancyGuard : ReentrancyGuard
  math            : OZMath
  keccak256       : Bytes → Bytes32
  recover         : Bytes32 → Bytes → Exec Address
  timestamp       : ω → Nat
  getPair         : State ω → Address → Address → Exec Address
  getAmountsOut   : State ω → Nat → List Address → Exec (List Nat)
  decimals        : State ω → Address → Exec Nat
  balanceOf       : State ω → Address → Address → Exec Nat
  allowance       : State ω → Address → Address → Address → Exec Nat
  call            : Call → State ω → Exec (State ω)

variable {ω : Type}

namespace State

def emit (s : State ω) (e : Event) : State ω := { s with events := s.events ++ [e] }

def invalidate (s : State ω) (maker : Address) (nonce : Nat) : State ω :=
  { s with storage := { s.storage with invalidatedNonce := fun m n =>
      if m = maker ∧ n = nonce then true else s.storage.invalidatedNonce m n } }

def markExecuted (s : State ω) (orderHash : Bytes32) : State ω :=
  { s with storage := { s.storage with orderExecuted := fun h =>
      if h = orderHash then true else s.storage.orderExecuted h } }

def setEntered (s : State ω) (entered : Bool) : State ω :=
  { s with storage := { s.storage with entered := entered } }

end State

/-! ## Hashes and signatures -/

section Views

variable (d : Deployment ω)

def ORDER_TYPEHASH : Bytes32 := d.keccak256 (Abi.ascii
  ("SignedOrder(address maker,address inputToken,address outputToken,uint256 amountIn," ++
    "uint256 minAmountOut,uint256 maxExecutorRewardBps,uint256 triggerPriceX18," ++
    "uint256 expiry,uint256 nonce,address recipient)"))

def INVALIDATE_NONCES_TYPEHASH : Bytes32 := d.keccak256 (Abi.ascii
  "InvalidateNonces(address maker,bytes32 noncesHash,uint256 deadline)")

def DOMAIN_TYPEHASH : Bytes32 := d.keccak256 (Abi.ascii
  "EIP712Domain(string name,string version,uint256 chainId,address verifyingContract)")

def NAME_HASH : Bytes32 := d.keccak256 (Abi.ascii "Flux Signed Order Settlement")

def VERSION_HASH : Bytes32 := d.keccak256 (Abi.ascii "1")

def DOMAIN_SEPARATOR : Bytes32 := d.keccak256 (Abi.words
  [DOMAIN_TYPEHASH d, NAME_HASH d, VERSION_HASH d, d.chainid, d.self])

def hashOrder (order : SignedOrder) : Bytes32 := d.keccak256 (Abi.words
  [ORDER_TYPEHASH d, order.maker, order.inputToken, order.outputToken, order.amountIn,
    order.minAmountOut, order.maxExecutorRewardBps, order.triggerPriceX18, order.expiry,
    order.nonce, order.recipient])

/-- The EIP-712 digest of a struct hash. -/
def typedDigest (structHash : Bytes32) : Bytes32 := d.keccak256
  ([0x19, 0x01] ++ Abi.words [DOMAIN_SEPARATOR d, structHash])

/-- `_verifyOrderSignature`. -/
def verifyOrderSignature (orderHash : Bytes32) (maker : Address) (signature : Bytes) :
    Exec Unit := do
  let recoveredSigner ← d.recover (typedDigest d orderHash) signature
  require (recoveredSigner = maker) "FluxSignedOrderSettlement: INVALID_SIGNATURE"

/-- The digest that a maker signs to invalidate nonces. -/
def invalidateNoncesDigest (maker : Address) (nonces : List Nat) (deadline : Nat) : Bytes32 :=
  typedDigest d (d.keccak256 (Abi.words
    [INVALIDATE_NONCES_TYPEHASH d, maker, d.keccak256 (Abi.words nonces), deadline]))

/-! ## Checks of an order -/

/-- `_normalizePairTokens`, `_buildPath`: the zero address stands for WETH. -/
def normalizeOutputToken (outputToken : Address) : Address :=
  if outputToken = Address.zero then d.WETH else outputToken

/-- `_buildPath`. -/
def buildPath (inputToken outputToken : Address) : List Address :=
  [inputToken, normalizeOutputToken d outputToken]

/-- `_hasIdenticalAssets`. -/
def hasIdenticalAssets (inputToken outputToken : Address) : Bool :=
  inputToken = normalizeOutputToken d outputToken

/-- `_pairExists`. -/
def pairExists (s : State ω) (inputToken outputToken : Address) : Exec Bool := do
  let pair ← d.getPair s inputToken (normalizeOutputToken d outputToken)
  pure (pair ≠ Address.zero)

/-- `_isNonceUnavailable`. -/
def isNonceUnavailable (s : State ω) (maker : Address) (nonce : Nat) : Bool :=
  s.storage.invalidatedNonce maker nonce

/-- `_validateExecutor`. -/
def validateExecutor (s : State ω) (executor : Address) : Exec Unit :=
  require (s.storage.onlyRestrictedExecutor = true → executor = s.storage.restrictedExecutor)
    "FluxSignedOrderSettlement: EXECUTOR_FORBIDDEN"

/-- `_validateOrder`. -/
def validateOrder (s : State ω) (order : SignedOrder) : Exec Unit := do
  require (order.maker ≠ Address.zero) "FluxSignedOrderSettlement: ZERO_MAKER"
  require (order.inputToken ≠ Address.zero) "FluxSignedOrderSettlement: INPUT_TOKEN_MUST_BE_ERC20"
  require (hasIdenticalAssets d order.inputToken order.outputToken = false)
    "FluxSignedOrderSettlement: IDENTICAL_TOKENS"
  require (0 < order.amountIn) "FluxSignedOrderSettlement: ZERO_AMOUNT_IN"
  require (0 < order.minAmountOut) "FluxSignedOrderSettlement: ZERO_MIN_AMOUNT_OUT"
  require (order.maxExecutorRewardBps ≤ 10000)
    "FluxSignedOrderSettlement: INVALID_EXECUTOR_REWARD_BPS"
  require (0 < order.triggerPriceX18) "FluxSignedOrderSettlement: ZERO_TRIGGER_PRICE"
  require (d.timestamp s.world ≤ order.expiry) "FluxSignedOrderSettlement: ORDER_EXPIRED"
  require (order.recipient ≠ Address.zero) "FluxSignedOrderSettlement: ZERO_RECIPIENT"
  let found ← pairExists d s order.inputToken order.outputToken
  require (found = true) "FluxSignedOrderSettlement: PAIR_NOT_FOUND"

/-- `_validateQuoteOrder`. -/
def validateQuoteOrder (s : State ω) (inputToken outputToken : Address) (amountIn : Nat) :
    Exec Unit := do
  require (inputToken ≠ Address.zero) "FluxSignedOrderSettlement: INPUT_TOKEN_MUST_BE_ERC20"
  require (hasIdenticalAssets d inputToken outputToken = false)
    "FluxSignedOrderSettlement: IDENTICAL_TOKENS"
  require (0 < amountIn) "FluxSignedOrderSettlement: ZERO_AMOUNT_IN"
  let found ← pairExists d s inputToken outputToken
  require (found = true) "FluxSignedOrderSettlement: PAIR_NOT_FOUND"

/-! ## Quotes -/

/-- `_getAmountOut`. -/
def getAmountOut (s : State ω) (inputToken outputToken : Address) (amountIn : Nat) :
    Exec Nat := do
  let amounts ← d.getAmountsOut s amountIn (buildPath d inputToken outputToken)
  last amounts

/-- The quote of `getOrderQuote`, which reads only the tokens and the input amount. -/
def quoteFor (s : State ω) (inputToken outputToken : Address) (amountIn : Nat) : Exec Nat := do
  validateQuoteOrder d s inputToken outputToken amountIn
  getAmountOut d s inputToken outputToken amountIn

def getOrderQuote (s : State ω) (order : SignedOrder) : Exec Nat :=
  quoteFor d s order.inputToken order.outputToken order.amountIn

/-- `_tryGetAmountOut`: the settlement asks itself for the quote of a dummy order with
    these tokens and this amount; a revert is caught. -/
def tryGetAmountOut (s : State ω) (inputToken outputToken : Address) (amountIn : Nat) :
    Bool × Nat :=
  match quoteFor d s inputToken outputToken amountIn with
  | .ok quotedAmountOut => (true, quotedAmountOut)
  | .error _ => (false, 0)

/-- `_decimalScale`. -/
def decimalScale (s : State ω) (token : Address) : Exec Nat := do
  let decimals ← d.decimals s token
  require (decimals ≤ 77) "FluxSignedOrderSettlement: DECIMALS_TOO_LARGE"
  pure (10 ^ decimals)

def PRICE_SCALE : Nat := 10 ^ 18

/-- `_quotePriceX18`. -/
def quotePriceX18 (s : State ω) (inputToken outputToken : Address) (amountIn amountOut : Nat) :
    Exec Nat := do
  let inputScale ← decimalScale d s inputToken
  let outputScale ← decimalScale d s (normalizeOutputToken d outputToken)
  let normalizedAmountOut ← d.math.mulDiv amountOut inputScale outputScale
  d.math.mulDiv normalizedAmountOut PRICE_SCALE amountIn

/-- `_meetsTrigger`. -/
def meetsTrigger (s : State ω) (inputToken outputToken : Address)
    (amountIn amountOut triggerPriceX18 : Nat) : Exec Bool := do
  let quotedPriceX18 ← quotePriceX18 d s inputToken outputToken amountIn amountOut
  pure (triggerPriceX18 ≤ quotedPriceX18)

/-- The last steps of `canExecuteOrder`: the quote and the trigger. -/
def canExecuteAtQuote (s : State ω) (order : SignedOrder) : Exec (Bool × String) :=
  match tryGetAmountOut d s order.inputToken order.outputToken order.amountIn with
  | (false, _) => pure (false, "INSUFFICIENT_LIQUIDITY")
  | (true, amountOut) =>
    if amountOut < order.minAmountOut then pure (false, "INSUFFICIENT_OUTPUT")
    else do
      let reached ← meetsTrigger d s order.inputToken order.outputToken order.amountIn amountOut
        order.triggerPriceX18
      pure (if reached then (true, "OK") else (false, "PRICE_NOT_REACHED"))

/-- The middle steps of `canExecuteOrder`: the pair, the maker's balance and allowance. -/
def canExecuteFunded (s : State ω) (order : SignedOrder) : Exec (Bool × String) := do
  let found ← pairExists d s order.inputToken order.outputToken
  if !found then pure (false, "PAIR_NOT_FOUND")
  else do
    let balance ← d.balanceOf s order.inputToken order.maker
    if balance < order.amountIn then pure (false, "INSUFFICIENT_BALANCE")
    else do
      let allowance ← d.allowance s order.inputToken order.maker d.self
      if allowance < order.amountIn then pure (false, "INSUFFICIENT_ALLOWANCE")
      else canExecuteAtQuote d s order

def canExecuteOrder (s : State ω) (order : SignedOrder) : Exec (Bool × String) :=
  if s.storage.paused then pure (false, "PAUSED")
  else if s.storage.onlyRestrictedExecutor ∧ s.storage.restrictedExecutor = Address.zero then
    pure (false, "EXECUTOR_NOT_SET")
  else if order.maker = Address.zero then pure (false, "ZERO_MAKER")
  else if order.inputToken = Address.zero then pure (false, "INPUT_TOKEN_MUST_BE_ERC20")
  else if hasIdenticalAssets d order.inputToken order.outputToken then
    pure (false, "IDENTICAL_TOKENS")
  else if order.amountIn = 0 then pure (false, "ZERO_AMOUNT_IN")
  else if order.minAmountOut = 0 then pure (false, "ZERO_MIN_AMOUNT_OUT")
  else if 10000 < order.maxExecutorRewardBps then pure (false, "INVALID_EXECUTOR_REWARD_BPS")
  else if order.triggerPriceX18 = 0 then pure (false, "ZERO_TRIGGER_PRICE")
  else if order.recipient = Address.zero then pure (false, "ZERO_RECIPIENT")
  else if order.expiry < d.timestamp s.world then pure (false, "ORDER_EXPIRED")
  else if s.storage.orderExecuted (hashOrder d order) then pure (false, "ORDER_ALREADY_EXECUTED")
  else if isNonceUnavailable s order.maker order.nonce then pure (false, "NONCE_INVALIDATED")
  else canExecuteFunded d s order

end Views

/-! ## Execution -/

section Execution

variable (d : Deployment ω)

/-- A low-level call whose failure is reported with the caller's own text. -/
def callOrRevert (call : Call) (text : String) (s : State ω) : Exec (State ω) :=
  match d.call call s with
  | .ok s' => .ok s'
  | .error _ => .error (.message text)

/-- `_approveIfNeeded`. -/
def approveIfNeeded (token spender : Address) (amount : Nat) (s : State ω) : Exec (State ω) := do
  let currentAllowance ← d.allowance s token d.self spender
  if amount ≤ currentAllowance then pure s
  else if 0 < currentAllowance then do
    let s ← callOrRevert d (.approve token spender 0)
      "FluxSignedOrderSettlement: APPROVE_RESET_FAILED" s
    callOrRevert d (.approve token spender Uint256.max)
      "FluxSignedOrderSettlement: APPROVE_FAILED" s
  else
    callOrRevert d (.approve token spender Uint256.max)
      "FluxSignedOrderSettlement: APPROVE_FAILED" s

/-- The payment of the executor, which is left out when there is no reward. -/
def payReward (pay : Call) (text : String) (executorReward : Nat) (s : State ω) :
    Exec (State ω) :=
  if 0 < executorReward then callOrRevert d pay text s else pure s

/-- `_distributeTokenOutput`. -/
def distributeTokenOutput (outputToken recipient executor : Address)
    (amountOut executorReward : Nat) (s : State ω) : Exec (State ω) := do
  let recipientAmount ← Uint256.sub amountOut executorReward
  let s ← callOrRevert d (.transfer outputToken recipient recipientAmount)
    "TransferHelper: TRANSFER_FAILED" s
  payReward d (.transfer outputToken executor executorReward)
    "TransferHelper: TRANSFER_FAILED" executorReward s

/-- `_distributeNativeOutput`. -/
def distributeNativeOutput (recipient executor : Address) (amountOut executorReward : Nat)
    (s : State ω) : Exec (State ω) := do
  let recipientAmount ← Uint256.sub amountOut executorReward
  let s ← callOrRevert d (.sendETH recipient recipientAmount)
    "TransferHelper: ETH_TRANSFER_FAILED" s
  payReward d (.sendETH executor executorReward)
    "TransferHelper: ETH_TRANSFER_FAILED" executorReward s

/-- The router call of `_settleAndDistribute`. -/
def settleCall (order : SignedOrder) (requiredSettlementOut deadline : Nat) : Call :=
  if order.outputToken = Address.zero then
    .swapExactTokensForETH order.amountIn requiredSettlementOut
      (buildPath d order.inputToken order.outputToken) d.self deadline
  else
    .swapExactTokensForTokens order.amountIn requiredSettlementOut
      (buildPath d order.inputToken order.outputToken) d.self deadline

/-- The payout of `_settleAndDistribute`. -/
def distribute (order : SignedOrder) (amountOut executorReward : Nat) (executor : Address)
    (s : State ω) : Exec (State ω) :=
  if order.outputToken = Address.zero then
    distributeNativeOutput d order.recipient executor amountOut executorReward s
  else
    distributeTokenOutput d order.outputToken order.recipient executor amountOut executorReward s

/-- `_settleAndDistribute`. -/
def settleAndDistribute (order : SignedOrder) (deadline amountOut executorReward : Nat)
    (executor : Address) (s : State ω) : Exec (State ω) := do
  let requiredSettlementOut ← Uint256.add order.minAmountOut executorReward
  let s ← d.call (settleCall d order requiredSettlementOut deadline) s
  distribute d order amountOut executorReward executor s

/-- `_emitOrderExecuted`. -/
def emitOrderExecuted (orderHash : Bytes32) (order : SignedOrder) (executor : Address)
    (amountOut executorReward : Nat) (s : State ω) : Exec (State ω) := do
  let recipientAmount ← Uint256.sub amountOut executorReward
  pure (s.emit (.orderExecuted orderHash order executor amountOut recipientAmount executorReward))

/-- The modifier `nonReentrant`. -/
def nonReentrant {α : Type} (body : State ω → Exec (State ω × α)) (s : State ω) :
    Exec (State ω × α) := do
  let entered ← d.reentrancyGuard.nonReentrantBefore s.storage.entered
  let (s, result) ← body (s.setEntered entered)
  pure (s.setEntered (d.reentrancyGuard.nonReentrantAfter s.storage.entered), result)

theorem nonReentrant_eq_ok {d : Deployment ω} {α : Type} {body : State ω → Exec (State ω × α)}
    {s s' : State ω} {result : α} :
    nonReentrant d body s = .ok (s', result) ↔ s.storage.entered = false ∧
      ∃ s₁, body (s.setEntered true) = .ok (s₁, result) ∧ s' = s₁.setEntered false := by
  simp only [nonReentrant, bind_eq_ok, d.reentrancyGuard.nonReentrantBefore_eq_ok,
    d.reentrancyGuard.nonReentrantAfter_eq, pure_eq_ok, Prod.mk.injEq]
  constructor
  · rintro ⟨_, ⟨hopen, rfl⟩, ⟨s₁, _⟩, hbody, rfl, rfl⟩
    exact ⟨hopen, s₁, hbody, rfl⟩
  · rintro ⟨hopen, s₁, hbody, rfl⟩
    exact ⟨true, ⟨hopen, rfl⟩, (s₁, result), hbody, rfl, rfl⟩

/-- The checks of `executeOrder`, up to the first write. Returns the quote. -/
def admitOrder (sender : Address) (order : SignedOrder) (signature : Bytes)
    (deadline executorReward : Nat) (s : State ω) : Exec Nat := do
  require (s.storage.paused = false) "FluxSignedOrderSettlement: PAUSED"
  validateExecutor s sender
  validateOrder d s order
  require (d.timestamp s.world ≤ deadline) "FluxSignedOrderSettlement: EXPIRED"
  require (s.storage.orderExecuted (hashOrder d order) = false)
    "FluxSignedOrderSettlement: ORDER_ALREADY_EXECUTED"
  require (isNonceUnavailable s order.maker order.nonce = false)
    "FluxSignedOrderSettlement: NONCE_INVALIDATED"
  verifyOrderSignature d (hashOrder d order) order.maker signature
  let amountOut ← getAmountOut d s order.inputToken order.outputToken order.amountIn
  require (order.minAmountOut ≤ amountOut) "FluxSignedOrderSettlement: INSUFFICIENT_OUTPUT"
  let reached ← meetsTrigger d s order.inputToken order.outputToken order.amountIn amountOut
    order.triggerPriceX18
  require (reached = true) "FluxSignedOrderSettlement: PRICE_NOT_REACHED"
  let surplus ← Uint256.sub amountOut order.minAmountOut
  let scaled ← Uint256.mul surplus order.maxExecutorRewardBps
  require (executorReward ≤ scaled / 10000) "FluxSignedOrderSettlement: EXECUTOR_REWARD_TOO_HIGH"
  pure amountOut

/-- The input of `executeOrder`: pulled from the maker and approved to the router. -/
def pullInput (order : SignedOrder) (s : State ω) : Exec (State ω) := do
  let balance ← d.balanceOf s order.inputToken order.maker
  require (order.amountIn ≤ balance) "FluxSignedOrderSettlement: INSUFFICIENT_BALANCE"
  let allowance ← d.allowance s order.inputToken order.maker d.self
  require (order.amountIn ≤ allowance) "FluxSignedOrderSettlement: INSUFFICIENT_ALLOWANCE"
  let s ← callOrRevert d (.transferFrom order.inputToken order.maker d.self order.amountIn)
    "TransferHelper: TRANSFER_FROM_FAILED" s
  approveIfNeeded d order.inputToken d.router order.amountIn s

def executeOrder (sender : Address) (order : SignedOrder) (signature : Bytes)
    (deadline executorReward : Nat) : State ω → Exec (State ω × Nat) :=
  nonReentrant d fun s => do
    let amountOut ← admitOrder d sender order signature deadline executorReward s
    let s := (s.markExecuted (hashOrder d order)).invalidate order.maker order.nonce
    let s ← pullInput d order s
    let s ← settleAndDistribute d order deadline amountOut executorReward sender s
    let s ← emitOrderExecuted (hashOrder d order) order sender amountOut executorReward s
    pure (s, amountOut)

/-- The loop of `invalidateNoncesBySig`. -/
def invalidateAll (maker : Address) : List Nat → State ω → Exec (State ω)
  | [], s => pure s
  | nonce :: nonces, s => do
    require (isNonceUnavailable s maker nonce = false)
      "FluxSignedOrderSettlement: NONCE_INVALIDATED"
    invalidateAll maker nonces ((s.invalidate maker nonce).emit (.nonceInvalidated maker nonce))

def invalidateNoncesBySig (maker : Address) (nonces : List Nat) (deadline : Nat)
    (signature : Bytes) (s : State ω) : Exec (State ω) := do
  require (maker ≠ Address.zero) "FluxSignedOrderSettlement: ZERO_MAKER"
  require (d.timestamp s.world ≤ deadline) "FluxSignedOrderSettlement: EXPIRED"
  require (0 < nonces.length) "FluxSignedOrderSettlement: EMPTY_NONCES"
  let recoveredSigner ← d.recover (invalidateNoncesDigest d maker nonces deadline) signature
  require (recoveredSigner = maker) "FluxSignedOrderSettlement: INVALID_SIGNATURE"
  invalidateAll maker nonces s

end Execution

/-! ## Administration -/

section Administration

variable (d : Deployment ω)

def onlyOwner (sender : Address) (s : State ω) : Exec Unit :=
  d.ownable.onlyOwner sender s.storage.owner

/-- A change of the administrative fields of the storage, with its event. -/
def administer (s : State ω) (change : Storage → Storage) (e : Event) : State ω :=
  State.emit { s with storage := change s.storage } e

def setRestrictedExecutor (sender executor : Address) (s : State ω) : Exec (State ω) := do
  onlyOwner d sender s
  pure (administer s (fun st => { st with restrictedExecutor := executor })
    (.executorPolicyUpdated s.storage.onlyRestrictedExecutor executor))

def setExecutorRestriction (sender : Address) (restricted : Bool) (s : State ω) :
    Exec (State ω) := do
  onlyOwner d sender s
  require (restricted = true → s.storage.restrictedExecutor ≠ Address.zero)
    "FluxSignedOrderSettlement: ZERO_EXECUTOR"
  pure (administer s (fun st => { st with onlyRestrictedExecutor := restricted })
    (.executorPolicyUpdated restricted s.storage.restrictedExecutor))

def pause (sender : Address) (s : State ω) : Exec (State ω) := do
  onlyOwner d sender s
  require (s.storage.paused = false) "FluxSignedOrderSettlement: PAUSED"
  pure (administer s (fun st => { st with paused := true }) (.paused sender))

def unpause (sender : Address) (s : State ω) : Exec (State ω) := do
  onlyOwner d sender s
  require (s.storage.paused = true) "FluxSignedOrderSettlement: NOT_PAUSED"
  pure (administer s (fun st => { st with paused := false }) (.unpaused sender))

/-- A new owner, with the event of `Ownable`. -/
def setOwner (newOwner : Address) (s : State ω) : State ω :=
  administer s (fun st => { st with owner := newOwner })
    (.ownershipTransferred s.storage.owner newOwner)

/-- `transferOwnership`, as it is inherited. -/
def transferOwnership (sender newOwner : Address) (s : State ω) : Exec (State ω) := do
  let owner ← d.ownable.transferOwnership sender newOwner s.storage.owner
  pure (setOwner owner s)

/-- `renounceOwnership`, as it is inherited. -/
def renounceOwnership (sender : Address) (s : State ω) : Exec (State ω) := do
  let owner ← d.ownable.renounceOwnership sender s.storage.owner
  pure (setOwner owner s)

/-- `receive`: only the router and WETH may send ETH. -/
def receive (sender : Address) : Exec Unit :=
  require (sender = d.router ∨ sender = d.WETH)
    "FluxSignedOrderSettlement: INVALID_NATIVE_SENDER"

end Administration

/-- The transactions that change the settlement. -/
inductive Op
  | executeOrder (order : SignedOrder) (signature : Bytes) (deadline executorReward : Nat)
  | invalidateNoncesBySig (maker : Address) (nonces : List Nat) (deadline : Nat)
      (signature : Bytes)
  | setRestrictedExecutor (executor : Address)
  | setExecutorRestriction (restricted : Bool)
  | pause
  | unpause
  | transferOwnership (newOwner : Address)
  | renounceOwnership

def exec (d : Deployment ω) (sender : Sender) (s : State ω) : Op → Exec (State ω)
  | .executeOrder order signature deadline executorReward => do
    let (s, _) ← executeOrder d sender order signature deadline executorReward s
    pure s
  | .invalidateNoncesBySig maker nonces deadline signature =>
    invalidateNoncesBySig d maker nonces deadline signature s
  | .setRestrictedExecutor executor => setRestrictedExecutor d sender executor s
  | .setExecutorRestriction restricted => setExecutorRestriction d sender restricted s
  | .pause => pause d sender s
  | .unpause => unpause d sender s
  | .transferOwnership newOwner => transferOwnership d sender newOwner s
  | .renounceOwnership => renounceOwnership d sender s

/-- A transaction: one that reverts changes nothing. -/
def transact (d : Deployment ω) (sender : Sender) (op : Op) (s : State ω) : State ω :=
  match exec d sender s op with
  | .ok s' => s'
  | .error _ => s

end FluxSignedOrderSettlement
