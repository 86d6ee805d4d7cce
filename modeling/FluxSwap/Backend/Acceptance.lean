-- SUMMARY: An order that CreateOrder stores is rebuilt as it was signed and passes the settlement's checks of its fields exactly if its numbers are positive words and two addresses are usable.
import FluxSwap.Backend.Creation
import FluxSwap.Settlement.Checks
import FluxSwap.Signing.Agreement

/-!
# Stored orders

What `CreateOrder` checks is a text; what the settlement checks is a number. In between the
payload is hashed, the record is stored, and the executor builds the payload again.
-/

namespace Backend

open Text OrderSignature Signing FluxSignedOrderSettlement

variable {ω : Type}

/-! ## Specifications -/

/-- go-ethereum reads an address as the number that its hexadecimal digits denote, whatever
    their case and the white space around them. -/
structure CommonSpecified (common : Common) (go : GoEthereum) : Prop where
  isHexAddress : ∀ s, isHex 40 s = true → common.isHexAddress s = true
  hexToAddress : ∀ s, isHex 40 s = true → (common.hexToAddress s).val = hexadecimal (hexDigits s)
  toAddress : ∀ s, isAddress s = true →
    go.toAddress (.ofList s) = some (common.hexToAddress (normalizeAddress s))

/-- The numeric columns hold the integers that are written to them. -/
def StoresColumns (db : OrderRepository) : Prop :=
  ∀ order row, db.create order = .ok row → row = order.columns

/-- The checks of `_validateOrder` that depend on the order alone. -/
structure WellFormed (d : Deployment ω) (order : SignedOrder) : Prop where
  maker : order.maker ≠ Address.zero
  input : order.inputToken ≠ Address.zero
  distinct : hasIdenticalAssets d order.inputToken order.outputToken = false
  amountIn : 0 < order.amountIn
  minAmountOut : 0 < order.minAmountOut
  rewardBps : order.maxExecutorRewardBps ≤ 10000
  trigger : 0 < order.triggerPriceX18
  recipient : order.recipient ≠ Address.zero

theorem validOrder_iff {d : Deployment ω} {s : FluxSignedOrderSettlement.State ω}
    {order : SignedOrder} :
    ValidOrder d s order ↔ WellFormed d order ∧ d.timestamp s.world ≤ order.expiry ∧
      pairExists d s order.inputToken order.outputToken = .ok true := by
  constructor
  · rintro ⟨h1, h2, h3, h4, h5, h6, h7, h8, h9, h10⟩
    exact ⟨⟨h1, h2, h3, h4, h5, h6, h7, h9⟩, h8, h10⟩
  · rintro ⟨⟨h1, h2, h3, h4, h5, h6, h7, h9⟩, h8, h10⟩
    exact ⟨h1, h2, h3, h4, h5, h6, h7, h8, h9, h10⟩

/-! ## Accepted requests -/

theorem argument_eq_ok {condition : Bool} {message : String} {u : Unit} :
    argument condition message = .ok u ↔ condition = true := by
  unfold argument
  split
  · exact ⟨fun _ => ‹_›, fun _ => rfl⟩
  · exact ⟨nofun, fun h => absurd h ‹_›⟩

/-- What the checks of a request establish. -/
structure CheckedRequest (common : Common) (r : CreateOrderRequest) : Prop where
  settlement : isAddress r.settlementAddress = true
  maker : isAddress r.maker = true
  input : isAddress r.inputToken = true
  inputNonzero : common.hexToAddress (normalizeAddress r.inputToken) ≠ Address.zero
  output : isAddress r.outputToken = true
  distinct : normalizeAddress r.inputToken ≠ normalizeAddress r.outputToken
  amountIn : isUint r.amountIn = true
  minAmountOut : isUint r.minAmountOut = true
  reward : trimSpace r.maxExecutorRewardBps = [] ∨ isUint r.maxExecutorRewardBps = true
  rewardBps : mustBigInt r.maxExecutorRewardBps ≤ 10000
  trigger : isUint r.triggerPriceX18 = true
  expiry : isUint r.expiry = true
  nonce : isUint r.nonce = true
  recipient : isAddress r.recipient = true

theorem isUint_of_isPositiveUint {value : Text} (h : isPositiveUint value = true) :
    isUint value = true := by
  unfold isPositiveUint at h
  exact (Bool.and_eq_true_iff.mp h).1

theorem checkRequest_ok {common : Common} {r : CreateOrderRequest}
    (h : checkRequest common r = .ok ()) : CheckedRequest common r := by
  unfold checkRequest at h
  simp only [except_bind_eq_ok, argument_eq_ok, decide_eq_true_eq, Bool.or_eq_true] at h
  obtain ⟨_, -, _, hsettlement, _, -, _, hmaker, _, hinput, _, hnonzero, _, houtput, _, hdistinct,
    _, hamountIn, _, hminAmountOut, _, hreward, _, hbps, _, htrigger, _, hexpiry, _, hnonce, _,
    hrecipient, -⟩ := h
  refine ⟨hsettlement, hmaker, hinput, hnonzero, houtput, hdistinct,
    isUint_of_isPositiveUint hamountIn, isUint_of_isPositiveUint hminAmountOut, hreward, ?_,
    isUint_of_isPositiveUint htrigger, isUint_of_isPositiveUint hexpiry, hnonce, hrecipient⟩
  cases hbps with
  | inl hempty =>
    unfold mustBigInt
    rw [hempty]
    decide
  | inr hbps => exact hbps

theorem valid_eq_ok {condition : Bool} {message : String} {u : Unit} :
    valid condition message = .ok u ↔ condition = true := by
  unfold valid
  split
  · exact ⟨fun _ => ‹_›, fun _ => rfl⟩
  · exact ⟨nofun, fun h => absurd h ‹_›⟩

/-- What the checks of hash and signature establish. -/
structure VerifiedRequest (go : GoEthereum) (common : Common) (r : CreateOrderRequest)
    (signature : Text) : Prop where
  hash : ∃ orderHash, computeOrderHash go (requestPayload common r) = .ok orderHash ∧
    toLower (common.hashHex orderHash) = normalizeHash r.orderHash
  signature : OrderSignature.verifyOrderSignature go r.chainId (.ofList r.settlementAddress)
    (requestPayload common r) (.ofList signature) = .ok ()

theorem verifyRequest_ok {go : GoEthereum} {common : Common} {r : CreateOrderRequest}
    {payload : SettlementOrder} {signature : Text}
    (h : verifyRequest go common r = .ok (payload, signature)) :
    VerifiedRequest go common r signature := by
  unfold verifyRequest at h
  obtain ⟨payload', hpayload, h⟩ := except_bind_eq_ok.mp h
  have hbuilt : payload' = requestPayload common r := by
    rw [except_mapError_eq_ok] at hpayload
    simp only [buildSettlementOrderFromRequest, except_bind_eq_ok, valid_eq_ok] at hpayload
    obtain ⟨_, -, _, -, _, -, _, -, _, -, hpayload⟩ := hpayload
    cases hpayload
    rfl
  subst hbuilt
  obtain ⟨orderHash, hhash, h⟩ := except_bind_eq_ok.mp h
  rw [except_mapError_eq_ok] at hhash
  split at h
  · cases h
  · rename_i hsame
    obtain ⟨normalizedSignature, -, h⟩ := except_bind_eq_ok.mp h
    obtain ⟨_, hverified, h⟩ := except_bind_eq_ok.mp h
    rw [except_mapError_eq_ok] at hverified
    cases h
    exact ⟨⟨orderHash, hhash, (not_not.mp hsame).symm⟩, hverified⟩

theorem insertOrder_ok {db : OrderRepository} {order : OrderRecord} {created : Created}
    (h : insertOrder db order = .ok created) : db.create order = .ok created.row := by
  unfold insertOrder at h
  split at h
  · rename_i row hrow
    cases h
    exact hrow
  · cases h
  · cases h

/-- An order is stored only after all checks, as the record of its request. -/
theorem createOrder_ok {go : GoEthereum} {common : Common} {env : CreateEnvironment}
    {r : CreateOrderRequest} {created : Created}
    (h : createOrder go common env r = .ok created) :
    ∃ db signature quote, env.db = some db ∧ CheckedRequest common r ∧
      VerifiedRequest go common r signature ∧ db.create (newOrder r signature quote) =
        .ok created.row := by
  unfold createOrder at h
  obtain ⟨_, hchecked, h⟩ := except_bind_eq_ok.mp h
  split at h
  · cases h
  · rename_i db hdb
    obtain ⟨_, -, h⟩ := except_bind_eq_ok.mp h
    obtain ⟨⟨payload, signature⟩, hverified, h⟩ := except_bind_eq_ok.mp h
    obtain ⟨quote, -, h⟩ := except_bind_eq_ok.mp h
    exact ⟨db, signature, quote, hdb, checkRequest_ok hchecked, verifyRequest_ok hverified,
      insertOrder_ok h⟩

/-! ## Numbers -/

theorem mustBigInt_of_isUint {value : Text} (h : isUint value = true) :
    mustBigInt value = (decimal (trimSpace value) : Nat) := by
  unfold mustBigInt
  rw [parseInt_of_isDecimal h]
  rfl

/-- What a numeric column returns is the number that was written, in other digits. -/
theorem parseText_column {value : Text} (h : isUint value = true) (field : String) :
    parseText (numericColumn (trimSpace value)) field = .ok (mustBigInt value) := by
  have hcolumn : numericColumn (trimSpace value) = Nat.toDigits 10 (decimal (trimSpace value)) := by
    unfold numericColumn
    rw [parseInt_of_isDecimal h]
    rfl
  unfold parseText
  rw [hcolumn, trimSpace_of_isDecimal (isDecimal_toDigits _),
    parseInt_of_isDecimal (isDecimal_toDigits _), decimal_toDigits, mustBigInt_of_isUint h]

theorem parsePositiveText_column {value : Text} (h : isUint value = true) (field : String)
    {n : Nat} : parsePositiveText (numericColumn (trimSpace value)) field = .ok n ↔
      0 < mustBigInt value ∧ n = (mustBigInt value).toNat := by
  unfold parsePositiveText
  rw [parseText_column h]
  change parsePositiveBigInt (mustBigInt value) field = .ok n ↔ _
  unfold parsePositiveBigInt
  split
  · rename_i hpositive
    simp only [Except.ok.injEq, hpositive, true_and, eq_comm]
  · rename_i hzero
    exact ⟨nofun, fun hn => (hzero hn.1).elim⟩

theorem parsePositiveText_of_pos {value : Text} (h : isUint value = true)
    (hpositive : 0 < mustBigInt value) (field : String) :
    parsePositiveText (numericColumn (trimSpace value)) field = .ok (mustBigInt value).toNat :=
  (parsePositiveText_column h field).mpr ⟨hpositive, rfl⟩

theorem parseNonNegativeText_column {value : Text} (h : isUint value = true)
    (field : String) : parseNonNegativeText (numericColumn (trimSpace value)) field =
      .ok (mustBigInt value).toNat := by
  unfold parseNonNegativeText
  rw [parseText_column h]
  change parseNonNegativeBigInt (mustBigInt value) field = _
  unfold parseNonNegativeBigInt
  rw [mustBigInt_of_isUint h, if_pos (Int.natCast_nonneg _)]

/-- An empty reward is stored as zero, which is also what the payload has. -/
theorem parseReward_column {value : Text}
    (h : trimSpace value = [] ∨ isUint value = true) (field : String) :
    parseNonNegativeText
      (numericColumn (if trimSpace value = [] then ['0'] else trimSpace value)) field =
        .ok (mustBigInt value).toNat := by
  cases h with
  | inl hempty =>
    have hzero : parseInt (trimSpace (numericColumn ['0'])) = some 0 := by decide +kernel
    unfold mustBigInt parseNonNegativeText parseText
    rw [if_pos hempty, hempty, hzero]
    rfl
  | inr huint =>
    rw [if_neg]
    · exact parseNonNegativeText_column huint field
    · intro hempty
      unfold isUint at huint
      rw [hempty] at huint
      cases huint

/-! ## Addresses -/

theorem isAddress_normalizeAddress {value : Text} (h : isAddress value = true) :
    isAddress (normalizeAddress value) = true := by
  unfold isAddress
  rwa [normalizeAddress_normalizeAddress]

/-- A stored address is one for the executor, too. -/
theorem CommonSpecified.stored {common : Common} {go : GoEthereum}
    (hc : CommonSpecified common go) {value : Text} (h : isAddress value = true) :
    common.isHexAddress (trimSpace (normalizeAddress value)) = true := by
  rw [trimSpace_of_forall (isSpace_of_isHex h)]
  exact hc.isHexAddress _ h

theorem isLowerHex_of_isAddress {value : Text} (h : isAddress value = true) :
    ∀ c ∈ hexDigits (normalizeAddress value), IsLowerHex c := by
  obtain ⟨hvalue, -, hdigits⟩ := eq_of_isHex h
  intro c hc
  refine ⟨hdigits c hc, toLower_mem_normalize (s := value) ?_⟩
  change c ∈ normalizeAddress value
  rw [hvalue]
  exact List.mem_cons_of_mem _ (List.mem_cons_of_mem _ hc)

/-- Addresses whose normal forms differ are different. -/
theorem CommonSpecified.injective {common : Common} {go : GoEthereum}
    (hc : CommonSpecified common go) {a b : Text} (ha : isAddress a = true)
    (hb : isAddress b = true)
    (h : common.hexToAddress (normalizeAddress a) = common.hexToAddress (normalizeAddress b)) :
    normalizeAddress a = normalizeAddress b := by
  obtain ⟨hformA, hlengthA, -⟩ := eq_of_isHex ha
  obtain ⟨hformB, hlengthB, -⟩ := eq_of_isHex hb
  have hvalue := congrArg Fin.val h
  rw [hc.hexToAddress _ ha, hc.hexToAddress _ hb] at hvalue
  have hdigits := hexadecimal_injective (hlengthA.trans hlengthB.symm)
    (isLowerHex_of_isAddress ha) (isLowerHex_of_isAddress hb) hvalue
  rw [hformA, hformB, hdigits]

/-! ## The rebuilt order -/

/-- The numbers that the executor and the settlement want to be positive are. -/
structure PositiveRequest (r : CreateOrderRequest) : Prop where
  amountIn : 0 < mustBigInt r.amountIn
  minAmountOut : 0 < mustBigInt r.minAmountOut
  trigger : 0 < mustBigInt r.triggerPriceX18
  expiry : 0 < mustBigInt r.expiry

/-- What `buildSettlementOrder` of the executor reads from a record. -/
structure OrderRecord.Builds (common : Common) (order : OrderRecord)
    (payload : SettlementOrder) : Prop where
  makerValid : common.isHexAddress (trimSpace order.maker) = true
  inputValid : common.isHexAddress (trimSpace order.inputToken) = true
  outputValid : common.isHexAddress (trimSpace order.outputToken) = true
  recipientValid : common.isHexAddress (trimSpace order.recipient) = true
  maker : payload.maker = common.hexToAddress order.maker
  input : payload.inputToken = common.hexToAddress order.inputToken
  output : payload.outputToken = common.hexToAddress order.outputToken
  recipient : payload.recipient = common.hexToAddress order.recipient
  amountIn : parsePositiveText order.amountIn "amount_in" = .ok payload.amountIn
  minAmountOut : parsePositiveText order.minAmountOut "min_amount_out" = .ok payload.minAmountOut
  reward : parseNonNegativeText order.executorFee "max_executor_reward_bps" =
    .ok payload.maxExecutorRewardBps
  rewardBps : ¬10000 < payload.maxExecutorRewardBps
  trigger : parsePositiveText order.triggerPriceX18 "trigger_price_x18" =
    .ok payload.triggerPriceX18
  expiry : parsePositiveText order.expiry "expiry" = .ok payload.expiry
  nonce : parseNonNegativeText order.nonce "nonce" = .ok payload.nonce

theorem OrderRecord.buildSettlementOrder_eq_ok {common : Common} {order : OrderRecord}
    {payload : SettlementOrder} :
    order.buildSettlementOrder common = .ok payload ↔ order.Builds common payload := by
  unfold OrderRecord.buildSettlementOrder
  simp only [except_bind_eq_ok, valid_eq_ok]
  constructor
  · rintro ⟨_, h1, _, h2, _, h3, _, h4, amountIn, h5, minAmountOut, h6, bps, h7, h⟩
    split at h
    · cases h
    · rename_i hbps
      simp only [except_bind_eq_ok] at h
      obtain ⟨triggerPriceX18, h8, expiry, h9, nonce, h10, h⟩ := h
      cases h
      exact ⟨h1, h2, h3, h4, rfl, rfl, rfl, rfl, h5, h6, h7, hbps, h8, h9, h10⟩
  · intro h
    refine ⟨(), h.makerValid, (), h.inputValid, (), h.outputValid, (), h.recipientValid, _,
      h.amountIn, _, h.minAmountOut, _, h.reward, ?_⟩
    rw [if_neg h.rewardBps]
    simp only [except_bind_eq_ok]
    refine ⟨_, h.trigger, _, h.expiry, _, h.nonce, ?_⟩
    rw [← h.maker, ← h.input, ← h.output, ← h.recipient]
    rfl

/-- The executor rebuilds the payload of the request, if it rebuilds anything. -/
theorem buildSettlementOrder_columns {common : Common} {go : GoEthereum}
    (hc : CommonSpecified common go) {r : CreateOrderRequest} (h : CheckedRequest common r)
    (signature : Text) (quote : InitialQuote) {payload : SettlementOrder} :
    (newOrder r signature quote).columns.buildSettlementOrder common = .ok payload ↔
      PositiveRequest r ∧ payload = requestPayload common r := by
  rw [OrderRecord.buildSettlementOrder_eq_ok]
  constructor
  · rintro ⟨-, -, -, -, hmaker, hinput, houtput, hrecipient, hamountIn, hminOut, hreward, -,
      htrigger, hexpiry, hnonce⟩
    dsimp only [OrderRecord.columns, newOrder] at hmaker hinput houtput hrecipient
    dsimp only [OrderRecord.columns, newOrder] at hamountIn hminOut hreward htrigger hexpiry hnonce
    -- a column that was written from a number reads back as it
    rw [parsePositiveText_column h.amountIn] at hamountIn
    rw [parsePositiveText_column h.minAmountOut] at hminOut
    rw [parsePositiveText_column h.trigger] at htrigger
    rw [parsePositiveText_column h.expiry] at hexpiry
    rw [parseReward_column h.reward, Except.ok.injEq] at hreward
    rw [parseNonNegativeText_column h.nonce, Except.ok.injEq] at hnonce
    refine ⟨⟨hamountIn.1, hminOut.1, htrigger.1, hexpiry.1⟩, ?_⟩
    cases payload
    simp only [requestPayload, SettlementOrder.mk.injEq]
    exact ⟨hmaker, hinput, houtput, hamountIn.2, hminOut.2, hreward.symm, htrigger.2, hexpiry.2,
      hnonce.symm, hrecipient⟩
  · rintro ⟨hpositive, rfl⟩
    have hbps := h.rewardBps
    constructor <;> dsimp only [OrderRecord.columns, newOrder, requestPayload]
    · exact hc.stored h.maker
    · exact hc.stored h.input
    · exact hc.stored h.output
    · exact hc.stored h.recipient
    · exact parsePositiveText_of_pos h.amountIn hpositive.amountIn _
    · exact parsePositiveText_of_pos h.minAmountOut hpositive.minAmountOut _
    · exact parseReward_column h.reward _
    · omega
    · exact parsePositiveText_of_pos h.trigger hpositive.trigger _
    · exact parsePositiveText_of_pos h.expiry hpositive.expiry _
    · exact parseNonNegativeText_column h.nonce _

/-! ## Well-formed orders -/

/-- What a stored row is good for: the executor rebuilds an order of the settlement, which is
    the order of the stored hash and signature and has acceptable fields. -/
def Executable (d : Deployment ω) (go : GoEthereum) (common : Common) (row : OrderRecord) :
    Prop :=
  ∃ order : SignedOrder,
    row.buildSettlementOrder common = .ok (backendOrder order) ∧
    (∃ orderHash, computeOrderHash go (backendOrder order) = .ok orderHash ∧
      toLower (common.hashHex orderHash) = row.orderHash) ∧
    OrderSignature.verifyOrderSignature go row.chainID (.ofList row.settlementAddress)
      (backendOrder order) (.ofList row.signature) = .ok () ∧
    WellFormed d order

/-- The amounts, the trigger price and the expiry of a request are positive words, its nonce is
    a word, its recipient is not the zero address, and it does not exchange WETH for ETH. -/
structure Usable (d : Deployment ω) (common : Common) (r : CreateOrderRequest) : Prop where
  amountIn : 0 < mustBigInt r.amountIn ∧ mustBigInt r.amountIn < 2 ^ 256
  minAmountOut : 0 < mustBigInt r.minAmountOut ∧ mustBigInt r.minAmountOut < 2 ^ 256
  trigger : 0 < mustBigInt r.triggerPriceX18 ∧ mustBigInt r.triggerPriceX18 < 2 ^ 256
  expiry : 0 < mustBigInt r.expiry ∧ mustBigInt r.expiry < 2 ^ 256
  nonce : mustBigInt r.nonce < 2 ^ 256
  recipient : common.hexToAddress (normalizeAddress r.recipient) ≠ Address.zero
  unwrapped : common.hexToAddress (normalizeAddress r.outputToken) = Address.zero →
    common.hexToAddress (normalizeAddress r.inputToken) ≠ d.WETH

theorem Usable.positive {d : Deployment ω} {common : Common} {r : CreateOrderRequest}
    (h : Usable d common r) : PositiveRequest r :=
  ⟨h.amountIn.1, h.minAmountOut.1, h.trigger.1, h.expiry.1⟩

theorem verifyOrderSignature_congr {go : GoEthereum} {chainID : Int} {a b : String}
    (h : go.toAddress a = go.toAddress b) (order : SettlementOrder) (signature : String) :
    OrderSignature.verifyOrderSignature go chainID a order signature =
      OrderSignature.verifyOrderSignature go chainID b order signature := by
  unfold OrderSignature.verifyOrderSignature computeOrderDigest
  rw [h]

/-- The stored settlement is the one that the signature has been verified for. -/
theorem CommonSpecified.toAddress_normalizeAddress {common : Common} {go : GoEthereum}
    (hc : CommonSpecified common go) {value : Text} (h : isAddress value = true) :
    go.toAddress (.ofList (normalizeAddress value)) = go.toAddress (.ofList value) := by
  rw [hc.toAddress _ h, hc.toAddress _ (isAddress_normalizeAddress h),
    normalizeAddress_normalizeAddress]

/-- The maker of a verified signature is the address of a key. -/
theorem maker_ne_zero {go : GoEthereum} (hkeys : ∀ key, go.pubkeyToAddress key ≠ Address.zero)
    {chainID : Int} {settlementAddress signature : String} {order : SettlementOrder}
    (h : OrderSignature.verifyOrderSignature go chainID settlementAddress order signature =
      .ok ()) : order.maker ≠ Address.zero := by
  unfold OrderSignature.verifyOrderSignature at h
  obtain ⟨digest, -, h⟩ := except_bind_eq_ok.mp h
  obtain ⟨bytes, -, h⟩ := except_bind_eq_ok.mp h
  obtain ⟨normalized, key, -, -, hmaker⟩ := verifySigner_ok h
  rw [← hmaker]
  exact hkeys key

theorem hasIdenticalAssets_iff {d : Deployment ω} {inputToken outputToken : Address} :
    hasIdenticalAssets d inputToken outputToken = false ↔
      inputToken ≠ if outputToken = Address.zero then d.WETH else outputToken := by
  unfold hasIdenticalAssets normalizeOutputToken
  exact decide_eq_false_iff_not

/-- The order of a usable request. -/
def requestOrder {d : Deployment ω} {common : Common} {r : CreateOrderRequest}
    (hbps : mustBigInt r.maxExecutorRewardBps ≤ 10000) (h : Usable d common r) :
    SignedOrder where
  maker := common.hexToAddress (normalizeAddress r.maker)
  inputToken := common.hexToAddress (normalizeAddress r.inputToken)
  outputToken := common.hexToAddress (normalizeAddress r.outputToken)
  amountIn := (mustBigInt r.amountIn).toNat
  minAmountOut := (mustBigInt r.minAmountOut).toNat
  maxExecutorRewardBps := (mustBigInt r.maxExecutorRewardBps).toNat
  triggerPriceX18 := (mustBigInt r.triggerPriceX18).toNat
  expiry := (mustBigInt r.expiry).toNat
  nonce := (mustBigInt r.nonce).toNat
  recipient := common.hexToAddress (normalizeAddress r.recipient)
  fits := by
    have hamountIn := h.amountIn
    have hminOut := h.minAmountOut
    have htrigger := h.trigger
    have hexpiry := h.expiry
    have hnonce := h.nonce
    simp only [Uint256.max, List.forall_mem_cons, List.not_mem_nil, false_implies,
      implies_true, and_true]
    omega

theorem backendOrder_requestOrder {d : Deployment ω} {common : Common} {r : CreateOrderRequest}
    (hbps : mustBigInt r.maxExecutorRewardBps ≤ 10000) (h : Usable d common r) :
    backendOrder (requestOrder hbps h) = requestPayload common r := by
  simp only [backendOrder, requestOrder, requestPayload]

/-- A stored row is good for execution if and only if its request is usable. -/
theorem createOrder_executable_iff {d : Deployment ω} {go : GoEthereum} {common : Common}
    {env : CreateEnvironment} {r : CreateOrderRequest} {created : Created}
    (hc : CommonSpecified common go) (hkeys : ∀ key, go.pubkeyToAddress key ≠ Address.zero)
    (hdb : ∀ db, env.db = some db → StoresColumns db)
    (h : createOrder go common env r = .ok created) :
    Executable d go common created.row ↔ Usable d common r := by
  obtain ⟨db, signature, quote, hsome, hchecked, hverified, hcreate⟩ := createOrder_ok h
  rw [hdb db hsome _ _ hcreate]
  constructor
  -- the integers of the order are bounded, and they are the columns of the row
  · rintro ⟨order, hbuild, -, -, hwell⟩
    obtain ⟨hpositive, hpayload⟩ := (buildSettlementOrder_columns hc hchecked _ _).mp hbuild
    simp only [backendOrder, requestPayload, SettlementOrder.mk.injEq] at hpayload
    obtain ⟨-, hinput, houtput, hamountIn, hminOut, -, htrigger, hexpiry, hnonce, hrecipient⟩ :=
      hpayload
    have hfits := order.fits
    simp only [Uint256.max, List.forall_mem_cons, List.not_mem_nil, false_implies, implies_true,
      and_true] at hfits
    refine ⟨⟨hpositive.amountIn, by omega⟩, ⟨hpositive.minAmountOut, by omega⟩,
      ⟨hpositive.trigger, by omega⟩, ⟨hpositive.expiry, by omega⟩, by omega, ?_, ?_⟩
    · rw [← hrecipient]
      exact hwell.recipient
    · intro hzero
      have hdistinct := hasIdenticalAssets_iff.mp hwell.distinct
      rwa [hinput, houtput, if_pos hzero] at hdistinct
  -- the signature that was checked is over the same hash
  · intro husable
    have hamountIn := husable.amountIn
    have hminOut := husable.minAmountOut
    have htrigger := husable.trigger
    have hexpiry := husable.expiry
    have hnonce := husable.nonce
    have hbps := hchecked.rewardBps
    have horder := backendOrder_requestOrder hbps husable
    refine ⟨requestOrder hbps husable, ?_, ?_, ?_, ?_⟩
    · exact (buildSettlementOrder_columns hc hchecked _ _).mpr ⟨husable.positive, horder⟩
    · rw [horder]
      exact hverified.hash
    · rw [horder]
      change OrderSignature.verifyOrderSignature go r.chainId
        (.ofList (normalizeAddress r.settlementAddress)) _ (.ofList signature) = _
      rw [verifyOrderSignature_congr (hc.toAddress_normalizeAddress hchecked.settlement)]
      exact hverified.signature
    · refine
        { maker := maker_ne_zero hkeys hverified.signature
          input := hchecked.inputNonzero
          distinct := hasIdenticalAssets_iff.mpr ?_
          amountIn := ?_
          minAmountOut := ?_
          rewardBps := ?_
          trigger := ?_
          recipient := husable.recipient }
      · split
        · exact husable.unwrapped ‹_›
        · exact fun hsame => hchecked.distinct (hc.injective hchecked.input hchecked.output hsame)
      · dsimp only [requestOrder]
        omega
      · dsimp only [requestOrder]
        omega
      · dsimp only [requestOrder]
        omega
      · dsimp only [requestOrder]
        omega

namespace SignedExample

/-! ## An order signed with a known key, and one without an amount -/

open Signing.Example (maker publicKey settlement)

def zeroOrderHash : Bytes32 := 0x7a0279bec105ff63564e77f79471ec3b1937561f2a0f36f3f014fb5edb003118

def zeroDigest : Bytes32 := 0x683bec06a2c79a3d6f7b071bf71db4c8ed7de65c4cf9ff9579108e850b2b9f12

/-- The signature of the order without an amount, with the recovery id 0. -/
def zeroSignature : Bytes :=
  Abi.words [0x445ad8f1f9078e0abdbb055e8afed617f0f59f051fdf5c693585dc2f2f753ed3,
    0x29a1ab2902c8e9c5f7567bfa26ae844c979e4e4df40f62737cb7c4503bfe2729] ++ [0]

/-- The Keccak hashes of the byte strings behind both digests. -/
def hashes : List (Bytes × Bytes32) :=
  (TypedData.signingBytes Signing.Example.domainSeparator zeroOrderHash, zeroDigest) ::
    (Abi.words [Signing.Example.orderTypeHash, maker, 0x21, 0x22, 0, 900, 5000, 1, 2000000000, 7,
      maker], zeroOrderHash) :: Signing.Example.hashes

/-- The first byte tells the type of the order from the other strings. -/
def keccak256 (bytes : Bytes) : Bytes32 :=
  if bytes.head? = some 0x53 then Signing.Example.orderTypeHash
  else (hashes.lookup bytes).getD 0

def encode (bytes : Bytes) : Text :=
  '0' :: 'x' ::
    bytes.flatMap fun byte => [(byte.toNat / 16).digitChar, (byte.toNat % 16).digitChar]

def decode (raw : Text) : Except String Bytes :=
  if isHex 130 (trimSpace raw) then
    .ok (LimitOrders.hexToBytes ((hexDigits (trimSpace raw)).map hexDigit))
  else .error "invalid hex string"

def common : Common where
  isHexAddress := isHex 40
  hexToAddress s := Fin.ofNat (2 ^ 160) (hexadecimal (hexDigits s))
  hashHex orderHash := encode (Abi.word orderHash)
  encode := encode

def goEthereum : GoEthereum :=
  { Signing.Example.goEthereum with
    keccak256Hash := keccak256
    toAddress := fun s =>
      if isAddress s.toList then some (common.hexToAddress (normalizeAddress s.toList)) else none
    decode := fun raw => decode raw.toList
    sigToPub := fun digest signature =>
      if (digest = Signing.Example.digest ∧ signature = Signing.Example.signature) ∨
          (digest = zeroDigest ∧ signature = zeroSignature) then .ok publicKey
      else .error "recovery failed" }

def db : OrderRepository where
  getByOrderHash _ _ _ := .error .recordNotFound
  create order := .ok order.columns

/-- The chain at a usual time. -/
def env : CreateEnvironment where
  db := some db
  chainClient := some ⟨.ok 1700000000, fun _ => .ok ⟨5, 2⟩⟩
  executorEstimatedGasUsed := 400000

/-- The request for the signed order, with some white space and a leading zero. -/
def request : CreateOrderRequest where
  chainId := 31337
  settlementAddress := '0' :: 'x' :: Nat.toDigits 16 Signing.Example.settlementSelf
  orderHash := encode (Abi.word Signing.Example.orderHash)
  maker := '0' :: 'x' :: (Nat.toDigits 16 maker).map Char.toUpper
  inputToken := '0' :: 'x' :: (List.replicate 38 '0' ++ ['2', '1'])
  outputToken := '0' :: 'x' :: (List.replicate 38 '0' ++ ['2', '2'])
  amountIn := [' ', '0', '1', '0', '0', '0']
  minAmountOut := ['9', '0', '0']
  maxExecutorRewardBps := ['5', '0', '0', '0']
  triggerPriceX18 := ['1']
  expiry := Nat.toDigits 10 2000000000
  nonce := ['7']
  recipient := '0' :: 'x' :: Nat.toDigits 16 maker
  signature := encode Signing.Example.signature
  source := []

/-- The request for nothing, in two digits. -/
def zeroRequest : CreateOrderRequest :=
  { request with
    orderHash := encode (Abi.word zeroOrderHash)
    amountIn := ['0', '0']
    signature := encode zeroSignature }

/-- The record that is made of a request, with its normalized signature. -/
def created (r : CreateOrderRequest) (signature : Bytes) : Created :=
  let order := newOrder r (encode (signature.set 64 (sigV signature + 27)))
    ⟨formatInt 400000, formatInt 2, formatInt 5, []⟩
  ⟨order, order.columns⟩

theorem common_specified : CommonSpecified common goEthereum where
  isHexAddress _ h := h
  hexToAddress s h := by
    obtain ⟨-, hlength, hdigits⟩ := eq_of_isHex h
    have hlt : hexadecimal (hexDigits s) < 2 ^ 160 := by
      have hlt := hexadecimal_lt hdigits
      rw [hlength] at hlt
      exact hlt.trans_eq (by norm_num)
    dsimp only [common]
    rw [Fin.val_ofNat, Nat.mod_eq_of_lt hlt]
  toAddress s h := by
    dsimp only [goEthereum]
    rw [String.toList_ofList, if_pos h]

theorem stores_columns (db' : OrderRepository) (h : env.db = some db') : StoresColumns db' := by
  cases h
  intro order row hcreate
  cases hcreate
  rfl

theorem keys_nonzero (key : Bytes) : goEthereum.pubkeyToAddress key ≠ Address.zero :=
  Signing.Example.settlement_specified.nonzero key

theorem decode_ofList (s : Text) : goEthereum.decode (.ofList s) = decode s := by
  dsimp only [goEthereum]
  rw [String.toList_ofList]

theorem toAddress_ofList (s : Text) : goEthereum.toAddress (.ofList s) =
    if isAddress s then some (common.hexToAddress (normalizeAddress s)) else none := by
  dsimp only [goEthereum]
  rw [String.toList_ofList]

theorem orderTypeHash_eq : orderTypeHash goEthereum = Signing.Example.orderTypeHash := by
  simp only [orderTypeHash, goEthereum, keccak256, Abi.ascii, String.toList_append,
    List.map_append, List.head?_append]
  rw [if_pos (by decide +kernel)]

/-- The hash of the type is known, and texts stay texts. -/
theorem createOrder_request : createOrder goEthereum common env request =
    .ok (created request Signing.Example.signature) := by
  simp only [createOrder, verifyRequest, normalizeHexSignature, computeOrderHash, orderArguments,
    OrderSignature.verifyOrderSignature, computeOrderDigest, orderTypeHash_eq, decode_ofList,
    toAddress_ofList]
  decide +kernel

theorem createOrder_zeroRequest : createOrder goEthereum common env zeroRequest =
    .ok (created zeroRequest zeroSignature) := by
  simp only [createOrder, verifyRequest, normalizeHexSignature, computeOrderHash, orderArguments,
    OrderSignature.verifyOrderSignature, computeOrderDigest, orderTypeHash_eq, decode_ofList,
    toAddress_ofList]
  decide +kernel

/-- The signed order is good for execution: its request is usable. -/
theorem createOrder_executable_iff_signed :
    Executable settlement goEthereum common (created request Signing.Example.signature).row := by
  refine (createOrder_executable_iff common_specified keys_nonzero stores_columns
    createOrder_request).mpr ?_
  exact
    { amountIn := by decide +kernel
      minAmountOut := by decide +kernel
      trigger := by decide +kernel
      expiry := by decide +kernel
      nonce := by decide +kernel
      recipient := by decide +kernel
      unwrapped := by decide +kernel }

/-- The order for nothing is stored, and cannot be rebuilt. -/
theorem not_executable_zeroRequest :
    createOrder goEthereum common env zeroRequest = .ok (created zeroRequest zeroSignature) ∧
      ¬Executable settlement goEthereum common (created zeroRequest zeroSignature).row := by
  refine ⟨createOrder_zeroRequest, ?_⟩
  rintro ⟨order, hbuild, -⟩
  have hfails : (created zeroRequest zeroSignature).row.buildSettlementOrder common =
      .error "invalid amount_in" := by decide +kernel
  rw [hfails] at hbuild
  cases hbuild

end SignedExample

end Backend
