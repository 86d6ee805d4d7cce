-- SUMMARY: The frontend's limitOrders.ts: typed data and hashes of limit orders and of cancellations.
import FluxSwap.Contracts.TypedData
import Mathlib.Data.Nat.Digits.Lemmas

/-!
# Limit orders in the frontend

A `bigint` that a user signs is not negative, so numbers are natural. A hexadecimal string
is the list of its digits. What is used of viem are the fields of a record.
-/

namespace LimitOrders

open TypedData (Value Member)

structure SignedLimitOrder where
  maker                : Address
  inputToken           : Address
  outputToken          : Address
  amountIn             : Nat
  minAmountOut         : Nat
  maxExecutorRewardBps : Nat
  triggerPriceX18      : Nat
  expiry               : Nat
  nonce                : Nat
  recipient            : Address

/-- What is used of viem. The argument of its `keccak256` are the bytes of a hexadecimal
    string; `hashTypedData` is what a wallet signs for typed data. -/
structure Viem where
  keccak256           : Bytes → Bytes32
  encodeAbiParameters : List Member → List Value → Except String Bytes
  hashTypedData       : TypedData → Except String Bytes32

/-! ## Hexadecimal strings -/

/-- `toString(16)` of a number. -/
def toString16 (n : Nat) : List Nat := if n = 0 then [0] else (Nat.digits 16 n).reverse

/-- `padStart` with the digit zero. -/
def padStart (width : Nat) (digits : List Nat) : List Nat :=
  List.replicate (width - digits.length) 0 ++ digits

/-- The bytes of a hexadecimal string with an even number of digits. -/
def hexToBytes : List Nat → Bytes
  | high :: low :: rest => (16 * high + low).toUInt8 :: hexToBytes rest
  | _ => []

/-! ## Typed data -/

def LIMIT_ORDER_EIP712_NAME : String := "Flux Signed Order Settlement"

def LIMIT_ORDER_EIP712_VERSION : String := "1"

def SIGNED_LIMIT_ORDER_TYPE : String :=
  "SignedOrder(address maker,address inputToken,address outputToken,uint256 amountIn," ++
    "uint256 minAmountOut,uint256 maxExecutorRewardBps,uint256 triggerPriceX18," ++
    "uint256 expiry,uint256 nonce,address recipient)"

/-- The only struct type of `signedLimitOrderTypes`. -/
def signedOrderType : TypedData.StructType where
  name := "SignedOrder"
  members := [⟨"maker", "address"⟩, ⟨"inputToken", "address"⟩, ⟨"outputToken", "address"⟩,
    ⟨"amountIn", "uint256"⟩, ⟨"minAmountOut", "uint256"⟩, ⟨"maxExecutorRewardBps", "uint256"⟩,
    ⟨"triggerPriceX18", "uint256"⟩, ⟨"expiry", "uint256"⟩, ⟨"nonce", "uint256"⟩,
    ⟨"recipient", "address"⟩]

/-- The only struct type of `invalidateNoncesTypes`. -/
def invalidateNoncesType : TypedData.StructType where
  name := "InvalidateNonces"
  members := [⟨"maker", "address"⟩, ⟨"noncesHash", "bytes32"⟩, ⟨"deadline", "uint256"⟩]

/-- An order as an object. -/
def SignedLimitOrder.toObject (order : SignedLimitOrder) : TypedData.Object :=
  [("maker", .address order.maker), ("inputToken", .address order.inputToken),
    ("outputToken", .address order.outputToken), ("amountIn", .uint256 order.amountIn),
    ("minAmountOut", .uint256 order.minAmountOut),
    ("maxExecutorRewardBps", .uint256 order.maxExecutorRewardBps),
    ("triggerPriceX18", .uint256 order.triggerPriceX18), ("expiry", .uint256 order.expiry),
    ("nonce", .uint256 order.nonce), ("recipient", .address order.recipient)]

def buildSignedLimitOrderDomain (chainId : Nat) (settlementAddress : Address) :
    TypedData.Domain where
  name := LIMIT_ORDER_EIP712_NAME
  version := LIMIT_ORDER_EIP712_VERSION
  chainId := chainId
  verifyingContract := settlementAddress

def buildSignedLimitOrderTypedData (chainId : Nat) (settlementAddress : Address)
    (order : SignedLimitOrder) : TypedData where
  domain := buildSignedLimitOrderDomain chainId settlementAddress
  primaryType := signedOrderType
  message := order.toObject

section Functions

variable (v : Viem)

def hashInvalidateNonces (nonces : List Nat) : Bytes32 :=
  if nonces.length = 0 then v.keccak256 (hexToBytes [])
  else
    let packed := (nonces.map fun nonce => padStart 64 (toString16 nonce)).flatten
    v.keccak256 (hexToBytes packed)

def buildInvalidateNoncesTypedData (chainId : Nat) (settlementAddress maker : Address)
    (nonces : List Nat) (deadline : Nat) : TypedData where
  domain := buildSignedLimitOrderDomain chainId settlementAddress
  primaryType := invalidateNoncesType
  message := [("maker", .address maker), ("noncesHash", .bytes32 (hashInvalidateNonces v nonces)),
    ("deadline", .uint256 deadline)]

def SIGNED_LIMIT_ORDER_TYPE_HASH : Bytes32 := v.keccak256 (Abi.ascii SIGNED_LIMIT_ORDER_TYPE)

def orderParameters : List Member :=
  [⟨"typeHash", "bytes32"⟩, ⟨"maker", "address"⟩, ⟨"inputToken", "address"⟩,
    ⟨"outputToken", "address"⟩, ⟨"amountIn", "uint256"⟩, ⟨"minAmountOut", "uint256"⟩,
    ⟨"maxExecutorRewardBps", "uint256"⟩, ⟨"triggerPriceX18", "uint256"⟩, ⟨"expiry", "uint256"⟩,
    ⟨"nonce", "uint256"⟩, ⟨"recipient", "address"⟩]

def orderValues (order : SignedLimitOrder) : List Value :=
  [.bytes32 (SIGNED_LIMIT_ORDER_TYPE_HASH v), .address order.maker, .address order.inputToken,
    .address order.outputToken, .uint256 order.amountIn, .uint256 order.minAmountOut,
    .uint256 order.maxExecutorRewardBps, .uint256 order.triggerPriceX18, .uint256 order.expiry,
    .uint256 order.nonce, .address order.recipient]

def hashSignedLimitOrder (_chainId : Nat) (_settlementAddress : Address)
    (order : SignedLimitOrder) : Except String Bytes32 :=
  (v.encodeAbiParameters orderParameters (orderValues v order)).map v.keccak256

end Functions

/-! ## Packed nonces -/

/-- A padded list of digits, from its end. -/
theorem getElem?_padStart_reverse {width i : Nat} {ds : List Nat} (hds : ds.length ≤ width)
    (hi : i < width) : (padStart width ds.reverse)[i]? = some (ds.getD (width - 1 - i) 0) := by
  unfold padStart
  rw [List.length_reverse]
  by_cases hpad : i < width - ds.length
  · rw [List.getElem?_append_left (by simpa using hpad), List.getElem?_replicate, if_pos hpad,
      List.getD_eq_getElem?_getD, List.getElem?_eq_none (by omega)]
    rfl
  · rw [List.getElem?_append_right (by simpa using hpad), List.length_replicate,
      List.getElem?_reverse (by omega), List.getD_eq_getElem?_getD]
    have hback : ds.length - 1 - (i - (width - ds.length)) = width - 1 - i := by omega
    rw [hback, List.getElem?_eq_getElem (by omega)]
    rfl

/-- A padded number has, at every place, the digit of the number at this place. -/
theorem getElem?_padStart {width n i : Nat} (hn : n < 16 ^ width) (hi : i < width) :
    (padStart width (toString16 n))[i]? = some (n / 16 ^ (width - 1 - i) % 16) := by
  unfold toString16
  split
  · subst n
    have hzero : (padStart width [0].reverse)[i]? = some ([0].getD (width - 1 - i) 0) :=
      getElem?_padStart_reverse (by simp; omega) hi
    have hdigit : ∀ k, ([0] : List Nat).getD k 0 = 0 := by
      intro k
      cases k <;> rfl
    rw [hdigit, List.reverse_singleton] at hzero
    rw [hzero, Nat.zero_div, Nat.zero_mod]
  · rw [getElem?_padStart_reverse ((Nat.digits_length_le_iff (by decide) n).mpr hn) hi,
      Nat.getD_digits _ _ (by decide)]

theorem length_padStart_toString16 {width n : Nat} (hwidth : 0 < width) (hn : n < 16 ^ width) :
    (padStart width (toString16 n)).length = width := by
  unfold padStart toString16
  split
  · simp; omega
  · have := (Nat.digits_length_le_iff (b := 16) (by decide) n).mpr hn
    simp; omega

theorem hexToBytes_append {k : Nat} : ∀ {high low : List Nat}, high.length = 2 * k →
    hexToBytes (high ++ low) = hexToBytes high ++ hexToBytes low := by
  induction k with
  | zero =>
    intro high low h
    cases high with
    | nil => rfl
    | cons => simp at h
  | succ k ih =>
    intro high low h
    match high, h with
    | a :: b :: rest, h =>
      have hrest : rest.length = 2 * k := by simp at h; omega
      simp only [List.cons_append, hexToBytes, ih hrest]

/-- Byte by byte. -/
theorem hexToBytes_eq_map {k : Nat} : ∀ {ds : List Nat}, ds.length = 2 * k →
    hexToBytes ds = (List.range k).map fun i =>
      (16 * ds.getD (2 * i) 0 + ds.getD (2 * i + 1) 0).toUInt8 := by
  induction k with
  | zero =>
    intro ds h
    cases ds with
    | nil => rfl
    | cons => simp at h
  | succ k ih =>
    intro ds h
    match ds, h with
    | a :: b :: rest, h =>
      have hrest : rest.length = 2 * k := by simp at h; omega
      rw [List.range_succ_eq_map]
      simp only [hexToBytes, ih hrest, List.map_cons, List.map_map]
      rfl

/-- The 64 digits of a nonce are its word. -/
theorem hexToBytes_padStart {n : Nat} (hn : n < 2 ^ 256) :
    hexToBytes (padStart 64 (toString16 n)) = Abi.word n := by
  have hwidth : n < 16 ^ 64 := by simpa using hn
  rw [hexToBytes_eq_map (k := 32) (length_padStart_toString16 (by decide) hwidth)]
  unfold Abi.word
  apply List.map_congr_left
  intro i hi
  have hi := List.mem_range.mp hi
  rw [List.getD_eq_getElem?_getD, List.getD_eq_getElem?_getD, getElem?_padStart hwidth (by omega),
    getElem?_padStart hwidth (by omega), Option.getD_some, Option.getD_some]
  have hlow : 64 - 1 - (2 * i + 1) = 2 * (31 - i) := by omega
  have hhigh : 64 - 1 - 2 * i = 2 * (31 - i) + 1 := by omega
  have hpow : 16 ^ (2 * (31 - i)) = 256 ^ (31 - i) := by
    rw [pow_mul]
    rfl
  rw [hlow, hhigh, pow_succ, hpow, ← Nat.div_div_eq_div_mul]
  generalize n / 256 ^ (31 - i) = q
  have hq : 16 * (q / 16 % 16) + q % 16 = q % 256 := by omega
  rw [hq]
  apply UInt8.toNat_inj.mp
  simp [Nat.toUInt8]

theorem hexToBytes_flatten {nonces : List Nat} (hnonces : ∀ n ∈ nonces, n < 2 ^ 256) :
    hexToBytes (nonces.map fun nonce => padStart 64 (toString16 nonce)).flatten =
      Abi.words nonces := by
  induction nonces with
  | nil => rfl
  | cons nonce nonces ih =>
    have hnonce : nonce < 2 ^ 256 := hnonces nonce List.mem_cons_self
    have hwidth : nonce < 16 ^ 64 := by simpa using hnonce
    rw [List.map_cons, List.flatten_cons, hexToBytes_append (k := 32)
      (length_padStart_toString16 (by decide) hwidth), hexToBytes_padStart hnonce,
      ih fun n hn => hnonces n (List.mem_cons_of_mem _ hn), Abi.words_cons]

/-- Packed nonces are hashed as their words. -/
theorem hashInvalidateNonces_eq (v : Viem) {nonces : List Nat}
    (hnonces : ∀ n ∈ nonces, n < 2 ^ 256) :
    hashInvalidateNonces v nonces = v.keccak256 (Abi.words nonces) := by
  unfold hashInvalidateNonces
  split
  · rename_i hempty
    rw [List.length_eq_zero_iff.mp hempty]
    rfl
  · exact congrArg v.keccak256 (hexToBytes_flatten hnonces)

/-! ## Encoded messages -/

theorem signedOrderType_encodeType : signedOrderType.encodeType = SIGNED_LIMIT_ORDER_TYPE := by
  decide +kernel

theorem signedOrderType_encode (keccak256 : Bytes → Bytes32) (order : SignedLimitOrder) :
    signedOrderType.encode keccak256 order.toObject = some (Abi.words
      [keccak256 (Abi.ascii SIGNED_LIMIT_ORDER_TYPE), order.maker, order.inputToken,
        order.outputToken, order.amountIn, order.minAmountOut, order.maxExecutorRewardBps,
        order.triggerPriceX18, order.expiry, order.nonce, order.recipient]) := by
  rw [← signedOrderType_encodeType]
  rfl

theorem invalidateNoncesType_encodeType : invalidateNoncesType.encodeType =
    "InvalidateNonces(address maker,bytes32 noncesHash,uint256 deadline)" := by
  decide +kernel

theorem invalidateNoncesType_encode (v : Viem) (keccak256 : Bytes → Bytes32) (chainId : Nat)
    (settlementAddress maker : Address) (nonces : List Nat) (deadline : Nat) :
    invalidateNoncesType.encode keccak256 (buildInvalidateNoncesTypedData v chainId
      settlementAddress maker nonces deadline).message = some (Abi.words
      [keccak256 (Abi.ascii "InvalidateNonces(address maker,bytes32 noncesHash,uint256 deadline)"),
        maker, hashInvalidateNonces v nonces, deadline]) := by
  rw [← invalidateNoncesType_encodeType]
  rfl

end LimitOrders
