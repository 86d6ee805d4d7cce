-- SUMMARY: The backend's order_signature.go: hashes, digests, and the check of signatures.
import FluxSwap.Backend.Executor

/-!
# Signatures in the backend

Strings are turned into addresses and bytes by go-ethereum, which also packs, hashes and
recovers. Its functions are the fields of a record.
-/

namespace OrderSignature

open Backend (SettlementOrder)

/-! ## go-ethereum -/

/-- An argument of `abi.Pack`, of the type that its parameter has. -/
inductive AbiValue
  | bytes32 (value : Bytes32)
  | address (value : Address)
  | uint256 (value : Int)

/-- What is used of go-ethereum. `toAddress` is `IsHexAddress` and then `HexToAddress`, of a
    trimmed string; `decode` is `hexutil.Decode` of a trimmed string. -/
structure GoEthereum where
  keccak256Hash           : Bytes → Bytes32
  pack                    : List AbiValue → Except String Bytes
  toAddress               : String → Option Address
  decode                  : String → Except String Bytes
  validateSignatureValues : UInt8 → Nat → Nat → Bool → Bool
  sigToPub                : Bytes32 → Bytes → Except String Bytes
  pubkeyToAddress         : Bytes → Address

section Functions

variable (g : GoEthereum)

/-! ## Hashes -/

def orderTypeHash : Bytes32 := g.keccak256Hash (Abi.ascii
  ("SignedOrder(address maker,address inputToken,address outputToken,uint256 amountIn," ++
    "uint256 minAmountOut,uint256 maxExecutorRewardBps,uint256 triggerPriceX18," ++
    "uint256 expiry,uint256 nonce,address recipient)"))

def invalidateNoncesTypeHash : Bytes32 := g.keccak256Hash (Abi.ascii
  "InvalidateNonces(address maker,bytes32 noncesHash,uint256 deadline)")

def domainTypeHash : Bytes32 := g.keccak256Hash (Abi.ascii
  "EIP712Domain(string name,string version,uint256 chainId,address verifyingContract)")

def nameHash : Bytes32 := g.keccak256Hash (Abi.ascii "Flux Signed Order Settlement")

def versionHash : Bytes32 := g.keccak256Hash (Abi.ascii "1")

/-- `fmt.Errorf` around an error. -/
def wrapped {α : Type} (what : String) (r : Except String α) : Except String α :=
  r.mapError fun error => what ++ ": " ++ error

/-- The arguments that `ComputeOrderHash` packs. -/
def orderArguments (order : SettlementOrder) : List AbiValue :=
  [.bytes32 (orderTypeHash g), .address order.maker, .address order.inputToken,
    .address order.outputToken, .uint256 order.amountIn, .uint256 order.minAmountOut,
    .uint256 order.maxExecutorRewardBps, .uint256 order.triggerPriceX18, .uint256 order.expiry,
    .uint256 order.nonce, .address order.recipient]

def computeOrderHash (order : SettlementOrder) : Except String Bytes32 := do
  let encoded ← wrapped "pack order payload" (g.pack (orderArguments g order))
  return g.keccak256Hash encoded

def domainArguments (chainID : Int) (settlement : Address) : List AbiValue :=
  [.bytes32 (domainTypeHash g), .bytes32 (nameHash g), .bytes32 (versionHash g),
    .uint256 chainID, .address settlement]

/-- The domain separator, which both digests compute in the same words. -/
def computeDomainSeparator (chainID : Int) (settlement : Address) : Except String Bytes32 := do
  let encodedDomain ← wrapped "pack domain separator"
    (g.pack (domainArguments g chainID settlement))
  return g.keccak256Hash encodedDomain

/-- The hash of the two fixed bytes and two hashes. -/
def computeTypedDigest (domainSeparator structHash : Bytes32) : Bytes32 :=
  g.keccak256Hash ([0x19, 0x01] ++ (Abi.word domainSeparator ++ Abi.word structHash))

def computeOrderDigest (chainID : Int) (settlementAddress : String) (order : SettlementOrder) :
    Except String Bytes32 :=
  if chainID ≤ 0 then .error "chain id must be greater than 0"
  else
    match g.toAddress settlementAddress with
    | none => .error "settlement address must be a valid address"
    | some settlement => do
      let orderHash ← computeOrderHash g order
      let domainSeparator ← computeDomainSeparator g chainID settlement
      return computeTypedDigest g domainSeparator orderHash

/-- One round of the loop of `computePackedNonceHash`. -/
def packNonce (nonce : Int) : Except String Bytes :=
  if nonce < 0 then .error "nonce must be a non-negative integer"
  else if 2 ^ 256 ≤ nonce then .error "nonce exceeds uint256"
  else .ok (Abi.word nonce.toNat)

/-- The bytes that `computePackedNonceHash` hashes. -/
def packNonces (nonces : List Int) : Except String Bytes := do
  let packed ← nonces.mapM packNonce
  return packed.flatten

def computePackedNonceHash (nonces : List Int) : Except String Bytes32 :=
  (packNonces nonces).map g.keccak256Hash

def cancelArguments (maker : Address) (noncesHash : Bytes32) (deadline : Int) : List AbiValue :=
  [.bytes32 (invalidateNoncesTypeHash g), .address maker, .bytes32 noncesHash, .uint256 deadline]

def computeInvalidateNoncesDigest (chainID : Int) (settlementAddress : String) (maker : Address)
    (nonces : List Int) (deadline : Int) : Except String Bytes32 :=
  if chainID ≤ 0 then .error "chain id must be greater than 0"
  else
    match g.toAddress settlementAddress with
    | none => .error "settlement address must be a valid address"
    | some settlement =>
      if maker = Address.zero then .error "maker must not be zero address"
      else if nonces.length = 0 then .error "nonces must not be empty"
      else if deadline ≤ 0 then .error "deadline must be a positive integer"
      else do
        let noncesHash ← computePackedNonceHash g nonces
        let encodedCancel ← wrapped "pack invalidate nonces payload"
          (g.pack (cancelArguments g maker noncesHash deadline))
        let domainSeparator ← computeDomainSeparator g chainID settlement
        return computeTypedDigest g domainSeparator (g.keccak256Hash encodedCancel)

/-! ## Signatures -/

/-- The parts of a signature: `r`, `s` and the recovery id. -/
def sigR (signature : Bytes) : Nat := Abi.setBytes (signature.take 32)

def sigS (signature : Bytes) : Nat := Abi.setBytes ((signature.drop 32).take 32)

def sigV (signature : Bytes) : UInt8 := signature.getD 64 0

/-- The recovery id of a signature, from 0 or 1, or from 27 or 28. -/
def recoveryId (v : UInt8) : Except String UInt8 :=
  if v = 27 ∨ v = 28 then .ok (v - 27)
  else if v = 0 ∨ v = 1 then .ok v
  else .error "signature recovery id must be 0, 1, 27 or 28"

/-- `NormalizeSignatureBytes`. -/
def normalizeSignatureBytes (signature : Bytes) : Except String Bytes :=
  if signature.length ≠ 65 then .error "signature must be 65 bytes"
  else
    match recoveryId (sigV signature) with
    | .error error => .error error
    | .ok v =>
      let normalized := signature.set 64 v
      if g.validateSignatureValues v (sigR normalized) (sigS normalized) true then
        .ok (normalized.set 64 (v + 27))
      else .error "signature values are invalid"

/-- The end of both verifications: the signer of the digest is the maker. -/
def verifySigner (digest : Bytes32) (maker : Address) (mismatch : String) (signature : Bytes) :
    Except String Unit := do
  let normalizedSignature ← normalizeSignatureBytes g signature
  let recoverySignature := normalizedSignature.set 64 (sigV normalizedSignature - 27)
  let recoveredKey ← wrapped "recover signer" (g.sigToPub digest recoverySignature)
  if g.pubkeyToAddress recoveredKey ≠ maker then throw mismatch

def verifyOrderSignature (chainID : Int) (settlementAddress : String) (order : SettlementOrder)
    (signatureHex : String) : Except String Unit := do
  let digest ← computeOrderDigest g chainID settlementAddress order
  let signatureBytes ← wrapped "decode signature" (g.decode signatureHex)
  verifySigner g digest order.maker "signature maker mismatch" signatureBytes

def verifyInvalidateNoncesSignature (chainID : Int) (settlementAddress : String)
    (maker : Address) (nonces : List Int) (deadline : Int) (signature : Bytes) :
    Except String Unit := do
  let digest ← computeInvalidateNoncesDigest g chainID settlementAddress maker nonces deadline
  verifySigner g digest maker "invalidate nonces signature maker mismatch" signature

end Functions

/-! ## Packed nonces -/

theorem packNonce_natCast {nonce : Nat} (h : nonce < 2 ^ 256) :
    packNonce nonce = .ok (Abi.word nonce) := by
  unfold packNonce
  rw [if_neg (by omega), if_neg (by omega), Int.toNat_natCast]

theorem packNonces_natCast {nonces : List Nat} (h : ∀ nonce ∈ nonces, nonce < 2 ^ 256) :
    packNonces (nonces.map Nat.cast) = .ok (Abi.words nonces) := by
  have hwords : (nonces.map Nat.cast).mapM packNonce = .ok (nonces.map Abi.word) := by
    induction nonces with
    | nil => rfl
    | cons nonce nonces ih =>
      rw [List.map_cons, List.mapM_cons, packNonce_natCast (h nonce List.mem_cons_self),
        ih fun n hn => h n (List.mem_cons_of_mem _ hn)]
      rfl
  unfold packNonces
  rw [hwords]
  rfl

/-! ## Normalized signatures -/

theorem sigR_set (signature : Bytes) (recoveryId : UInt8) :
    sigR (signature.set 64 recoveryId) = sigR signature := by
  unfold sigR
  rw [List.take_set_of_le (by decide)]

theorem sigS_set (signature : Bytes) (recoveryId : UInt8) :
    sigS (signature.set 64 recoveryId) = sigS signature := by
  unfold sigS
  rw [List.drop_set, if_neg (by decide), List.take_set_of_le (by decide)]

theorem sigV_set {signature : Bytes} (h : signature.length = 65) (recoveryId : UInt8) :
    sigV (signature.set 64 recoveryId) = recoveryId := by
  unfold sigV
  rw [List.getD_eq_getElem?_getD, List.getElem?_set_self (by rw [h]; decide)]
  rfl

/-- A normalized signature: 65 bytes, the recovery id as the chain wants it, and values that
    have been found valid. -/
structure Normalized (g : GoEthereum) (signature : Bytes) : Prop where
  length : signature.length = 65
  recoveryId : sigV signature = 27 ∨ sigV signature = 28
  valid : g.validateSignatureValues (sigV signature - 27) (sigR signature) (sigS signature) true =
    true

theorem recoveryId_ok {v v' : UInt8} (h : recoveryId v = .ok v') : v' = 0 ∨ v' = 1 := by
  unfold recoveryId at h
  split at h
  · rename_i hv
    cases h
    cases hv with
    | inl hv => exact .inl (by rw [hv]; rfl)
    | inr hv => exact .inr (by rw [hv]; rfl)
  · split at h
    · cases h
      exact ‹_›
    · cases h

theorem normalizeSignatureBytes_ok {g : GoEthereum} {signature normalized : Bytes}
    (h : normalizeSignatureBytes g signature = .ok normalized) : Normalized g normalized := by
  unfold normalizeSignatureBytes at h
  split at h
  · cases h
  · rename_i hlength
    have hlength := not_not.mp hlength
    split at h
    · cases h
    · rename_i v hrecovery
      simp only [sigR_set, sigS_set] at h
      split at h
      · rename_i hvalid
        cases h
        have hset : (signature.set 64 v).length = 65 := by rw [List.length_set, hlength]
        have hv := recoveryId_ok hrecovery
        refine ⟨by rw [List.length_set, hset], ?_, ?_⟩
        · rw [sigV_set hset]
          cases hv with
          | inl hv => exact .inl (by rw [hv]; rfl)
          | inr hv => exact .inr (by rw [hv]; rfl)
        · rw [sigV_set hset, sigR_set, sigR_set, sigS_set, sigS_set, UInt8.add_sub_cancel]
          exact hvalid
      · cases h

/-- What an accepted signature consists of. -/
theorem verifySigner_ok {g : GoEthereum} {digest : Bytes32} {maker : Address} {mismatch : String}
    {signature : Bytes} (h : verifySigner g digest maker mismatch signature = .ok ()) :
    ∃ normalized key, normalizeSignatureBytes g signature = .ok normalized ∧
      g.sigToPub digest (normalized.set 64 (sigV normalized - 27)) = .ok key ∧
      g.pubkeyToAddress key = maker := by
  unfold verifySigner at h
  cases hnormalize : normalizeSignatureBytes g signature with
  | error error =>
    rw [hnormalize] at h
    cases h
  | ok normalized =>
    rw [hnormalize] at h
    cases hkey : g.sigToPub digest (normalized.set 64 (sigV normalized - 27)) with
    | error error =>
      simp only [bind, Except.bind, hkey] at h
      cases h
    | ok key =>
      simp only [bind, Except.bind, hkey, wrapped, Except.mapError] at h
      refine ⟨normalized, key, rfl, hkey, ?_⟩
      by_contra hmismatch
      rw [if_pos hmismatch] at h
      cases h

end OrderSignature
