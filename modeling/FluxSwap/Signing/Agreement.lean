-- SUMMARY: Backend, frontend and settlement hash the same bytes for orders and cancellations; the bytes determine what is signed; a signature that the backend accepts is accepted by the settlement.
import FluxSwap.Settlement.Encoding
import FluxSwap.Settlement.Nonces
import FluxSwap.Signing.LimitOrders
import FluxSwap.Signing.OrderSignature

/-!
# Three encoders

The settlement is the reference. The libraries that the backend and the frontend call, and
the recovery of signers on chain, are assumed to follow their specifications; the hash is any
function.
-/

open FluxSignedOrderSettlement OrderSignature LimitOrders
open Backend (SettlementOrder)

namespace Signing

variable {ω : Type}

/-! ## Specifications -/

/-- The order of the curve. -/
def secp256k1N : Nat := 0xFFFFFFFFFFFFFFFFFFFFFFFFFFFFFFFEBAAEDCE6AF48A03BBFD25E8CD0364141

/-- The argument fits into one word. -/
def Fits : AbiValue → Prop
  | .uint256 value => 0 ≤ value ∧ value < 2 ^ 256
  | .bytes32 _ | .address _ => True

instance : DecidablePred Fits := fun
  | .uint256 value => inferInstanceAs (Decidable (0 ≤ value ∧ value < 2 ^ 256))
  | .bytes32 _ | .address _ => .isTrue trivial

/-- The word of an argument that fits. -/
def toWord : AbiValue → Nat
  | .bytes32 value => value
  | .address value => value
  | .uint256 value => value.toNat

/-- go-ethereum: static arguments are packed as their words, and the values of a signature are
    valid if they are in range and `s` is in the lower half. -/
structure GoSpecified (g : GoEthereum) : Prop where
  pack : ∀ values, (∀ value ∈ values, Fits value) →
    g.pack values = .ok (Abi.words (values.map toWord))
  validate : ∀ v r s, g.validateSignatureValues v r s true = true ↔
    (v = 0 ∨ v = 1) ∧ (0 < r ∧ r < secp256k1N) ∧ 0 < s ∧ s ≤ secp256k1N / 2

/-- viem: static parameters are encoded as their words, and typed data is hashed as such. -/
structure ViemSpecified (v : Viem) : Prop where
  encodeAbiParameters : ∀ parameters values,
    (parameters.map TypedData.Member.type = values.map TypedData.Value.type) →
    (∀ value ∈ values, value.IsWord) → v.encodeAbiParameters parameters values =
      .ok (Abi.words (values.map (TypedData.Value.word v.keccak256)))
  hashTypedData : ∀ data digest, data.Fits → data.digest v.keccak256 = some digest →
    v.hashTypedData data = .ok digest

/-- The recovery of signers on chain: the library accepts a signature with `s` in the lower
    half whose signer is found, the precompile finds the signer that go-ethereum finds, and no
    key has the zero address. -/
structure RecoverySpecified (g : GoEthereum) (d : Deployment ω)
    (ecrecover : Bytes32 → UInt8 → Nat → Nat → Address) : Prop where
  recover : ∀ digest signature, signature.length = 65 → sigS signature ≤ secp256k1N / 2 →
    ecrecover digest (sigV signature) (sigR signature) (sigS signature) ≠ Address.zero →
    d.recover digest signature =
      .ok (ecrecover digest (sigV signature) (sigR signature) (sigS signature))
  precompile : ∀ digest signature key, signature.length = 65 →
    (sigV signature = 27 ∨ sigV signature = 28) →
    (0 < sigR signature ∧ sigR signature < secp256k1N) →
    (0 < sigS signature ∧ sigS signature < secp256k1N) →
    g.sigToPub digest (signature.set 64 (sigV signature - 27)) = .ok key →
    ecrecover digest (sigV signature) (sigR signature) (sigS signature) = g.pubkeyToAddress key
  nonzero : ∀ key, g.pubkeyToAddress key ≠ Address.zero

/-! ## One order in three programs -/

def backendOrder (order : SignedOrder) : SettlementOrder where
  maker := order.maker
  inputToken := order.inputToken
  outputToken := order.outputToken
  amountIn := order.amountIn
  minAmountOut := order.minAmountOut
  maxExecutorRewardBps := order.maxExecutorRewardBps
  triggerPriceX18 := order.triggerPriceX18
  expiry := order.expiry
  nonce := order.nonce
  recipient := order.recipient

def frontendOrder (order : SignedOrder) : SignedLimitOrder where
  maker := order.maker
  inputToken := order.inputToken
  outputToken := order.outputToken
  amountIn := order.amountIn
  minAmountOut := order.minAmountOut
  maxExecutorRewardBps := order.maxExecutorRewardBps
  triggerPriceX18 := order.triggerPriceX18
  expiry := order.expiry
  nonce := order.nonce
  recipient := order.recipient

/-- The nonces and the deadline of a cancellation fit into words. -/
structure CancelFits (nonces : List Nat) (deadline : Nat) : Prop where
  nonces : ∀ nonce ∈ nonces, nonce < 2 ^ 256
  deadline : deadline < 2 ^ 256

/-- The byte strings that the backend hashes are those of the settlement. -/
structure BackendBytesAgree (d : Deployment ω) (g : GoEthereum) : Prop where
  domain : g.pack (domainArguments g d.chainid d.self) = .ok (domainBytes d)
  order : ∀ order, g.pack (orderArguments g (backendOrder order)) = .ok (orderBytes d order)
  nonces : ∀ nonces, (∀ nonce ∈ nonces, nonce < 2 ^ 256) →
    packNonces (nonces.map Nat.cast) = .ok (Abi.words nonces)
  cancel : ∀ maker nonces deadline, CancelFits nonces deadline →
    g.pack (cancelArguments g maker (d.keccak256 (Abi.words nonces)) (deadline : Nat)) =
      .ok (invalidateNoncesBytes d maker nonces deadline)

/-- The byte strings that the frontend hashes are those of the settlement. -/
structure FrontendBytesAgree (d : Deployment ω) (v : Viem) : Prop where
  domain : TypedData.Domain.structType.encode v.keccak256
    (buildSignedLimitOrderDomain d.chainid d.self).toObject = some (domainBytes d)
  orderHash : ∀ order, v.encodeAbiParameters orderParameters (orderValues v (frontendOrder order)) =
    .ok (orderBytes d order)
  order : ∀ order, signedOrderType.encode v.keccak256 (frontendOrder order).toObject =
    some (orderBytes d order)
  nonces : ∀ nonces, (∀ nonce ∈ nonces, nonce < 2 ^ 256) →
    hexToBytes (nonces.map fun nonce => padStart 64 (toString16 nonce)).flatten = Abi.words nonces
  cancel : ∀ maker nonces deadline, CancelFits nonces deadline →
    invalidateNoncesType.encode v.keccak256
      (buildInvalidateNoncesTypedData v d.chainid d.self maker nonces deadline).message =
        some (invalidateNoncesBytes d maker nonces deadline)

section Backend

variable {d : Deployment ω} {g : GoEthereum} (hg : GoSpecified g)
  (hkeccak : g.keccak256Hash = d.keccak256)

include hg hkeccak

theorem backendBytesAgree (hchain : d.chainid < 2 ^ 256) : BackendBytesAgree d g where
  domain := by
    rw [hg.pack]
    · unfold domainArguments domainTypeHash nameHash versionHash
      rw [hkeccak]
      rfl
    · simp only [domainArguments, List.forall_mem_cons, List.not_mem_nil, false_implies,
        implies_true, and_true, Fits, true_and]
      exact ⟨Int.natCast_nonneg _, by exact_mod_cast hchain⟩
  order order := by
    rw [hg.pack]
    · unfold orderArguments orderTypeHash
      rw [hkeccak]
      rfl
    · have hwords := orderWords_lt d order
      simp only [orderArguments, backendOrder, List.forall_mem_cons, List.not_mem_nil,
        false_implies, implies_true, and_true, Fits, true_and] at hwords ⊢
      refine ⟨⟨Int.natCast_nonneg _, ?_⟩, ⟨Int.natCast_nonneg _, ?_⟩, ⟨Int.natCast_nonneg _, ?_⟩,
        ⟨Int.natCast_nonneg _, ?_⟩, ⟨Int.natCast_nonneg _, ?_⟩, Int.natCast_nonneg _, ?_⟩
      all_goals exact_mod_cast (by tauto)
  nonces nonces hnonces := packNonces_natCast hnonces
  cancel maker nonces deadline hfits := by
    rw [hg.pack]
    · unfold cancelArguments invalidateNoncesTypeHash
      rw [hkeccak]
      rfl
    · simp only [cancelArguments, List.forall_mem_cons, List.not_mem_nil, false_implies,
        implies_true, and_true, Fits, true_and]
      exact ⟨Int.natCast_nonneg _, by exact_mod_cast hfits.deadline⟩

end Backend

section Frontend

variable {d : Deployment ω} {v : Viem} (hv : ViemSpecified v) (hkeccak : v.keccak256 = d.keccak256)

include hv hkeccak

theorem frontendBytesAgree : FrontendBytesAgree d v where
  domain := by
    rw [TypedData.Domain.encode_toObject, hkeccak]
    rfl
  orderHash order := by
    rw [hv.encodeAbiParameters _ _ rfl]
    · unfold orderValues SIGNED_LIMIT_ORDER_TYPE_HASH
      rw [hkeccak]
      rfl
    · have hwords := orderWords_lt d order
      simp only [orderValues, frontendOrder, List.forall_mem_cons, List.not_mem_nil,
        false_implies, implies_true, and_true, TypedData.Value.IsWord, true_and] at hwords ⊢
      tauto
  order order := by
    rw [signedOrderType_encode, hkeccak]
    rfl
  nonces nonces hnonces := hexToBytes_flatten hnonces
  cancel maker nonces deadline hfits := by
    rw [invalidateNoncesType_encode, hashInvalidateNonces_eq v hfits.nonces, hkeccak]
    rfl

end Frontend

/-! ## Hashes -/

/-- The backend computes the hashes of the settlement. It refuses a cancellation without a
    maker, without nonces or without a deadline, as the settlement does. -/
structure BackendHashesAgree (d : Deployment ω) (g : GoEthereum) (settlementAddress : String) :
    Prop where
  orderHash : ∀ order, computeOrderHash g (backendOrder order) = .ok (hashOrder d order)
  orderDigest : ∀ order, computeOrderDigest g d.chainid settlementAddress (backendOrder order) =
    .ok (typedDigest d (hashOrder d order))
  cancelDigest : ∀ maker nonces deadline, CancelFits nonces deadline → maker ≠ Address.zero →
    nonces ≠ [] → 0 < deadline →
    computeInvalidateNoncesDigest g d.chainid settlementAddress maker (nonces.map Nat.cast)
      (deadline : Nat) = .ok (invalidateNoncesDigest d maker nonces deadline)
  refused : ∀ maker nonces deadline signature (s : State ω), 0 < d.timestamp s.world →
    maker = Address.zero ∨ nonces = [] ∨ deadline = 0 →
    (∃ error, computeInvalidateNoncesDigest g d.chainid settlementAddress maker
      (nonces.map Nat.cast) (deadline : Nat) = .error error) ∧
    ∃ r, invalidateNoncesBySig d maker nonces deadline signature s = .error r

/-- The frontend computes the hashes of the settlement. -/
structure FrontendHashesAgree (d : Deployment ω) (v : Viem) : Prop where
  orderHash : ∀ chainId settlementAddress order,
    hashSignedLimitOrder v chainId settlementAddress (frontendOrder order) =
      .ok (hashOrder d order)
  orderDigest : ∀ order, v.hashTypedData (buildSignedLimitOrderTypedData d.chainid d.self
    (frontendOrder order)) = .ok (typedDigest d (hashOrder d order))
  noncesHash : ∀ nonces, (∀ nonce ∈ nonces, nonce < 2 ^ 256) →
    hashInvalidateNonces v nonces = d.keccak256 (Abi.words nonces)
  cancelDigest : ∀ maker nonces deadline, CancelFits nonces deadline →
    v.hashTypedData (buildInvalidateNoncesTypedData v d.chainid d.self maker nonces deadline) =
      .ok (invalidateNoncesDigest d maker nonces deadline)

theorem computeTypedDigest_eq {d : Deployment ω} {g : GoEthereum}
    (hkeccak : g.keccak256Hash = d.keccak256) (structHash : Bytes32) :
    computeTypedDigest g (DOMAIN_SEPARATOR d) structHash = typedDigest d structHash := by
  unfold computeTypedDigest
  rw [hkeccak]
  rfl

theorem invalidateNoncesBySig_checks {d : Deployment ω} {maker : Address} {nonces : List Nat}
    {deadline : Nat} {signature : Bytes} {s s' : State ω}
    (h : invalidateNoncesBySig d maker nonces deadline signature s = .ok s') :
    maker ≠ Address.zero ∧ d.timestamp s.world ≤ deadline ∧ 0 < nonces.length := by
  simp only [invalidateNoncesBySig, Exec.bind_eq_ok, Exec.require_eq_ok] at h
  obtain ⟨-, hmaker, -, hclock, -, hlength, -⟩ := h
  exact ⟨hmaker, hclock, hlength⟩

theorem backendHashesAgree {d : Deployment ω} {g : GoEthereum} {settlementAddress : String}
    (hbytes : BackendBytesAgree d g) (hkeccak : g.keccak256Hash = d.keccak256)
    (hchain : 0 < d.chainid) (haddress : g.toAddress settlementAddress = some d.self) :
    BackendHashesAgree d g settlementAddress := by
  have hpositive : ¬(d.chainid : Int) ≤ 0 := by omega
  have hdomain : computeDomainSeparator g d.chainid d.self = .ok (DOMAIN_SEPARATOR d) := by
    unfold computeDomainSeparator
    rw [hbytes.domain, hkeccak]
    rfl
  have horder : ∀ order, computeOrderHash g (backendOrder order) = .ok (hashOrder d order) := by
    intro order
    unfold computeOrderHash
    rw [hbytes.order, hkeccak]
    rfl
  refine ⟨horder, fun order => ?_, fun maker nonces deadline hfits hmaker hnonces hdeadline => ?_,
    fun maker nonces deadline signature s htime hrefused => ⟨?_, ?_⟩⟩
  · unfold computeOrderDigest
    rw [if_neg hpositive, haddress]
    simp only [horder, hdomain, bind, Except.bind, computeTypedDigest_eq hkeccak]
    rfl
  -- what the contract refuses the backend refuses to hash, and the other way round
  · unfold computeInvalidateNoncesDigest computePackedNonceHash
    have hlength : ¬(nonces.map (Nat.cast : Nat → Int)).length = 0 := by simpa using hnonces
    rw [if_neg hpositive, haddress]
    simp only [if_neg hmaker, if_neg hlength, if_neg (show ¬(deadline : Int) ≤ 0 by omega),
      hbytes.nonces nonces hfits.nonces, hkeccak, Except.map, bind, Except.bind,
      hbytes.cancel maker nonces deadline hfits, wrapped, Except.mapError, hdomain,
      computeTypedDigest_eq hkeccak]
    rfl
  · unfold computeInvalidateNoncesDigest
    rw [if_neg hpositive, haddress]
    simp only
    split
    · exact ⟨_, rfl⟩
    · split
      · exact ⟨_, rfl⟩
      · rename_i hmaker hlength
        have hzero : deadline = 0 := by
          cases hrefused with
          | inl h => exact (hmaker h).elim
          | inr h => exact h.resolve_left fun hempty => hlength (by rw [hempty]; rfl)
        exact ⟨_, if_pos (by omega)⟩
  · cases hcancel : invalidateNoncesBySig d maker nonces deadline signature s with
    | error r => exact ⟨r, rfl⟩
    | ok s' =>
      obtain ⟨hmaker, hclock, hlength⟩ := invalidateNoncesBySig_checks hcancel
      cases hrefused with
      | inl h => exact (hmaker h).elim
      | inr h =>
        cases h with
        | inl hempty =>
          rw [hempty] at hlength
          exact (Nat.lt_irrefl 0 hlength).elim
        | inr hzero => omega

theorem orderData_fits {d : Deployment ω} (hchain : d.chainid < 2 ^ 256) (order : SignedOrder) :
    (buildSignedLimitOrderTypedData d.chainid d.self (frontendOrder order)).Fits := by
  unfold TypedData.Fits
  refine ⟨hchain, ?_⟩
  have hwords := orderWords_lt d order
  simp only [buildSignedLimitOrderTypedData, SignedLimitOrder.toObject, frontendOrder,
    List.forall_mem_cons, List.not_mem_nil, false_implies, implies_true, and_true,
    TypedData.Value.IsWord, true_and] at hwords ⊢
  tauto

theorem cancelData_fits {d : Deployment ω} (hchain : d.chainid < 2 ^ 256) (v : Viem)
    (maker : Address) {nonces : List Nat} {deadline : Nat} (hfits : CancelFits nonces deadline) :
    (buildInvalidateNoncesTypedData v d.chainid d.self maker nonces deadline).Fits := by
  unfold TypedData.Fits
  refine ⟨hchain, ?_⟩
  simp only [buildInvalidateNoncesTypedData, List.forall_mem_cons, List.not_mem_nil, false_implies,
    implies_true, and_true, TypedData.Value.IsWord, true_and]
  exact hfits.deadline

theorem frontendHashesAgree {d : Deployment ω} {v : Viem} (hv : ViemSpecified v)
    (hbytes : FrontendBytesAgree d v) (hkeccak : v.keccak256 = d.keccak256)
    (hchain : d.chainid < 2 ^ 256) : FrontendHashesAgree d v where
  orderHash chainId settlementAddress order := by
    unfold hashSignedLimitOrder
    rw [hbytes.orderHash, hkeccak]
    rfl
  orderDigest order := by
    have hdigest : (buildSignedLimitOrderTypedData d.chainid d.self (frontendOrder order)).digest
        v.keccak256 = _ := TypedData.digest_eq hbytes.domain (hbytes.order order)
    rw [hv.hashTypedData _ _ (orderData_fits hchain order) hdigest, hkeccak]
    rfl
  noncesHash nonces hnonces := by
    rw [hashInvalidateNonces_eq v hnonces, hkeccak]
  cancelDigest maker nonces deadline hfits := by
    have hdigest : (buildInvalidateNoncesTypedData v d.chainid d.self maker nonces
        deadline).digest v.keccak256 = _ :=
      TypedData.digest_eq hbytes.domain (hbytes.cancel maker nonces deadline hfits)
    rw [hv.hashTypedData _ _ (cancelData_fits hchain v maker hfits) hdigest, hkeccak]
    rfl

/-! ## Injectivity -/

/-- The bytes behind a digest determine what is signed, and so does the digest where the hash
    tells the aligned byte strings apart. Orders and cancellations have nothing in common. -/
structure DigestsInjective (d : Deployment ω) : Prop where
  orderBytes : ∀ d' : Deployment ω, d'.chainid < 2 ^ 256 → ∀ order order',
    domainBytes d = domainBytes d' → orderBytes d order = orderBytes d' order' →
    d.chainid = d'.chainid ∧ d.self = d'.self ∧ order = order'
  order : ∀ d' : Deployment ω, d'.keccak256 = d.keccak256 → d'.chainid < 2 ^ 256 →
    ∀ order order',
    SeparatesDigests d d' (FluxSignedOrderSettlement.orderBytes d order)
      (FluxSignedOrderSettlement.orderBytes d' order') →
    typedDigest d (hashOrder d order) = typedDigest d' (hashOrder d' order') →
    d.chainid = d'.chainid ∧ d.self = d'.self ∧ order = order'
  cancelBytes : ∀ d' : Deployment ω, d'.chainid < 2 ^ 256 → ∀ maker nonces deadline maker' nonces'
    deadline', CancelFits nonces deadline → CancelFits nonces' deadline' →
    domainBytes d = domainBytes d' →
    invalidateNoncesBytes d maker nonces deadline =
      invalidateNoncesBytes d' maker' nonces' deadline' →
    Abi.words nonces = Abi.words nonces' →
    d.chainid = d'.chainid ∧ d.self = d'.self ∧ maker = maker' ∧ nonces = nonces' ∧
      deadline = deadline'
  cancel : ∀ d' : Deployment ω, d'.keccak256 = d.keccak256 → d'.chainid < 2 ^ 256 →
    ∀ maker nonces deadline maker' nonces' deadline',
    CancelFits nonces deadline → CancelFits nonces' deadline' →
    SeparatesDigests d d' (invalidateNoncesBytes d maker nonces deadline)
      (invalidateNoncesBytes d' maker' nonces' deadline') →
    Separates d.keccak256 (Abi.words nonces) (Abi.words nonces') →
    invalidateNoncesDigest d maker nonces deadline =
      invalidateNoncesDigest d' maker' nonces' deadline' →
    d.chainid = d'.chainid ∧ d.self = d'.self ∧ maker = maker' ∧ nonces = nonces' ∧
      deadline = deadline'
  apartBytes : ∀ (d' : Deployment ω) order maker nonces deadline,
    FluxSignedOrderSettlement.orderBytes d order ≠ invalidateNoncesBytes d' maker nonces deadline
  apart : ∀ d' : Deployment ω, d'.keccak256 = d.keccak256 → ∀ order maker nonces deadline,
    SeparatesDigests d d' (FluxSignedOrderSettlement.orderBytes d order)
      (invalidateNoncesBytes d' maker nonces deadline) →
    typedDigest d (hashOrder d order) ≠ invalidateNoncesDigest d' maker nonces deadline

theorem digestsInjective {d : Deployment ω} (hchain : d.chainid < 2 ^ 256) :
    DigestsInjective d where
  orderBytes d' hchain' order order' hdomain horder := by
    obtain ⟨hchainid, hself⟩ := domainBytes_injective hchain hchain' hdomain
    exact ⟨hchainid, hself, orderBytes_injective horder⟩
  order d' hkeccak hchain' order order' := orderDigest_injective hkeccak hchain hchain'
  cancelBytes d' hchain' maker nonces deadline maker' nonces' deadline' hfits hfits' hdomain hcancel
      hpacked := by
    obtain ⟨hchainid, hself⟩ := domainBytes_injective hchain hchain' hdomain
    obtain ⟨hmaker, -, hdeadline⟩ :=
      invalidateNoncesBytes_injective hfits.deadline hfits'.deadline hcancel
    exact ⟨hchainid, hself, hmaker, Abi.words_injective hfits.nonces hfits'.nonces hpacked,
      hdeadline⟩
  cancel d' hkeccak hchain' maker nonces deadline maker' nonces' deadline' hfits hfits' :=
    cancelDigest_injective hkeccak hchain hchain' hfits.nonces hfits'.nonces hfits.deadline
      hfits'.deadline
  apartBytes d' := orderBytes_ne_invalidateNoncesBytes
  apart d' hkeccak order maker nonces deadline := orderDigest_ne_cancelDigest hkeccak

/-! ## Signatures -/

/-- On chain, a normalized signature recovers to the signer that the backend finds. -/
theorem RecoverySpecified.recover_normalized {g : GoEthereum} {d : Deployment ω}
    {ecrecover : Bytes32 → UInt8 → Nat → Nat → Address} (hd : RecoverySpecified g d ecrecover)
    (hg : GoSpecified g) {digest : Bytes32} {normalized key : Bytes}
    (hnormalized : Normalized g normalized)
    (hkey : g.sigToPub digest (normalized.set 64 (sigV normalized - 27)) = .ok key) :
    d.recover digest normalized = .ok (g.pubkeyToAddress key) := by
  obtain ⟨-, hr, hpositive, hlow⟩ := (hg.validate _ _ _).mp hnormalized.valid
  have hrange : sigS normalized < secp256k1N := Nat.lt_of_le_of_lt hlow (by decide)
  have hsigner := hd.precompile digest normalized key hnormalized.length hnormalized.recoveryId hr
    ⟨hpositive, hrange⟩ hkey
  rw [hd.recover digest normalized hnormalized.length hlow, hsigner]
  rw [hsigner]
  exact hd.nonzero key

/-- A signature that the backend accepts is, normalized, accepted by the settlement. -/
def AcceptsVerified (d : Deployment ω) (g : GoEthereum) (settlementAddress : String) : Prop :=
  ∀ order signatureHex signature, g.decode signatureHex = .ok signature →
    OrderSignature.verifyOrderSignature g d.chainid settlementAddress (backendOrder order)
      signatureHex = .ok () →
    ∃ normalized, normalizeSignatureBytes g signature = .ok normalized ∧
      FluxSignedOrderSettlement.verifyOrderSignature d (hashOrder d order) order.maker normalized =
        .ok ()

theorem acceptsVerified {d : Deployment ω} {g : GoEthereum} {settlementAddress : String}
    {ecrecover : Bytes32 → UInt8 → Nat → Nat → Address} (hg : GoSpecified g)
    (hd : RecoverySpecified g d ecrecover) (hhashes : BackendHashesAgree d g settlementAddress) :
    AcceptsVerified d g settlementAddress := by
  intro order signatureHex signature hdecode hverify
  unfold OrderSignature.verifyOrderSignature at hverify
  simp only [hhashes.orderDigest, hdecode, wrapped, Except.mapError, bind, Except.bind] at hverify
  obtain ⟨normalized, key, hnormalize, hkey, hmaker⟩ := verifySigner_ok hverify
  refine ⟨normalized, hnormalize, ?_⟩
  have hrecover := hd.recover_normalized hg (normalizeSignatureBytes_ok hnormalize) hkey
  unfold FluxSignedOrderSettlement.verifyOrderSignature
  rw [hrecover, hmaker]
  exact if_pos rfl

/-! ## Agreement -/

/-- Whatever the hash: the three programs hash the same byte strings and get the same hashes;
    the byte strings determine chain, settlement and all fields; and a signature that the
    backend accepts for an order is accepted by the settlement for this order. -/
theorem encoders_agree {d : Deployment ω} {g : GoEthereum} {v : Viem}
    {ecrecover : Bytes32 → UInt8 → Nat → Nat → Address} {settlementAddress : String}
    (hg : GoSpecified g) (hv : ViemSpecified v) (hd : RecoverySpecified g d ecrecover)
    (hbackend : g.keccak256Hash = d.keccak256) (hfrontend : v.keccak256 = d.keccak256)
    (hpositive : 0 < d.chainid) (hchain : d.chainid < 2 ^ 256)
    (haddress : g.toAddress settlementAddress = some d.self) :
    (BackendBytesAgree d g ∧ FrontendBytesAgree d v) ∧
      (BackendHashesAgree d g settlementAddress ∧ FrontendHashesAgree d v) ∧
      DigestsInjective d ∧ AcceptsVerified d g settlementAddress := by
  have hbytes := backendBytesAgree hg hbackend hchain
  have hbytes' := frontendBytesAgree hv hfrontend
  have hhashes := backendHashesAgree hbytes hbackend hpositive haddress
  exact ⟨⟨hbytes, hbytes'⟩, ⟨hhashes, frontendHashesAgree hv hbytes' hfrontend hchain⟩,
    digestsInjective hchain, acceptsVerified hg hd hhashes⟩

namespace Example

/-! ## An order signed with a known key -/

def maker : Address := 0xf39fd6e51aad88f6f4ce6ab8827279cfffb92266

def signedOrder : SignedOrder where
  maker := maker
  inputToken := 0x21
  outputToken := 0x22
  amountIn := 1000
  minAmountOut := 900
  maxExecutorRewardBps := 5000
  triggerPriceX18 := 1
  expiry := 2000000000
  nonce := 7
  recipient := maker

def settlementAddress : String := "0x5FbDB2315678afecb367f032d93F642f64180aa3"

def settlementSelf : Address := 0x5FbDB2315678afecb367f032d93F642f64180aa3

def orderTypeHash : Bytes32 := 0x8416d109d00ca4af7c41ee648f9f1d337ab331e33cb4c8b2ffca212be6e8a1b7

def domainTypeHash : Bytes32 := 0x8b73c3c69bb8fe3d512ecc4cf759cc79239f7b179b0ffacaa9a75d522b39400f

def nameHash : Bytes32 := 0x8c31661db62dee231002e63d55135b22ec1e5ff3221d88e00383ebb3d8972ee7

def versionHash : Bytes32 := 0xc89efdaa54c0f20c7adf612882df0950f5a951637e0307cdcb4c672f298b8bc6

def domainSeparator : Bytes32 := 0xd2ec02148e3595ed6648f3ecb241299a7d84006e29e6fa9cd3d8f7b6be00a1af

def orderHash : Bytes32 := 0x23f40f177178cddd174b35c0fb974a963162443c90494b97ae85906677a7f014

def digest : Bytes32 := 0x13fc876ab65790202af388937527efe55f8666d31cc953925944df73150e5ea8

/-- The Keccak hashes of the byte strings behind the digest of this order. -/
def hashes : List (Bytes × Bytes32) :=
  [(TypedData.signingBytes domainSeparator orderHash, digest),
    (Abi.words [orderTypeHash, maker, 0x21, 0x22, 1000, 900, 5000, 1, 2000000000, 7, maker],
      orderHash),
    (Abi.words [domainTypeHash, nameHash, versionHash, 31337, settlementSelf], domainSeparator),
    (Abi.ascii "1", versionHash), (Abi.ascii "Flux Signed Order Settlement", nameHash),
    (Abi.ascii "EIP712Domain(string name,string version,uint256 chainId,address verifyingContract)",
      domainTypeHash),
    (Abi.ascii SIGNED_LIMIT_ORDER_TYPE, orderTypeHash)]

def keccak256 (bytes : Bytes) : Bytes32 := (hashes.lookup bytes).getD 0

/-- The signature, with the recovery id 1. -/
def signature : Bytes :=
  Abi.words [0x17f53289eac961e5adc858d3ca50dab056ddca7a1a906c0815a0369312d1aa49,
    0x6e506d27da7caf4740309844fb2bbdffbafc2c3d00f37179a6b5044fd7c1d358] ++ [1]

def signatureHex : String :=
  "0x17f53289eac961e5adc858d3ca50dab056ddca7a1a906c0815a0369312d1aa49" ++
    "6e506d27da7caf4740309844fb2bbdffbafc2c3d00f37179a6b5044fd7c1d35801"

def publicKey : Bytes :=
  Abi.words [0x8318535b54105d4a7aae60c08fc45f9687181b4fdfc625bd1a753fa7397fed75,
    0x3547f11ca8696646f2f3acb08e31016afac23e630c5d11f59f61fef57b0d2aa5]

def goEthereum : GoEthereum where
  keccak256Hash := keccak256
  pack values :=
    if ∀ value ∈ values, Fits value then .ok (Abi.words (values.map toWord))
    else .error "abi: invalid argument"
  toAddress text := if text = settlementAddress then some settlementSelf else none
  decode text := if text = signatureHex then .ok signature else .error "invalid hex string"
  validateSignatureValues v r s _ := decide
    ((v = 0 ∨ v = 1) ∧ (0 < r ∧ r < secp256k1N) ∧ 0 < s ∧ s ≤ secp256k1N / 2)
  sigToPub d sig := if d = digest ∧ sig = signature then .ok publicKey
    else .error "recovery failed"
  pubkeyToAddress key := if key = publicKey then maker else 1

def viem : Viem where
  keccak256 := keccak256
  encodeAbiParameters _ values := .ok (Abi.words (values.map (TypedData.Value.word keccak256)))
  hashTypedData data :=
    match data.digest keccak256 with
    | some digest => .ok digest
    | none => .error "invalid typed data"

/-- The precompile, which knows this signature. -/
def ecrecover (d : Bytes32) (v : UInt8) (r s : Nat) : Address :=
  if d = digest ∧ v = 28 ∧ r = sigR signature ∧ s = sigS signature then maker else Address.zero

def settlement : Deployment Unit :=
  { FluxSignedOrderSettlement.Example.quiet with
    self := settlementSelf
    chainid := 31337
    keccak256 := keccak256
    recover := fun d sig =>
      let signer := ecrecover d (sigV sig) (sigR sig) (sigS sig)
      if sig.length = 65 ∧ sigS sig ≤ secp256k1N / 2 ∧ signer ≠ Address.zero then .ok signer
      else .error (.message "ECDSAInvalidSignature") }

theorem goEthereum_specified : GoSpecified goEthereum where
  pack _ hfits := if_pos hfits
  validate _ _ _ := decide_eq_true_iff

theorem viem_specified : ViemSpecified viem where
  encodeAbiParameters _ _ _ _ := rfl
  hashTypedData data digest _ hdigest := by
    have hdigest' : data.digest keccak256 = some digest := hdigest
    simp only [viem, hdigest']

theorem settlement_specified : RecoverySpecified goEthereum settlement ecrecover where
  recover d sig hlength hlow hsigner := if_pos ⟨hlength, hlow, hsigner⟩
  precompile d sig key hlength hv _ _ hkey := by
    simp only [goEthereum] at hkey
    split at hkey
    · rename_i hsame
      obtain ⟨hdigest, hset⟩ := hsame
      cases hkey
      have hvset : sigV sig - 27 = 1 := by
        rw [← sigV_set hlength (sigV sig - 27), hset]
        decide +kernel
      have hrset := sigR_set sig (sigV sig - 27)
      have hsset := sigS_set sig (sigV sig - 27)
      rw [hset] at hrset hsset
      have hv28 : sigV sig = 28 := by
        cases hv with
        | inl hv =>
          rw [hv] at hvset
          cases hvset
        | inr hv => exact hv
      have hmaker : goEthereum.pubkeyToAddress publicKey = maker := by simp [goEthereum]
      rw [hmaker]
      exact if_pos ⟨hdigest, hv28, hrset.symm, hsset.symm⟩
    · cases hkey
  nonzero key := by
    simp only [goEthereum]
    split <;> decide

theorem encoders_agree_signed : ∃ normalized,
    normalizeSignatureBytes goEthereum signature = .ok normalized ∧
      FluxSignedOrderSettlement.verifyOrderSignature settlement (hashOrder settlement signedOrder)
        maker normalized = .ok () := by
  have haddress : goEthereum.toAddress settlementAddress = some settlement.self := by
    simp [goEthereum, settlement]
  have hdecode : goEthereum.decode signatureHex = .ok signature := by simp [goEthereum]
  have hagree := encoders_agree goEthereum_specified viem_specified settlement_specified rfl rfl
    (by decide) (by decide) haddress
  exact hagree.2.2.2 signedOrder signatureHex signature hdecode (by decide +kernel)

end Example

end Signing
