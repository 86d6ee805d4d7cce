-- SUMMARY: The byte strings that the settlement hashes for orders and cancellations, and that they determine what they encode.
import FluxSwap.Contracts.TypedData
import FluxSwap.Settlement.Model

/-!
# What the settlement hashes

Hash by hash, the byte strings behind an order's digest and behind the digest of a
cancellation. Each of them determines its fields, so two digests agree only for the same
domain and the same fields, unless two aligned byte strings have the same hash.
-/

namespace FluxSignedOrderSettlement

variable {ω : Type}

/-! ## Byte strings -/

section Encodings

variable (d : Deployment ω)

def domainBytes : Bytes :=
  Abi.words [DOMAIN_TYPEHASH d, NAME_HASH d, VERSION_HASH d, d.chainid, d.self]

def orderBytes (order : SignedOrder) : Bytes :=
  Abi.words [ORDER_TYPEHASH d, order.maker, order.inputToken, order.outputToken, order.amountIn,
    order.minAmountOut, order.maxExecutorRewardBps, order.triggerPriceX18, order.expiry,
    order.nonce, order.recipient]

def invalidateNoncesBytes (maker : Address) (nonces : List Nat) (deadline : Nat) : Bytes :=
  Abi.words [INVALIDATE_NONCES_TYPEHASH d, maker, d.keccak256 (Abi.words nonces), deadline]

theorem domainSeparator_eq : DOMAIN_SEPARATOR d = d.keccak256 (domainBytes d) := rfl

theorem hashOrder_eq (order : SignedOrder) :
    hashOrder d order = d.keccak256 (orderBytes d order) := rfl

theorem typedDigest_eq (structHash : Bytes32) : typedDigest d structHash =
    d.keccak256 (TypedData.signingBytes (DOMAIN_SEPARATOR d) structHash) := rfl

theorem invalidateNoncesDigest_eq (maker : Address) (nonces : List Nat) (deadline : Nat) :
    invalidateNoncesDigest d maker nonces deadline =
      typedDigest d (d.keccak256 (invalidateNoncesBytes d maker nonces deadline)) := rfl

end Encodings

/-! ## Injectivity -/

theorem Bytes32.lt (b : Bytes32) : (b : Nat) < 2 ^ 256 := b.isLt

theorem Address.lt_word (a : Address) : (a : Nat) < 2 ^ 256 :=
  Nat.lt_of_lt_of_le a.isLt (Nat.pow_le_pow_right (by decide) (by decide))

theorem SignedOrder.lt_word (order : SignedOrder) {n : Nat}
    (h : n ∈ [order.amountIn, order.minAmountOut, order.maxExecutorRewardBps,
      order.triggerPriceX18, order.expiry, order.nonce]) : n < 2 ^ 256 :=
  Nat.lt_of_le_of_lt (order.fits n h) (by decide)

/-- The words of an order, all of which fit. -/
theorem orderWords_lt (d : Deployment ω) (order : SignedOrder) :
    ∀ n ∈ [(ORDER_TYPEHASH d : Nat), order.maker, order.inputToken, order.outputToken,
      order.amountIn, order.minAmountOut, order.maxExecutorRewardBps, order.triggerPriceX18,
      order.expiry, order.nonce, order.recipient], n < 2 ^ 256 := by
  have hnumbers : ∀ n ∈ [order.amountIn, order.minAmountOut, order.maxExecutorRewardBps,
      order.triggerPriceX18, order.expiry, order.nonce], n < 2 ^ 256 :=
    fun n hn => order.lt_word hn
  simp only [List.forall_mem_cons, List.not_mem_nil, false_implies, implies_true, and_true]
    at hnumbers ⊢
  obtain ⟨hamountIn, hminAmountOut, hreward, htrigger, hexpiry, hnonce⟩ := hnumbers
  exact ⟨Bytes32.lt _, Address.lt_word _, Address.lt_word _, Address.lt_word _, hamountIn,
    hminAmountOut, hreward, htrigger, hexpiry, hnonce, Address.lt_word _⟩

theorem domainWords_lt {d : Deployment ω} (hchain : d.chainid < 2 ^ 256) :
    ∀ n ∈ [(DOMAIN_TYPEHASH d : Nat), NAME_HASH d, VERSION_HASH d, d.chainid, d.self],
      n < 2 ^ 256 := by
  simp only [List.forall_mem_cons, List.not_mem_nil, false_implies, implies_true, and_true]
  exact ⟨Bytes32.lt _, Bytes32.lt _, Bytes32.lt _, hchain, Address.lt_word _⟩

theorem invalidateNoncesWords_lt (d : Deployment ω) (maker : Address) (nonces : List Nat)
    {deadline : Nat} (hdeadline : deadline < 2 ^ 256) :
    ∀ n ∈ [(INVALIDATE_NONCES_TYPEHASH d : Nat), maker, d.keccak256 (Abi.words nonces), deadline],
      n < 2 ^ 256 := by
  simp only [List.forall_mem_cons, List.not_mem_nil, false_implies, implies_true, and_true]
  exact ⟨Bytes32.lt _, Address.lt_word _, Bytes32.lt _, hdeadline⟩

section Injectivity

variable {d d' : Deployment ω}

theorem domainBytes_injective (hchain : d.chainid < 2 ^ 256) (hchain' : d'.chainid < 2 ^ 256)
    (h : domainBytes d = domainBytes d') : d.chainid = d'.chainid ∧ d.self = d'.self := by
  have hwords := Abi.words_injective (domainWords_lt hchain) (domainWords_lt hchain') h
  simp only [List.cons.injEq, Fin.val_inj, and_true] at hwords
  exact hwords.2.2.2

theorem orderBytes_injective {order order' : SignedOrder}
    (h : orderBytes d order = orderBytes d' order') : order = order' := by
  have hwords := Abi.words_injective (orderWords_lt d order) (orderWords_lt d' order') h
  simp only [List.cons.injEq, Fin.val_inj, and_true] at hwords
  cases order
  cases order'
  simp_all

theorem invalidateNoncesBytes_injective {maker maker' : Address} {nonces nonces' : List Nat}
    {deadline deadline' : Nat} (hdeadline : deadline < 2 ^ 256) (hdeadline' : deadline' < 2 ^ 256)
    (h : invalidateNoncesBytes d maker nonces deadline =
      invalidateNoncesBytes d' maker' nonces' deadline') :
    maker = maker' ∧ d.keccak256 (Abi.words nonces) = d'.keccak256 (Abi.words nonces') ∧
      deadline = deadline' := by
  have hwords := Abi.words_injective (invalidateNoncesWords_lt d maker nonces hdeadline)
    (invalidateNoncesWords_lt d' maker' nonces' hdeadline') h
  simp only [List.cons.injEq, Fin.val_inj, and_true] at hwords
  exact hwords.2

/-- No order is encoded as a cancellation is. -/
theorem orderBytes_ne_invalidateNoncesBytes (order : SignedOrder) (maker : Address)
    (nonces : List Nat) (deadline : Nat) :
    orderBytes d order ≠ invalidateNoncesBytes d' maker nonces deadline := by
  intro h
  have hlength := congrArg List.length h
  unfold orderBytes invalidateNoncesBytes at hlength
  rw [Abi.length_words, Abi.length_words] at hlength
  simp at hlength

end Injectivity

/-! ## Digests -/

/-- The hash tells two byte strings apart. -/
def Separates (keccak256 : Bytes → Bytes32) (x y : Bytes) : Prop :=
  keccak256 x = keccak256 y → x = y

/-- The hash tells apart the byte strings behind two digests, level by level. -/
structure SeparatesDigests (d d' : Deployment ω) (struct struct' : Bytes) : Prop where
  signing : Separates d.keccak256
    (TypedData.signingBytes (DOMAIN_SEPARATOR d) (d.keccak256 struct))
    (TypedData.signingBytes (DOMAIN_SEPARATOR d') (d.keccak256 struct'))
  domain : Separates d.keccak256 (domainBytes d) (domainBytes d')
  struct : Separates d.keccak256 struct struct'

section Digests

variable {d d' : Deployment ω} (hkeccak : d'.keccak256 = d.keccak256)

include hkeccak

theorem typedDigest_injective {struct struct' : Bytes}
    (hseparates : SeparatesDigests d d' struct struct')
    (h : typedDigest d (d.keccak256 struct) = typedDigest d' (d'.keccak256 struct')) :
    domainBytes d = domainBytes d' ∧ struct = struct' := by
  rw [typedDigest_eq, typedDigest_eq, hkeccak] at h
  obtain ⟨hseparator, hstruct⟩ := TypedData.signingBytes_injective (hseparates.signing h)
  rw [domainSeparator_eq, domainSeparator_eq, hkeccak] at hseparator
  exact ⟨hseparates.domain hseparator, hseparates.struct hstruct⟩

/-- The digest of an order determines the chain, the settlement and the order. -/
theorem orderDigest_injective (hchain : d.chainid < 2 ^ 256) (hchain' : d'.chainid < 2 ^ 256)
    {order order' : SignedOrder}
    (hseparates : SeparatesDigests d d' (orderBytes d order) (orderBytes d' order'))
    (h : typedDigest d (hashOrder d order) = typedDigest d' (hashOrder d' order')) :
    d.chainid = d'.chainid ∧ d.self = d'.self ∧ order = order' := by
  rw [hashOrder_eq, hashOrder_eq] at h
  obtain ⟨hdomain, hstruct⟩ := typedDigest_injective hkeccak hseparates h
  obtain ⟨hchainid, hself⟩ := domainBytes_injective hchain hchain' hdomain
  exact ⟨hchainid, hself, orderBytes_injective hstruct⟩

/-- The digest of a cancellation determines the chain, the settlement, the maker, the nonces
    and the deadline. -/
theorem cancelDigest_injective (hchain : d.chainid < 2 ^ 256) (hchain' : d'.chainid < 2 ^ 256)
    {maker maker' : Address} {nonces nonces' : List Nat} {deadline deadline' : Nat}
    (hnonces : ∀ n ∈ nonces, n < 2 ^ 256) (hnonces' : ∀ n ∈ nonces', n < 2 ^ 256)
    (hdeadline : deadline < 2 ^ 256) (hdeadline' : deadline' < 2 ^ 256)
    (hseparates : SeparatesDigests d d' (invalidateNoncesBytes d maker nonces deadline)
      (invalidateNoncesBytes d' maker' nonces' deadline'))
    (hpacked : Separates d.keccak256 (Abi.words nonces) (Abi.words nonces'))
    (h : invalidateNoncesDigest d maker nonces deadline =
      invalidateNoncesDigest d' maker' nonces' deadline') :
    d.chainid = d'.chainid ∧ d.self = d'.self ∧ maker = maker' ∧ nonces = nonces' ∧
      deadline = deadline' := by
  rw [invalidateNoncesDigest_eq, invalidateNoncesDigest_eq] at h
  obtain ⟨hdomain, hstruct⟩ := typedDigest_injective hkeccak hseparates h
  obtain ⟨hchainid, hself⟩ := domainBytes_injective hchain hchain' hdomain
  obtain ⟨hmaker, hhash, hlast⟩ := invalidateNoncesBytes_injective hdeadline hdeadline' hstruct
  rw [hkeccak] at hhash
  exact ⟨hchainid, hself, hmaker, Abi.words_injective hnonces hnonces' (hpacked hhash), hlast⟩

/-- An order and a cancellation never have one digest. -/
theorem orderDigest_ne_cancelDigest {order : SignedOrder} {maker : Address} {nonces : List Nat}
    {deadline : Nat}
    (hseparates : SeparatesDigests d d' (orderBytes d order)
      (invalidateNoncesBytes d' maker nonces deadline)) :
    typedDigest d (hashOrder d order) ≠ invalidateNoncesDigest d' maker nonces deadline := by
  intro h
  rw [hashOrder_eq, invalidateNoncesDigest_eq] at h
  exact orderBytes_ne_invalidateNoncesBytes order maker nonces deadline
    (typedDigest_injective hkeccak hseparates h).2

end Digests

end FluxSignedOrderSettlement
