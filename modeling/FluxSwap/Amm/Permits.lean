-- SUMMARY: Permits of the LP token: a nonce counts the accepted permits of its owner over every run, and a signature is accepted once at most, by one pair.
import FluxSwap.Amm.ShareValue
import FluxSwap.Settlement.Encoding

/-!
# Permits

`permit` sets an allowance on a signature over a digest with the owner's nonce, which it counts
up. No other call of a pair writes a nonce, also not one that comes back in a callback. So the
digest that has been signed is not the digest of any later state, and the domain separator
makes it differ from the digests of the other pairs.
-/

open Exec

namespace FluxSwapPair

variable {c c' : Chain} {self dst sender : Address} {p p' : Pair}

/-! ## Nonces -/

mutual

/-- How many permits of an owner a pair accepts in an operation and its callbacks. -/
def Op.permits (pair owner : Address) : Op → Nat
  | .permit self o _ _ _ _ => if pair = self ∧ owner = o then 1 else 0
  | .swap _ _ _ _ _ callback => permitsAll pair owner callback
  | _ => 0

def permitsAll (pair owner : Address) : List Op → Nat
  | [] => 0
  | op :: ops => op.permits pair owner + permitsAll pair owner ops

end

def Move.permits (pair owner : Address) : Move → Nat
  | .op transaction => transaction.permits pair owner
  | .enter .. => 0

/-- From `c` to `c'` every nonce of every pair has grown by what is said of it. -/
def NoncesGrow (accepted : Address → Address → Nat) (c c' : Chain) : Prop :=
  ∀ pair p, c.pairs pair = some p →
    ∃ p', c'.pairs pair = some p' ∧ ∀ owner, p'.nonces owner = p.nonces owner + accepted pair owner

def SameNonces : Chain → Chain → Prop := NoncesGrow fun _ _ => 0

theorem NoncesGrow.trans {c'' : Chain} {m n : Address → Address → Nat} (h : NoncesGrow m c c')
    (h' : NoncesGrow n c' c'') : NoncesGrow (fun pair owner => m pair owner + n pair owner) c c'' := by
  intro pair p hp
  obtain ⟨p', hp', hfirst⟩ := h pair p hp
  obtain ⟨p'', hp'', hsecond⟩ := h' pair p' hp'
  refine ⟨p'', hp'', fun owner => ?_⟩
  rw [hsecond, hfirst, Nat.add_assoc]

theorem SameNonces.trans {c'' : Chain} (h : SameNonces c c') (h' : SameNonces c' c'') :
    SameNonces c c'' := NoncesGrow.trans h h'

theorem SameNonces.of_pairs (h : c'.pairs = c.pairs) : SameNonces c c' :=
  fun _ p hp => ⟨p, by rw [h]; exact hp, fun _ => rfl⟩

theorem SameNonces.before {c'' : Chain} {n : Address → Address → Nat} (h : SameNonces c c')
    (h' : NoncesGrow n c' c'') : NoncesGrow n c c'' := by
  simpa using NoncesGrow.trans h h'

theorem NoncesGrow.after {c'' : Chain} {n : Address → Address → Nat} (h : NoncesGrow n c c')
    (h' : SameNonces c' c'') : NoncesGrow n c c'' := NoncesGrow.trans h h'

theorem setPair_sameNonces (p' : Pair) (hp : c.pairs self = some p) (h : p'.nonces = p.nonces) :
    SameNonces c (c.setPair self p') := by
  intro pair q hq
  by_cases hself : pair = self
  · subst hself
    obtain rfl := Option.some.inj (hp.symm.trans hq)
    exact ⟨p', by simp, fun owner => by rw [h, Nat.add_zero]⟩
  · exact ⟨q, by simp [hself, hq], fun _ => rfl⟩

theorem accumulate_nonces {reserve0 reserve1 timeElapsed : Nat}
    (h : accumulate p reserve0 reserve1 timeElapsed = .ok p') : p'.nonces = p.nonces := by
  unfold accumulate at h
  split at h
  · simp only [bind_eq_ok, pure_eq_ok] at h
    obtain ⟨_, -, _, -, _, -, _, -, rfl⟩ := h
    rfl
  · obtain rfl := pure_eq_ok.mp h
    rfl

theorem update_sameNonces {balance0 balance1 reserve0 reserve1 : Nat}
    (h : update c self balance0 balance1 reserve0 reserve1 = .ok c') : SameNonces c c' := by
  simp only [update, bind_eq_ok, Chain.pairAt_eq_ok, pure_eq_ok] at h
  obtain ⟨_, -, p, hp, _, -, p₁, haccumulate, rfl⟩ := h
  have hwrite : SameNonces c (c.setPair self { p₁ with
      reserve0 := balance0
      reserve1 := balance1
      blockTimestampLast := c.timestamp % 2 ^ 32 }) :=
    setPair_sameNonces _ hp (by rw [← accumulate_nonces haccumulate])
  exact hwrite.trans (.of_pairs rfl)

theorem lpMint_sameNonces {value : Nat} (h : FluxSwapERC20.mint c self dst value = .ok c') :
    SameNonces c c' := by
  simp only [FluxSwapERC20.mint, bind_eq_ok, Chain.pairAt_eq_ok, pure_eq_ok] at h
  obtain ⟨p, hp, total, -, rfl⟩ := h
  exact (setPair_sameNonces { p with totalSupply := total } hp rfl).trans (.of_pairs rfl)

theorem lpBurn_sameNonces {value : Nat} (h : FluxSwapERC20.burn c self dst value = .ok c') :
    SameNonces c c' := by
  simp only [FluxSwapERC20.burn, bind_eq_ok, Chain.pairAt_eq_ok, pure_eq_ok] at h
  obtain ⟨_, -, p, hp, _, -, total, -, rfl⟩ := h
  exact (setPair_sameNonces { p with totalSupply := total } hp rfl).trans (.of_pairs rfl)

/-- The two changes of the lock write no nonce. -/
theorem lock_nonces {α : Type} {body : Chain → Exec (Chain × α)} {result : α}
    {n : Address → Address → Nat}
    (hbody : ∀ c₀ c₁, body c₀ = .ok (c₁, result) → NoncesGrow n c₀ c₁)
    (h : lock self body c = .ok (c', result)) : NoncesGrow n c c' := by
  obtain ⟨p, c₁, p₁, hp, -, hrun, hp₁, rfl⟩ := lock_spec h
  have hlock : SameNonces c (c.setPair self { p with unlocked := 0 }) := setPair_sameNonces _ hp rfl
  have hunlock : SameNonces c₁ (c₁.setPair self { p₁ with unlocked := 1 }) :=
    setPair_sameNonces _ hp₁ rfl
  exact (hlock.before (hbody _ _ hrun)).after hunlock

theorem mint_sameNonces {liquidity : Nat} (h : mint self sender dst c = .ok (c', liquidity)) :
    SameNonces c c' := by
  refine lock_nonces ?_ h
  intro c₀ c₁ hbody
  simp only [bind_eq_ok, Chain.pairAt_eq_ok, pure_eq_ok, Prod.mk.injEq] at hbody
  obtain ⟨p, -, _, -, _, -, ⟨c₂, L⟩, hliquidity, _, -, c₃, hmint, c₄, hupdate, rfl, -⟩ := hbody
  have hfirst : SameNonces c₀ c₂ := by
    rcases mintedLiquidity_cases hliquidity with ⟨-, hminimum, -⟩ | ⟨-, rfl, -⟩
    · exact lpMint_sameNonces hminimum
    · exact .of_pairs rfl
  exact (hfirst.trans (lpMint_sameNonces hmint)).trans
    ((update_sameNonces hupdate).trans (.of_pairs rfl))

theorem burn_sameNonces {amounts : Nat × Nat} (h : burn self sender dst c = .ok (c', amounts)) :
    SameNonces c c' := by
  refine lock_nonces ?_ h
  intro c₀ c₁ hbody
  simp only [bind_eq_ok, Chain.pairAt_eq_ok, pure_eq_ok, Prod.mk.injEq] at hbody
  obtain ⟨p, -, _, -, _, -, _, -, _, -, _, -, c₂, hburn, c₃, hpay0, c₄, hpay1, c₅, hupdate, rfl,
    -⟩ := hbody
  have hpaid := ((lpBurn_sameNonces hburn).trans (.of_pairs (safeTransfer_paid hpay0).storage)).trans
    (.of_pairs (safeTransfer_paid hpay1).storage)
  exact hpaid.trans ((update_sameNonces hupdate).trans (.of_pairs rfl))

theorem skim_sameNonces (h : skim self dst c = .ok (c', ())) : SameNonces c c' := by
  refine lock_nonces ?_ h
  intro c₀ c₁ hbody
  simp only [bind_eq_ok, pure_eq_ok, Prod.mk.injEq, and_true] at hbody
  obtain ⟨p, -, _, -, c₂, hpay0, _, -, c₃, hpay1, rfl⟩ := hbody
  apply SameNonces.of_pairs
  rw [(safeTransfer_paid hpay1).storage, (safeTransfer_paid hpay0).storage]

theorem sync_sameNonces (h : sync self c = .ok (c', ())) : SameNonces c c' := by
  refine lock_nonces ?_ h
  intro c₀ c₁ hbody
  simp only [bind_eq_ok, Chain.pairAt_eq_ok, pure_eq_ok, Prod.mk.injEq, and_true] at hbody
  obtain ⟨p, -, c₂, hupdate, rfl⟩ := hbody
  exact update_sameNonces hupdate

/-- The last part of a swap moves balances and updates the reserves. -/
theorem takeInputs_sameNonces {amount0Out amount1Out : Nat}
    (h : takeInputs c self sender p amount0Out amount1Out dst = .ok c') : SameNonces c c' := by
  simp only [takeInputs, bind_eq_ok, pure_eq_ok] at h
  obtain ⟨_, -, ⟨c₁, balance0, balance1, fee⟩, hfee, _, -, c₂, hupdate, rfl⟩ := h
  have hpaid : SameNonces c c₁ := by
    unfold payProtocolFee at hfee
    split at hfee
    · simp only [bind_eq_ok, pure_eq_ok, Prod.mk.injEq] at hfee
      obtain ⟨_, -, _, -, c₃, hpay0, c₄, hpay1, _, -, _, -, rfl, -⟩ := hfee
      apply SameNonces.of_pairs
      split
      · exact (sendPositive_paid hpay1).storage.trans (sendPositive_paid hpay0).storage
      · exact (sendPositive_paid hpay1).storage.trans (sendPositive_paid hpay0).storage
    · obtain ⟨rfl, -⟩ := Prod.mk.inj (pure_eq_ok.mp hfee)
      exact .of_pairs rfl
  exact hpaid.trans ((update_sameNonces hupdate).trans (.of_pairs rfl))

/-- A swap writes the nonces that its callback writes. -/
theorem swap_nonces {amount0Out amount1Out : Nat} {callback : Chain → Exec Chain}
    {n : Address → Address → Nat}
    (hcallback : ∀ c₁ c₂, callback c₁ = .ok c₂ → NoncesGrow n c₁ c₂)
    (h : swap self sender amount0Out amount1Out dst callback c = .ok (c', ())) :
    NoncesGrow n c c' := by
  refine lock_nonces ?_ h
  intro c₀ c₁ hbody
  simp only [bind_eq_ok, pure_eq_ok, Prod.mk.injEq, and_true] at hbody
  obtain ⟨p, -, c₂, hsend, c₃, hrun, c₄, htake, rfl⟩ := hbody
  have hsent : SameNonces c₀ c₂ := .of_pairs (sendOutputs_pays hsend).storage
  exact (hsent.before (hcallback c₂ c₃ hrun)).after (takeInputs_sameNonces htake)

theorem callPermit_nonces {owner spender recovered : Address} {value deadline : Nat}
    (h : callPermit c self owner spender value deadline recovered = .ok c') :
    NoncesGrow (fun pair o => if pair = self ∧ o = owner then 1 else 0) c c' := by
  simp only [callPermit, FluxSwapERC20.permit, bind_eq_ok, Chain.pairAt_eq_ok,
    Uint256.add_eq_ok] at h
  obtain ⟨_, -, _, -, p, hp, nonce, ⟨-, rfl⟩, _, -, happrove⟩ := h
  obtain ⟨logs, rfl⟩ := lpApprove_eq happrove
  intro pair q hq
  by_cases hself : pair = self
  · subst hself
    obtain rfl := Option.some.inj (hp.symm.trans hq)
    refine ⟨{ p with nonces := Function.update p.nonces owner (p.nonces owner + 1) }, by simp,
      fun o => ?_⟩
    by_cases ho : o = owner
    · simp [ho]
    · simp [ho]
  · exact ⟨q, by simp [hself, hq], fun o => by simp [hself]⟩

mutual

/-- The step lemma: a transaction, with all the callbacks in it, counts up the nonces by the
    permits in it. -/
theorem exec_nonces : (op : Op) → (c c' : Chain) → exec op c = .ok c' →
    NoncesGrow (fun pair owner => op.permits pair owner) c c'
  | .mint pair sender dst, c, c', h => by
    simp only [exec, bind_eq_ok, pure_eq_ok] at h
    obtain ⟨⟨c₁, liquidity⟩, hrun, rfl⟩ := h
    exact mint_sameNonces hrun
  | .burn pair sender dst, c, c', h => by
    simp only [exec, bind_eq_ok, pure_eq_ok] at h
    obtain ⟨⟨c₁, amounts⟩, hrun, rfl⟩ := h
    exact burn_sameNonces hrun
  | .swap pair sender amount0Out amount1Out dst callback, c, c', h => by
    simp only [exec, bind_eq_ok, pure_eq_ok] at h
    obtain ⟨⟨c₁, u⟩, hrun, rfl⟩ := h
    -- the permits of a swap are those of its callback
    simp only [Op.permits]
    exact swap_nonces (fun c₁ c₂ => execAll_nonces callback c₁ c₂) hrun
  | .skim pair dst, c, c', h => by
    simp only [exec, bind_eq_ok, pure_eq_ok] at h
    obtain ⟨⟨c₁, u⟩, hrun, rfl⟩ := h
    exact skim_sameNonces hrun
  | .sync pair, c, c', h => by
    simp only [exec, bind_eq_ok, pure_eq_ok] at h
    obtain ⟨⟨c₁, u⟩, hrun, rfl⟩ := h
    exact sync_sameNonces hrun
  | .transfer token sender dst value, c, c', h => by
    simp only [exec, callTransfer, bind_eq_ok] at h
    obtain ⟨-, -, h⟩ := h
    split at h
    · rename_i c₁ htransfer
      obtain rfl := pure_eq_ok.mp h
      obtain ⟨-, rfl⟩ := Chain.transfer_eq_some.mp htransfer
      exact SameNonces.of_pairs rfl
    · cases h
  | .transferFrom token sender src dst value, c, c', h => by
    simp only [exec, callTransferFrom, bind_eq_ok] at h
    obtain ⟨-, -, h⟩ := h
    split at h
    · rename_i c₁ htransfer
      obtain rfl := pure_eq_ok.mp h
      exact SameNonces.of_pairs (Chain.transferFrom_spec htransfer).pairs
    · cases h
  | .approve token sender spender value, c, c', h => by
    simp only [exec, callApprove, bind_eq_ok] at h
    obtain ⟨-, -, h⟩ := h
    split at h
    · obtain ⟨logs, rfl⟩ := lpApprove_eq h
      exact SameNonces.of_pairs rfl
    · obtain rfl := pure_eq_ok.mp h
      exact SameNonces.of_pairs rfl
  | .permit pair owner spender value deadline recovered, c, c', h => by
    rw [exec] at h
    exact callPermit_nonces h
  | .setTreasury treasury, c, c', h => by
    rw [exec] at h
    obtain rfl := pure_eq_ok.mp h
    exact SameNonces.of_pairs rfl
  | .advanceTime seconds, c, c', h => by
    rw [exec] at h
    obtain rfl := pure_eq_ok.mp h
    exact SameNonces.of_pairs rfl

theorem execAll_nonces : (ops : List Op) → (c c' : Chain) → execAll ops c = .ok c' →
    NoncesGrow (fun pair owner => permitsAll pair owner ops) c c'
  | [], c, c', h => by
    rw [execAll] at h
    obtain rfl := pure_eq_ok.mp h
    exact SameNonces.of_pairs rfl
  | op :: ops, c, c', h => by
    rw [execAll] at h
    obtain ⟨c₁, hop, hops⟩ := bind_eq_ok.mp h
    exact (exec_nonces op c c₁ hop).trans (execAll_nonces ops c₁ c' hops)

end

theorem move_nonces {m : Move} (h : move c m = .ok c') :
    NoncesGrow (fun pair owner => m.permits pair owner) c c' := by
  cases m with
  | op transaction => exact exec_nonces transaction c c' h
  | enter pair amount0Out amount1Out dst =>
    simp only [move, enterSwap, bind_eq_ok, Chain.pairAt_eq_ok] at h
    obtain ⟨p, hp, _, -, hsend⟩ := h
    exact (setPair_sameNonces { p with unlocked := 0 } hp rfl).trans
      (.of_pairs (sendOutputs_pays hsend).storage)

/-- In every run and inside callbacks too, the nonce of an owner at a pair has grown by exactly
    the number of the owner's permits that the pair has accepted. -/
theorem nonces_count_permits {c₀ : Chain} {log : System.History Chain Move}
    (h : (runsFrom c₀).Reachable (c, log)) {pair : Address} (hp : c₀.pairs pair = some p) :
    ∃ p', c.pairs pair = some p' ∧ ∀ owner, p'.nonces owner =
      p.nonces owner + (log.map fun entry => entry.2.permits pair owner).sum := by
  have hgrow : NoncesGrow
      (fun pair owner => (log.map fun entry => entry.2.permits pair owner).sum) c₀ c := by
    refine System.ReachableWith.invariant_logged (I := fun c log => NoncesGrow
      (fun pair owner => (log.map fun entry => entry.2.permits pair owner).sum) c₀ c) ?_ ?_ h
    · rintro c rfl
      exact SameNonces.of_pairs rfl
    · intro s log m s' hlog _ hstep
      have hnext := hlog.trans (move_nonces hstep)
      intro pair p hp
      obtain ⟨p', hp', hnonces⟩ := hnext pair p hp
      refine ⟨p', hp', fun owner => ?_⟩
      simp only [hnonces, List.map_cons, List.sum_cons]
      omega
  exact hgrow pair p hp

/-! ## Signed permits -/

/-- The signature of a permit. -/
structure Signature where
  v : Nat
  r : Bytes32
  s : Bytes32

/-- The arguments of `permit`. -/
structure Permit where
  owner     : Address
  spender   : Address
  value     : Nat
  deadline  : Nat
  signature : Signature
  value_le    : value ≤ Uint256.max
  deadline_le : deadline ≤ Uint256.max

section Digest

variable (keccak256 : Bytes → Bytes32) (chainId : Nat)

def PERMIT_TYPEHASH : Bytes32 := keccak256 (Abi.ascii
  "Permit(address owner,address spender,uint256 value,uint256 nonce,uint256 deadline)")

/-- What the constructor hashes for the pair's domain. -/
def domainBytes (pair : Address) : Bytes := Abi.words
  [keccak256 (Abi.ascii
      "EIP712Domain(string name,string version,uint256 chainId,address verifyingContract)"),
    keccak256 (Abi.ascii "FluxSwap LP"), keccak256 (Abi.ascii "1"), chainId, pair]

def DOMAIN_SEPARATOR (pair : Address) : Bytes32 := keccak256 (domainBytes keccak256 chainId pair)

def permitBytes (permit : Permit) (nonce : Nat) : Bytes := Abi.words
  [PERMIT_TYPEHASH keccak256, permit.owner, permit.spender, permit.value, nonce, permit.deadline]

/-- The digest that the owner has to sign. -/
def permitDigest (pair : Address) (permit : Permit) (nonce : Nat) : Bytes32 :=
  keccak256 (TypedData.signingBytes (DOMAIN_SEPARATOR keccak256 chainId pair)
    (keccak256 (permitBytes keccak256 permit nonce)))

/-- The account that the signature belongs to when the pair checks it. -/
def signer (recover : Bytes32 → Signature → Address) (c : Chain) (pair : Address)
    (permit : Permit) : Address :=
  match c.pairs pair with
  | some p =>
    recover (permitDigest keccak256 chainId pair permit (p.nonces permit.owner)) permit.signature
  | none => Address.zero

/-- `permit` with its signature. -/
def acceptPermit (recover : Bytes32 → Signature → Address) (c : Chain) (pair : Address)
    (permit : Permit) : Exec Chain :=
  callPermit c pair permit.owner permit.spender permit.value permit.deadline
    (signer keccak256 chainId recover c pair permit)

/-- The hash tells apart the byte strings behind two permits, level by level. -/
structure SeparatesPermits (pair pair' : Address) (permit permit' : Permit) (nonce nonce' : Nat) :
    Prop where
  signing : FluxSignedOrderSettlement.Separates keccak256
    (TypedData.signingBytes (DOMAIN_SEPARATOR keccak256 chainId pair)
      (keccak256 (permitBytes keccak256 permit nonce)))
    (TypedData.signingBytes (DOMAIN_SEPARATOR keccak256 chainId pair')
      (keccak256 (permitBytes keccak256 permit' nonce')))
  domain : FluxSignedOrderSettlement.Separates keccak256 (domainBytes keccak256 chainId pair)
    (domainBytes keccak256 chainId pair')
  permit : FluxSignedOrderSettlement.Separates keccak256 (permitBytes keccak256 permit nonce)
    (permitBytes keccak256 permit' nonce')

variable {keccak256 : Bytes → Bytes32} {chainId : Nat}

theorem domainWords_lt (hchain : chainId < 2 ^ 256) (pair : Address) :
    ∀ n ∈ [(keccak256 (Abi.ascii
        "EIP712Domain(string name,string version,uint256 chainId,address verifyingContract)") : Nat),
      keccak256 (Abi.ascii "FluxSwap LP"), keccak256 (Abi.ascii "1"), chainId, pair],
      n < 2 ^ 256 := by
  have hhash := FluxSignedOrderSettlement.Bytes32.lt
  simp only [List.forall_mem_cons, List.not_mem_nil, false_implies, implies_true, and_true]
  exact ⟨hhash _, hhash _, hhash _, hchain, FluxSignedOrderSettlement.Address.lt_word pair⟩

theorem permitWords_lt (permit : Permit) {nonce : Nat} (hnonce : nonce ≤ Uint256.max) :
    ∀ n ∈ [(PERMIT_TYPEHASH keccak256 : Nat), permit.owner, permit.spender, permit.value, nonce,
      permit.deadline], n < 2 ^ 256 := by
  have haddress := FluxSignedOrderSettlement.Address.lt_word
  have hmax : Uint256.max < 2 ^ 256 := by decide
  simp only [List.forall_mem_cons, List.not_mem_nil, false_implies, implies_true, and_true]
  exact ⟨FluxSignedOrderSettlement.Bytes32.lt _, haddress _, haddress _,
    permit.value_le.trans_lt hmax, hnonce.trans_lt hmax, permit.deadline_le.trans_lt hmax⟩

/-- The digest determines the pair, the nonce and what is permitted. -/
theorem permitDigest_injective (hchain : chainId < 2 ^ 256) {pair pair' : Address}
    {permit permit' : Permit} {nonce nonce' : Nat} (hnonce : nonce ≤ Uint256.max)
    (hnonce' : nonce' ≤ Uint256.max)
    (hseparates : SeparatesPermits keccak256 chainId pair pair' permit permit' nonce nonce')
    (h : permitDigest keccak256 chainId pair permit nonce =
      permitDigest keccak256 chainId pair' permit' nonce') :
    pair = pair' ∧ permit.owner = permit'.owner ∧ permit.spender = permit'.spender ∧
      permit.value = permit'.value ∧ nonce = nonce' ∧ permit.deadline = permit'.deadline := by
  obtain ⟨hdomain, hstruct⟩ := TypedData.signingBytes_injective (hseparates.signing h)
  have hpairs := Abi.words_injective (domainWords_lt hchain pair) (domainWords_lt hchain pair')
    (hseparates.domain hdomain)
  have hfields := Abi.words_injective (permitWords_lt permit hnonce) (permitWords_lt permit' hnonce')
    (hseparates.permit hstruct)
  simp only [List.cons.injEq, Fin.val_inj, and_true] at hpairs hfields
  obtain ⟨-, howner, hspender, hvalue, hsame, hdeadline⟩ := hfields
  exact ⟨hpairs.2.2.2.2, howner, hspender, hvalue, hsame, hdeadline⟩

theorem acceptPermit_spec {recover : Bytes32 → Signature → Address} {pair : Address}
    {permit : Permit} (h : acceptPermit keccak256 chainId recover c pair permit = .ok c') :
    ∃ p, c.pairs pair = some p ∧ p.nonces permit.owner < Uint256.max ∧ permit.owner ≠ Address.zero ∧
      recover (permitDigest keccak256 chainId pair permit (p.nonces permit.owner))
        permit.signature = permit.owner ∧
      ∃ p', c'.pairs pair = some p' ∧ p'.nonces permit.owner = p.nonces permit.owner + 1 := by
  have hgrow := callPermit_nonces h
  simp only [acceptPermit, callPermit, FluxSwapERC20.permit, bind_eq_ok, require_eq_ok,
    Chain.pairAt_eq_ok, Uint256.add_eq_ok] at h
  obtain ⟨_, -, _, -, p, hp, nonce, ⟨hnonce, -⟩, _, ⟨hzero, hsigner⟩, -⟩ := h
  simp only [signer, hp] at hsigner hzero
  obtain ⟨p', hp', hgrown⟩ := hgrow pair p hp
  refine ⟨p, hp, hnonce, by rw [← hsigner]; exact hzero, hsigner, p', hp', ?_⟩
  rw [hgrown]
  simp

/-- The signature belongs to its owner for one of the two digests at most. -/
def BindsSigner (recover : Bytes32 → Signature → Address) (permit : Permit)
    (digest digest' : Bytes32) : Prop :=
  recover digest permit.signature = permit.owner →
    recover digest' permit.signature = permit.owner → digest = digest'

/-- Once a pair has accepted a permit, in whatever run and whatever happens next, no pair ever
    accepts the signature again for its owner: neither the same permit nor another one. The hash
    has to tell the encodings of the two permits apart, and the signature must not belong to its
    owner for both digests. -/
theorem permit_accepted_once {recover : Bytes32 → Signature → Address} {c₁ c₂ c₃ : Chain}
    {pair pair' : Address} {permit permit' : Permit} (hchain : chainId < 2 ^ 256)
    (haccepted : acceptPermit keccak256 chainId recover c₁ pair permit = .ok c₂)
    (hlater : system.LeadsTo (fun _ _ => True) c₂ c₃)
    (howner : permit'.owner = permit.owner) (hsignature : permit'.signature = permit.signature)
    (hseparates : ∀ p p', c₁.pairs pair = some p → c₃.pairs pair' = some p' →
      SeparatesPermits keccak256 chainId pair pair' permit permit' (p.nonces permit.owner)
        (p'.nonces permit.owner))
    (hbinds : ∀ p p', c₁.pairs pair = some p → c₃.pairs pair' = some p' →
      BindsSigner recover permit
        (permitDigest keccak256 chainId pair permit (p.nonces permit.owner))
        (permitDigest keccak256 chainId pair' permit' (p'.nonces permit.owner))) :
    ∀ c₄, acceptPermit keccak256 chainId recover c₃ pair' permit' ≠ .ok c₄ := by
  intro c₄ hagain
  obtain ⟨p, hp, hnonce, -, hrecovers, p₂, hp₂, hnext⟩ := acceptPermit_spec haccepted
  obtain ⟨p₃, hp₃, hnonce₃, -, hrecovers₃, -⟩ := acceptPermit_spec hagain
  rw [howner] at hnonce₃ hrecovers₃
  rw [hsignature] at hrecovers₃
  obtain ⟨hpair, -, -, -, hsame, -⟩ := permitDigest_injective hchain hnonce.le hnonce₃.le
    (hseparates p p₃ hp hp₃) (hbinds p p₃ hp hp₃ hrecovers hrecovers₃)
  -- the nonces of a pair never fall
  have hgrown : ∃ q, c₃.pairs pair = some q ∧ p₂.nonces permit.owner ≤ q.nonces permit.owner := by
    refine System.LeadsTo.preserves (I := fun c => ∃ q, c.pairs pair = some q ∧
      p₂.nonces permit.owner ≤ q.nonces permit.owner) hlater ⟨p₂, hp₂, le_rfl⟩ ?_
    rintro c m c' ⟨q, hq, hle⟩ - hstep
    obtain ⟨q', hq', hnonces⟩ := move_nonces hstep pair q hq
    refine ⟨q', hq', ?_⟩
    rw [hnonces]
    omega
  obtain ⟨q, hq, hle⟩ := hgrown
  subst hpair
  obtain rfl := Option.some.inj (hq.symm.trans hp₃)
  omega

end Digest

namespace Example

/-- Some hash of 256 bits. -/
def keccak (bytes : Bytes) : Bytes32 :=
  Fin.ofNat _ (bytes.foldl (fun acc b => acc * 257 + b.toNat + 1) 0)

/-- Alice lets the account 7 spend 500 of her shares until second 200. -/
def permit : Permit where
  owner := alice
  spender := 7
  value := 500
  deadline := 200
  signature := ⟨27, 1, 2⟩
  value_le := by decide
  deadline_le := by decide

/-- What she has signed. -/
def signedDigest : Bytes32 := permitDigest keccak 1 pair permit 0

def recover (digest : Bytes32) (_ : Signature) : Address :=
  if digest = signedDigest then alice else Address.zero

/-- The nonces of Alice at the pair. -/
def nonceOf (c : Chain) : Option Nat := (c.pairs pair).map fun p => p.nonces alice

end Example

open Example in
theorem nonces_count_permits_twice :
    ∃ c log p', (runsFrom start).Reachable (c, log) ∧ c.pairs pair = some p' ∧
      p'.nonces alice = 2 := by
  have hrun : (System.runWith (System.logged move) (fun _ _ => True) (start, [])
      [.op (.permit pair alice 7 500 200 alice), .op (.advanceTime 5),
        .op (.permit pair alice 7 100 200 alice)]).map
      (fun r => (nonceOf r.1, (r.2.map fun entry => entry.2.permits pair alice).sum)) =
        some (some 2, 2) := by
    decide +kernel
  obtain ⟨⟨c, log⟩, hs, hsummary⟩ := Option.map_eq_some_iff.mp hrun
  have hreach : (runsFrom start).Reachable (c, log) :=
    System.reachableWith_of_runWith (.init ⟨rfl, rfl⟩) hs
  obtain ⟨p, hp⟩ : ∃ p, start.pairs pair = some p := ⟨_, rfl⟩
  obtain ⟨p', hp', hnonces⟩ := nonces_count_permits hreach hp
  have hcount : (log.map fun entry => entry.2.permits pair alice).sum = 2 :=
    (Prod.mk.inj hsummary).2
  have hzero : p.nonces alice = 0 := by
    obtain rfl := Option.some.inj hp
    rfl
  exact ⟨c, log, p', hreach, hp', by rw [hnonces, hcount, hzero]⟩

open Example in
theorem permit_accepted_once_alice :
    ∃ c₂, acceptPermit keccak 1 recover start pair permit = .ok c₂ ∧ nonceOf c₂ = some 1 ∧
      ∀ c₄, acceptPermit keccak 1 recover c₂ pair permit ≠ .ok c₄ := by
  have hrun : (acceptPermit keccak 1 recover start pair permit).toOption.map nonceOf =
      some (some 1) := by
    decide +kernel
  obtain ⟨c₂, hok, hnonce⟩ := Option.map_eq_some_iff.mp hrun
  have haccepted : acceptPermit keccak 1 recover start pair permit = .ok c₂ := by
    cases hresult : acceptPermit keccak 1 recover start pair permit with
    | error r =>
      rw [hresult] at hok
      cases hok
    | ok c =>
      rw [hresult] at hok
      exact congrArg _ (Option.some.inj hok)
  have hdiffer : keccak (permitBytes keccak permit 0) ≠ keccak (permitBytes keccak permit 1) := by
    decide +kernel
  have hdigests : permitDigest keccak 1 pair permit 0 ≠ permitDigest keccak 1 pair permit 1 := by
    decide +kernel
  have hnonces : ∀ p p', start.pairs pair = some p → c₂.pairs pair = some p' →
      p.nonces alice = 0 ∧ p'.nonces alice = 1 := by
    intro p p' hp hp'
    refine ⟨?_, ?_⟩
    · obtain rfl := Option.some.inj hp
      rfl
    · simpa [nonceOf, hp'] using hnonce
  refine ⟨c₂, haccepted, hnonce, ?_⟩
  refine permit_accepted_once (by decide) haccepted (.init rfl) rfl rfl ?_ ?_
  · intro p p' hp hp'
    obtain ⟨hfirst, hsecond⟩ := hnonces p p' hp hp'
    rw [show permit.owner = alice.val from rfl, hfirst, hsecond]
    exact ⟨fun h => absurd h hdigests, fun _ => rfl, fun h => absurd h hdiffer⟩
  · intro p p' hp hp' _ hrecovers
    obtain ⟨-, hsecond⟩ := hnonces p p' hp hp'
    rw [show permit.owner = alice.val from rfl, hsecond] at hrecovers
    have hother : recover (permitDigest keccak 1 pair permit 1) permit.signature = Address.zero :=
      if_neg hdigests.symm
    exact absurd (hrecovers.symm.trans hother) alice.2

end FluxSwapPair
