-- SUMMARY: No operation of a pair lowers the value of an LP share, over every run and inside every flash callback.
import FluxSwap.Amm.PairSound

/-!
# The value of an LP share

Minting rounds the minted LP down, burning rounds the paid amounts down, and the
check of K after the protocol fee bounds the balances that become the reserves.
Each entry point is shown to keep its own pair sound and the value of its shares;
the run lemma is an induction over the transactions and their callbacks.
-/

open Exec

namespace FluxSwapPair

variable {c c' : Chain} {self sender dst : Address} {p p' : Pair}

/-! ## Mint -/

theorem mintedLiquidity_cases {amount0 amount1 liquidity : Nat}
    (h : mintedLiquidity c self p amount0 amount1 = .ok (c', liquidity)) :
    (p.totalSupply = 0 ∧
      FluxSwapERC20.mint c self Address.zero MINIMUM_LIQUIDITY = .ok c' ∧
      (0 < liquidity → 0 < amount0 ∧ 0 < amount1)) ∨
    (p.totalSupply ≠ 0 ∧ c' = c ∧
      liquidity * p.reserve0 ≤ amount0 * p.totalSupply ∧
      liquidity * p.reserve1 ≤ amount1 * p.totalSupply) := by
  unfold mintedLiquidity at h
  split at h
  · simp only [bind_eq_ok, pure_eq_ok, Prod.mk.injEq] at h
    obtain ⟨product, hproduct, root, hroot, _, hliquidity, c₁, hmint, rfl, rfl⟩ := h
    obtain ⟨-, rfl⟩ := Uint256.mul_eq_ok.mp hproduct
    obtain ⟨-, rfl⟩ := Uint256.sub_eq_ok.mp hliquidity
    refine .inl ⟨‹_›, hmint, ?_⟩
    intro hpos
    have hne : amount0 * amount1 ≠ 0 := by
      intro hzero
      rw [hzero] at hroot
      obtain rfl : 0 = root := pure_eq_ok.mp hroot
      omega
    exact ⟨Nat.pos_of_ne_zero fun h => hne (by simp [h]),
      Nat.pos_of_ne_zero fun h => hne (by simp [h])⟩
  · simp only [bind_eq_ok, Uint256.mul_eq_ok, Uint256.div_eq_ok, pure_eq_ok, Prod.mk.injEq] at h
    obtain ⟨_, ⟨-, rfl⟩, _, ⟨-, rfl⟩, _, ⟨-, rfl⟩, _, ⟨-, rfl⟩, rfl, rfl⟩ := h
    refine .inr ⟨‹_›, rfl, ?_, ?_⟩
    · refine (Nat.mul_le_mul_right _ ?_).trans (Nat.div_mul_le_self _ _)
      unfold Math.min
      split <;> omega
    · refine (Nat.mul_le_mul_right _ ?_).trans (Nat.div_mul_le_self _ _)
      unfold Math.min
      split <;> omega

/-- What issuing LP does to a pair: its other balances stay. -/
structure Issued (pair : Address) (c c' : Chain) (p : Pair) (total : Nat) : Prop where
  frame : Frame pair c c'
  storage : c'.pairs pair = some { p with totalSupply := total }
  held : ∀ t, t ≠ pair → c'.tokens.balanceOf t pair = c.tokens.balanceOf t pair
  supply : ∑ a, c'.tokens.balanceOf pair a = total
  shares : c.tokens.balanceOf pair Address.zero ≤ c'.tokens.balanceOf pair Address.zero

theorem lpMint_issued {value : Nat} (hp : c.pairs self = some p)
    (hsupply : ∑ a, c.tokens.balanceOf self a = p.totalSupply)
    (h : FluxSwapERC20.mint c self dst value = .ok c') :
    Issued self c c' p (p.totalSupply + value) ∧
      c'.tokens = c.tokens.credit self dst value := by
  obtain ⟨q, hq, -, hframe, hp', htokens⟩ := lpMint_spec h
  obtain rfl := Option.some.inj (hp.symm.trans hq)
  refine ⟨⟨hframe, hp', fun t ht => ?_, ?_, ?_⟩, htokens⟩
  · rw [htokens, Ledger.balanceOf_credit_of_token_ne _ _ _ _ ht]
  · rw [htokens, Ledger.sum_balanceOf_credit, hsupply]
  · rw [htokens]
    exact Ledger.balanceOf_le_credit _ _ _ _ _ _

/-- The LP that a deposit issues, with the locked minimum of the first deposit. -/
theorem issue_spec {amount0 amount1 liquidity : Nat} {c₁ : Chain} (hp : c.pairs self = some p)
    (hshares : SharesSound c self p)
    (hliquidity : mintedLiquidity c self p amount0 amount1 = .ok (c₁, liquidity))
    (hpos : 0 < liquidity) (hmint : FluxSwapERC20.mint c₁ self dst liquidity = .ok c') :
    ∃ total, Issued self c c' p total ∧ 0 < total ∧
      SharesSound c' self { p with totalSupply := total } ∧
      (0 < p.totalSupply → total = p.totalSupply + liquidity ∧
        liquidity * p.reserve0 ≤ amount0 * p.totalSupply ∧
        liquidity * p.reserve1 ≤ amount1 * p.totalSupply) ∧
      (p.totalSupply = 0 → 0 < amount0 ∧ 0 < amount1) := by
  have hsound : ∀ total, Issued self c c' p total →
      MINIMUM_LIQUIDITY ≤ c'.tokens.balanceOf self Address.zero →
      SharesSound c' self { p with totalSupply := total } := fun total hissued hminimum =>
    ⟨hshares.address, hshares.tokens_ne, hshares.token0_ne, hshares.token1_ne,
      by rw [hissued.frame.allowance]; exact hshares.allowance, hissued.supply, fun _ => hminimum⟩
  obtain ⟨hnone, hlock, hamounts⟩ | ⟨hsome, rfl, hshare0, hshare1⟩ :=
    mintedLiquidity_cases hliquidity
  · obtain ⟨hfirst, htokens⟩ := lpMint_issued hp hshares.supply hlock
    obtain ⟨hsecond, -⟩ := lpMint_issued hfirst.storage hfirst.supply hmint
    have hissued : Issued self c c' p (p.totalSupply + MINIMUM_LIQUIDITY + liquidity) :=
      ⟨hfirst.frame.trans hsecond.frame, hsecond.storage,
        fun t ht => (hsecond.held t ht).trans (hfirst.held t ht), hsecond.supply,
        hfirst.shares.trans hsecond.shares⟩
    have hminimum : MINIMUM_LIQUIDITY ≤ c'.tokens.balanceOf self Address.zero := by
      refine le_trans ?_ hsecond.shares
      rw [htokens]
      simp [Ledger.credit]
    exact ⟨_, hissued, by omega, hsound _ hissued hminimum, fun h => by omega, fun _ => hamounts hpos⟩
  · obtain ⟨hissued, -⟩ := lpMint_issued hp hshares.supply hmint
    exact ⟨_, hissued, by omega,
      hsound _ hissued ((hshares.minimum (by omega)).trans hissued.shares),
      fun _ => ⟨rfl, hshare0, hshare1⟩, fun hzero => absurd hzero hsome⟩

/-- A deposit of what exceeds the reserve mints at most its share. -/
theorem mint_value {reserve balance total liquidity : Nat} (hle : reserve ≤ balance)
    (h : liquidity * reserve ≤ (balance - reserve) * total) :
    reserve * (total + liquidity) ≤ balance * total := by
  rw [Nat.sub_mul] at h
  have hmul : reserve * total ≤ balance * total := Nat.mul_le_mul_right total hle
  calc reserve * (total + liquidity) = reserve * total + liquidity * reserve := by ring
    _ ≤ balance * total := by omega

theorem mint_acts {liquidity : Nat} (hs : Sound c)
    (h : mint self sender dst c = .ok (c', liquidity)) : Acts self c c' := by
  refine lock_acts hs (fun c₀ p c₁ hp hsettled hbody => ?_) h
  simp only [bind_eq_ok, Chain.pairAt_eq_ok, hp, Option.some.injEq, Uint256.sub_eq_ok,
    require_eq_ok, pure_eq_ok, Prod.mk.injEq] at hbody
  obtain ⟨_, rfl, _, ⟨hle0, rfl⟩, _, ⟨hle1, rfl⟩, ⟨c₂, L⟩, hliquidity, _, hpos, c₃, hmint, c₄,
    hupdate, rfl, rfl⟩ := hbody
  obtain ⟨total, hissued, htotal, hshares, hvalue, hamounts⟩ :=
    issue_spec hp hsettled.toSharesSound hliquidity hpos hmint
  obtain ⟨p₄, hp₄, hsettled₄, hsame, hr0, hr1, hframe⟩ := update_settled hissued.storage hshares
    (hissued.held _ hsettled.token0_ne).ge (hissued.held _ hsettled.token1_ne).ge hupdate
  refine ⟨p₄, hissued.frame.trans (hframe.trans (.emit _ _ _)), hp₄, hsettled₄.emit _,
    hsame.token0, hsame.token1, fun ht => ?_, fun hzero _ => ?_⟩
  · have hT : p₄.totalSupply = total := hsame.totalSupply
    obtain ⟨rfl, hshare0, hshare1⟩ := hvalue ht
    refine KeepsValue.of_each (fun _ => by rw [hT]; exact htotal) ?_ ?_ ht
    · rw [hT, hr0]
      exact mint_value hle0 hshare0
    · rw [hT, hr1]
      exact mint_value hle1 hshare1
  · have hfirst := hamounts hzero
    rw [hr0, hr1]
    omega

/-! ## Burn -/

/-- A redeemed share takes at most its part of the balance. -/
theorem burn_value {reserve balance paid left total liquidity : Nat} (hle : reserve ≤ balance)
    (hpaid : paid = liquidity * balance / total)
    (hleft : balance ≤ left + paid) : reserve * (total - liquidity) ≤ left * total := by
  have hfloor : paid * total ≤ liquidity * balance := hpaid ▸ Nat.div_mul_le_self _ _
  have hscaled : balance * total ≤ (left + paid) * total := Nat.mul_le_mul_right total hleft
  rw [Nat.add_mul] at hscaled
  calc reserve * (total - liquidity) ≤ balance * (total - liquidity) := Nat.mul_le_mul_right _ hle
    _ = balance * total - liquidity * balance := by rw [Nat.mul_sub, Nat.mul_comm liquidity]
    _ ≤ left * total := by omega

/-- With the minimum locked, the pair never holds all of its LP. -/
theorem SharesSound.own_lt (h : SharesSound c self p) (hpos : 0 < p.totalSupply) :
    c.tokens.balanceOf self self < p.totalSupply := by
  have hpair : c.tokens.balanceOf self self + c.tokens.balanceOf self Address.zero ≤
      p.totalSupply := by
    rw [← h.supply, ← Finset.sum_pair (f := c.tokens.balanceOf self) h.address]
    exact Finset.sum_le_univ_sum_of_nonneg fun _ => Nat.zero_le _
  have hminimum := h.minimum hpos
  have : 0 < MINIMUM_LIQUIDITY := by decide
  omega

theorem lpBurn_redeemed {value : Nat} (hp : c.pairs self = some p)
    (hshares : SharesSound c self p) (h : FluxSwapERC20.burn c self self value = .ok c') :
    Frame self c c' ∧ c'.pairs self = some { p with totalSupply := p.totalSupply - value } ∧
      (∀ t, t ≠ self → c'.tokens.balanceOf t self = c.tokens.balanceOf t self) ∧
      SharesSound c' self { p with totalSupply := p.totalSupply - value } := by
  obtain ⟨q, hq, hmine, hle, hframe, hp', htokens⟩ := lpBurn_spec h
  obtain rfl := Option.some.inj (hp.symm.trans hq)
  refine ⟨hframe, hp', fun t ht => ?_, hshares.address, hshares.tokens_ne, hshares.token0_ne,
    hshares.token1_ne, ?_, ?_, fun hpos => ?_⟩
  · rw [htokens, Ledger.balanceOf_debit_of_token_ne _ _ _ _ ht]
  · rw [hframe.allowance]
    exact hshares.allowance
  · have hsum := Ledger.sum_balanceOf_debit c.tokens self self value hmine
    rw [hshares.supply] at hsum
    rw [htokens]
    exact Nat.eq_sub_of_add_eq hsum
  · exact (hshares.minimum (Nat.lt_of_lt_of_le hpos (Nat.sub_le _ _))).trans
      (hframe.balance _ _ hshares.address.symm)

theorem burn_acts {amounts : Nat × Nat} (hs : Sound c)
    (h : burn self sender dst c = .ok (c', amounts)) : Acts self c c' := by
  refine lock_acts hs (fun c₀ p c₁ hp hsettled hbody => ?_) h
  simp only [bind_eq_ok, Chain.pairAt_eq_ok, hp, Option.some.injEq, Uint256.mul_eq_ok,
    Uint256.div_eq_ok, require_eq_ok, pure_eq_ok, Prod.mk.injEq] at hbody
  obtain ⟨_, rfl, _, ⟨-, rfl⟩, _, ⟨hT, rfl⟩, _, ⟨-, rfl⟩, _, ⟨-, rfl⟩, _, -, c₂, hburn, c₃, hpay0,
    c₄, hpay1, c₅, hupdate, rfl, -⟩ := hbody
  obtain ⟨hframe₂, hp₂, hheld, hshares₂⟩ := lpBurn_redeemed hp hsettled.toSharesSound hburn
  have hpaid0 := safeTransfer_paid hpay0
  have hpaid1 := safeTransfer_paid hpay1
  have hp₄ := hp₂
  rw [← hpaid0.storage, ← hpaid1.storage] at hp₄
  obtain ⟨p₅, hp₅, hsettled₅, hsame, hr0, hr1, hframe⟩ :=
    update_settled hp₄ ((hshares₂.paid hpaid0).paid hpaid1) le_rfl le_rfl hupdate
  refine ⟨p₅, hframe₂.trans (hpaid0.toFrame.trans (hpaid1.toFrame.trans (hframe.trans
    (.emit _ _ _)))), hp₅, hsettled₅.emit _, hsame.token0, hsame.token1, ?_,
    fun hzero => absurd hzero hT⟩
  have hT₅ : p₅.totalSupply = p.totalSupply - c₀.tokens.balanceOf self self := hsame.totalSupply
  -- what is left of each token after the two payments
  have hleft0 := hpaid0.left
  rw [hheld _ hsettled.token0_ne, ← hpaid1.other _ hsettled.tokens_ne] at hleft0
  have hleft1 := hpaid1.left
  rw [hpaid0.other _ hsettled.tokens_ne.symm, hheld _ hsettled.token1_ne] at hleft1
  refine KeepsValue.of_each (fun hpos => ?_) ?_ ?_
  · have hown := hsettled.own_lt hpos
    rw [hT₅]
    omega
  · rw [hT₅, hr0]
    exact burn_value hsettled.covered.1 rfl hleft0
  · rw [hT₅, hr1]
    exact burn_value hsettled.covered.2 rfl hleft1

/-! ## Skim and sync -/

theorem skim_acts (hs : Sound c) (h : skim self dst c = .ok (c', ())) : Acts self c c' := by
  refine lock_acts hs (fun c₀ p c₁ hp hsettled hbody => ?_) h
  simp only [bind_eq_ok, Chain.pairAt_eq_ok, hp, Option.some.injEq, Uint256.sub_eq_ok,
    pure_eq_ok, Prod.mk.injEq, and_true] at hbody
  obtain ⟨_, rfl, _, ⟨hle0, rfl⟩, c₂, hpay0, _, ⟨hle1, rfl⟩, c₃, hpay1, rfl⟩ := hbody
  have hpaid0 := safeTransfer_paid hpay0
  have hpaid1 := safeTransfer_paid hpay1
  have hleft0 := hpaid0.left
  rw [← hpaid1.other _ hsettled.tokens_ne] at hleft0
  have hleft1 := hpaid1.left
  have hcovered : p.reserve0 ≤ c₃.tokens.balanceOf p.token0 self ∧
      p.reserve1 ≤ c₃.tokens.balanceOf p.token1 self := by omega
  refine ⟨p, hpaid0.toFrame.trans hpaid1.toFrame, ?_, ?_, rfl, rfl, .of_eq rfl rfl rfl, .of_eq rfl⟩
  · rw [hpaid1.storage, hpaid0.storage, hp]
  · exact ⟨⟨(hsettled.toSharesSound.paid hpaid0).paid hpaid1, hsettled.fits, fun _ => hcovered⟩,
      hcovered⟩

theorem sync_acts (hs : Sound c) (h : sync self c = .ok (c', ())) : Acts self c c' := by
  refine lock_acts hs (fun c₀ p c₁ hp hsettled hbody => ?_) h
  simp only [bind_eq_ok, Chain.pairAt_eq_ok, hp, Option.some.injEq, pure_eq_ok, Prod.mk.injEq,
    and_true] at hbody
  obtain ⟨_, rfl, c₂, hupdate, rfl⟩ := hbody
  obtain ⟨p', hp', hsettled', hsame, hr0, hr1, hframe⟩ :=
    update_settled hp hsettled.toSharesSound le_rfl le_rfl hupdate
  refine ⟨p', hframe, hp', hsettled', hsame.token0, hsame.token1, KeepsValue.of_each ?_ ?_ ?_,
    .of_eq hsame.totalSupply⟩
  · exact fun hpos => by rw [hsame.totalSupply]; exact hpos
  · rw [hr0, hsame.totalSupply]
    exact Nat.mul_le_mul_right _ hsettled.covered.1
  · rw [hr1, hsame.totalSupply]
    exact Nat.mul_le_mul_right _ hsettled.covered.2

/-! ## Swap -/

/-- What the pair pays in a step of a swap leaves its storage and its LP alone. -/
structure Pays (pair : Address) (c c' : Chain) : Prop extends Frame pair c c' where
  storage : c'.pairs = c.pairs
  shares : ∀ {p}, SharesSound c pair p → SharesSound c' pair p

theorem Paid.pays {token : Address} {value : Nat} (h : Paid self token value c c') :
    Pays self c c' :=
  ⟨h.toFrame, h.storage, fun hs => hs.paid h⟩

theorem Pays.trans {c'' : Chain} (h : Pays self c c') (h' : Pays self c' c'') : Pays self c c'' :=
  ⟨h.toFrame.trans h'.toFrame, h'.storage.trans h.storage, fun hs => h'.shares (h.shares hs)⟩

theorem Pays.emit (c : Chain) (self : Address) (log : Log) : Pays self c (c.emit log) :=
  ⟨.emit c self log, rfl, fun hs => ⟨hs.address, hs.tokens_ne, hs.token0_ne, hs.token1_ne,
    hs.allowance, hs.supply, hs.minimum⟩⟩

theorem sendOutputs_pays {amount0Out amount1Out : Nat}
    (h : sendOutputs c self p amount0Out amount1Out dst = .ok c') : Pays self c c' := by
  simp only [sendOutputs, bind_eq_ok] at h
  obtain ⟨_, -, _, -, _, -, c₁, hpay0, hpay1⟩ := h
  exact (sendPositive_paid hpay0).pays.trans (sendPositive_paid hpay1).pays

/-- The protocol fee lowers the balances by what is paid out at most. -/
theorem payProtocolFee_spec {amount0In amount1In balance0 balance1 balance0' balance1' fee : Nat}
    (hne : p.token0 ≠ p.token1) (h0 : balance0 ≤ c.tokens.balanceOf p.token0 self)
    (h1 : balance1 ≤ c.tokens.balanceOf p.token1 self)
    (h : payProtocolFee c self p amount0In amount1In balance0 balance1 =
      .ok (c', balance0', balance1', fee)) :
    Pays self c c' ∧ balance0' ≤ c'.tokens.balanceOf p.token0 self ∧
      balance1' ≤ c'.tokens.balanceOf p.token1 self := by
  unfold payProtocolFee at h
  split at h
  · simp only [bind_eq_ok, Uint256.mul_eq_ok, Uint256.sub_eq_ok, pure_eq_ok, Prod.mk.injEq] at h
    obtain ⟨_, ⟨-, rfl⟩, _, ⟨-, rfl⟩, c₁, hpay0, c₂, hpay1, _, ⟨hle0, rfl⟩, _, ⟨hle1, rfl⟩, rfl,
      rfl, rfl, -⟩ := h
    have hpaid0 := sendPositive_paid hpay0
    have hpaid1 := sendPositive_paid hpay1
    have hleft0 := hpaid0.left
    rw [← hpaid1.other _ hne] at hleft0
    have hleft1 := hpaid1.left
    rw [hpaid0.other _ hne.symm] at hleft1
    split
    · exact ⟨(hpaid0.pays.trans hpaid1.pays).trans (.emit _ _ _),
        by rw [Chain.emit_tokens]; omega, by rw [Chain.emit_tokens]; omega⟩
    · exact ⟨hpaid0.pays.trans hpaid1.pays, by omega, by omega⟩
  · simp only [pure_eq_ok, Prod.mk.injEq] at h
    obtain ⟨rfl, rfl, rfl, -⟩ := h
    exact ⟨⟨.refl _ _, rfl, fun hs => hs⟩, h0, h1⟩

/-- The check of K on the adjusted balances bounds the balances themselves. -/
theorem checkK_le {amount0In amount1In balance0 balance1 fee : Nat} {u : Unit}
    (h : checkK p amount0In amount1In balance0 balance1 fee = .ok u) :
    p.reserve0 * p.reserve1 ≤ balance0 * balance1 := by
  simp only [checkK, bind_eq_ok, Uint256.mul_eq_ok, Uint256.sub_eq_ok, require_eq_ok] at h
  obtain ⟨_, ⟨-, rfl⟩, _, ⟨-, rfl⟩, _, ⟨-, rfl⟩, _, ⟨-, rfl⟩, _, ⟨-, rfl⟩, _, ⟨-, rfl⟩, _, ⟨-, rfl⟩,
    _, ⟨-, rfl⟩, _, ⟨-, rfl⟩, hK⟩ := h
  have hbase : 0 < FEE_BPS_BASE ^ 2 := by decide
  refine Nat.le_of_mul_le_mul_right (hK.trans ?_) hbase
  calc (balance0 * FEE_BPS_BASE - amount0In * fee) * (balance1 * FEE_BPS_BASE - amount1In * fee)
      ≤ balance0 * FEE_BPS_BASE * (balance1 * FEE_BPS_BASE) :=
        Nat.mul_le_mul (Nat.sub_le _ _) (Nat.sub_le _ _)
    _ = balance0 * balance1 * FEE_BPS_BASE ^ 2 := by ring

/-- The last part of a swap settles the pair at reserves with no smaller product. -/
theorem takeInputs_spec {amount0Out amount1Out : Nat} {q : Pair} (hq : c.pairs self = some q)
    (hshares : SharesSound c self q) (h0 : q.token0 = p.token0) (h1 : q.token1 = p.token1)
    (h : takeInputs c self sender p amount0Out amount1Out dst = .ok c') :
    ∃ p', Frame self c c' ∧ c'.pairs self = some p' ∧ Settled c' self p' ∧ SameShares q p' ∧
      p.reserve0 * p.reserve1 ≤ p'.reserve0 * p'.reserve1 := by
  simp only [takeInputs, bind_eq_ok, require_eq_ok, pure_eq_ok] at h
  obtain ⟨_, -, ⟨c₁, balance0, balance1, fee⟩, hfee, _, hK, c₂, hupdate, rfl⟩ := h
  have hne : p.token0 ≠ p.token1 := by
    rw [← h0, ← h1]
    exact hshares.tokens_ne
  obtain ⟨hpays, hle0, hle1⟩ := payProtocolFee_spec hne le_rfl le_rfl hfee
  rw [← h0] at hle0
  rw [← h1] at hle1
  obtain ⟨p', hp', hsettled, hsame, hr0, hr1, hframe⟩ := update_settled
    (by rw [hpays.storage]; exact hq) (hpays.shares hshares) hle0 hle1 hupdate
  refine ⟨p', hpays.toFrame.trans (hframe.trans (.emit _ _ _)), hp', hsettled.emit _, hsame, ?_⟩
  rw [hr0, hr1]
  exact checkK_le hK

/-- Up to its callback a swap locks the pair and pays: every pair is still sound. -/
theorem enterSwap_spec {amount0Out amount1Out : Nat} (hs : Sound c)
    (h : enterSwap c self amount0Out amount1Out dst = .ok c') :
    ∃ p, c.pairs self = some p ∧ p.unlocked = 1 ∧ Frame self c c' ∧
      c'.pairs self = some { p with unlocked := 0 } ∧ Sound c' := by
  simp only [enterSwap, bind_eq_ok, Chain.pairAt_eq_ok, require_eq_ok] at h
  obtain ⟨p, hp, _, hopen, hsend⟩ := h
  have hsound := hs self p hp
  have hpays := sendOutputs_pays hsend
  have hframe := (Frame.setPair c self { p with unlocked := 0 }).trans hpays.toFrame
  have hp' : c'.pairs self = some { p with unlocked := 0 } := by
    rw [hpays.storage]
    simp
  refine ⟨p, hp, hopen, hframe, hp', fun pair q hq => ?_⟩
  by_cases hne : pair = self
  · subst hne
    obtain rfl := Option.some.inj (hp'.symm.trans hq)
    refine ⟨hpays.shares ?_, hsound.fits, fun hunlocked => absurd hunlocked Nat.zero_ne_one⟩
    exact ⟨hsound.address, hsound.tokens_ne, hsound.token0_ne, hsound.token1_ne, hsound.allowance,
      hsound.supply, hsound.minimum⟩
  · rw [hframe.pairs pair hne] at hq
    exact (hs pair q hq).frame hne hsound.address hframe

/-- A swap keeps every pair, if its callback does. -/
theorem swap_keeps {amount0Out amount1Out : Nat} {callback : Chain → Exec Chain} (hs : Sound c)
    (hcallback : ∀ c₁ c₂, Sound c₁ → callback c₁ = .ok c₂ → Keeps c₁ c₂)
    (h : swap self sender amount0Out amount1Out dst callback c = .ok (c', ())) : Keeps c c' := by
  obtain ⟨p, c₃, p₃, hp, hopen, hbody, hp₃, rfl⟩ := lock_spec h
  simp only [bind_eq_ok, Chain.pairAt_eq_ok, Chain.setPair_pairs, Function.update_self,
    Option.some.injEq, pure_eq_ok, Prod.mk.injEq, and_true] at hbody
  obtain ⟨_, rfl, c₁, hsend, c₂, hrun, c₃', htake, rfl⟩ := hbody
  have henter : enterSwap c self amount0Out amount1Out dst = .ok c₁ := by
    simp only [enterSwap, bind_eq_ok, Chain.pairAt_eq_ok, require_eq_ok]
    exact ⟨p, hp, (), hopen, hsend⟩
  obtain ⟨q, hq, -, hframe₁, hp₁, hsound₁⟩ := enterSwap_spec hs henter
  obtain rfl := Option.some.inj (hp.symm.trans hq)
  have hmid := hcallback c₁ c₂ hsound₁ hrun
  -- the callback finds the pair locked, so it cannot touch its reserves or its supply
  obtain ⟨p₂, hp₂, hadv⟩ := hmid.advance self _ hp₁
  obtain ⟨hr0, hr1, hT, -⟩ := hadv.frozen Nat.zero_ne_one
  obtain ⟨p', hframe₃, hp', hsettled, hsame, hK⟩ := takeInputs_spec hp₂
    (hmid.sound self p₂ hp₂).toSharesSound hadv.token0 hadv.token1 htake
  obtain rfl := Option.some.inj (hp₃.symm.trans hp')
  refine .enclose hframe₁ hmid (hframe₃.trans (.setPair _ _ _)) hp (by simp)
    (hsettled.setUnlocked 1).toPairSound ?_
  have hT₃ : p₃.totalSupply = p.totalSupply := hsame.totalSupply.trans hT
  refine ⟨hsame.token0.trans hadv.token0, hsame.token1.trans hadv.token1, hopen.symm,
    fun hpos => ?_, .of_eq hT₃, fun hlocked => absurd hopen hlocked⟩
  refine ⟨by rw [← hT₃] at hpos; exact hpos, ?_⟩
  rw [show ({ p₃ with unlocked := 1 } : Pair).totalSupply = p.totalSupply from hT₃]
  exact Nat.mul_le_mul_right _ hK

/-! ## Transactions of other accounts -/

/-- No pair acted: what happened to the tokens and to the nonces of LP tokens cannot
    hurt a pair. -/
structure Outside (c c' : Chain) : Prop where
  pairs : ∀ pair p, c.pairs pair = some p →
    ∃ nonces, c'.pairs pair = some { p with nonces := nonces }
  absent : ∀ pair, c.pairs pair = none → c'.pairs pair = none
  total : ∀ t, ∑ a, c'.tokens.balanceOf t a = ∑ a, c.tokens.balanceOf t a
  balance : ∀ pair p, c.pairs pair = some p →
    (∀ t s, c.tokens.allowance t pair s = 0) →
    ∀ t, c.tokens.balanceOf t pair ≤ c'.tokens.balanceOf t pair
  locked : ∀ pair p, c.pairs pair = some p →
    c.tokens.balanceOf pair Address.zero ≤ c'.tokens.balanceOf pair Address.zero
  allowance : ∀ pair p, c.pairs pair = some p →
    (∀ t s, c.tokens.allowance t pair s = 0) → ∀ t s, c'.tokens.allowance t pair s = 0

theorem Outside.keeps (hs : Sound c) (h : Outside c c') : Keeps c c' := by
  refine ⟨fun pair q hq => ?_, fun pair p hp => ?_, h.absent⟩
  · cases hp : c.pairs pair with
    | none =>
      rw [h.absent pair hp] at hq
      cases hq
    | some p =>
      obtain ⟨nonces, hp'⟩ := h.pairs pair p hp
      obtain rfl := Option.some.inj (hp'.symm.trans hq)
      have hsound := hs pair p hp
      have hbalance := h.balance pair p hp hsound.allowance
      refine ⟨⟨hsound.address, hsound.tokens_ne, hsound.token0_ne, hsound.token1_ne,
        h.allowance pair p hp hsound.allowance, ?_, fun hpos => ?_⟩, hsound.fits, fun hopen => ?_⟩
      · rw [h.total]
        exact hsound.supply
      · exact (hsound.minimum hpos).trans (h.locked pair p hp)
      · exact ⟨(hsound.backed hopen).1.trans (hbalance _), (hsound.backed hopen).2.trans (hbalance _)⟩
  · obtain ⟨nonces, hp'⟩ := h.pairs pair p hp
    exact ⟨_, hp', rfl, rfl, rfl, .of_eq rfl rfl rfl, .of_eq rfl,
      fun _ => ⟨rfl, rfl, rfl, h.balance pair p hp (hs pair p hp).allowance⟩⟩

theorem callTransfer_outside {token : Address} {sender : Sender} {value : Nat}
    (h : callTransfer c token sender dst value = .ok c') : Outside c c' := by
  simp only [callTransfer, bind_eq_ok, require_eq_ok] at h
  obtain ⟨_, hnone, h⟩ := h
  split at h
  · rename_i c₁ hmove
    obtain rfl := pure_eq_ok.mp h
    obtain ⟨⟨hle, -⟩, rfl⟩ := Chain.transfer_eq_some.mp hmove
    refine ⟨fun pair p hp => ⟨p.nonces, hp⟩, fun _ hp => hp, ?_, fun pair p hp _ t => ?_,
      fun pair p hp => ?_, fun _ _ _ hzero => hzero⟩
    · exact c.tokens.sum_balanceOf_move token sender.1 dst value hle
    · refine c.tokens.balanceOf_le_move token sender.1 dst value ?_ t
      rintro rfl
      rw [hnone] at hp
      cases hp
    · exact c.tokens.balanceOf_le_move token sender.1 dst value sender.2.symm pair
  · cases h

theorem callTransferFrom_outside {token src : Address} {sender : Sender} {value : Nat}
    (h : callTransferFrom c token sender src dst value = .ok c') : Outside c c' := by
  simp only [callTransferFrom, bind_eq_ok, require_eq_ok] at h
  obtain ⟨_, hnone, h⟩ := h
  split at h
  · rename_i c₁ hmove
    obtain rfl := pure_eq_ok.mp h
    -- a plain transfer: pairs and shares stay, balances move
    have hfrom := Chain.transferFrom_spec hmove
    refine ⟨fun pair p hp => ⟨p.nonces, by rw [hfrom.pairs]; exact hp⟩,
      fun _ hp => by rw [hfrom.pairs]; exact hp, fun t => ?_, fun pair p hp hzero t => ?_,
      fun pair p hp => ?_, fun pair p hp hzero t s => hfrom.zeros t pair s (hzero t s)⟩
    · rw [hfrom.balances]
      exact c.tokens.sum_balanceOf_move token src dst value hfrom.enough t
    · -- a pair approved nobody, so only nothing can be taken from it
      rw [hfrom.balances]
      by_cases hsrc : pair = src
      · subst hsrc
        have hvalue : value = 0 := by
          have hallowed := hfrom.allowed
          rw [hzero] at hallowed
          rcases hallowed with hmax | hle
          · exact absurd hmax (by decide)
          · omega
        subst hvalue
        simp only [Ledger.balanceOf_move]
        split
        · rename_i heq
          subst heq
          split <;> omega
        · exact le_rfl
      · exact c.tokens.balanceOf_le_move token src dst value hsrc t
    · rw [hfrom.balances]
      by_cases htoken : pair = token
      · subst htoken
        exact c.tokens.balanceOf_le_move _ _ _ _ (hfrom.source ⟨p, hp⟩).symm _
      · exact (c.tokens.balanceOf_move_of_token_ne token src dst value htoken _).ge
  · cases h

/-- Setting an allowance of an owner that is not a pair. -/
theorem approve_outside {owner : Address} (howner : c.pairs owner = none)
    (token spender : Address) (value : Nat) (logs : List Log) :
    Outside c { c with tokens := c.tokens.approve token owner spender value, logs := logs } := by
  refine ⟨fun pair p hp => ⟨p.nonces, hp⟩, fun _ hp => hp, fun _ => rfl, fun _ _ _ _ _ => le_rfl,
    fun _ _ _ => le_rfl, fun pair p hp hzero t s => ?_⟩
  have hne : pair ≠ owner := by
    rintro rfl
    rw [howner] at hp
    cases hp
  simpa [Ledger.approve, hne] using hzero t s

theorem lpApprove_eq {owner spender : Address} {value : Nat}
    (h : FluxSwapERC20.approve c self owner spender value = .ok c') :
    ∃ logs, c' = { c with tokens := c.tokens.approve self owner spender value, logs := logs } := by
  simp only [FluxSwapERC20.approve, bind_eq_ok, require_eq_ok, pure_eq_ok] at h
  obtain ⟨_, -, _, -, rfl⟩ := h
  exact ⟨_, rfl⟩

theorem callApprove_outside {token spender : Address} {value : Nat}
    (h : callApprove c token sender spender value = .ok c') : Outside c c' := by
  simp only [callApprove, bind_eq_ok, require_eq_ok] at h
  obtain ⟨_, hnone, h⟩ := h
  split at h
  · obtain ⟨logs, rfl⟩ := lpApprove_eq h
    exact approve_outside hnone _ _ _ _
  · obtain rfl := pure_eq_ok.mp h
    exact approve_outside hnone _ _ _ _

theorem callPermit_outside {owner spender recovered : Address} {value deadline : Nat}
    (h : callPermit c self owner spender value deadline recovered = .ok c') : Outside c c' := by
  simp only [callPermit, FluxSwapERC20.permit, bind_eq_ok, require_eq_ok, Chain.pairAt_eq_ok] at h
  obtain ⟨_, hnone, _, -, p, hp, nonce, -, _, ⟨-, rfl⟩, happrove⟩ := h
  obtain ⟨logs, rfl⟩ := lpApprove_eq happrove
  have happroved := approve_outside hnone self spender value logs
  refine ⟨fun pair q hq => ?_, fun pair hq => ?_, happroved.total, happroved.balance,
    happroved.locked, happroved.allowance⟩
  · by_cases hne : pair = self
    · subst hne
      obtain rfl := Option.some.inj (hp.symm.trans hq)
      exact ⟨Function.update p.nonces recovered nonce, by simp⟩
    · exact ⟨q.nonces, by simp [hne, hq]⟩
  · have hne : pair ≠ self := by
      rintro rfl
      rw [hp] at hq
      cases hq
    simpa [hne] using hq

theorem environment_outside (c : Chain) (treasury : Address) (timestamp : Nat) :
    Outside c { c with treasury := treasury, timestamp := timestamp } :=
  ⟨fun _ p hp => ⟨p.nonces, hp⟩, fun _ hp => hp, fun _ => rfl, fun _ _ _ _ _ => le_rfl,
    fun _ _ _ => le_rfl, fun _ _ _ hzero => hzero⟩

/-! ## Every transaction and every run -/

mutual

/-- The step lemma: a transaction, with all the callbacks in it, keeps every pair. -/
theorem exec_keeps : (op : Op) → (c c' : Chain) → Sound c → exec op c = .ok c' → Keeps c c'
  | .mint pair sender dst, c, c', hs, h => by
    simp only [exec, bind_eq_ok, pure_eq_ok] at h
    obtain ⟨⟨c₁, liquidity⟩, hrun, rfl⟩ := h
    exact (mint_acts hs hrun).keeps hs
  | .burn pair sender dst, c, c', hs, h => by
    simp only [exec, bind_eq_ok, pure_eq_ok] at h
    obtain ⟨⟨c₁, amounts⟩, hrun, rfl⟩ := h
    exact (burn_acts hs hrun).keeps hs
  | .swap pair sender amount0Out amount1Out dst callback, c, c', hs, h => by
    simp only [exec, bind_eq_ok, pure_eq_ok] at h
    obtain ⟨⟨c₁, u⟩, hrun, rfl⟩ := h
    exact swap_keeps hs (fun c₁ c₂ => execAll_keeps callback c₁ c₂) hrun
  | .skim pair dst, c, c', hs, h => by
    simp only [exec, bind_eq_ok, pure_eq_ok] at h
    obtain ⟨⟨c₁, u⟩, hrun, rfl⟩ := h
    exact (skim_acts hs hrun).keeps hs
  | .sync pair, c, c', hs, h => by
    simp only [exec, bind_eq_ok, pure_eq_ok] at h
    obtain ⟨⟨c₁, u⟩, hrun, rfl⟩ := h
    exact (sync_acts hs hrun).keeps hs
  | .transfer token sender dst value, c, c', hs, h => by
    rw [exec] at h
    exact (callTransfer_outside h).keeps hs
  | .transferFrom token sender src dst value, c, c', hs, h => by
    rw [exec] at h
    exact (callTransferFrom_outside h).keeps hs
  | .approve token sender spender value, c, c', hs, h => by
    rw [exec] at h
    exact (callApprove_outside h).keeps hs
  | .permit pair owner spender value deadline recovered, c, c', hs, h => by
    rw [exec] at h
    exact (callPermit_outside h).keeps hs
  | .setTreasury treasury, c, c', hs, h => by
    rw [exec] at h
    obtain rfl := pure_eq_ok.mp h
    exact (environment_outside c treasury c.timestamp).keeps hs
  | .advanceTime seconds, c, c', hs, h => by
    rw [exec] at h
    obtain rfl := pure_eq_ok.mp h
    exact (environment_outside c c.treasury _).keeps hs

theorem execAll_keeps : (ops : List Op) → (c c' : Chain) → Sound c → execAll ops c = .ok c' →
    Keeps c c'
  | [], c, c', hs, h => by
    rw [execAll] at h
    obtain rfl := pure_eq_ok.mp h
    exact .refl hs
  | op :: ops, c, c', hs, h => by
    rw [execAll] at h
    obtain ⟨c₁, hop, hops⟩ := bind_eq_ok.mp h
    have hkeeps := exec_keeps op c c₁ hs hop
    exact hkeeps.trans (execAll_keeps ops c₁ c' hkeeps.sound hops)

end

/-- The run lemma: every pair is sound in every state of every run. -/
theorem reachable_sound (h : system.Reachable c) : Sound c := by
  refine System.Reachable.invariant (I := Sound) ?_ ?_ h
  · exact fun c hinit pair p hp => (hinit pair p hp).sound
  · intro c m c' hs hstep
    cases m with
    | op op => exact (exec_keeps op c c' hs hstep).sound
    | enter pair amount0Out amount1Out dst =>
      obtain ⟨p, -, -, -, -, hsound⟩ := enterSwap_spec hs hstep
      exact hsound

/-- In every state of every run, also inside callbacks, every successful transaction
    leaves each pair that has LP with a supply and reserves per share that did not
    fall: `r0' * r1' * T ^ 2 ≥ r0 * r1 * T' ^ 2`. -/
theorem shareValue_never_falls (hreach : system.Reachable c) {op : Op} (h : exec op c = .ok c')
    {pair : Address} (hp : c.pairs pair = some p) (hpos : 0 < p.totalSupply) :
    ∃ p', c'.pairs pair = some p' ∧ 0 < p'.totalSupply ∧
      p.reserve0 * p.reserve1 * p'.totalSupply ^ 2 ≤
        p'.reserve0 * p'.reserve1 * p.totalSupply ^ 2 := by
  obtain ⟨p', hp', hadv⟩ := (exec_keeps op c c' (reachable_sound hreach) h).advance pair p hp
  exact ⟨p', hp', hadv.value hpos⟩

/-! ## A flash swap -/

namespace Example

def pair : Address := 1
def alice : Sender := ⟨2, by decide⟩
def treasury : Address := 3
def token0 : Address := 4
def token1 : Address := 5

/-- One fresh pair; everybody else is rich. -/
def start : Chain where
  tokens := {
    balanceOf := fun t a => if t = pair ∨ a = pair then 0 else 10 ^ 9
    allowance := fun _ _ _ => 0
    refuses := fun _ _ => false }
  eth := fun _ => 0
  timestamp := 100
  treasury := treasury
  getPair := fun _ _ => pair
  pairs := fun a => if a = pair then
      some {
        token0 := token0
        token1 := token1
        reserve0 := 0
        reserve1 := 0
        blockTimestampLast := 0
        price0CumulativeLast := 0
        price1CumulativeLast := 0
        unlocked := 1
        totalSupply := 0
        nonces := fun _ => 0 }
    else none
  logs := []

theorem start_initial : Initial start := by
  intro a p hp
  simp only [start] at hp
  split at hp
  · rename_i ha
    subst ha
    obtain rfl := Option.some.inj hp
    exact ⟨by decide, by decide, by decide, by decide, rfl, rfl, rfl, rfl, fun a => by simp [start],
      fun _ _ => rfl⟩
  · cases hp

/-- The first deposit. -/
def deposit : List Move :=
  [.op (.transfer token0 alice pair (10 ^ 6)), .op (.transfer token1 alice pair (4 * 10 ^ 6)),
    .op (.mint pair alice alice)]

/-- A swap whose receiver pays for it in the callback. -/
def flashSwap : Op := .swap pair alice 0 30000 alice [.transfer token0 alice pair 20000]

/-- The supply before an operation and the reserves after it. -/
def outcome (op : Op) (c : Chain) : Option (Nat × Nat × Nat) :=
  match c.pairs pair, exec op c with
  | some p, .ok c' => (c'.pairs pair).map fun p' => (p.totalSupply, p'.reserve0, p'.reserve1)
  | _, _ => none

end Example

open Example in
theorem shareValue_never_falls_flashSwap :
    ∃ c c' p p', system.Reachable c ∧ exec flashSwap c = .ok c' ∧ c.pairs pair = some p ∧
      p.totalSupply = 2 * 10 ^ 6 ∧ c'.pairs pair = some p' ∧ 0 < p'.totalSupply ∧
      p.reserve0 * p.reserve1 * p'.totalSupply ^ 2 ≤
        p'.reserve0 * p'.reserve1 * p.totalSupply ^ 2 := by
  have hrun : (System.runWith move (fun _ _ => True) start deposit).bind (outcome flashSwap) =
      some (2 * 10 ^ 6, 1019990, 3970000) := by
    decide +kernel
  obtain ⟨c, hc, houtcome⟩ := Option.bind_eq_some_iff.mp hrun
  have hreach : system.Reachable c := System.reachableWith_of_runWith (.init start_initial) hc
  unfold outcome at houtcome
  split at houtcome
  · rename_i p c' hp hswap
    obtain ⟨p', hp', heq⟩ := Option.map_eq_some_iff.mp houtcome
    have hT : p.totalSupply = 2 * 10 ^ 6 := congrArg Prod.fst heq
    obtain ⟨q, hq, hvalue⟩ := shareValue_never_falls hreach hswap hp (by rw [hT]; decide)
    exact ⟨c, c', p, q, hreach, hswap, hp, hT, hq, hvalue⟩
  · cases houtcome

end FluxSwapPair
