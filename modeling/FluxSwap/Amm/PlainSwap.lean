-- SUMMARY: Swaps without a callback: exactly when they succeed, and what they move.
import FluxSwap.Amm.PairSound

/-!
# Plain swaps

A swap without a callback is a function of the balances. Here its checks are
turned into conditions on the chain before the swap: the outputs fit, the token
admits the receiver, the fee-adjusted balances keep K, the balances fit into
112 bits and the pair's clock can move on.
-/

open Exec

namespace FluxSwapPair

variable {c c' : Chain} {self sender dst : Address} {p p' : Pair}

/-! ## Payments -/

/-- The chain after a payment that is left out when its value is zero. -/
def paidOut (c : Chain) (self token dst : Address) (value : Nat) : Chain :=
  if 0 < value then c.moved token self dst value else c

theorem sendPositive_eq_ok {token : Address} {value : Nat} :
    sendPositive c self token dst value = .ok c' ↔
      (0 < value → value ≤ c.tokens.balanceOf token self ∧ c.admits token self dst = true) ∧
        paidOut c self token dst value = c' := by
  unfold sendPositive paidOut
  split
  · rw [safeTransfer_eq_ok, Chain.transfer_eq_some]
    simp_all
  · simp_all

theorem paidOut_tokens (c : Chain) (self token dst : Address) (value : Nat) :
    (paidOut c self token dst value).tokens = c.tokens.move token self dst value := by
  unfold paidOut
  split
  · rfl
  · have hzero : value = 0 := by omega
    subst hzero
    exact (Ledger.move_zero _ _ _ _).symm

@[simp] theorem paidOut_pairs (c : Chain) (self token dst : Address) (value : Nat) :
    (paidOut c self token dst value).pairs = c.pairs := by
  unfold paidOut
  split <;> rfl

@[simp] theorem paidOut_treasury (c : Chain) (self token dst : Address) (value : Nat) :
    (paidOut c self token dst value).treasury = c.treasury := by
  unfold paidOut
  split <;> rfl

@[simp] theorem paidOut_timestamp (c : Chain) (self token dst : Address) (value : Nat) :
    (paidOut c self token dst value).timestamp = c.timestamp := by
  unfold paidOut
  split <;> rfl

theorem paidOut_env (c : Chain) (self token dst : Address) (value : Nat) :
    SameEnv c (paidOut c self token dst value) := by
  unfold paidOut
  split <;> exact ⟨rfl, rfl, rfl, rfl, rfl⟩

theorem paidOut_admits (c : Chain) (self token dst : Address) (value : Nat) (t src a : Address) :
    (paidOut c self token dst value).admits t src a = c.admits t src a := by
  unfold paidOut
  split <;> rfl

/-! ## The clock -/

/-- The pair's clock can move on at `timestamp`: the 32-bit time has not wrapped since
    the last update, and the price accumulators have room. -/
structure ClockRuns (timestamp reserve0 reserve1 : Nat) (p : Pair) : Prop where
  forward : p.blockTimestampLast ≤ timestamp % 2 ^ 32
  room : p.blockTimestampLast < timestamp % 2 ^ 32 →
    p.price0CumulativeLast + UQ112x112.uqdiv (UQ112x112.encode reserve1) reserve0 *
        (timestamp % 2 ^ 32 - p.blockTimestampLast) ≤ Uint256.max ∧
      p.price1CumulativeLast + UQ112x112.uqdiv (UQ112x112.encode reserve0) reserve1 *
        (timestamp % 2 ^ 32 - p.blockTimestampLast) ≤ Uint256.max

theorem accumulate_isOk_iff {reserve0 reserve1 timeElapsed : Nat} (h0 : reserve0 ≠ 0)
    (h1 : reserve1 ≠ 0) :
    (∃ p', accumulate p reserve0 reserve1 timeElapsed = .ok p') ↔
      (0 < timeElapsed →
        p.price0CumulativeLast + UQ112x112.uqdiv (UQ112x112.encode reserve1) reserve0 *
          timeElapsed ≤ Uint256.max ∧
        p.price1CumulativeLast + UQ112x112.uqdiv (UQ112x112.encode reserve0) reserve1 *
          timeElapsed ≤ Uint256.max) := by
  unfold accumulate
  by_cases hpos : 0 < timeElapsed
  · rw [if_pos ⟨hpos, h0, h1⟩]
    simp only [bind_eq_ok, Uint256.mul_eq_ok, Uint256.add_eq_ok, pure_eq_ok]
    constructor
    · rintro ⟨_, _, ⟨-, rfl⟩, _, ⟨hfit0, rfl⟩, _, ⟨-, rfl⟩, _, ⟨hfit1, rfl⟩, -⟩ _
      exact ⟨hfit0, hfit1⟩
    · intro hfits
      obtain ⟨hfit0, hfit1⟩ := hfits hpos
      exact ⟨_, _, ⟨by omega, rfl⟩, _, ⟨hfit0, rfl⟩, _, ⟨by omega, rfl⟩, _, ⟨hfit1, rfl⟩, rfl⟩
  · rw [if_neg fun h => hpos h.1]
    simp [hpos]

theorem update_isOk_iff {balance0 balance1 reserve0 reserve1 : Nat} (hp : c.pairs self = some p)
    (h0 : reserve0 ≠ 0) (h1 : reserve1 ≠ 0) :
    (∃ c', update c self balance0 balance1 reserve0 reserve1 = .ok c') ↔
      (balance0 ≤ maxUint112 ∧ balance1 ≤ maxUint112) ∧
        ClockRuns c.timestamp reserve0 reserve1 p := by
  simp only [update, bind_eq_ok, require_eq_ok, Chain.pairAt_eq_ok, hp, Option.some.injEq,
    Uint256.sub_eq_ok, pure_eq_ok]
  constructor
  · rintro ⟨_, _, hfits, _, rfl, _, ⟨hforward, rfl⟩, p₁, haccumulate, -⟩
    have hroom := (accumulate_isOk_iff h0 h1).mp ⟨p₁, haccumulate⟩
    exact ⟨hfits, hforward, fun hlt => hroom (by omega)⟩
  · rintro ⟨hfits, hclock⟩
    obtain ⟨p₁, haccumulate⟩ := (accumulate_isOk_iff h0 h1).mpr
      fun hpos => hclock.room (by omega)
    exact ⟨_, (), hfits, p, rfl, _, ⟨hclock.forward, rfl⟩, p₁, haccumulate, rfl⟩

/-! ## Fees and K -/

/-- The part of an input that goes to the treasury. -/
def protocolFee (c : Chain) (amountIn : Nat) : Nat :=
  if c.treasury ≠ Address.zero then amountIn * PROTOCOL_SWAP_FEE_BPS / FEE_BPS_BASE else 0

/-- The fee that stays with the pool. -/
def poolFeeBps (c : Chain) : Nat :=
  if c.treasury ≠ Address.zero then LP_SWAP_FEE_BPS else TOTAL_SWAP_FEE_BPS

theorem protocolFee_le (c : Chain) (amountIn : Nat) : protocolFee c amountIn ≤ amountIn := by
  unfold protocolFee PROTOCOL_SWAP_FEE_BPS FEE_BPS_BASE
  split <;> omega

/-- The token balances after the protocol fee has left the pair. -/
def feesPaid (c : Chain) (self : Address) (p : Pair) (amount0In amount1In : Nat) : Tokens :=
  (c.tokens.move p.token0 self c.treasury (protocolFee c amount0In)).move p.token1 self c.treasury
    (protocolFee c amount1In)

theorem payProtocolFee_effect
    {amount0In amount1In balance0 balance1 balance0' balance1' fee : Nat}
    (h : payProtocolFee c self p amount0In amount1In balance0 balance1 =
      .ok (c', balance0', balance1', fee)) :
    balance0' = balance0 - protocolFee c amount0In ∧
      balance1' = balance1 - protocolFee c amount1In ∧ fee = poolFeeBps c ∧
      c'.tokens = feesPaid c self p amount0In amount1In ∧ c'.pairs = c.pairs ∧
      SameEnv c c' := by
  unfold payProtocolFee at h
  unfold feesPaid
  by_cases htreasury : c.treasury = Address.zero
  · rw [if_neg (not_not.mpr htreasury)] at h
    simp only [pure_eq_ok, Prod.mk.injEq] at h
    obtain ⟨rfl, rfl, rfl, rfl⟩ := h
    simp [protocolFee, poolFeeBps, htreasury, Ledger.move_zero, SameEnv.refl]
  · rw [if_pos htreasury] at h
    simp only [bind_eq_ok, Uint256.mul_eq_ok, Uint256.sub_eq_ok, sendPositive_eq_ok, pure_eq_ok,
      Prod.mk.injEq] at h
    obtain ⟨_, ⟨-, rfl⟩, _, ⟨-, rfl⟩, _, ⟨-, rfl⟩, _, ⟨-, rfl⟩, _, ⟨-, rfl⟩, _, ⟨-, rfl⟩, rfl, rfl,
      rfl, rfl⟩ := h
    simp only [protocolFee, poolFeeBps, if_pos htreasury, true_and]
    have henv := (paidOut_env c self p.token0 c.treasury
      (amount0In * PROTOCOL_SWAP_FEE_BPS / FEE_BPS_BASE)).trans (paidOut_env _ self p.token1 c.treasury
        (amount1In * PROTOCOL_SWAP_FEE_BPS / FEE_BPS_BASE))
    split
    · exact ⟨by simp [paidOut_tokens], by simp, henv.trans ⟨rfl, rfl, rfl, rfl, rfl⟩⟩
    · exact ⟨by simp [paidOut_tokens], by simp, henv⟩

theorem payProtocolFee_isOk {amount0In amount1In balance0 balance1 : Nat}
    (hne : p.token0 ≠ p.token1) (h0 : amount0In ≤ balance0) (h1 : amount1In ≤ balance1)
    (hb0 : balance0 ≤ c.tokens.balanceOf p.token0 self)
    (hb1 : balance1 ≤ c.tokens.balanceOf p.token1 self)
    (hfit0 : balance0 ≤ maxUint112) (hfit1 : balance1 ≤ maxUint112)
    (hadmits : c.treasury ≠ Address.zero → c.admits p.token0 self c.treasury = true ∧
      c.admits p.token1 self c.treasury = true) :
    ∃ r, payProtocolFee c self p amount0In amount1In balance0 balance1 = .ok r := by
  have hmul : ∀ a, a ≤ maxUint112 → a * PROTOCOL_SWAP_FEE_BPS ≤ Uint256.max := fun a ha =>
    (Nat.mul_le_mul_right _ ha).trans (by decide)
  unfold payProtocolFee
  split
  · rename_i htreasury
    have hfee0 := protocolFee_le c amount0In
    have hfee1 := protocolFee_le c amount1In
    obtain ⟨hadmit0, hadmit1⟩ := hadmits htreasury
    simp only [protocolFee, if_pos htreasury] at hfee0 hfee1
    simp only [bind_eq_ok, Uint256.mul_eq_ok, Uint256.sub_eq_ok, sendPositive_eq_ok, pure_eq_ok]
    refine ⟨_, _, ⟨hmul _ (by omega), rfl⟩, _, ⟨hmul _ (by omega), rfl⟩, _,
      ⟨fun _ => ⟨by omega, hadmit0⟩, rfl⟩, _, ⟨fun _ => ⟨?_, ?_⟩, rfl⟩, _, ⟨by omega, rfl⟩, _,
      ⟨by omega, rfl⟩, rfl⟩
    · rw [paidOut_tokens, Ledger.balanceOf_move_of_token_ne _ _ _ _ _ hne.symm]
      omega
    · rw [paidOut_admits]
      exact hadmit1
  · exact ⟨_, rfl⟩

/-- After both fees one side counts at least what was left plus 9970 parts of the input. -/
theorem adjusted_ge (c : Chain) (left amountIn : Nat) :
    amountIn * poolFeeBps c ≤ (left + amountIn - protocolFee c amountIn) * FEE_BPS_BASE ∧
      left * FEE_BPS_BASE + 9970 * amountIn ≤
        (left + amountIn - protocolFee c amountIn) * FEE_BPS_BASE - amountIn * poolFeeBps c := by
  unfold protocolFee poolFeeBps LP_SWAP_FEE_BPS TOTAL_SWAP_FEE_BPS PROTOCOL_SWAP_FEE_BPS
    FEE_BPS_BASE
  split <;> omega

/-- The check of K passes when the two sides, as `adjusted_ge` bounds them, do. -/
theorem checkK_isOk {left0 left1 amount0In amount1In : Nat}
    (hfit0 : left0 + amount0In ≤ maxUint112) (hfit1 : left1 + amount1In ≤ maxUint112)
    (hres0 : p.reserve0 ≤ maxUint112) (hres1 : p.reserve1 ≤ maxUint112)
    (hK : p.reserve0 * p.reserve1 * FEE_BPS_BASE ^ 2 ≤
      (left0 * FEE_BPS_BASE + 9970 * amount0In) * (left1 * FEE_BPS_BASE + 9970 * amount1In)) :
    checkK p amount0In amount1In (left0 + amount0In - protocolFee c amount0In)
      (left1 + amount1In - protocolFee c amount1In) (poolFeeBps c) = .ok () := by
  obtain ⟨hsub0, hge0⟩ := adjusted_ge c left0 amount0In
  obtain ⟨hsub1, hge1⟩ := adjusted_ge c left1 amount1In
  have hscale : ∀ a, a ≤ maxUint112 → a * FEE_BPS_BASE ≤ Uint256.max := fun a ha =>
    (Nat.mul_le_mul_right _ ha).trans (by decide)
  have hb0 : left0 + amount0In - protocolFee c amount0In ≤ maxUint112 := (Nat.sub_le _ _).trans hfit0
  have hb1 : left1 + amount1In - protocolFee c amount1In ≤ maxUint112 := (Nat.sub_le _ _).trans hfit1
  have hproduct : (left0 + amount0In - protocolFee c amount0In) * FEE_BPS_BASE *
      ((left1 + amount1In - protocolFee c amount1In) * FEE_BPS_BASE) ≤ Uint256.max :=
    (Nat.mul_le_mul (Nat.mul_le_mul_right _ hb0) (Nat.mul_le_mul_right _ hb1)).trans (by decide)
  have hreserves : p.reserve0 * p.reserve1 * FEE_BPS_BASE ^ 2 ≤ Uint256.max :=
    (Nat.mul_le_mul_right _ (Nat.mul_le_mul hres0 hres1)).trans (by decide)
  have hreserves' : p.reserve0 * p.reserve1 ≤ Uint256.max :=
    (Nat.mul_le_mul hres0 hres1).trans (by decide)
  simp only [checkK, bind_eq_ok, Uint256.mul_eq_ok, Uint256.sub_eq_ok, require_eq_ok]
  exact ⟨_, ⟨hscale _ hb0, rfl⟩, _, ⟨hsub0.trans (hscale _ hb0), rfl⟩, _, ⟨hsub0, rfl⟩,
    _, ⟨hscale _ hb1, rfl⟩, _, ⟨hsub1.trans (hscale _ hb1), rfl⟩, _, ⟨hsub1, rfl⟩,
    _, ⟨(Nat.mul_le_mul (Nat.sub_le _ _) (Nat.sub_le _ _)).trans hproduct, rfl⟩,
    _, ⟨hreserves', rfl⟩, _, ⟨hreserves, rfl⟩, hK.trans (Nat.mul_le_mul hge0 hge1)⟩

/-! ## The whole swap -/

theorem amountIn_add (balance reserve amountOut : Nat) (h : reserve - amountOut ≤ balance) :
    reserve - amountOut + amountIn balance reserve amountOut = balance := by
  unfold amountIn
  split <;> omega

/-- What one side of a swap needs: the output leaves some reserve, the balance covers
    the reserve and fits. -/
structure SideReady (reserve balance amountOut : Nat) : Prop where
  out : amountOut < reserve
  covered : reserve ≤ balance
  fits : balance ≤ maxUint112

/-- The conditions on the chain before a plain swap under which nothing but its
    receiver can make it fail. -/
structure SwapReady (c : Chain) (pair : Address) (p : Pair) (amount0Out amount1Out : Nat) :
    Prop where
  storage : c.pairs pair = some p
  tokens_ne : p.token0 ≠ p.token1
  asks : 0 < amount0Out ∨ 0 < amount1Out
  side0 : SideReady p.reserve0 (c.tokens.balanceOf p.token0 pair) amount0Out
  side1 : SideReady p.reserve1 (c.tokens.balanceOf p.token1 pair) amount1Out
  paid : p.reserve0 < c.tokens.balanceOf p.token0 pair ∨
    p.reserve1 < c.tokens.balanceOf p.token1 pair
  product : p.reserve0 * p.reserve1 * FEE_BPS_BASE ^ 2 ≤
    ((p.reserve0 - amount0Out) * FEE_BPS_BASE +
        9970 * (c.tokens.balanceOf p.token0 pair - p.reserve0)) *
      ((p.reserve1 - amount1Out) * FEE_BPS_BASE +
        9970 * (c.tokens.balanceOf p.token1 pair - p.reserve1))
  treasury : c.treasury ≠ Address.zero → c.admits p.token0 pair c.treasury = true ∧
    c.admits p.token1 pair c.treasury = true
  clock : ClockRuns c.timestamp p.reserve0 p.reserve1 p

/-- The receiver can be paid. -/
structure ReceiverReady (c : Chain) (pair : Address) (p : Pair) (amount0Out amount1Out : Nat)
    (dst : Address) : Prop where
  token0_ne : dst ≠ p.token0
  token1_ne : dst ≠ p.token1
  admits0 : 0 < amount0Out → c.admits p.token0 pair dst = true
  admits1 : 0 < amount1Out → c.admits p.token1 pair dst = true

/-- What remains with the pair after it paid the outputs, perhaps to itself. -/
theorem balance_outputs {l : Tokens} {token0 token1 : Address} (dst : Address) (hne : token0 ≠ token1)
    {amount0Out amount1Out : Nat} (h0 : amount0Out ≤ l.balanceOf token0 self)
    (h1 : amount1Out ≤ l.balanceOf token1 self) :
    (let l' := (l.move token0 self dst amount0Out).move token1 self dst amount1Out
     (l.balanceOf token0 self ≤ l'.balanceOf token0 self + amount0Out ∧
       l'.balanceOf token0 self ≤ l.balanceOf token0 self) ∧
     (l.balanceOf token1 self ≤ l'.balanceOf token1 self + amount1Out ∧
       l'.balanceOf token1 self ≤ l.balanceOf token1 self)) := by
  have hne' := hne.symm
  simp only [Ledger.balanceOf_move, hne, hne', if_true, if_false]
  by_cases hdst : self = dst
  · simp only [hdst, if_true]
    rw [← hdst]
    omega
  · simp only [hdst, if_false]
    omega

/-- The chain after the outputs. -/
def outputsPaid (c : Chain) (self : Address) (p : Pair) (amount0Out amount1Out : Nat)
    (dst : Address) : Chain :=
  paidOut (paidOut c self p.token0 dst amount0Out) self p.token1 dst amount1Out

theorem outputsPaid_tokens (c : Chain) (self : Address) (p : Pair) (amount0Out amount1Out : Nat)
    (dst : Address) :
    (outputsPaid c self p amount0Out amount1Out dst).tokens =
      (c.tokens.move p.token0 self dst amount0Out).move p.token1 self dst amount1Out := by
  rw [outputsPaid, paidOut_tokens, paidOut_tokens]

theorem sendOutputs_isOk_iff {amount0Out amount1Out : Nat}
    (h : SwapReady c self p amount0Out amount1Out) :
    sendOutputs c self p amount0Out amount1Out dst = .ok c' ↔
      ReceiverReady c self p amount0Out amount1Out dst ∧
        outputsPaid c self p amount0Out amount1Out dst = c' := by
  have hcov0 := h.side0.covered
  have hcov1 := h.side1.covered
  have hout0 := h.side0.out
  have hout1 := h.side1.out
  unfold outputsPaid
  simp only [sendOutputs, bind_eq_ok, require_eq_ok, sendPositive_eq_ok]
  constructor
  · rintro ⟨_, -, _, -, _, ⟨hd0, hd1⟩, _, ⟨hsend0, rfl⟩, hsend1, rfl⟩
    refine ⟨⟨hd0, hd1, fun hpos => (hsend0 hpos).2, fun hpos => ?_⟩, rfl⟩
    rw [← paidOut_admits c self p.token0 dst amount0Out]
    exact (hsend1 hpos).2
  · rintro ⟨hready, rfl⟩
    refine ⟨(), h.asks, (), ⟨hout0, hout1⟩, (), ⟨hready.token0_ne, hready.token1_ne⟩, _,
      ⟨fun hpos => ⟨by omega, hready.admits0 hpos⟩, rfl⟩, fun hpos => ⟨?_, ?_⟩, rfl⟩
    · rw [paidOut_tokens, Ledger.balanceOf_move_of_token_ne _ _ _ _ _ h.tokens_ne.symm]
      omega
    · rw [paidOut_admits]
      exact hready.admits1 hpos

/-- One side of `product` only grows with what the pair really holds. -/
theorem side_mono {reserve balance amountOut held : Nat} (hready : SideReady reserve balance amountOut)
    (hheld : balance ≤ held + amountOut) :
    (reserve - amountOut) * FEE_BPS_BASE + 9970 * (balance - reserve) ≤
      (reserve - amountOut) * FEE_BPS_BASE + 9970 * amountIn held reserve amountOut := by
  have hout := hready.out
  have hcovered := hready.covered
  have hadd := amountIn_add held reserve amountOut (by omega)
  omega

/-- After the outputs, the rest of a plain swap goes through. -/
theorem takeInputs_isOk {amount0Out amount1Out : Nat} (sender dst : Address)
    (h : SwapReady c self p amount0Out amount1Out) :
    ∃ c', takeInputs (outputsPaid c self p amount0Out amount1Out dst) self sender p amount0Out
      amount1Out dst = .ok c' := by
  have hout0 := h.side0.out
  have hout1 := h.side1.out
  have hcov0 := h.side0.covered
  have hcov1 := h.side1.covered
  have hfit0 := h.side0.fits
  have hfit1 := h.side1.fits
  obtain ⟨⟨hge0, hle0⟩, hge1, hle1⟩ := balance_outputs dst h.tokens_ne
    (hout0.le.trans hcov0) (hout1.le.trans hcov1)
  obtain ⟨c₁, hc₁⟩ : ∃ c₁, c₁ = outputsPaid c self p amount0Out amount1Out dst := ⟨_, rfl⟩
  have hpairs₁ : c₁.pairs = c.pairs := by simp [hc₁, outputsPaid]
  have htreasury : c₁.treasury = c.treasury := by simp [hc₁, outputsPaid]
  have htimestamp : c₁.timestamp = c.timestamp := by simp [hc₁, outputsPaid]
  have hadmits : ∀ t src a, c₁.admits t src a = c.admits t src a := by
    intro t src a
    rw [hc₁, outputsPaid, paidOut_admits, paidOut_admits]
  rw [← outputsPaid_tokens c self p, ← hc₁] at hge0 hle0 hge1 hle1
  rw [← hc₁]
  have hadd0 := amountIn_add (c₁.tokens.balanceOf p.token0 self) p.reserve0 amount0Out (by omega)
  have hadd1 := amountIn_add (c₁.tokens.balanceOf p.token1 self) p.reserve1 amount1Out (by omega)
  -- the receiver may be the pair, so the balances are at least those the product needs
  have hK := h.product.trans (Nat.mul_le_mul (side_mono h.side0 hge0) (side_mono h.side1 hge1))
  have hpositive : 0 < amountIn (c₁.tokens.balanceOf p.token0 self) p.reserve0 amount0Out ∨
      0 < amountIn (c₁.tokens.balanceOf p.token1 self) p.reserve1 amount1Out := by
    rcases h.paid with hpaid | hpaid
    · left; omega
    · right; omega
  -- what the pair pays to the treasury, and then the update
  obtain ⟨⟨c₂, b0, b1, fee⟩, hfee⟩ : ∃ r, payProtocolFee c₁ self p
      (amountIn (c₁.tokens.balanceOf p.token0 self) p.reserve0 amount0Out)
      (amountIn (c₁.tokens.balanceOf p.token1 self) p.reserve1 amount1Out)
      (c₁.tokens.balanceOf p.token0 self) (c₁.tokens.balanceOf p.token1 self) = .ok r := by
    refine payProtocolFee_isOk h.tokens_ne (by omega) (by omega) le_rfl le_rfl (hle0.trans hfit0)
      (hle1.trans hfit1) fun ht => ?_
    rw [hadmits, hadmits, htreasury]
    exact h.treasury (htreasury ▸ ht)
  obtain ⟨rfl, rfl, rfl, -, hpairs₂, henv⟩ := payProtocolFee_effect hfee
  have hcheck := checkK_isOk (c := c₁) (by rw [hadd0]; exact hle0.trans hfit0)
    (by rw [hadd1]; exact hle1.trans hfit1) (hcov0.trans hfit0) (hcov1.trans hfit1) hK
  rw [hadd0, hadd1] at hcheck
  have hp₂ : c₂.pairs self = some p := by rw [hpairs₂, hpairs₁, h.storage]
  have hruns : ClockRuns c₂.timestamp p.reserve0 p.reserve1 p := by
    rw [henv.timestamp, htimestamp]
    exact h.clock
  obtain ⟨c₃, hupdate⟩ := (update_isOk_iff hp₂ (by omega) (by omega)).mpr
    ⟨⟨(Nat.sub_le _ _).trans (hle0.trans hfit0), (Nat.sub_le _ _).trans (hle1.trans hfit1)⟩, hruns⟩
  simp only [takeInputs, bind_eq_ok, require_eq_ok, pure_eq_ok]
  exact ⟨_, (), hpositive, _, hfee, (), hcheck, c₃, hupdate, rfl⟩

theorem admits_setPair {q : Pair} (hp : c.pairs self = some p) (t src a : Address) :
    (c.setPair self q).admits t src a = c.admits t src a := by
  unfold Chain.admits
  by_cases ht : t = self
  · subst ht
    simp [hp]
  · simp [ht]

/-- Locking the pair changes none of the conditions. -/
theorem SwapReady.lock {amount0Out amount1Out : Nat} (h : SwapReady c self p amount0Out amount1Out) :
    SwapReady (c.setPair self { p with unlocked := 0 }) self { p with unlocked := 0 } amount0Out
      amount1Out where
  storage := by simp
  tokens_ne := h.tokens_ne
  asks := h.asks
  side0 := h.side0
  side1 := h.side1
  paid := h.paid
  product := h.product
  treasury ht := by
    rw [admits_setPair h.storage, admits_setPair h.storage]
    exact h.treasury ht
  clock := ⟨h.clock.forward, h.clock.room⟩

theorem receiverReady_lock {amount0Out amount1Out : Nat} (hp : c.pairs self = some p) :
    ReceiverReady (c.setPair self { p with unlocked := 0 }) self { p with unlocked := 0 }
      amount0Out amount1Out dst ↔ ReceiverReady c self p amount0Out amount1Out dst := by
  constructor
  · rintro ⟨hd0, hd1, h0, h1⟩
    simp only [admits_setPair hp] at h0 h1
    exact ⟨hd0, hd1, h0, h1⟩
  · rintro ⟨hd0, hd1, h0, h1⟩
    refine ⟨hd0, hd1, ?_, ?_⟩
    · simpa only [admits_setPair hp] using h0
    · simpa only [admits_setPair hp] using h1

/-- What the last part of a swap leaves: the fees have moved, and only the pair's own
    storage has changed. -/
theorem takeInputs_effect {amount0Out amount1Out : Nat}
    (h : takeInputs c self sender p amount0Out amount1Out dst = .ok c') :
    c'.tokens = feesPaid c self p
        (amountIn (c.tokens.balanceOf p.token0 self) p.reserve0 amount0Out)
        (amountIn (c.tokens.balanceOf p.token1 self) p.reserve1 amount1Out) ∧
      SameEnv c c' ∧ (∀ q, q ≠ self → c'.pairs q = c.pairs q) ∧
      ∃ q p', c.pairs self = some q ∧ c'.pairs self = some p' ∧ SameShares q p' := by
  simp only [takeInputs, bind_eq_ok, pure_eq_ok] at h
  obtain ⟨_, -, ⟨c₁, b0, b1, fee⟩, hfee, _, -, c₂, hupdate, rfl⟩ := h
  obtain ⟨-, -, -, htokens, hpairs, henv⟩ := payProtocolFee_effect hfee
  obtain ⟨q, p', hq, hp', hshares, -, -, -, hframe, htokens'⟩ := update_spec hupdate
  rw [hpairs] at hq
  refine ⟨by rw [Chain.emit_tokens, htokens', htokens], ?_, fun q hq => ?_, q, p', hq, hp', hshares⟩
  · exact (henv.trans hframe.env).trans ⟨rfl, rfl, rfl, rfl, rfl⟩
  · rw [Chain.emit_pairs, hframe.pairs q hq, hpairs]

/-- A plain swap that is ready succeeds exactly when its receiver can be paid. -/
theorem swap_isOk_iff {amount0Out amount1Out : Nat} (sender dst : Address) (hopen : p.unlocked = 1)
    (h : SwapReady c self p amount0Out amount1Out) :
    (∃ c', swap self sender amount0Out amount1Out dst pure c = .ok (c', ())) ↔
      ReceiverReady c self p amount0Out amount1Out dst := by
  rw [← receiverReady_lock h.storage]
  constructor
  · rintro ⟨c', hswap⟩
    obtain ⟨q, c₁, p₁, hq, -, hbody, -, -⟩ := lock_spec hswap
    obtain rfl := Option.some.inj (h.storage.symm.trans hq)
    simp only [bind_eq_ok, Chain.pairAt_eq_ok, Chain.setPair_pairs, Function.update_self,
      Option.some.injEq] at hbody
    obtain ⟨_, rfl, c₂, hout, -⟩ := hbody
    exact ((sendOutputs_isOk_iff h.lock).mp hout).1
  · intro hready
    have hout := (sendOutputs_isOk_iff h.lock).mpr ⟨hready, rfl⟩
    obtain ⟨c₂, htake⟩ := takeInputs_isOk sender dst h.lock
    obtain ⟨-, -, -, _, p₂, -, hp₂, -⟩ := takeInputs_effect htake
    refine ⟨c₂.setPair self { p₂ with unlocked := 1 }, ?_⟩
    simp only [swap, FluxSwapPair.lock, bind_eq_ok, require_eq_ok, Chain.pairAt_eq_ok, pure_eq_ok,
      Prod.mk.injEq, and_true]
    exact ⟨p, h.storage, (), hopen, (c₂, ()), ⟨_, h.lock.storage, _, hout, _, rfl, c₂, htake, rfl⟩,
      p₂, hp₂, rfl⟩

/-- A plain swap that succeeds has moved the pair's clock on. -/
theorem swap_clock {amount0Out amount1Out : Nat} (hp : c.pairs self = some p)
    (h0 : p.reserve0 ≠ 0) (h1 : p.reserve1 ≠ 0)
    (h : swap self sender amount0Out amount1Out dst pure c = .ok (c', ())) :
    ClockRuns c.timestamp p.reserve0 p.reserve1 p := by
  obtain ⟨q, c₁, p₁, hq, -, hbody, -, -⟩ := lock_spec h
  obtain rfl := Option.some.inj (hp.symm.trans hq)
  simp only [bind_eq_ok, Chain.pairAt_eq_ok, Chain.setPair_pairs, Function.update_self,
    Option.some.injEq, pure_eq_ok] at hbody
  obtain ⟨_, rfl, c₂, hout, _, rfl, c₃, htake, -⟩ := hbody
  simp only [sendOutputs, bind_eq_ok, sendPositive_eq_ok] at hout
  obtain ⟨_, -, _, -, _, -, _, ⟨-, rfl⟩, -, rfl⟩ := hout
  simp only [takeInputs, bind_eq_ok, pure_eq_ok] at htake
  obtain ⟨_, -, ⟨c₄, b0, b1, fee⟩, hfee, _, -, c₅, hupdate, -⟩ := htake
  obtain ⟨-, -, -, -, hpairs, henv⟩ := payProtocolFee_effect hfee
  have hp₄ : c₄.pairs self = some { p with unlocked := 0 } := by simp [hpairs]
  have hclock := ((update_isOk_iff hp₄ h0 h1).mp ⟨_, hupdate⟩).2
  rw [henv.timestamp, paidOut_timestamp, paidOut_timestamp] at hclock
  exact ⟨hclock.forward, hclock.room⟩

/-- What a plain swap leaves: the outputs have moved, then the fees on what the pair holds
    beyond its reserves, and only the pair's own storage has changed. -/
theorem swap_fees {amount0Out amount1Out : Nat} {paid : Tokens} (hp : c.pairs self = some p)
    (hpaid : paid =
      (c.tokens.move p.token0 self dst amount0Out).move p.token1 self dst amount1Out)
    (h : swap self sender amount0Out amount1Out dst pure c = .ok (c', ())) :
    c'.tokens =
        (paid.move p.token0 self c.treasury (protocolFee c
          (amountIn (paid.balanceOf p.token0 self) p.reserve0 amount0Out))).move p.token1 self
          c.treasury (protocolFee c
            (amountIn (paid.balanceOf p.token1 self) p.reserve1 amount1Out)) ∧
      SameEnv c c' ∧ (∀ q, q ≠ self → c'.pairs q = c.pairs q) ∧
      ∃ p', c'.pairs self = some p' ∧ p'.token0 = p.token0 ∧ p'.token1 = p.token1 := by
  obtain ⟨q, c₁, p₁, hq, -, hbody, hp₁, rfl⟩ := lock_spec h
  obtain rfl := Option.some.inj (hp.symm.trans hq)
  simp only [bind_eq_ok, Chain.pairAt_eq_ok, Chain.setPair_pairs, Function.update_self,
    Option.some.injEq, pure_eq_ok, Prod.mk.injEq, and_true] at hbody
  obtain ⟨_, rfl, c₂, hout, _, rfl, c₃, htake, rfl⟩ := hbody
  simp only [sendOutputs, bind_eq_ok, sendPositive_eq_ok] at hout
  obtain ⟨_, -, _, -, _, -, _, ⟨-, rfl⟩, -, rfl⟩ := hout
  obtain ⟨htokens, henv, hpairs, q, p₂, hq, hp₂, hshares⟩ := takeInputs_effect htake
  obtain rfl := Option.some.inj (hp₁.symm.trans hp₂)
  obtain rfl : { p with unlocked := 0 } = q := by simpa using hq
  have henv₂ := (paidOut_env (c.setPair self { p with unlocked := 0 }) self p.token0 dst
    amount0Out).trans (paidOut_env _ self p.token1 dst amount1Out)
  rw [feesPaid, protocolFee, protocolFee, henv₂.treasury, paidOut_tokens, paidOut_tokens] at htokens
  refine ⟨?_, ?_, fun a ha => ?_, { p₁ with unlocked := 1 }, by simp, hshares.token0,
    hshares.token1⟩
  · rw [hpaid]
    exact htokens
  · exact (Frame.setPair c self { p with unlocked := 0 }).env.trans (henv₂.trans
      (henv.trans (Frame.setPair c₃ self { p₁ with unlocked := 1 }).env))
  · rw [Chain.setPair_pairs, Function.update_of_ne ha, hpairs a ha]
    simp [ha]

theorem swap_effect {amount0Out amount1Out : Nat} (hp : c.pairs self = some p)
    (h : swap self sender amount0Out amount1Out dst pure c = .ok (c', ())) :
    ∃ fee0 fee1, c'.tokens =
        (((c.tokens.move p.token0 self dst amount0Out).move p.token1 self dst amount1Out).move
          p.token0 self c.treasury fee0).move p.token1 self c.treasury fee1 ∧
      SameEnv c c' ∧ (∀ q, q ≠ self → c'.pairs q = c.pairs q) ∧
      ∃ p', c'.pairs self = some p' ∧ p'.token0 = p.token0 ∧ p'.token1 = p.token1 :=
  ⟨_, _, swap_fees hp rfl h⟩

end FluxSwapPair
