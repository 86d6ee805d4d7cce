-- SUMMARY: The router's exact-input swap over one pair: what it moves, and exactly when it succeeds.
import FluxSwap.Amm.Quotes

/-!
# One exact-input hop

The caller pays the pair and the pair pays the receiver. Apart from the pair and the
treasury nobody else gains or loses, and with a quote at hand nothing but the pair's
clock can stop the swap.
-/

open Exec

namespace Chain

variable {c c' : Chain} {token spender src dst : Address} {value : Nat}

/-- Neither a pair's storage nor the environment has changed. -/
structure Quiet (c c' : Chain) : Prop where
  env : FluxSwapPair.SameEnv c c'
  pairs : c'.pairs = c.pairs

theorem Quiet.refl (c : Chain) : Quiet c c := ⟨.refl c, rfl⟩

theorem Quiet.trans {c'' : Chain} (h : Quiet c c') (h' : Quiet c' c'') : Quiet c c'' :=
  ⟨h.env.trans h'.env, h'.pairs.trans h.pairs⟩

theorem Quiet.admits (h : Quiet c c') (t a b : Address) : c'.admits t a b = c.admits t a b := by
  unfold Chain.admits
  rw [h.pairs, h.env.refuses]

theorem Quiet.getReserves (h : Quiet c c') (tokenA tokenB : Address) :
    FluxSwapRouter.getReserves c' tokenA tokenB = FluxSwapRouter.getReserves c tokenA tokenB := by
  unfold FluxSwapRouter.getReserves FluxSwapRouter.getPairOrRevert Chain.pairAt
  rw [h.pairs, h.env.getPair]

theorem Quiet.getAmountsOut (h : Quiet c c') (amountIn : Nat) (path : List Address) :
    FluxSwapRouter.getAmountsOut c' amountIn path = FluxSwapRouter.getAmountsOut c amountIn path := by
  have hfrom : FluxSwapRouter.amountsOutFrom c' amountIn path =
      FluxSwapRouter.amountsOutFrom c amountIn path := by
    induction path generalizing amountIn with
    | nil => rfl
    | cons input rest ih =>
      cases rest with
      | nil => rfl
      | cons output rest => simp only [FluxSwapRouter.amountsOutFrom, h.getReserves, ih]
  unfold FluxSwapRouter.getAmountsOut
  rw [hfrom]

theorem transferFrom_quiet (h : c.transferFrom token spender src dst value = some c') :
    Quiet c c' := by
  obtain ⟨-, -, tokens, logs, rfl, hspent⟩ := transferFrom_effect h
  obtain ⟨-, rfl⟩ | ⟨-, rfl⟩ := hspent
  · exact ⟨⟨rfl, rfl, rfl, rfl, rfl⟩, rfl⟩
  · exact ⟨⟨rfl, rfl, rfl, rfl, rfl⟩, rfl⟩

/-- Balance, allowance and the token's consent are enough for `transferFrom`. -/
theorem transferFrom_isSome (hbalance : value ≤ c.tokens.balanceOf token src)
    (hallowance : value ≤ c.tokens.allowance token src spender)
    (hadmits : c.admits token src dst = true) :
    ∃ c', c.transferFrom token spender src dst value = some c' := by
  unfold transferFrom
  unfold admits at hadmits
  split at hadmits
  · rename_i p hp
    obtain ⟨hsrc, hdst⟩ := of_decide_eq_true hadmits
    have hspend : ∃ c₁, FluxSwapERC20.spendAllowance c token spender src value = .ok c₁ ∧
        c₁.tokens.balanceOf = c.tokens.balanceOf := by
      unfold FluxSwapERC20.spendAllowance
      split
      · simp only [bind_eq_ok, Uint256.sub_eq_ok, pure_eq_ok]
        exact ⟨_, ⟨_, ⟨hallowance, rfl⟩, rfl⟩, rfl⟩
      · exact ⟨c, rfl, rfl⟩
    obtain ⟨c₁, hspend, hsame⟩ := hspend
    obtain ⟨c₂, htransfer⟩ : ∃ c₂, FluxSwapERC20.transfer c₁ token src dst value = .ok c₂ := by
      simp only [FluxSwapERC20.transfer, bind_eq_ok, require_eq_ok, Uint256.sub_eq_ok, pure_eq_ok]
      exact ⟨_, (), hsrc, (), hdst, _, ⟨by rw [hsame]; exact hbalance, rfl⟩, rfl⟩
    refine ⟨c₂, ?_⟩
    simp [FluxSwapERC20.transferFrom, hspend, htransfer, Except.toOption]
  · rename_i hp
    have hrefuses : c.tokens.refuses token dst = false := by simpa using hadmits
    have hspend : ∃ l, c.tokens.spend Uint256.max token src spender value = some l ∧
        l.balanceOf = c.tokens.balanceOf ∧ l.refuses = c.tokens.refuses := by
      unfold Ledger.spend
      rw [if_pos hallowance]
      split
      · exact ⟨_, rfl, rfl, rfl⟩
      · exact ⟨_, rfl, rfl, rfl⟩
    obtain ⟨l, hspend, hsame, hkeeps⟩ := hspend
    simp [Ledger.transferFrom, hspend, hsame, hkeeps, hbalance, hrefuses]

theorem approve_effect {owner : Address} (h : c.approve token owner spender value = .ok c') :
    Quiet c c' ∧ c'.tokens = c.tokens.approve token owner spender value := by
  unfold approve at h
  split at h
  · simp only [FluxSwapERC20.approve, bind_eq_ok, pure_eq_ok] at h
    obtain ⟨_, -, _, -, rfl⟩ := h
    exact ⟨⟨⟨rfl, rfl, rfl, rfl, rfl⟩, rfl⟩, rfl⟩
  · obtain rfl := pure_eq_ok.mp h
    exact ⟨⟨⟨rfl, rfl, rfl, rfl, rfl⟩, rfl⟩, rfl⟩

theorem approve_isOk (c : Chain) (token : Address) (value : Nat) {owner spender : Address}
    (howner : owner ≠ Address.zero) (hspender : spender ≠ Address.zero) :
    ∃ c', c.approve token owner spender value = .ok c' := by
  unfold approve
  split
  · simp only [FluxSwapERC20.approve, bind_eq_ok, require_eq_ok, pure_eq_ok]
    exact ⟨_, (), howner, (), hspender, rfl⟩
  · exact ⟨_, rfl⟩

end Chain

namespace FluxSwapRouter

variable {c c' : Chain} {router sender dst input output : Address} {p : Pair}

/-! ## What the hop moves -/

theorem getAmountsOut_hop {x : Nat} {amounts : List Nat}
    (h : getAmountsOut c x [input, output] = .ok amounts) :
    ∃ reserveIn reserveOut y, getReserves c input output = .ok (reserveIn, reserveOut) ∧
      getAmountOut x reserveIn reserveOut = .ok y ∧ amounts = [x, y] := by
  simp only [getAmountsOut, amountsOutFrom, bind_eq_ok, pure_eq_ok] at h
  obtain ⟨_, -, ⟨reserveIn, reserveOut⟩, hreserves, y, hout, _, rfl, rfl⟩ := h
  exact ⟨reserveIn, reserveOut, y, hreserves, hout, rfl⟩

theorem getAmountOut_positive {x reserveIn reserveOut y : Nat}
    (h : getAmountOut x reserveIn reserveOut = .ok y) : 0 < x ∧ 0 < reserveIn ∧ 0 < reserveOut := by
  simp only [getAmountOut, bind_eq_ok, require_eq_ok] at h
  obtain ⟨_, hx, _, hreserves, -⟩ := h
  exact ⟨hx, hreserves.1, hreserves.2⟩

theorem swapAlong_hop {x y : Nat} :
    swapAlong router [x, y] [input, output] dst c = .ok c' ↔
      swapHop router input output [] y dst c = .ok c' := by
  simp [swapAlong]

theorem swapHop_effect {reserveIn reserveOut y : Nat}
    (hstorage : c.pairs (c.getPair input output) = some p)
    (ho : Oriented c input output p reserveIn reserveOut)
    (h : swapHop router input output [] y dst c = .ok c') :
    FluxSwapPair.SameEnv c c' ∧ ∀ t a, a ≠ c.getPair input output → a ≠ c.treasury →
      c'.tokens.balanceOf t a = c.tokens.balanceOf t a + if t = output ∧ a = dst then y else 0 := by
  obtain ⟨d, hd, hswap⟩ := (swapHop_eq_ok ho).mp h
  obtain rfl := pure_eq_ok.mp hd
  obtain ⟨fee0, fee1, htokens, henv, -⟩ := FluxSwapPair.swap_effect hstorage hswap
  refine ⟨henv, ?_⟩
  intro t a hpair htreasury
  rw [htokens, Ledger.balanceOf_move_of_ne _ _ _ _ _ hpair htreasury,
    Ledger.balanceOf_move_of_ne _ _ _ _ _ hpair htreasury,
    Ledger.balanceOf_move_of_ne_src _ _ _ _ _ hpair,
    Ledger.balanceOf_move_of_ne_src _ _ _ _ _ hpair]
  unfold hopOutputs
  rcases ho.side with ⟨h0, h1, -, -⟩ | ⟨h0, h1, -, -⟩
  · rw [if_pos h0.symm, h1]
    simp
  · have hne : input ≠ p.token0 := by rw [h0]; exact ho.ne
    rw [if_neg hne, h0]
    simp

/-- The factory's pair of two tokens holds these tokens, the smaller one first. -/
structure PairOf (c : Chain) (input output : Address) (p : Pair) : Prop where
  storage : c.pairs (c.getPair input output) = some p
  sorted : (p.token0, p.token1) = if input < output then (input, output) else (output, input)

theorem PairOf.quiet (h : PairOf c input output p) (hq : c.Quiet c') : PairOf c' input output p :=
  ⟨by rw [hq.pairs, hq.env.getPair]; exact h.storage, h.sorted⟩

/-- What an exact-input swap over one pair moves: nobody but the pair and the treasury
    gains or loses anything else. -/
theorem swapExactTokens_effect {x amountOutMin : Nat} {amounts : List Nat}
    (hpair : PairOf c input output p)
    (h : swapExactTokens router sender x amountOutMin [input, output] dst c = .ok (c', amounts)) :
    ∃ y, amounts = [x, y] ∧ getAmountsOut c x [input, output] = .ok [x, y] ∧ amountOutMin ≤ y ∧
      FluxSwapPair.SameEnv c c' ∧ ∀ t a, a ≠ c.getPair input output → a ≠ c.treasury →
        c'.tokens.balanceOf t a + (if t = input ∧ a = sender then x else 0) =
          c.tokens.balanceOf t a + if t = output ∧ a = dst then y else 0 := by
  simp only [swapExactTokens, bind_eq_ok, last_eq_ok, require_eq_ok, pure_eq_ok,
    Prod.mk.injEq] at h
  obtain ⟨amounts', hquote, out, hlast, _, hmin, c₁, hpay, c₂, hswap, rfl, rfl⟩ := h
  obtain ⟨reserveIn, reserveOut, y, hreserves, hout, rfl⟩ := getAmountsOut_hop hquote
  obtain rfl : y = out := by simpa using hlast
  simp only [payFirstPair, bind_eq_ok, getPairOrRevert_eq_ok, safeTransferFrom_eq_ok] at hpay
  obtain ⟨_, ⟨-, rfl⟩, hpay⟩ := hpay
  have hquiet := Chain.transferFrom_quiet hpay
  have hmoved := Chain.transferFrom_spec hpay
  have hpair₁ := hpair.quiet hquiet
  have ho := oriented_of_sorted hpair₁.storage hpair₁.sorted
    ((hquiet.getReserves input output).trans hreserves)
  obtain ⟨henv, hhop⟩ := swapHop_effect hpair₁.storage ho (swapAlong_hop.mp hswap)
  refine ⟨y, rfl, hquote, hmin, hquiet.env.trans henv, ?_⟩
  intro t a hne htreasury
  rw [hhop t a (by rw [hquiet.env.getPair]; exact hne) (by rw [hquiet.env.treasury]; exact htreasury),
    hmoved.balances]
  have hadd := c.tokens.balanceOf_move_add input sender (c.getPair input output) x hmoved.enough t a
  rw [if_neg (fun h : t = input ∧ a = c.getPair input output => hne h.2)] at hadd
  omega

/-- Whoever it is, the receiver of the swap gets the output. -/
theorem swapExactTokens_gain {x y amountOutMin : Nat} {amounts : List Nat}
    (hpair : PairOf c input output p) (hquote : getAmountsOut c x [input, output] = .ok [x, y])
    (hdst : dst ≠ c.getPair input output)
    (h : swapExactTokens router sender x amountOutMin [input, output] dst c = .ok (c', amounts)) :
    c.tokens.balanceOf output dst + y ≤ c'.tokens.balanceOf output dst := by
  simp only [swapExactTokens, hquote, ok_bind, bind_eq_ok, pure_eq_ok, Prod.mk.injEq] at h
  obtain ⟨_, -, _, -, c₁, hpay, c₂, hswap, rfl, -⟩ := h
  obtain ⟨reserveIn, reserveOut, _, hreserves, -, -⟩ := getAmountsOut_hop hquote
  simp only [payFirstPair, bind_eq_ok, getPairOrRevert_eq_ok, safeTransferFrom_eq_ok] at hpay
  obtain ⟨_, ⟨-, rfl⟩, hpay⟩ := hpay
  have hquiet := Chain.transferFrom_quiet hpay
  have hmoved := Chain.transferFrom_spec hpay
  have hpair₁ := hpair.quiet hquiet
  have ho := oriented_of_sorted hpair₁.storage hpair₁.sorted
    ((hquiet.getReserves input output).trans hreserves)
  obtain ⟨d, hd, hswap⟩ := (swapHop_eq_ok ho).mp (swapAlong_hop.mp hswap)
  obtain rfl := pure_eq_ok.mp hd
  obtain ⟨fee0, fee1, htokens, -⟩ := FluxSwapPair.swap_effect hpair₁.storage hswap
  rw [hquiet.env.getPair] at htokens
  -- the fees leave the pair, not the receiver
  have hfees : (((c₁.tokens.move p.token0 (c.getPair input output) dst (hopOutputs p input y).1).move
      p.token1 (c.getPair input output) dst (hopOutputs p input y).2).balanceOf output dst) ≤
        c₂.tokens.balanceOf output dst := by
    rw [htokens]
    exact (Ledger.balanceOf_le_move _ _ _ _ _ hdst _).trans
      (Ledger.balanceOf_le_move _ _ _ _ _ hdst _)
  refine le_trans ?_ hfees
  rw [Ledger.balanceOf_move_of_ne_src _ _ _ _ _ hdst, Ledger.balanceOf_move_of_ne_src _ _ _ _ _ hdst,
    hmoved.balances, Ledger.balanceOf_move_of_token_ne _ _ _ _ _ ho.ne.symm]
  unfold hopOutputs
  rcases ho.side with ⟨h0, h1, -, -⟩ | ⟨h0, h1, -, -⟩
  · rw [if_pos h0.symm, h1]
    simp
  · have hne : input ≠ p.token0 := by rw [h0]; exact ho.ne
    rw [if_neg hne, h0]
    simp

/-! ## When it succeeds -/

/-- A pair between transactions: open, and its balances cover its reserves. -/
structure PairAtRest (c : Chain) (input output : Address) (p : Pair) : Prop extends
    PairOf c input output p where
  opened : p.unlocked = 1
  covered : p.reserve0 ≤ c.tokens.balanceOf p.token0 (c.getPair input output) ∧
    p.reserve1 ≤ c.tokens.balanceOf p.token1 (c.getPair input output)

theorem PairAtRest.hopReady {reserveIn reserveOut : Nat} (h : PairAtRest c input output p)
    (ho : Oriented c input output p reserveIn reserveOut) (hin : 0 < reserveIn)
    (hout : 0 < reserveOut) (hclock : FluxSwapPair.ClockRuns c.timestamp p.reserve0 p.reserve1 p) :
    HopReady c input output p := by
  refine ⟨h.storage, h.sorted, h.opened, ?_, h.covered, hclock⟩
  rcases ho.side with ⟨-, -, h0, h1⟩ | ⟨-, -, h0, h1⟩
  · exact ⟨h0 ▸ hin, h1 ▸ hout⟩
  · exact ⟨h0 ▸ hout, h1 ▸ hin⟩

/-- The caller and the receiver of the hop, and the room in the pair. -/
structure HopFunded (c : Chain) (router sender dst input output : Address) (x : Nat) : Prop where
  balance : x ≤ c.tokens.balanceOf input sender
  allowance : x ≤ c.tokens.allowance input sender router
  sender_ne : sender ≠ c.getPair input output
  sender_nonzero : sender ≠ Address.zero
  dst_nonzero : dst ≠ Address.zero
  dst_input : dst ≠ input
  dst_output : dst ≠ output
  room : c.tokens.balanceOf input (c.getPair input output) + x ≤ FluxSwapPair.maxUint112
  roomOut : c.tokens.balanceOf output (c.getPair input output) ≤ FluxSwapPair.maxUint112
  standard : StandardTokens c [input, output]

/-- With a quote at hand, an exact-input swap over one pair succeeds exactly when the
    pair's clock can move on. -/
theorem swapExactTokens_isOk_iff {x y amountOutMin : Nat} (hpair : PairAtRest c input output p)
    (hfunded : HopFunded c router sender dst input output x)
    (hquote : getAmountsOut c x [input, output] = .ok [x, y]) (hy : 0 < y) (hmin : amountOutMin ≤ y) :
    (∃ r, swapExactTokens router sender x amountOutMin [input, output] dst c = .ok r) ↔
      FluxSwapPair.ClockRuns c.timestamp p.reserve0 p.reserve1 p := by
  obtain ⟨reserveIn, reserveOut, y', hreserves, hout, hamounts⟩ := getAmountsOut_hop hquote
  obtain rfl : y = y' := by simpa using hamounts
  have ho := oriented_of_sorted hpair.storage hpair.sorted hreserves
  obtain ⟨hx, hin, hpositive⟩ := getAmountOut_positive hout
  -- the payment goes through, and it changes nothing that the hop depends on
  obtain ⟨c₁, hpay⟩ := Chain.transferFrom_isSome hfunded.balance hfunded.allowance
    (admits_of_standard hfunded.standard (by simp) hfunded.sender_nonzero ho.exists_pair)
  have hquiet := Chain.transferFrom_quiet hpay
  have hmoved := Chain.transferFrom_spec hpay
  have hreserves₁ := (hquiet.getReserves input output).trans hreserves
  have hpairOf₁ := hpair.toPairOf.quiet hquiet
  have ho₁ := oriented_of_sorted hpairOf₁.storage hpairOf₁.sorted hreserves₁
  have hgrow : ∀ t, c₁.tokens.balanceOf t (c.getPair input output) =
      c.tokens.balanceOf t (c.getPair input output) + if t = input then x else 0 := by
    intro t
    rw [hmoved.balances, Ledger.balanceOf_move_of_ne_src _ _ _ _ _ hfunded.sender_ne.symm]
    simp
  -- so the call succeeds exactly if the one hop does
  have hrun : (∃ r, swapExactTokens router sender x amountOutMin [input, output] dst c = .ok r) ↔
      ∃ c₂, swapHop router input output [] y dst c₁ = .ok c₂ := by
    have hpaid : payFirstPair router sender [x, y] [input, output] c = .ok c₁ := by
      simp only [payFirstPair, bind_eq_ok, getPairOrRevert_eq_ok, safeTransferFrom_eq_ok]
      exact ⟨_, ⟨ho.exists_pair, rfl⟩, hpay⟩
    simp only [swapExactTokens, hquote, ok_bind, bind_eq_ok, last_eq_ok, require_eq_ok, pure_eq_ok,
      hpaid, swapAlong_hop]
    constructor
    · rintro ⟨_, _, -, _, -, c₂, hswap, -⟩
      exact ⟨c₂, hswap⟩
    · rintro ⟨c₂, hswap⟩
      exact ⟨_, y, rfl, (), hmin, c₂, hswap, rfl⟩
  rw [hrun]
  constructor
  · rintro ⟨c₂, hswap⟩
    obtain ⟨d, -, hswap⟩ := (swapHop_eq_ok ho₁).mp hswap
    have hclock := FluxSwapPair.swap_clock hpairOf₁.storage
      (by rcases ho.side with ⟨-, -, h0, -⟩ | ⟨-, -, h0, -⟩ <;> omega)
      (by rcases ho.side with ⟨-, -, -, h1⟩ | ⟨-, -, -, h1⟩ <;> omega) hswap
    rwa [hquiet.env.timestamp] at hclock
  · intro hclock
    have hrest₁ : PairAtRest c₁ input output p := by
      refine ⟨hpairOf₁, hpair.opened, ?_⟩
      rw [hquiet.env.getPair, hgrow, hgrow]
      exact ⟨hpair.covered.1.trans (Nat.le_add_right _ _),
        hpair.covered.2.trans (Nat.le_add_right _ _)⟩
    have hhop₁ := hrest₁.hopReady ho₁ hin hpositive (by rw [hquiet.env.timestamp]; exact hclock)
    have hstandard₁ : StandardTokens c₁ [input, output] := by
      intro t ht a ha
      rw [hquiet.env.refuses]
      exact hfunded.standard t ht a ha
    have hcovered := (hpair.hopReady ho hin hpositive hclock).reserveIn_le ho
    have hready := hhop₁.swapReady hstandard₁ ho₁ (getAmountOut_quoted hout) hx hy
      (by rw [hquiet.env.getPair, hgrow, if_pos rfl]; omega)
      (by rw [hquiet.env.getPair, hgrow, if_pos rfl]; exact hfunded.room)
      (by rw [hquiet.env.getPair, hgrow, if_neg ho.ne.symm]; exact hfunded.roomOut)
    refine (swapHop_isOk_iff router hhop₁ ho₁ hy hready rfl).mpr
      ⟨hfunded.dst_input, hfunded.dst_output, ?_⟩
    exact admits_of_standard hstandard₁ (by simp) ho₁.exists_pair hfunded.dst_nonzero

end FluxSwapRouter
