-- SUMMARY: Quoted amounts are executable: along any path of distinct pairs, the router's swap passes every check of every pair.
import FluxSwap.Amm.PlainSwap
import FluxSwap.Amm.Router
import Mathlib.Data.List.Chain

/-!
# Executable quotes

The router's two floor formulas give amounts in one relation, `Quoted`, and that
relation is enough for the pair's check of K after the protocol fee has left. Along
a path the relation is about the reserves before the first hop; a hop changes
nothing of the later pairs except that their balances grow.
-/

open Exec

namespace FluxSwapRouter

variable {c c' : Chain}

/-! ## One hop -/

/-- Paying `x` into `reserveIn` and `y` out of `reserveOut` keeps K with 30 basis
    points taken from the input. -/
structure Quoted (reserveIn reserveOut x y : Nat) : Prop where
  out : y < reserveOut
  fair : reserveIn * y * FEE_BPS_BASE ≤ 9970 * x * (reserveOut - y)

theorem getAmountOut_quoted {amountIn reserveIn reserveOut amountOut : Nat}
    (h : getAmountOut amountIn reserveIn reserveOut = .ok amountOut) :
    Quoted reserveIn reserveOut amountIn amountOut := by
  simp only [getAmountOut, bind_eq_ok, require_eq_ok, Uint256.mul_eq_ok, Uint256.add_eq_ok,
    Uint256.div_eq_ok] at h
  obtain ⟨_, hpos, _, ⟨hin, hout⟩, _, ⟨-, rfl⟩, _, ⟨-, rfl⟩, _, ⟨-, rfl⟩, _, ⟨-, rfl⟩, -, rfl⟩ := h
  have hfee : FEE_BPS_BASE - TOTAL_SWAP_FEE_BPS = 9970 := rfl
  rw [hfee]
  obtain ⟨y, hy⟩ : ∃ y, y = amountIn * 9970 * reserveOut /
    (reserveIn * FEE_BPS_BASE + amountIn * 9970) := ⟨_, rfl⟩
  have hfloor : y * (reserveIn * FEE_BPS_BASE + amountIn * 9970) ≤ amountIn * 9970 * reserveOut :=
    hy ▸ Nat.div_mul_le_self _ _
  rw [← hy]
  have hscaled : 0 < reserveIn * FEE_BPS_BASE := Nat.mul_pos hin (by decide)
  have hlt : y < reserveOut := by
    by_contra hge
    have hmul : reserveOut * (reserveIn * FEE_BPS_BASE + amountIn * 9970) ≤
        y * (reserveIn * FEE_BPS_BASE + amountIn * 9970) := Nat.mul_le_mul_right _ (by omega)
    have hcomm : reserveOut * (amountIn * 9970) = amountIn * 9970 * reserveOut := Nat.mul_comm _ _
    have hpositive : 0 < reserveOut * (reserveIn * FEE_BPS_BASE) := Nat.mul_pos hout hscaled
    rw [Nat.mul_add] at hmul
    omega
  refine ⟨hlt, ?_⟩
  calc reserveIn * y * FEE_BPS_BASE = y * (reserveIn * FEE_BPS_BASE) := by ring
    _ ≤ amountIn * 9970 * reserveOut - y * (amountIn * 9970) := by
        rw [Nat.mul_add] at hfloor
        omega
    _ = 9970 * amountIn * (reserveOut - y) := by
        rw [Nat.mul_sub]
        congr 1 <;> ring

theorem getAmountIn_quoted {amountOut reserveIn reserveOut amountIn : Nat}
    (h : getAmountIn amountOut reserveIn reserveOut = .ok amountIn) :
    Quoted reserveIn reserveOut amountIn amountOut := by
  simp only [getAmountIn, bind_eq_ok, require_eq_ok, Uint256.mul_eq_ok, Uint256.add_eq_ok,
    Uint256.sub_eq_ok, Uint256.div_eq_ok] at h
  obtain ⟨_, hpos, _, ⟨hin, hout⟩, _, ⟨-, rfl⟩, _, ⟨-, rfl⟩, _, ⟨hle, rfl⟩, _, ⟨-, rfl⟩, _,
    ⟨hdenominator, rfl⟩, -, rfl⟩ := h
  have hfee : FEE_BPS_BASE - TOTAL_SWAP_FEE_BPS = 9970 := rfl
  rw [hfee] at hdenominator ⊢
  have hleft : 0 < reserveOut - amountOut := by
    rcases Nat.eq_zero_or_pos (reserveOut - amountOut) with hzero | hpositive
    · simp [hzero] at hdenominator
    · exact hpositive
  refine ⟨by omega, ?_⟩
  have hlt := Nat.lt_succ_of_le (Nat.le_refl (reserveIn * amountOut * FEE_BPS_BASE /
    ((reserveOut - amountOut) * 9970)))
  rw [Nat.succ_eq_add_one, Nat.div_lt_iff_lt_mul (by omega)] at hlt
  refine hlt.le.trans (le_of_eq ?_)
  ring

/-- A quote that keeps K: the form in which the pair checks it. -/
theorem Quoted.product {reserveIn reserveOut x y paid : Nat} (h : Quoted reserveIn reserveOut x y)
    (hpaid : x ≤ paid) (extra : Nat) :
    reserveIn * reserveOut * FluxSwapPair.FEE_BPS_BASE ^ 2 ≤
      (reserveIn * FluxSwapPair.FEE_BPS_BASE + 9970 * paid) *
        ((reserveOut - y) * FluxSwapPair.FEE_BPS_BASE + extra) := by
  have hout := h.out
  have hfair : reserveIn * y * FluxSwapPair.FEE_BPS_BASE ≤ 9970 * x * (reserveOut - y) := h.fair
  have hsplit : reserveIn * reserveOut * FluxSwapPair.FEE_BPS_BASE =
      reserveIn * FluxSwapPair.FEE_BPS_BASE * (reserveOut - y) +
        reserveIn * y * FluxSwapPair.FEE_BPS_BASE := by
    obtain ⟨left, rfl⟩ : ∃ left, reserveOut = y + left := ⟨reserveOut - y, by omega⟩
    rw [Nat.add_sub_cancel_left]
    ring
  have hone : reserveIn * reserveOut * FluxSwapPair.FEE_BPS_BASE ≤
      (reserveIn * FluxSwapPair.FEE_BPS_BASE + 9970 * paid) * (reserveOut - y) := by
    calc reserveIn * reserveOut * FluxSwapPair.FEE_BPS_BASE
        ≤ reserveIn * FluxSwapPair.FEE_BPS_BASE * (reserveOut - y) + 9970 * x * (reserveOut - y) := by
          omega
      _ = (reserveIn * FluxSwapPair.FEE_BPS_BASE + 9970 * x) * (reserveOut - y) := by ring
      _ ≤ _ := Nat.mul_le_mul_right _ (by omega)
  calc reserveIn * reserveOut * FluxSwapPair.FEE_BPS_BASE ^ 2
      = reserveIn * reserveOut * FluxSwapPair.FEE_BPS_BASE * FluxSwapPair.FEE_BPS_BASE := by ring
    _ ≤ (reserveIn * FluxSwapPair.FEE_BPS_BASE + 9970 * paid) * (reserveOut - y) *
          FluxSwapPair.FEE_BPS_BASE := Nat.mul_le_mul_right _ hone
    _ = (reserveIn * FluxSwapPair.FEE_BPS_BASE + 9970 * paid) *
          ((reserveOut - y) * FluxSwapPair.FEE_BPS_BASE) := by ring
    _ ≤ _ := Nat.mul_le_mul_left _ (Nat.le_add_right _ _)

/-! ## Quotes along a path -/

/-- The amounts of a path are quoted hop by hop from the reserves of one chain. -/
def QuotedAlong (c : Chain) : List Nat → List Address → Prop
  | x :: y :: amounts, input :: output :: rest =>
    (∃ reserveIn reserveOut, getReserves c input output = .ok (reserveIn, reserveOut) ∧
      Quoted reserveIn reserveOut x y) ∧ QuotedAlong c (y :: amounts) (output :: rest)
  | [_], [_] => True
  | _, _ => False

theorem amountsOutFrom_quoted {path : List Address} {amountIn : Nat} {amounts : List Nat}
    (hpath : path ≠ []) (h : amountsOutFrom c amountIn path = .ok amounts) :
    (∃ tail, amounts = amountIn :: tail) ∧ QuotedAlong c amounts path := by
  induction path generalizing amountIn amounts with
  | nil => exact absurd rfl hpath
  | cons input rest ih =>
    cases rest with
    | nil =>
      obtain rfl := pure_eq_ok.mp h
      exact ⟨⟨[], rfl⟩, trivial⟩
    | cons output rest =>
      simp only [amountsOutFrom, bind_eq_ok, pure_eq_ok] at h
      obtain ⟨⟨reserveIn, reserveOut⟩, hreserves, y, hout, tail, htail, rfl⟩ := h
      obtain ⟨⟨tail', rfl⟩, hquoted⟩ := ih (by simp) htail
      exact ⟨⟨_, rfl⟩, ⟨_, _, hreserves, getAmountOut_quoted hout⟩, hquoted⟩

theorem amountsInFrom_quoted {path : List Address} {amountOut : Nat} {amounts : List Nat}
    (hpath : path ≠ []) (h : amountsInFrom c amountOut path = .ok amounts) :
    amounts ≠ [] ∧ QuotedAlong c amounts path := by
  induction path generalizing amounts with
  | nil => exact absurd rfl hpath
  | cons input rest ih =>
    cases rest with
    | nil =>
      obtain rfl := pure_eq_ok.mp h
      exact ⟨by simp, trivial⟩
    | cons output rest =>
      simp only [amountsInFrom, bind_eq_ok, pure_eq_ok] at h
      obtain ⟨tail, htail, ⟨reserveIn, reserveOut⟩, hreserves, x, hin, rfl⟩ := h
      obtain ⟨hne, hquoted⟩ := ih (by simp) htail
      obtain ⟨y, tail', rfl⟩ := List.exists_cons_of_ne_nil hne
      exact ⟨by simp, ⟨_, _, hreserves, getAmountIn_quoted hin⟩, hquoted⟩

/-- The pairs of a path. -/
def hopPairs (c : Chain) : List Address → List Address
  | input :: output :: rest => c.getPair input output :: hopPairs c (output :: rest)
  | _ => []

theorem hopPairs_congr (h : c'.getPair = c.getPair) (path : List Address) :
    hopPairs c' path = hopPairs c path := by
  induction path with
  | nil => rfl
  | cons input rest ih =>
    cases rest with
    | nil => rfl
    | cons output rest => rw [hopPairs, hopPairs, ih, h]

/-- A hop can be taken: the factory's pair for it holds its two tokens in order, is
    open, covers its positive reserves, and its clock can move on. -/
structure HopReady (c : Chain) (input output : Address) (p : Pair) : Prop where
  storage : c.pairs (c.getPair input output) = some p
  sorted : (p.token0, p.token1) = if input < output then (input, output) else (output, input)
  opened : p.unlocked = 1
  positive : 0 < p.reserve0 ∧ 0 < p.reserve1
  covered : p.reserve0 ≤ c.tokens.balanceOf p.token0 (c.getPair input output) ∧
    p.reserve1 ≤ c.tokens.balanceOf p.token1 (c.getPair input output)
  clock : FluxSwapPair.ClockRuns c.timestamp p.reserve0 p.reserve1 p

/-- The tokens of a path treat every account but `address(0)` alike. -/
def StandardTokens (c : Chain) (path : List Address) : Prop :=
  ∀ t ∈ path, ∀ a, a ≠ Address.zero → c.tokens.refuses t a = false

/-- The first pair of the path holds the input on top of its reserve. -/
def Funded (c : Chain) : List Nat → List Address → Prop
  | x :: _, input :: output :: _ => ∀ reserveIn reserveOut,
    getReserves c input output = .ok (reserveIn, reserveOut) →
      reserveIn + x ≤ c.tokens.balanceOf input (c.getPair input output)
  | _, _ => True

/-- While the swap goes on, every pair finds its balances within 112 bits. -/
def FitsAlong (router : Address) : List Nat → List Address → Address → Chain → Prop
  | _ :: y :: amounts, input :: output :: rest, dst, c =>
    (c.tokens.balanceOf input (c.getPair input output) ≤ FluxSwapPair.maxUint112 ∧
      c.tokens.balanceOf output (c.getPair input output) ≤ FluxSwapPair.maxUint112) ∧
    ∀ c', swapHop router input output rest y dst c = .ok c' →
      FitsAlong router (y :: amounts) (output :: rest) dst c'
  | _, _, _, _ => True

/-- The receiver is neither token of the last pair, and the last token lets that pair
    pay it. -/
def ReceiverAdmitted (c : Chain) (dst : Address) : List Address → Prop
  | [input, output] => dst ≠ input ∧ dst ≠ output ∧
    c.admits output (c.getPair input output) dst = true
  | _ :: rest => ReceiverAdmitted c dst rest
  | [] => False

/-- All that is asked of the chain before the swap. -/
structure PathReady (c : Chain) (path : List Address) : Prop where
  hops : path.IsChain fun input output => ∃ p, HopReady c input output p
  distinct : (hopPairs c path).Nodup
  apart : ∀ t ∈ path, t ∉ hopPairs c path
  standard : StandardTokens c path

/-! ## Taking one hop -/

theorem sortTokens_eq_ok {tokenA tokenB : Address} {r : Address × Address} :
    sortTokens tokenA tokenB = .ok r ↔ tokenA ≠ tokenB ∧ r.1 ≠ Address.zero ∧
      (if tokenA < tokenB then (tokenA, tokenB) else (tokenB, tokenA)) = r := by
  unfold sortTokens
  simp only [bind_eq_ok, require_eq_ok, pure_eq_ok]
  constructor
  · rintro ⟨_, hne, _, hzero, rfl⟩
    exact ⟨hne, hzero, rfl⟩
  · rintro ⟨hne, hzero, rfl⟩
    exact ⟨(), hne, (), hzero, rfl⟩

theorem getPairOrRevert_eq_ok {tokenA tokenB pair : Address} :
    getPairOrRevert c tokenA tokenB = .ok pair ↔
      c.getPair tokenA tokenB ≠ Address.zero ∧ c.getPair tokenA tokenB = pair := by
  unfold getPairOrRevert
  simp only [bind_eq_ok, require_eq_ok, pure_eq_ok]
  constructor
  · rintro ⟨_, hne, rfl⟩
    exact ⟨hne, rfl⟩
  · rintro ⟨hne, rfl⟩
    exact ⟨(), hne, rfl⟩

/-- One hop seen from its pair: which of the two tokens goes in. -/
structure Oriented (c : Chain) (input output : Address) (p : Pair) (reserveIn reserveOut : Nat) :
    Prop where
  exists_pair : c.getPair input output ≠ Address.zero
  sort : sortTokens input output = .ok (p.token0, p.token1)
  side : (p.token0 = input ∧ p.token1 = output ∧ p.reserve0 = reserveIn ∧
      p.reserve1 = reserveOut) ∨
    (p.token0 = output ∧ p.token1 = input ∧ p.reserve0 = reserveOut ∧ p.reserve1 = reserveIn)
  ne : input ≠ output

theorem oriented_of_sorted {input output : Address} {p : Pair} {reserveIn reserveOut : Nat}
    (hstorage : c.pairs (c.getPair input output) = some p)
    (horder : (p.token0, p.token1) = if input < output then (input, output) else (output, input))
    (hreserves : getReserves c input output = .ok (reserveIn, reserveOut)) :
    Oriented c input output p reserveIn reserveOut := by
  simp only [getReserves, bind_eq_ok, sortTokens_eq_ok, getPairOrRevert_eq_ok, Chain.pairAt_eq_ok,
    pure_eq_ok] at hreserves
  obtain ⟨⟨token0, token1⟩, ⟨hne, hzero, hsorted⟩, pair, ⟨hexists, rfl⟩, q, hq, hread⟩ := hreserves
  obtain rfl := Option.some.inj (hstorage.symm.trans hq)
  have htokens := horder.trans hsorted
  simp only [Prod.mk.injEq] at htokens
  obtain ⟨rfl, rfl⟩ := htokens
  refine ⟨hexists, sortTokens_eq_ok.mpr ⟨hne, hzero, hsorted⟩, ?_, hne⟩
  by_cases hlt : input < output
  · simp only [if_pos hlt, Prod.mk.injEq] at hsorted
    rw [if_pos hsorted.1, Prod.mk.injEq] at hread
    exact .inl ⟨hsorted.1.symm, hsorted.2.symm, hread⟩
  · simp only [if_neg hlt, Prod.mk.injEq] at hsorted
    rw [if_neg (hsorted.1 ▸ hne), Prod.mk.injEq] at hread
    exact .inr ⟨hsorted.1.symm, hsorted.2.symm, hread.2, hread.1⟩

theorem HopReady.oriented {input output : Address} {p : Pair} {reserveIn reserveOut : Nat}
    (hhop : HopReady c input output p)
    (hreserves : getReserves c input output = .ok (reserveIn, reserveOut)) :
    Oriented c input output p reserveIn reserveOut :=
  oriented_of_sorted hhop.storage hhop.sorted hreserves

/-- The outputs of a hop, as `_swap` passes them to the pair. -/
def hopOutputs (p : Pair) (input : Address) (amountOut : Nat) : Nat × Nat :=
  if input = p.token0 then (0, amountOut) else (amountOut, 0)

theorem swapHop_eq_ok {router input output dst : Address} {rest : List Address} {p : Pair}
    {reserveIn reserveOut y : Nat} (ho : Oriented c input output p reserveIn reserveOut) :
    swapHop router input output rest y dst c = .ok c' ↔
      ∃ d, hopReceiver c output rest dst = .ok d ∧
        FluxSwapPair.swap (c.getPair input output) router (hopOutputs p input y).1
          (hopOutputs p input y).2 d pure c = .ok (c', ()) := by
  unfold swapHop
  rw [ho.sort]
  simp only [ok_bind, bind_eq_ok, getPairOrRevert_eq_ok, pure_eq_ok]
  constructor
  · rintro ⟨d, hd, _, ⟨-, rfl⟩, ⟨c₁, u⟩, hswap, rfl⟩
    exact ⟨d, hd, hswap⟩
  · rintro ⟨d, hd, hswap⟩
    exact ⟨d, hd, _, ⟨ho.exists_pair, rfl⟩, _, hswap, rfl⟩

theorem admits_of_standard {t src a : Address} {path : List Address} (hstandard : StandardTokens c path)
    (ht : t ∈ path) (hsrc : src ≠ Address.zero) (ha : a ≠ Address.zero) :
    c.admits t src a = true := by
  unfold Chain.admits
  split
  · simp [hsrc, ha]
  · simp [hstandard t ht a ha]

/-- A funded and quoted hop is ready, whatever its receiver. -/
theorem HopReady.swapReady {input output : Address} {rest : List Address} {p : Pair}
    {reserveIn reserveOut x y : Nat} (hhop : HopReady c input output p)
    (hstandard : StandardTokens c (input :: output :: rest))
    (ho : Oriented c input output p reserveIn reserveOut)
    (hquoted : Quoted reserveIn reserveOut x y) (hx : 0 < x) (hy : 0 < y)
    (hfunded : reserveIn + x ≤ c.tokens.balanceOf input (c.getPair input output))
    (hfitIn : c.tokens.balanceOf input (c.getPair input output) ≤ FluxSwapPair.maxUint112)
    (hfitOut : c.tokens.balanceOf output (c.getPair input output) ≤ FluxSwapPair.maxUint112) :
    FluxSwapPair.SwapReady c (c.getPair input output) p (hopOutputs p input y).1
      (hopOutputs p input y).2 := by
  have hcovered := hhop.covered
  have hpositive := hhop.positive
  have htreasury : c.treasury ≠ Address.zero →
      c.admits input (c.getPair input output) c.treasury = true ∧
        c.admits output (c.getPair input output) c.treasury = true := fun ht =>
    ⟨admits_of_standard hstandard (by simp) ho.exists_pair ht,
      admits_of_standard hstandard (by simp) ho.exists_pair ht⟩
  have hclock := hhop.clock
  have hout := hquoted.out
  unfold hopOutputs
  -- the input is the first or the second token of the pair
  rcases ho.side with ⟨h0, h1, hr0, hr1⟩ | ⟨h0, h1, hr0, hr1⟩
  · rw [if_pos h0.symm]
    rw [h0, h1, hr0, hr1] at hcovered
    refine ⟨hhop.storage, by rw [h0, h1]; exact ho.ne, .inr hy, ?_, ?_, ?_, ?_, ?_, hclock⟩
    · rw [h0, hr0]
      exact ⟨by rw [hr0] at hpositive; exact hpositive.1, hcovered.1, hfitIn⟩
    · rw [h1, hr1]
      exact ⟨hout, hcovered.2, hfitOut⟩
    · left
      rw [h0, hr0]
      omega
    · rw [h0, h1, hr0, hr1]
      exact hquoted.product (by omega) _
    · rw [h0, h1]
      exact htreasury
  · rw [if_neg (by rw [h0]; exact ho.ne)]
    rw [h0, h1, hr0, hr1] at hcovered
    refine ⟨hhop.storage, by rw [h0, h1]; exact ho.ne.symm, .inl hy, ?_, ?_, ?_, ?_, ?_, hclock⟩
    · rw [h0, hr0]
      exact ⟨hout, hcovered.1, hfitOut⟩
    · rw [h1, hr1]
      exact ⟨by rw [hr1] at hpositive; exact hpositive.2, hcovered.2, hfitIn⟩
    · right
      rw [h1, hr1]
      omega
    · rw [h0, h1, hr0, hr1, Nat.mul_comm reserveOut, Nat.mul_comm (_ + _)]
      exact hquoted.product (by omega) _
    · rw [h0, h1]
      exact fun ht => (htreasury ht).symm

/-- The receiver of a hop can be paid when it is neither token and the output admits it. -/
theorem receiverReady_iff {input output d : Address} {p : Pair} {reserveIn reserveOut y : Nat}
    (ho : Oriented c input output p reserveIn reserveOut) (hy : 0 < y) :
    FluxSwapPair.ReceiverReady c (c.getPair input output) p (hopOutputs p input y).1
        (hopOutputs p input y).2 d ↔
      d ≠ input ∧ d ≠ output ∧ c.admits output (c.getPair input output) d = true := by
  unfold hopOutputs
  rcases ho.side with ⟨h0, h1, -, -⟩ | ⟨h0, h1, -, -⟩
  · rw [if_pos h0.symm]
    constructor
    · rintro ⟨hd0, hd1, -, hadmits⟩
      exact ⟨h0 ▸ hd0, h1 ▸ hd1, h1 ▸ hadmits hy⟩
    · rintro ⟨hd0, hd1, hadmits⟩
      exact ⟨h0.symm ▸ hd0, h1.symm ▸ hd1, fun h => absurd h (lt_irrefl 0), fun _ => h1.symm ▸ hadmits⟩
  · rw [if_neg (by rw [h0]; exact ho.ne)]
    constructor
    · rintro ⟨hd0, hd1, hadmits, -⟩
      exact ⟨h1 ▸ hd1, h0 ▸ hd0, h0 ▸ hadmits hy⟩
    · rintro ⟨hd0, hd1, hadmits⟩
      exact ⟨h0.symm ▸ hd1, h1.symm ▸ hd0, fun _ => h0.symm ▸ hadmits, fun h => absurd h (lt_irrefl 0)⟩

/-! ## What a hop leaves for the next ones -/

/-- A hop of `pair` is over: all other pairs have their storage and lost nothing. -/
structure Passed (pair : Address) (c c' : Chain) : Prop where
  env : FluxSwapPair.SameEnv c c'
  pairs : ∀ q, q ≠ pair → c'.pairs q = c.pairs q
  stays : (∃ p, c.pairs pair = some p) ∧ ∃ p, c'.pairs pair = some p
  balance : ∀ t a, a ≠ pair → c.tokens.balanceOf t a ≤ c'.tokens.balanceOf t a

theorem Passed.admits {pair : Address} (h : Passed pair c c') (t src a : Address) :
    c'.admits t src a = c.admits t src a := by
  obtain ⟨⟨p, hp⟩, p', hp'⟩ := h.stays
  unfold Chain.admits
  by_cases ht : t = pair
  · subst ht
    rw [hp, hp']
  · rw [h.pairs t ht, h.env.refuses]

theorem Passed.hopReady {pair input output : Address} {p : Pair} (h : Passed pair c c')
    (hne : c.getPair input output ≠ pair) (hhop : HopReady c input output p) :
    HopReady c' input output p := by
  refine ⟨?_, hhop.sorted, hhop.opened, hhop.positive, ?_, ?_⟩
  · rw [h.env.getPair, h.pairs _ hne]
    exact hhop.storage
  · rw [h.env.getPair]
    exact ⟨hhop.covered.1.trans (h.balance _ _ hne), hhop.covered.2.trans (h.balance _ _ hne)⟩
  · rw [h.env.timestamp]
    exact hhop.clock

theorem Passed.getReserves {pair input output : Address} (h : Passed pair c c')
    (hne : c.getPair input output ≠ pair) : getReserves c' input output = getReserves c input output := by
  have hpair : c'.pairAt (c.getPair input output) = c.pairAt (c.getPair input output) := by
    unfold Chain.pairAt
    rw [h.pairs _ hne]
  unfold FluxSwapRouter.getReserves getPairOrRevert
  simp only [h.env.getPair, bind_assoc, pure_bind, hpair]

theorem Passed.hopPairs {pair : Address} (h : Passed pair c c') (path : List Address) :
    hopPairs c' path = hopPairs c path :=
  hopPairs_congr h.env.getPair path

theorem Passed.quotedAlong {pair : Address} (h : Passed pair c c') {path : List Address}
    {amounts : List Nat} (hne : pair ∉ FluxSwapRouter.hopPairs c path)
    (hquoted : QuotedAlong c amounts path) : QuotedAlong c' amounts path := by
  induction path generalizing amounts with
  | nil => simp [QuotedAlong] at hquoted
  | cons input rest ih =>
    cases rest with
    | nil =>
      match amounts, hquoted with
      | [_], _ => trivial
    | cons output rest =>
      match amounts, hquoted with
      | x :: y :: amounts, ⟨⟨reserveIn, reserveOut, hreserves, hquote⟩, htail⟩ =>
        simp only [FluxSwapRouter.hopPairs, List.mem_cons, not_or] at hne
        refine ⟨⟨reserveIn, reserveOut, ?_, hquote⟩, ih hne.2 htail⟩
        rw [h.getReserves (Ne.symm hne.1), hreserves]

theorem Passed.receiverAdmitted {pair dst : Address} (h : Passed pair c c') (path : List Address) :
    ReceiverAdmitted c' dst path ↔ ReceiverAdmitted c dst path := by
  induction path with
  | nil => exact Iff.rfl
  | cons input rest ih =>
    match rest with
    | [] => exact ih
    | [output] =>
      simp only [ReceiverAdmitted, h.admits, h.env.getPair]
    | output :: next :: rest => exact ih

theorem Passed.pathReady {pair : Address} (h : Passed pair c c') {path : List Address}
    (hne : pair ∉ FluxSwapRouter.hopPairs c path) (hready : PathReady c path) :
    PathReady c' path := by
  refine ⟨?_, ?_, ?_, ?_⟩
  · have hhops := hready.hops
    clear hready
    induction path with
    | nil => exact .nil
    | cons input rest ih =>
      cases rest with
      | nil => exact .singleton _
      | cons output rest =>
        simp only [FluxSwapRouter.hopPairs, List.mem_cons, not_or] at hne
        rw [List.isChain_cons_cons] at hhops ⊢
        obtain ⟨p, hp⟩ := hhops.1
        exact ⟨⟨p, h.hopReady (Ne.symm hne.1) hp⟩, ih hne.2 hhops.2⟩
  · rw [h.hopPairs]
    exact hready.distinct
  · rw [h.hopPairs]
    exact hready.apart
  · intro t ht a ha
    rw [h.env.refuses]
    exact hready.standard t ht a ha

/-- What a hop moves to its receiver. -/
theorem swapHop_passed {router input output dst : Address} {rest : List Address} {p : Pair}
    {reserveIn reserveOut y : Nat} (hhop : HopReady c input output p)
    (ho : Oriented c input output p reserveIn reserveOut)
    (h : swapHop router input output rest y dst c = .ok c') :
    Passed (c.getPair input output) c c' ∧
      ∃ d, hopReceiver c output rest dst = .ok d ∧ (d ≠ c.getPair input output →
        c.tokens.balanceOf output d + y ≤ c'.tokens.balanceOf output d) := by
  obtain ⟨d, hd, hswap⟩ := (swapHop_eq_ok ho).mp h
  obtain ⟨fee0, fee1, htokens, henv, hpairs, p', hstays, -⟩ :=
    FluxSwapPair.swap_effect hhop.storage hswap
  have hle : ∀ (l : Tokens) t src v a t', a ≠ src → l.balanceOf t' a ≤ (l.move t src d v).balanceOf t' a :=
    fun l t src v a t' ha => l.balanceOf_le_move t src d v ha t'
  refine ⟨⟨henv, hpairs, ⟨⟨p, hhop.storage⟩, p', hstays⟩, fun t a ha => ?_⟩, d, hd, fun hne => ?_⟩
  · rw [htokens]
    exact ((hle _ _ _ _ _ _ ha).trans (hle _ _ _ _ _ _ ha)).trans
      ((Ledger.balanceOf_le_move _ _ _ _ _ ha _).trans (Ledger.balanceOf_le_move _ _ _ _ _ ha _))
  · rw [htokens]
    refine le_trans ?_ ((Ledger.balanceOf_le_move _ _ _ _ _ hne _).trans
      (Ledger.balanceOf_le_move _ _ _ _ _ hne _))
    unfold hopOutputs
    rcases ho.side with ⟨h0, h1, -, -⟩ | ⟨h0, h1, -, -⟩
    · rw [if_pos h0.symm, Ledger.move_zero, h1, Ledger.balanceOf_move_dst _ _ _ _ _ hne.symm]
    · rw [if_neg (by rw [h0]; exact ho.ne), Ledger.move_zero, h0,
        Ledger.balanceOf_move_dst _ _ _ _ _ hne.symm]

/-! ## The whole path -/

/-- The input side of a hop is covered. -/
theorem HopReady.reserveIn_le {input output : Address} {p : Pair} {reserveIn reserveOut : Nat}
    (hhop : HopReady c input output p) (ho : Oriented c input output p reserveIn reserveOut) :
    reserveIn ≤ c.tokens.balanceOf input (c.getPair input output) := by
  have hcovered := hhop.covered
  rcases ho.side with ⟨h0, -, hr0, -⟩ | ⟨-, h1, -, hr1⟩
  · rw [h0, hr0] at hcovered
    exact hcovered.1
  · rw [h1, hr1] at hcovered
    exact hcovered.2

theorem swapHop_isOk_iff {input output dst : Address} {rest : List Address} {p : Pair}
    (router : Address) {reserveIn reserveOut y : Nat} (hhop : HopReady c input output p)
    (ho : Oriented c input output p reserveIn reserveOut) (hy : 0 < y)
    (hswap : FluxSwapPair.SwapReady c (c.getPair input output) p (hopOutputs p input y).1
      (hopOutputs p input y).2) {d : Address} (hd : hopReceiver c output rest dst = .ok d) :
    (∃ c', swapHop router input output rest y dst c = .ok c') ↔
      d ≠ input ∧ d ≠ output ∧ c.admits output (c.getPair input output) d = true := by
  rw [← receiverReady_iff ho hy, ← FluxSwapPair.swap_isOk_iff router d hhop.opened hswap]
  refine exists_congr fun c' => (swapHop_eq_ok ho).trans ⟨?_, fun h => ⟨d, hd, h⟩⟩
  rintro ⟨d', hd', h⟩
  obtain rfl : d' = d := Except.ok.inj (hd'.symm.trans hd)
  exact h

/-- The induction over the path: quoted amounts go through if and only if the last
    pair can pay the receiver. -/
theorem swapAlong_isOk_iff {router dst : Address} {path : List Address} {amounts : List Nat}
    (hlen : 2 ≤ path.length) (hready : PathReady c path) (hquoted : QuotedAlong c amounts path)
    (hpos : ∀ a ∈ amounts, 0 < a) (hfunded : Funded c amounts path)
    (hfits : FitsAlong router amounts path dst c) :
    (∃ c', swapAlong router amounts path dst c = .ok c') ↔ ReceiverAdmitted c dst path := by
  induction path generalizing c amounts with
  | nil => simp at hlen
  | cons input rest ih =>
    match rest, amounts, hquoted with
    | [], _, _ => simp at hlen
    | output :: rest, x :: y :: amounts, ⟨⟨reserveIn, reserveOut, hreserves, hquote⟩, htail⟩ =>
      obtain ⟨⟨p, hhop⟩, hrest⟩ := List.isChain_cons_cons.mp hready.hops
      have ho := hhop.oriented hreserves
      have hx := hpos x (by simp)
      have hy := hpos y (by simp)
      have hswap := hhop.swapReady hready.standard ho hquote hx hy (hfunded _ _ hreserves)
        hfits.1.1 hfits.1.2
      have hstep : ∀ c', swapAlong router (x :: y :: amounts) (input :: output :: rest) dst c = .ok c' ↔
          ∃ c₁, swapHop router input output rest y dst c = .ok c₁ ∧
            swapAlong router (y :: amounts) (output :: rest) dst c₁ = .ok c' := fun c' => by
        rw [swapAlong, bind_eq_ok]
      match rest, htail with
      | [], _ =>
        -- the last hop pays the receiver
        have hd : hopReceiver c output [] dst = .ok dst := rfl
        refine Iff.trans ⟨?_, ?_⟩ (swapHop_isOk_iff router hhop ho hy hswap hd)
        · rintro ⟨c', hc'⟩
          obtain ⟨c₁, hc₁, -⟩ := (hstep c').mp hc'
          exact ⟨c₁, hc₁⟩
        · rintro ⟨c₁, hc₁⟩
          exact ⟨c₁, (hstep c₁).mpr ⟨c₁, hc₁, by simp [swapAlong]⟩⟩
      | next :: rest, htail =>
        -- an inner hop pays the next pair, which is no token of the path
        obtain ⟨z, amounts, rfl⟩ : ∃ z zs, amounts = z :: zs := by
          cases amounts with
          | nil => simp [QuotedAlong] at htail
          | cons z zs => exact ⟨z, zs, rfl⟩
        obtain ⟨⟨reserveIn', reserveOut', hreserves', -⟩, -⟩ := id htail
        obtain ⟨⟨p', hhop'⟩, -⟩ := List.isChain_cons_cons.mp hrest
        have ho' := hhop'.oriented hreserves'
        have hdistinct := hready.distinct
        simp only [hopPairs, List.nodup_cons, List.mem_cons, not_or] at hdistinct
        have hnext : c.getPair output next ≠ c.getPair input output := Ne.symm hdistinct.1.1
        have hapart := hready.apart
        have hmem : c.getPair output next ∈ hopPairs c (input :: output :: next :: rest) := by
          simp [hopPairs]
        have hd : hopReceiver c output (next :: rest) dst = .ok (c.getPair output next) :=
          getPairOrRevert_eq_ok.mpr ⟨ho'.exists_pair, rfl⟩
        obtain ⟨c₁, hc₁⟩ := (swapHop_isOk_iff router hhop ho hy hswap hd).mpr
          ⟨fun h => hapart input (by simp) (h ▸ hmem),
            fun h => hapart output (by simp) (Eq.subst (motive := (· ∈ hopPairs c _)) h hmem),
            admits_of_standard hready.standard (by simp) ho.exists_pair ho'.exists_pair⟩
        obtain ⟨hpassed, d, hd', hpaid⟩ := swapHop_passed hhop ho hc₁
        obtain rfl : c.getPair output next = d := Except.ok.inj (hd.symm.trans hd')
        have hnotin : c.getPair input output ∉ hopPairs c (output :: next :: rest) := by
          simp only [hopPairs, List.mem_cons, not_or]
          exact hdistinct.1
        have hready' : PathReady c (output :: next :: rest) :=
          ⟨hrest, hready.distinct.of_cons, fun t ht hmem => hapart t (List.mem_cons_of_mem _ ht)
            (List.mem_cons_of_mem _ hmem), fun t ht => hready.standard t (List.mem_cons_of_mem _ ht)⟩
        have hfunded' : Funded c₁ (y :: z :: amounts) (output :: next :: rest) := by
          intro rIn rOut hr
          rw [hpassed.getReserves hnext, hreserves', Except.ok.injEq, Prod.mk.injEq] at hr
          obtain ⟨rfl, rfl⟩ := hr
          rw [hpassed.env.getPair]
          have hcovered := hhop'.reserveIn_le ho'
          have hmore := hpaid hnext
          omega
        have hih := ih (by simp) (hpassed.pathReady hnotin hready')
          (hpassed.quotedAlong hnotin htail) (fun a ha => hpos a (List.mem_cons_of_mem _ ha))
          hfunded' (hfits.2 c₁ hc₁)
        rw [hpassed.receiverAdmitted] at hih
        refine Iff.trans ⟨?_, ?_⟩ hih
        · rintro ⟨c', hc'⟩
          obtain ⟨c₂, hc₂, hrun⟩ := (hstep c').mp hc'
          obtain rfl := Except.ok.inj (hc₁.symm.trans hc₂)
          exact ⟨c', hrun⟩
        · rintro ⟨c', hc'⟩
          exact ⟨c', (hstep c').mpr ⟨c₁, hc₁, hc'⟩⟩

/-- Whatever the router quotes, exact in or exact out, its swap passes every check of
    every pair on the path, provided that the last pair can pay the receiver; and it
    fails if that pair cannot. -/
theorem quotes_executable {router dst : Address} {path : List Address} {amounts : List Nat}
    (hready : PathReady c path)
    (hamounts : (∃ amountIn, getAmountsOut c amountIn path = .ok amounts) ∨
      ∃ amountOut, getAmountsIn c amountOut path = .ok amounts)
    (hpos : ∀ a ∈ amounts, 0 < a) (hfunded : Funded c amounts path)
    (hfits : FitsAlong router amounts path dst c) :
    (∃ c', swapAlong router amounts path dst c = .ok c') ↔ ReceiverAdmitted c dst path := by
  have hquoted : 2 ≤ path.length ∧ QuotedAlong c amounts path := by
    rcases hamounts with ⟨amountIn, h⟩ | ⟨amountOut, h⟩
    · simp only [getAmountsOut, bind_eq_ok, require_eq_ok] at h
      obtain ⟨_, hlen, h⟩ := h
      exact ⟨hlen, (amountsOutFrom_quoted (List.ne_nil_of_length_pos (by omega)) h).2⟩
    · simp only [getAmountsIn, bind_eq_ok, require_eq_ok] at h
      obtain ⟨_, hlen, h⟩ := h
      exact ⟨hlen, (amountsInFrom_quoted (List.ne_nil_of_length_pos (by omega)) h).2⟩
  exact swapAlong_isOk_iff hquoted.1 hready hquoted.2 hpos hfunded hfits

/-! ## One quoted hop -/

namespace Example

def router : Address := 1
def alice : Address := 2
def treasury : Address := 3
def tokenA : Address := 4
def tokenB : Address := 5
def pairAB : Address := 6

def storageAB : Pair where
  token0 := tokenA
  token1 := tokenB
  reserve0 := 1000000
  reserve1 := 4000000
  blockTimestampLast := 90
  price0CumulativeLast := 0
  price1CumulativeLast := 0
  unlocked := 1
  totalSupply := 2000000
  nonces := fun _ => 0

/-- A pair that has just been paid 10000 of `tokenA`. -/
def paid : Chain where
  tokens := {
    balanceOf := fun t a =>
      if a = pairAB then (if t = tokenA then 1010000 else if t = tokenB then 4000000 else 0) else 0
    allowance := fun _ _ _ => 0
    refuses := fun _ a => a = Address.zero }
  eth := fun _ => 0
  timestamp := 100
  treasury := treasury
  getPair := fun _ _ => pairAB
  pairs := fun a => if a = pairAB then some storageAB else none
  logs := []

def path : List Address := [tokenA, tokenB]
def amounts : List Nat := [10000, 39486]

theorem paid_ready : PathReady paid path where
  hops := by
    refine List.isChain_cons_cons.mpr ⟨⟨storageAB, ?_⟩, .singleton _⟩
    exact ⟨rfl, by decide, by decide, by decide, by decide, ⟨by decide, fun _ => by decide⟩⟩
  distinct := by simp [hopPairs, path]
  apart t ht := by
    simp only [path, List.mem_cons, List.not_mem_nil, or_false] at ht
    rw [show hopPairs paid path = [pairAB] from rfl, List.mem_singleton]
    rcases ht with rfl | rfl <;> decide
  standard t _ a ha := decide_eq_false ha

theorem paid_funded : Funded paid amounts path := by
  intro reserveIn reserveOut h
  have hr : getReserves paid tokenA tokenB = .ok (1000000, 4000000) := by decide
  simp only [hr, Except.ok.injEq, Prod.mk.injEq] at h
  obtain ⟨rfl, rfl⟩ := h
  decide

theorem paid_fits (dst : Address) : FitsAlong router amounts path dst paid :=
  ⟨by decide, fun _ _ => trivial⟩

end Example

open Example in
theorem quotes_executable_paid :
    getAmountsOut paid 10000 path = .ok amounts ∧
      ∃ c', swapAlong router amounts path alice paid = .ok c' := by
  have hamounts : getAmountsOut paid 10000 path = .ok amounts := by decide
  refine ⟨hamounts, (quotes_executable paid_ready (.inl ⟨10000, hamounts⟩) (by decide) paid_funded
    (paid_fits alice)).mpr ?_⟩
  exact ⟨by decide, by decide, by decide⟩

/-- A quote fails at the pair when the receiver is the token that is paid out. -/
theorem not_executable_to_token :
    ∃ c path amounts router dst, PathReady c path ∧ getAmountsOut c 10000 path = .ok amounts ∧
      (∀ a ∈ amounts, 0 < a) ∧ Funded c amounts path ∧ FitsAlong router amounts path dst c ∧
      swapAlong router amounts path dst c = .error (.message "FluxSwap: INVALID_TO") :=
  ⟨Example.paid, Example.path, Example.amounts, Example.router, Example.tokenB, Example.paid_ready,
    by decide, by decide, Example.paid_funded, Example.paid_fits _, rfl⟩

end FluxSwapRouter
