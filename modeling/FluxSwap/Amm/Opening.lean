-- SUMMARY: Opening a pool through the router: exactly which pairs without LP can still get a first deposit.
import FluxSwap.Amm.Oracle
import FluxSwap.Amm.Representation
import FluxSwap.Amm.Provision
import FluxSwap.Amm.SquareRoot

/-!
# The first deposit

The pair mints its first LP when its supply is zero. The router takes a deposit as the
first one when both reserves are zero. Anybody can move a balance into the reserves with
`sync` before there is any LP, and then the two no longer agree.
-/

open Exec

namespace FluxSwapPair

variable {c c' : Chain} {pair sender dst : Address} {p : Pair}

/-! ## The first mint -/

/-- The least product of two amounts for which `mint` leaves some LP above the minimum. -/
def MINIMUM_PRODUCT : Nat := (MINIMUM_LIQUIDITY + 1) ^ 2

/-- A first mint with these balances goes through: they fit, the clock runs, and what exceeds
    the reserves is worth more than the locked minimum. -/
structure FirstMint (timestamp : Nat) (p : Pair) (reserveA reserveB balanceA balanceB : Nat) :
    Prop where
  covered : reserveA ≤ balanceA ∧ reserveB ≤ balanceB
  fits : balanceA ≤ maxUint112 ∧ balanceB ≤ maxUint112
  timely : Timely timestamp p
  enough : MINIMUM_PRODUCT ≤ (balanceA - reserveA) * (balanceB - reserveB)

theorem FirstMint.swap {timestamp reserveA reserveB balanceA balanceB : Nat}
    (h : FirstMint timestamp p reserveA reserveB balanceA balanceB) :
    FirstMint timestamp p reserveB reserveA balanceB balanceA :=
  ⟨h.covered.symm, h.fits.symm, h.timely, Nat.mul_comm (balanceA - reserveA) _ ▸ h.enough⟩

theorem product_fits {x y : Nat} (hx : x ≤ maxUint112) (hy : y ≤ maxUint112) :
    x * y ≤ Uint256.max := by
  have hproduct : x * y ≤ maxUint112 * maxUint112 := Nat.mul_le_mul hx hy
  unfold maxUint112 at hproduct
  unfold Uint256.max
  omega

theorem minimum_lt_sqrt_iff {product : Nat} :
    MINIMUM_LIQUIDITY < Nat.sqrt product ↔ MINIMUM_PRODUCT ≤ product := by
  unfold MINIMUM_PRODUCT
  exact Nat.le_sqrt'

theorem lpMint_isOk {value : Nat} (dst : Address) (hp : c.pairs pair = some p)
    (hfits : p.totalSupply + value ≤ Uint256.max) :
    ∃ c', FluxSwapERC20.mint c pair dst value = .ok c' := by
  simp only [FluxSwapERC20.mint, bind_eq_ok, Chain.pairAt_eq_ok, Uint256.add_eq_ok, pure_eq_ok]
  exact ⟨_, p, hp, _, ⟨hfits, rfl⟩, rfl⟩

theorem lpMint_clock {value : Nat} (h : FluxSwapERC20.mint c pair dst value = .ok c') :
    c'.timestamp = c.timestamp := by
  obtain ⟨_, -, -, hframe, -⟩ := lpMint_spec h
  exact hframe.env.timestamp

theorem Timely.of_same {timestamp : Nat} {q : Pair} (h : Timely timestamp p)
    (hsame : SameOracle p q) : Timely timestamp q := by
  refine ⟨by rw [hsame.clock]; exact h.forward, fun h0 h1 => ?_⟩
  rw [hsame.reserve0] at h0 ⊢
  rw [hsame.reserve1] at h1 ⊢
  obtain ⟨hforward, hroom⟩ := h.runs h0 h1
  refine ⟨by rw [hsame.clock]; exact hforward, ?_⟩
  rw [hsame.clock, hsame.price0, hsame.price1]
  exact hroom

/-- Issuing LP, with or without the locked minimum, leaves oracles and clock alone. -/
theorem issued_oracle {c₁ : Chain} {amount0 amount1 liquidity : Nat}
    (hliquidity : mintedLiquidity c pair p amount0 amount1 = .ok (c₁, liquidity))
    (hissue : FluxSwapERC20.mint c₁ pair dst liquidity = .ok c') :
    Steady c c' ∧ c'.timestamp = c.timestamp := by
  refine ⟨(mintedLiquidity_steady hliquidity).trans (lpMint_steady hissue), ?_⟩
  rcases mintedLiquidity_cases hliquidity with ⟨-, hminimum, -⟩ | ⟨-, rfl, -⟩
  · exact (lpMint_clock hissue).trans (lpMint_clock hminimum)
  · exact lpMint_clock hissue

/-- The LP of the first deposit is the root of the product, less the locked minimum. -/
theorem firstLiquidity_eq {amount0 amount1 liquidity : Nat} (hempty : p.totalSupply = 0)
    (h : mintedLiquidity c pair p amount0 amount1 = .ok (c', liquidity)) :
    liquidity = Nat.sqrt (amount0 * amount1) - MINIMUM_LIQUIDITY ∧
      FluxSwapERC20.mint c pair Address.zero MINIMUM_LIQUIDITY = .ok c' := by
  unfold mintedLiquidity at h
  rw [if_pos hempty] at h
  simp only [bind_eq_ok, pure_eq_ok, Prod.mk.injEq] at h
  obtain ⟨_, hproduct, root, hroot, _, hliquidity, c₁, hminimum, rfl, rfl⟩ := h
  obtain ⟨hfits, rfl⟩ := Uint256.mul_eq_ok.mp hproduct
  obtain ⟨-, rfl⟩ := Uint256.sub_eq_ok.mp hliquidity
  rw [Math.sqrt_eq hfits] at hroot
  obtain rfl := Except.ok.inj hroot
  exact ⟨rfl, hminimum⟩

/-- LP that is left after the minimum comes from amounts that are worth more than it. -/
theorem firstLiquidity_enough {amount0 amount1 liquidity : Nat} (hempty : p.totalSupply = 0)
    (hpos : 0 < liquidity)
    (h : mintedLiquidity c pair p amount0 amount1 = .ok (c', liquidity)) :
    MINIMUM_PRODUCT ≤ amount0 * amount1 := by
  obtain ⟨hroot, -⟩ := firstLiquidity_eq hempty h
  exact minimum_lt_sqrt_iff.mp (by omega)

/-- Such amounts mint the minimum and some LP. -/
theorem firstLiquidity_isOk {amount0 amount1 : Nat} (hp : c.pairs pair = some p)
    (hempty : p.totalSupply = 0) (hfits : amount0 * amount1 ≤ Uint256.max)
    (henough : MINIMUM_PRODUCT ≤ amount0 * amount1) (dst : Address) :
    ∃ c₁ liquidity c', mintedLiquidity c pair p amount0 amount1 = .ok (c₁, liquidity) ∧
      0 < liquidity ∧ FluxSwapERC20.mint c₁ pair dst liquidity = .ok c' := by
  have hroot := minimum_lt_sqrt_iff.mpr henough
  have hle := Nat.sqrt_le_self (amount0 * amount1)
  obtain ⟨c₁, hminimum⟩ := lpMint_isOk Address.zero hp
    (show p.totalSupply + MINIMUM_LIQUIDITY ≤ Uint256.max by rw [hempty]; decide)
  obtain ⟨q, hq, -, -, hstored, -⟩ := lpMint_spec hminimum
  obtain rfl := Option.some.inj (hp.symm.trans hq)
  obtain ⟨c', hissue⟩ := lpMint_isOk dst hstored
    (show p.totalSupply + MINIMUM_LIQUIDITY + (Nat.sqrt (amount0 * amount1) - MINIMUM_LIQUIDITY) ≤
      Uint256.max by omega)
  refine ⟨c₁, _, c', ?_, Nat.sub_pos_of_lt hroot, hissue⟩
  unfold mintedLiquidity
  rw [if_pos hempty]
  simp only [bind_eq_ok, Uint256.mul_eq_ok, Uint256.sub_eq_ok, pure_eq_ok, Prod.mk.injEq]
  exact ⟨_, ⟨by omega, rfl⟩, _, Math.sqrt_eq hfits, _, ⟨hroot.le, rfl⟩, c₁, hminimum, rfl, rfl⟩

/-- The first mint of a pair succeeds exactly under these conditions. -/
theorem mint_first_iff (hp : c.pairs pair = some p) (hopen : p.unlocked = 1)
    (hempty : p.totalSupply = 0) :
    (∃ c' liquidity, mint pair sender dst c = .ok (c', liquidity)) ↔
      FirstMint c.timestamp p p.reserve0 p.reserve1 (c.tokens.balanceOf p.token0 pair)
        (c.tokens.balanceOf p.token1 pair) := by
  constructor
  · rintro ⟨c', liquidity, hmint⟩
    obtain ⟨q, c₁, p₁, hq, -, hbody, -, -⟩ := lock_spec hmint
    obtain rfl := Option.some.inj (hp.symm.trans hq)
    simp only [bind_eq_ok, Chain.pairAt_eq_ok, Chain.setPair_pairs, Function.update_self,
      Option.some.injEq, Uint256.sub_eq_ok, require_eq_ok, pure_eq_ok, Prod.mk.injEq] at hbody
    obtain ⟨_, rfl, _, ⟨hcover0, rfl⟩, _, ⟨hcover1, rfl⟩, ⟨c₂, L⟩, hliquidity, _, hpos, c₃, hissue,
      c₄, hupdate, -⟩ := hbody
    dsimp only [Chain.setPair_tokens] at hcover0 hcover1 hliquidity hpos hissue hupdate
    -- between the reading of the reserves and the update only LP moves
    obtain ⟨hsteady, hclock⟩ := issued_oracle hliquidity hissue
    obtain ⟨q₃, hq₃, hsame⟩ := hsteady.oracle pair { p with unlocked := 0 } (by simp)
    obtain ⟨-, -, htimely, -⟩ := update_accumulates hq₃ hsame.reserve0 hsame.reserve1 hupdate
    obtain ⟨_, _, -, -, -, -, -, hfits, -⟩ := update_spec hupdate
    refine ⟨⟨hcover0, hcover1⟩, hfits, ?_, ?_⟩
    · have hback : SameOracle q₃ p :=
        ⟨hsame.reserve0.symm, hsame.reserve1.symm, hsame.clock.symm, hsame.price0.symm,
          hsame.price1.symm⟩
      rw [hclock] at htimely
      exact htimely.of_same hback
    · exact firstLiquidity_enough hempty hpos hliquidity
  · rintro ⟨hcovered, hfits, htimely, henough⟩
    -- the body with the lock taken, step by step
    have hlocked : (c.setPair pair { p with unlocked := 0 }).pairs pair =
        some { p with unlocked := 0 } := by simp
    obtain ⟨c₁, liquidity, c₂, hliquidity, hpos, hissue⟩ :=
      firstLiquidity_isOk hlocked hempty (product_fits (by omega) (by omega)) henough dst
    obtain ⟨hsteady, hclock⟩ := issued_oracle hliquidity hissue
    obtain ⟨q₂, hq₂, hsame⟩ := hsteady.oracle pair _ hlocked
    have htimely₂ : Timely c₂.timestamp q₂ := by
      rw [hclock]
      exact htimely.of_same ⟨hsame.reserve0, hsame.reserve1, hsame.clock, hsame.price0, hsame.price1⟩
    obtain ⟨c₃, q₃, hupdate, hq₃, -⟩ := (updatesExactly_iff hq₂ hfits).mpr htimely₂
    rw [hsame.reserve0, hsame.reserve1] at hupdate
    have hbody : mint pair sender dst c =
        .ok ((c₃.emit (.mint pair sender (c.tokens.balanceOf p.token0 pair - p.reserve0)
          (c.tokens.balanceOf p.token1 pair - p.reserve1))).setPair pair
            { q₃ with unlocked := 1 }, liquidity) := by
      simp only [mint, lock, bind_eq_ok, Chain.pairAt_eq_ok, require_eq_ok, pure_eq_ok,
        Uint256.sub_eq_ok, Prod.mk.injEq, Prod.exists]
      refine ⟨p, hp, (), hopen, _, liquidity, ⟨_, hlocked, _, ⟨hcovered.1, rfl⟩, _,
        ⟨hcovered.2, rfl⟩, c₁, liquidity, hliquidity, (), hpos, c₂, hissue, c₃, hupdate, rfl, rfl⟩,
        q₃, hq₃, rfl, rfl⟩
    exact ⟨_, liquidity, hbody⟩

theorem mint_positive {liquidity : Nat} (h : mint pair sender dst c = .ok (c', liquidity)) :
    0 < liquidity := by
  obtain ⟨_, _, _, -, -, hbody, -, -⟩ := lock_spec h
  simp only [bind_eq_ok, require_eq_ok, pure_eq_ok, Prod.mk.injEq] at hbody
  obtain ⟨_, -, _, -, _, -, _, -, _, hpos, _, -, _, -, -, rfl⟩ := hbody
  exact hpos

/-! ## The LP of the first deposit -/

/-- The pair has no LP yet and holds these amounts beyond its reserves. -/
structure FirstDeposit (c : Chain) (pair : Address) (p : Pair) (amount0 amount1 : Nat) :
    Prop where
  storage : c.pairs pair = some p
  empty : p.totalSupply = 0
  balance0 : c.tokens.balanceOf p.token0 pair = p.reserve0 + amount0
  balance1 : c.tokens.balanceOf p.token1 pair = p.reserve1 + amount1

variable {amount0 amount1 liquidity : Nat}

theorem FirstDeposit.minted (h : FirstDeposit c pair p amount0 amount1)
    (hmint : mint pair sender dst c = .ok (c', liquidity)) :
    liquidity = Nat.sqrt (amount0 * amount1) - MINIMUM_LIQUIDITY ∧
      c'.tokens = (c.tokens.credit pair Address.zero MINIMUM_LIQUIDITY).credit pair dst
        liquidity := by
  obtain ⟨q, c₁, p₁, hq, -, hbody, -, rfl⟩ := lock_spec hmint
  obtain rfl := Option.some.inj (h.storage.symm.trans hq)
  simp only [bind_eq_ok, Chain.pairAt_eq_ok, Chain.setPair_pairs, Function.update_self,
    Option.some.injEq, Uint256.sub_eq_ok, require_eq_ok, pure_eq_ok, Prod.mk.injEq] at hbody
  obtain ⟨_, rfl, _, ⟨-, rfl⟩, _, ⟨-, rfl⟩, ⟨c₂, L⟩, hliquidity, _, -, c₃, hissue, c₄, hupdate,
    rfl, rfl⟩ := hbody
  dsimp only [Chain.setPair_tokens] at hliquidity hissue hupdate ⊢
  rw [h.balance0, h.balance1, Nat.add_sub_cancel_left, Nat.add_sub_cancel_left] at hliquidity
  obtain ⟨hroot, hminimum⟩ := firstLiquidity_eq h.empty hliquidity
  obtain ⟨_, -, -, -, -, hlocked⟩ := lpMint_spec hminimum
  obtain ⟨_, -, -, -, -, hissued⟩ := lpMint_spec hissue
  obtain ⟨_, _, -, -, -, -, -, -, -, hsame⟩ := update_spec hupdate
  refine ⟨hroot, ?_⟩
  show c₄.tokens = _
  rw [hsame, hissued, hlocked]
  rfl

/-- With balances that fit and a clock that runs, the first deposit goes through exactly if the
    root is above the minimum. -/
theorem FirstDeposit.mint_iff (h : FirstDeposit c pair p amount0 amount1)
    (hopen : p.unlocked = 1) (hfits : c.tokens.balanceOf p.token0 pair ≤ maxUint112 ∧
      c.tokens.balanceOf p.token1 pair ≤ maxUint112) (htimely : Timely c.timestamp p) :
    (∃ c' liquidity, mint pair sender dst c = .ok (c', liquidity)) ↔
      MINIMUM_LIQUIDITY < Nat.sqrt (amount0 * amount1) := by
  rw [mint_first_iff h.storage hopen h.empty, minimum_lt_sqrt_iff]
  constructor
  · intro hfirst
    have henough := hfirst.enough
    rwa [h.balance0, h.balance1, Nat.add_sub_cancel_left, Nat.add_sub_cancel_left] at henough
  · intro henough
    refine ⟨⟨?_, ?_⟩, hfits, htimely, ?_⟩
    · exact h.balance0 ▸ Nat.le_add_right _ _
    · exact h.balance1 ▸ Nat.le_add_right _ _
    · rwa [h.balance0, h.balance1, Nat.add_sub_cancel_left, Nat.add_sub_cancel_left]

/-- `Math.sqrt` halts on every `uint256` at the root rounded down, without a revert on the way.
    So the first deposit mints that root of the product less the locked minimum, and it reverts
    exactly if the root is no more than the minimum. -/
theorem firstDeposit_root :
    (∀ y ≤ Uint256.max, ∃ z, Math.sqrt y = .ok z ∧ (3 < y → Math.SqrtHalts y y (y / 2 + 1) z) ∧
      z * z ≤ y ∧ y < (z + 1) * (z + 1)) ∧
    ∀ c pair sender dst p amount0 amount1, FirstDeposit c pair p amount0 amount1 →
      (∀ c' liquidity, mint pair sender dst c = .ok (c', liquidity) →
        liquidity = Nat.sqrt (amount0 * amount1) - MINIMUM_LIQUIDITY ∧
        c'.tokens = (c.tokens.credit pair Address.zero MINIMUM_LIQUIDITY).credit pair dst
          liquidity) ∧
      (p.unlocked = 1 → c.tokens.balanceOf p.token0 pair ≤ maxUint112 →
        c.tokens.balanceOf p.token1 pair ≤ maxUint112 → Timely c.timestamp p →
        ((∃ r, mint pair sender dst c = .error r) ↔
          Nat.sqrt (amount0 * amount1) ≤ MINIMUM_LIQUIDITY)) := by
  constructor
  · intro y hy
    exact ⟨Nat.sqrt y, Math.sqrt_eq hy, fun hlarge => Math.sqrtHalts hy y (.start hlarge),
      Nat.sqrt_le y, Nat.lt_succ_sqrt y⟩
  · intro c pair sender dst p amount0 amount1 hfirst
    refine ⟨fun c' liquidity hmint => hfirst.minted hmint, ?_⟩
    intro hopen hfits0 hfits1 htimely
    have hiff : (∃ c' liquidity, mint pair sender dst c = .ok (c', liquidity)) ↔ _ :=
      hfirst.mint_iff hopen ⟨hfits0, hfits1⟩ htimely
    rw [← not_lt, ← hiff]
    cases hmint : mint pair sender dst c with
    | error r => simp
    | ok result => exact ⟨nofun, fun hnone => (hnone ⟨result.1, result.2, rfl⟩).elim⟩

end FluxSwapPair

namespace FluxSwapPair

/-- The fresh pair of the other runs, after two payments to it. -/
def Example.funded : Chain :=
  { Example.start with tokens := {
      balanceOf := fun t a =>
        if a ≠ Example.pair then 10 ^ 9
        else if t = Example.token0 then 10 ^ 6
        else if t = Example.token1 then 4 * 10 ^ 6
        else 0
      allowance := fun _ _ _ => 0
      refuses := fun _ _ => false } }

open Example in
theorem firstDeposit_root_funded : ∃ c' liquidity,
    mint pair alice alice funded = .ok (c', liquidity) ∧
      liquidity = Nat.sqrt (10 ^ 6 * (4 * 10 ^ 6)) - MINIMUM_LIQUIDITY := by
  have hfirst : FirstDeposit funded pair (Pair.created token0 token1) (10 ^ 6) (4 * 10 ^ 6) :=
    ⟨rfl, rfl, by decide, by decide⟩
  obtain ⟨hminted, hreverts⟩ :=
    firstDeposit_root.2 funded pair alice alice (Pair.created token0 token1) _ _ hfirst
  have hroot : ¬ Nat.sqrt (10 ^ 6 * (4 * 10 ^ 6)) ≤ MINIMUM_LIQUIDITY := by
    rw [not_le, minimum_lt_sqrt_iff]
    decide
  cases hmint : mint pair alice alice funded with
  | error r => exact absurd ((hreverts rfl (by decide) (by decide) (by decide)).mp ⟨r, hmint⟩) hroot
  | ok result => exact ⟨result.1, result.2, rfl, (hminted result.1 result.2 hmint).1⟩

end FluxSwapPair

namespace Chain

variable {c c' : Chain} {token spender src dst : Address} {value : Nat}

/-- A payment spends no allowance of another token. -/
theorem transferFrom_allowance (h : c.transferFrom token spender src dst value = some c')
    {t : Address} (ht : t ≠ token) : c'.tokens.allowance t = c.tokens.allowance t := by
  have happrove : ∀ left, (c.tokens.approve token src spender left).allowance t =
      c.tokens.allowance t := by
    intro left
    funext o s
    simp only [Ledger.approve, ht, false_and, if_false]
  obtain ⟨-, -, tokens, logs, rfl, hspent⟩ := transferFrom_effect h
  obtain ⟨-, rfl⟩ | ⟨-, rfl⟩ := hspent
  · rfl
  · exact happrove _

end Chain

namespace FluxSwapRouter

open FluxSwapPair (maxUint112 FirstMint MINIMUM_PRODUCT Timely)

variable {c c' : Chain} {router sender pair : Address} {p : Pair}
  {create2 : Address → Address → Address}

/-! ## The call -/

/-- The factory lists the pair under its sorted tokens, in both orders. -/
structure Registered (c : Chain) (pair : Address) (p : Pair) : Prop where
  storage : c.pairs pair = some p
  sorted : p.token0 < p.token1
  token0_ne : p.token0 ≠ Address.zero
  listed : c.getPair p.token0 p.token1 = pair
  swapped : c.getPair p.token1 p.token0 = pair

/-- The caller can pay any `uint112` of the token to the pair through the router. -/
structure Purse (c : Chain) (router sender pair token : Address) : Prop where
  balance : maxUint112 ≤ c.tokens.balanceOf token sender
  allowance : maxUint112 ≤ c.tokens.allowance token sender router
  admits : c.admits token sender pair = true

/-- A deposit of two tokens without minimums. -/
def freeDeposit (tokenA tokenB dst : Address) (amountADesired amountBDesired : Nat) :
    AddLiquidityParams where
  tokenA := tokenA
  tokenB := tokenB
  amountADesired := amountADesired
  amountBDesired := amountBDesired
  amountAMin := 0
  amountBMin := 0
  dst := dst

/-- A pair as a call names it: the tokens in either order, with their reserves. -/
structure Facing (c : Chain) (pair : Address) (p : Pair) (tokenA tokenB : Address)
    (reserveA reserveB : Nat) : Prop where
  storage : c.pairs pair = some p
  listed : c.getPair tokenA tokenB = pair
  reserves : getReserves c tokenA tokenB = .ok (reserveA, reserveB)
  side : (p.token0 = tokenA ∧ p.token1 = tokenB ∧ p.reserve0 = reserveA ∧ p.reserve1 = reserveB) ∨
    (p.token0 = tokenB ∧ p.token1 = tokenA ∧ p.reserve0 = reserveB ∧ p.reserve1 = reserveA)

theorem Registered.facing (h : Registered c pair p) (hpair : pair ≠ Address.zero) :
    Facing c pair p p.token0 p.token1 p.reserve0 p.reserve1 := by
  refine ⟨h.storage, h.listed, ?_, .inl ⟨rfl, rfl, rfl, rfl⟩⟩
  simp [getReserves, sortTokens, getPairOrRevert, h.sorted, h.sorted.ne, h.token0_ne, h.listed,
    hpair, require, Chain.pairAt, h.storage]

theorem Registered.facing_swapped (h : Registered c pair p) (hpair : pair ≠ Address.zero) :
    Facing c pair p p.token1 p.token0 p.reserve1 p.reserve0 := by
  refine ⟨h.storage, h.swapped, ?_, .inr ⟨rfl, rfl, rfl, rfl⟩⟩
  simp [getReserves, sortTokens, getPairOrRevert, h.sorted.ne', h.sorted.not_gt, h.token0_ne,
    h.swapped, hpair, require, Chain.pairAt, h.storage]

/-- The first mint of a pair, as a call names it. -/
theorem Facing.mint_iff {tokenA tokenB : Address} {reserveA reserveB : Nat} (sender dst : Address)
    (h : Facing c pair p tokenA tokenB reserveA reserveB) (hopen : p.unlocked = 1)
    (hempty : p.totalSupply = 0) :
    (∃ c' liquidity, FluxSwapPair.mint pair sender dst c = .ok (c', liquidity)) ↔
      FirstMint c.timestamp p reserveA reserveB (c.tokens.balanceOf tokenA pair)
        (c.tokens.balanceOf tokenB pair) := by
  rw [FluxSwapPair.mint_first_iff h.storage hopen hempty]
  rcases h.side with ⟨rfl, rfl, rfl, rfl⟩ | ⟨rfl, rfl, rfl, rfl⟩
  · exact Iff.rfl
  · exact ⟨.swap, .swap⟩

/-- What the pair holds after the two payments of a call. -/
theorem paid_balances {tokenA tokenB : Address} {x y : Nat} {c₁ : Chain}
    (htokens : tokenA ≠ tokenB) (hsender : sender ≠ pair)
    (hpayA : safeTransferFrom router tokenA sender pair x c = .ok c₁)
    (hpayB : safeTransferFrom router tokenB sender pair y c₁ = .ok c') :
    Chain.Quiet c c' ∧
      c'.tokens.balanceOf tokenA pair = c.tokens.balanceOf tokenA pair + x ∧
      c'.tokens.balanceOf tokenB pair = c.tokens.balanceOf tokenB pair + y := by
  have hquiet := (Chain.transferFrom_quiet (safeTransferFrom_eq_ok.mp hpayA)).trans
    (Chain.transferFrom_quiet (safeTransferFrom_eq_ok.mp hpayB))
  obtain ⟨-, -, hA⟩ := safeTransferFrom_adds hpayA
  obtain ⟨-, -, hB⟩ := safeTransferFrom_adds hpayB
  have hAA := hA tokenA pair
  have hAB := hA tokenB pair
  have hBA := hB tokenA pair
  have hBB := hB tokenB pair
  simp only [hsender.symm, and_false, if_false, Nat.add_zero, true_and, if_true, htokens.symm,
    htokens, false_and] at hAA hAB hBA hBB
  exact ⟨hquiet, by omega, by omega⟩

/-- A caller with both purses can pay. -/
theorem pays_both {tokenA tokenB : Address} {x y : Nat} (htokens : tokenA ≠ tokenB)
    (hpurseA : Purse c router sender pair tokenA) (hpurseB : Purse c router sender pair tokenB)
    (hx : x ≤ maxUint112) (hy : y ≤ maxUint112) :
    ∃ c₁ c', safeTransferFrom router tokenA sender pair x c = .ok c₁ ∧
      safeTransferFrom router tokenB sender pair y c₁ = .ok c' := by
  obtain ⟨c₁, hpayA⟩ := Chain.transferFrom_isSome (hx.trans hpurseA.balance)
    (hx.trans hpurseA.allowance) hpurseA.admits
  have hquiet := Chain.transferFrom_quiet hpayA
  have hallowance := Chain.transferFrom_allowance hpayA htokens.symm
  have hbalance : c₁.tokens.balanceOf tokenB sender = c.tokens.balanceOf tokenB sender := by
    rw [(Chain.transferFrom_spec hpayA).balances,
      Ledger.balanceOf_move_of_token_ne _ _ _ _ _ htokens.symm]
  have hpayB : ∃ c', c₁.transferFrom tokenB router sender pair y = some c' := by
    apply Chain.transferFrom_isSome
    · rw [hbalance]
      exact hy.trans hpurseB.balance
    · rw [hallowance]
      exact hy.trans hpurseB.allowance
    · rw [hquiet.admits]
      exact hpurseB.admits
  obtain ⟨c', hpayB⟩ := hpayB
  exact ⟨c₁, c', safeTransferFrom_eq_ok.mpr hpayA, safeTransferFrom_eq_ok.mpr hpayB⟩

theorem Facing.quiet {tokenA tokenB : Address} {reserveA reserveB : Nat}
    (h : Facing c pair p tokenA tokenB reserveA reserveB) (hquiet : Chain.Quiet c c') :
    Facing c' pair p tokenA tokenB reserveA reserveB where
  storage := by rw [hquiet.pairs]; exact h.storage
  listed := by rw [hquiet.env.getPair]; exact h.listed
  reserves := by rw [hquiet.getReserves]; exact h.reserves
  side := h.side

theorem Facing.ensurePair {tokenA tokenB : Address} {reserveA reserveB : Nat}
    (h : Facing c pair p tokenA tokenB reserveA reserveB) (hpair : pair ≠ Address.zero) :
    FluxSwapRouter.ensurePair create2 tokenA tokenB c = .ok c := by
  unfold FluxSwapRouter.ensurePair
  rw [if_neg (by rw [h.listed]; exact hpair)]
  rfl

/-- An empty pair and a caller who can pay for it. -/
structure Opener (c : Chain) (router sender pair : Address) (p : Pair) (tokenA tokenB : Address) :
    Prop where
  pair_ne : pair ≠ Address.zero
  opened : p.unlocked = 1
  empty : p.totalSupply = 0
  tokens_ne : tokenA ≠ tokenB
  sender_ne : sender ≠ pair
  purseA : Purse c router sender pair tokenA
  purseB : Purse c router sender pair tokenB

/-- A call succeeds when the first mint with the amounts it chooses does. -/
theorem addLiquidity_opens (create2 : Address → Address → Address) (dst : Address)
    {tokenA tokenB : Address} {reserveA reserveB a b x y deadline : Nat}
    (hfacing : Facing c pair p tokenA tokenB reserveA reserveB)
    (hopener : Opener c router sender pair p tokenA tokenB) (hdeadline : c.timestamp ≤ deadline)
    (hamounts : (freeDeposit tokenA tokenB dst a b).amounts reserveA reserveB = .ok (x, y))
    (hfirst : FirstMint c.timestamp p reserveA reserveB (c.tokens.balanceOf tokenA pair + x)
      (c.tokens.balanceOf tokenB pair + y)) :
    ∃ c' liquidity, addLiquidity create2 router sender (freeDeposit tokenA tokenB dst a b) deadline c =
      .ok (c', x, y, liquidity) ∧ 0 < liquidity := by
  have hx : x ≤ maxUint112 := (Nat.le_add_left x _).trans hfirst.fits.1
  have hy : y ≤ maxUint112 := (Nat.le_add_left y _).trans hfirst.fits.2
  obtain ⟨c₁, c₂, hpayA, hpayB⟩ := pays_both hopener.tokens_ne hopener.purseA hopener.purseB hx hy
  obtain ⟨hquiet, hheldA, hheldB⟩ :=
    paid_balances hopener.tokens_ne hopener.sender_ne hpayA hpayB
  have hmint := (hfacing.quiet hquiet).mint_iff router dst hopener.opened hopener.empty
  rw [hheldA, hheldB, hquiet.env.timestamp] at hmint
  obtain ⟨c', liquidity, hmint⟩ := hmint.mpr hfirst
  refine ⟨c', liquidity, ?_, FluxSwapPair.mint_positive hmint⟩
  simp only [addLiquidity, AddLiquidityParams.run, ensure, bind_eq_ok, require_eq_ok, pure_eq_ok,
    Prod.mk.injEq, Prod.exists]
  refine ⟨(), hdeadline, c, hfacing.ensurePair hopener.pair_ne, reserveA, reserveB, hfacing.reserves, x, y, hamounts, c₁, ?_,
    c₂, ?_, c', liquidity, ?_, rfl, rfl, rfl, rfl⟩
  · dsimp only [freeDeposit]
    rw [hfacing.listed]
    exact hpayA
  · dsimp only [freeDeposit]
    rw [hfacing.listed]
    exact hpayB
  · dsimp only [freeDeposit]
    rw [hfacing.listed]
    exact hmint

/-- A call that succeeds chose amounts with which the first mint goes through. -/
theorem addLiquidity_opens_only {tokenA tokenB dst : Address}
    {reserveA reserveB a b x y deadline liquidity : Nat}
    (hfacing : Facing c pair p tokenA tokenB reserveA reserveB)
    (hopener : Opener c router sender pair p tokenA tokenB)
    (h : addLiquidity create2 router sender (freeDeposit tokenA tokenB dst a b) deadline c =
      .ok (c', x, y, liquidity)) :
    (freeDeposit tokenA tokenB dst a b).amounts reserveA reserveB = .ok (x, y) ∧
      FirstMint c.timestamp p reserveA reserveB (c.tokens.balanceOf tokenA pair + x)
        (c.tokens.balanceOf tokenB pair + y) := by
  simp only [addLiquidity, AddLiquidityParams.run, bind_eq_ok, pure_eq_ok, Prod.mk.injEq] at h
  obtain ⟨_, -, c₀, hensure, ⟨rA, rB⟩, hreserves, ⟨x', y'⟩, hamounts, c₁, hpayA, c₂, hpayB,
    ⟨c₃, L⟩, hmint, rfl, rfl, rfl, rfl⟩ := h
  obtain rfl := Except.ok.inj ((hfacing.ensurePair hopener.pair_ne).symm.trans hensure)
  obtain ⟨rfl, rfl⟩ := Prod.mk.inj (Except.ok.inj (hfacing.reserves.symm.trans hreserves))
  dsimp only [freeDeposit] at hpayA hpayB hmint
  rw [hfacing.listed] at hpayA hpayB hmint
  obtain ⟨hquiet, hheldA, hheldB⟩ :=
    paid_balances hopener.tokens_ne hopener.sender_ne hpayA hpayB
  have hfirst := ((hfacing.quiet hquiet).mint_iff router dst hopener.opened hopener.empty).mp ⟨_, _, hmint⟩
  rw [hheldA, hheldB, hquiet.env.timestamp] at hfirst
  exact ⟨hamounts, hfirst⟩

/-! ## The amounts -/

/-- Amounts in the proportion of the reserves, of which one is the quote of the other. -/
def InProportion (reserveA reserveB x y : Nat) : Prop :=
  (0 < x ∧ y = x * reserveB / reserveA) ∨ (0 < y ∧ x = y * reserveA / reserveB)

theorem freeDeposit_amounts {tokenA tokenB dst : Address} {a b reserveA reserveB x y : Nat}
    (h : (freeDeposit tokenA tokenB dst a b).amounts reserveA reserveB = .ok (x, y)) :
    (reserveA = 0 ∧ reserveB = 0) ∨ (0 < reserveA ∧ 0 < reserveB ∧ InProportion reserveA reserveB x y) := by
  unfold AddLiquidityParams.amounts chooseAmounts at h
  split at h
  · exact .inl ‹_›
  · obtain ⟨quotedB, hquoteB, h⟩ := bind_eq_ok.mp h
    obtain ⟨ha, hA, hB, rfl⟩ := quote_eq_ok hquoteB
    refine .inr ⟨hA, hB, ?_⟩
    split at h
    · simp only [bind_eq_ok, pure_eq_ok, Prod.mk.injEq] at h
      obtain ⟨_, -, _, -, rfl, rfl⟩ := h
      exact .inl ⟨ha, rfl⟩
    · simp only [bind_eq_ok, pure_eq_ok, Prod.mk.injEq] at h
      obtain ⟨quotedA, hquoteA, _, -, _, -, _, -, rfl, rfl⟩ := h
      obtain ⟨hb, -, -, rfl⟩ := quote_eq_ok hquoteA
      exact .inr ⟨hb, rfl⟩

/-- Without reserves the amounts are the desired ones. -/
theorem freeDeposit_amounts_first {tokenA tokenB dst : Address} {a b : Nat} :
    (freeDeposit tokenA tokenB dst a b).amounts 0 0 = .ok (a, b) := by
  simp [AddLiquidityParams.amounts, chooseAmounts, freeDeposit, require, Except.pure, pure]

/-- The choice takes the quote of the first offer when the second one covers it. -/
theorem chooseAmounts_quoted {a b : Offer} {assertion : String} {reserveA reserveB y : Nat}
    (hA : 0 < reserveA) (ha : a.minimum ≤ a.desired) (hb : b.minimum ≤ y)
    (hquote : quote a.desired reserveA reserveB = .ok y) (hle : y ≤ b.desired) :
    chooseAmounts a b assertion reserveA reserveB = .ok (a.desired, y) := by
  unfold chooseAmounts
  rw [if_neg (by omega), hquote, ok_bind, if_pos hle]
  simp [require, ha, hb, pure, Except.pure]

/-- A caller who offers exactly the quote pays it. -/
theorem freeDeposit_amounts_quoted {tokenA tokenB dst : Address} {reserveA reserveB x : Nat}
    (hA : 0 < reserveA) (hB : 0 < reserveB) (hx : 0 < x) (hfits : x * reserveB ≤ Uint256.max) :
    (freeDeposit tokenA tokenB dst x (x * reserveB / reserveA)).amounts reserveA reserveB =
      .ok (x, x * reserveB / reserveA) := by
  have hquote : quote x reserveA reserveB = .ok (x * reserveB / reserveA) := by
    simp only [quote, bind_eq_ok, require_eq_ok, Uint256.mul_eq_ok, Uint256.div_eq_ok]
    exact ⟨(), hx, (), ⟨hA, hB⟩, _, ⟨hfits, rfl⟩, hA.ne', rfl⟩
  exact chooseAmounts_quoted hA (Nat.zero_le _) (Nat.zero_le _) hquote le_rfl

/-! ## Pools that can be opened -/

/-- Some call that names the tokens in this order mints the first LP. -/
def Opens (create2 : Address → Address → Address) (router sender tokenA tokenB : Address)
    (c : Chain) : Prop :=
  ∃ a b dst deadline c' x y liquidity, a ≤ maxUint112 ∧ b ≤ maxUint112 ∧
    addLiquidity create2 router sender (freeDeposit tokenA tokenB dst a b) deadline c =
      .ok (c', x, y, liquidity) ∧ 0 < liquidity

/-- The router can open the pool of the pair. -/
def Openable (create2 : Address → Address → Address) (router sender : Address) (p : Pair)
    (c : Chain) : Prop :=
  Opens create2 router sender p.token0 p.token1 c ∨ Opens create2 router sender p.token1 p.token0 c

/-- The largest amount within `roomA` whose quote is within `roomB`. -/
def largestOffer (roomA roomB reserveA reserveB : Nat) : Nat :=
  min roomA (((roomB + 1) * reserveA - 1) / reserveB)

/-- The largest deposit in the proportion of the reserves, led by the first token, is enough. -/
def Suffices (balanceA balanceB reserveA reserveB : Nat) : Prop :=
  let x := largestOffer (maxUint112 - balanceA) (maxUint112 - balanceB) reserveA reserveB
  0 < x ∧ MINIMUM_PRODUCT ≤
    (balanceA + x - reserveA) * (balanceB + x * reserveB / reserveA - reserveB)

/-- The clock runs, the balances fit, and the reserves are both zero, or both positive and a
    deposit in their proportion is enough. -/
structure CanOpen (timestamp : Nat) (p : Pair) (balance0 balance1 : Nat) : Prop where
  timely : Timely timestamp p
  fits : balance0 ≤ maxUint112 ∧ balance1 ≤ maxUint112
  reserves : (p.reserve0 = 0 ∧ p.reserve1 = 0) ∨
    (0 < p.reserve0 ∧ 0 < p.reserve1 ∧
      (Suffices balance0 balance1 p.reserve0 p.reserve1 ∨
        Suffices balance1 balance0 p.reserve1 p.reserve0))

/-- The bound on an offer says that its quote fits. -/
theorem le_largestOffer_iff {x roomA roomB reserveA reserveB : Nat} (hA : 0 < reserveA)
    (hB : 0 < reserveB) :
    x ≤ largestOffer roomA roomB reserveA reserveB ↔
      x ≤ roomA ∧ x * reserveB / reserveA ≤ roomB := by
  have hpos : 0 < (roomB + 1) * reserveA := Nat.mul_pos (Nat.succ_pos _) hA
  unfold largestOffer
  rw [le_min_iff, Nat.le_div_iff_mul_le hB, ← Nat.lt_succ_iff (n := roomB),
    Nat.div_lt_iff_lt_mul hA, Nat.le_sub_one_iff_lt hpos]

/-- A quoted deposit that is enough is no larger than the largest one. -/
theorem suffices_of_quoted {timestamp balanceA balanceB reserveA reserveB x : Nat}
    (hA : 0 < reserveA) (hB : 0 < reserveB) (hx : 0 < x)
    (hfirst : FirstMint timestamp p reserveA reserveB (balanceA + x)
      (balanceB + x * reserveB / reserveA)) :
    Suffices balanceA balanceB reserveA reserveB := by
  obtain ⟨-, hfits, -, henough⟩ := hfirst
  have hle : x ≤ largestOffer (maxUint112 - balanceA) (maxUint112 - balanceB) reserveA reserveB :=
    (le_largestOffer_iff hA hB).mpr ⟨by omega, by omega⟩
  have hquote := Nat.div_le_div_right (c := reserveA) (Nat.mul_le_mul_right reserveB hle)
  refine ⟨hx.trans_le hle, henough.trans ?_⟩
  exact Nat.mul_le_mul (by omega) (by omega)

/-- The largest deposit is a quoted one, and it fits. -/
theorem Suffices.firstMint {timestamp balanceA balanceB reserveA reserveB : Nat}
    (hA : 0 < reserveA) (hB : 0 < reserveB) (htimely : Timely timestamp p)
    (hcovered : reserveA ≤ balanceA ∧ reserveB ≤ balanceB)
    (hfits : balanceA ≤ maxUint112 ∧ balanceB ≤ maxUint112)
    (h : Suffices balanceA balanceB reserveA reserveB) :
    ∃ x, 0 < x ∧ x ≤ maxUint112 ∧ FirstMint timestamp p reserveA reserveB (balanceA + x)
      (balanceB + x * reserveB / reserveA) := by
  obtain ⟨hpos, henough⟩ := h
  obtain ⟨hroomA, hroomB⟩ := (le_largestOffer_iff hA hB).mp (le_refl
    (largestOffer (maxUint112 - balanceA) (maxUint112 - balanceB) reserveA reserveB))
  refine ⟨_, hpos, by omega, ⟨?_, ?_⟩, ⟨?_, ?_⟩, htimely, henough⟩
  · omega
  · exact hcovered.2.trans (Nat.le_add_right _ _)
  · omega
  · omega

/-- What a successful call in either order says about the pair. -/
theorem Opens.firstMint {tokenA tokenB : Address} {reserveA reserveB : Nat}
    (hfacing : Facing c pair p tokenA tokenB reserveA reserveB)
    (hopener : Opener c router sender pair p tokenA tokenB)
    (h : Opens create2 router sender tokenA tokenB c) :
    ∃ x y, ((reserveA = 0 ∧ reserveB = 0) ∨
        (0 < reserveA ∧ 0 < reserveB ∧ InProportion reserveA reserveB x y)) ∧
      FirstMint c.timestamp p reserveA reserveB (c.tokens.balanceOf tokenA pair + x)
        (c.tokens.balanceOf tokenB pair + y) := by
  obtain ⟨a, b, dst, deadline, c', x, y, liquidity, -, -, hrun, -⟩ := h
  obtain ⟨hamounts, hfirst⟩ := addLiquidity_opens_only hfacing hopener hrun
  exact ⟨x, y, freeDeposit_amounts hamounts, hfirst⟩

/-- A deposit led by the first token of the call. -/
theorem Suffices.opens {tokenA tokenB : Address} {reserveA reserveB : Nat}
    (hfacing : Facing c pair p tokenA tokenB reserveA reserveB)
    (hopener : Opener c router sender pair p tokenA tokenB) (hA : 0 < reserveA) (hB : 0 < reserveB)
    (htimely : Timely c.timestamp p)
    (hcovered : reserveA ≤ c.tokens.balanceOf tokenA pair ∧
      reserveB ≤ c.tokens.balanceOf tokenB pair)
    (hfits : c.tokens.balanceOf tokenA pair ≤ maxUint112 ∧
      c.tokens.balanceOf tokenB pair ≤ maxUint112)
    (h : Suffices (c.tokens.balanceOf tokenA pair) (c.tokens.balanceOf tokenB pair) reserveA
      reserveB) : Opens create2 router sender tokenA tokenB c := by
  obtain ⟨x, hpos, hle, hfirst⟩ := h.firstMint hA hB htimely hcovered hfits
  have hproduct : x * reserveB ≤ Uint256.max := by
    have hreserve : reserveB ≤ maxUint112 := hcovered.2.trans hfits.2
    have hboth := FluxSwapPair.product_fits hle hreserve
    omega
  have hquote : x * reserveB / reserveA ≤ maxUint112 := (Nat.le_add_left _ _).trans hfirst.fits.2
  obtain ⟨c', liquidity, hrun, hminted⟩ := addLiquidity_opens create2 sender
    hfacing hopener le_rfl (freeDeposit_amounts_quoted hA hB hpos hproduct) hfirst
  exact ⟨x, _, sender, c.timestamp, c', x, _, liquidity, hle, hquote, hrun, hminted⟩

/-- The pair and the caller, seen from both orders of the tokens. -/
structure Ready (c : Chain) (router sender pair : Address) (p : Pair) : Prop where
  facing : Facing c pair p p.token0 p.token1 p.reserve0 p.reserve1
  facing_swapped : Facing c pair p p.token1 p.token0 p.reserve1 p.reserve0
  opener : Opener c router sender pair p p.token0 p.token1
  opener_swapped : Opener c router sender pair p p.token1 p.token0
  covered : p.reserve0 ≤ c.tokens.balanceOf p.token0 pair ∧
    p.reserve1 ≤ c.tokens.balanceOf p.token1 pair

theorem ready_of_reachable (hreach : FluxSwapPair.transactions.Reachable c)
    (hregistered : Registered c pair p) (hempty : p.totalSupply = 0)
    (hpurse0 : Purse c router sender pair p.token0)
    (hpurse1 : Purse c router sender pair p.token1) : Ready c router sender pair p := by
  obtain ⟨hsystem, hallOpen⟩ := FluxSwapPair.transactions_reachable hreach
  have hsound := FluxSwapPair.reachable_sound hsystem pair p hregistered.storage
  have hopen : p.unlocked = 1 := hallOpen pair p hregistered.storage
  -- no pair ever approved the router
  have hsender : sender ≠ pair := by
    rintro rfl
    have hnone := hpurse0.allowance
    rw [hsound.allowance] at hnone
    exact absurd hnone (by decide)
  refine ⟨hregistered.facing hsound.address, hregistered.facing_swapped hsound.address, ?_, ?_,
    hsound.backed hopen⟩
  · exact ⟨hsound.address, hopen, hempty, hsound.tokens_ne, hsender, hpurse0, hpurse1⟩
  · exact ⟨hsound.address, hopen, hempty, hsound.tokens_ne.symm, hsender, hpurse1, hpurse0⟩

theorem canOpen_of_firstMint {timestamp balance0 balance1 x y : Nat}
    (hchosen : (p.reserve0 = 0 ∧ p.reserve1 = 0) ∨
      (0 < p.reserve0 ∧ 0 < p.reserve1 ∧ InProportion p.reserve0 p.reserve1 x y))
    (hfirst : FirstMint timestamp p p.reserve0 p.reserve1 (balance0 + x) (balance1 + y)) :
    CanOpen timestamp p balance0 balance1 := by
  refine ⟨hfirst.timely, ⟨(Nat.le_add_right _ x).trans hfirst.fits.1,
    (Nat.le_add_right _ y).trans hfirst.fits.2⟩, ?_⟩
  rcases hchosen with hzero | ⟨h0, h1, ⟨hx, rfl⟩ | ⟨hy, rfl⟩⟩
  · exact .inl hzero
  · exact .inr ⟨h0, h1, .inl (suffices_of_quoted h0 h1 hx hfirst)⟩
  · exact .inr ⟨h0, h1, .inr (suffices_of_quoted h1 h0 hy hfirst.swap)⟩

theorem Ready.canOpen (h : Ready c router sender pair p)
    (hopenable : Openable create2 router sender p c) :
    CanOpen c.timestamp p (c.tokens.balanceOf p.token0 pair) (c.tokens.balanceOf p.token1 pair) := by
  rcases hopenable with hopens | hopens
  · obtain ⟨x, y, hchosen, hfirst⟩ := hopens.firstMint h.facing h.opener
    exact canOpen_of_firstMint hchosen hfirst
  · obtain ⟨y, x, hchosen, hfirst⟩ := hopens.firstMint h.facing_swapped h.opener_swapped
    refine canOpen_of_firstMint ?_ hfirst.swap
    rcases hchosen with ⟨h1, h0⟩ | ⟨h1, h0, hy | hx⟩
    · exact .inl ⟨h0, h1⟩
    · exact .inr ⟨h0, h1, .inr hy⟩
    · exact .inr ⟨h0, h1, .inl hx⟩

theorem Ready.openable (h : Ready c router sender pair p)
    (hcan : CanOpen c.timestamp p (c.tokens.balanceOf p.token0 pair)
      (c.tokens.balanceOf p.token1 pair)) : Openable create2 router sender p c := by
  obtain ⟨htimely, hfits, ⟨h0, h1⟩ | ⟨h0, h1, hsuffices | hsuffices⟩⟩ := hcan
  · left
    -- without reserves the whole room of the pair is a deposit
    have hfirst : FirstMint c.timestamp p 0 0
        (c.tokens.balanceOf p.token0 pair + (maxUint112 - c.tokens.balanceOf p.token0 pair))
        (c.tokens.balanceOf p.token1 pair + (maxUint112 - c.tokens.balanceOf p.token1 pair)) := by
      rw [Nat.add_sub_cancel' hfits.1, Nat.add_sub_cancel' hfits.2]
      exact ⟨⟨Nat.zero_le _, Nat.zero_le _⟩, ⟨le_rfl, le_rfl⟩, htimely, by decide⟩
    have hfacing := h.facing
    rw [h0, h1] at hfacing
    obtain ⟨c', liquidity, hrun, hminted⟩ := addLiquidity_opens create2
      sender hfacing h.opener le_rfl freeDeposit_amounts_first hfirst
    exact ⟨_, _, sender, c.timestamp, c', _, _, liquidity, Nat.sub_le _ _, Nat.sub_le _ _, hrun,
      hminted⟩
  · exact .inl (hsuffices.opens h.facing h.opener h0 h1 htimely h.covered hfits)
  · exact .inr
      (hsuffices.opens h.facing_swapped h.opener_swapped h1 h0 htimely h.covered.symm hfits.symm)

/-- In every reachable state of a pair without LP: some amounts open the pool through the router
    exactly if the pair's clock runs, its balances fit, and its reserves are both zero, or both
    positive with room for a deposit in their proportion that is worth the minimum. -/
theorem openable_iff (hreach : FluxSwapPair.transactions.Reachable c)
    (hregistered : Registered c pair p) (hempty : p.totalSupply = 0)
    (hpurse0 : Purse c router sender pair p.token0)
    (hpurse1 : Purse c router sender pair p.token1) :
    Openable create2 router sender p c ↔ CanOpen c.timestamp p
      (c.tokens.balanceOf p.token0 pair) (c.tokens.balanceOf p.token1 pair) := by
  have hready := ready_of_reachable hreach hregistered hempty hpurse0 hpurse1
  exact ⟨hready.canOpen, hready.openable⟩

end FluxSwapRouter

namespace FluxSwapRouter

namespace Opening

open FluxSwapPair (Op exec transactions Initial maxUint112 Timely)
open FluxSwapPair.Example (start pair alice token0 token1)

def router : Address := 9

/-- Somebody who donates. -/
def stranger : Sender := ⟨6, by decide⟩

/-- The start of the other runs of this pair, with everybody rich and trusting the router. -/
def rich : Chain :=
  { start with tokens := {
      balanceOf := fun t a => if t = pair ∨ a = pair then 0 else 2 ^ 112
      allowance := fun _ owner _ => if owner = pair then 0 else Uint256.max
      refuses := fun _ _ => false } }

theorem rich_initial : Initial rich := by
  intro a p hp
  simp only [rich, start] at hp
  split at hp
  · rename_i ha
    subst ha
    obtain rfl := Option.some.inj hp
    exact ⟨by decide, by decide, by decide, by decide, rfl, rfl, rfl, rfl,
      fun a => by simp [rich], fun _ _ => by simp [rich]⟩
  · cases hp

instance (c : Chain) (sender token : Address) : Decidable (Purse c router sender pair token) :=
  decidable_of_iff (maxUint112 ≤ c.tokens.balanceOf token sender ∧
      maxUint112 ≤ c.tokens.allowance token sender router ∧ c.admits token sender pair = true)
    ⟨fun h => ⟨h.1, h.2.1, h.2.2⟩, fun h => ⟨h.balance, h.allowance, h.admits⟩⟩

instance (balanceA balanceB reserveA reserveB : Nat) :
    Decidable (Suffices balanceA balanceB reserveA reserveB) :=
  inferInstanceAs (Decidable (_ ∧ _))

instance (timestamp : Nat) (p : Pair) (balance0 balance1 : Nat) :
    Decidable (CanOpen timestamp p balance0 balance1) :=
  decidable_of_iff (Timely timestamp p ∧ (balance0 ≤ maxUint112 ∧ balance1 ≤ maxUint112) ∧ _)
    ⟨fun h => ⟨h.1, h.2.1, h.2.2⟩, fun h => ⟨h.timely, h.fits, h.reserves⟩⟩

/-- The pair is as the router needs it, it is empty, and alice can pay. -/
def Prepared (c : Chain) (p : Pair) : Prop :=
  (p.token0 < p.token1 ∧ p.token0 ≠ Address.zero ∧ c.getPair p.token0 p.token1 = pair ∧
    c.getPair p.token1 p.token0 = pair) ∧ p.totalSupply = 0 ∧
    Purse c router alice pair p.token0 ∧ Purse c router alice pair p.token1

instance (c : Chain) (p : Pair) : Decidable (Prepared c p) := inferInstanceAs (Decidable (_ ∧ _))

/-- The reserves, and whether the router can open the pool. -/
def opening (c : Chain) : Option (Nat × Nat × Bool × Bool) :=
  (c.pairs pair).map fun p => (p.reserve0, p.reserve1, decide (Prepared c p),
    decide (CanOpen c.timestamp p (c.tokens.balanceOf p.token0 pair)
      (c.tokens.balanceOf p.token1 pair)))

theorem opening_reaches {ops : List Op} {reserve0 reserve1 : Nat} {can : Bool}
    (h : (System.runWith (fun c op => exec op c) (fun _ _ => True) rich ops).bind opening =
      some (reserve0, reserve1, true, can)) :
    ∃ c p, transactions.Reachable c ∧ Registered c pair p ∧ p.totalSupply = 0 ∧
      Purse c router alice pair p.token0 ∧ Purse c router alice pair p.token1 ∧
      p.reserve0 = reserve0 ∧ p.reserve1 = reserve1 ∧
      decide (CanOpen c.timestamp p (c.tokens.balanceOf p.token0 pair)
        (c.tokens.balanceOf p.token1 pair)) = can := by
  obtain ⟨c, hc, hopening⟩ := Option.bind_eq_some_iff.mp h
  obtain ⟨p, hp, heq⟩ := Option.map_eq_some_iff.mp hopening
  simp only [Prod.mk.injEq] at heq
  obtain ⟨h0, h1, hprepared, hcan⟩ := heq
  obtain ⟨⟨hsorted, hne, hlisted, hswapped⟩, hempty, hpurse0, hpurse1⟩ := of_decide_eq_true hprepared
  exact ⟨c, p, System.reachableWith_of_runWith (.init rich_initial) hc,
    ⟨hp, hsorted, hne, hlisted, hswapped⟩, hempty, hpurse0, hpurse1, h0, h1, hcan⟩

end Opening

open FluxSwapPair.Example Opening in
/-- Donations to both sides, moved into the reserves, leave the pool openable. -/
theorem openable_iff_donated :
    ∃ c p, FluxSwapPair.transactions.Reachable c ∧ p.totalSupply = 0 ∧ p.reserve0 = 3 ∧
      p.reserve1 = 7 ∧ Openable (fun _ _ => 0) router alice p c := by
  have hrun : (System.runWith (fun c op => FluxSwapPair.exec op c) (fun _ _ => True) rich
      [.transfer token0 stranger pair 3, .transfer token1 stranger pair 7, .sync pair]).bind
        opening = some (3, 7, true, true) := by
    decide +kernel
  obtain ⟨c, p, hreach, hregistered, hempty, hpurse0, hpurse1, h0, h1, hcan⟩ := opening_reaches hrun
  refine ⟨c, p, hreach, hempty, h0, h1, ?_⟩
  exact (openable_iff hreach hregistered hempty hpurse0 hpurse1).mpr (of_decide_eq_true hcan)

open FluxSwapPair.Example Opening in
/-- One unit of one token, moved into the reserves, closes the pool to the router. -/
theorem not_openable_after_donation :
    ∃ c p, FluxSwapPair.transactions.Reachable c ∧ Registered c pair p ∧ p.totalSupply = 0 ∧
      Purse c router alice pair p.token0 ∧ Purse c router alice pair p.token1 ∧
      p.reserve0 = 1 ∧ p.reserve1 = 0 ∧ ∀ create2, ¬Openable create2 router alice p c := by
  have hrun : (System.runWith (fun c op => FluxSwapPair.exec op c) (fun _ _ => True) rich
      [.transfer token0 stranger pair 1, .sync pair]).bind opening = some (1, 0, true, false) := by
    decide +kernel
  obtain ⟨c, p, hreach, hregistered, hempty, hpurse0, hpurse1, h0, h1, hcan⟩ := opening_reaches hrun
  refine ⟨c, p, hreach, hregistered, hempty, hpurse0, hpurse1, h0, h1, ?_⟩
  intro create2 hopenable
  have hready := ready_of_reachable hreach hregistered hempty hpurse0 hpurse1
  exact of_decide_eq_false hcan (hready.canOpen hopenable)

end FluxSwapRouter
