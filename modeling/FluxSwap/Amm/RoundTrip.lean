-- SUMMARY: Minting and burning right away never profits, and splitting a deposit never mints more.
import FluxSwap.Lib.Shares
import FluxSwap.Amm.Representation

/-!
# Deposits and round trips

A mint rounds down the smaller of two proportional parts, so it is a fair issue of shares
for each of the two tokens, whatever the ratio of the deposit. What follows for one deposit
and for any sequence of deposits is then a fact about shares.
-/

open Exec

namespace FluxSwapPair

variable {c c' : Chain} {pair : Address} {p : Pair}

/-! ## Deposits -/

/-- A deposit: who pays how much of each token, and who gets the LP. -/
structure Deposit where
  payer   : Sender
  amount0 : Nat
  amount1 : Nat
  dst     : Address

namespace Deposit

/-- The two payments into the pair, then `mint`. -/
def run (pair : Address) (d : Deposit) (c : Chain) : Exec (Chain × Nat) := do
  let p ← c.pairAt pair
  let c ← callTransfer c p.token0 d.payer pair d.amount0
  let c ← callTransfer c p.token1 d.payer pair d.amount1
  mint pair d.payer d.dst c

/-- Successive deposits, and the LP that each mints. -/
def runAll (pair : Address) : List Deposit → Chain → Exec (Chain × List Nat)
  | [], c => pure (c, [])
  | d :: ds, c => do
    let (c, liquidity) ← d.run pair c
    let (c, minted) ← runAll pair ds c
    pure (c, liquidity :: minted)

/-- The LP of a deposit goes back to the pair, unless it was minted there. -/
def giveBack (pair : Address) (d : Deposit) (liquidity : Nat) (holder : Sender) (c : Chain) :
    Exec Chain :=
  if d.dst = pair then pure c else callTransfer c pair holder pair liquidity

/-- The LP of a deposit is given back and burned. -/
def redeem (pair : Address) (d : Deposit) (liquidity : Nat) (holder : Sender) (dst : Address)
    (c : Chain) : Exec (Chain × Nat × Nat) := do
  let c ← d.giveBack pair liquidity holder c
  burn pair holder dst c

end Deposit

/-- The pair holds what its reserves say. -/
structure Balanced (c : Chain) (pair : Address) (p : Pair) : Prop where
  storage : c.pairs pair = some p
  balance0 : c.tokens.balanceOf p.token0 pair = p.reserve0
  balance1 : c.tokens.balanceOf p.token1 pair = p.reserve1

/-- The two tokens of a pair are different, and neither is the LP. -/
structure Distinct (pair : Address) (p : Pair) : Prop where
  tokens_ne : p.token0 ≠ p.token1
  token0_ne : p.token0 ≠ pair
  token1_ne : p.token1 ≠ pair

/-- What a deposit does to a pair with supply. -/
structure Deposited (pair : Address) (d : Deposit) (liquidity : Nat) (c c' : Chain) (p p' : Pair) :
    Prop where
  balanced : Balanced c' pair p'
  token0 : p'.token0 = p.token0
  token1 : p'.token1 = p.token1
  reserve0 : p'.reserve0 = p.reserve0 + d.amount0
  reserve1 : p'.reserve1 = p.reserve1 + d.amount1
  totalSupply : p'.totalSupply = p.totalSupply + liquidity
  minted : liquidity = min (d.amount0 * p.totalSupply / p.reserve0)
    (d.amount1 * p.totalSupply / p.reserve1)
  own : c'.tokens.balanceOf pair pair =
    c.tokens.balanceOf pair pair + if d.dst = pair then liquidity else 0

theorem callTransfer_eq_ok {token dst : Address} {sender : Sender} {value : Nat}
    (h : callTransfer c token sender dst value = .ok c') :
    c.pairs sender = none ∧ value ≤ c.tokens.balanceOf token sender ∧
      c' = c.moved token sender dst value := by
  simp only [callTransfer, bind_eq_ok, require_eq_ok] at h
  obtain ⟨_, hnone, h⟩ := h
  split at h
  · rename_i c₁ hmove
    obtain rfl := pure_eq_ok.mp h
    obtain ⟨⟨hle, -⟩, rfl⟩ := Chain.transfer_eq_some.mp hmove
    exact ⟨hnone, hle, rfl⟩
  · cases h

/-- A payment into the pair. -/
theorem callTransfer_pair {token : Address} {sender : Sender} {value : Nat}
    (hp : c.pairs pair = some p) (h : callTransfer c token sender pair value = .ok c') :
    c'.pairs = c.pairs ∧ ∀ t, c'.tokens.balanceOf t pair =
      c.tokens.balanceOf t pair + if t = token then value else 0 := by
  obtain ⟨hnone, -, rfl⟩ := callTransfer_eq_ok h
  have hne : pair ≠ sender := by
    rintro rfl
    rw [hp] at hnone
    cases hnone
  refine ⟨rfl, ?_⟩
  intro t
  rw [Chain.moved_tokens, Ledger.balanceOf_move_of_ne_src _ _ _ _ _ hne]
  simp

theorem mint_min (x y : Nat) : Math.min x y = min x y := by
  unfold Math.min
  split <;> omega

/-- `mint` of a pair with supply, for what exceeds its reserves. -/
theorem mint_spec {sender dst : Address} {liquidity : Nat} (hp : c.pairs pair = some p)
    (hdistinct : Distinct pair p) (hpos : 0 < p.totalSupply)
    (h : mint pair sender dst c = .ok (c', liquidity)) :
    ∃ p', Balanced c' pair p' ∧ p'.token0 = p.token0 ∧ p'.token1 = p.token1 ∧
      p'.reserve0 = c.tokens.balanceOf p.token0 pair ∧
      p'.reserve1 = c.tokens.balanceOf p.token1 pair ∧
      p'.totalSupply = p.totalSupply + liquidity ∧
      liquidity = min ((c.tokens.balanceOf p.token0 pair - p.reserve0) * p.totalSupply / p.reserve0)
        ((c.tokens.balanceOf p.token1 pair - p.reserve1) * p.totalSupply / p.reserve1) ∧
      c'.tokens.balanceOf pair pair =
        c.tokens.balanceOf pair pair + if dst = pair then liquidity else 0 := by
  obtain ⟨q, c₁, p₁, hq, -, hbody, hp₁, rfl⟩ := lock_spec h
  obtain rfl := Option.some.inj (hp.symm.trans hq)
  simp only [bind_eq_ok, Chain.pairAt_eq_ok, Chain.setPair_pairs, Function.update_self,
    Option.some.injEq, Uint256.sub_eq_ok, require_eq_ok, pure_eq_ok, Prod.mk.injEq] at hbody
  obtain ⟨_, rfl, _, ⟨-, rfl⟩, _, ⟨-, rfl⟩, ⟨c₂, L⟩, hliquidity, _, -, c₃, hmint, c₄, hupdate, rfl,
    rfl⟩ := hbody
  unfold mintedLiquidity at hliquidity
  rw [if_neg (Nat.pos_iff_ne_zero.mp hpos)] at hliquidity
  simp only [bind_eq_ok, Uint256.mul_eq_ok, Uint256.div_eq_ok, pure_eq_ok, Prod.mk.injEq]
    at hliquidity
  obtain ⟨_, ⟨-, rfl⟩, _, ⟨-, rfl⟩, _, ⟨-, rfl⟩, _, ⟨-, rfl⟩, rfl, rfl⟩ := hliquidity
  obtain ⟨q₂, hq₂, -, -, hq₃, htokens⟩ := lpMint_spec hmint
  have hlocked : (c.setPair pair { p with unlocked := 0 }).pairs pair =
      some { p with unlocked := 0 } := by
    simp
  obtain rfl := Option.some.inj (hlocked.symm.trans hq₂)
  obtain ⟨q₃, q₄, hq₃', hq₄, hsame, hr0, hr1, -, -, hsameTokens⟩ := update_spec hupdate
  obtain rfl := Option.some.inj (hq₃.symm.trans hq₃')
  obtain rfl := Option.some.inj (hq₄.symm.trans hp₁)
  -- of the two tokens nothing moves: the deposit was made before
  have hheld : ∀ t, t ≠ pair → c₄.tokens.balanceOf t pair = c.tokens.balanceOf t pair := by
    intro t ht
    rw [hsameTokens, htokens, Ledger.balanceOf_credit_of_token_ne _ _ _ _ ht]
    rfl
  refine ⟨{ q₄ with unlocked := 1 }, ⟨by simp, ?_, ?_⟩, hsame.token0, hsame.token1, hr0, hr1,
    hsame.totalSupply, mint_min _ _, ?_⟩
  · show c₄.tokens.balanceOf q₄.token0 pair = q₄.reserve0
    rw [hsame.token0, hr0]
    exact hheld _ hdistinct.token0_ne
  · show c₄.tokens.balanceOf q₄.token1 pair = q₄.reserve1
    rw [hsame.token1, hr1]
    exact hheld _ hdistinct.token1_ne
  · show c₄.tokens.balanceOf pair pair = _
    rw [hsameTokens, htokens, Ledger.balanceOf_credit]
    simp [eq_comm]

theorem deposit_spec {d : Deposit} {liquidity : Nat} (hbalanced : Balanced c pair p)
    (hdistinct : Distinct pair p) (hpos : 0 < p.totalSupply)
    (h : d.run pair c = .ok (c', liquidity)) :
    ∃ p', Deposited pair d liquidity c c' p p' := by
  simp only [Deposit.run, bind_eq_ok, Chain.pairAt_eq_ok, hbalanced.storage, Option.some.injEq] at h
  obtain ⟨_, rfl, c₁, hpay0, c₂, hpay1, hmint⟩ := h
  obtain ⟨hpairs₁, hbalance₁⟩ := callTransfer_pair hbalanced.storage hpay0
  have hp₁ : c₁.pairs pair = some p := by
    rw [hpairs₁]
    exact hbalanced.storage
  obtain ⟨hpairs₂, hbalance₂⟩ := callTransfer_pair hp₁ hpay1
  have hp₂ : c₂.pairs pair = some p := by
    rw [hpairs₂]
    exact hp₁
  have hheld0 : c₂.tokens.balanceOf p.token0 pair = p.reserve0 + d.amount0 := by
    rw [hbalance₂, hbalance₁, if_neg hdistinct.tokens_ne, if_pos rfl, hbalanced.balance0]
    rfl
  have hheld1 : c₂.tokens.balanceOf p.token1 pair = p.reserve1 + d.amount1 := by
    rw [hbalance₂, hbalance₁, if_pos rfl, if_neg hdistinct.tokens_ne.symm, hbalanced.balance1]
    rfl
  have hown : c₂.tokens.balanceOf pair pair = c.tokens.balanceOf pair pair := by
    rw [hbalance₂, hbalance₁, if_neg hdistinct.token0_ne.symm, if_neg hdistinct.token1_ne.symm]
    rfl
  obtain ⟨p', hbalanced', h0, h1, hr0, hr1, hT, hminted, hlp⟩ :=
    mint_spec hp₂ hdistinct hpos hmint
  rw [hheld0] at hr0 hminted
  rw [hheld1] at hr1 hminted
  rw [Nat.add_sub_cancel_left, Nat.add_sub_cancel_left] at hminted
  rw [hown] at hlp
  exact ⟨p', hbalanced', h0, h1, hr0, hr1, hT, hminted, hlp⟩

theorem Deposited.fair0 {d : Deposit} {liquidity : Nat} {p' : Pair}
    (h : Deposited pair d liquidity c c' p p') :
    Shares.Fair p.totalSupply p.reserve0 d.amount0 liquidity :=
  .of_le_div (h.minted ▸ Nat.min_le_left _ _)

theorem Deposited.fair1 {d : Deposit} {liquidity : Nat} {p' : Pair}
    (h : Deposited pair d liquidity c c' p p') :
    Shares.Fair p.totalSupply p.reserve1 d.amount1 liquidity :=
  .of_le_div (h.minted ▸ Nat.min_le_right _ _)

/-! ## Redemption -/

/-- `burn` pays the pair's own LP its part of each balance, rounded down. -/
theorem burn_amounts {sender dst : Address} {x0 x1 : Nat} (hp : c.pairs pair = some p)
    (h : burn pair sender dst c = .ok (c', x0, x1)) :
    x0 = c.tokens.balanceOf pair pair * c.tokens.balanceOf p.token0 pair / p.totalSupply ∧
      x1 = c.tokens.balanceOf pair pair * c.tokens.balanceOf p.token1 pair / p.totalSupply := by
  obtain ⟨q, c₁, p₁, hq, -, hbody, -, rfl⟩ := lock_spec h
  obtain rfl := Option.some.inj (hp.symm.trans hq)
  simp only [bind_eq_ok, Chain.pairAt_eq_ok, Chain.setPair_pairs, Function.update_self,
    Option.some.injEq, Uint256.mul_eq_ok, Uint256.div_eq_ok, pure_eq_ok, Prod.mk.injEq] at hbody
  obtain ⟨_, rfl, _, ⟨-, rfl⟩, _, ⟨-, rfl⟩, _, ⟨-, rfl⟩, _, ⟨-, rfl⟩, _, -, _, -, _, -, _, -, _, -, -,
    rfl, rfl⟩ := hbody
  exact ⟨rfl, rfl⟩

/-- After a deposit into a pair without own LP, redeeming its LP gives back at most the deposit. -/
theorem redeem_le {d : Deposit} {liquidity : Nat} {holder : Sender} {dst : Address} {c₁ : Chain}
    {p₁ : Pair} {x0 x1 : Nat} (hdistinct : Distinct pair p)
    (hown : c.tokens.balanceOf pair pair = 0) (hd : Deposited pair d liquidity c c₁ p p₁)
    (h : d.redeem pair liquidity holder dst c₁ = .ok (c', x0, x1)) :
    x0 ≤ d.amount0 ∧ x1 ≤ d.amount1 := by
  obtain ⟨c₂, hreturn, hburn⟩ := bind_eq_ok.mp h
  have hstored := hd.balanced.storage
  have hlp := hd.own
  rw [hown, Nat.zero_add] at hlp
  -- in both cases the pair now holds exactly the minted LP
  have hreturned : c₂.pairs pair = some p₁ ∧ c₂.tokens.balanceOf pair pair = liquidity ∧
      c₂.tokens.balanceOf p.token0 pair = p₁.reserve0 ∧
      c₂.tokens.balanceOf p.token1 pair = p₁.reserve1 := by
    rw [← hd.token0, ← hd.token1]
    unfold Deposit.giveBack at hreturn
    split at hreturn
    · rename_i hpair
      obtain rfl := pure_eq_ok.mp hreturn
      rw [if_pos hpair] at hlp
      exact ⟨hstored, hlp, hd.balanced.balance0, hd.balanced.balance1⟩
    · rename_i hpair
      rw [if_neg hpair] at hlp
      obtain ⟨hpairs, hbalance⟩ := callTransfer_pair hstored hreturn
      refine ⟨by rw [hpairs]; exact hstored, ?_, ?_, ?_⟩
      · rw [hbalance, if_pos rfl, hlp, Nat.zero_add]
      · rw [hbalance, hd.token0, if_neg hdistinct.token0_ne, ← hd.token0]
        exact hd.balanced.balance0
      · rw [hbalance, hd.token1, if_neg hdistinct.token1_ne, ← hd.token1]
        exact hd.balanced.balance1
  obtain ⟨hp₂, hburned, hheld0, hheld1⟩ := hreturned
  obtain ⟨rfl, rfl⟩ := burn_amounts hp₂ hburn
  rw [hd.token0, hd.token1, hburned, hheld0, hheld1, hd.reserve0, hd.reserve1, hd.totalSupply]
  exact ⟨hd.fair0.redeem_le, hd.fair1.redeem_le⟩

/-! ## Split deposits -/

/-- The total of a sequence of deposits in each token. -/
def total0 (ds : List Deposit) : Nat := (ds.map Deposit.amount0).sum

def total1 (ds : List Deposit) : Nat := (ds.map Deposit.amount1).sum

/-- The run lemma: all the LP of successive deposits is a fair issue for their totals. -/
theorem deposits_fair {ds : List Deposit} {minted : List Nat} (hbalanced : Balanced c pair p)
    (hdistinct : Distinct pair p) (hpos : 0 < p.totalSupply)
    (hreserves : 0 < p.reserve0 ∧ 0 < p.reserve1) (h : Deposit.runAll pair ds c = .ok (c', minted)) :
    Shares.Fair p.totalSupply p.reserve0 (total0 ds) minted.sum ∧
      Shares.Fair p.totalSupply p.reserve1 (total1 ds) minted.sum := by
  induction ds generalizing c p minted with
  | nil =>
    simp only [Deposit.runAll, pure_eq_ok, Prod.mk.injEq] at h
    obtain ⟨rfl, rfl⟩ := h
    exact ⟨.zero _ _, .zero _ _⟩
  | cons d ds ih =>
    simp only [Deposit.runAll, bind_eq_ok, pure_eq_ok, Prod.mk.injEq] at h
    obtain ⟨⟨c₁, liquidity⟩, hdeposit, ⟨c₂, rest⟩, hrest, rfl, rfl⟩ := h
    obtain ⟨p₁, hd⟩ := deposit_spec hbalanced hdistinct hpos hdeposit
    have hdistinct₁ : Distinct pair p₁ :=
      ⟨by rw [hd.token0, hd.token1]; exact hdistinct.tokens_ne,
        by rw [hd.token0]; exact hdistinct.token0_ne, by rw [hd.token1]; exact hdistinct.token1_ne⟩
    have hpos₁ : 0 < p₁.totalSupply := by
      rw [hd.totalSupply]
      exact Nat.add_pos_left hpos _
    have hreserves₁ : 0 < p₁.reserve0 ∧ 0 < p₁.reserve1 := by
      rw [hd.reserve0, hd.reserve1]
      exact ⟨Nat.add_pos_left hreserves.1 _, Nat.add_pos_left hreserves.2 _⟩
    obtain ⟨hfair0, hfair1⟩ := ih hd.balanced hdistinct₁ hpos₁ hreserves₁ hrest
    rw [hd.totalSupply, hd.reserve0] at hfair0
    rw [hd.totalSupply, hd.reserve1] at hfair1
    simp only [total0, total1, List.map_cons, List.sum_cons]
    exact ⟨hd.fair0.trans hreserves.1 hfair0, hd.fair1.trans hreserves.2 hfair1⟩

/-- In every reachable state of a pair with supply that holds just its reserves and no LP of its
    own: redeeming the LP of a deposit right away returns at most the deposit of each token; and
    successive deposits mint together at most what one deposit of their totals mints. -/
theorem roundTrip_never_profits (hreach : system.Reachable c) (hbalanced : Balanced c pair p)
    (hpos : 0 < p.totalSupply) (hown : c.tokens.balanceOf pair pair = 0) :
    (∀ (d : Deposit) liquidity c₁ holder dst c₂ x0 x1, d.run pair c = .ok (c₁, liquidity) →
      d.redeem pair liquidity holder dst c₁ = .ok (c₂, x0, x1) →
      x0 ≤ d.amount0 ∧ x1 ≤ d.amount1) ∧
    ∀ ds minted c₁ (d : Deposit) liquidity c₂, Deposit.runAll pair ds c = .ok (c₁, minted) →
      d.amount0 = total0 ds → d.amount1 = total1 ds → d.run pair c = .ok (c₂, liquidity) →
      minted.sum ≤ liquidity := by
  have hsound := reachable_sound hreach pair p hbalanced.storage
  have hreserves := reachable_funded hreach pair p hbalanced.storage hpos
  have hdistinct : Distinct pair p := ⟨hsound.tokens_ne, hsound.token0_ne, hsound.token1_ne⟩
  constructor
  · intro d liquidity c₁ holder dst c₂ x0 x1 hdeposit hredeem
    obtain ⟨p₁, hd⟩ := deposit_spec hbalanced hdistinct hpos hdeposit
    exact redeem_le hdistinct hown hd hredeem
  · intro ds minted c₁ d liquidity c₂ hsplit h0 h1 hwhole
    obtain ⟨p₂, hd⟩ := deposit_spec hbalanced hdistinct hpos hwhole
    obtain ⟨hfair0, hfair1⟩ := deposits_fair hbalanced hdistinct hpos hreserves hsplit
    rw [hd.minted, h0, h1]
    exact Nat.le_min.mpr ⟨hfair0.le_div hreserves.1, hfair1.le_div hreserves.2⟩

end FluxSwapPair

namespace FluxSwapPair.Example

/-- A deposit that is not quite proportional, and the same in two parts. -/
def whole : Deposit := ⟨alice, 1000, 4003, alice⟩
def parts : List Deposit := [⟨alice, 501, 2000, alice⟩, ⟨alice, 499, 2003, treasury⟩]

/-- The LP and the two amounts of a round trip with the whole deposit. -/
def roundTrip (c : Chain) : Exec (Nat × Nat × Nat) := do
  let (c, liquidity) ← whole.run pair c
  let (_, x0, x1) ← whole.redeem pair liquidity alice alice c
  pure (liquidity, x0, x1)

/-- What a state says about the example. -/
def trips (c : Chain) : Option (Nat × Bool × (Nat × Nat × Nat) × List Nat) :=
  match c.pairs pair, roundTrip c, Deposit.runAll pair parts c with
  | some p, .ok trip, .ok (_, minted) =>
    some (p.totalSupply, decide (c.tokens.balanceOf p.token0 pair = p.reserve0 ∧
      c.tokens.balanceOf p.token1 pair = p.reserve1 ∧ c.tokens.balanceOf pair pair = 0),
      trip, minted)
  | _, _, _ => none

/-- The whole deposit mints 2000 and gives back 1000 and 4000; its parts mint 1000 and 997. -/
theorem roundTrip_never_profits_example :
    ∃ c c₁ c₂ c₃, system.Reachable c ∧ whole.run pair c = .ok (c₁, 2000) ∧
      whole.redeem pair 2000 alice alice c₁ = .ok (c₂, 1000, 4000) ∧ 1000 ≤ 1000 ∧ 4000 ≤ 4003 ∧
      Deposit.runAll pair parts c = .ok (c₃, [1000, 997]) ∧ [1000, 997].sum ≤ 2000 := by
  have hrun : (System.runWith move (fun _ _ => True) start deposit).bind trips =
      some (2 * 10 ^ 6, true, (2000, 1000, 4000), [1000, 997]) := by
    decide +kernel
  obtain ⟨c, hc, htrips⟩ := Option.bind_eq_some_iff.mp hrun
  have hreach : system.Reachable c := System.reachableWith_of_runWith (.init start_initial) hc
  unfold trips at htrips
  split at htrips
  · rename_i p trip c₃ minted hp htrip hparts
    simp only [Option.some.injEq, Prod.mk.injEq, decide_eq_true_eq] at htrips
    obtain ⟨hT, ⟨hbalance0, hbalance1, hown⟩, rfl, rfl⟩ := htrips
    simp only [roundTrip, bind_eq_ok, pure_eq_ok, Prod.mk.injEq] at htrip
    obtain ⟨⟨c₁, liquidity⟩, hdeposit, ⟨c₂, x0, x1⟩, hredeem, rfl, rfl, rfl⟩ := htrip
    obtain ⟨hback, hsplit⟩ := roundTrip_never_profits hreach ⟨hp, hbalance0, hbalance1⟩
      (by rw [hT]; decide) hown
    obtain ⟨hle0, hle1⟩ := hback whole _ c₁ alice alice c₂ _ _ hdeposit hredeem
    exact ⟨c, c₁, c₂, c₃, hreach, hdeposit, hredeem, hle0, hle1, hparts,
      hsplit parts _ c₃ whole _ c₁ hparts rfl rfl hdeposit⟩
  · cases htrips

end FluxSwapPair.Example
