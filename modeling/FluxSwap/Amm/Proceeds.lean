-- SUMMARY: When no pair of a path pays a fee in the last token, so that its receiver gets the quoted amount and nobody else any.
import FluxSwap.Amm.Conservation

/-!
# The proceeds of an exact-input swap

A pair pays the protocol fee in whatever it was given beyond its reserves. The last token
of a path is given to a pair only if the path passes through that token before its end, or
if the last pair holds more of it than its reserve. In every other swap the last token
moves once: the quoted amount, from the last pair to the receiver.
-/

open Exec

namespace FluxSwapRouter

variable {c c' : Chain} {router sender dst input output token : Address} {y : Nat}

/-- The reserve that a pair keeps of one of its tokens. -/
def reserveOf (p : Pair) (token : Address) : Nat :=
  if token = p.token0 then p.reserve0 else p.reserve1

/-- The last pair of the path holds no more of the last token than its reserve. -/
def LastPairEven (c : Chain) : List Address → Prop
  | [] => True
  | [_] => True
  | [input, output] => ∀ p, c.pairs (c.getPair input output) = some p →
    c.tokens.balanceOf output (c.getPair input output) ≤ reserveOf p output
  | _ :: next :: after :: rest => LastPairEven c (next :: after :: rest)

theorem LastPairEven.congr {path : List Address} (hlast : path.getLast? = some token)
    (hgetPair : c'.getPair = c.getPair)
    (hbalance : ∀ a, c'.tokens.balanceOf token a = c.tokens.balanceOf token a)
    (hpairs : ∀ a, c'.pairs (c.getPair a token) = c.pairs (c.getPair a token))
    (h : LastPairEven c path) : LastPairEven c' path := by
  induction path with
  | nil => trivial
  | cons input rest ih =>
    match rest with
    | [] => trivial
    | [output] =>
      obtain rfl : output = token := by simpa using hlast
      intro p hp
      rw [hgetPair, hpairs] at hp
      rw [hgetPair, hbalance]
      exact h p hp
    | next :: after :: rest =>
      rw [List.getLast?_cons_cons] at hlast
      exact ih hlast h

@[simp] theorem protocolFee_zero (c : Chain) : FluxSwapPair.protocolFee c 0 = 0 := by
  simp [FluxSwapPair.protocolFee]

/-- A pair that paid `y` out of no more than its reserve was given nothing. -/
theorem amountIn_eq_zero {balance reserve : Nat} (h : balance ≤ reserve) :
    FluxSwapPair.amountIn (balance - y) reserve y = 0 := by
  unfold FluxSwapPair.amountIn
  split
  · omega
  · rfl

/-- The two tokens of a listed pair, in one order or the other. -/
theorem PairOf.tokens {p : Pair} (h : PairOf c input output p) :
    (p.token0 = input ∧ p.token1 = output) ∨ (p.token0 = output ∧ p.token1 = input) := by
  have hsorted := h.sorted
  split at hsorted
  · exact .inl (Prod.mk.inj hsorted)
  · exact .inr (Prod.mk.inj hsorted)

/-- A hop leaves every token alone but its own two, and the pairs of such a token as well. -/
theorem swapHop_others {rest : List Address} (hlisted : Listed c) (hin : token ≠ input)
    (hout : token ≠ output) (h : swapHop router input output rest y dst c = .ok c') :
    (∀ a, c'.tokens.balanceOf token a = c.tokens.balanceOf token a) ∧
      ∀ a, c'.pairs (c.getPair a token) = c.pairs (c.getPair a token) := by
  have hparts := h
  simp only [swapHop, bind_eq_ok, getPairOrRevert_eq_ok] at hparts
  obtain ⟨sorted, hsort, _, -, _, ⟨hexists, -⟩, -⟩ := hparts
  obtain ⟨p, hpair⟩ := hlisted input output hexists
  obtain ⟨reserveIn, reserveOut, hreserves⟩ := getReserves_of_sort hsort hexists hpair.storage
  have ho := oriented_of_sorted hpair.storage hpair.sorted hreserves
  obtain ⟨d, -, hswap⟩ := (swapHop_eq_ok ho).mp h
  obtain ⟨fee0, fee1, htokens, -, hothers, -⟩ := FluxSwapPair.swap_effect hpair.storage hswap
  have hne : token ≠ p.token0 ∧ token ≠ p.token1 := by
    rcases ho.side with ⟨h0, h1, -⟩ | ⟨h0, h1, -⟩
    · exact ⟨h0 ▸ hin, h1 ▸ hout⟩
    · exact ⟨h0 ▸ hout, h1 ▸ hin⟩
  constructor
  · intro a
    rw [htokens, Ledger.balanceOf_move_of_token_ne _ _ _ _ _ hne.2,
      Ledger.balanceOf_move_of_token_ne _ _ _ _ _ hne.1,
      Ledger.balanceOf_move_of_token_ne _ _ _ _ _ hne.2,
      Ledger.balanceOf_move_of_token_ne _ _ _ _ _ hne.1]
  · intro a
    apply hothers
    intro hsame
    obtain ⟨q, hq⟩ := hlisted a token (hsame ▸ hexists)
    have hstorage := hq.storage
    rw [hsame, hpair.storage, Option.some.injEq] at hstorage
    subst hstorage
    rcases hq.tokens with ⟨-, h1⟩ | ⟨h0, -⟩
    · exact hne.2 h1.symm
    · exact hne.1 h0.symm

/-- The last hop pays no fee in its output when the pair holds no surplus of it. -/
theorem lastHop_pays (hlisted : Listed c) (hdst : dst ≠ c.getPair input output)
    (heven : LastPairEven c [input, output])
    (h : swapHop router input output [] y dst c = .ok c') :
    ∀ a, a ≠ c.getPair input output →
      c'.tokens.balanceOf output a = c.tokens.balanceOf output a + if a = dst then y else 0 := by
  have hparts := h
  simp only [swapHop, bind_eq_ok, getPairOrRevert_eq_ok] at hparts
  obtain ⟨sorted, hsort, _, -, _, ⟨hexists, -⟩, -⟩ := hparts
  obtain ⟨p, hpair⟩ := hlisted input output hexists
  obtain ⟨reserveIn, reserveOut, hreserves⟩ := getReserves_of_sort hsort hexists hpair.storage
  have ho := oriented_of_sorted hpair.storage hpair.sorted hreserves
  obtain ⟨d, hd, hswap⟩ := (swapHop_eq_ok ho).mp h
  obtain rfl := pure_eq_ok.mp hd
  obtain ⟨htokens, -⟩ := FluxSwapPair.swap_fees hpair.storage rfl hswap
  have hheld := heven p hpair.storage
  intro a ha
  rw [htokens]
  rcases ho.side with ⟨h0, h1, -, -⟩ | ⟨h0, h1, -, -⟩
  · -- the output is the second token of the pair
    have houtputs : hopOutputs p input y = (0, y) := if_pos h0.symm
    rw [reserveOf, if_neg (h0 ▸ ho.ne.symm)] at hheld
    rw [houtputs, h0, h1]
    simp only [Ledger.move_zero]
    rw [Ledger.balanceOf_move_src _ _ _ _ _ hdst.symm, amountIn_eq_zero hheld,
      protocolFee_zero, Ledger.move_zero, Ledger.balanceOf_move_of_token_ne _ _ _ _ _ ho.ne.symm,
      Ledger.balanceOf_move_of_ne_src _ _ _ _ _ ha]
    simp
  · have houtputs : hopOutputs p input y = (y, 0) := if_neg (h0 ▸ ho.ne)
    rw [reserveOf, if_pos h0.symm] at hheld
    rw [houtputs, h0, h1]
    simp only [Ledger.move_zero]
    rw [Ledger.balanceOf_move_src _ _ _ _ _ hdst.symm, amountIn_eq_zero hheld,
      protocolFee_zero, Ledger.move_zero, Ledger.balanceOf_move_of_token_ne _ _ _ _ _ ho.ne.symm,
      Ledger.balanceOf_move_of_ne_src _ _ _ _ _ ha]
    simp

/-- The hops of a path that comes to its last token at its end only: that token moves once. -/
theorem swapAlong_proceeds {path : List Address} {amounts : List Nat} (hlisted : Listed c)
    (hlength : amounts.length = path.length) (htwo : 2 ≤ path.length)
    (hdst : dst ∉ hopPairs c path) (hlast : path.getLast? = some token)
    (hy : amounts.getLast? = some y) (honce : token ∉ path.dropLast)
    (heven : LastPairEven c path) (h : swapAlong router amounts path dst c = .ok c') :
    ∀ a, a ∉ hopPairs c path →
      c'.tokens.balanceOf token a = c.tokens.balanceOf token a + if a = dst then y else 0 := by
  induction path generalizing amounts c with
  | nil => simp at htwo
  | cons input rest ih =>
    match rest, amounts with
    | [], _ => simp at htwo
    | _ :: _, [] => simp at hlength
    | _ :: _, [_] => simp at hlength
    | [output], x :: z :: amounts =>
      obtain rfl : amounts = [] := by simpa using hlength
      obtain rfl : output = token := by simpa using hlast
      obtain rfl : z = y := by simpa using hy
      simp only [swapAlong, bind_eq_ok, pure_eq_ok] at h
      obtain ⟨c₁, hhop, rfl⟩ := h
      intro a ha
      apply lastHop_pays hlisted _ heven hhop a
      · simpa [hopPairs] using ha
      · simpa [hopPairs] using hdst
    | output :: next :: rest, x :: z :: amounts =>
      simp only [swapAlong, bind_eq_ok] at h
      obtain ⟨c₁, hhop, hrest⟩ := h
      simp only [List.dropLast_cons_cons, List.mem_cons, not_or] at honce
      -- the first hop does not touch the last token, so the last pair stays even
      obtain ⟨hsame, hkept⟩ := swapHop_others hlisted honce.1 honce.2.1 hhop
      obtain ⟨d, -, hpays⟩ := swapHop_pays hlisted hhop
      have hpairs : hopPairs c₁ (output :: next :: rest) = hopPairs c (output :: next :: rest) :=
        hopPairs_congr hpays.env.getPair _
      rw [List.getLast?_cons_cons] at hlast hy
      have heven₁ : LastPairEven c₁ (output :: next :: rest) :=
        LastPairEven.congr hlast hpays.env.getPair hsame hkept heven
      rw [hopPairs, List.mem_cons, not_or] at hdst
      intro a ha
      rw [hopPairs, List.mem_cons, not_or] at ha
      rw [ih hpays.listed (by simpa using hlength) (by simp) (hpairs ▸ hdst.2) hlast hy
        (by simpa using honce.2) heven₁ hrest a (hpairs ▸ ha.2), hsame a]

theorem swapExactTokens_long {path : List Address} {amounts : List Nat} {amountIn amountOutMin : Nat}
    (h : swapExactTokens router sender amountIn amountOutMin path dst c = .ok (c', amounts)) :
    1 < path.length := by
  simp only [swapExactTokens, bind_eq_ok] at h
  obtain ⟨_, hquote, -⟩ := h
  exact (getAmountsOut_shape hquote).1

/-- The receiver of an exact-input swap gets the quoted amount of the last token, and nobody
    else off the path gets or loses any of it. -/
theorem swapExactTokens_proceeds {path : List Address} {amounts : List Nat}
    {amountIn amountOutMin : Nat} (hlisted : Listed c) (hdst : dst ∉ hopPairs c path)
    (hlast : path.getLast? = some token) (honce : token ∉ path.dropLast)
    (heven : LastPairEven c path)
    (h : swapExactTokens router sender amountIn amountOutMin path dst c = .ok (c', amounts)) :
    ∃ y, amounts.getLast? = some y ∧ ∀ a, a ∉ hopPairs c path →
      c'.tokens.balanceOf token a = c.tokens.balanceOf token a + if a = dst then y else 0 := by
  simp only [swapExactTokens, bind_eq_ok, last_eq_ok, require_eq_ok, pure_eq_ok,
    Prod.mk.injEq] at h
  obtain ⟨quoted, hquote, y, hy, _, -, c₁, hpay, c₂, hswap, rfl, rfl⟩ := h
  obtain ⟨htwo, hlength, -⟩ := getAmountsOut_shape hquote
  refine ⟨y, hy, ?_⟩
  rcases path with _ | ⟨input, _ | ⟨next, rest⟩⟩
  · simp at htwo
  · simp at htwo
  rcases quoted with _ | ⟨x, quoted⟩
  · simp at hlength
  · simp only [payFirstPair, bind_eq_ok, getPairOrRevert_eq_ok, safeTransferFrom_eq_ok] at hpay
    obtain ⟨_, ⟨-, rfl⟩, hpay⟩ := hpay
    have hquiet := Chain.transferFrom_quiet hpay
    have hmoved := Chain.transferFrom_spec hpay
    have hinput : token ≠ input := by
      rw [List.dropLast_cons_cons, List.mem_cons, not_or] at honce
      exact honce.1
    have hsame : ∀ a, c₁.tokens.balanceOf token a = c.tokens.balanceOf token a := by
      intro a
      rw [hmoved.balances, Ledger.balanceOf_move_of_token_ne _ _ _ _ _ hinput]
    have hpairs := hopPairs_congr hquiet.env.getPair (input :: next :: rest)
    have heven₁ := LastPairEven.congr hlast hquiet.env.getPair hsame
      (fun _ => by rw [hquiet.pairs]) heven
    intro a ha
    rw [swapAlong_proceeds (hlisted.congr hquiet.env.getPair hquiet.pairs) hlength htwo
      (hpairs ▸ hdst) hlast hy honce heven₁ hswap a (hpairs ▸ ha), hsame a]

end FluxSwapRouter
