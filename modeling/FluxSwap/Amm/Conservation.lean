-- SUMMARY: The six swap entry points of the router: what caller, receiver and router have before and after.
import FluxSwap.Amm.ExactInput

/-!
# Conservation of the router

A hop pays what the quote says to the pair of the next hop, the last one to the
receiver, and every hop may pay a fee to the treasury. So the accounts off the path
see only the first payment, the last one and the fees, however often the path comes
back to a token or a pair. Wrapping, unwrapping and the refund pass through the router.
-/

open Exec

namespace FluxSwapRouter

variable {c c' : Chain} {router sender dst input output : Address}

/-! ## Hops -/

/-- Every pair of the factory holds the two tokens it is listed for. -/
def Listed (c : Chain) : Prop :=
  ∀ tokenA tokenB, c.getPair tokenA tokenB ≠ Address.zero → ∃ p, PairOf c tokenA tokenB p

theorem Listed.congr (h : Listed c) (hgetPair : c'.getPair = c.getPair)
    (hpairs : c'.pairs = c.pairs) : Listed c' := by
  intro tokenA tokenB hexists
  rw [hgetPair] at hexists
  obtain ⟨p, hp⟩ := h tokenA tokenB hexists
  exact ⟨p, by rw [hgetPair, hpairs]; exact hp.storage, hp.sorted⟩

/-- A pair's tokens never change. -/
theorem Listed.swapped {pair : Address} {p p' : Pair} (h : Listed c)
    (henv : FluxSwapPair.SameEnv c c') (hp : c.pairs pair = some p)
    (hothers : ∀ q, q ≠ pair → c'.pairs q = c.pairs q) (hp' : c'.pairs pair = some p')
    (h0 : p'.token0 = p.token0) (h1 : p'.token1 = p.token1) : Listed c' := by
  intro tokenA tokenB hexists
  rw [henv.getPair] at hexists
  obtain ⟨q, hq⟩ := h tokenA tokenB hexists
  have hstorage := hq.storage
  by_cases hsame : c.getPair tokenA tokenB = pair
  · rw [hsame, hp, Option.some.injEq] at hstorage
    subst hstorage
    exact ⟨p', by rw [henv.getPair, hsame]; exact hp', by rw [h0, h1]; exact hq.sorted⟩
  · exact ⟨q, by rw [henv.getPair, hothers _ hsame]; exact hstorage, hq.sorted⟩

/-- What a part of a swap does to the accounts that are not pairs on the path: one
    receiver is paid, and the treasury may get fees. -/
structure Pays (pairs : List Address) (output dst : Address) (y : Nat) (c c' : Chain) : Prop where
  env : FluxSwapPair.SameEnv c c'
  listed : Listed c'
  balances : ∃ fees : Address → Nat, ∀ t a, a ∉ pairs →
    c'.tokens.balanceOf t a = c.tokens.balanceOf t a + (if t = output ∧ a = dst then y else 0) +
      if a = c.treasury then fees t else 0

theorem getReserves_of_sort {p : Pair} {sorted : Address × Address}
    (hsort : sortTokens input output = .ok sorted) (hexists : c.getPair input output ≠ Address.zero)
    (hp : c.pairs (c.getPair input output) = some p) :
    ∃ reserveIn reserveOut, getReserves c input output = .ok (reserveIn, reserveOut) := by
  have hpair : getPairOrRevert c input output = .ok (c.getPair input output) :=
    getPairOrRevert_eq_ok.mpr ⟨hexists, rfl⟩
  have hread : c.pairAt (c.getPair input output) = .ok p := Chain.pairAt_eq_ok.mpr hp
  unfold getReserves
  simp only [hsort, hpair, hread, ok_bind]
  exact ⟨_, _, rfl⟩

theorem swapHop_pays {rest : List Address} {y : Nat} (hlisted : Listed c)
    (h : swapHop router input output rest y dst c = .ok c') :
    ∃ d, hopReceiver c output rest dst = .ok d ∧
      Pays [c.getPair input output] output d y c c' := by
  have hparts := h
  simp only [swapHop, bind_eq_ok, getPairOrRevert_eq_ok] at hparts
  obtain ⟨sorted, hsort, _, -, _, ⟨hexists, -⟩, -⟩ := hparts
  obtain ⟨p, hpair⟩ := hlisted input output hexists
  obtain ⟨reserveIn, reserveOut, hreserves⟩ := getReserves_of_sort hsort hexists hpair.storage
  have ho := oriented_of_sorted hpair.storage hpair.sorted hreserves
  obtain ⟨d, hd, hswap⟩ := (swapHop_eq_ok ho).mp h
  obtain ⟨fee0, fee1, htokens, henv, hothers, p', hp', h0, h1⟩ :=
    FluxSwapPair.swap_effect hpair.storage hswap
  refine ⟨d, hd, henv, hlisted.swapped henv hpair.storage hothers hp' h0 h1,
    fun t => (if t = p.token0 then fee0 else 0) + if t = p.token1 then fee1 else 0, ?_⟩
  intro t a ha
  have hne : a ≠ c.getPair input output := fun heq => ha (heq ▸ List.mem_cons_self)
  rw [htokens, Ledger.balanceOf_move_of_ne_src _ _ _ _ _ hne,
    Ledger.balanceOf_move_of_ne_src _ _ _ _ _ hne, Ledger.balanceOf_move_of_ne_src _ _ _ _ _ hne,
    Ledger.balanceOf_move_of_ne_src _ _ _ _ _ hne]
  have hout : (if t = p.token0 ∧ a = d then (hopOutputs p input y).1 else 0) +
      (if t = p.token1 ∧ a = d then (hopOutputs p input y).2 else 0) =
        if t = output ∧ a = d then y else 0 := by
    unfold hopOutputs
    rcases ho.side with ⟨h0, h1, -, -⟩ | ⟨h0, h1, -, -⟩
    · rw [if_pos h0.symm, h1]
      simp
    · have hne : input ≠ p.token0 := by rw [h0]; exact ho.ne
      rw [if_neg hne, h0]
      simp
  have hfees : (if t = p.token0 ∧ a = c.treasury then fee0 else 0) +
      (if t = p.token1 ∧ a = c.treasury then fee1 else 0) =
        if a = c.treasury then (if t = p.token0 then fee0 else 0) + if t = p.token1 then fee1 else 0
        else 0 := by
    by_cases htreasury : a = c.treasury
    · simp only [htreasury, and_true, if_true]
    · simp only [htreasury, and_false, if_false]
  beta_reduce
  omega

/-- The hops of `_swap` one after another: only the last one pays off the path. -/
theorem swapAlong_pays {path : List Address} {amounts : List Nat} (hlisted : Listed c)
    (hlength : amounts.length = path.length) (htwo : 2 ≤ path.length)
    (h : swapAlong router amounts path dst c = .ok c') :
    ∃ output y, path.getLast? = some output ∧ amounts.getLast? = some y ∧
      Pays (hopPairs c path) output dst y c c' := by
  induction path generalizing amounts c with
  | nil => simp at htwo
  | cons input rest ih =>
    match rest, amounts with
    | [], _ => simp at htwo
    | _ :: _, [] => simp at hlength
    | _ :: _, [_] => simp at hlength
    | [output], x :: y :: amounts =>
      obtain rfl : amounts = [] := by simpa using hlength
      simp only [swapAlong, bind_eq_ok, pure_eq_ok] at h
      obtain ⟨c₁, hhop, rfl⟩ := h
      obtain ⟨d, hd, hpays⟩ := swapHop_pays hlisted hhop
      obtain rfl := pure_eq_ok.mp hd
      exact ⟨output, y, rfl, rfl, hpays⟩
    -- the first hop pays the next pair, which pays out as much again
    | output :: next :: rest, x :: y :: amounts =>
      simp only [swapAlong, bind_eq_ok] at h
      obtain ⟨c₁, hhop, hrest⟩ := h
      obtain ⟨d, hd, hpays⟩ := swapHop_pays hlisted hhop
      obtain ⟨-, rfl⟩ := getPairOrRevert_eq_ok.mp hd
      obtain ⟨final, z, hfinal, hz, hrestPays⟩ := ih hpays.listed (by simpa using hlength)
        (by simp) hrest
      refine ⟨final, z, by rw [List.getLast?_cons_cons]; exact hfinal,
        by rw [List.getLast?_cons_cons]; exact hz, hpays.env.trans hrestPays.env,
        hrestPays.listed, ?_⟩
      obtain ⟨fees, hbalances⟩ := hpays.balances
      obtain ⟨fees', hbalances'⟩ := hrestPays.balances
      have hpairs : hopPairs c₁ (output :: next :: rest) = hopPairs c (output :: next :: rest) :=
        hopPairs_congr hpays.env.getPair _
      refine ⟨fun t => fees t + fees' t, ?_⟩
      intro t a ha
      rw [hopPairs, List.mem_cons, not_or] at ha
      have hnext : a ≠ c.getPair output next := by
        intro heq
        exact ha.2 (heq ▸ List.mem_cons_self)
      rw [hbalances' t a (hpairs ▸ ha.2), hbalances t a (by simpa using ha.1), hpays.env.treasury,
        if_neg (fun hpaid : t = output ∧ a = c.getPair output next => hnext hpaid.2)]
      by_cases htreasury : a = c.treasury
      · simp only [htreasury, if_true]
        omega
      · simp only [htreasury, if_false]
        omega

/-! ## Quotes -/

theorem amountsOutFrom_shape {path : List Address} {x : Nat} {amounts : List Nat}
    (hpath : path ≠ []) (h : amountsOutFrom c x path = .ok amounts) :
    amounts.length = path.length ∧ amounts.head? = some x := by
  induction path generalizing x amounts with
  | nil => exact absurd rfl hpath
  | cons input rest ih =>
    cases rest with
    | nil =>
      obtain rfl := pure_eq_ok.mp h
      exact ⟨rfl, rfl⟩
    | cons output rest =>
      simp only [amountsOutFrom, bind_eq_ok, pure_eq_ok] at h
      obtain ⟨_, -, y, -, tail, htail, rfl⟩ := h
      exact ⟨by simpa using (ih (by simp) htail).1, rfl⟩

theorem getAmountsOut_shape {path : List Address} {x : Nat} {amounts : List Nat}
    (h : getAmountsOut c x path = .ok amounts) :
    2 ≤ path.length ∧ amounts.length = path.length ∧ amounts.head? = some x := by
  simp only [getAmountsOut, bind_eq_ok, require_eq_ok] at h
  obtain ⟨_, htwo, hfrom⟩ := h
  have hpath : path ≠ [] := by
    rintro rfl
    simp at htwo
  exact ⟨htwo, amountsOutFrom_shape hpath hfrom⟩

theorem amountsInFrom_shape {path : List Address} {y : Nat} {amounts : List Nat}
    (hpath : path ≠ []) (h : amountsInFrom c y path = .ok amounts) :
    amounts.length = path.length ∧ amounts.getLast? = some y := by
  induction path generalizing amounts with
  | nil => exact absurd rfl hpath
  | cons input rest ih =>
    cases rest with
    | nil =>
      obtain rfl := pure_eq_ok.mp h
      exact ⟨rfl, rfl⟩
    | cons output rest =>
      simp only [amountsInFrom, bind_eq_ok, pure_eq_ok] at h
      obtain ⟨tail, htail, _, -, x, -, rfl⟩ := h
      obtain ⟨hlength, hlast⟩ := ih (by simp) htail
      cases tail with
      | nil => simp at hlength
      | cons y' tail =>
        refine ⟨by simpa using hlength, ?_⟩
        rw [List.getLast?_cons_cons]
        exact hlast

theorem getAmountsIn_shape {path : List Address} {y : Nat} {amounts : List Nat}
    (h : getAmountsIn c y path = .ok amounts) :
    2 ≤ path.length ∧ amounts.length = path.length ∧ amounts.getLast? = some y := by
  simp only [getAmountsIn, bind_eq_ok, require_eq_ok] at h
  obtain ⟨_, htwo, hfrom⟩ := h
  have hpath : path ≠ [] := by
    rintro rfl
    simp at htwo
  exact ⟨htwo, amountsInFrom_shape hpath hfrom⟩

/-! ## Payments into the first pair -/

/-- What the caller of a token swap pays, and what a swap along the path then pays. -/
structure Exchanged (pairs : List Address) (input output sender dst : Address) (x y : Nat)
    (c c' : Chain) : Prop where
  env : FluxSwapPair.SameEnv c c'
  balances : ∃ fees : Address → Nat, ∀ t a, a ∉ pairs →
    c'.tokens.balanceOf t a + (if t = input ∧ a = sender then x else 0) =
      c.tokens.balanceOf t a + (if t = output ∧ a = dst then y else 0) +
        if a = c.treasury then fees t else 0

theorem payFirstPair_exchanges {path : List Address} {amounts : List Nat} {c₁ : Chain}
    (hlisted : Listed c) (hlength : amounts.length = path.length) (htwo : 2 ≤ path.length)
    (hpay : payFirstPair router sender amounts path c = .ok c₁)
    (hswap : swapAlong router amounts path dst c₁ = .ok c') :
    ∃ input output x y, path.head? = some input ∧ path.getLast? = some output ∧
      amounts.head? = some x ∧ amounts.getLast? = some y ∧
      Exchanged (hopPairs c path) input output sender dst x y c c' := by
  match path, amounts with
  | [], _ => simp at htwo
  | [_], _ => simp at htwo
  | _ :: _ :: _, [] => simp at hlength
  | input :: next :: rest, x :: amounts =>
    simp only [payFirstPair, bind_eq_ok, getPairOrRevert_eq_ok, safeTransferFrom_eq_ok] at hpay
    obtain ⟨_, ⟨-, rfl⟩, hpay⟩ := hpay
    have hquiet := Chain.transferFrom_quiet hpay
    have hmoved := Chain.transferFrom_spec hpay
    obtain ⟨output, y, houtput, hy, hpays⟩ :=
      swapAlong_pays (hlisted.congr hquiet.env.getPair hquiet.pairs) hlength htwo hswap
    refine ⟨input, output, x, y, rfl, houtput, rfl, hy, hquiet.env.trans hpays.env, ?_⟩
    obtain ⟨fees, hbalances⟩ := hpays.balances
    rw [hopPairs_congr hquiet.env.getPair, hquiet.env.treasury] at hbalances
    refine ⟨fees, ?_⟩
    intro t a ha
    have hfirst : a ≠ c.getPair input next := fun heq => ha (heq ▸ List.mem_cons_self)
    have hadd := c.tokens.balanceOf_move_add input sender (c.getPair input next) x hmoved.enough t a
    rw [if_neg (fun h : t = input ∧ a = c.getPair input next => hfirst h.2)] at hadd
    rw [hbalances t a ha, hmoved.balances]
    omega

/-- What the caller paid in ETH is WETH of the first pair. -/
theorem wrapToFirstPair_spec {WETH next : Address} {rest : List Address} {x : Nat}
    {amounts : List Nat}
    (h : wrapToFirstPair router WETH (x :: amounts) (input :: next :: rest) c = .ok c') :
    c'.getPair = c.getPair ∧ c'.pairs = c.pairs ∧ c'.treasury = c.treasury ∧
      (∀ t a, a ≠ c.getPair input next → c'.tokens.balanceOf t a = c.tokens.balanceOf t a) ∧
      ∀ a, c'.eth a + (if a = router then x else 0) = c.eth a + if a = WETH then x else 0 := by
  simp only [wrapToFirstPair, bind_eq_ok, require_eq_ok, getPairOrRevert_eq_ok] at h
  obtain ⟨_, hfunds, _, ⟨-, rfl⟩, htransfer⟩ := h
  split at htransfer
  · rename_i c₂ hpaid
    obtain rfl := pure_eq_ok.mp htransfer
    obtain ⟨⟨henough, -⟩, rfl⟩ := Chain.transfer_eq_some.mp hpaid
    refine ⟨rfl, rfl, rfl, ?_, fun a => Chain.moveETH_add WETH hfunds a⟩
    intro t a ha
    have hcredit := c.tokens.balanceOf_credit WETH router x t a
    have hadd := (c.tokens.credit WETH router x).balanceOf_move_add WETH router
      (c.getPair input next) x henough t a
    rw [if_neg (fun h : t = WETH ∧ a = c.getPair input next => ha h.2)] at hadd
    show ((c.tokens.credit WETH router x).move WETH router (c.getPair input next) x).balanceOf t a = _
    omega
  · cases htransfer

theorem wrapToFirstPair_pays {WETH : Address} {path : List Address} {amounts : List Nat} {c₁ : Chain}
    (hlisted : Listed c) (hlength : amounts.length = path.length) (htwo : 2 ≤ path.length)
    (hwrap : wrapToFirstPair router WETH amounts path c = .ok c₁)
    (hswap : swapAlong router amounts path dst c₁ = .ok c') :
    ∃ output x y, path.getLast? = some output ∧ amounts.head? = some x ∧
      amounts.getLast? = some y ∧
      (∃ fees : Address → Nat, ∀ t a, a ∉ hopPairs c path →
        c'.tokens.balanceOf t a = c.tokens.balanceOf t a + (if t = output ∧ a = dst then y else 0) +
          if a = c.treasury then fees t else 0) ∧
      ∀ a, c'.eth a + (if a = router then x else 0) = c.eth a + if a = WETH then x else 0 := by
  match path, amounts with
  | [], _ => simp at htwo
  | [_], _ => simp at htwo
  | _ :: _ :: _, [] => simp at hlength
  | input :: next :: rest, x :: amounts =>
    obtain ⟨hgetPair, hpairs, htreasury, hkept, heth⟩ := wrapToFirstPair_spec hwrap
    obtain ⟨output, y, houtput, hy, hpays⟩ :=
      swapAlong_pays (hlisted.congr hgetPair hpairs) hlength htwo hswap
    refine ⟨output, x, y, houtput, rfl, hy, ?_, ?_⟩
    · obtain ⟨fees, hbalances⟩ := hpays.balances
      rw [hopPairs_congr hgetPair, htreasury] at hbalances
      refine ⟨fees, ?_⟩
      intro t a ha
      rw [hbalances t a ha, hkept t a fun heq => ha (heq ▸ List.mem_cons_self)]
    · rw [hpays.env.eth]
      exact heth

/-! ## The entry points -/

/-- A router, its WETH, and the code of the accounts that it may pay in ETH. -/
structure Site where
  router    : Address
  WETH      : Address
  receivers : Receivers

/-- The code that runs when an account is sent ETH. -/
def Site.receiveETH (k : Site) : Receivers := fun sender receiver value c =>
  if receiver = k.WETH then pure (Weth.deposit k.WETH sender value c)
  else if receiver = k.router then do
    receive k.WETH sender
    pure c
  else k.receivers sender receiver value c

/-- The swap entry points with their amounts; `value` is `msg.value`. -/
inductive Swap
  | exactTokensForTokens (amountIn amountOutMin : Nat)
  | tokensForExactTokens (amountOut amountInMax : Nat)
  | exactETHForTokens (value amountOutMin : Nat)
  | tokensForExactETH (amountOut amountInMax : Nat)
  | exactTokensForETH (amountIn amountOutMin : Nat)
  | ethForExactTokens (value amountOut : Nat)

namespace Swap

def run (k : Site) (sender : Address) (path : List Address) (dst : Address) (deadline : Nat)
    (c : Chain) : Swap → Exec (Chain × List Nat)
  | .exactTokensForTokens amountIn amountOutMin =>
    swapExactTokensForTokens k.router sender amountIn amountOutMin path dst deadline c
  | .tokensForExactTokens amountOut amountInMax =>
    swapTokensForExactTokens k.router sender amountOut amountInMax path dst deadline c
  | .exactETHForTokens value amountOutMin =>
    swapExactETHForTokens k.router k.WETH sender value amountOutMin path dst deadline c
  | .tokensForExactETH amountOut amountInMax =>
    swapTokensForExactETH k.receiveETH k.router k.WETH sender amountOut amountInMax path dst
      deadline c
  | .exactTokensForETH amountIn amountOutMin =>
    swapExactTokensForETH k.receiveETH k.router k.WETH sender amountIn amountOutMin path dst
      deadline c
  | .ethForExactTokens value amountOut =>
    swapETHForExactTokens k.receiveETH k.router k.WETH sender value amountOut path dst deadline c

/-- The caller pays in ETH. -/
def paysETH : Swap → Bool
  | .exactETHForTokens .. | .ethForExactTokens .. => true
  | _ => false

/-- The receiver is paid in ETH. -/
def givesETH : Swap → Bool
  | .tokensForExactETH .. | .exactTokensForETH .. => true
  | _ => false

/-- The exact amount, and the caller's bound on the other one. -/
def Bounded (x y : Nat) : Swap → Prop
  | .exactTokensForTokens amountIn amountOutMin
  | .exactTokensForETH amountIn amountOutMin
  | .exactETHForTokens amountIn amountOutMin => x = amountIn ∧ amountOutMin ≤ y
  | .tokensForExactTokens amountOut amountInMax
  | .tokensForExactETH amountOut amountInMax
  | .ethForExactTokens amountInMax amountOut => y = amountOut ∧ x ≤ amountInMax

/-- The account that is sent ETH at the end of the call, and how much. -/
def handsOver (sender dst : Address) (x y : Nat) : Swap → Option (Address × Nat)
  | .tokensForExactETH .. | .exactTokensForETH .. => some (dst, y)
  | .ethForExactTokens value _ => if x < value then some (sender, value - x) else none
  | _ => none

end Swap

/-- The asset at an end of a path. -/
def assetOf (isETH : Bool) (token : Address) : Asset := if isETH then .eth else .token token

/-- The fees of the treasury; none are paid in ETH. -/
def feeOf (fees : Address → Nat) : Asset → Nat
  | .eth => 0
  | .token t => fees t

/-- The accounts off the path: the caller paid `x` of one asset, the receiver got `y` of
    another, and the treasury got fees. -/
def Conserves (k : Site) (pairs : List Address) (paid got : Asset) (sender dst : Address)
    (x y : Nat) (fees : Address → Nat) (c c' : Chain) : Prop :=
  ∀ asset a, a ∉ pairs → (asset = .eth → a ≠ k.WETH) →
    c'.holding a asset + (if asset = paid ∧ a = sender then x else 0) =
      c.holding a asset + (if asset = got ∧ a = dst then y else 0) +
        if a = c.treasury then feeOf fees asset else 0

/-- The state in which the receiver of the ETH gets control, if there is one. -/
def HandedOver (k : Site) (handsOver : Option (Address × Nat)) (c c' : Chain) : Prop :=
  match handsOver with
  | some (receiver, value) => k.receivers k.router receiver value c = .ok c'
  | none => c' = c

variable {k : Site} {path : List Address} {amounts : List Nat} {x y : Nat}

theorem Exchanged.conserves {pairs : List Address}
    (h : Exchanged pairs input output sender dst x y c c') :
    ∃ fees, Conserves k pairs (.token input) (.token output) sender dst x y fees c c' := by
  obtain ⟨fees, hbalances⟩ := h.balances
  refine ⟨fees, ?_⟩
  intro asset a ha _
  cases asset with
  | eth => simp [Chain.holding, h.env.eth, feeOf]
  | token t =>
    simp only [Asset.token.injEq]
    exact hbalances t a ha

/-- `receive` of the router, and of an account that is neither it nor WETH. -/
theorem sendETH_router {value : Nat} (hne : k.router ≠ k.WETH) {src : Address}
    (h : Chain.sendETH k.receiveETH src k.router value c = .ok c') :
    value ≤ c.eth src ∧ c' = c.moveETH src k.router value := by
  obtain ⟨hle, hreceive⟩ := Chain.sendETH_eq_ok.mp h
  simp only [Site.receiveETH, if_neg hne, if_true, bind_eq_ok, pure_eq_ok] at hreceive
  obtain ⟨_, -, rfl⟩ := hreceive
  exact ⟨hle, rfl⟩

theorem sendETH_other {src a : Address} {value : Nat} (hweth : a ≠ k.WETH) (hrouter : a ≠ k.router)
    (h : Chain.sendETH k.receiveETH src a value c = .ok c') :
    value ≤ c.eth src ∧ k.receivers src a value (c.moveETH src a value) = .ok c' := by
  obtain ⟨hle, hreceive⟩ := Chain.sendETH_eq_ok.mp h
  simp only [Site.receiveETH, if_neg hweth, if_neg hrouter] at hreceive
  exact ⟨hle, hreceive⟩

/-- The router turns the WETH of a swap into ETH and passes it on. -/
theorem Exchanged.unwrapped {pairs : List Address} {c₁ c₂ : Chain}
    (h : Exchanged pairs input k.WETH sender k.router x y c c₁) (hne : k.router ≠ k.WETH)
    (hweth : dst ≠ k.WETH) (hrouter : dst ≠ k.router)
    (hwithdraw : Weth.withdraw k.receiveETH k.WETH k.router y c₁ = .ok c₂)
    (hsend : Chain.sendETH k.receiveETH k.router dst y c₂ = .ok c') :
    ∃ c₃ fees, Conserves k pairs (.token input) .eth sender dst x y fees c c₃ ∧
      k.receivers k.router dst y c₃ = .ok c' := by
  simp only [Weth.withdraw, bind_eq_ok, require_eq_ok] at hwithdraw
  obtain ⟨_, hdrawn, hwithdraw⟩ := hwithdraw
  obtain ⟨hbacked, rfl⟩ := sendETH_router hne hwithdraw
  obtain ⟨hheld, hreceive⟩ := sendETH_other hweth hrouter hsend
  obtain ⟨fees, hbalances⟩ := h.balances
  refine ⟨_, fees, ?_, hreceive⟩
  intro asset a ha hnotWeth
  cases asset with
  | eth =>
    have hfirst := Chain.moveETH_add k.router hbacked a
    have hsecond := Chain.moveETH_add dst hheld a
    rw [if_neg (hnotWeth rfl)] at hfirst
    simp only [h.env.eth, Chain.holding, feeOf, reduceCtorEq, false_and, if_false, true_and,
      ite_self, Nat.add_zero] at hfirst hsecond ⊢
    omega
  | token t =>
    have hgot := hbalances t a ha
    have hdebit := c₁.tokens.balanceOf_debit_add k.WETH k.router y hdrawn t a
    simp only [Chain.holding, feeOf, Asset.token.injEq, reduceCtorEq, false_and, if_false,
      Nat.add_zero]
    show (c₁.tokens.debit k.WETH k.router y).balanceOf t a + _ = _
    omega

theorem swapExactTokens_exchanges {amountIn amountOutMin : Nat} (hlisted : Listed c)
    (h : swapExactTokens router sender amountIn amountOutMin path dst c = .ok (c', amounts)) :
    ∃ input output y, path.head? = some input ∧ path.getLast? = some output ∧
      amounts.head? = some amountIn ∧ amounts.getLast? = some y ∧ amountOutMin ≤ y ∧
      Exchanged (hopPairs c path) input output sender dst amountIn y c c' := by
  simp only [swapExactTokens, bind_eq_ok, last_eq_ok, require_eq_ok, pure_eq_ok,
    Prod.mk.injEq] at h
  obtain ⟨_, hquote, y, hlast, _, hmin, c₁, hpay, c₂, hswap, rfl, rfl⟩ := h
  obtain ⟨htwo, hlength, hhead⟩ := getAmountsOut_shape hquote
  obtain ⟨input, output, x, y', hinput, houtput, hx, hy, hexchanged⟩ :=
    payFirstPair_exchanges hlisted hlength htwo hpay hswap
  obtain rfl := Option.some.inj (hhead.symm.trans hx)
  obtain rfl := Option.some.inj (hlast.symm.trans hy)
  exact ⟨input, output, y, hinput, houtput, hx, hy, hmin, hexchanged⟩

theorem swapForExactTokens_exchanges {amountOut amountInMax : Nat} (hlisted : Listed c)
    (h : swapForExactTokens router sender amountOut amountInMax path dst c = .ok (c', amounts)) :
    ∃ input output x, path.head? = some input ∧ path.getLast? = some output ∧
      amounts.head? = some x ∧ amounts.getLast? = some amountOut ∧ x ≤ amountInMax ∧
      Exchanged (hopPairs c path) input output sender dst x amountOut c c' := by
  simp only [swapForExactTokens, bind_eq_ok, first_eq_ok, require_eq_ok, pure_eq_ok,
    Prod.mk.injEq] at h
  obtain ⟨_, hquote, x, hfirst, _, hmax, c₁, hpay, c₂, hswap, rfl, rfl⟩ := h
  obtain ⟨htwo, hlength, hlast⟩ := getAmountsIn_shape hquote
  obtain ⟨input, output, x', y, hinput, houtput, hx, hy, hexchanged⟩ :=
    payFirstPair_exchanges hlisted hlength htwo hpay hswap
  obtain rfl := Option.some.inj (hfirst.symm.trans hx)
  obtain rfl := Option.some.inj (hlast.symm.trans hy)
  exact ⟨input, output, x, hinput, houtput, hx, hy, hmax, hexchanged⟩

/-- The value came in, the quoted part of it was wrapped, and the rest is still with the router. -/
structure Wrapped (k : Site) (pairs : List Address) (output sender dst : Address)
    (value x y : Nat) (c c' : Chain) : Prop where
  tokens : ∃ fees : Address → Nat, ∀ t a, a ∉ pairs →
    c'.tokens.balanceOf t a = c.tokens.balanceOf t a + (if t = output ∧ a = dst then y else 0) +
      if a = c.treasury then fees t else 0
  eth : ∀ a, a ≠ k.WETH →
    c'.eth a + (if a = sender then value else 0) + (if a = k.router then x else 0) =
      c.eth a + if a = k.router then value else 0

theorem wrapped_of_swap {value : Nat} {c₀ c₁ : Chain} (hlisted : Listed c)
    (hpay : payValue k.router sender value c = .ok c₀) (hlength : amounts.length = path.length)
    (htwo : 2 ≤ path.length) (hwrap : wrapToFirstPair k.router k.WETH amounts path c₀ = .ok c₁)
    (hswap : swapAlong k.router amounts path dst c₁ = .ok c') :
    ∃ output x y, path.getLast? = some output ∧ amounts.head? = some x ∧
      amounts.getLast? = some y ∧ Wrapped k (hopPairs c path) output sender dst value x y c c' := by
  simp only [payValue, bind_eq_ok, require_eq_ok, pure_eq_ok] at hpay
  obtain ⟨_, hfunds, rfl⟩ := hpay
  obtain ⟨output, x, y, houtput, hx, hy, ⟨fees, htokens⟩, heth⟩ :=
    wrapToFirstPair_pays (c := c.moveETH sender k.router value) (hlisted.congr rfl rfl) hlength htwo
      hwrap hswap
  have hpairs : hopPairs (c.moveETH sender k.router value) path = hopPairs c path := by
    apply hopPairs_congr
    rfl
  rw [hpairs] at htokens
  refine ⟨output, x, y, houtput, hx, hy, ⟨fees, htokens⟩, ?_⟩
  intro a ha
  have hin := Chain.moveETH_add k.router hfunds a
  have hout := heth a
  rw [if_neg ha] at hout
  omega

/-- All of the value was wrapped. -/
theorem Wrapped.conserves {pairs : List Address} (h : Wrapped k pairs output sender dst x x y c c') :
    ∃ fees, Conserves k pairs .eth (.token output) sender dst x y fees c c' := by
  obtain ⟨fees, htokens⟩ := h.tokens
  refine ⟨fees, ?_⟩
  intro asset a ha hweth
  cases asset with
  | eth =>
    have heth := h.eth a (hweth rfl)
    simp only [Chain.holding, feeOf, reduceCtorEq, false_and, if_false, true_and, ite_self,
      Nat.add_zero]
    omega
  | token t =>
    simp only [Chain.holding, feeOf, Asset.token.injEq, reduceCtorEq, false_and, if_false,
      Nat.add_zero]
    exact htokens t a ha

/-- The rest goes back to the caller. -/
theorem Wrapped.refunded {pairs : List Address} {value : Nat} {c₁ : Chain}
    (h : Wrapped k pairs output sender dst value x y c c₁) (hle : x ≤ value)
    (hweth : sender ≠ k.WETH) (hrouter : sender ≠ k.router)
    (hrefund : refundExcess k.receiveETH k.router sender value x c₁ = .ok c') :
    ∃ c₂ fees, Conserves k pairs .eth (.token output) sender dst x y fees c c₂ ∧
      HandedOver k (if x < value then some (sender, value - x) else none) c₂ c' := by
  unfold refundExcess at hrefund
  split at hrefund
  · rename_i hexcess
    rw [if_pos hexcess]
    obtain ⟨hheld, hreceive⟩ := sendETH_other hweth hrouter hrefund
    obtain ⟨fees, htokens⟩ := h.tokens
    refine ⟨_, fees, ?_, hreceive⟩
    intro asset a ha hnotWeth
    cases asset with
    | eth =>
      have heth := h.eth a (hnotWeth rfl)
      have hback := Chain.moveETH_add sender hheld a
      simp only [Chain.holding, feeOf, reduceCtorEq, false_and, if_false, true_and, ite_self,
        Nat.add_zero]
      by_cases hsender : a = sender
      -- the caller gets back what was not wrapped
      · subst hsender
        simp only [if_true, if_neg hrouter] at heth hback ⊢
        omega
      · simp only [if_neg hsender] at heth hback ⊢
        -- the router has passed everything on
        split at heth
        · simp only [if_true, ‹a = k.router›] at hback heth ⊢
          omega
        · simp only [if_neg ‹¬ a = k.router›] at hback heth ⊢
          omega
    | token t =>
      simp only [Chain.holding, feeOf, Asset.token.injEq, reduceCtorEq, false_and, if_false,
        Nat.add_zero]
      exact htokens t a ha
  · rename_i hall
    obtain rfl := pure_eq_ok.mp hrefund
    obtain rfl : x = value := by omega
    rw [if_neg hall]
    obtain ⟨fees, hconserves⟩ := h.conserves
    exact ⟨c₁, fees, hconserves, rfl⟩

/-- The router is neither WETH, nor a pair on the path, nor the treasury; the caller is neither
    the router nor WETH; and the receiver is not the router, nor WETH when it is paid in ETH. -/
structure Parties (k : Site) (call : Swap) (sender dst : Address) (path : List Address)
    (c : Chain) : Prop where
  listed : Listed c
  router_weth : k.router ≠ k.WETH
  router_pairs : k.router ∉ hopPairs c path
  router_treasury : k.router ≠ c.treasury
  sender_router : sender ≠ k.router
  sender_weth : sender ≠ k.WETH
  dst_router : dst ≠ k.router
  dst_weth : call.givesETH = true → dst ≠ k.WETH

theorem Conserves.of_router {call : Swap} {paid got : Asset} {fees : Address → Nat}
    (h : Conserves k (hopPairs c path) paid got sender dst x y fees c c')
    (hparties : Parties k call sender dst path c) (asset : Asset) :
    c'.holding k.router asset = c.holding k.router asset := by
  have hrouter := h asset k.router hparties.router_pairs fun _ => hparties.router_weth
  simpa [hparties.sender_router.symm, hparties.dst_router.symm, hparties.router_treasury]
    using hrouter

/-- Every successful swap: with `x` the first and `y` the last of the returned amounts, the
    caller is charged `x` of the input asset and the receiver is paid `y` of the output asset,
    both within the caller's bounds; no account off the path but the treasury, which gets the
    protocol fees, gains or loses anything else; the router keeps nothing. Of the code of other
    accounts only that of the receiver of ETH runs, and it runs last. -/
theorem swap_conserves {call : Swap} {deadline : Nat} (hparties : Parties k call sender dst path c)
    (h : call.run k sender path dst deadline c = .ok (c', amounts)) :
    ∃ input output x y c₁ fees, path.head? = some input ∧ path.getLast? = some output ∧
      amounts.head? = some x ∧ amounts.getLast? = some y ∧ call.Bounded x y ∧
      Conserves k (hopPairs c path) (assetOf call.paysETH input) (assetOf call.givesETH output)
        sender dst x y fees c c₁ ∧
      (∀ asset, c₁.holding k.router asset = c.holding k.router asset) ∧
      HandedOver k (call.handsOver sender dst x y) c₁ c' := by
  -- the router's own balances follow from those of all accounts off the path
  suffices hall : ∃ input output x y c₁ fees, path.head? = some input ∧
      path.getLast? = some output ∧ amounts.head? = some x ∧ amounts.getLast? = some y ∧
      call.Bounded x y ∧
      Conserves k (hopPairs c path) (assetOf call.paysETH input) (assetOf call.givesETH output)
        sender dst x y fees c c₁ ∧
      HandedOver k (call.handsOver sender dst x y) c₁ c' by
    obtain ⟨input, output, x, y, c₁, fees, hinput, houtput, hx, hy, hbounded, hconserves, hlast⟩ :=
      hall
    exact ⟨input, output, x, y, c₁, fees, hinput, houtput, hx, hy, hbounded, hconserves,
      hconserves.of_router hparties, hlast⟩
  cases call with
  | exactTokensForTokens amountIn amountOutMin =>
    obtain ⟨_, -, hswap⟩ := bind_eq_ok.mp h
    obtain ⟨input, output, y, hinput, houtput, hx, hy, hmin, hexchanged⟩ :=
      swapExactTokens_exchanges hparties.listed hswap
    obtain ⟨fees, hconserves⟩ := hexchanged.conserves
    exact ⟨input, output, amountIn, y, c', fees, hinput, houtput, hx, hy, ⟨rfl, hmin⟩, hconserves,
      rfl⟩
  | tokensForExactTokens amountOut amountInMax =>
    obtain ⟨_, -, hswap⟩ := bind_eq_ok.mp h
    obtain ⟨input, output, x, hinput, houtput, hx, hy, hmax, hexchanged⟩ :=
      swapForExactTokens_exchanges hparties.listed hswap
    obtain ⟨fees, hconserves⟩ := hexchanged.conserves
    exact ⟨input, output, x, amountOut, c', fees, hinput, houtput, hx, hy, ⟨rfl, hmax⟩, hconserves,
      rfl⟩
  | exactTokensForETH amountIn amountOutMin =>
    simp only [Swap.run, swapExactTokensForETH, bind_eq_ok, last_eq_ok, require_eq_ok, pure_eq_ok,
      Prod.mk.injEq] at h
    obtain ⟨_, -, _, hend, _, rfl, ⟨c₁, _⟩, hswap, y, hlast, c₂, hwithdraw, c₃, hsend, rfl, rfl⟩ := h
    obtain ⟨input, output, y', hinput, houtput, hx, hy, hmin, hexchanged⟩ :=
      swapExactTokens_exchanges hparties.listed hswap
    obtain rfl := Option.some.inj (hlast.symm.trans hy)
    obtain rfl := Option.some.inj (houtput.symm.trans hend)
    obtain ⟨c₄, fees, hconserves, hreceive⟩ := hexchanged.unwrapped hparties.router_weth
      (hparties.dst_weth rfl) hparties.dst_router hwithdraw hsend
    exact ⟨input, k.WETH, amountIn, y, c₄, fees, hinput, houtput, hx, hy, ⟨rfl, hmin⟩, hconserves,
      hreceive⟩
  | tokensForExactETH amountOut amountInMax =>
    simp only [Swap.run, swapTokensForExactETH, bind_eq_ok, last_eq_ok, require_eq_ok, pure_eq_ok,
      Prod.mk.injEq] at h
    obtain ⟨_, -, _, hend, _, rfl, ⟨c₁, _⟩, hswap, y, hlast, c₂, hwithdraw, c₃, hsend, rfl, rfl⟩ := h
    obtain ⟨input, output, x, hinput, houtput, hx, hy, hmax, hexchanged⟩ :=
      swapForExactTokens_exchanges hparties.listed hswap
    obtain rfl := Option.some.inj (hlast.symm.trans hy)
    obtain rfl := Option.some.inj (houtput.symm.trans hend)
    obtain ⟨c₄, fees, hconserves, hreceive⟩ := hexchanged.unwrapped hparties.router_weth
      (hparties.dst_weth rfl) hparties.dst_router hwithdraw hsend
    exact ⟨input, k.WETH, x, y, c₄, fees, hinput, houtput, hx, hy, ⟨rfl, hmax⟩, hconserves, hreceive⟩
  | exactETHForTokens value amountOutMin =>
    simp only [Swap.run, swapExactETHForTokens, bind_eq_ok, first_eq_ok, last_eq_ok, require_eq_ok,
      pure_eq_ok, Prod.mk.injEq] at h
    obtain ⟨c₀, hpay, _, -, input, hinput, _, -, _, hquote, y, hlast, _, hmin, c₁, hwrap, c₂, hswap,
      rfl, rfl⟩ := h
    obtain ⟨htwo, hlength, hhead⟩ := getAmountsOut_shape hquote
    obtain ⟨output, x, y', houtput, hx, hy, hwrapped⟩ :=
      wrapped_of_swap hparties.listed hpay hlength htwo hwrap hswap
    obtain rfl := Option.some.inj (hhead.symm.trans hx)
    obtain rfl := Option.some.inj (hlast.symm.trans hy)
    obtain ⟨fees, hconserves⟩ := hwrapped.conserves
    exact ⟨input, output, value, y, c₂, fees, hinput, houtput, hx, hy, ⟨rfl, hmin⟩, hconserves, rfl⟩
  | ethForExactTokens value amountOut =>
    simp only [Swap.run, swapETHForExactTokens, bind_eq_ok, first_eq_ok, require_eq_ok, pure_eq_ok,
      Prod.mk.injEq] at h
    obtain ⟨c₀, hpay, _, -, input, hinput, _, -, _, hquote, x, hfirst, _, hmax, c₁, hwrap, c₂, hswap,
      c₃, hrefund, rfl, rfl⟩ := h
    obtain ⟨htwo, hlength, hlast⟩ := getAmountsIn_shape hquote
    obtain ⟨output, x', y, houtput, hx, hy, hwrapped⟩ :=
      wrapped_of_swap hparties.listed hpay hlength htwo hwrap hswap
    obtain rfl := Option.some.inj (hfirst.symm.trans hx)
    obtain rfl := Option.some.inj (hlast.symm.trans hy)
    obtain ⟨c₄, fees, hconserves, hover⟩ := hwrapped.refunded hmax hparties.sender_weth
      hparties.sender_router hrefund
    exact ⟨input, output, x, amountOut, c₄, fees, hinput, houtput, hx, hy, ⟨rfl, hmax⟩, hconserves,
      hover⟩

namespace Trade

def weth : Address := 12
def tokenA : Address := 30
def pairAW : Address := 20
def alice : Address := 4
def carol : Address := 5

/-- Everybody accepts ETH. -/
def site : Site where
  router := 11
  WETH := weth
  receivers _ _ _ c := pure c

def storageAW : Pair where
  token0 := weth
  token1 := tokenA
  reserve0 := 4000000
  reserve1 := 1000000
  blockTimestampLast := 90
  price0CumulativeLast := 0
  price1CumulativeLast := 0
  unlocked := 1
  totalSupply := 2000000
  nonces := fun _ => 0

/-- One pair; Alice has 10000 of `tokenA`, which the router may spend, and 60000 wei. -/
def market (treasury : Address) : Chain where
  tokens := {
    balanceOf := fun t a =>
      if t = tokenA ∧ a = alice then 10000
      else if t = tokenA ∧ a = pairAW then 1000000
      else if t = weth ∧ a = pairAW then 4000000
      else 0
    allowance := fun t o sp => if t = tokenA ∧ o = alice ∧ sp = site.router then 10000 else 0
    refuses := fun _ a => a = Address.zero }
  eth := fun a => if a = weth then 4000000 else if a = alice then 60000 else 0
  timestamp := 100
  treasury := treasury
  getPair := fun a b =>
    if (a = tokenA ∧ b = weth) ∨ (a = weth ∧ b = tokenA) then pairAW else Address.zero
  pairs := fun a => if a = pairAW then some storageAW else none
  logs := []

theorem market_listed (treasury : Address) : Listed (market treasury) := by
  intro a b hexists
  have htokens : (a = tokenA ∧ b = weth) ∨ (a = weth ∧ b = tokenA) := by
    by_contra hother
    exact hexists (if_neg hother)
  rcases htokens with ⟨rfl, rfl⟩ | ⟨rfl, rfl⟩
  · exact ⟨storageAW, by simp [market], by decide⟩
  · exact ⟨storageAW, by simp [market], by decide⟩

/-- Alice buys 10000 of `tokenA` for Carol and sends 50000 wei along. -/
def buy : Exec (Chain × List Nat) :=
  (Swap.ethForExactTokens 50000 10000).run site alice [weth, tokenA] carol 1000 (market 3)

/-- Alice sells her 10000 of `tokenA` for ETH. -/
def sell (treasury dst : Address) : Exec (Chain × List Nat) :=
  (Swap.exactTokensForETH 10000 39000).run site alice [tokenA, weth] dst 1000 (market treasury)

theorem buy_parties :
    Parties site (.ethForExactTokens 50000 10000) alice carol [weth, tokenA] (market 3) where
  listed := market_listed 3
  router_weth := by decide
  router_pairs := by decide
  router_treasury := by decide
  sender_router := by decide
  sender_weth := by decide
  dst_router := by decide
  dst_weth := nofun

end Trade

open Trade in
theorem swap_conserves_buy : ∃ c', buy = .ok (c', [40526, 10000]) ∧
    c'.tokens.balanceOf tokenA carol = (market 3).tokens.balanceOf tokenA carol + 10000 ∧
    c'.eth alice + 40526 = (market 3).eth alice ∧
    ∀ asset, c'.holding site.router asset = (market 3).holding site.router asset := by
  have hamounts : buy.toOption.map Prod.snd = some [40526, 10000] := by decide +kernel
  cases hrun : buy with
  | error r =>
    rw [hrun] at hamounts
    cases hamounts
  | ok r =>
    obtain ⟨c', amounts⟩ := r
    obtain rfl : amounts = [40526, 10000] := by
      rw [hrun] at hamounts
      simpa [Except.toOption] using hamounts
    obtain ⟨input, output, x, y, c₁, fees, hinput, houtput, hx, hy, -, hconserves, hrouter, hover⟩ :=
      swap_conserves buy_parties hrun
    obtain rfl : weth = input := by simpa using hinput
    obtain rfl : tokenA = output := by simpa using houtput
    obtain rfl : 40526 = x := by simpa using hx
    obtain rfl : 10000 = y := by simpa using hy
    have hsame : c' = c₁ := (pure_eq_ok.mp hover).symm
    subst hsame
    refine ⟨c', rfl, ?_, ?_, hrouter⟩
    · exact hconserves (.token tokenA) carol (by decide) (by simp)
    · exact hconserves .eth alice (by decide) fun _ => by decide

open Trade in
/-- A receiver of ETH that is WETH itself gives it back to the router as WETH; and a caller
    that is the treasury gets part of its payment back as a fee. -/
theorem not_conserved_of_weth_or_treasury :
    (∃ c', sell 3 weth = .ok (c', [10000, 39486]) ∧ weth ≠ site.router ∧
      weth ∉ hopPairs (market 3) [tokenA, weth] ∧
      c'.tokens.balanceOf weth site.router ≠ (market 3).tokens.balanceOf weth site.router) ∧
    ∃ c', sell alice carol = .ok (c', [10000, 39486]) ∧
      c'.tokens.balanceOf tokenA alice + 10000 ≠ (market alice).tokens.balanceOf tokenA alice := by
  have hrun : ∀ treasury dst left kept,
      (sell treasury dst).toOption.map (fun r => (r.2, r.1.tokens.balanceOf tokenA alice,
        r.1.tokens.balanceOf weth site.router)) = some ([10000, 39486], left, kept) →
      ∃ c', sell treasury dst = .ok (c', [10000, 39486]) ∧ c'.tokens.balanceOf tokenA alice = left ∧
        c'.tokens.balanceOf weth site.router = kept := by
    intro treasury dst left kept hsummary
    cases hsell : sell treasury dst with
    | error r =>
      rw [hsell] at hsummary
      cases hsummary
    | ok r =>
      rw [hsell] at hsummary
      obtain ⟨c', amounts⟩ := r
      simp only [Except.toOption, Option.map_some, Option.some.injEq, Prod.mk.injEq] at hsummary
      obtain ⟨rfl, hleft, hkept⟩ := hsummary
      exact ⟨c', rfl, hleft, hkept⟩
  constructor
  · obtain ⟨c', hsell, -, hkept⟩ := hrun 3 weth 0 39486 (by decide +kernel)
    refine ⟨c', hsell, by decide, by decide, ?_⟩
    rw [hkept]
    decide
  · obtain ⟨c', hsell, hleft, -⟩ := hrun alice carol 5 0 (by decide +kernel)
    refine ⟨c', hsell, ?_⟩
    rw [hleft]
    decide

end FluxSwapRouter
