-- SUMMARY: Adding liquidity uses amounts within the caller's bounds, charges exactly these, and leaves nothing with the router.
import FluxSwap.Amm.Liquidity
import FluxSwap.Amm.ShareValue

/-!
# Bounds of a deposit through the router

The two optimal amounts are quotients rounded down in opposite directions. When the first
exceeds what the caller offers, the second stays within the other offer, so the assertion
never fails. The rest of a call moves exactly the chosen amounts.
-/

open Exec

namespace FluxSwapRouter

variable {c c' : Chain} {k : Site} {create2 : Address → Address → Address} {sender : Address}

/-! ## The amounts -/

theorem quote_eq_ok {amountA reserveA reserveB amountB : Nat}
    (h : quote amountA reserveA reserveB = .ok amountB) :
    0 < amountA ∧ 0 < reserveA ∧ 0 < reserveB ∧ amountA * reserveB / reserveA = amountB := by
  simp only [quote, bind_eq_ok, require_eq_ok, Uint256.mul_eq_ok, Uint256.div_eq_ok] at h
  obtain ⟨_, hamount, _, hreserves, _, ⟨-, rfl⟩, -, rfl⟩ := h
  exact ⟨hamount, hreserves.1, hreserves.2, rfl⟩

/-- Opposite quotes: what is too much on one side is enough on the other. -/
theorem quote_opposite {a b x y reserveA reserveB : Nat} (hb : quote a reserveA reserveB = .ok y)
    (ha : quote b reserveB reserveA = .ok x) (hlt : b < y) : x ≤ a := by
  obtain ⟨-, hreserveA, hreserveB, rfl⟩ := quote_eq_ok hb
  obtain ⟨-, -, -, rfl⟩ := quote_eq_ok ha
  have hover : b * reserveA ≤ a * reserveB :=
    (Nat.mul_le_mul_right reserveA hlt.le).trans (Nat.div_mul_le_self _ _)
  calc b * reserveA / reserveB ≤ a * reserveB / reserveB := Nat.div_le_div_right hover
    _ = a := Nat.mul_div_cancel a hreserveB

theorem chooseAmounts_bounded {a b : Offer} {assertion : String} {reserveA reserveB x y : Nat}
    (h : chooseAmounts a b assertion reserveA reserveB = .ok (x, y)) :
    (a.minimum ≤ x ∧ x ≤ a.desired) ∧ (b.minimum ≤ y ∧ y ≤ b.desired) := by
  unfold chooseAmounts at h
  split at h
  · simp only [bind_eq_ok, require_eq_ok, pure_eq_ok, Prod.mk.injEq] at h
    obtain ⟨_, ha, _, hb, rfl, rfl⟩ := h
    exact ⟨⟨ha, le_rfl⟩, hb, le_rfl⟩
  · obtain ⟨amountBOptimal, hquoteB, h⟩ := bind_eq_ok.mp h
    split at h
    · rename_i hle
      simp only [bind_eq_ok, require_eq_ok, pure_eq_ok, Prod.mk.injEq] at h
      obtain ⟨_, ha, _, hb, rfl, rfl⟩ := h
      exact ⟨⟨ha, le_rfl⟩, hb, hle⟩
    · simp only [bind_eq_ok, require_eq_ok, pure_eq_ok, Prod.mk.injEq] at h
      obtain ⟨_, -, _, hle, _, ha, _, hb, rfl, rfl⟩ := h
      exact ⟨⟨ha, hle⟩, hb, le_rfl⟩

/-- The texts of the other errors of the choice. -/
def otherErrors (insufficientA insufficientB : String) : List String :=
  ["FluxSwapRouter: INSUFFICIENT_AMOUNT", "FluxSwapRouter: INSUFFICIENT_LIQUIDITY",
    insufficientA, insufficientB]

/-- A failure with a given text. -/
def FailsWith (text : String) (r : Revert) : Prop := r = .message text

theorem require_avoids {text text' : String} (h : text ≠ text') (condition : Prop)
    [Decidable condition] : (require condition text').Avoids (FailsWith text) := by
  intro r hr hfails
  unfold require at hr
  split at hr
  · cases hr
  · cases hr
    exact h (Revert.message.inj hfails).symm

theorem quote_avoids {text : String} {amountA reserveA reserveB : Nat}
    (hamount : text ≠ "FluxSwapRouter: INSUFFICIENT_AMOUNT")
    (hliquidity : text ≠ "FluxSwapRouter: INSUFFICIENT_LIQUIDITY") :
    (quote amountA reserveA reserveB).Avoids (FailsWith text) := by
  unfold quote
  apply Avoids.bind (require_avoids hamount _)
  intro _ _
  apply Avoids.bind (require_avoids hliquidity _)
  intro _ hreserves
  have hpositive : 0 < reserveA ∧ 0 < reserveB := require_eq_ok.mp hreserves
  apply Avoids.bind (Uint256.mul_avoids fun h => nomatch h)
  intro product _
  exact .of_ok (Uint256.div_eq_ok.mpr ⟨hpositive.1.ne', rfl⟩)

/-- The assertion between the two quotes never fails. -/
theorem chooseAmounts_asserts {a b : Offer} {assertion : String}
    (hother : assertion ∉ otherErrors a.insufficient b.insufficient) (reserveA reserveB : Nat) :
    (chooseAmounts a b assertion reserveA reserveB).Avoids (FailsWith assertion) := by
  simp only [otherErrors, List.mem_cons, List.not_mem_nil, or_false, not_or] at hother
  obtain ⟨hamount, hliquidity, ha, hb⟩ := hother
  unfold chooseAmounts
  apply Avoids.ite
  · intro _
    exact .bind (require_avoids ha _) fun _ _ => .bind (require_avoids hb _) fun _ _ => .pure
  · intro _
    apply Avoids.bind (quote_avoids hamount hliquidity)
    intro amountBOptimal hquoteB
    apply Avoids.ite
    · intro _
      exact .bind (require_avoids ha _) fun _ _ => .bind (require_avoids hb _) fun _ _ => .pure
    · intro hexceeds
      apply Avoids.bind (quote_avoids hamount hliquidity)
      intro amountAOptimal hquoteA
      have hassert : amountAOptimal ≤ a.desired :=
        quote_opposite hquoteB hquoteA (Nat.lt_of_not_le hexceeds)
      apply Avoids.bind (.of_ok ((require_eq_ok (u := ())).mpr hassert))
      intro _ _
      exact .bind (require_avoids ha _) fun _ _ => .bind (require_avoids hb _) fun _ _ => .pure

/-! ## The steps of a call -/

/-- The pair of two tokens: the listed one, or the one that is created. -/
def pairFor (create2 : Address → Address → Address) (c : Chain) (tokenA tokenB : Address) :
    Address :=
  if c.getPair tokenA tokenB = Address.zero then
    create2 (ordered tokenA tokenB).1 (ordered tokenA tokenB).2
  else c.getPair tokenA tokenB

theorem ensurePair_spec {tokenA tokenB : Address}
    (h : ensurePair create2 tokenA tokenB c = .ok c') :
    c'.getPair tokenA tokenB = pairFor create2 c tokenA tokenB ∧ c'.tokens = c.tokens ∧
      c'.eth = c.eth := by
  unfold ensurePair at h
  unfold pairFor
  split at h
  · rename_i hmissing
    simp only [createPair, bind_eq_ok, require_eq_ok, pure_eq_ok] at h
    obtain ⟨_, -, _, -, _, -, _, -, rfl⟩ := h
    refine ⟨?_, rfl, rfl⟩
    rw [if_pos hmissing]
    apply if_pos
    unfold ordered
    split
    · exact .inl ⟨rfl, rfl⟩
    · exact .inr ⟨rfl, rfl⟩
  · obtain rfl := pure_eq_ok.mp h
    rename_i hlisted
    exact ⟨(if_neg hlisted).symm, rfl, rfl⟩

theorem issue_effect {pair dst : Address} {value : Nat}
    (h : FluxSwapERC20.mint c pair dst value = .ok c') :
    c'.eth = c.eth ∧ ∀ t a, t ≠ pair → c'.tokens.balanceOf t a = c.tokens.balanceOf t a := by
  obtain ⟨_, -, -, hframe, -, htokens⟩ := FluxSwapPair.lpMint_spec h
  refine ⟨hframe.env.eth, ?_⟩
  intro t a ht
  rw [htokens, Ledger.balanceOf_credit_of_token_ne _ _ _ _ ht]

/-- `mint` changes nothing but balances of the pair's LP. -/
theorem mint_effect {pair dst : Address} {liquidity : Nat}
    (h : FluxSwapPair.mint pair sender dst c = .ok (c', liquidity)) :
    c'.eth = c.eth ∧ ∀ t a, t ≠ pair → c'.tokens.balanceOf t a = c.tokens.balanceOf t a := by
  obtain ⟨p, c₁, p₁, hp, -, hbody, -, rfl⟩ := FluxSwapPair.lock_spec h
  simp only [bind_eq_ok, require_eq_ok, pure_eq_ok, Prod.mk.injEq] at hbody
  obtain ⟨q, -, _, -, _, -, ⟨c₂, L⟩, hliquidity, _, -, c₃, hmint, c₄, hupdate, rfl, -⟩ := hbody
  have hfirst : c₂.eth = c.eth ∧
      ∀ t a, t ≠ pair → c₂.tokens.balanceOf t a = c.tokens.balanceOf t a := by
    rcases FluxSwapPair.mintedLiquidity_cases hliquidity with ⟨-, hminimum, -⟩ | ⟨-, rfl, -⟩
    · obtain ⟨heth, htokens⟩ := issue_effect hminimum
      exact ⟨heth, htokens⟩
    · exact ⟨rfl, fun _ _ _ => rfl⟩
  obtain ⟨heth, htokens⟩ := issue_effect hmint
  obtain ⟨_, _, -, -, -, -, -, -, hframe, hsame⟩ := FluxSwapPair.update_spec hupdate
  refine ⟨hframe.env.eth.trans (heth.trans hfirst.1), ?_⟩
  intro t a ht
  show c₄.tokens.balanceOf t a = _
  rw [hsame, htokens t a ht, hfirst.2 t a ht]

theorem wrapInto_spec {router WETH pair : Address} {amount : Nat}
    (h : wrapInto router WETH pair amount c = .ok c') :
    (∀ t a, c'.tokens.balanceOf t a =
      c.tokens.balanceOf t a + if t = WETH ∧ a = pair then amount else 0) ∧
      ∀ a, c'.eth a + (if a = router then amount else 0) =
        c.eth a + if a = WETH then amount else 0 := by
  simp only [wrapInto, bind_eq_ok, require_eq_ok] at h
  obtain ⟨_, hfunds, htransfer⟩ := h
  split at htransfer
  · rename_i c₁ hpaid
    obtain rfl := pure_eq_ok.mp htransfer
    obtain ⟨⟨henough, -⟩, rfl⟩ := Chain.transfer_eq_some.mp hpaid
    refine ⟨?_, fun a => Chain.moveETH_add WETH hfunds a⟩
    intro t a
    have hcredit := c.tokens.balanceOf_credit WETH router amount t a
    have hadd := (c.tokens.credit WETH router amount).balanceOf_move_add WETH router pair amount
      henough t a
    show ((c.tokens.credit WETH router amount).move WETH router pair amount).balanceOf t a = _
    omega
  · cases htransfer

/-- The refund moves the excess; then the code of the caller runs, if there is an excess. -/
theorem refundExcess_spec {value used : Nat} (hle : used ≤ value) (hweth : sender ≠ k.WETH)
    (hrouter : sender ≠ k.router)
    (h : refundExcess k.receiveETH k.router sender value used c = .ok c') :
    ∃ c₁, c₁.tokens = c.tokens ∧
      (∀ a, c₁.eth a + (if a = k.router then value - used else 0) =
        c.eth a + if a = sender then value - used else 0) ∧
      HandedOver k (if used < value then some (sender, value - used) else none) c₁ c' := by
  unfold refundExcess at h
  split at h
  · rename_i hexcess
    obtain ⟨hheld, hreceive⟩ := sendETH_other hweth hrouter h
    refine ⟨c.moveETH k.router sender (value - used), rfl,
      fun a => Chain.moveETH_add sender hheld a, ?_⟩
    rw [if_pos hexcess]
    exact hreceive
  · rename_i hall
    obtain rfl := pure_eq_ok.mp h
    have hzero : value - used = 0 := by omega
    refine ⟨c, rfl, ?_, ?_⟩
    · intro a
      simp only [hzero, ite_self]
    · rw [if_neg hall]
      rfl

/-- What the router takes from the caller for the pair. -/
theorem safeTransferFrom_adds {router token pair : Address} {amount : Nat}
    (h : safeTransferFrom router token sender pair amount c = .ok c') :
    c'.eth = c.eth ∧ c'.getPair = c.getPair ∧ ∀ t a,
      c'.tokens.balanceOf t a + (if t = token ∧ a = sender then amount else 0) =
        c.tokens.balanceOf t a + if t = token ∧ a = pair then amount else 0 := by
  have hpaid := safeTransferFrom_eq_ok.mp h
  have hquiet := Chain.transferFrom_quiet hpaid
  have hmoved := Chain.transferFrom_spec hpaid
  refine ⟨hquiet.env.eth, hquiet.env.getPair, ?_⟩
  intro t a
  rw [hmoved.balances]
  exact c.tokens.balanceOf_move_add token sender pair amount hmoved.enough t a

/-! ## The calls -/

/-- A call that adds liquidity. -/
inductive Provision
  | tokens (params : AddLiquidityParams)
  | withETH (params : AddLiquidityETHParams)

namespace Provision

def run (k : Site) (create2 : Address → Address → Address) (sender : Address) (deadline : Nat)
    (c : Chain) : Provision → Exec (Chain × Nat × Nat × Nat)
  | .tokens params => addLiquidity create2 k.router sender params deadline c
  | .withETH params =>
    addLiquidityETH create2 k.receiveETH k.router k.WETH sender params deadline c

/-- The reserve checks of the call. -/
def amounts : Provision → Nat → Nat → Exec (Nat × Nat)
  | .tokens params => params.amounts
  | .withETH params => params.amounts

/-- The text of the assertion of the call. -/
def assertion : Provision → String
  | .tokens _ => "assert(amountAOptimal <= amountADesired)"
  | .withETH _ => "assert(amountTokenOptimal <= amountTokenDesired)"

def tokenA : Provision → Address
  | .tokens params => params.tokenA
  | .withETH params => params.token

def tokenB (k : Site) : Provision → Address
  | .tokens params => params.tokenB
  | .withETH _ => k.WETH

/-- What the caller pays for the second token. -/
def paidB : Provision → Asset
  | .tokens params => .token params.tokenB
  | .withETH _ => .eth

/-- Each amount lies between its minimum and its desired value. -/
def Bounded (x y : Nat) : Provision → Prop
  | .tokens params => (params.amountAMin ≤ x ∧ x ≤ params.amountADesired) ∧
      params.amountBMin ≤ y ∧ y ≤ params.amountBDesired
  | .withETH params => (params.amountTokenMin ≤ x ∧ x ≤ params.amountTokenDesired) ∧
      params.amountETHMin ≤ y ∧ y ≤ params.value

/-- The ETH that the caller sent and the call does not use. -/
def refund (sender : Address) (y : Nat) : Provision → Option (Address × Nat)
  | .tokens _ => none
  | .withETH params => if y < params.value then some (sender, params.value - y) else none

theorem amounts_bounded (call : Provision) {reserveA reserveB x y : Nat}
    (h : call.amounts reserveA reserveB = .ok (x, y)) : call.Bounded x y := by
  cases call with
  | tokens params => exact chooseAmounts_bounded h
  | withETH params => exact chooseAmounts_bounded h

theorem amounts_asserts (call : Provision) (reserveA reserveB : Nat) :
    (call.amounts reserveA reserveB).Avoids (FailsWith call.assertion) := by
  cases call with
  | tokens params =>
    have hother : "assert(amountAOptimal <= amountADesired)" ∉
        otherErrors "FluxSwapRouter: INSUFFICIENT_A_AMOUNT"
          "FluxSwapRouter: INSUFFICIENT_B_AMOUNT" := by
      decide +kernel
    exact chooseAmounts_asserts hother reserveA reserveB
  | withETH params =>
    have hother : "assert(amountTokenOptimal <= amountTokenDesired)" ∉
        otherErrors "FluxSwapRouter: INSUFFICIENT_TOKEN_AMOUNT"
          "FluxSwapRouter: INSUFFICIENT_ETH_AMOUNT" := by
      decide +kernel
    exact chooseAmounts_asserts hother reserveA reserveB

end Provision

/-- Of every asset but the LP of the pair, the caller paid the amounts and the pair got them;
    nobody else, apart from WETH with the ETH behind it, gained or lost anything. -/
def Charged (k : Site) (call : Provision) (pair sender : Address) (x y : Nat) (c c' : Chain) :
    Prop :=
  ∀ asset a, asset ≠ .token pair → (asset = .eth → a ≠ k.WETH) →
    c'.holding a asset + (if asset = .token call.tokenA ∧ a = sender then x else 0) +
        (if asset = call.paidB ∧ a = sender then y else 0) =
      c.holding a asset + (if asset = .token call.tokenA ∧ a = pair then x else 0) +
        if asset = .token (call.tokenB k) ∧ a = pair then y else 0

/-- The caller is neither the router nor WETH, and the router is neither WETH nor the pair. -/
structure Provider (k : Site) (sender pair : Address) : Prop where
  router_weth : k.router ≠ k.WETH
  router_pair : k.router ≠ pair
  sender_router : sender ≠ k.router
  sender_weth : sender ≠ k.WETH

theorem Charged.of_router {call : Provision} {pair : Address} {x y : Nat}
    (h : Charged k call pair sender x y c c') (hparties : Provider k sender pair)
    (asset : Asset) (hasset : asset ≠ .token pair) :
    c'.holding k.router asset = c.holding k.router asset := by
  have hrouter := h asset k.router hasset fun _ => hparties.router_weth
  simpa [hparties.sender_router.symm, hparties.router_pair] using hrouter

theorem addLiquidity_charges {params : AddLiquidityParams} {deadline x y liquidity : Nat}
    (h : addLiquidity create2 k.router sender params deadline c = .ok (c', x, y, liquidity)) :
    (Provision.tokens params).Bounded x y ∧
      Charged k (.tokens params) (pairFor create2 c params.tokenA params.tokenB) sender x y c c' := by
  simp only [addLiquidity, AddLiquidityParams.run, bind_eq_ok, pure_eq_ok, Prod.mk.injEq] at h
  obtain ⟨_, -, c₀, hensure, ⟨reserveA, reserveB⟩, -, ⟨x', y'⟩, hamounts, c₁, hpayA, c₂, hpayB,
    ⟨c₃, _⟩, hmint, rfl, rfl, rfl, rfl⟩ := h
  dsimp only at hpayA hpayB
  obtain ⟨hpair, htokens, heth⟩ := ensurePair_spec hensure
  rw [hpair] at hpayA hpayB hmint
  obtain ⟨hethA, -, haddA⟩ := safeTransferFrom_adds hpayA
  obtain ⟨hethB, -, haddB⟩ := safeTransferFrom_adds hpayB
  obtain ⟨hethMint, hmint⟩ := mint_effect hmint
  refine ⟨(Provision.tokens params).amounts_bounded hamounts, ?_⟩
  intro asset a hasset _
  cases asset with
  | eth => simp [Chain.holding, Provision.paidB, hethMint, hethB, hethA, heth]
  | token t =>
    have hlp : t ≠ pairFor create2 c params.tokenA params.tokenB := fun h => hasset (h ▸ rfl)
    have hA := haddA t a
    have hB := haddB t a
    rw [htokens] at hA
    simp only [Chain.holding, Provision.paidB, Provision.tokenA, Provision.tokenB,
      Asset.token.injEq, hmint t a hlp]
    omega

theorem addLiquidityETH_charges {params : AddLiquidityETHParams} {deadline x y liquidity : Nat}
    (hparties : Provider k sender (pairFor create2 c params.token k.WETH))
    (h : addLiquidityETH create2 k.receiveETH k.router k.WETH sender params deadline c =
      .ok (c', x, y, liquidity)) :
    (Provision.withETH params).Bounded x y ∧ ∃ c₁,
      Charged k (.withETH params) (pairFor create2 c params.token k.WETH) sender x y c c₁ ∧
        HandedOver k ((Provision.withETH params).refund sender y) c₁ c' := by
  simp only [addLiquidityETH, AddLiquidityETHParams.run, payValue, bind_eq_ok, require_eq_ok,
    pure_eq_ok, Prod.mk.injEq] at h
  obtain ⟨_, ⟨_, hfunds, rfl⟩, _, -, c₀, hensure, ⟨reserveToken, reserveETH⟩, -, ⟨x', y'⟩, hamounts,
    c₁, hpay, c₂, hwrap, ⟨c₃, _⟩, hmint, c₄, hrefund, rfl, rfl, rfl, rfl⟩ := h
  dsimp only at hpay hwrap hmint hrefund
  obtain ⟨hpair, htokens, heth⟩ := ensurePair_spec hensure
  have hsame : pairFor create2 (c.moveETH sender k.router params.value) params.token k.WETH =
      pairFor create2 c params.token k.WETH := rfl
  rw [hpair, hsame] at hpay hwrap hmint
  -- the token is pulled, the ETH is wrapped for the pair, LP is minted
  obtain ⟨hethPay, -, haddToken⟩ := safeTransferFrom_adds hpay
  obtain ⟨haddWeth, hethWrap⟩ := wrapInto_spec hwrap
  obtain ⟨hethMint, hmint⟩ := mint_effect hmint
  have hbounded := (Provision.withETH params).amounts_bounded hamounts
  obtain ⟨c₅, htokens₅, heth₅, hover⟩ :=
    refundExcess_spec hbounded.2.2 hparties.sender_weth hparties.sender_router hrefund
  refine ⟨hbounded, c₅, ?_, hover⟩
  intro asset a hasset hnotWeth
  cases asset with
  -- the value came in with the call, the router wraps a part and refunds the rest
  | eth =>
    have hin := Chain.moveETH_add k.router hfunds a
    have hwrapped := hethWrap a
    have hback := heth₅ a
    rw [hethPay, heth, if_neg (hnotWeth rfl)] at hwrapped
    rw [hethMint] at hback
    have hle : _ ≤ params.value := hbounded.2.2
    simp only [Chain.holding, Provision.paidB, reduceCtorEq, false_and, if_false, true_and,
      Nat.add_zero]
    by_cases hsender : a = sender
    · subst hsender
      simp only [if_true, if_neg hparties.sender_router, Nat.add_zero] at hin hwrapped hback ⊢
      omega
    · simp only [if_neg hsender, Nat.add_zero] at hin hback ⊢
      split at hwrapped
      · simp only [‹a = k.router›, if_true] at hin hwrapped hback ⊢
        omega
      · simp only [if_neg ‹¬a = k.router›, Nat.add_zero] at hin hwrapped hback ⊢
        omega
  | token t =>
    have hlp : t ≠ pairFor create2 c params.token k.WETH := fun h => hasset (h ▸ rfl)
    have hToken := haddToken t a
    have hWeth := haddWeth t a
    have hstart : c₀.tokens.balanceOf t a = c.tokens.balanceOf t a := by
      rw [htokens]
      rfl
    simp only [Chain.holding, Provision.paidB, Provision.tokenA, Provision.tokenB,
      Asset.token.injEq, reduceCtorEq, false_and, if_false, Nat.add_zero, htokens₅,
      hmint t a hlp]
    omega

/-- Every call of `addLiquidity` and `addLiquidityETH`, in every state of the pair: the
    assertion of the reserve checks never fails; the amounts that pass them lie between minimum
    and desired value; and a call that succeeds charges exactly these amounts, refunds the rest
    of the ETH, and leaves the router with what it had. Of the code of other accounts only that
    of the refunded caller runs, and it runs last. -/
theorem liquidity_provided {call : Provision} {pair : Address}
    (hpair : pair = pairFor create2 c call.tokenA (call.tokenB k))
    (hparties : Provider k sender pair) :
    (∀ reserveA reserveB, (call.amounts reserveA reserveB).Avoids (FailsWith call.assertion)) ∧
    (∀ reserveA reserveB x y, call.amounts reserveA reserveB = .ok (x, y) → call.Bounded x y) ∧
    ∀ deadline c' x y liquidity, call.run k create2 sender deadline c = .ok (c', x, y, liquidity) →
      call.Bounded x y ∧ ∃ c₁, Charged k call pair sender x y c c₁ ∧
        (∀ asset, asset ≠ .token pair → c₁.holding k.router asset = c.holding k.router asset) ∧
        HandedOver k (call.refund sender y) c₁ c' := by
  subst hpair
  refine ⟨call.amounts_asserts, fun _ _ _ _ => call.amounts_bounded, ?_⟩
  intro deadline c' x y liquidity hrun
  cases call with
  | tokens params =>
    obtain ⟨hbounded, hcharged⟩ := addLiquidity_charges hrun
    exact ⟨hbounded, c', hcharged, hcharged.of_router hparties, rfl⟩
  | withETH params =>
    obtain ⟨hbounded, c₁, hcharged, hover⟩ := addLiquidityETH_charges hparties hrun
    exact ⟨hbounded, c₁, hcharged, hcharged.of_router hparties, hover⟩

open Trade in
/-- Alice offers 1000 of `tokenA` and 10000 wei; 4000 wei are used. -/
theorem liquidity_provided_refunds :
    let call : Provision := .withETH ⟨tokenA, 1000, 900, 3000, carol, 10000⟩
    ∃ c', call.run site (fun _ _ => 0) alice 1000 (market 3) = .ok (c', 1000, 4000, 2000) ∧
      call.Bounded 1000 4000 ∧
      c'.eth alice + 4000 = (market 3).eth alice ∧
      c'.tokens.balanceOf tokenA alice + 1000 = (market 3).tokens.balanceOf tokenA alice ∧
      c'.eth site.router = (market 3).eth site.router := by
  intro call
  have hamounts : (call.run site (fun _ _ => 0) alice 1000 (market 3)).toOption.map Prod.snd =
      some (1000, 4000, 2000) := by
    decide +kernel
  cases hrun : call.run site (fun _ _ => 0) alice 1000 (market 3) with
  | error r =>
    rw [hrun] at hamounts
    cases hamounts
  | ok r =>
    obtain ⟨c', x, y, liquidity⟩ := r
    rw [hrun] at hamounts
    simp only [Except.toOption, Option.map_some, Option.some.injEq, Prod.mk.injEq] at hamounts
    obtain ⟨rfl, rfl, rfl⟩ := hamounts
    have hpair : pairAW = pairFor (fun _ _ => 0) (market 3) call.tokenA (call.tokenB site) := by
      decide
    have hparties : Provider site alice pairAW := ⟨by decide, by decide, by decide, by decide⟩
    obtain ⟨-, -, hcall⟩ := liquidity_provided hpair hparties
    obtain ⟨hbounded, c₁, hcharged, hrouter, hover⟩ := hcall 1000 c' 1000 4000 2000 hrun
    -- everybody accepts ETH, so the state handed over is the last one
    obtain rfl : c' = c₁ := (pure_eq_ok.mp hover).symm
    refine ⟨c', rfl, hbounded, ?_, ?_, hrouter .eth (by simp)⟩
    · exact hcharged .eth alice (by simp) fun _ => by decide
    · exact hcharged (.token tokenA) alice (by decide) (by simp)

end FluxSwapRouter
