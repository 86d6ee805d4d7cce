-- SUMMARY: canExecuteOrder predicts executeOrder, exactly as long as the pair's clock can move on.
import FluxSwap.Settlement.Payout

/-!
# Readiness

`canExecuteOrder` repeats the checks of `executeOrder` in its own order and leaves the
pair's checks out. Here both are turned into the same condition, `Executable`; what the
view does not see of a pair at rest is only its clock.
-/

open Exec

namespace FluxSignedOrderSettlement

/-! ## The view -/

section View

variable {ω : Type} {d : Deployment ω} {s : State ω} {order : SignedOrder}

/-- The conditions that the view checks. -/
structure Executable (d : Deployment ω) (s : State ω) (order : SignedOrder) : Prop where
  unpaused : s.storage.paused = false
  executor : ¬ (s.storage.onlyRestrictedExecutor = true ∧
    s.storage.restrictedExecutor = Address.zero)
  valid : ValidOrder d s order
  unexecuted : s.storage.orderExecuted (hashOrder d order) = false
  free : s.storage.invalidatedNonce order.maker order.nonce = false
  balance : ∃ b, d.balanceOf s order.inputToken order.maker = .ok b ∧ order.amountIn ≤ b
  allowance : ∃ b, d.allowance s order.inputToken order.maker d.self = .ok b ∧ order.amountIn ≤ b
  quote : ∃ q, getAmountOut d s order.inputToken order.outputToken order.amountIn = .ok q ∧
    order.minAmountOut ≤ q ∧
    meetsTrigger d s order.inputToken order.outputToken order.amountIn q order.triggerPriceX18 =
      .ok true

theorem ite_reject {q : Prop} [Decidable q] {text reason : String} {rest : Exec (Bool × String)} :
    (if q then pure (false, text) else rest) = .ok (true, reason) ↔
      ¬ q ∧ rest = .ok (true, reason) := by
  by_cases h : q <;> simp [h]

/-- The quote that the settlement asks itself for is the router's, once the tokens differ
    and have a pair. -/
theorem quoteFor_eq (hvalid : ValidOrder d s order) :
    quoteFor d s order.inputToken order.outputToken order.amountIn =
      getAmountOut d s order.inputToken order.outputToken order.amountIn := by
  have hcheck : validateQuoteOrder d s order.inputToken order.outputToken order.amountIn = .ok () := by
    simp only [validateQuoteOrder, bind_eq_ok, require_eq_ok]
    exact ⟨(), hvalid.input, (), hvalid.distinct, (), hvalid.amountIn, true, hvalid.pair, rfl⟩
  rw [quoteFor, hcheck, ok_bind]

theorem canExecuteAtQuote_eq_true {reason : String} (hvalid : ValidOrder d s order) :
    canExecuteAtQuote d s order = .ok (true, reason) ↔ reason = "OK" ∧
      ∃ q, getAmountOut d s order.inputToken order.outputToken order.amountIn = .ok q ∧
        order.minAmountOut ≤ q ∧
        meetsTrigger d s order.inputToken order.outputToken order.amountIn q
          order.triggerPriceX18 = .ok true := by
  unfold canExecuteAtQuote tryGetAmountOut
  rw [quoteFor_eq hvalid]
  cases hquote : getAmountOut d s order.inputToken order.outputToken order.amountIn with
  | error r => simp
  | ok q =>
    simp only [ite_reject, bind_eq_ok, pure_eq_ok, Except.ok.injEq]
    constructor
    · rintro ⟨henough, reached, hreached, hresult⟩
      cases reached with
      | false => simp at hresult
      | true =>
        simp only [if_true, Prod.mk.injEq, true_and] at hresult
        exact ⟨hresult.symm, q, rfl, by omega, hreached⟩
    · rintro ⟨rfl, _, rfl, henough, hreached⟩
      exact ⟨by omega, true, hreached, rfl⟩

theorem canExecuteFunded_eq_true {reason : String} (hvalid : ValidOrder d s order) :
    canExecuteFunded d s order = .ok (true, reason) ↔
      (∃ b, d.balanceOf s order.inputToken order.maker = .ok b ∧ order.amountIn ≤ b) ∧
      (∃ b, d.allowance s order.inputToken order.maker d.self = .ok b ∧ order.amountIn ≤ b) ∧
      canExecuteAtQuote d s order = .ok (true, reason) := by
  unfold canExecuteFunded
  rw [hvalid.pair, ok_bind]
  simp only [Bool.not_true, ite_reject, bind_eq_ok]
  constructor
  · rintro ⟨-, b, hbalance, henough, b', hallowance, henough', hrest⟩
    exact ⟨⟨b, hbalance, by omega⟩, ⟨b', hallowance, by omega⟩, hrest⟩
  · rintro ⟨⟨b, hbalance, henough⟩, ⟨b', hallowance, henough'⟩, hrest⟩
    exact ⟨by simp, b, hbalance, by omega, b', hallowance, by omega, hrest⟩

theorem pairExists_of_canExecuteFunded {reason : String}
    (h : canExecuteFunded d s order = .ok (true, reason)) :
    pairExists d s order.inputToken order.outputToken = .ok true := by
  unfold canExecuteFunded at h
  obtain ⟨found, hfound, h⟩ := bind_eq_ok.mp h
  cases found with
  | true => exact hfound
  | false => simp at h

/-- The view says yes exactly when its conditions hold. -/
theorem canExecuteOrder_eq_true :
    (∃ reason, canExecuteOrder d s order = .ok (true, reason)) ↔ Executable d s order := by
  constructor
  · rintro ⟨reason, h⟩
    simp only [canExecuteOrder, ite_reject, Bool.not_eq_true] at h
    obtain ⟨hpaused, hset, hmaker, hinput, hdistinct, hamount, hmin, hbps, htrigger, hrecipient,
      hexpiry, hexecuted, hfree, hrest⟩ := h
    have hvalid : ValidOrder d s order :=
      ⟨hmaker, hinput, hdistinct, by omega, by omega, by omega, by omega, by omega, hrecipient,
        pairExists_of_canExecuteFunded hrest⟩
    obtain ⟨hbalance, hallowance, hquote⟩ := (canExecuteFunded_eq_true hvalid).mp hrest
    exact ⟨hpaused, hset, hvalid, hexecuted, hfree, hbalance, hallowance,
      ((canExecuteAtQuote_eq_true hvalid).mp hquote).2⟩
  · intro h
    refine ⟨"OK", ?_⟩
    have hv := h.valid
    have hrest := (canExecuteFunded_eq_true hv).mpr ⟨h.balance, h.allowance,
      (canExecuteAtQuote_eq_true hv).mpr ⟨rfl, h.quote⟩⟩
    have hamount := hv.amountIn
    have hmin := hv.minAmountOut
    have hbps := hv.rewardBps
    have htrigger := hv.trigger
    have hexpiry := hv.unexpired
    simp only [canExecuteOrder, ite_reject, Bool.not_eq_true]
    exact ⟨h.unpaused, h.executor, hv.maker, hv.input, hv.distinct, by omega, by omega, by omega,
      by omega, hv.recipient, by omega, h.unexecuted, h.free, hrest⟩

end View

/-! ## The call -/

variable {k : Site} {order : SignedOrder} {executor : Address} {s s' : State Chain} {c c' : Chain}

/-- The token that the pair of an order pays out. -/
abbrev Site.outputOf (k : Site) (order : SignedOrder) : Address :=
  normalizeOutputToken k.deployment order.outputToken

/-- The pair of an order. -/
abbrev Site.pairOf (k : Site) (order : SignedOrder) (c : Chain) : Address :=
  c.getPair order.inputToken (k.outputOf order)

/-- An account that takes ETH from the settlement and does not take the settlement's own. -/
def Accepts (k : Site) (a : Address) : Prop :=
  ∀ value c, ∃ c', k.receiveETH k.self a value c = .ok c' ∧ c.eth k.self ≤ c'.eth k.self

/-- The contracts around the settlement, between two transactions: its own addresses, the
    factory's pair at rest, standard tokens, and WETH that is backed. -/
structure Around (k : Site) (order : SignedOrder) (c : Chain) : Prop where
  contracts : [k.self, k.router, k.WETH].Nodup
  nonzero : k.self ≠ Address.zero ∧ k.router ≠ Address.zero
  self_token : k.self ≠ order.inputToken ∧ k.self ≠ k.outputOf order
  router_token : k.router ≠ order.inputToken ∧ k.router ≠ k.outputOf order
  self_pair : k.self ≠ k.pairOf order c
  router_pair : k.router ≠ k.pairOf order c
  pair : k.pairOf order c ≠ Address.zero →
    ∃ p, FluxSwapRouter.PairAtRest c order.inputToken (k.outputOf order) p
  standard : FluxSwapRouter.StandardTokens c [order.inputToken, k.outputOf order]
  backed : c.tokens.balanceOf k.WETH (k.pairOf order c) ≤ c.eth k.WETH

/-- The caller's side of the claim: a permitted executor, the maker's signature, a deadline
    and a reward within bounds, room in the pair, and receivers that accept ETH. The maker
    has a key, so it is not the pair. -/
structure Callable (k : Site) (order : SignedOrder) (executor : Address) (signature : Bytes)
    (deadline reward : Nat) (s : State Chain) : Prop where
  idle : s.storage.entered = false
  permitted : s.storage.onlyRestrictedExecutor = true → executor = s.storage.restrictedExecutor
  executor_nonzero : executor ≠ Address.zero
  signed : k.recover (typedDigest k.deployment (hashOrder k.deployment order)) signature =
    .ok order.maker
  maker_pair : order.maker ≠ k.pairOf order s.world
  deadline : s.world.timestamp ≤ deadline
  reward : ∀ q, getOrderQuote k.deployment s order = .ok q →
    reward ≤ (q - order.minAmountOut) * order.maxExecutorRewardBps / 10000
  room : s.world.tokens.balanceOf order.inputToken (k.pairOf order s.world) + order.amountIn ≤
    FluxSwapPair.maxUint112
  roomOut : s.world.tokens.balanceOf (k.outputOf order) (k.pairOf order s.world) ≤
    FluxSwapPair.maxUint112
  accepted : order.outputToken = Address.zero → Accepts k order.recipient ∧ Accepts k executor

/-- The pair's clock can move on. -/
def PairClockRuns (k : Site) (order : SignedOrder) (c : Chain) : Prop :=
  ∀ p, c.pairs (k.pairOf order c) = some p →
    FluxSwapPair.ClockRuns c.timestamp p.reserve0 p.reserve1 p

theorem approveIfNeeded_isOk {token : Address} {amount : Nat}
    (hnonzero : k.self ≠ Address.zero ∧ k.router ≠ Address.zero) (hamount : amount ≤ Uint256.max)
    (s : State Chain) :
    ∃ c', approveIfNeeded k.deployment token k.router amount s = .ok { s with world := c' } ∧
      amount ≤ c'.tokens.allowance token k.self k.router := by
  have hset : ∀ (s : State Chain) (value : Nat) (text : String), ∃ c',
      callOrRevert k.deployment (.approve token k.router value) text s =
        .ok { s with world := c' } ∧ c'.tokens.allowance token k.self k.router = value := by
    intro s value text
    obtain ⟨c', hc'⟩ := Chain.approve_isOk s.world token value hnonzero.1 hnonzero.2
    refine ⟨c', Site.callOrRevert_eq_ok.mpr ⟨c', hc', rfl⟩, ?_⟩
    rw [(Chain.approve_effect hc').2]
    simp [Ledger.approve]
  have hread : k.deployment.allowance s token k.deployment.self k.router =
    .ok (s.world.tokens.allowance token k.self k.router) := rfl
  unfold approveIfNeeded
  rw [hread, ok_bind]
  split
  · rename_i henough
    exact ⟨s.world, rfl, henough⟩
  · split
    · obtain ⟨c₁, hreset, -⟩ := hset s 0 "FluxSignedOrderSettlement: APPROVE_RESET_FAILED"
      obtain ⟨c₂, hmax, hallowance⟩ := hset { s with world := c₁ } Uint256.max
        "FluxSignedOrderSettlement: APPROVE_FAILED"
      rw [hreset, ok_bind]
      exact ⟨c₂, hmax, by rw [hallowance]; exact hamount⟩
    · obtain ⟨c₁, hmax, hallowance⟩ := hset s Uint256.max "FluxSignedOrderSettlement: APPROVE_FAILED"
      exact ⟨c₁, hmax, by rw [hallowance]; exact hamount⟩

/-- The input can be pulled when the maker holds and allows it; afterwards the settlement
    holds it and the router may take it. -/
theorem pullInput_isOk (haround : Around k order s.world) (hmaker : order.maker ≠ Address.zero)
    (hbalance : order.amountIn ≤ s.world.tokens.balanceOf order.inputToken order.maker)
    (hallowance : order.amountIn ≤ s.world.tokens.allowance order.inputToken order.maker k.self) :
    ∃ c', pullInput k.deployment order s = .ok { s with world := c' } ∧
      order.amountIn ≤ c'.tokens.allowance order.inputToken k.self k.router := by
  obtain ⟨c₁, hpull⟩ := Chain.transferFrom_isSome hbalance hallowance
    (FluxSwapRouter.admits_of_standard haround.standard (by simp) hmaker haround.nonzero.1)
  obtain ⟨c₂, happrove, hrouter⟩ := approveIfNeeded_isOk haround.nonzero
    (order.fits order.amountIn (by simp)) { s with world := c₁ }
  refine ⟨c₂, ?_, hrouter⟩
  simp only [pullInput, bind_eq_ok, require_eq_ok, Site.callOrRevert_eq_ok]
  exact ⟨_, rfl, (), hbalance, _, rfl, (), hallowance, _,
    ⟨c₁, Site.orFail_eq_ok.mpr hpull, rfl⟩, happrove⟩

/-- What the pull leaves for the swap. -/
theorem Around.afterPull {p : Pair} (haround : Around k order c)
    (hquiet : c.Quiet c') (hmakerPair : order.maker ≠ k.pairOf order c)
    (hmoved : ∀ t a, c'.tokens.balanceOf t a +
        (if t = order.inputToken ∧ a = order.maker then order.amountIn else 0) =
      c.tokens.balanceOf t a + if t = order.inputToken ∧ a = k.self then order.amountIn else 0)
    (hheld : order.amountIn ≤ c.tokens.balanceOf order.inputToken order.maker)
    (hrouter : order.amountIn ≤ c'.tokens.allowance order.inputToken k.self k.router)
    (hpair : FluxSwapRouter.PairAtRest c order.inputToken (k.outputOf order) p)
    (hroom : c.tokens.balanceOf order.inputToken (k.pairOf order c) + order.amountIn ≤
      FluxSwapPair.maxUint112)
    (hroomOut : c.tokens.balanceOf (k.outputOf order) (k.pairOf order c) ≤ FluxSwapPair.maxUint112) :
    Around k order c' ∧
      FluxSwapRouter.PairAtRest c' order.inputToken (k.outputOf order) p ∧
      ∀ dst, dst = k.self ∨ dst = k.router →
        FluxSwapRouter.HopFunded c' k.router k.self dst order.inputToken (k.outputOf order)
          order.amountIn := by
  have hgetPair : c'.getPair = c.getPair := hquiet.env.getPair
  -- the maker pays the settlement, so the pair holds what it held
  have hsame : ∀ t, c'.tokens.balanceOf t (k.pairOf order c) =
      c.tokens.balanceOf t (k.pairOf order c) := by
    intro t
    have hpairs := hmoved t (k.pairOf order c)
    rw [if_neg fun h => hmakerPair h.2.symm, if_neg fun h => haround.self_pair h.2.symm] at hpairs
    omega
  have hstandard : FluxSwapRouter.StandardTokens c' [order.inputToken, k.outputOf order] := by
    intro t ht a ha
    rw [hquiet.env.refuses]
    exact haround.standard t ht a ha
  have hrest : FluxSwapRouter.PairAtRest c' order.inputToken (k.outputOf order) p := by
    refine ⟨hpair.toPairOf.quiet hquiet, hpair.opened, ?_⟩
    rw [hgetPair, hsame, hsame]
    exact hpair.covered
  refine ⟨?_, hrest, ?_⟩
  · refine ⟨haround.contracts, haround.nonzero, haround.self_token, haround.router_token, ?_, ?_,
      fun _ => ⟨p, hrest⟩, hstandard, ?_⟩
    · rw [Site.pairOf, hgetPair]
      exact haround.self_pair
    · rw [Site.pairOf, hgetPair]
      exact haround.router_pair
    · rw [Site.pairOf, hgetPair, hsame, hquiet.env.eth]
      exact haround.backed
  · intro dst hdst
    -- a maker that is the settlement itself has only paid itself
    have hself : order.amountIn ≤ c'.tokens.balanceOf order.inputToken k.self := by
      have hown := hmoved order.inputToken k.self
      simp only [true_and, if_true] at hown
      split at hown
      · rename_i heq
        rw [← heq] at hheld
        omega
      · omega
    have hdst' : dst ≠ Address.zero ∧ dst ≠ order.inputToken ∧ dst ≠ k.outputOf order := by
      cases hdst with
      | inl heq => exact heq ▸ ⟨haround.nonzero.1, haround.self_token.1, haround.self_token.2⟩
      | inr heq => exact heq ▸ ⟨haround.nonzero.2, haround.router_token.1, haround.router_token.2⟩
    refine ⟨hself, hrouter, ?_, haround.nonzero.1, hdst'.1, hdst'.2.1, hdst'.2.2, ?_, ?_, hstandard⟩
    · rw [hgetPair]
      exact haround.self_pair
    · rw [hgetPair, hsame]
      exact hroom
    · rw [hgetPair, hsame]
      exact hroomOut

theorem receiveETH_router (hweth : k.router ≠ k.WETH) (value : Nat) (c : Chain) :
    k.receiveETH k.WETH k.router value c = .ok c := by
  simp [Site.receiveETH, hweth, FluxSwapRouter.receive, require]

theorem receiveETH_self (hweth : k.self ≠ k.WETH) (hrouter : k.self ≠ k.router) (value : Nat)
    (c : Chain) : k.receiveETH k.router k.self value c = .ok c := by
  simp [Site.receiveETH, hweth, hrouter, require]

/-- After the router's call the settlement holds the output. -/
theorem settle_holds {p : Pair} {amountOut required deadline : Nat} (haround : Around k order c)
    (hpair : FluxSwapRouter.PairOf c order.inputToken (k.outputOf order) p)
    (hquote : FluxSwapRouter.getAmountsOut c order.amountIn [order.inputToken, k.outputOf order] =
      .ok [order.amountIn, amountOut])
    (h : k.run c (settleCall k.deployment order required deadline) = .ok c') :
    amountOut ≤ holding c' order.outputToken k.self ∧
      (order.outputToken ≠ Address.zero → c'.tokens.refuses = c.tokens.refuses) := by
  have hcontracts := haround.contracts
  simp only [List.nodup_cons, List.mem_cons, List.not_mem_nil, or_false, not_or] at hcontracts
  unfold settleCall at h
  unfold holding
  split at h
  · rename_i hnative
    simp only [Site.run, FluxSwapRouter.swapExactTokensForETH, bind_eq_ok, last_eq_ok,
      pure_eq_ok] at h
    obtain ⟨⟨_, _⟩, ⟨_, -, _, -, _, -, ⟨c₁, amounts⟩, hswap, y, hlast, c₂, -, c₃, hsend, rfl, rfl⟩,
      rfl⟩ := h
    obtain ⟨y', rfl, hquote', -⟩ := FluxSwapRouter.swapExactTokens_effect hpair hswap
    obtain rfl : y' = y := by simpa using hlast
    obtain rfl : amountOut = y' := by simpa using Except.ok.inj (hquote.symm.trans hquote')
    obtain ⟨-, rfl⟩ := sendETH_receive hcontracts.1.2 (.inr rfl) hsend
    rw [if_pos hnative]
    exact ⟨by simp [Chain.moveETH], fun htoken => absurd hnative htoken⟩
  · rename_i htoken
    have hout : k.outputOf order = order.outputToken := if_neg htoken
    simp only [Site.run, FluxSwapRouter.swapExactTokensForTokens, bind_eq_ok, pure_eq_ok] at h
    obtain ⟨⟨c₁, amounts⟩, ⟨_, -, hswap⟩, rfl⟩ := h
    have hgain := FluxSwapRouter.swapExactTokens_gain hpair hquote haround.self_pair hswap
    obtain ⟨_, -, -, -, henv, -⟩ := FluxSwapRouter.swapExactTokens_effect hpair hswap
    rw [if_neg htoken, ← hout]
    exact ⟨(Nat.le_add_left _ _).trans hgain, fun _ => henv.refuses⟩

/-- The router's call succeeds exactly when the pair's clock can move on. -/
theorem settle_isOk_iff {p : Pair} {amountOut required deadline : Nat} (haround : Around k order c)
    (hpair : FluxSwapRouter.PairAtRest c order.inputToken (k.outputOf order) p)
    (hfunded : ∀ dst, dst = k.self ∨ dst = k.router →
      FluxSwapRouter.HopFunded c k.router k.self dst order.inputToken (k.outputOf order)
        order.amountIn)
    (hquote : FluxSwapRouter.getAmountsOut c order.amountIn [order.inputToken, k.outputOf order] =
      .ok [order.amountIn, amountOut])
    (hpositive : 0 < amountOut) (hrequired : required ≤ amountOut) (hdeadline : c.timestamp ≤ deadline) :
    (∃ c', k.run c (settleCall k.deployment order required deadline) = .ok c') ↔
      FluxSwapPair.ClockRuns c.timestamp p.reserve0 p.reserve1 p := by
  have hcontracts := haround.contracts
  simp only [List.nodup_cons, List.mem_cons, List.not_mem_nil, or_false, not_or] at hcontracts
  obtain ⟨⟨hselfRouter, hselfWeth⟩, hrouterWeth, -⟩ := hcontracts
  unfold settleCall
  by_cases hnative : order.outputToken = Address.zero
  · have hweth : k.outputOf order = k.WETH := if_pos hnative
    rw [if_pos hnative, ← FluxSwapRouter.swapExactTokens_isOk_iff hpair (hfunded k.router (.inr rfl)) hquote hpositive
      hrequired]
    simp only [Site.run, FluxSwapRouter.swapExactTokensForETH, bind_eq_ok, pure_eq_ok]
    constructor
    · rintro ⟨_, _, ⟨_, -, _, -, _, -, r, hswap, -⟩, -⟩
      exact ⟨r, hswap⟩
    · rintro ⟨⟨c₁, amounts⟩, hswap⟩
      obtain ⟨y, rfl, hquote', -, henv, -⟩ :=
        FluxSwapRouter.swapExactTokens_effect hpair.toPairOf hswap
      obtain rfl : amountOut = y := by simpa using Except.ok.inj (hquote.symm.trans hquote')
      have hgain := FluxSwapRouter.swapExactTokens_gain hpair.toPairOf hquote haround.router_pair hswap
      rw [hweth] at hgain
      -- WETH is backed by the ETH it holds, and the pair pays less than it holds
      have hbacked : amountOut ≤ c₁.eth k.WETH := by
        obtain ⟨_, _, _, hreserves, hout, hamounts⟩ := FluxSwapRouter.getAmountsOut_hop hquote
        obtain rfl : amountOut = _ := by simpa using hamounts
        have hquoted := (FluxSwapRouter.getAmountOut_quoted hout).out
        have ho := FluxSwapRouter.oriented_of_sorted hpair.storage hpair.sorted hreserves
        have hcovered := hpair.covered
        have hheld := haround.backed
        rw [Site.pairOf, hweth] at hheld
        rw [henv.eth]
        rcases ho.side with ⟨-, h1, -, hr⟩ | ⟨h0, -, hr, -⟩
        · rw [h1, hr, hweth] at hcovered
          omega
        · rw [h0, hr, hweth] at hcovered
          omega
      obtain ⟨c₂, hc₂⟩ : ∃ c₂, c₂ = Chain.moveETH
          { c₁ with tokens := c₁.tokens.debit k.WETH k.router amountOut } k.WETH k.router
            amountOut := ⟨_, rfl⟩
      have hwithdraw : Weth.withdraw k.receiveETH k.WETH k.router amountOut c₁ = .ok c₂ := by
        simp only [Weth.withdraw, bind_eq_ok, require_eq_ok]
        exact ⟨(), by omega, Chain.sendETH_eq_ok.mpr
          ⟨hbacked, by rw [← hc₂]; exact receiveETH_router hrouterWeth _ _⟩⟩
      have hrouterETH : amountOut ≤ c₂.eth k.router := by
        rw [hc₂]
        simp [Chain.moveETH]
      have hsend : c₂.sendETH k.receiveETH k.router k.self amountOut =
          .ok (c₂.moveETH k.router k.self amountOut) :=
        Chain.sendETH_eq_ok.mpr ⟨hrouterETH, receiveETH_self hselfWeth hselfRouter _ _⟩
      refine ⟨c₂.moveETH k.router k.self amountOut, _, ⟨(), require_eq_ok.mpr hdeadline, k.WETH,
        ?_, (), require_eq_ok.mpr rfl, _, hswap, amountOut, rfl, c₂, hwithdraw, _, hsend, rfl⟩, rfl⟩
      simp only [buildPath, last_eq_ok]
      exact congrArg some hweth
  · rw [if_neg hnative, ← FluxSwapRouter.swapExactTokens_isOk_iff hpair (hfunded k.self (.inl rfl)) hquote hpositive
      hrequired]
    simp only [Site.run, FluxSwapRouter.swapExactTokensForTokens, bind_eq_ok, pure_eq_ok]
    constructor
    · rintro ⟨_, r, ⟨_, -, hswap⟩, -⟩
      exact ⟨r, hswap⟩
    · rintro ⟨⟨c₁, amounts⟩, hswap⟩
      exact ⟨c₁, _, ⟨(), require_eq_ok.mpr hdeadline, hswap⟩, rfl⟩

theorem payReward_isOk (s : State Chain) (pay : Call) (text : String) (reward : Nat)
    (h : 0 < reward → ∃ c', k.run s.world pay = .ok c') :
    ∃ s', payReward k.deployment pay text reward s = .ok s' := by
  rcases Nat.eq_zero_or_pos reward with hzero | hpos
  · exact ⟨s, Site.payReward_eq_ok.mpr (.inr ⟨hzero, rfl⟩)⟩
  · obtain ⟨c', hc'⟩ := h hpos
    exact ⟨_, Site.payReward_eq_ok.mpr (.inl ⟨hpos, c', hc', rfl⟩)⟩

/-- The settlement can pay a token that it holds. -/
theorem run_transfer_isOk {token dst : Address} (value : Nat)
    (hheld : value ≤ c.tokens.balanceOf token k.self) (hadmits : c.admits token k.self dst = true) :
    k.run c (.transfer token dst value) = .ok (c.moved token k.self dst value) :=
  Site.orFail_eq_ok.mpr (Chain.transfer_eq_some.mpr ⟨⟨hheld, hadmits⟩, rfl⟩)

/-- The settlement can pay ETH that it holds to an account that accepts it. -/
theorem run_sendETH_isOk {dst : Address} (value : Nat) (hheld : value ≤ c.eth k.self)
    (haccepts : Accepts k dst) :
    ∃ c', k.run c (.sendETH dst value) = .ok c' ∧ c.eth k.self ≤ c'.eth k.self + value := by
  obtain ⟨c', hc', hkept⟩ := haccepts value (c.moveETH k.self dst value)
  refine ⟨c', Chain.sendETH_eq_ok.mpr ⟨hheld, hc'⟩, ?_⟩
  simp only [Chain.moveETH, if_true] at hkept
  omega

/-- The payout goes through when the settlement holds the output. -/
theorem distribute_isOk {amountOut reward : Nat} (hself : k.self ≠ Address.zero)
    (hrecipient : order.recipient ≠ Address.zero) (hexecutor : executor ≠ Address.zero)
    (hreward : reward ≤ amountOut)
    (hheld : amountOut ≤ holding s.world order.outputToken k.self)
    (hstandard : order.outputToken ≠ Address.zero →
      FluxSwapRouter.StandardTokens s.world [order.outputToken])
    (haccepts : order.outputToken = Address.zero → Accepts k order.recipient ∧ Accepts k executor) :
    ∃ s', distribute k.deployment order amountOut reward executor s = .ok s' := by
  unfold holding at hheld
  unfold distribute
  by_cases hnative : order.outputToken = Address.zero
  -- ETH: the first payment leaves enough for the second
  · obtain ⟨hacceptsRecipient, hacceptsExecutor⟩ := haccepts hnative
    rw [if_pos hnative] at hheld ⊢
    obtain ⟨c₁, hpay, hleft⟩ := run_sendETH_isOk (c := s.world) (amountOut - reward) (by omega)
      hacceptsRecipient
    have hsecond : ∃ c₂, k.run c₁ (.sendETH executor reward) = .ok c₂ := by
      obtain ⟨c₂, hc₂, -⟩ := run_sendETH_isOk (c := c₁) reward (by omega) hacceptsExecutor
      exact ⟨c₂, hc₂⟩
    obtain ⟨s₂, hrest⟩ := payReward_isOk { s with world := c₁ } _
      "TransferHelper: ETH_TRANSFER_FAILED" reward fun _ => hsecond
    refine ⟨s₂, ?_⟩
    simp only [distributeNativeOutput, bind_eq_ok, Uint256.sub_eq_ok, Site.callOrRevert_eq_ok]
    exact ⟨_, ⟨hreward, rfl⟩, _, ⟨c₁, hpay, rfl⟩, hrest⟩
  -- a token: the same with two transfers
  · rw [if_neg hnative] at hheld ⊢
    have hadmits : ∀ dst, dst ≠ Address.zero → s.world.admits order.outputToken k.self dst = true :=
      fun dst hdst => FluxSwapRouter.admits_of_standard (hstandard hnative) (by simp) hself hdst
    have hpay := run_transfer_isOk (c := s.world) (amountOut - reward) (by omega)
      (hadmits order.recipient hrecipient)
    obtain ⟨c₁, hc₁⟩ : ∃ c₁, c₁ = s.world.moved order.outputToken k.self order.recipient
      (amountOut - reward) := ⟨_, rfl⟩
    have hsecond : ∃ c₂, k.run c₁ (.transfer order.outputToken executor reward) = .ok c₂ := by
      refine ⟨_, run_transfer_isOk reward ?_ ?_⟩
      · simp only [hc₁, Chain.moved_tokens, Ledger.balanceOf_move, if_true]
        omega
      · rw [hc₁]
        exact hadmits executor hexecutor
    obtain ⟨s₂, hrest⟩ := payReward_isOk { s with world := c₁ } _
      "TransferHelper: TRANSFER_FAILED" reward fun _ => hsecond
    refine ⟨s₂, ?_⟩
    simp only [distributeTokenOutput, bind_eq_ok, Uint256.sub_eq_ok, Site.callOrRevert_eq_ok]
    exact ⟨_, ⟨hreward, rfl⟩, _, ⟨c₁, hc₁ ▸ hpay, rfl⟩, hrest⟩

/-! ## The prediction -/

/-- The views read only the world, so the guard makes no difference to them. -/
theorem validOrder_setEntered {b : Bool} :
    ValidOrder k.deployment (s.setEntered b) order ↔ ValidOrder k.deployment s order :=
  ⟨fun h => ⟨h.maker, h.input, h.distinct, h.amountIn, h.minAmountOut, h.rewardBps, h.trigger,
      h.unexpired, h.recipient, h.pair⟩,
    fun h => ⟨h.maker, h.input, h.distinct, h.amountIn, h.minAmountOut, h.rewardBps, h.trigger,
      h.unexpired, h.recipient, h.pair⟩⟩

theorem pair_nonzero (h : ValidOrder k.deployment s order) :
    k.pairOf order s.world ≠ Address.zero := by
  have hpair : decide (k.pairOf order s.world ≠ Address.zero) = true := Except.ok.inj h.pair
  exact of_decide_eq_true hpair

/-- What an admitted order has left when it comes to the router. -/
theorem Callable.settle_isOk_iff {signature : Bytes} {deadline reward amountOut : Nat} {s₁ : State Chain}
    (haround : Around k order s.world)
    (hcall : Callable k order executor signature deadline reward s)
    (hadmitted : Admitted k.deployment executor order signature deadline reward (s.setEntered true)
      amountOut)
    (hpull : pullInput k.deployment order (marked k.deployment order s) = .ok s₁)
    (hrouter : order.amountIn ≤ s₁.world.tokens.allowance order.inputToken k.self k.router)
    (hheld : order.amountIn ≤ s.world.tokens.balanceOf order.inputToken order.maker) :
    (∃ c', k.run s₁.world (settleCall k.deployment order (order.minAmountOut + reward) deadline) =
        .ok c') ↔ PairClockRuns k order s.world := by
  obtain ⟨c₁, rfl, hquiet, hmoved⟩ := pullInput_effect hpull
  rw [marked_world] at hquiet
  have hvalid := validOrder_setEntered.mp hadmitted.valid
  obtain ⟨p, hpair⟩ := haround.pair (pair_nonzero hvalid)
  obtain ⟨haround₁, hpair₁, hfunded⟩ := haround.afterPull hquiet hcall.maker_pair hmoved hheld hrouter
    hpair hcall.room hcall.roomOut
  have hquote := (hquiet.getAmountsOut _ _).trans (quote_eq hadmitted.quote)
  have hpositive : 0 < amountOut := hvalid.minAmountOut.trans_le hadmitted.enough
  have hdeadline : c₁.timestamp ≤ deadline := by
    rw [hquiet.env.timestamp]
    exact hcall.deadline
  refine (FluxSignedOrderSettlement.settle_isOk_iff haround₁ hpair₁ hfunded hquote hpositive
    hadmitted.reward_le hdeadline).trans ?_
  rw [hquiet.env.timestamp]
  constructor
  · intro hclock p' hp'
    obtain rfl := Option.some.inj (hpair.storage.symm.trans hp')
    exact hclock
  · intro hclock
    exact hclock p hpair.storage

/-- `executeOrder` succeeds exactly when the view's conditions hold and the pair's clock
    can move on. -/
theorem executeOrder_isOk_iff {signature : Bytes} {deadline reward : Nat}
    (haround : Around k order s.world)
    (hcall : Callable k order executor signature deadline reward s) :
    (∃ s' amountOut, executeOrder k.deployment executor order signature deadline reward s =
        .ok (s', amountOut)) ↔
      Executable k.deployment s order ∧ PairClockRuns k order s.world := by
  constructor
  -- a call that went through has passed every check of the view
  · rintro ⟨s', amountOut, h⟩
    obtain ⟨-, hadmitted, -, s₁, s₂, s₃, hpull, hswap, -⟩ := executeOrder_eq_ok.mp h
    have hvalid := validOrder_setEntered.mp hadmitted.valid
    have hpulled := hpull
    simp only [pullInput, bind_eq_ok, require_eq_ok] at hpulled
    obtain ⟨b, hb, _, hbalance, b', hb', _, hallowance, -⟩ := hpulled
    obtain rfl : _ = b := Except.ok.inj hb
    obtain rfl : _ = b' := Except.ok.inj hb'
    obtain ⟨c', hpull', hrouter⟩ := pullInput_isOk (s := marked k.deployment order s)
      (haround : Around k order (marked k.deployment order s).world) hvalid.maker hbalance hallowance
    obtain rfl := Except.ok.inj (hpull.symm.trans hpull')
    obtain ⟨c₂, hrun, -⟩ := Site.call_eq_ok.mp hswap
    refine ⟨⟨hadmitted.unpaused, ?_, hvalid, hadmitted.unexecuted, hadmitted.free, ⟨_, rfl, hbalance⟩,
      ⟨_, rfl, hallowance⟩, amountOut, hadmitted.quote, hadmitted.enough, hadmitted.reached⟩, ?_⟩
    · rintro ⟨honly, hzero⟩
      exact hcall.executor_nonzero ((hcall.permitted honly).trans hzero)
    · exact (hcall.settle_isOk_iff haround hadmitted hpull hrouter hbalance).mp ⟨c₂, hrun⟩
  · rintro ⟨hexec, hclock⟩
    have hvalid := hexec.valid
    obtain ⟨q, hquote, henough, hreached⟩ := hexec.quote
    obtain ⟨_, hb, hbalance⟩ := hexec.balance
    obtain rfl := Except.ok.inj hb
    obtain ⟨_, hb', hallowance⟩ := hexec.allowance
    obtain rfl := Except.ok.inj hb'
    obtain ⟨p, hpair⟩ := haround.pair (pair_nonzero hvalid)
    -- the pair pays the quote out of its reserve, so the products of the checks fit
    have hsmall : q ≤ FluxSwapPair.maxUint112 := by
      obtain ⟨_, _, _, hreserves, hout, hamounts⟩ :=
        FluxSwapRouter.getAmountsOut_hop (quote_eq hquote)
      obtain rfl : q = _ := by simpa using hamounts
      have hquoted := (FluxSwapRouter.getAmountOut_quoted hout).out
      have ho := FluxSwapRouter.oriented_of_sorted hpair.storage hpair.sorted hreserves
      have hcovered := hpair.covered
      have hroom := hcall.roomOut
      rcases ho.side with ⟨-, h1, -, hr⟩ | ⟨h0, -, hr, -⟩
      · rw [h1, hr] at hcovered
        exact hquoted.le.trans (hcovered.2.trans hroom)
      · rw [h0, hr] at hcovered
        exact hquoted.le.trans (hcovered.1.trans hroom)
    have hreward := hcall.reward q ((quoteFor_eq hvalid).trans hquote)
    have hscaled : (q - order.minAmountOut) * order.maxExecutorRewardBps ≤ Uint256.max :=
      (Nat.mul_le_mul ((Nat.sub_le _ _).trans hsmall) hvalid.rewardBps).trans (by decide)
    have hadmitted : Admitted k.deployment executor order signature deadline reward
        (s.setEntered true) q :=
      ⟨hexec.unpaused, hcall.permitted, validOrder_setEntered.mpr hvalid, hcall.deadline,
        hexec.unexecuted, hexec.free, hcall.signed, hquote, henough, hreached, hscaled, hreward⟩
    have hsum := hadmitted.reward_le
    have hrewardLe : reward ≤ q := by omega
    -- then the pull, the swap and the payout go through in turn
    obtain ⟨c₁, hpull, hrouter⟩ := pullInput_isOk (s := marked k.deployment order s)
      (haround : Around k order (marked k.deployment order s).world) hvalid.maker hbalance hallowance
    obtain ⟨c₂, hrun⟩ := (hcall.settle_isOk_iff haround hadmitted hpull hrouter hbalance).mpr hclock
    obtain ⟨c₁', hsame, hquiet, hmoved⟩ := pullInput_effect hpull
    obtain rfl : c₁ = c₁' := by simpa using congrArg State.world hsame
    rw [marked_world] at hquiet
    obtain ⟨haround₁, hpair₁, -⟩ := haround.afterPull hquiet hcall.maker_pair hmoved hbalance hrouter
      hpair hcall.room hcall.roomOut
    have hquote₁ := (hquiet.getAmountsOut _ _).trans (quote_eq hquote)
    obtain ⟨hholds, hrefuses⟩ := settle_holds haround₁ hpair₁.toPairOf hquote₁ hrun
    have hstandard : order.outputToken ≠ Address.zero →
        FluxSwapRouter.StandardTokens c₂ [order.outputToken] := by
      intro htoken t ht a ha
      have hout : k.outputOf order = order.outputToken := if_neg htoken
      rw [hrefuses htoken]
      exact haround₁.standard t (by simp [hout, List.mem_singleton.mp ht]) a ha
    obtain ⟨s₃, hpay⟩ := distribute_isOk (s := { marked k.deployment order s with world := c₂ })
      haround.nonzero.1 hvalid.recipient hcall.executor_nonzero hrewardLe hholds hstandard
      hcall.accepted
    refine ⟨_, q, executeOrder_eq_ok.mpr ⟨hcall.idle, hadmitted, ?_, _, _, s₃, hpull,
      Site.call_eq_ok.mpr ⟨c₂, hrun, rfl⟩, hpay, rfl⟩⟩
    exact (hsum.trans hsmall).trans (by decide)

/-- The view predicts the call, and the call returns the quote, exactly when the order's
    pair can move its clock on whenever the view's conditions hold. -/
theorem canExecuteOrder_predicts_iff {signature : Bytes} {deadline reward : Nat}
    (haround : Around k order s.world)
    (hcall : Callable k order executor signature deadline reward s) :
    (((∃ reason, canExecuteOrder k.deployment s order = .ok (true, reason)) ↔
        ∃ s' amountOut, executeOrder k.deployment executor order signature deadline reward s =
          .ok (s', amountOut)) ∧
      ∀ s' amountOut, executeOrder k.deployment executor order signature deadline reward s =
          .ok (s', amountOut) → getOrderQuote k.deployment s order = .ok amountOut) ↔
      (Executable k.deployment s order → PairClockRuns k order s.world) := by
  rw [canExecuteOrder_eq_true, executeOrder_isOk_iff haround hcall]
  constructor
  · rintro ⟨hpredicts, -⟩ hexec
    exact (hpredicts.mp hexec).2
  · intro hclock
    refine ⟨⟨fun hexec => ⟨hexec, hclock hexec⟩, fun h => h.1⟩, ?_⟩
    intro s' amountOut h
    obtain ⟨-, hadmitted, -⟩ := executeOrder_eq_ok.mp h
    exact (quoteFor_eq (validOrder_setEntered.mp hadmitted.valid)).trans hadmitted.quote

/-! ## Before and after the 32-bit clock wraps -/

namespace Example

/-- The market of the payouts at another time. -/
def openedAt (timestamp : Nat) : State Chain :=
  { opened with world := { market with timestamp := timestamp } }

/-- Alice's order to Carol, valid long enough. -/
def lasting : SignedOrder := { sell carol with expiry := 2 ^ 40, fits := by decide }

theorem around (timestamp : Nat) : Around site lasting (openedAt timestamp).world where
  contracts := by decide
  nonzero := by decide
  self_token := by decide
  router_token := by decide
  self_pair := show site.self ≠ pairAW by decide
  router_pair := show site.router ≠ pairAW by decide
  pair _ := ⟨storageAW, ⟨rfl, by decide⟩, rfl, show storageAW.reserve0 ≤
      market.tokens.balanceOf weth pairAW ∧ storageAW.reserve1 ≤
      market.tokens.balanceOf tokenA pairAW by decide⟩
  standard _ _ _ ha := decide_eq_false ha
  backed := show market.tokens.balanceOf weth pairAW ≤ market.eth weth by decide

theorem accepts (a : Address) (h : a ≠ weth ∧ a ≠ site.router ∧ a ≠ site.self) :
    Accepts site a := by
  intro value c
  refine ⟨c, ?_, le_rfl⟩
  have hweth : a ≠ site.WETH := h.1
  unfold Site.receiveETH
  rw [if_neg hweth, if_neg h.2.1, if_neg h.2.2]
  rfl

theorem quoted (timestamp : Nat) :
    getOrderQuote site.deployment (openedAt timestamp) lasting = .ok 39486 := by
  have hquote : getOrderQuote site.deployment opened lasting = .ok 39486 := by decide +kernel
  exact hquote

theorem callable (timestamp : Nat) (h : timestamp ≤ 2 ^ 40) :
    Callable site lasting dave [2] (2 ^ 40) 200 (openedAt timestamp) where
  idle := rfl
  permitted := nofun
  executor_nonzero := by decide
  signed := rfl
  maker_pair := show alice ≠ pairAW by decide
  deadline := h
  reward q hq := by
    obtain rfl := Except.ok.inj ((quoted timestamp).symm.trans hq)
    decide
  room := show market.tokens.balanceOf tokenA pairAW + 10000 ≤ FluxSwapPair.maxUint112 by decide
  roomOut := show market.tokens.balanceOf weth pairAW ≤ FluxSwapPair.maxUint112 by decide
  accepted _ := ⟨accepts carol (by decide), accepts dave (by decide)⟩

end Example

open Example in
theorem canExecuteOrder_predicts_early :
    (∃ reason, canExecuteOrder site.deployment (openedAt 100) lasting = .ok (true, reason)) ↔
      ∃ s' amountOut, executeOrder site.deployment dave lasting [2] (2 ^ 40) 200 (openedAt 100) =
        .ok (s', amountOut) := by
  refine ((canExecuteOrder_predicts_iff (around 100) (callable 100 (by decide))).mpr ?_).1
  intro _ p hp
  obtain rfl := Option.some.inj hp
  exact ⟨by decide, fun _ => by decide⟩

open Example in
/-- Five seconds after the wrap the view still says yes, but the pair's clock stops every
    execution. -/
theorem not_predicted_after_wrap :
    Around site lasting (openedAt (2 ^ 32 + 5)).world ∧
      Callable site lasting dave [2] (2 ^ 40) 200 (openedAt (2 ^ 32 + 5)) ∧
      canExecuteOrder site.deployment (openedAt (2 ^ 32 + 5)) lasting = .ok (true, "OK") ∧
      executeOrder site.deployment dave lasting [2] (2 ^ 40) 200 (openedAt (2 ^ 32 + 5)) =
        .error (.panic .underflow) := by
  refine ⟨around _, callable _ (by decide), by decide +kernel, ?_⟩
  have hfails : (match executeOrder site.deployment dave lasting [2] (2 ^ 40) 200
      (openedAt (2 ^ 32 + 5)) with
    | .ok _ => none
    | .error r => some r) = some (.panic .underflow) := by decide +kernel
  cases hrun : executeOrder site.deployment dave lasting [2] (2 ^ 40) 200 (openedAt (2 ^ 32 + 5)) with
  | ok r => rw [hrun] at hfails; cases hfails
  | error r =>
    rw [hrun, Option.some.injEq] at hfails
    rw [hfails]

end FluxSignedOrderSettlement
