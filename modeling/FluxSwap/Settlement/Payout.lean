-- SUMMARY: Who pays and who is paid when the settlement executes an order.
import FluxSwap.Settlement.Checks
import FluxSwap.Settlement.Onchain

/-!
# Payouts

An execution is three movements: the input comes in from the maker, the router turns
it into the output, the output goes out to the recipient and the executor. Each one is
an equation between the balances before and after it; their sum is the payout.
-/

open Exec

namespace FluxSignedOrderSettlement

variable {k : Site} {order : SignedOrder} {executor : Address} {s s' : State Chain} {c c' : Chain}

/-- The balance of an account in the asset that an order asks for. -/
def holding (c : Chain) (outputToken account : Address) : Nat :=
  if outputToken = Address.zero then c.eth account else c.tokens.balanceOf outputToken account

/-- A receiver of ETH that moves nothing while it receives. -/
def Passive (receivers : Receivers) (receiver : Address) : Prop :=
  ∀ sender value c c', receivers sender receiver value c = .ok c' →
    c'.tokens.balanceOf = c.tokens.balanceOf ∧ c'.eth = c.eth

/-! ## The input -/

theorem approveIfNeeded_effect {token spender : Address} {amount : Nat}
    (h : approveIfNeeded k.deployment token spender amount s = .ok s') :
    ∃ c', s' = { s with world := c' } ∧ s.world.Quiet c' ∧
      c'.tokens.balanceOf = s.world.tokens.balanceOf := by
  simp only [approveIfNeeded, bind_eq_ok] at h
  obtain ⟨current, -, h⟩ := h
  split at h
  · obtain rfl := pure_eq_ok.mp h
    exact ⟨s.world, rfl, .refl _, rfl⟩
  · split at h
    · simp only [bind_eq_ok, Site.callOrRevert_eq_ok] at h
      obtain ⟨_, ⟨c₁, hreset, rfl⟩, c₂, hset, rfl⟩ := h
      obtain ⟨hquiet, htokens⟩ := Chain.approve_effect hreset
      obtain ⟨hquiet', htokens'⟩ := Chain.approve_effect hset
      refine ⟨c₂, rfl, hquiet.trans hquiet', ?_⟩
      rw [htokens', Ledger.approve_balanceOf, htokens, Ledger.approve_balanceOf]
    · obtain ⟨c₁, hset, rfl⟩ := Site.callOrRevert_eq_ok.mp h
      obtain ⟨hquiet, htokens⟩ := Chain.approve_effect hset
      exact ⟨c₁, rfl, hquiet, by rw [htokens, Ledger.approve_balanceOf]⟩

theorem pullInput_effect (h : pullInput k.deployment order s = .ok s') :
    ∃ c', s' = { s with world := c' } ∧ s.world.Quiet c' ∧
      ∀ t a, c'.tokens.balanceOf t a +
          (if t = order.inputToken ∧ a = order.maker then order.amountIn else 0) =
        s.world.tokens.balanceOf t a +
          if t = order.inputToken ∧ a = k.self then order.amountIn else 0 := by
  simp only [pullInput, bind_eq_ok, Site.callOrRevert_eq_ok] at h
  obtain ⟨_, -, _, -, _, -, _, -, _, ⟨c₁, hpull, rfl⟩, happrove⟩ := h
  have hpull := Site.orFail_eq_ok.mp hpull
  obtain ⟨c₂, rfl, hquiet, hsame⟩ := approveIfNeeded_effect happrove
  have hmoved := Chain.transferFrom_spec hpull
  refine ⟨c₂, rfl, (Chain.transferFrom_quiet hpull).trans hquiet, ?_⟩
  intro t a
  rw [hsame, hmoved.balances]
  exact Ledger.balanceOf_move_add _ _ _ _ _ hmoved.enough t a

/-! ## The swap -/

/-- The contracts are different ones, and none of the parties is one of them. -/
structure Parties (k : Site) (order : SignedOrder) (executor : Address) (c : Chain) : Prop where
  contracts : [k.self, k.router, k.WETH].Nodup
  self_pair : k.self ≠ c.getPair order.inputToken (normalizeOutputToken k.deployment order.outputToken)
  self_treasury : k.self ≠ c.treasury
  apart : ∀ a, a = order.maker ∨ a = order.recipient ∨ a = executor →
    a ≠ k.self ∧ a ≠ k.router ∧ a ≠ c.treasury ∧
      a ≠ c.getPair order.inputToken (normalizeOutputToken k.deployment order.outputToken)

theorem sendETH_receive {src dst : Address} {value : Nat} (hweth : dst ≠ k.WETH)
    (hcontract : dst = k.router ∨ dst = k.self)
    (h : c.sendETH k.receiveETH src dst value = .ok c') :
    value ≤ c.eth src ∧ c' = c.moveETH src dst value := by
  obtain ⟨hle, hreceive⟩ := Chain.sendETH_eq_ok.mp h
  refine ⟨hle, ?_⟩
  unfold Site.receiveETH at hreceive
  rw [if_neg hweth] at hreceive
  split at hreceive
  · obtain ⟨_, -, hc⟩ := bind_eq_ok.mp hreceive
    exact (pure_eq_ok.mp hc).symm
  · rename_i hrouter
    cases hcontract with
    | inl heq => exact absurd heq hrouter
    | inr heq =>
      rw [if_pos heq] at hreceive
      obtain ⟨_, -, hc⟩ := bind_eq_ok.mp hreceive
      exact (pure_eq_ok.mp hc).symm

/-- What the router's call leaves: the settlement gave the input and got `amountOut` of the
    output asset. -/
structure Swapped (k : Site) (order : SignedOrder) (amountOut : Nat) (c c' : Chain) : Prop where
  env : c'.getPair = c.getPair ∧ c'.treasury = c.treasury
  tokens : ∀ t a,
    a ≠ c.getPair order.inputToken (normalizeOutputToken k.deployment order.outputToken) →
    a ≠ c.treasury →
    c'.tokens.balanceOf t a + (if t = order.inputToken ∧ a = k.self then order.amountIn else 0) =
      c.tokens.balanceOf t a +
        if order.outputToken ≠ Address.zero ∧ t = order.outputToken ∧ a = k.self then amountOut else 0
  eth : ∀ a, a ≠ k.WETH → c'.eth a = c.eth a +
    if order.outputToken = Address.zero ∧ a = k.self then amountOut else 0

theorem settle_effect {p : Pair} {required deadline amountOut : Nat}
    (hcontracts : [k.self, k.router, k.WETH].Nodup)
    (hpair : FluxSwapRouter.PairOf c order.inputToken
      (normalizeOutputToken k.deployment order.outputToken) p)
    (hquote : FluxSwapRouter.getAmountsOut c order.amountIn
      (buildPath k.deployment order.inputToken order.outputToken) = .ok [order.amountIn, amountOut])
    (h : k.run c (settleCall k.deployment order required deadline) = .ok c') :
    Swapped k order amountOut c c' := by
  unfold settleCall at h
  split at h
  -- native output: the router swaps to WETH, unwraps it and sends the ETH on
  · rename_i hnative
    simp only [Site.run, FluxSwapRouter.swapExactTokensForETH, Weth.withdraw, bind_eq_ok,
      last_eq_ok, pure_eq_ok] at h
    obtain ⟨⟨_, _⟩, ⟨_, -, _, -, _, -, ⟨c₁, amounts⟩, hswap, y, hlast, c₂, ⟨_, henough, hwithdraw⟩,
      c₃, hsend, rfl, rfl⟩, rfl⟩ := h
    have hdrawn : y ≤ c₁.tokens.balanceOf k.WETH k.router := require_eq_ok.mp henough
    dsimp only at hwithdraw hlast hsend ⊢
    obtain ⟨y', rfl, hquote', -, henv, hmoved⟩ := FluxSwapRouter.swapExactTokens_effect hpair hswap
    obtain rfl : y' = y := by simpa using hlast
    obtain rfl : amountOut = y' := by
      have heq := Except.ok.inj (hquote.symm.trans hquote')
      simpa using heq
    simp only [List.nodup_cons, List.mem_cons, List.not_mem_nil, or_false, not_or] at hcontracts
    obtain ⟨⟨hselfRouter, hselfWeth⟩, hrouterWeth, -⟩ := hcontracts
    obtain ⟨hbacked, rfl⟩ := sendETH_receive hrouterWeth (.inl rfl) hwithdraw
    obtain ⟨hheld, rfl⟩ := sendETH_receive hselfWeth (.inr rfl) hsend
    have hweth : normalizeOutputToken k.deployment order.outputToken = k.WETH := if_pos hnative
    refine ⟨⟨henv.getPair, henv.treasury⟩, ?_, ?_⟩
    · intro t a ha htreasury
      have hgot := hmoved t a ha htreasury
      rw [hweth] at hgot
      have hdebit := c₁.tokens.balanceOf_debit_add k.WETH k.router amountOut hdrawn t a
      simp only [hnative, ne_eq, not_true_eq_false, false_and, if_false, Nat.add_zero]
      show (c₁.tokens.debit k.WETH k.router amountOut).balanceOf t a + _ = _
      omega
    · intro a ha
      have hfirst := Chain.moveETH_add k.router hbacked a
      have hsecond := Chain.moveETH_add k.self hheld a
      have hsame : c₁.eth a = c.eth a := by rw [henv.eth]
      simp only [if_neg ha, hnative, true_and, Nat.add_zero] at hfirst hsecond ⊢
      omega
  -- token output: the pair pays the settlement itself
  · rename_i htoken
    simp only [Site.run, FluxSwapRouter.swapExactTokensForTokens, bind_eq_ok, pure_eq_ok] at h
    obtain ⟨⟨c₁, amounts⟩, ⟨_, -, hrun⟩, rfl⟩ := h
    have hswap : FluxSwapRouter.swapExactTokens k.router k.self order.amountIn required
      [order.inputToken, normalizeOutputToken k.deployment order.outputToken] k.self c =
        .ok (c₁, amounts) := hrun
    obtain ⟨y, rfl, hquote', -, henv, hmoved⟩ := FluxSwapRouter.swapExactTokens_effect hpair hswap
    obtain rfl : amountOut = y := by
      have heq := Except.ok.inj (hquote.symm.trans hquote')
      simpa using heq
    have hout : normalizeOutputToken k.deployment order.outputToken = order.outputToken :=
      if_neg htoken
    refine ⟨⟨henv.getPair, henv.treasury⟩, ?_, ?_⟩
    · intro t a ha htreasury
      have hgot := hmoved t a ha htreasury
      rw [hout] at hgot
      simpa [htoken] using hgot
    · intro a _
      simp [htoken, henv.eth]

/-! ## The payout -/

/-- What the payout leaves: the settlement gave `amountOut` of the output asset, the
    recipient and the executor got their shares. -/
structure Distributed (k : Site) (order : SignedOrder) (executor : Address)
    (amountOut reward : Nat) (c c' : Chain) : Prop where
  reward_le : reward ≤ amountOut
  tokens : ∀ t a, c'.tokens.balanceOf t a +
      (if order.outputToken ≠ Address.zero ∧ t = order.outputToken ∧ a = k.self then amountOut
        else 0) =
    c.tokens.balanceOf t a +
      (if order.outputToken ≠ Address.zero ∧ t = order.outputToken ∧ a = order.recipient then
        amountOut - reward else 0) +
      if order.outputToken ≠ Address.zero ∧ t = order.outputToken ∧ a = executor then reward else 0
  eth : ∀ a, c'.eth a +
      (if order.outputToken = Address.zero ∧ a = k.self then amountOut else 0) =
    c.eth a +
      (if order.outputToken = Address.zero ∧ a = order.recipient then amountOut - reward else 0) +
      if order.outputToken = Address.zero ∧ a = executor then reward else 0

/-- A share and the rest are the whole. -/
theorem ite_split {q : Prop} [Decidable q] {amountOut reward : Nat} (h : reward ≤ amountOut) :
    (if q then amountOut - reward else 0) + (if q then reward else 0) =
      if q then amountOut else 0 := by
  split
  · omega
  · rfl

/-- A payment in a token, left out when it is zero. -/
theorem payReward_transfer {token dst : Address} {value : Nat} {text : String}
    (h : payReward k.deployment (.transfer token dst value) text value s = .ok s') :
    ∃ c', s' = { s with world := c' } ∧ c'.eth = s.world.eth ∧
      ∀ t a, c'.tokens.balanceOf t a + (if t = token ∧ a = k.self then value else 0) =
        s.world.tokens.balanceOf t a + if t = token ∧ a = dst then value else 0 := by
  cases Site.payReward_eq_ok.mp h with
  | inl hpaid =>
    obtain ⟨-, c₁, hrun, rfl⟩ := hpaid
    obtain ⟨⟨hle, -⟩, rfl⟩ := Chain.transfer_eq_some.mp (Site.orFail_eq_ok.mp hrun)
    exact ⟨_, rfl, rfl, fun t a => Ledger.balanceOf_move_add _ _ _ _ _ hle t a⟩
  | inr hzero =>
    obtain ⟨rfl, rfl⟩ := hzero
    exact ⟨s'.world, rfl, rfl, fun t a => by simp⟩

theorem distributeTokenOutput_effect {amountOut reward : Nat} (htoken : order.outputToken ≠ Address.zero)
    (h : distributeTokenOutput k.deployment order.outputToken order.recipient executor amountOut
      reward s = .ok s') :
    ∃ c', s' = { s with world := c' } ∧
      Distributed k order executor amountOut reward s.world c' := by
  simp only [distributeTokenOutput, bind_eq_ok, Uint256.sub_eq_ok, Site.callOrRevert_eq_ok] at h
  obtain ⟨_, ⟨hle, rfl⟩, _, ⟨c₁, hpay, rfl⟩, hreward⟩ := h
  obtain ⟨⟨henough, -⟩, rfl⟩ := Chain.transfer_eq_some.mp (Site.orFail_eq_ok.mp hpay)
  obtain ⟨c₂, rfl, heth, hpaid⟩ := payReward_transfer hreward
  refine ⟨c₂, rfl, hle, ?_, ?_⟩
  · intro t a
    have hfirst := s.world.tokens.balanceOf_move_add order.outputToken k.self order.recipient
      (amountOut - reward) henough t a
    have hsecond := hpaid t a
    have hsplit := ite_split (q := t = order.outputToken ∧ a = k.self) hle
    simp only [Chain.moved_tokens] at hsecond
    simp only [htoken, ne_eq, not_false_eq_true, true_and]
    omega
  · intro a
    simp [htoken, heth, Chain.moved]

/-- ETH sent to an account that is none of the contracts. -/
theorem sendETH_passive {dst : Address} {value : Nat} (hpassive : Passive k.receivers dst)
    (hdst : dst ≠ k.WETH ∧ dst ≠ k.router ∧ dst ≠ k.self)
    (h : c.sendETH k.receiveETH k.self dst value = .ok c') :
    c'.tokens.balanceOf = c.tokens.balanceOf ∧
      ∀ a, c'.eth a + (if a = k.self then value else 0) =
        c.eth a + if a = dst then value else 0 := by
  obtain ⟨hle, hreceive⟩ := Chain.sendETH_eq_ok.mp h
  unfold Site.receiveETH at hreceive
  rw [if_neg hdst.1, if_neg hdst.2.1, if_neg hdst.2.2] at hreceive
  obtain ⟨htokens, heth⟩ := hpassive _ _ _ _ hreceive
  refine ⟨htokens, ?_⟩
  intro a
  rw [heth]
  exact Chain.moveETH_add dst hle a

theorem payReward_sendETH {dst : Address} {value : Nat} {text : String}
    (hpassive : Passive k.receivers dst) (hdst : dst ≠ k.WETH ∧ dst ≠ k.router ∧ dst ≠ k.self)
    (h : payReward k.deployment (.sendETH dst value) text value s = .ok s') :
    ∃ c', s' = { s with world := c' } ∧
      c'.tokens.balanceOf = s.world.tokens.balanceOf ∧
      ∀ a, c'.eth a + (if a = k.self then value else 0) =
        s.world.eth a + if a = dst then value else 0 := by
  cases Site.payReward_eq_ok.mp h with
  | inl hpaid =>
    obtain ⟨-, c₁, hrun, rfl⟩ := hpaid
    exact ⟨c₁, rfl, sendETH_passive hpassive hdst hrun⟩
  | inr hzero =>
    obtain ⟨rfl, rfl⟩ := hzero
    exact ⟨s'.world, rfl, rfl, fun a => by simp⟩

theorem distributeNativeOutput_effect {amountOut reward : Nat}
    (hnative : order.outputToken = Address.zero) (hrpassive : Passive k.receivers order.recipient)
    (hepassive : Passive k.receivers executor)
    (hrecipient : order.recipient ≠ k.WETH ∧ order.recipient ≠ k.router ∧ order.recipient ≠ k.self)
    (hexecutor : executor ≠ k.WETH ∧ executor ≠ k.router ∧ executor ≠ k.self)
    (h : distributeNativeOutput k.deployment order.recipient executor amountOut reward s = .ok s') :
    ∃ c', s' = { s with world := c' } ∧
      Distributed k order executor amountOut reward s.world c' := by
  simp only [distributeNativeOutput, bind_eq_ok, Uint256.sub_eq_ok, Site.callOrRevert_eq_ok] at h
  obtain ⟨_, ⟨hle, rfl⟩, _, ⟨c₁, hpay, rfl⟩, hreward⟩ := h
  obtain ⟨htokens, hfirst⟩ := sendETH_passive hrpassive hrecipient hpay
  obtain ⟨c₂, rfl, htokens', hsecond⟩ := payReward_sendETH hepassive hexecutor hreward
  refine ⟨c₂, rfl, hle, ?_, ?_⟩
  · intro t a
    simp [hnative, htokens', htokens]
  · intro a
    have hone := hfirst a
    have htwo := hsecond a
    have hsplit := ite_split (q := a = k.self) hle
    dsimp only at htwo
    simp only [hnative, true_and]
    omega

/-! ## The whole execution -/

/-- The conditions on the world: the factory's pair, the parties, and, when the output is ETH,
    a recipient and an executor that are neither WETH nor active while they receive. -/
structure PayoutReady (k : Site) (order : SignedOrder) (executor : Address) (c : Chain) : Prop where
  pair : ∃ p, FluxSwapRouter.PairOf c order.inputToken
    (normalizeOutputToken k.deployment order.outputToken) p
  parties : Parties k order executor c
  recipient_passive : order.outputToken = Address.zero → Passive k.receivers order.recipient
  executor_passive : order.outputToken = Address.zero → Passive k.receivers executor
  recipient_weth : order.outputToken = Address.zero → order.recipient ≠ k.WETH
  executor_weth : order.outputToken = Address.zero → executor ≠ k.WETH

theorem distribute_effect {amountOut reward : Nat} (hready : PayoutReady k order executor c)
    (h : distribute k.deployment order amountOut reward executor s = .ok s') :
    ∃ c', s' = { s with world := c' } ∧
      Distributed k order executor amountOut reward s.world c' := by
  obtain ⟨hrself, hrrouter, -⟩ := hready.parties.apart order.recipient (.inr (.inl rfl))
  obtain ⟨heself, herouter, -⟩ := hready.parties.apart executor (.inr (.inr rfl))
  unfold distribute at h
  split at h
  · rename_i hnative
    exact distributeNativeOutput_effect hnative (hready.recipient_passive hnative)
      (hready.executor_passive hnative)
      ⟨hready.recipient_weth hnative, hrrouter, hrself⟩
      ⟨hready.executor_weth hnative, herouter, heself⟩ h
  · rename_i htoken
    exact distributeTokenOutput_effect htoken h

/-- The quote of an order is the router's quote for its one hop. -/
theorem quote_eq {amountOut : Nat}
    (h : getAmountOut k.deployment s order.inputToken order.outputToken order.amountIn =
      .ok amountOut) :
    FluxSwapRouter.getAmountsOut s.world order.amountIn
      (buildPath k.deployment order.inputToken order.outputToken) =
        .ok [order.amountIn, amountOut] := by
  simp only [getAmountOut, bind_eq_ok, last_eq_ok] at h
  obtain ⟨amounts, hamounts, hlast⟩ := h
  have hrouter : FluxSwapRouter.getAmountsOut s.world order.amountIn
      (buildPath k.deployment order.inputToken order.outputToken) = .ok amounts := hamounts
  obtain ⟨_, _, y, -, -, rfl⟩ := FluxSwapRouter.getAmountsOut_hop hrouter
  obtain rfl : y = amountOut := by simpa using hlast
  exact hrouter

/-- The sum of the three movements. -/
structure Settled (k : Site) (order : SignedOrder) (executor : Address) (amountOut reward : Nat)
    (c c' : Chain) : Prop where
  tokens : ∀ t a,
    a ≠ c.getPair order.inputToken (normalizeOutputToken k.deployment order.outputToken) →
    a ≠ c.treasury →
    c'.tokens.balanceOf t a +
        (if t = order.inputToken ∧ a = order.maker then order.amountIn else 0) =
      c.tokens.balanceOf t a +
        (if order.outputToken ≠ Address.zero ∧ t = order.outputToken ∧ a = order.recipient then
          amountOut - reward else 0) +
        if order.outputToken ≠ Address.zero ∧ t = order.outputToken ∧ a = executor then reward else 0
  eth : ∀ a, a ≠ k.WETH → c'.eth a = c.eth a +
      (if order.outputToken = Address.zero ∧ a = order.recipient then amountOut - reward else 0) +
      if order.outputToken = Address.zero ∧ a = executor then reward else 0

theorem executeOrder_effect {signature : Bytes} {deadline reward amountOut : Nat}
    (hready : PayoutReady k order executor s.world)
    (h : executeOrder k.deployment executor order signature deadline reward s =
      .ok (s', amountOut)) :
    Settled k order executor amountOut reward s.world s'.world ∧
      ∃ s₁ s₂, pullInput k.deployment order (marked k.deployment order s) = .ok s₁ ∧
        k.deployment.call (settleCall k.deployment order (order.minAmountOut + reward) deadline) s₁ =
          .ok s₂ ∧ Swapped k order amountOut s₁.world s₂.world ∧
        s₁.world.Quiet s.world := by
  obtain ⟨-, hadmitted, -, s₁, s₂, s₃, hpull, hcall, hpay, rfl⟩ := executeOrder_eq_ok.mp h
  obtain ⟨p, hpair⟩ := hready.pair
  obtain ⟨c₁, rfl, hquiet, hinput⟩ := pullInput_effect hpull
  have hpair₁ := hpair.quiet hquiet
  have hquote := quote_eq hadmitted.quote
  have hquote₁ := (hquiet.getAmountsOut _ _).trans hquote
  have hrun := Site.call_eq_ok.mp hcall
  obtain ⟨c₂, hrun, rfl⟩ := hrun
  have hswapped := settle_effect hready.parties.contracts hpair₁ hquote₁ hrun
  obtain ⟨c₃, rfl, hdistributed⟩ := distribute_effect hready hpay
  refine ⟨⟨?_, ?_⟩, _, _, hpull, hcall, hswapped, ?_⟩
  · intro t a hnpair hntreasury
    have hone := hinput t a
    have htwo := hswapped.tokens t a (by rw [hquiet.env.getPair]; exact hnpair)
      (by rw [hquiet.env.treasury]; exact hntreasury)
    have hthree := hdistributed.tokens t a
    simp only [marked_world] at hone
    dsimp only at htwo hthree
    show c₃.tokens.balanceOf t a + _ = _
    omega
  · intro a ha
    have htwo := hswapped.eth a ha
    have hthree := hdistributed.eth a
    have hsame : c₁.eth a = s.world.eth a := by rw [hquiet.env.eth]; rfl
    dsimp only at htwo hthree
    show c₃.eth a = _
    omega
  · exact ⟨⟨hquiet.env.getPair.symm, hquiet.env.treasury.symm, hquiet.env.timestamp.symm,
      hquiet.env.eth.symm, hquiet.env.refuses.symm⟩, hquiet.pairs.symm⟩

theorem inputToken_ne_outputToken
    (h : hasIdenticalAssets k.deployment order.inputToken order.outputToken = false)
    (htoken : order.outputToken ≠ Address.zero) : order.outputToken ≠ order.inputToken := by
  intro heq
  have hout : normalizeOutputToken k.deployment order.outputToken = order.outputToken :=
    if_neg htoken
  rw [hasIdenticalAssets, hout, decide_eq_false_iff_not] at h
  exact h heq.symm

theorem Swapped.received {amountOut : Nat} (h : Swapped k order amountOut c c')
    (hdistinct : hasIdenticalAssets k.deployment order.inputToken order.outputToken = false)
    (hweth : k.self ≠ k.WETH)
    (hpair : k.self ≠ c.getPair order.inputToken
      (normalizeOutputToken k.deployment order.outputToken))
    (htreasury : k.self ≠ c.treasury) :
    holding c' order.outputToken k.self = holding c order.outputToken k.self + amountOut := by
  unfold holding
  by_cases hnative : order.outputToken = Address.zero
  · rw [if_pos hnative, if_pos hnative, h.eth _ hweth, if_pos ⟨hnative, rfl⟩]
  · have hne := inputToken_ne_outputToken hdistinct hnative
    have hmoved := h.tokens order.outputToken k.self hpair htreasury
    simpa [hnative, hne] using hmoved

theorem Settled.paid {amountOut reward : Nat} {a : Address}
    (h : Settled k order executor amountOut reward c c')
    (hdistinct : hasIdenticalAssets k.deployment order.inputToken order.outputToken = false)
    (hweth : order.outputToken = Address.zero → a ≠ k.WETH)
    (hpair : a ≠ c.getPair order.inputToken (normalizeOutputToken k.deployment order.outputToken))
    (htreasury : a ≠ c.treasury) :
    holding c' order.outputToken a = holding c order.outputToken a +
      (if a = order.recipient then amountOut - reward else 0) +
      if a = executor then reward else 0 := by
  unfold holding
  by_cases hnative : order.outputToken = Address.zero
  · rw [if_pos hnative, if_pos hnative, h.eth _ (hweth hnative)]
    simp [hnative]
  · have hne := inputToken_ne_outputToken hdistinct hnative
    have hmoved := h.tokens order.outputToken a hpair htreasury
    simpa [hnative, hne] using hmoved

/-- A successful execution: the maker pays the signed input; recipient and executor are
    paid the two parts of `amountOut`, in ETH or in the output token, the recipient's part
    at least the signed minimum and the reward within its bound; the settlement received
    `amountOut` from the router and keeps nothing of it. -/
theorem executeOrder_pays_exactly {signature : Bytes} {deadline reward amountOut : Nat}
    (hready : PayoutReady k order executor s.world)
    (h : executeOrder k.deployment executor order signature deadline reward s =
      .ok (s', amountOut)) :
    s'.world.tokens.balanceOf order.inputToken order.maker + order.amountIn =
        s.world.tokens.balanceOf order.inputToken order.maker ∧
      (∀ a, a = order.recipient ∨ a = executor →
        holding s'.world order.outputToken a = holding s.world order.outputToken a +
          (if a = order.recipient then amountOut - reward else 0) +
          if a = executor then reward else 0) ∧
      order.minAmountOut ≤ amountOut - reward ∧
      reward ≤ (amountOut - order.minAmountOut) * order.maxExecutorRewardBps / 10000 ∧
      (∃ s₁ s₂, pullInput k.deployment order (marked k.deployment order s) = .ok s₁ ∧
        k.deployment.call (settleCall k.deployment order (order.minAmountOut + reward) deadline) s₁ =
          .ok s₂ ∧
        holding s₂.world order.outputToken k.self =
          holding s₁.world order.outputToken k.self + amountOut) ∧
      (∀ t, s'.world.tokens.balanceOf t k.self = s.world.tokens.balanceOf t k.self) ∧
      s'.world.eth k.self = s.world.eth k.self := by
  obtain ⟨hsettled, s₁, s₂, hpull, hcall, hswapped, hquiet⟩ := executeOrder_effect hready h
  obtain ⟨-, hadmitted, -⟩ := executeOrder_eq_ok.mp h
  have hparties := hready.parties
  have hdistinct := hadmitted.valid.distinct
  have hcontracts := hparties.contracts
  simp only [List.nodup_cons, List.mem_cons, List.not_mem_nil, or_false, not_or] at hcontracts
  have hselfMaker := (hparties.apart order.maker (.inl rfl)).1.symm
  have hselfRecipient := (hparties.apart order.recipient (.inr (.inl rfl))).1.symm
  have hselfExecutor := (hparties.apart executor (.inr (.inr rfl))).1.symm
  refine ⟨?_, ?_, ?_, hadmitted.reward, ⟨s₁, s₂, hpull, hcall, ?_⟩, ?_, ?_⟩
  -- the maker; the two assets of an order differ
  · obtain ⟨-, -, htreasury, hpair⟩ := hparties.apart order.maker (.inl rfl)
    have hmoved := hsettled.tokens order.inputToken order.maker hpair htreasury
    by_cases hnative : order.outputToken = Address.zero
    · simpa [hnative] using hmoved
    · have hne := (inputToken_ne_outputToken hdistinct hnative).symm
      simpa [hnative, hne] using hmoved
  -- the recipient and the executor
  · intro a ha
    obtain ⟨-, -, htreasury, hpair⟩ := hparties.apart a (.inr ha)
    refine hsettled.paid hdistinct ?_ hpair htreasury
    intro hnative
    cases ha with
    | inl heq => exact heq ▸ hready.recipient_weth hnative
    | inr heq => exact heq ▸ hready.executor_weth hnative
  · have hle := hadmitted.reward_le
    omega
  -- what the router paid
  · refine hswapped.received hdistinct hcontracts.1.2 ?_ ?_
    · rw [← hquiet.env.getPair]
      exact hparties.self_pair
    · rw [← hquiet.env.treasury]
      exact hparties.self_treasury
  -- the settlement itself
  · intro t
    have hmoved := hsettled.tokens t k.self hparties.self_pair hparties.self_treasury
    simpa [hselfMaker, hselfRecipient, hselfExecutor] using hmoved
  · rw [hsettled.eth _ hcontracts.1.2]
    simp [hselfRecipient, hselfExecutor]

/-! ## Two native payouts -/

namespace Example

def weth : Address := 12
def tokenA : Address := 30
def pairAW : Address := 20
def carol : Address := 5

/-- Everybody accepts ETH. -/
def site : Site where
  self := 10
  router := 11
  WETH := weth
  chainid := 1
  ownable := quiet.ownable
  reentrancyGuard := quiet.reentrancyGuard
  math := quiet.math
  keccak256 := quiet.keccak256
  recover := quiet.recover
  decimals _ := 18
  receivers _ _ _ c := pure c

def storageAW : Pair where
  token0 := weth
  token1 := tokenA
  reserve0 := 4000000
  reserve1 := 1000000
  blockTimestampLast := 90
  price0CumulativeLast := 0
  price1CumulativeLast := 0
  unlocked := 1
  totalSupply := 2000000
  nonces := fun _ => 0

/-- Alice holds 10000 of `tokenA` and lets the settlement spend it. -/
def market : Chain where
  tokens := {
    balanceOf := fun t a =>
      if t = tokenA ∧ a = alice then 10000
      else if t = tokenA ∧ a = pairAW then 1000000
      else if t = weth ∧ a = pairAW then 4000000
      else 0
    allowance := fun t o sp => if t = tokenA ∧ o = alice ∧ sp = site.self then 10000 else 0
    refuses := fun _ a => a = Address.zero }
  eth := fun a => if a = weth then 4000000 else 0
  timestamp := 100
  treasury := 3
  getPair := fun _ _ => pairAW
  pairs := fun a => if a = pairAW then some storageAW else none
  logs := []

/-- Alice sells 10000 `tokenA` for ETH to a recipient. -/
def sell (recipient : Address) : SignedOrder where
  maker := alice
  inputToken := tokenA
  outputToken := Address.zero
  amountIn := 10000
  minAmountOut := 39000
  maxExecutorRewardBps := 5000
  triggerPriceX18 := 1
  expiry := 1000
  nonce := 1
  recipient := recipient

def opened : State Chain where
  storage := .deployed 1
  events := [.ownershipTransferred Address.zero 1]
  world := market

/-- Dave executes; his reward is 200. -/
def dave : Address := 6

theorem parties (recipient : Address) (h : recipient ∉ [site.self, site.router, 3, pairAW]) :
    Parties site (sell recipient) dave market where
  contracts := by decide
  self_pair := show site.self ≠ pairAW by decide
  self_treasury := by decide
  apart a ha := by
    simp only [List.mem_cons, List.not_mem_nil, or_false, not_or] at h
    rcases ha with rfl | rfl | rfl
    · exact (by decide : alice ≠ site.self ∧ alice ≠ site.router ∧ alice ≠ 3 ∧ alice ≠ pairAW)
    · exact ⟨h.1, h.2.1, h.2.2.1, h.2.2.2⟩
    · exact (by decide : dave ≠ site.self ∧ dave ≠ site.router ∧ dave ≠ 3 ∧ dave ≠ pairAW)

theorem pairOf (recipient : Address) : FluxSwapRouter.PairOf market (sell recipient).inputToken
    (normalizeOutputToken site.deployment (sell recipient).outputToken) storageAW :=
  ⟨rfl, show (weth, tokenA) = if tokenA < weth then (tokenA, weth) else (weth, tokenA) by decide⟩

theorem passive (receiver : Address) : Passive site.receivers receiver := by
  intro _ _ c c' h
  obtain rfl := pure_eq_ok.mp h
  exact ⟨rfl, rfl⟩

/-- Dave executes Alice's order with a reward of 200. -/
def executed (recipient : Address) : Exec (State Chain × Nat) :=
  executeOrder site.deployment dave (sell recipient) [2] 1000 200 opened

end Example

open Example in
theorem executeOrder_pays_exactly_carol :
    ∃ s', executed carol = .ok (s', 39486) ∧
      s'.world.eth carol = market.eth carol + 39286 ∧ s'.world.eth dave = market.eth dave + 200 ∧
      s'.world.eth site.self = market.eth site.self := by
  obtain ⟨⟨s', out⟩, hrun⟩ : ∃ r, executed carol = .ok r := by
    cases hrun : executed carol with
    | ok r => exact ⟨r, rfl⟩
    | error r =>
      have hok : (executed carol).isOk = true := by decide +kernel
      rw [hrun] at hok
      cases hok
  have hout : (executed carol).toOption.map Prod.snd = some 39486 := by decide +kernel
  rw [hrun] at hout
  obtain rfl : out = 39486 := by simpa [Except.toOption] using hout
  obtain ⟨-, hpaid, -, -, -, -, heth⟩ := executeOrder_pays_exactly
    ⟨⟨storageAW, pairOf carol⟩, parties carol (by decide), fun _ => passive carol,
      fun _ => passive dave, fun _ => by decide, fun _ => by decide⟩ hrun
  exact ⟨s', hrun, hpaid carol (.inl rfl), hpaid dave (.inr rfl), heth⟩

open Example in
/-- When the recipient is WETH itself, the payout comes back to the settlement as WETH. -/
theorem not_unchanged_of_weth_recipient :
    Parties site (sell weth) dave market ∧ (∀ receiver, Passive site.receivers receiver) ∧
      FluxSwapRouter.PairOf market (sell weth).inputToken
        (normalizeOutputToken site.deployment (sell weth).outputToken) storageAW ∧
      ∃ s', executed weth = .ok (s', 39486) ∧
        s'.world.tokens.balanceOf weth site.self ≠ market.tokens.balanceOf weth site.self := by
  refine ⟨parties weth (by decide), passive, pairOf weth, ?_⟩
  have hrun : (executed weth).toOption.map
      (fun r => (r.2, r.1.world.tokens.balanceOf weth site.self)) = some (39486, 39286) := by
    decide +kernel
  cases hexec : executed weth with
  | error r =>
    rw [hexec] at hrun
    cases hrun
  | ok r =>
    rw [hexec] at hrun
    obtain ⟨s', out⟩ := r
    simp only [Except.toOption, Option.map_some, Option.some.injEq, Prod.mk.injEq] at hrun
    obtain ⟨rfl, hbalance⟩ := hrun
    refine ⟨s', rfl, ?_⟩
    rw [hbalance]
    decide

end FluxSignedOrderSettlement
