-- SUMMARY: A round of the revenue pipeline over its five contracts: where every token of it goes.
import FluxSwap.Amm.Proceeds
import FluxSwap.Revenue.World

/-!
# A round of the revenue pipeline

A round is one successful `executeBuybackAndDistribute`. It has four payments: the treasury
pays the executor, the executor's tokens are swapped for the treasury, the treasury burns a
part of the proceeds and the manager takes the rest. Each contract moves its part by itself,
so the accounting of the round is put together from one lemma for each of their calls.
-/

open Exec

/-! ## The distribution -/

/-- A distribution adds the amount to what is carried over, credits a part of the sum to the
    pools by weight and carries the rest over. -/
structure MultiPoolManager.Distributed (amount : Nat) (m m' : MultiPoolManager) : Prop where
  credited : ∃ rewardDelta undistributed tokens,
    m' = { m with
      accRewardPerAllocStored := m.accRewardPerAllocStored + rewardDelta
      undistributedRewards := undistributed
      tokens := tokens } ∧
    rewardDelta * m.totalAllocPoint / MultiPoolManager.precision + undistributed =
      amount + m.undistributedRewards

theorem MultiPoolManager.Distributed.zero (m : MultiPoolManager) : Distributed 0 m m :=
  ⟨0, m.undistributedRewards, m.tokens, rfl, by simp⟩

theorem MultiPoolManager.distributeRewards_distributed {answer : TreasuryAnswer} {sender : Address}
    {totalReward : Nat} {tokens : Tokens} {m m' : MultiPoolManager}
    (h : { m with tokens := tokens }.distributeRewards answer sender totalReward = .ok m') :
    Distributed totalReward m m' := by
  simp only [distributeRewards, bind_eq_ok, require_eq_ok, pure_eq_ok, Uint256.add_eq_ok,
    Uint256.mul_eq_ok, Uint256.sub_eq_ok, Uint256.div_eq_ok] at h
  obtain ⟨_, -, _, -, _, -, _, -, _, -, paid, -, _, ⟨-, rfl⟩, _, ⟨-, rfl⟩, rewardDelta, -, _, -, _,
    ⟨-, rfl⟩, _, ⟨-, rfl⟩, undistributed, ⟨hle, rfl⟩, rfl⟩ := h
  exact ⟨rewardDelta, _, paid, rfl, Nat.add_sub_cancel' hle⟩

namespace RevenueChain

variable {receive : Receivers} {w w' : RevenueChain}

/-- The manager is paid by its own treasury, in its own reward token. -/
theorem distributeRewards_effect {manager sender : Address} {totalReward : Nat}
    (hhome : ∀ m, w.contractAt manager = some (.manager m) → w.TreasuryAt m.treasury)
    (h : w.distributeRewards receive manager sender totalReward = .ok w') :
    ∃ m m', w.contractAt manager = some (.manager m) ∧
      w'.contractAt manager = some (.manager m') ∧
      w.chain.transfer m.rewardToken m.treasury manager totalReward = some w'.chain ∧
      m.Distributed totalReward m' := by
  unfold distributeRewards at h
  split at h
  · rename_i m hm
    simp only [bind_eq_ok, pure_eq_ok] at h
    obtain ⟨m', hdistribute, w₁, hpull, rfl⟩ := h
    have hpaid := pullApprovedToken_effect (hhome m hm) hpull
    exact ⟨m, m', hm, by simp [put], hpaid,
      MultiPoolManager.distributeRewards_distributed hdistribute⟩
  · cases h

/-! ## The buyback -/

theorem safeApprove_effect {x : BuybackExecutor} {token spender : Address} {amount : Nat}
    (h : x.safeApprove (aroundExecutor receive) token spender amount w = .ok w') :
    w.chain.approve token x.self spender amount = .ok w'.chain ∧ OnlyTreasuries w w' := by
  unfold BuybackExecutor.safeApprove at h
  split at h
  · rename_i w₁ happrove
    cases h
    simp only [aroundExecutor, Option.map_eq_some_iff] at happrove
    obtain ⟨c, hc, rfl⟩ := happrove
    exact ⟨toOption_eq_some.mp hc, onlyTreasuries_chain w c⟩
  · cases h

theorem swapExactTokensForTokens_effect {router sender dst : Address} {path : List Address}
    {amountIn amountOutMin deadline : Nat} {amounts : List Nat}
    (h : w.swapExactTokensForTokens router sender amountIn amountOutMin path dst deadline =
      .ok (w', amounts)) :
    FluxSwapRouter.swapExactTokens router sender amountIn amountOutMin path dst w.chain =
      .ok (w'.chain, amounts) ∧ OnlyTreasuries w w' := by
  unfold swapExactTokensForTokens at h
  split at h
  · simp only [FluxSwapRouter.swapExactTokensForTokens, bind_eq_ok, pure_eq_ok, Prod.mk.injEq] at h
    obtain ⟨⟨c, _⟩, ⟨_, -, hswap⟩, rfl, rfl⟩ := h
    exact ⟨hswap, onlyTreasuries_chain w c⟩
  · cases h

/-- An executor at work: the treasury pays it, the router may take exactly that and takes it,
    for the treasury; then the router may take nothing. -/
theorem executeBuyback_effect {executor sender spendToken recipient : Address}
    {amountIn amountOutMin amountOut deadline : Nat} {path : List Address}
    (h : w.executeBuyback receive executor sender spendToken amountIn amountOutMin path recipient
      deadline = .ok (w', amountOut)) :
    ∃ x w₁ c₁ c₂ amounts, w.contractAt executor = some (.executor x) ∧
      path.head? = some spendToken ∧ path.getLast? = some x.buyToken ∧
      w.pullApprovedToken receive x.treasury x.self spendToken amountIn = .ok w₁ ∧
      Chain.Quiet w₁.chain c₁ ∧ c₁.tokens.balanceOf = w₁.chain.tokens.balanceOf ∧
      FluxSwapRouter.swapExactTokens x.router x.self amountIn amountOutMin path x.treasury c₁ =
        .ok (c₂, amounts) ∧ amounts.getLast? = some amountOut ∧
      c₂.approve spendToken x.self x.router 0 = .ok w'.chain ∧ OnlyTreasuries w₁ w' := by
  unfold executeBuyback at h
  split at h
  · rename_i x hx
    simp only [BuybackExecutor.executeBuyback, bind_eq_ok, require_eq_ok, first_eq_ok, last_eq_ok,
      pure_eq_ok, Prod.mk.injEq] at h
    obtain ⟨_, -, _, -, _, -, _, -, _, -, _, hinput, _, rfl, _, houtput, _, rfl, _, hrecipient, _, -,
      w₁, hpull, w₂, hreset, w₃, happrove, ⟨w₄, amounts⟩, hswap, w₅, hrevoke, _, hout, rfl, rfl⟩ := h
    rw [hrecipient] at hswap
    obtain ⟨hreset, hkept₁⟩ := safeApprove_effect hreset
    obtain ⟨happrove, hkept₂⟩ := safeApprove_effect happrove
    obtain ⟨hswap, hkept₃⟩ := swapExactTokensForTokens_effect hswap
    obtain ⟨hrevoke, hkept₄⟩ := safeApprove_effect hrevoke
    obtain ⟨hquiet₁, htokens₁⟩ := Chain.approve_effect hreset
    obtain ⟨hquiet₂, htokens₂⟩ := Chain.approve_effect happrove
    refine ⟨x, w₁, w₃.chain, w₄.chain, amounts, hx, hinput, houtput, hpull, hquiet₁.trans hquiet₂,
      ?_, hswap, hout, hrevoke, hkept₁.trans (hkept₂.trans (hkept₃.trans hkept₄))⟩
    rw [htokens₂, htokens₁, Ledger.approve_balanceOf, Ledger.approve_balanceOf]
  · cases h

/-! ## Burning and distributing -/

/-- A payment, and nothing else, has happened to the tokens. -/
structure Paid (token src dst : Address) (amount : Nat) (c c' : Chain) : Prop where
  enough : amount ≤ c.tokens.balanceOf token src
  tokens : c'.tokens = c.tokens.move token src dst amount

/-- Some tokens were burned, and nothing else has happened to the tokens. -/
structure Burned (token src : Address) (amount : Nat) (c c' : Chain) : Prop where
  enough : amount ≤ c.tokens.balanceOf token src
  tokens : c'.tokens = c.tokens.debit token src amount

theorem paid_of_transfer {token src dst : Address} {amount : Nat} {c c' : Chain}
    (h : c.transfer token src dst amount = some c') : Paid token src dst amount c c' := by
  obtain ⟨⟨henough, -⟩, rfl⟩ := Chain.transfer_eq_some.mp h
  exact ⟨henough, rfl⟩

theorem burned_of_burnTokens {token src : Address} {amount : Nat} {c c' : Chain}
    (h : c.burnTokens token src amount = some c') : Burned token src amount c c' := by
  obtain ⟨-, henough, rfl⟩ := Chain.burnTokens_eq_some.mp h
  exact ⟨henough, rfl⟩

/-- A share of nothing is not burned, which is to burn nothing. -/
theorem burnIfPositive_effect {treasury sender token : Address} {amount : Nat}
    (hhome : w.TreasuryAt treasury)
    (h : RevenueDistributor.ifPositive amount
      ((aroundDistributor receive).burnApprovedToken treasury sender token amount) w = .ok w') :
    Burned token treasury amount w.chain w'.chain ∧ OnlyTreasuries w w' := by
  unfold RevenueDistributor.ifPositive at h
  split at h
  · exact ⟨burned_of_burnTokens (burnApprovedToken_effect hhome h), burnApprovedToken_only h⟩
  · rename_i hzero
    obtain rfl := pure_eq_ok.mp h
    obtain rfl : amount = 0 := by omega
    exact ⟨⟨Nat.zero_le _, (Ledger.debit_zero _ _ _).symm⟩, .refl w⟩

theorem distributeIfPositive_effect {manager sender : Address} {amount : Nat} {m : MultiPoolManager}
    (hm : w.contractAt manager = some (.manager m)) (hhome : w.TreasuryAt m.treasury)
    (h : RevenueDistributor.ifPositive amount
      ((aroundDistributor receive).distributeRewards manager sender amount) w = .ok w') :
    ∃ m', w'.contractAt manager = some (.manager m') ∧
      Paid m.rewardToken m.treasury manager amount w.chain w'.chain ∧ m.Distributed amount m' := by
  unfold RevenueDistributor.ifPositive at h
  split at h
  · have hsame : ∀ n, w.contractAt manager = some (.manager n) → n = m := by
      intro n hn
      simpa [hm] using hn.symm
    obtain ⟨n, m', hn, hm', hpaid, hdistributed⟩ :=
      distributeRewards_effect (fun n hn => hsame n hn ▸ hhome) h
    obtain rfl := hsame n hn
    exact ⟨m', hm', paid_of_transfer hpaid, hdistributed⟩
  · rename_i hzero
    obtain rfl := pure_eq_ok.mp h
    obtain rfl : amount = 0 := by omega
    exact ⟨m, hm, ⟨Nat.zero_le _, (Ledger.move_zero _ _ _ _).symm⟩, .zero m⟩

/-- The burned share and the rest. -/
theorem burnAndDistribute_effect {x : RevenueDistributor} {m : MultiPoolManager}
    {amountOut burnedAmount distributedAmount : Nat}
    (hm : w.contractAt x.manager = some (.manager m)) (hhome : w.TreasuryAt m.treasury)
    (h : x.burnAndDistribute (aroundDistributor receive) m.treasury amountOut w =
      .ok (w', burnedAmount, distributedAmount)) :
    burnedAmount = amountOut * x.burnBps / 10000 ∧ burnedAmount + distributedAmount = amountOut ∧
      ∃ c₁ m', Burned x.rewardToken m.treasury burnedAmount w.chain c₁ ∧
        w'.contractAt x.manager = some (.manager m') ∧
        Paid m.rewardToken m.treasury x.manager distributedAmount c₁ w'.chain ∧
        m.Distributed distributedAmount m' := by
  simp only [RevenueDistributor.burnAndDistribute, bind_eq_ok, Uint256.mul_eq_ok,
    Uint256.sub_eq_ok, pure_eq_ok, Prod.mk.injEq] at h
  obtain ⟨_, ⟨-, rfl⟩, w₁, hburn, _, ⟨hle, rfl⟩, w₂, hdistribute, rfl, rfl, rfl⟩ := h
  obtain ⟨hburned, honly⟩ := burnIfPositive_effect hhome hburn
  obtain ⟨m', hm', hpaid, hdistributed⟩ := distributeIfPositive_effect
    (honly.others _ _ (by simp) hm) (honly.treasuryAt hhome) hdistribute
  exact ⟨rfl, Nat.add_sub_cancel' hle, w₁.chain, m', hburned, hm', hpaid, hdistributed⟩

/-! ## A round -/

/-- A contract of the pipeline is never a pair that a path goes through. -/
theorem Placed.not_mem_hopPairs (hplaced : w.Placed) (hlisted : FluxSwapRouter.Listed w.chain)
    {a : Address} {k : RevenueContract} (hk : w.contractAt a = some k) (path : List Address) :
    a ∉ FluxSwapRouter.hopPairs w.chain path := by
  induction path with
  | nil => simp [FluxSwapRouter.hopPairs]
  | cons input rest ih =>
    cases rest with
    | nil => simp [FluxSwapRouter.hopPairs]
    | cons output rest =>
      rw [FluxSwapRouter.hopPairs, List.mem_cons, not_or]
      refine ⟨?_, ih⟩
      rintro rfl
      have hexists : w.chain.getPair input output ≠ Address.zero := by
        intro hzero
        rw [hzero, hplaced.zero] at hk
        cases hk
      obtain ⟨p, hp⟩ := hlisted input output hexists
      have hnone := hplaced.pairs _ k hk
      rw [hp.storage] at hnone
      cases hnone

/-- Contracts of two kinds have two addresses. -/
theorem ne_of_contractAt {a b : Address} {k k' : RevenueContract} (ha : w.contractAt a = some k)
    (hb : w.contractAt b = some k') (hne : k ≠ k') : a ≠ b := by
  rintro rfl
  exact hne (Option.some.inj (ha.symm.trans hb))

/-- What a round does, from `c` to `c'`: the revenue share goes to the executor, the executor
    swaps it for the treasury, the burned share leaves the treasury and the rest goes to the
    manager, who distributes it. The pairs may pay protocol fees to the account that the
    factory names; it gets them in the reward token only if it is the treasury's own account
    and a pair was given reward tokens. -/
structure Round (x : RevenueDistributor) (e : BuybackExecutor) (m m' : MultiPoolManager)
    (spendToken : Address) (path : List Address) (revenueAmount amountOut : Nat)
    (c c₁ c₂ c₃ c' : Chain) : Prop where
  paid : Paid spendToken e.treasury e.self (revenueAmount * x.buybackBps / 10000) c c₁
  bought : FluxSwapRouter.Exchanged (FluxSwapRouter.hopPairs c path) spendToken x.rewardToken e.self
    e.treasury (revenueAmount * x.buybackBps / 10000) amountOut c₁ c₂
  received : e.treasury ≠ c.treasury ∨
      (x.rewardToken ∉ path.dropLast ∧ FluxSwapRouter.LastPairEven c path) →
    c₂.tokens.balanceOf x.rewardToken e.treasury =
      c₁.tokens.balanceOf x.rewardToken e.treasury + amountOut
  burned : Burned x.rewardToken e.treasury (amountOut * x.burnBps / 10000) c₂ c₃
  moved : Paid x.rewardToken e.treasury m.self (amountOut - amountOut * x.burnBps / 10000) c₃ c'
  distributed : m.Distributed (amountOut - amountOut * x.burnBps / 10000) m'
  kept : ∀ token a, a = x.self ∨ a = e.self → a ≠ c.treasury →
    c'.tokens.balanceOf token a = c.tokens.balanceOf token a
  revoked : c'.tokens.allowance spendToken e.self e.router = 0

/-- The swap of a round: what it exchanges, and what the treasury gets of the last token. -/
theorem bought_of_swap {c c₁ c₂ c₃ c₄ : Chain} {executor treasury router spendToken output : Address}
    {amountIn amountOutMin amountOut : Nat} {path : List Address} {amounts : List Nat}
    (hlisted : FluxSwapRouter.Listed c) (hpaid : Paid spendToken treasury executor amountIn c c₁)
    (hquiet : Chain.Quiet c c₁) (hquiet' : Chain.Quiet c₁ c₂)
    (hsame : c₂.tokens.balanceOf = c₁.tokens.balanceOf)
    (hinput : path.head? = some spendToken) (houtput : path.getLast? = some output)
    (htreasury : treasury ∉ FluxSwapRouter.hopPairs c path) (hne : treasury ≠ executor)
    (hswap : FluxSwapRouter.swapExactTokens router executor amountIn amountOutMin path treasury c₂ =
      .ok (c₃, amounts)) (hout : amounts.getLast? = some amountOut)
    (hquiet₃ : Chain.Quiet c₃ c₄) (hsame₃ : c₄.tokens.balanceOf = c₃.tokens.balanceOf) :
    FluxSwapRouter.Exchanged (FluxSwapRouter.hopPairs c path) spendToken output executor treasury
        amountIn amountOut c₁ c₄ ∧
      (treasury ≠ c.treasury ∨ (output ∉ path.dropLast ∧ FluxSwapRouter.LastPairEven c path) →
        c₄.tokens.balanceOf output treasury = c₁.tokens.balanceOf output treasury + amountOut) := by
  have hquiet₂ := hquiet.trans hquiet'
  have hlisted₂ := hlisted.congr hquiet₂.env.getPair hquiet₂.pairs
  have hpairs := FluxSwapRouter.hopPairs_congr hquiet₂.env.getPair path
  obtain ⟨input, last, y, hfirst, hlast, -, hy, -, hexchanged⟩ :=
    FluxSwapRouter.swapExactTokens_exchanges hlisted₂ hswap
  obtain rfl := Option.some.inj (hinput.symm.trans hfirst)
  obtain rfl := Option.some.inj (houtput.symm.trans hlast)
  obtain rfl := Option.some.inj (hout.symm.trans hy)
  rw [hpairs] at hexchanged
  obtain ⟨fees, hbalances⟩ := hexchanged.balances
  rw [hsame, hquiet'.env.treasury] at hbalances
  rw [hsame₃]
  refine ⟨⟨hquiet'.env.trans (hexchanged.env.trans hquiet₃.env), fees, hsame₃ ▸ hbalances⟩, ?_⟩
  -- the treasury is not paid any fees, or the last pair gets no reward tokens as input
  rintro (hother | ⟨honce, heven⟩)
  · have hreceived := hbalances output treasury htreasury
    rw [hquiet.env.treasury] at hreceived
    simpa [hne, hother] using hreceived
  · have hapart : output ≠ spendToken := by
      rintro rfl
      apply honce
      apply List.mem_of_head?
      rw [List.head?_dropLast, if_pos (FluxSwapRouter.swapExactTokens_long hswap), hinput]
    have heven₂ : FluxSwapRouter.LastPairEven c₂ path := by
      apply FluxSwapRouter.LastPairEven.congr houtput hquiet₂.env.getPair _ _ heven
      · intro a
        rw [hsame, hpaid.tokens, Ledger.balanceOf_move_of_token_ne _ _ _ _ _ hapart]
      · intro a
        rw [hquiet₂.pairs]
    obtain ⟨y, hy, hproceeds⟩ := FluxSwapRouter.swapExactTokens_proceeds hlisted₂ (hpairs ▸ htreasury)
      houtput honce heven₂ hswap
    obtain rfl := Option.some.inj (hout.symm.trans hy)
    rw [hproceeds treasury (hpairs ▸ htreasury), if_pos rfl, hsame]

/-- The two contracts in the middle keep nothing. -/
theorem kept_of_payments {c c₁ c₂ c₃ c' : Chain} {pairs : List Address}
    {a executor treasury manager spendToken output : Address} {amountIn amountOut burned rest : Nat}
    (hpaid : Paid spendToken treasury executor amountIn c c₁)
    (hbought : FluxSwapRouter.Exchanged pairs spendToken output executor treasury amountIn amountOut
      c₁ c₂)
    (hburned : Burned output treasury burned c₂ c₃) (hmoved : Paid output treasury manager rest c₃ c')
    (hpairs : a ∉ pairs) (htreasury : a ≠ treasury) (hmanager : a ≠ manager)
    (hfees : a ≠ c₁.treasury) (token : Address) :
    c'.tokens.balanceOf token a = c.tokens.balanceOf token a := by
  obtain ⟨fees, hbalances⟩ := hbought.balances
  have hswap := hbalances token a hpairs
  have hnotPaid : ¬(token = output ∧ a = treasury) := fun h => htreasury h.2
  rw [if_neg hfees, if_neg hnotPaid, hpaid.tokens,
    Ledger.balanceOf_move_of_ne_src _ _ _ _ _ htreasury] at hswap
  rw [hmoved.tokens, Ledger.balanceOf_move_of_ne _ _ _ _ _ htreasury hmanager, hburned.tokens,
    Ledger.balanceOf_debit_of_ne _ _ _ _ htreasury]
  omega

/-- Where the tokens of a round go. -/
theorem executeBuybackAndDistribute_round {distributor sender spendToken : Address}
    {revenueAmount amountOutMin amountOut deadline : Nat} {path : List Address}
    {x : RevenueDistributor} (hplaced : w.Placed) (hlisted : FluxSwapRouter.Listed w.chain)
    (hx : w.contractAt distributor = some (.distributor x))
    (hreward : rewardToken x.manager w = .ok x.rewardToken)
    (h : w.executeBuybackAndDistribute receive distributor sender spendToken revenueAmount
      amountOutMin path deadline = .ok (w', amountOut)) :
    ∃ e m m' c₁ c₂ c₃, w.contractAt x.buybackExecutor = some (.executor e) ∧
      w.contractAt x.manager = some (.manager m) ∧ w'.contractAt x.manager = some (.manager m') ∧
      m.treasury = e.treasury ∧
      Round x e m m' spendToken path revenueAmount amountOut w.chain c₁ c₂ c₃ w'.chain := by
  have hself : x.self = distributor := hplaced.home _ _ hx
  unfold executeBuybackAndDistribute at h
  rw [hx] at h
  simp only [RevenueDistributor.executeBuybackAndDistribute, RevenueDistributor.requireTreasuryMatch,
    bind_eq_ok, require_eq_ok, first_eq_ok, last_eq_ok, Uint256.mul_eq_ok, pure_eq_ok,
    Prod.mk.injEq] at h
  obtain ⟨_, -, _, -, _, -, _, -, _, -, _, hinput, _, rfl, _, houtput, _, rfl, treasury,
    ⟨_, hofManager, _, hofExecutor, _, rfl, rfl⟩, _, ⟨-, rfl⟩, _, -, ⟨w₂, _⟩, hbuyback,
    ⟨w₃, burned, rest⟩, hrest, rfl, rfl⟩ := h
  -- the contracts that have answered
  obtain ⟨m, hm, hmtreasury⟩ := managerTreasury_eq_ok hofManager
  obtain ⟨n, hn, hnreward⟩ := rewardToken_eq_ok hreward
  obtain rfl : m = n := by simpa [hm] using hn
  obtain ⟨e, w₁, c₁, c₂, amounts, he, -, -, hpull, hquiet, hsame, hswap, hout, hrevoke, honly⟩ :=
    executeBuyback_effect hbuyback
  obtain ⟨e₁, he₁, hetreasury⟩ := executorTreasury_eq_ok hofExecutor
  obtain rfl : e = e₁ := by simpa [he] using he₁
  subst hetreasury
  have hhome : w.TreasuryAt e.treasury := hplaced.treasuryAt hpull
  have heself : e.self = x.buybackExecutor := hplaced.home _ _ he
  have hmself : m.self = x.manager := hplaced.home _ _ hm
  obtain ⟨s, hs, -⟩ := hplaced.treasuryAt hpull
  -- the treasury pays the executor, which swaps and gives its approval up
  have hpulled := pullApprovedToken_effect hhome hpull
  have hpaid := paid_of_transfer hpulled
  have hquiet₁ : Chain.Quiet w.chain w₁.chain := by
    obtain ⟨-, hmoved⟩ := Chain.transfer_eq_some.mp hpulled
    rw [← hmoved]
    exact ⟨⟨rfl, rfl, rfl, rfl, rfl⟩, rfl⟩
  obtain ⟨hquiet₃, hrevoked⟩ := Chain.approve_effect hrevoke
  have hsame₃ : w₂.chain.tokens.balanceOf = c₂.tokens.balanceOf := by
    rw [hrevoked, Ledger.approve_balanceOf]
  obtain ⟨hbought, hreceived⟩ := bought_of_swap hlisted hpaid hquiet₁ hquiet hsame hinput houtput
    (hplaced.not_mem_hopPairs hlisted hs path) (heself ▸ ne_of_contractAt hs he (by simp)) hswap hout
    hquiet₃ hsame₃
  have honly₂ := (pullApprovedToken_only hpull).trans honly
  rw [← hmtreasury] at hrest
  -- what was bought is burned and distributed from the same treasury
  obtain ⟨rfl, hsum, c₃, m', hburned, hm', hmoved, hdistributed⟩ := burnAndDistribute_effect
    (honly₂.others _ _ (by simp) hm) (honly₂.treasuryAt (hmtreasury ▸ hhome)) hrest
  rw [Nat.eq_sub_of_add_eq' hsum] at hmoved hdistributed
  rw [hmtreasury] at hburned hmoved
  rw [hnreward, ← hmself] at hmoved
  refine ⟨e, m, m', w₁.chain, w₂.chain, c₃, he, hm, hm', hmtreasury, hpaid, hbought, hreceived,
    hburned, hmoved, hdistributed, ?_, ?_⟩
  · intro token a ha hfees
    rw [← hquiet₁.env.treasury] at hfees
    have hcontract : ∃ k, w.contractAt a = some k ∧ (∀ s, k ≠ .treasury s) ∧ ∀ m, k ≠ .manager m := by
      rcases ha with rfl | rfl
      · exact ⟨.distributor x, hself ▸ hx, by simp, by simp⟩
      · exact ⟨.executor e, heself ▸ he, by simp, by simp⟩
    obtain ⟨k, hk, hnotTreasury, hnotManager⟩ := hcontract
    exact kept_of_payments hpaid hbought hburned hmoved (hplaced.not_mem_hopPairs hlisted hk path)
      (ne_of_contractAt hk hs (hnotTreasury s)) (hmself ▸ ne_of_contractAt hk hm (hnotManager m))
      hfees token
  · rw [hmoved.tokens, hburned.tokens, Ledger.move_allowance, Ledger.debit_allowance, hrevoked]
    simp [Ledger.approve]

/-! ## The manager of a distributor -/

/-- No manager has got another reward token. -/
def RewardsKept (w w' : RevenueChain) : Prop :=
  ∀ a token, rewardToken a w = .ok token → rewardToken a w' = .ok token

theorem RewardsKept.trans {w'' : RevenueChain} (h : RewardsKept w w') (h' : RewardsKept w' w'') :
    RewardsKept w w'' :=
  fun a token htoken => h' a token (h a token htoken)

theorem OnlyTreasuries.rewardsKept (h : OnlyTreasuries w w') : RewardsKept w w' := by
  intro a token htoken
  obtain ⟨m, hm, hreward⟩ := rewardToken_eq_ok htoken
  have hm' := h.others a (.manager m) (fun _ => nofun) hm
  simp only [rewardToken, hm', hreward]

theorem rewardsKept_distributeRewards {manager sender : Address} {totalReward : Nat}
    (h : w.distributeRewards receive manager sender totalReward = .ok w') : RewardsKept w w' := by
  unfold distributeRewards at h
  split at h
  · rename_i m hm
    simp only [bind_eq_ok, pure_eq_ok] at h
    obtain ⟨m', hdistribute, w₁, hpull, rfl⟩ := h
    obtain ⟨_, _, _, rfl, -⟩ := (MultiPoolManager.distributeRewards_distributed hdistribute).credited
    have hkept := (pullApprovedToken_only hpull).rewardsKept
    intro a token htoken
    by_cases ha : a = manager
    · subst ha
      obtain ⟨n, hn, hreward⟩ := rewardToken_eq_ok htoken
      obtain rfl : m = n := by simpa [hm] using hn
      simp only [rewardToken, put, Function.update_self, hreward]
    · simp only [rewardToken, put, Function.update_of_ne ha]
      exact hkept a token htoken
  · cases h

theorem rewardsKept_ifPositive {amount : Nat} {pay : RevenueChain → Exec RevenueChain}
    (hpay : ∀ w', pay w = .ok w' → RewardsKept w w')
    (h : RevenueDistributor.ifPositive amount pay w = .ok w') : RewardsKept w w' := by
  unfold RevenueDistributor.ifPositive at h
  split at h
  · exact hpay w' h
  · obtain rfl := pure_eq_ok.mp h
    exact (OnlyTreasuries.refl w).rewardsKept

theorem rewardsKept_round {x : RevenueDistributor} {sender spendToken : Address}
    {revenueAmount amountOutMin amountOut deadline : Nat} {path : List Address}
    (h : x.executeBuybackAndDistribute (aroundDistributor receive) sender spendToken revenueAmount
      amountOutMin path deadline w = .ok (w', amountOut)) : RewardsKept w w' := by
  simp only [RevenueDistributor.executeBuybackAndDistribute, RevenueDistributor.burnAndDistribute,
    bind_eq_ok, pure_eq_ok, Prod.mk.injEq] at h
  obtain ⟨_, -, _, -, _, -, _, -, _, -, _, -, _, -, _, -, _, -, _, -, _, -, _, -, ⟨w₁, _⟩, hbuyback,
    ⟨w₄, _, _⟩, ⟨_, -, w₂, hburn, _, -, w₃, hdistribute, rfl, -⟩, rfl, -⟩ := h
  obtain ⟨e, w₀, c₁, c₂, amounts, -, -, -, hpull, -, -, -, -, -, honly⟩ := executeBuyback_effect hbuyback
  have hbought := ((pullApprovedToken_only hpull).trans honly).rewardsKept
  have hburned := rewardsKept_ifPositive
    (fun _ h => (burnApprovedToken_only h).rewardsKept) hburn
  have hdistributed := rewardsKept_ifPositive (fun _ h => rewardsKept_distributeRewards h) hdistribute
  exact hbought.trans (hburned.trans hdistributed)

theorem transfer_only {token src dst : Address} {amount : Nat}
    (h : w.transfer token src dst amount = .ok w') : OnlyTreasuries w w' := by
  unfold transfer at h
  split at h
  · cases h
    exact onlyTreasuries_chain _ _
  · cases h

/-- The reward token of a manager is immutable. -/
def OthersKeep (s : RevenueDistributor × RevenueChain) : RevenueDistributor.Op RevenueChain → Prop
  | .others w => RewardsKept s.2 w
  | _ => True

/-- Whatever is called, a distributor has a manager for its own reward token. -/
theorem rewardToken_of_run [Ownable] [AccessControl Role]
    {s : RevenueDistributor × RevenueChain}
    (h : (RevenueDistributor.system (aroundDistributor receive)).ReachableWith OthersKeep s) :
    rewardToken s.1.manager s.2 = .ok s.1.rewardToken := by
  refine System.ReachableWith.invariant
    (I := fun s => rewardToken s.1.manager s.2 = .ok s.1.rewardToken) ?_ ?_ h
  · intro s hs
    exact hs.rewardToken
  · rintro ⟨x, w⟩ op ⟨x', w'⟩ hreward hok hstep
    change RevenueDistributor.exec (aroundDistributor receive) (x, w) op = .ok (x', w') at hstep
    cases op with
    | administer op =>
      simp only [RevenueDistributor.exec, RevenueDistributor.administer, bind_eq_ok, pure_eq_ok,
        Prod.mk.injEq] at hstep
      obtain ⟨_, ⟨_, -, rfl⟩, rfl, rfl⟩ := hstep
      exact hreward
    | setBuybackExecutor sender newBuybackExecutor =>
      simp only [RevenueDistributor.exec, RevenueDistributor.setBuybackExecutor, bind_eq_ok,
        pure_eq_ok, Prod.mk.injEq] at hstep
      obtain ⟨_, ⟨_, -, _, -, _, -, _, -, _, -, _, -, _, -, _, -, rfl⟩, rfl, rfl⟩ := hstep
      exact hreward
    | setManager sender newManager =>
      simp only [RevenueDistributor.exec, RevenueDistributor.setManager, bind_eq_ok, require_eq_ok,
        pure_eq_ok, Prod.mk.injEq] at hstep
      obtain ⟨_, ⟨_, -, _, -, _, -, _, hnew, _, rfl, _, -, _, -, _, -, rfl⟩, rfl, rfl⟩ := hstep
      exact hnew
    | setRevenueConfiguration sender newBuybackBps newBurnBps =>
      simp only [RevenueDistributor.exec, RevenueDistributor.setRevenueConfiguration, bind_eq_ok,
        pure_eq_ok, Prod.mk.injEq] at hstep
      obtain ⟨_, ⟨_, -, _, -, _, -, rfl⟩, rfl, rfl⟩ := hstep
      exact hreward
    | pause sender =>
      simp only [RevenueDistributor.exec, RevenueDistributor.pause, bind_eq_ok, pure_eq_ok,
        Prod.mk.injEq] at hstep
      obtain ⟨_, ⟨_, -, _, -, rfl⟩, rfl, rfl⟩ := hstep
      exact hreward
    | unpause sender =>
      simp only [RevenueDistributor.exec, RevenueDistributor.unpause, bind_eq_ok, pure_eq_ok,
        Prod.mk.injEq] at hstep
      obtain ⟨_, ⟨_, -, _, -, rfl⟩, rfl, rfl⟩ := hstep
      exact hreward
    | executeBuybackAndDistribute sender spendToken revenueAmount amountOutMin path deadline =>
      simp only [RevenueDistributor.exec, bind_eq_ok, pure_eq_ok, Prod.mk.injEq] at hstep
      obtain ⟨⟨w₁, amountOut⟩, hround, rfl, rfl⟩ := hstep
      exact rewardsKept_round hround _ _ hreward
    | distributeTreasuryRewards sender amount =>
      simp only [RevenueDistributor.exec, RevenueDistributor.distributeTreasuryRewards, bind_eq_ok,
        pure_eq_ok, Prod.mk.injEq] at hstep
      obtain ⟨w₁, ⟨_, -, _, -, _, -, _, -, hdistribute⟩, rfl, rfl⟩ := hstep
      exact rewardsKept_distributeRewards hdistribute _ _ hreward
    | recoverToken sender token dst amount =>
      simp only [RevenueDistributor.exec, RevenueDistributor.recoverToken, bind_eq_ok, pure_eq_ok,
        Prod.mk.injEq] at hstep
      obtain ⟨w₁, ⟨_, -, _, -, _, -, htransfer⟩, rfl, rfl⟩ := hstep
      exact (transfer_only htransfer).rewardsKept _ _ hreward
    | others w₁ =>
      obtain ⟨rfl, rfl⟩ := Prod.mk.inj (pure_eq_ok.mp hstep)
      exact hok _ _ hreward

namespace Example

def vault : Address := 3
def flux : Address := 12
def revenue : Address := 30
def pair : Address := 20
def router : Address := 11
def buyer : Address := 40
def pools : Address := 41
def splitter : Address := 42
def owner : Address := 50
def operator : Address := 51

def access (operator : Address) : Access where
  owner := owner
  operator := operator
  hasRole := fun role a => role = .operator ∧ a = operator

/-- What the timelock has granted for the round. -/
def vaultStorage : Treasury Unit where
  self := vault
  multisig := owner
  operator := operator
  guardian := owner
  minDelay := 86400
  paused := false
  allowedTokens := fun _ => false
  allowedRecipients := fun _ => false
  dailySpendCap := fun _ => 0
  spentToday := fun _ => 0
  lastSpendDay := fun _ => 0
  approvedSpendRemaining := fun token spender =>
    if token = revenue ∧ spender = buyer then 10000
    else if token = flux ∧ spender = splitter then 9871
    else if token = flux ∧ spender = pools then 29615
    else 0
  operationReadyAt := fun _ => 0
  timestamp := 0
  assets := ()

def buyerStorage : BuybackExecutor where
  self := buyer
  router := router
  buyToken := flux
  access := access splitter
  treasury := vault
  defaultRecipient := vault
  paused := false

def noTokens : Tokens where
  balanceOf := fun _ _ => 0
  allowance := fun _ _ _ => 0
  refuses := fun _ _ => false

/-- One pool has all the weight. -/
def poolsStorage : MultiPoolManager where
  self := pools
  rewardToken := flux
  access := access splitter
  treasury := vault
  poolFactory := owner
  totalAllocPoint := 3
  accRewardPerAllocStored := 0
  totalPendingRewards := 0
  undistributedRewards := 0
  paused := false
  pools := [⟨60, 3, true, 0, 0⟩]
  poolExists := fun a => a = 60
  poolPidPlusOne := fun a => if a = 60 then 1 else 0
  tokens := noTokens

/-- Half of the revenue buys FLUX, a quarter of which is burned. -/
def splitterStorage : RevenueDistributor where
  self := splitter
  rewardToken := flux
  access := access operator
  buybackExecutor := buyer
  manager := pools
  buybackBps := 5000
  burnBps := 2500
  paused := false

def pairStorage : Pair where
  token0 := flux
  token1 := revenue
  reserve0 := 4000000
  reserve1 := 1000000
  blockTimestampLast := 90
  price0CumulativeLast := 0
  price1CumulativeLast := 0
  unlocked := 1
  totalSupply := 2000000
  nonces := fun _ => 0

/-- One pair, which holds a surplus of FLUX, and the account that gets the protocol fees. -/
def market (surplus : Nat) (feeTo : Address) : Chain where
  tokens := {
    balanceOf := fun t a =>
      if t = revenue ∧ a = vault then 20000
      else if t = revenue ∧ a = pair then 1000000
      else if t = flux ∧ a = pair then 4000000 + surplus
      else 0
    allowance := fun _ _ _ => 0
    refuses := fun _ a => a = Address.zero }
  eth := fun _ => 0
  timestamp := 100
  treasury := feeTo
  getPair := fun a b =>
    if (a = revenue ∧ b = flux) ∨ (a = flux ∧ b = revenue) then pair else Address.zero
  pairs := fun a => if a = pair then some pairStorage else none
  logs := []

def network (surplus : Nat) (feeTo : Address) : RevenueChain where
  chain := market surplus feeTo
  contractAt := fun a =>
    if a = vault then some (.treasury vaultStorage)
    else if a = router then some .router
    else if a = buyer then some (.executor buyerStorage)
    else if a = pools then some (.manager poolsStorage)
    else if a = splitter then some (.distributor splitterStorage)
    else none

theorem network_placed (surplus : Nat) (feeTo : Address) : (network surplus feeTo).Placed where
  zero := rfl
  home a k hk := by
    simp only [network] at hk
    split_ifs at hk <;> cases hk <;> simp_all [RevenueContract.LivesAt, vaultStorage, buyerStorage,
      poolsStorage, splitterStorage]
  pairs a k hk := by
    have hne : a ≠ pair := by
      rintro rfl
      revert hk
      simp [network, vault, router, buyer, pools, splitter, pair]
    exact if_neg hne

theorem market_listed (surplus : Nat) (feeTo : Address) :
    FluxSwapRouter.Listed (market surplus feeTo) := by
  intro a b hexists
  have htokens : (a = revenue ∧ b = flux) ∨ (a = flux ∧ b = revenue) := by
    by_contra hother
    exact hexists (if_neg hother)
  rcases htokens with ⟨rfl, rfl⟩ | ⟨rfl, rfl⟩
  · exact ⟨pairStorage, by simp [market], by decide⟩
  · exact ⟨pairStorage, by simp [market], by decide⟩

/-- Nobody runs code when it is sent ETH. -/
def accept : Receivers := fun _ _ _ c => pure c

/-- The operator has 20000 of revenue processed. -/
def round (surplus : Nat) (feeTo : Address) : Exec (RevenueChain × Nat) :=
  (network surplus feeTo).executeBuybackAndDistribute accept splitter operator revenue 20000 39000
    [revenue, flux] 1000

/-- What `f` reads from a round that succeeds. -/
theorem exists_of_summary {α : Type} {run : Exec (RevenueChain × Nat)} {amountOut : Nat}
    (f : RevenueChain → α) {value : α}
    (h : run.toOption.map (fun r => (r.2, f r.1)) = some (amountOut, value)) :
    ∃ w', run = .ok (w', amountOut) ∧ f w' = value := by
  cases hrun : run with
  | error r =>
    rw [hrun] at h
    cases h
  | ok r =>
    rw [hrun] at h
    simp only [Except.toOption, Option.map_some, Option.some.injEq, Prod.mk.injEq] at h
    obtain ⟨rfl, hvalue⟩ := h
    exact ⟨r.1, rfl, hvalue⟩

end Example

open Example in
theorem executeBuybackAndDistribute_round_even : ∃ w' e m m' c₁ c₂ c₃,
    round 0 vault = .ok (w', 39486) ∧
      Round splitterStorage e m m' revenue [revenue, flux] 20000 39486 (market 0 vault) c₁ c₂ c₃ w'.chain ∧
      c₂.tokens.balanceOf flux e.treasury = c₁.tokens.balanceOf flux e.treasury + 39486 := by
  have hsummary : (round 0 vault).toOption.map (fun r => (r.2, ())) = some (39486, ()) := by
    decide +kernel
  obtain ⟨w', hround, -⟩ := exists_of_summary (fun _ => ()) hsummary
  obtain ⟨e, m, m', c₁, c₂, c₃, -, -, -, -, haccount⟩ := executeBuybackAndDistribute_round
    (x := splitterStorage) (network_placed 0 vault) (market_listed 0 vault) rfl rfl hround
  refine ⟨w', e, m, m', c₁, c₂, c₃, hround, haccount, ?_⟩
  apply haccount.received
  right
  refine ⟨by decide, ?_⟩
  intro p hp
  obtain rfl : pairStorage = p := Option.some.inj hp
  decide

open Example in
/-- The pair holds 20000 FLUX beyond its reserve. They count as an input, so the treasury
    receives 10 FLUX as a fee besides the proceeds of the swap, and keeps them. An executor to
    whom the factory pays the fees would keep 5 of the tokens that it sold. -/
theorem treasury_receives_fee :
    (∃ w₂, (network 20000 vault).executeBuyback accept buyer splitter revenue 10000 39000 [revenue, flux]
        Address.zero 1000 = .ok (w₂, 39486) ∧
      w₂.chain.tokens.balanceOf flux vault ≠ (market 20000 vault).tokens.balanceOf flux vault + 39486) ∧
    (∃ w', round 20000 vault = .ok (w', 39486) ∧
      w'.chain.tokens.balanceOf flux vault ≠ (market 20000 vault).tokens.balanceOf flux vault) ∧
    ∃ w', round 0 buyer = .ok (w', 39486) ∧
      w'.chain.tokens.balanceOf revenue buyer ≠ (market 0 buyer).tokens.balanceOf revenue buyer := by
  refine ⟨?_, ?_, ?_⟩
  · have hsummary : ((network 20000 vault).executeBuyback accept buyer splitter revenue 10000 39000
        [revenue, flux] Address.zero 1000).toOption.map
          (fun r => (r.2, r.1.chain.tokens.balanceOf flux vault)) = some (39486, 39496) := by
      decide +kernel
    -- the swap that buys back pays a protocol fee to the same account
    obtain ⟨w₂, hbuyback, hreceived⟩ :=
      exists_of_summary (fun w => w.chain.tokens.balanceOf flux vault) hsummary
    refine ⟨w₂, hbuyback, ?_⟩
    rw [hreceived]
    decide
  · have hsummary : (round 20000 vault).toOption.map
          (fun r => (r.2, r.1.chain.tokens.balanceOf flux vault)) = some (39486, 10) := by
      decide +kernel
    obtain ⟨w', hround, hkept⟩ :=
      exists_of_summary (fun w => w.chain.tokens.balanceOf flux vault) hsummary
    refine ⟨w', hround, ?_⟩
    rw [hkept]
    decide
  · have hsummary : (round 0 buyer).toOption.map
          (fun r => (r.2, r.1.chain.tokens.balanceOf revenue buyer)) = some (39486, 5) := by
      decide +kernel
    obtain ⟨w', hround, hkept⟩ :=
      exists_of_summary (fun w => w.chain.tokens.balanceOf revenue buyer) hsummary
    refine ⟨w', hround, ?_⟩
    rw [hkept]
    decide

end RevenueChain
