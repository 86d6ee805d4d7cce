-- SUMMARY: The raw ranking after a failed gas ranking: exactly when it reports every route by its raw amount.
import FluxSwap.Backend.Optimum

/-!
# The fallback to raw quotes

When a quote for the cost of gas fails, the candidates before it have their costs already. The
ranking falls back to the raw amounts, but a view still shows the adjusted amount of every
candidate that has one. The quotes of one request may be answered at different times, so every
candidate is priced by a client of its own here.
-/

namespace Backend

open Text Selection

/-! ## The ranking with a client for every candidate -/

/-- The loop of `applyGasAdjustedRanking`, as in `addGasCosts`. -/
def addGasCostsOver (common : RouteCommon) (gasPrice : Int) (wethAddress : Text) :
    (Nat → RouterQuoteClient) → List RoutePath → List RoutePath × Option String
  | _, [] => ([], none)
  | clients, candidate :: rest =>
    match gasCosts common (clients 0) gasPrice wethAddress candidate.hops candidate.tokens with
    | .error error =>
      ({ candidate with gasEstimate := estimateRouteGas candidate.hops } :: rest, some error)
    | .ok costs =>
      let (rest, failure) :=
        addGasCostsOver common gasPrice wethAddress (fun n => clients (n + 1)) rest
      (candidate.withGasCosts costs :: rest, failure)

def applyGasAdjustedRankingOver (common : RouteCommon) (client : RouterQuoteClient)
    (clients : Nat → RouterQuoteClient) (quoteType : RouteQuoteType)
    (candidates : List RoutePath) : List RoutePath × Option String :=
  if candidates = [] then (candidates, none)
  else match gasTerms common client with
    | .error error => (candidates, some error)
    | .ok (gasPrice, wethAddress) =>
      match addGasCostsOver common gasPrice wethAddress clients candidates with
      | (candidates, some error) => (candidates, some error)
      | (candidates, none) => (sortGasAdjusted quoteType candidates, none)

/-- `GetBestRoute` from the quoted candidates on. -/
def rankCandidates (common : RouteCommon) (client : RouterQuoteClient)
    (clients : Nat → RouterQuoteClient) (tokens : RouteRequestTokens)
    (quoteType : RouteQuoteType) (candidates : List RoutePath) : GetBestRouteResponse :=
  match applyGasAdjustedRankingOver common client clients quoteType candidates with
  | (candidates, none) => selectFirst tokens quoteType true candidates
  | (candidates, some _) =>
    selectFirst tokens quoteType false (sortRawQuoteCandidates quoteType candidates)

section OneClient

variable {common : RouteCommon} {client : RouterQuoteClient}

theorem addGasCostsOver_const (gasPrice : Int) (wethAddress : Text)
    (candidates : List RoutePath) :
    addGasCostsOver common gasPrice wethAddress (fun _ => client) candidates =
      addGasCosts common client gasPrice wethAddress candidates := by
  induction candidates with
  | nil => rfl
  | cons candidate rest ih =>
    cases hcosts : gasCosts common client gasPrice wethAddress candidate.hops candidate.tokens with
    | _ => simp only [addGasCostsOver, addGasCosts, ih, hcosts]

theorem applyGasAdjustedRankingOver_const (quoteType : RouteQuoteType)
    (candidates : List RoutePath) :
    applyGasAdjustedRankingOver common client (fun _ => client) quoteType candidates =
      applyGasAdjustedRanking common client quoteType candidates := by
  unfold applyGasAdjustedRankingOver applyGasAdjustedRanking
  cases gasTerms common client with
  | error error => rfl
  | ok terms =>
    obtain ⟨gasPrice, wethAddress⟩ := terms
    cases hcosts : addGasCosts common client gasPrice wethAddress candidates with
    | mk ranked failure =>
      cases failure with
      | _ => simp only [addGasCostsOver_const, hcosts]

/-- With one client for all candidates this is what `GetBestRoute` does. -/
theorem selectRoute_eq_rankCandidates {tokens : RouteRequestTokens} {quoteType : RouteQuoteType}
    {amount : Int} {paths : List (List Text)}
    (hne : (paths.filterMap fun path =>
      (quotePath common client quoteType amount path).toOption) ≠ []) :
    selectRoute common client tokens quoteType amount paths =
      rankCandidates common client (fun _ => client) tokens quoteType
        (paths.filterMap fun path =>
          (quotePath common client quoteType amount path).toOption) := by
  cases hranked : applyGasAdjustedRanking common client quoteType
    (paths.filterMap fun path => (quotePath common client quoteType amount path).toOption) with
  | mk ranked failure =>
    cases failure with
    | _ =>
      simp only [selectRoute, rankCandidates, applyGasAdjustedRankingOver_const, if_neg hne,
        hranked]

end OneClient

/-! ## Ranking by raw amounts -/

/-- All views of a response, the selected route first. -/
def GetBestRouteResponse.routes (response : GetBestRouteResponse) : List RouteView :=
  response.selectedRoute.toList ++ response.alternativeRoutes

/-- The amount that the quote is about. -/
def RouteView.rawAmount (view : RouteView) : RouteQuoteType → Text
  | .exactOutput => view.amountIn
  | _ => view.amountOut

/-- A smaller input or a larger output. -/
def NoWorse (quoteType : RouteQuoteType) (a b : Int) : Prop :=
  match quoteType with
  | .exactOutput => a ≤ b
  | _ => b ≤ a

/-- Every route is reported by its raw amount, and the reported amounts are in order. -/
structure RanksByRaw (quoteType : RouteQuoteType) (response : GetBestRouteResponse) : Prop where
  metric : ∀ view ∈ response.routes, view.rankingMetric = view.rawAmount quoteType
  sorted : response.routes.Pairwise fun view view' =>
    NoWorse quoteType (mustBigInt view.rankingMetric) (mustBigInt view'.rankingMetric)

/-- The costs of the candidates before the first one whose quotes fail. -/
def costsBefore (common : RouteCommon) (gasPrice : Int) (wethAddress : Text) :
    (Nat → RouterQuoteClient) → List RoutePath → List (Int × Int)
  | _, [] => []
  | clients, candidate :: rest =>
    match gasCosts common (clients 0) gasPrice wethAddress candidate.hops candidate.tokens with
    | .error _ => []
    | .ok costs => costs :: costsBefore common gasPrice wethAddress (fun n => clients (n + 1)) rest

/-- The cost in the token that the routes are ranked by. -/
def rankedCost (quoteType : RouteQuoteType) (costs : Int × Int) : Int :=
  match quoteType with
  | .exactOutput => costs.1
  | _ => costs.2

/-- Without a gas price no candidate gets a cost; otherwise every cost that is found before a
    quote fails is zero. -/
def LeavesNoCost (common : RouteCommon) (client : RouterQuoteClient)
    (clients : Nat → RouterQuoteClient) (quoteType : RouteQuoteType)
    (candidates : List RoutePath) : Prop :=
  ∀ gasPrice wethAddress, gasTerms common client = .ok (gasPrice, wethAddress) →
    ∀ costs ∈ costsBefore common gasPrice wethAddress clients candidates,
      rankedCost quoteType costs = 0

/-! ## The candidates after a failure -/

section Failure

variable {common : RouteCommon} {client : RouterQuoteClient} {clients : Nat → RouterQuoteClient}
  {gasPrice : Int} {wethAddress : Text} {quoteType : RouteQuoteType}
  {candidates left : List RoutePath} {error : String}

/-- The candidate has no costs, with or without an estimate. -/
def Unpriced (candidate result : RoutePath) : Prop :=
  result = candidate ∨ result = { candidate with gasEstimate := estimateRouteGas candidate.hops }

/-- What the loop leaves of a list of candidates: each of them without costs, or with costs
    that were found before the failure. -/
structure Leaves (costs : List (Int × Int)) (candidates left : List RoutePath) : Prop where
  origin : ∀ result ∈ left, ∃ candidate ∈ candidates,
    Unpriced candidate result ∨ ∃ cost ∈ costs, result = candidate.withGasCosts cost
  priced : ∀ cost ∈ costs, ∃ candidate ∈ candidates, candidate.withGasCosts cost ∈ left

theorem Leaves.refl (candidates : List RoutePath) : Leaves [] candidates candidates :=
  ⟨fun result hresult => ⟨result, hresult, .inl (.inl rfl)⟩, nofun⟩

theorem Leaves.cons {costs : List (Int × Int)} (h : Leaves costs candidates left)
    (candidate : RoutePath) (cost : Int × Int) :
    Leaves (cost :: costs) (candidate :: candidates) (candidate.withGasCosts cost :: left) := by
  constructor
  · intro result hresult
    rcases List.mem_cons.mp hresult with rfl | hresult
    · exact ⟨candidate, List.mem_cons_self, .inr ⟨cost, List.mem_cons_self, rfl⟩⟩
    · obtain ⟨c, hc, horigin⟩ := h.origin result hresult
      refine ⟨c, List.mem_cons_of_mem _ hc, horigin.imp_right ?_⟩
      exact fun ⟨cost', hcost', heq⟩ => ⟨cost', List.mem_cons_of_mem _ hcost', heq⟩
  · intro cost' hcost'
    rcases List.mem_cons.mp hcost' with rfl | hcost'
    · exact ⟨candidate, List.mem_cons_self, List.mem_cons_self⟩
    · obtain ⟨c, hc, hleft⟩ := h.priced cost' hcost'
      exact ⟨c, List.mem_cons_of_mem _ hc, List.mem_cons_of_mem _ hleft⟩

theorem addGasCostsOver_leaves
    (h : addGasCostsOver common gasPrice wethAddress clients candidates = (left, some error)) :
    Leaves (costsBefore common gasPrice wethAddress clients candidates) candidates left := by
  induction candidates generalizing clients left with
  | nil => cases h
  | cons candidate rest ih =>
    unfold addGasCostsOver at h
    unfold costsBefore
    split at h
    · obtain ⟨rfl, -⟩ := Prod.mk.inj h
      refine ⟨?_, nofun⟩
      intro result hresult
      rcases List.mem_cons.mp hresult with rfl | hresult
      · exact ⟨candidate, List.mem_cons_self, .inl (.inr rfl)⟩
      · exact ⟨result, List.mem_cons_of_mem _ hresult, .inl (.inl rfl)⟩
    · rename_i costs hcosts
      obtain ⟨rfl, hfailure⟩ := Prod.mk.inj h
      exact (ih (Prod.ext rfl hfailure)).cons candidate costs

/-- A ranking that fails without a gas price leaves the candidates as they are; later the ones
    before the failure have their costs. -/
theorem applyGasAdjustedRankingOver_leaves
    (h : applyGasAdjustedRankingOver common client clients quoteType candidates =
      (left, some error)) :
    ∃ costs, Leaves costs candidates left ∧
      ((∀ cost ∈ costs, rankedCost quoteType cost = 0) ↔
        LeavesNoCost common client clients quoteType candidates) := by
  unfold applyGasAdjustedRankingOver at h
  split at h
  · cases (Prod.mk.inj h).2
  split at h
  · rename_i hterms
    obtain ⟨rfl, -⟩ := Prod.mk.inj h
    refine ⟨[], .refl candidates, fun _ gasPrice wethAddress hok => ?_, fun _ => nofun⟩
    cases hterms.symm.trans hok
  · rename_i gasPrice wethAddress hterms
    split at h
    · rename_i failed failure hfailed
      obtain ⟨rfl, -⟩ := Prod.mk.inj h
      refine ⟨_, addGasCostsOver_leaves hfailed, ?_, fun hzero => hzero gasPrice wethAddress hterms⟩
      intro hzero gasPrice' wethAddress' hok
      obtain ⟨rfl, rfl⟩ := Prod.mk.inj (Except.ok.inj (hterms.symm.trans hok))
      exact hzero
    · cases (Prod.mk.inj h).2

end Failure

/-! ## The reported amounts -/

section Reported

variable {common : RouteCommon} {quoteType : RouteQuoteType} {candidate result : RoutePath}

/-- The candidate is the answer to a quote. -/
def Quoted (common : RouteCommon) (quoteType : RouteQuoteType) (candidate : RoutePath) : Prop :=
  ∃ client amount path, quotePath common client quoteType amount path = .ok candidate

/-- The amount of a candidate that its quote is about. -/
def RoutePath.rawAmount (candidate : RoutePath) : RouteQuoteType → Text
  | .exactOutput => candidate.amountIn
  | _ => candidate.amountOut

theorem quotedEnds_pos {n : Nat} {wrongLength notPositive : String} {about : Int × Int → Int}
    {amounts : List (Option Int)} {ends : Int × Int}
    (h : quotedEnds n wrongLength notPositive about amounts = .ok ends) : 0 < about ends := by
  unfold quotedEnds at h
  split at h
  · cases h
  split at h
  · split at h
    · cases h
    · rename_i hpos
      obtain rfl := Except.ok.inj h
      exact not_le.mp hpos
  · cases h

/-- A quoted candidate has no adjusted amounts yet, and the amount of the quote is positive. -/
theorem Quoted.shape (h : Quoted common quoteType candidate) :
    candidate.gasAdjustedAmountIn = [] ∧ candidate.gasAdjustedAmountOut = [] ∧
      ∃ n : Int, 0 < n ∧ candidate.rawAmount quoteType = formatInt n := by
  obtain ⟨client, amount, path, h⟩ := h
  unfold quotePath at h
  obtain ⟨amounts, hamounts, h⟩ := except_bind_eq_ok.mp h
  cases h
  refine ⟨rfl, rfl, ?_⟩
  unfold quoteAmounts at hamounts
  cases quoteType with
  | exactInput =>
    obtain ⟨_, -, hends⟩ := except_bind_eq_ok.mp hamounts
    exact ⟨amounts.2, quotedEnds_pos hends, rfl⟩
  | exactOutput =>
    obtain ⟨_, -, hends⟩ := except_bind_eq_ok.mp hamounts
    exact ⟨amounts.1, quotedEnds_pos hends, rfl⟩
  | unspecified | other => cases hamounts

/-- A candidate without costs is reported by its raw amount. -/
theorem Unpriced.rankingMetric (hquoted : Quoted common quoteType candidate)
    (h : Unpriced candidate result) :
    rankingMetric result quoteType = result.rawAmount quoteType := by
  obtain ⟨hin, hout, -⟩ := hquoted.shape
  have hblank : trimSpace [] = [] := rfl
  rcases h with rfl | rfl <;> cases quoteType <;>
    simp only [Backend.rankingMetric, RoutePath.rawAmount, hin, hout, hblank, if_true]

/-- A candidate with costs is reported by its raw amount exactly if the cost is zero. -/
theorem rankingMetric_withGasCosts (hquoted : Quoted common quoteType candidate)
    (costs : Int × Int) :
    rankingMetric (candidate.withGasCosts costs) quoteType =
        (candidate.withGasCosts costs).rawAmount quoteType ↔
      rankedCost quoteType costs = 0 := by
  obtain ⟨-, -, n, hpos, hraw⟩ := hquoted.shape
  have hshown : ∀ m : Int, trimSpace (formatInt m) ≠ [] := fun m => by
    rw [trimSpace_formatInt]
    exact formatInt_ne_nil m
  have hinj : ∀ m : Int, formatInt m = formatInt n ↔ m = n := fun m =>
    ⟨fun heq => by rw [← mustBigInt_formatInt m, heq, mustBigInt_formatInt], fun heq => by rw [heq]⟩
  cases quoteType with
  | exactOutput =>
    change candidate.amountIn = formatInt n at hraw
    simp only [rankingMetric, RoutePath.withGasCosts, RoutePath.rawAmount, if_neg (hshown _), hraw,
      mustBigInt_formatInt, hinj, rankedCost]
    omega
  | exactInput | unspecified | other =>
    change candidate.amountOut = formatInt n at hraw
    simp only [rankingMetric, RoutePath.withGasCosts, RoutePath.rawAmount, if_neg (hshown _), hraw,
      mustBigInt_formatInt, hinj, rankedCost]
    omega

end Reported

/-! ## The raw order -/

theorem mem_sortRawQuoteCandidates {quoteType : RouteQuoteType} {candidates : List RoutePath}
    {candidate : RoutePath} :
    candidate ∈ sortRawQuoteCandidates quoteType candidates ↔ candidate ∈ candidates := by
  cases quoteType with
  | _ => exact mem_stableSort

/-- A comparator that looks at an amount twice is the one that looks at it once. -/
theorem lessBy_twice (less : Int → Int → Bool) (a b : Int) (m n : Nat) :
    lessBy less [(a, b)] m n = lessBy less [(a, b), (a, b)] m n := by
  by_cases h : a = b
  · simp [lessBy, h]
  · simp [lessBy, h]

/-- Sorted by a comparator of one amount and the hops, the amounts are in order. -/
theorem pairwise_sort_lessBy {less : Int → Int → Bool} {key : Int → Int}
    (amount : RoutePath → Int) (hless : ∀ a b, less a b = true ↔ key a < key b)
    (hkey : ∀ a b, key a = key b → a = b) (candidates : List RoutePath) :
    (stableSort (fun left right =>
      lessBy less [(amount left, amount right)] left.hops right.hops) candidates).Pairwise
        fun left right => key (amount left) ≤ key (amount right) := by
  simp only [lessBy_twice]
  refine (pairwise_stableSort (fun left right => lessBy_iff hless hkey _ _ _ _ left.hops right.hops)
    candidates).imp ?_
  intro left right hle
  rcases Prod.Lex.toLex_le_toLex.mp hle with hlt | ⟨heq, -⟩
  · exact hlt.le
  · exact heq.le

theorem pairwise_sortRawQuoteCandidates (quoteType : RouteQuoteType)
    (candidates : List RoutePath) :
    (sortRawQuoteCandidates quoteType candidates).Pairwise fun left right =>
      NoWorse quoteType (mustBigInt (left.rawAmount quoteType))
        (mustBigInt (right.rawAmount quoteType)) := by
  have hmore : ∀ a b, moreAmount a b = true ↔ -a < -b := fun a b => by
    rw [moreAmount, decide_eq_true_eq, neg_lt_neg_iff]
  cases quoteType with
  | exactOutput =>
    have hless : ∀ a b, lessAmount a b = true ↔ id a < id b := fun a b => decide_eq_true_iff
    exact pairwise_sort_lessBy (fun candidate => mustBigInt candidate.amountIn) hless
      (fun _ _ heq => heq) candidates
  | exactInput | unspecified | other =>
    have hsorted := pairwise_sort_lessBy (fun candidate => mustBigInt candidate.amountOut)
      hmore (fun _ _ => neg_inj.mp) candidates
    exact hsorted.imp neg_le_neg_iff.mp

/-! ## The fallback -/

theorem selectFirst_routes (tokens : RouteRequestTokens) (quoteType : RouteQuoteType)
    (usedGasAdjustedRanking : Bool) (candidates : List RoutePath) :
    (selectFirst tokens quoteType usedGasAdjustedRanking candidates).routes =
      candidates.map (buildRouteView tokens quoteType) := by
  cases candidates with
  | nil => rfl
  | cons candidate rest => rfl

theorem buildRouteView_rawAmount (tokens : RouteRequestTokens) (quoteType : RouteQuoteType)
    (candidate : RoutePath) :
    (buildRouteView tokens quoteType candidate).rawAmount quoteType =
      candidate.rawAmount quoteType := by
  cases quoteType with
  | _ => rfl

/-- Sorted by raw amounts, the response ranks by them if it reports them. -/
theorem ranksByRaw_selectFirst (tokens : RouteRequestTokens) (quoteType : RouteQuoteType)
    (candidates : List RoutePath) :
    RanksByRaw quoteType (selectFirst tokens quoteType false
        (sortRawQuoteCandidates quoteType candidates)) ↔
      ∀ candidate ∈ candidates,
        rankingMetric candidate quoteType = candidate.rawAmount quoteType := by
  constructor
  · intro h candidate hcandidate
    have hview := h.metric (buildRouteView tokens quoteType candidate) (by
      rw [selectFirst_routes]
      exact List.mem_map_of_mem (mem_sortRawQuoteCandidates.mpr hcandidate))
    rwa [buildRouteView_rawAmount] at hview
  · intro h
    constructor
    · rw [selectFirst_routes]
      intro view hview
      obtain ⟨candidate, hcandidate, rfl⟩ := List.mem_map.mp hview
      rw [buildRouteView_rawAmount]
      exact h candidate (mem_sortRawQuoteCandidates.mp hcandidate)
    · rw [selectFirst_routes, List.pairwise_map]
      refine (pairwise_sortRawQuoteCandidates quoteType candidates).imp_of_mem ?_
      intro left right hleft hright hle
      show NoWorse quoteType (mustBigInt (rankingMetric left quoteType))
        (mustBigInt (rankingMetric right quoteType))
      rwa [h left (mem_sortRawQuoteCandidates.mp hleft),
        h right (mem_sortRawQuoteCandidates.mp hright)]

/-- A gas ranking of quoted candidates that fails, at any of their quotes, leaves a response that
    ranks and reports by raw amounts exactly if it found no cost before. -/
theorem fallback_ranksByRaw_iff {common : RouteCommon} {client : RouterQuoteClient}
    {clients : Nat → RouterQuoteClient} {tokens : RouteRequestTokens} {quoteType : RouteQuoteType}
    {candidates : List RoutePath}
    (hquoted : ∀ candidate ∈ candidates, Quoted common quoteType candidate)
    (hfails : (applyGasAdjustedRankingOver common client clients quoteType candidates).2 ≠ none) :
    RanksByRaw quoteType (rankCandidates common client clients tokens quoteType candidates) ↔
      LeavesNoCost common client clients quoteType candidates := by
  cases hrank : applyGasAdjustedRankingOver common client clients quoteType candidates with
  | mk left failure =>
    rw [hrank] at hfails
    obtain ⟨error, rfl⟩ := Option.ne_none_iff_exists'.mp hfails
    obtain ⟨costs, hleaves, hcosts⟩ := applyGasAdjustedRankingOver_leaves hrank
    simp only [rankCandidates, hrank]
    rw [ranksByRaw_selectFirst, ← hcosts]
    constructor
    · intro h cost hcost
      obtain ⟨candidate, hcandidate, hleft⟩ := hleaves.priced cost hcost
      exact (rankingMetric_withGasCosts (hquoted candidate hcandidate) cost).mp (h _ hleft)
    · intro h result hresult
      obtain ⟨candidate, hcandidate, hunpriced | ⟨cost, hcost, rfl⟩⟩ := hleaves.origin result hresult
      · exact hunpriced.rankingMetric (hquoted candidate hcandidate)
      · exact (rankingMetric_withGasCosts (hquoted candidate hcandidate) cost).mpr (h cost hcost)

/-! ## A pool too small for the gas of a detour -/

namespace FallbackExample

open RouteExample

/-- The pool with WETH answers for the gas of a direct path only. -/
def shallow : RouterQuoteClient where
  getAmountsOut amount path :=
    if path.length = 2 then .ok [some amount, some 1010]
    else .ok [some amount, some amount, some 1000]
  getAmountsIn amount _ :=
    if amount ≤ 150000 then .ok [some 140, some amount]
    else .error "FluxSwapRouter: INSUFFICIENT_LIQUIDITY"
  suggestGasPrice := .ok (some 1)
  wethAddress := 9

def direct : RoutePath where
  tokens := [token '1' '1', token '2' '2']
  hops := 0
  amountIn := formatInt 10
  amountOut := formatInt 1010
  gasEstimate := 0
  gasCostInInputToken := []
  gasCostInOutputToken := []
  gasAdjustedAmountIn := []
  gasAdjustedAmountOut := []

def detour : RoutePath :=
  { direct with
    tokens := [token '1' '1', token '3' '3', token '2' '2']
    hops := 1
    amountOut := formatInt 1000 }

def tokens : RouteRequestTokens where
  requestedTokenIn := token '1' '1'
  requestedTokenOut := token '2' '2'
  executionTokenIn := token '1' '1'
  executionTokenOut := token '2' '2'
  nativeTokenIn := false
  nativeTokenOut := false

end FallbackExample

open RouteExample FallbackExample in
/-- A gas price that is missing leaves nothing. -/
theorem fallback_ranksByRaw_iff_noGasPrice :
    RanksByRaw .exactInput (rankCandidates common
      { shallow with suggestGasPrice := .ok none } (fun _ => shallow) FallbackExample.tokens
      .exactInput [direct]) := by
  refine (fallback_ranksByRaw_iff ?_ ?_).mpr ?_
  · intro candidate hcandidate
    obtain rfl := List.mem_singleton.mp hcandidate
    exact ⟨shallow, 10, [token '1' '1', token '2' '2'], rfl⟩
  · nofun
  · intro gasPrice wethAddress hterms
    cases hterms

open RouteExample FallbackExample in
/-- The direct path is reported by 870, its amount after gas, and listed above a detour of 1000. -/
theorem not_ranksByRaw_shallow : ¬ ∀ (common : RouteCommon) (client : RouterQuoteClient)
    (tokens : RouteRequestTokens) (quoteType : RouteQuoteType) (amount : Int)
    (paths : List (List Text)),
    (selectRoute common client tokens quoteType amount paths).usedGasAdjustedRanking = false →
    RanksByRaw quoteType (selectRoute common client tokens quoteType amount paths) := by
  intro h
  have hresponse : selectRoute common shallow FallbackExample.tokens .exactInput 10
      [direct.tokens, detour.tokens] = selectFirst FallbackExample.tokens .exactInput false
        (sortRawQuoteCandidates .exactInput
          [direct.withGasCosts (140, 140), { detour with gasEstimate := 190000 }]) := by
    rfl
  have hranks := h common shallow FallbackExample.tokens .exactInput 10
    [direct.tokens, detour.tokens] (by rw [hresponse]; rfl)
  rw [hresponse, ranksByRaw_selectFirst] at hranks
  exact absurd (hranks _ List.mem_cons_self) (by decide)

end Backend
