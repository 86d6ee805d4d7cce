-- SUMMARY: The route that GetBestRoute selects after gas is the best of all candidates that can be quoted.
import FluxSwap.Backend.BestRoute
import Mathlib.Data.Prod.Lex

/-!
# The best route

A candidate is worth three numbers: its amount after gas, its amount before gas and its
hops. The two comparators of `applyGasAdjustedRanking` compare them one after the other, so
the selected route is the best in this order.
-/

namespace Backend

open Text Selection

/-! ## What a route is worth -/

structure RouteValue where
  adjusted : Int
  raw      : Int
  hops     : Nat

/-- The value of a path with these amounts and costs of gas: inputs for an exact output,
    outputs otherwise. -/
def routeValue (quoteType : RouteQuoteType) (amounts costs : Int × Int) (hops : Nat) :
    RouteValue :=
  match quoteType with
  | .exactOutput => ⟨amounts.1 + costs.1, amounts.1, hops⟩
  | _ => ⟨max 0 (amounts.2 - costs.2), amounts.2, hops⟩

/-- The first value is no worse: a smaller input or a larger output after gas, then before
    gas, then fewer hops. -/
def RouteValue.AtLeast (quoteType : RouteQuoteType) (v w : RouteValue) : Prop :=
  match quoteType with
  | .exactOutput => v.adjusted < w.adjusted ∨ v.adjusted = w.adjusted ∧
      (v.raw < w.raw ∨ v.raw = w.raw ∧ v.hops ≤ w.hops)
  | _ => w.adjusted < v.adjusted ∨ v.adjusted = w.adjusted ∧
      (w.raw < v.raw ∨ v.raw = w.raw ∧ v.hops ≤ w.hops)

/-- What a path that can be quoted is worth. -/
def Worth (common : RouteCommon) (client : RouterQuoteClient) (quoteType : RouteQuoteType)
    (amount : Int) (path : List Text) (v : RouteValue) : Prop :=
  ∃ gasPrice wethAddress amounts costs,
    gasTerms common client = .ok (gasPrice, wethAddress) ∧
    quoteAmounts common client quoteType amount path = .ok amounts ∧
    gasCosts common client gasPrice wethAddress (path.length - 2) path = .ok costs ∧
    v = routeValue quoteType amounts costs (path.length - 2)

/-- The value as the comparators see it: the least comes first. -/
def RouteValue.rank (quoteType : RouteQuoteType) (v : RouteValue) : Int ×ₗ Int ×ₗ Nat :=
  match quoteType with
  | .exactOutput => toLex (v.adjusted, toLex (v.raw, v.hops))
  | _ => toLex (-v.adjusted, toLex (-v.raw, v.hops))

theorem RouteValue.rank_le_iff {quoteType : RouteQuoteType} {v w : RouteValue} :
    v.rank quoteType ≤ w.rank quoteType ↔ v.AtLeast quoteType w := by
  cases quoteType with
  | exactOutput => simp only [rank, AtLeast, Prod.Lex.toLex_le_toLex]
  | exactInput | unspecified | other =>
    simp only [rank, AtLeast, Prod.Lex.toLex_le_toLex, neg_lt_neg_iff, neg_inj]

/-! ## The comparators -/

theorem mustBigInt_formatInt (n : Int) : mustBigInt (formatInt n) = n := by
  rw [mustBigInt, trimSpace_formatInt, parseInt_formatInt, Option.getD_some]

/-- The value of a candidate that its texts denote. -/
def RoutePath.value (quoteType : RouteQuoteType) (candidate : RoutePath) : RouteValue :=
  match quoteType with
  | .exactOutput =>
    ⟨mustBigInt candidate.gasAdjustedAmountIn, mustBigInt candidate.amountIn, candidate.hops⟩
  | _ =>
    ⟨mustBigInt candidate.gasAdjustedAmountOut, mustBigInt candidate.amountOut, candidate.hops⟩

/-- A comparator of two amounts and the hops is the lexicographic order. -/
theorem lessBy_iff {less : Int → Int → Bool} {key : Int → Int}
    (hless : ∀ a b, less a b = true ↔ key a < key b) (hkey : ∀ a b, key a = key b → a = b)
    (a b a' b' : Int) (m n : Nat) :
    lessBy less [(a, b), (a', b')] m n = true ↔
      toLex (key a, toLex (key a', m)) < toLex (key b, toLex (key b', n)) := by
  simp only [Prod.Lex.toLex_lt_toLex, lessBy]
  by_cases hfirst : a = b
  · subst hfirst
    by_cases hsecond : a' = b'
    · subst hsecond
      simp
    · have hne : key a' ≠ key b' := fun h => hsecond (hkey _ _ h)
      simp [hsecond, hless, hne]
  · have hne : key a ≠ key b := fun h => hfirst (hkey _ _ h)
    simp [hfirst, hless, hne]

/-- The first candidate after the sort has the best value. -/
theorem head_sortGasAdjusted {quoteType : RouteQuoteType} {candidates : List RoutePath}
    {selected : RoutePath} (h : (sortGasAdjusted quoteType candidates).head? = some selected) :
    selected ∈ candidates ∧ ∀ candidate ∈ candidates,
      (selected.value quoteType).AtLeast quoteType (candidate.value quoteType) := by
  simp only [← RouteValue.rank_le_iff]
  have hmore : ∀ a b, moreAmount a b = true ↔ -a < -b := fun a b => by
    rw [moreAmount, decide_eq_true_eq, neg_lt_neg_iff]
  have hinput : ∀ left right : RoutePath, lessBy lessAmount
      [(mustBigInt left.gasAdjustedAmountIn, mustBigInt right.gasAdjustedAmountIn),
        (mustBigInt left.amountIn, mustBigInt right.amountIn)] left.hops right.hops = true ↔
      (left.value .exactOutput).rank .exactOutput <
        (right.value .exactOutput).rank .exactOutput :=
    fun left right => lessBy_iff (fun _ _ => decide_eq_true_iff) (fun _ _ heq => heq) _ _ _ _ _ _
  have houtput : ∀ left right : RoutePath, lessBy moreAmount
      [(mustBigInt left.gasAdjustedAmountOut, mustBigInt right.gasAdjustedAmountOut),
        (mustBigInt left.amountOut, mustBigInt right.amountOut)] left.hops right.hops = true ↔
      (left.value .exactInput).rank .exactInput < (right.value .exactInput).rank .exactInput :=
    fun left right => lessBy_iff hmore (fun _ _ => neg_inj.mp) _ _ _ _ _ _
  cases quoteType with
  | exactOutput => exact head_stableSort hinput h
  | exactInput | unspecified | other => exact head_stableSort houtput h

/-! ## The loop over the candidates -/

section Loop

variable {common : RouteCommon} {client : RouterQuoteClient} {quoteType : RouteQuoteType}
  {amount gasPrice : Int} {wethAddress : Text}

/-- The second candidate is the first one with its costs. -/
def Priced (common : RouteCommon) (client : RouterQuoteClient) (gasPrice : Int)
    (wethAddress : Text) (candidate result : RoutePath) : Prop :=
  ∃ costs, gasCosts common client gasPrice wethAddress candidate.hops candidate.tokens =
    .ok costs ∧ result = candidate.withGasCosts costs

/-- Without an error every candidate gets its costs. -/
theorem addGasCosts_eq {candidates results : List RoutePath}
    (h : addGasCosts common client gasPrice wethAddress candidates = (results, none)) :
    (∀ candidate ∈ candidates, ∃ result ∈ results,
      Priced common client gasPrice wethAddress candidate result) ∧
    ∀ result ∈ results, ∃ candidate ∈ candidates,
      Priced common client gasPrice wethAddress candidate result := by
  induction candidates generalizing results with
  | nil =>
    obtain ⟨rfl, -⟩ := Prod.mk.inj h
    exact ⟨nofun, nofun⟩
  | cons candidate rest ih =>
    unfold addGasCosts at h
    split at h
    · cases (Prod.mk.inj h).2
    · rename_i costs hcosts
      obtain ⟨rfl, hnone⟩ := Prod.mk.inj h
      obtain ⟨hleft, hright⟩ := ih (Prod.ext rfl hnone)
      have hpriced : Priced common client gasPrice wethAddress candidate
        (candidate.withGasCosts costs) := ⟨costs, hcosts, rfl⟩
      constructor
      · intro c hc
        rcases List.mem_cons.mp hc with rfl | hc
        · exact ⟨_, List.mem_cons_self, hpriced⟩
        · obtain ⟨result, hresult, hc⟩ := hleft c hc
          exact ⟨result, List.mem_cons_of_mem _ hresult, hc⟩
      · intro r hr
        rcases List.mem_cons.mp hr with rfl | hr
        · exact ⟨candidate, List.mem_cons_self, hpriced⟩
        · obtain ⟨c, hc, hr⟩ := hright r hr
          exact ⟨c, List.mem_cons_of_mem _ hc, hr⟩

/-- A ranking that succeeds has sorted the candidates with their costs. -/
theorem applyGasAdjustedRanking_eq {candidates ranked : List RoutePath} (hne : candidates ≠ [])
    (h : applyGasAdjustedRanking common client quoteType candidates = (ranked, none)) :
    ∃ gasPrice wethAddress results, gasTerms common client = .ok (gasPrice, wethAddress) ∧
      addGasCosts common client gasPrice wethAddress candidates = (results, none) ∧
      ranked = sortGasAdjusted quoteType results := by
  unfold applyGasAdjustedRanking at h
  rw [if_neg hne] at h
  split at h
  · cases (Prod.mk.inj h).2
  · rename_i gasPrice wethAddress hterms
    split at h
    · cases (Prod.mk.inj h).2
    · rename_i results hresults
      exact ⟨gasPrice, wethAddress, results, hterms, hresults, (Prod.mk.inj h).1.symm⟩

/-- The sort keeps a first candidate. -/
theorem exists_head_sortGasAdjusted (quoteType : RouteQuoteType) {results : List RoutePath}
    (hne : results ≠ []) :
    ∃ selected, (sortGasAdjusted quoteType results).head? = some selected := by
  obtain ⟨result, hresult⟩ := List.exists_mem_of_ne_nil results hne
  have hmem : result ∈ sortGasAdjusted quoteType results := by
    cases quoteType with
    | _ => exact mem_stableSort.mpr hresult
  rw [← Option.isSome_iff_exists, List.isSome_head?]
  exact List.ne_nil_of_mem hmem

theorem quotePath_eq_ok {path : List Text} {route : RoutePath}
    (h : quotePath common client quoteType amount path = .ok route) :
    ∃ amounts, quoteAmounts common client quoteType amount path = .ok amounts ∧
      route.tokens = path ∧ route.hops = path.length - 2 ∧
      route.amountIn = formatInt amounts.1 ∧ route.amountOut = formatInt amounts.2 := by
  unfold quotePath at h
  obtain ⟨amounts, hamounts, h⟩ := except_bind_eq_ok.mp h
  cases h
  exact ⟨amounts, hamounts, rfl, rfl, rfl, rfl⟩

theorem quotePath_isOk {path : List Text} {amounts : Int × Int}
    (h : quoteAmounts common client quoteType amount path = .ok amounts) :
    ∃ route, quotePath common client quoteType amount path = .ok route := by
  unfold quotePath
  rw [h]
  exact ⟨_, rfl⟩

/-- The texts of a priced candidate denote what its path is worth. -/
theorem Priced.worth {path : List Text} {route result : RoutePath}
    (hpriced : Priced common client gasPrice wethAddress route result)
    (hterms : gasTerms common client = .ok (gasPrice, wethAddress))
    (hquote : quotePath common client quoteType amount path = .ok route) :
    Worth common client quoteType amount path (result.value quoteType) := by
  obtain ⟨costs, hcosts, rfl⟩ := hpriced
  obtain ⟨amounts, hamounts, htokens, hhops, hin, hout⟩ := quotePath_eq_ok hquote
  rw [htokens, hhops] at hcosts
  refine ⟨gasPrice, wethAddress, amounts, costs, hterms, hamounts, hcosts, ?_⟩
  cases quoteType with
  | exactOutput =>
    simp only [RoutePath.value, RoutePath.withGasCosts, routeValue, mustBigInt_formatInt, hin,
      hhops]
  | exactInput | unspecified | other =>
    simp only [RoutePath.value, RoutePath.withGasCosts, routeValue, mustBigInt_formatInt, hout,
      hhops]

theorem Priced.tokens {route result : RoutePath}
    (h : Priced common client gasPrice wethAddress route result) :
    result.tokens = route.tokens := by
  obtain ⟨costs, -, rfl⟩ := h
  rfl

/-- A priced candidate is shown with the amount that it is ranked by. -/
theorem Priced.rankingMetric {route result : RoutePath}
    (h : Priced common client gasPrice wethAddress route result) :
    mustBigInt (rankingMetric result quoteType) = (result.value quoteType).adjusted := by
  obtain ⟨costs, -, rfl⟩ := h
  have hshown : ∀ n : Int, trimSpace (formatInt n) ≠ [] := fun n => by
    rw [trimSpace_formatInt]
    exact formatInt_ne_nil n
  cases quoteType with
  | _ => exact congrArg mustBigInt (if_neg (hshown _))

end Loop

/-! ## The selected route -/

/-- What `GetBestRoute` has looked up before it ranks the candidates. -/
structure Searched (common : RouteCommon) (env : RouteEnvironment)
    (request : GetBestRouteRequest) (graph : RouterGraph) (client : RouterQuoteClient)
    (tokens : RouteRequestTokens) (paths : List (List Text)) : Prop where
  stored : env.routerGraph = some graph
  lookedUp : env.lookupRouteQuoteClient request.chainId = some client
  resolved : resolveRouteRequestTokens common request.tokenIn request.tokenOut
    client.wethAddress = .ok tokens
  built : buildCandidateTokens graph request.chainId tokens.executionTokenIn
    tokens.executionTokenOut 1 = .ok paths

/-- The response names a path as the route to execute, with the ranked amount. -/
structure Selects (response : GetBestRouteResponse) (path : List Text) (v : RouteValue) :
    Prop where
  execution : ∃ execution, response.execution = some execution ∧ execution.routerPath = path
  route : ∃ view, response.selectedRoute = some view ∧ view.executionPath = path ∧
    view.hops = v.hops ∧ mustBigInt view.rankingMetric = v.adjusted

theorem routeArgument_eq_ok {condition : Bool} {message : String} {u : Unit} :
    routeArgument condition message = .ok u ↔ condition = true := by
  cases condition with
  | true => exact ⟨fun _ => rfl, fun _ => rfl⟩
  | false => exact ⟨nofun, nofun⟩

theorem elim_eq_ok {α : Type} {o : Option α} {e : RpcError} {a : α} :
    o.elim (Except.error e) Except.ok = .ok a ↔ o = some a := by
  cases o with
  | none => simp
  | some a' => simp

/-- The token that a request ends with is a text with characters. -/
theorem executionTokenOut_ne_nil {common : RouteCommon} {tokenIn tokenOut : Text}
    {weth : Address} {tokens : RouteRequestTokens} (hout : isAddress tokenOut = true)
    (h : resolveRouteRequestTokens common tokenIn tokenOut weth = .ok tokens) :
    tokens.executionTokenOut ≠ [] := by
  have hrequested : normalizeAddress tokenOut ≠ [] := by
    rw [(eq_of_isHex hout).1]
    exact List.cons_ne_nil _ _
  unfold resolveRouteRequestTokens at h
  dsimp only at h
  split at h
  · cases h
  · rename_i hweth
    rw [not_or] at hweth
    obtain rfl := Except.ok.inj h
    dsimp only
    split
    · exact hweth.1
    · exact hrequested

/-- A ranking of quoted paths selects the best of them. -/
theorem selectRoute_best {common : RouteCommon} {client : RouterQuoteClient}
    {tokens : RouteRequestTokens} {quoteType : RouteQuoteType} {amount : Int}
    {paths : List (List Text)}
    (hgas : (selectRoute common client tokens quoteType amount paths).usedGasAdjustedRanking =
      true) :
    ∃ path v, Selects (selectRoute common client tokens quoteType amount paths) path v ∧
      path ∈ paths ∧ Worth common client quoteType amount path v ∧
      ∀ path' ∈ paths, ∀ amounts,
        quoteAmounts common client quoteType amount path' = .ok amounts →
        ∃ w, Worth common client quoteType amount path' w ∧ v.AtLeast quoteType w := by
  unfold selectRoute at hgas ⊢
  generalize hquoted : (paths.filterMap fun pathTokens =>
    (quotePath common client quoteType amount pathTokens).toOption) = candidates at hgas ⊢
  have hmem : ∀ route, route ∈ candidates ↔
      ∃ path ∈ paths, quotePath common client quoteType amount path = .ok route := by
    intro route
    rw [← hquoted, List.mem_filterMap]
    simp only [except_toOption_eq_some]
  dsimp only at hgas ⊢
  by_cases hne : candidates = []
  · rw [if_pos hne] at hgas
    cases hgas
  rw [if_neg hne] at hgas ⊢
  split at hgas
  · rename_i ranked hranked
    -- the ranking has a price for every candidate, and each comes from one
    obtain ⟨gasPrice, wethAddress, results, hterms, hresults, rfl⟩ :=
      applyGasAdjustedRanking_eq hne hranked
    obtain ⟨hpriced, horigin⟩ := addGasCosts_eq hresults
    obtain ⟨first, hfirst⟩ := List.exists_mem_of_ne_nil candidates hne
    obtain ⟨result, hresult, -⟩ := hpriced first hfirst
    obtain ⟨selected, hselected⟩ :=
      exists_head_sortGasAdjusted quoteType (List.ne_nil_of_mem hresult)
    obtain ⟨hin, hbest⟩ := head_sortGasAdjusted hselected
    obtain ⟨route, hroute, hprice⟩ := horigin selected hin
    obtain ⟨path, hpath, hquote⟩ := (hmem route).mp hroute
    obtain ⟨-, -, htokens, -⟩ := quotePath_eq_ok hquote
    have hsame : selected.tokens = path := hprice.tokens.trans htokens
    refine ⟨path, selected.value quoteType, ?_, hpath, hprice.worth hterms hquote, ?_⟩
    · dsimp only [selectFirst]
      rw [hselected]
      refine ⟨⟨_, rfl, hsame⟩, ⟨_, rfl, hsame, ?_, hprice.rankingMetric⟩⟩
      cases quoteType with
      | _ => rfl
    -- every path that has a quote is among the candidates
    · intro path' hpath' amounts hamounts
      obtain ⟨route', hroute'⟩ := quotePath_isOk hamounts
      obtain ⟨result', hresult', hprice'⟩ := hpriced route' ((hmem route').mpr ⟨path', hpath', hroute'⟩)
      exact ⟨_, hprice'.worth hterms hroute', hbest result' hresult'⟩
  · cases hgas

/-- If `GetBestRoute` ranks after gas, its candidates are exactly the direct path and the
    paths through one intermediate token, each of them once, and the selected route is the best
    of those that can be quoted. -/
theorem getBestRoute_best {common : RouteCommon} {env : RouteEnvironment}
    {request : GetBestRouteRequest} {response : GetBestRouteResponse}
    (h : getBestRoute common env request = .ok response)
    (hgas : response.usedGasAdjustedRanking = true) :
    ∃ graph client tokens paths,
      Searched common env request graph client tokens paths ∧ paths.Nodup ∧
      (∀ path, path ∈ paths ↔ IsCandidate graph request.chainId tokens.executionTokenIn
        tokens.executionTokenOut path) ∧
      ∃ path v, Selects response path v ∧ path ∈ paths ∧
        Worth common client request.effectiveQuoteType (mustBigInt request.amount) path v ∧
        ∀ path' ∈ paths, ∀ amounts,
          quoteAmounts common client request.effectiveQuoteType (mustBigInt request.amount)
            path' = .ok amounts →
          ∃ w, Worth common client request.effectiveQuoteType (mustBigInt request.amount)
            path' w ∧ v.AtLeast request.effectiveQuoteType w := by
  unfold getBestRoute at h
  obtain ⟨_, hcheck, h⟩ := except_bind_eq_ok.mp h
  obtain ⟨graph, hgraph, h⟩ := except_bind_eq_ok.mp h
  obtain ⟨client, hclient, h⟩ := except_bind_eq_ok.mp h
  obtain ⟨tokens, htokens, h⟩ := except_bind_eq_ok.mp h
  obtain ⟨_, -, h⟩ := except_bind_eq_ok.mp h
  obtain ⟨paths, hpaths, h⟩ := except_bind_eq_ok.mp h
  rw [elim_eq_ok] at hgraph hclient
  rw [except_mapError_eq_ok] at htokens hpaths
  simp only [checkRouteRequest, except_bind_eq_ok, routeArgument_eq_ok, decide_eq_true_eq] at hcheck
  obtain ⟨_, -, _, -, _, hout, _, -, _, -, _, -, hhops⟩ := hcheck
  have hone : request.effectiveMaxHops = 1 := by
    refine Nat.le_antisymm hhops ?_
    unfold GetBestRouteRequest.effectiveMaxHops
    split <;> omega
  rw [hone] at hpaths
  obtain ⟨hnodup, hmem⟩ :=
    buildCandidateTokens_eq_ok (executionTokenOut_ne_nil hout htokens) hpaths
  have hresponse := Except.ok.inj h
  by_cases hempty : paths = []
  · rw [if_pos hempty] at hresponse
    rw [← hresponse] at hgas
    cases hgas
  · rw [if_neg hempty] at hresponse
    rw [← hresponse] at hgas ⊢
    exact ⟨graph, client, tokens, paths, ⟨hgraph, hclient, htokens, hpaths⟩, hnodup, hmem,
      selectRoute_best hgas⟩

/-! ## A detour that pays after gas -/

namespace RouteExample

/-- The text of an address with these two last digits. -/
def token (c c' : Char) : Text := '0' :: 'x' :: (List.replicate 38 '0' ++ [c, c'])

def common : RouteCommon where
  isHexAddress := isHex 40
  hexToAddress s := Fin.ofNat _ (hexadecimal (hexDigits s))
  hashHex _ := []
  encode _ := []
  addressHex a := token '0' (if a = 9 then '9' else '0')

/-- The list of token 11 is out of order, and one token is in it twice. -/
def graph : RouterGraph where
  stored _ text :=
    if text = token '1' '1' then some (.ok [token '3' '3', token '2' '2', token '3' '3'])
    else if text = token '3' '3' then some (.ok [token '2' '2'])
    else none

/-- The detour yields 10 more, at the same cost of gas. -/
def client : RouterQuoteClient where
  getAmountsOut amount path :=
    if path.length = 2 then .ok [some amount, some 1000]
    else .ok [some amount, some amount, some 1010]
  getAmountsIn amount _ := .ok [some 140, some amount]
  suggestGasPrice := .ok (some 1)
  wethAddress := 9

def env : RouteEnvironment := ⟨some graph, fun _ => some client⟩

def request : GetBestRouteRequest where
  chainId := 31337
  tokenIn := token '1' '1'
  tokenOut := token '2' '2'
  amount := ['1', '0']
  maxHops := 1
  quoteType := .exactInput

end RouteExample

open RouteExample in
theorem getBestRoute_best_detour : ∃ response path v,
    getBestRoute common env request = .ok response ∧ Selects response path v := by
  have hranked : (getBestRoute common env request).toOption.map
      (fun response => response.usedGasAdjustedRanking) = some true := by decide +kernel
  obtain ⟨response, hresponse, hgas⟩ := Option.map_eq_some_iff.mp hranked
  have hok := except_toOption_eq_some.mp hresponse
  obtain ⟨_, _, _, _, -, -, -, path, v, hselects, -⟩ := getBestRoute_best hok hgas
  exact ⟨response, path, v, hok, hselects⟩

end Backend
