-- SUMMARY: The backend's GetBestRoute: quotes of the candidate paths, their cost of gas, and the two rankings.
import FluxSwap.Backend.Candidates

/-!
# GetBestRoute

Every candidate path is quoted; those whose quote fails are left out. The rest is ranked by
amounts that include the cost of gas, or by the quotes themselves if that cost cannot be
found. The quote client answers all questions of one request from one state of the chain.
-/

namespace Backend

open Text Selection

/-! ## Data -/

inductive RouteQuoteType
  | unspecified
  | exactInput
  | exactOutput
  | other (value : Int)
  deriving DecidableEq

structure GetBestRouteRequest where
  chainId   : Int
  tokenIn   : Text
  tokenOut  : Text
  amount    : Text
  maxHops   : Nat
  quoteType : RouteQuoteType

structure RoutePath where
  tokens               : List Text
  hops                 : Nat
  amountIn             : Text
  amountOut            : Text
  gasEstimate          : Nat
  gasCostInInputToken  : Text
  gasCostInOutputToken : Text
  gasAdjustedAmountIn  : Text
  gasAdjustedAmountOut : Text

structure RouteView where
  pathTokens           : List Text
  executionPath        : List Text
  hops                 : Nat
  isDirect             : Bool
  isMultiHop           : Bool
  amountIn             : Text
  amountOut            : Text
  gasEstimate          : Nat
  gasCostInInputToken  : Text
  gasCostInOutputToken : Text
  gasAdjustedAmountIn  : Text
  gasAdjustedAmountOut : Text
  rankingMetric        : Text

structure RouteExecution where
  routerPath : List Text
  isMultiHop : Bool
  strategy   : String

structure RouteQuote where
  quoteType : RouteQuoteType
  amountIn  : Text
  amountOut : Text

structure GetBestRouteResponse where
  notice                 : ResponseNotice
  selectedRoute          : Option RouteView
  alternativeRoutes      : List RouteView
  execution              : Option RouteExecution
  selectionReason        : String
  usedGasAdjustedRanking : Bool
  quote                  : Option RouteQuote

/-- What the quote client answers. An amount may be missing. -/
structure RouterQuoteClient where
  getAmountsOut   : Int → List Address → Except String (List (Option Int))
  getAmountsIn    : Int → List Address → Except String (List (Option Int))
  suggestGasPrice : Except String (Option Int)
  wethAddress     : Address

structure RouteEnvironment where
  routerGraph            : Option RouterGraph
  lookupRouteQuoteClient : Int → Option RouterQuoteClient

/-! ## Quotes -/

/-- The first and the last amount of a quote for `n` tokens. The one that the quote is about
    has to be positive. -/
def quotedEnds (n : Nat) (wrongLength notPositive : String) (about : Int × Int → Int)
    (amounts : List (Option Int)) : Except String (Int × Int) :=
  if amounts.length ≠ n ∨ amounts.length = 0 then .error wrongLength
  else match amounts.head?.join, amounts.getLast?.join with
    | some amountIn, some amountOut =>
      if about (amountIn, amountOut) ≤ 0 then .error notPositive else .ok (amountIn, amountOut)
    | _, _ => .error notPositive

/-- The two amounts of the quote for a path. -/
def quoteAmounts (common : RouteCommon) (client : RouterQuoteClient)
    (quoteType : RouteQuoteType) (amount : Int) (pathTokens : List Text) :
    Except String (Int × Int) :=
  let path := pathTokens.map common.hexToAddress
  match quoteType with
  | .exactInput => do
    let amounts ← client.getAmountsOut amount path
    quotedEnds path.length "unexpected quoted amounts length" "quoted output is not positive"
      Prod.snd amounts
  | .exactOutput => do
    let amounts ← client.getAmountsIn amount path
    quotedEnds path.length "unexpected reverse quoted amounts length"
      "quoted input is not positive" Prod.fst amounts
  | _ => .error "unsupported quote type"

def quotePath (common : RouteCommon) (client : RouterQuoteClient) (quoteType : RouteQuoteType)
    (amount : Int) (pathTokens : List Text) : Except String RoutePath := do
  let (amountIn, amountOut) ← quoteAmounts common client quoteType amount pathTokens
  return { tokens := pathTokens
           hops := pathTokens.length - 2
           amountIn := formatInt amountIn
           amountOut := formatInt amountOut
           gasEstimate := 0
           gasCostInInputToken := []
           gasCostInOutputToken := []
           gasAdjustedAmountIn := []
           gasAdjustedAmountOut := [] }

/-! ## The cost of gas -/

def baseRouteGasEstimate : Nat := 140000

def perHopRouteGasEstimate : Nat := 50000

def estimateRouteGas (hops : Nat) : Nat := baseRouteGasEstimate + hops * perHopRouteGasEstimate

/-- The amount of a token that buys the gas. -/
def quoteGasCost (common : RouteCommon) (client : RouterQuoteClient) (wrongLength : String)
    (gasCostInNative : Int) (token : Option Text) (tokens : List Text) (wethAddress : Text) :
    Except String Int :=
  if gasCostInNative ≤ 0 then .error "gas cost in native token must be positive"
  else if tokens.length < 2 then .error "candidate path must contain at least two tokens"
  else
    let token := normalizeAddress (token.getD [])
    if token = wethAddress then .ok gasCostInNative
    else do
      let amountsIn ← client.getAmountsIn gasCostInNative
        [common.hexToAddress token, common.hexToAddress wethAddress]
      match amountsIn with
      | [some amountIn, _] => .ok amountIn
      | _ => .error wrongLength

def quoteGasCostInInputToken (common : RouteCommon) (client : RouterQuoteClient)
    (gasCostInNative : Int) (tokens : List Text) (wethAddress : Text) : Except String Int :=
  quoteGasCost common client "unexpected input gas cost quote length" gasCostInNative
    tokens.head? tokens wethAddress

def quoteGasCostInOutputToken (common : RouteCommon) (client : RouterQuoteClient)
    (gasCostInNative : Int) (tokens : List Text) (wethAddress : Text) : Except String Int :=
  quoteGasCost common client "unexpected output gas cost quote length" gasCostInNative
    tokens.getLast? tokens wethAddress

/-- The cost of gas in both tokens of a path. -/
def gasCosts (common : RouteCommon) (client : RouterQuoteClient) (gasPrice : Int)
    (wethAddress : Text) (hops : Nat) (tokens : List Text) : Except String (Int × Int) := do
  let gasCostInNative := gasPrice * estimateRouteGas hops
  let inInput ← quoteGasCostInInputToken common client gasCostInNative tokens wethAddress
  let inOutput ← quoteGasCostInOutputToken common client gasCostInNative tokens wethAddress
  return (inInput, inOutput)

def RoutePath.withGasCosts (candidate : RoutePath) (gasCosts : Int × Int) : RoutePath :=
  { candidate with
    gasEstimate := estimateRouteGas candidate.hops
    gasCostInInputToken := formatInt gasCosts.1
    gasCostInOutputToken := formatInt gasCosts.2
    gasAdjustedAmountIn := formatInt (mustBigInt candidate.amountIn + gasCosts.1)
    gasAdjustedAmountOut := formatInt (max 0 (mustBigInt candidate.amountOut - gasCosts.2)) }

/-- The loop of `applyGasAdjustedRanking`. The candidates are changed in place, also those
    before an error; the one that fails has its estimate already. -/
def addGasCosts (common : RouteCommon) (client : RouterQuoteClient) (gasPrice : Int)
    (wethAddress : Text) : List RoutePath → List RoutePath × Option String
  | [] => ([], none)
  | candidate :: rest =>
    match gasCosts common client gasPrice wethAddress candidate.hops candidate.tokens with
    | .error error =>
      ({ candidate with gasEstimate := estimateRouteGas candidate.hops } :: rest, some error)
    | .ok costs =>
      let (rest, failure) := addGasCosts common client gasPrice wethAddress rest
      (candidate.withGasCosts costs :: rest, failure)

/-! ## Rankings -/

/-- `less` of the first amounts that differ, or fewer hops. -/
def lessBy (less : Int → Int → Bool) : List (Int × Int) → Nat → Nat → Bool
  | [], leftHops, rightHops => decide (leftHops < rightHops)
  | (left, right) :: rest, leftHops, rightHops =>
    if left ≠ right then less left right else lessBy less rest leftHops rightHops

def lessAmount (left right : Int) : Bool := decide (left < right)

def moreAmount (left right : Int) : Bool := decide (right < left)

def sortRawQuoteCandidates (quoteType : RouteQuoteType) (candidates : List RoutePath) :
    List RoutePath :=
  match quoteType with
  | .exactOutput => stableSort (fun left right => lessBy lessAmount
      [(mustBigInt left.amountIn, mustBigInt right.amountIn)] left.hops right.hops) candidates
  | _ => stableSort (fun left right => lessBy moreAmount
      [(mustBigInt left.amountOut, mustBigInt right.amountOut)] left.hops right.hops) candidates

/-- The sort at the end of `applyGasAdjustedRanking`. -/
def sortGasAdjusted (quoteType : RouteQuoteType) (candidates : List RoutePath) :
    List RoutePath :=
  match quoteType with
  | .exactOutput => stableSort (fun left right => lessBy lessAmount
      [(mustBigInt left.gasAdjustedAmountIn, mustBigInt right.gasAdjustedAmountIn),
        (mustBigInt left.amountIn, mustBigInt right.amountIn)] left.hops right.hops) candidates
  | _ => stableSort (fun left right => lessBy moreAmount
      [(mustBigInt left.gasAdjustedAmountOut, mustBigInt right.gasAdjustedAmountOut),
        (mustBigInt left.amountOut, mustBigInt right.amountOut)] left.hops right.hops) candidates

/-- The gas price and the text of WETH, or an error. -/
def gasTerms (common : RouteCommon) (client : RouterQuoteClient) : Except String (Int × Text) := do
  let gasPrice ← client.suggestGasPrice
  let wethAddress := normalizeAddress (common.addressHex client.wethAddress)
  match gasPrice with
  | none => .error "gas price must be positive"
  | some gasPrice =>
    if gasPrice ≤ 0 then .error "gas price must be positive"
    else if wethAddress = [] then .error "weth address is not available"
    else .ok (gasPrice, wethAddress)

/-- The candidates afterwards, and the error if there is one. -/
def applyGasAdjustedRanking (common : RouteCommon) (client : RouterQuoteClient)
    (quoteType : RouteQuoteType) (candidates : List RoutePath) :
    List RoutePath × Option String :=
  if candidates = [] then (candidates, none)
  else match gasTerms common client with
    | .error error => (candidates, some error)
    | .ok (gasPrice, wethAddress) =>
      match addGasCosts common client gasPrice wethAddress candidates with
      | (candidates, some error) => (candidates, some error)
      | (candidates, none) => (sortGasAdjusted quoteType candidates, none)

/-! ## Views -/

def replaceHead (token : Text) : List Text → List Text
  | [] => []
  | _ :: rest => token :: rest

def buildDisplayPath (candidate : RoutePath) (tokens : RouteRequestTokens) : List Text :=
  let path := candidate.tokens
  let path :=
    if tokens.nativeTokenIn ∧ path.head?.map normalizeAddress = some tokens.executionTokenIn then
      replaceHead tokens.requestedTokenIn path
    else path
  if tokens.nativeTokenOut ∧ path.getLast?.map normalizeAddress = some tokens.executionTokenOut then
    (replaceHead tokens.requestedTokenOut path.reverse).reverse
  else path

def rankingMetric (candidate : RoutePath) (quoteType : RouteQuoteType) : Text :=
  match quoteType with
  | .exactOutput =>
    if trimSpace candidate.gasAdjustedAmountIn = [] then candidate.amountIn
    else candidate.gasAdjustedAmountIn
  | _ =>
    if trimSpace candidate.gasAdjustedAmountOut = [] then candidate.amountOut
    else candidate.gasAdjustedAmountOut

def buildRouteView (tokens : RouteRequestTokens) (quoteType : RouteQuoteType)
    (candidate : RoutePath) : RouteView where
  pathTokens := buildDisplayPath candidate tokens
  executionPath := candidate.tokens
  hops := candidate.hops
  isDirect := decide (candidate.hops = 0)
  isMultiHop := decide (0 < candidate.hops)
  amountIn := candidate.amountIn
  amountOut := candidate.amountOut
  gasEstimate := candidate.gasEstimate
  gasCostInInputToken := candidate.gasCostInInputToken
  gasCostInOutputToken := candidate.gasCostInOutputToken
  gasAdjustedAmountIn := candidate.gasAdjustedAmountIn
  gasAdjustedAmountOut := candidate.gasAdjustedAmountOut
  rankingMetric := rankingMetric candidate quoteType

def buildExecution (candidate : RoutePath) : RouteExecution where
  routerPath := candidate.tokens
  isMultiHop := decide (0 < candidate.hops)
  strategy := if candidate.hops = 0 then "direct_swap" else "multihop_swap"

def buildSelectionReason (quoteType : RouteQuoteType) (usedGasAdjustedRanking : Bool)
    (candidate : RoutePath) : String :=
  match usedGasAdjustedRanking, quoteType with
  | false, .exactOutput =>
    if candidate.hops = 0 then "lowest_direct_input" else "lowest_multihop_input"
  | false, _ => if candidate.hops = 0 then "best_direct" else "best_multihop"
  | true, .exactOutput =>
    if candidate.hops = 0 then "lowest_direct_input_after_gas"
    else "lowest_multihop_input_after_gas"
  | true, _ => if candidate.hops = 0 then "best_direct_after_gas" else "best_multihop_after_gas"

/-! ## GetBestRoute -/

/-- A response without a route. -/
def unsuccessful (notice : ResponseNotice) : GetBestRouteResponse where
  notice := notice
  selectedRoute := none
  alternativeRoutes := []
  execution := none
  selectionReason := ""
  usedGasAdjustedRanking := false
  quote := none

def routeNotFound : ResponseNotice :=
  failureNotice "ROUTE_NOT_FOUND" "no route found"
    "add a direct pool or an intermediate pool between tokenIn and tokenOut" "route_search"

def routeQuoteFailed : ResponseNotice :=
  failureNotice "ROUTE_QUOTE_FAILED" "all candidate routes failed to quote"
    "check whether each hop has enough liquidity for the requested amount" "route_quote"

def bestRouteSelected : ResponseNotice :=
  successNotice "BEST_ROUTE_SELECTED" "best route selected"
    "use execution.routerPath as the router path for execution" "route_selection"

/-- A check whose failure is an `InvalidArgument`. -/
def routeArgument (condition : Bool) (message : String) : Except RpcError Unit :=
  if condition then .ok () else .error ⟨.invalidArgument, message⟩

/-- The type of the quote, exact input if it is left open. -/
def GetBestRouteRequest.effectiveQuoteType (request : GetBestRouteRequest) : RouteQuoteType :=
  if request.quoteType = .unspecified then .exactInput else request.quoteType

/-- The number of intermediate tokens, one if it is left open. -/
def GetBestRouteRequest.effectiveMaxHops (request : GetBestRouteRequest) : Nat :=
  if request.maxHops = 0 then 1 else request.maxHops

/-- The checks of the request. -/
def checkRouteRequest (request : GetBestRouteRequest) : Except RpcError Unit := do
  routeArgument (decide (0 < request.chainId)) "chainId must be greater than 0"
  routeArgument (isAddress request.tokenIn) "tokenIn must be a valid address"
  routeArgument (isAddress request.tokenOut) "tokenOut must be a valid address"
  routeArgument (decide (normalizeAddress request.tokenIn ≠ normalizeAddress request.tokenOut))
    "tokenIn and tokenOut must be different"
  routeArgument (isPositiveUint request.amount) "amount must be a positive integer string"
  routeArgument (decide (request.effectiveQuoteType = .exactInput) ||
      decide (request.effectiveQuoteType = .exactOutput)) "quoteType is not supported"
  routeArgument (decide (request.effectiveMaxHops ≤ 1))
    "maxHops greater than 1 is not supported yet"

/-- The response for the candidates in their order. -/
def selectFirst (tokens : RouteRequestTokens) (quoteType : RouteQuoteType)
    (usedGasAdjustedRanking : Bool) (candidates : List RoutePath) : GetBestRouteResponse where
  notice := bestRouteSelected
  selectedRoute := candidates.head?.map (buildRouteView tokens quoteType)
  alternativeRoutes := candidates.tail.map (buildRouteView tokens quoteType)
  execution := candidates.head?.map buildExecution
  selectionReason :=
    (candidates.head?.map (buildSelectionReason quoteType usedGasAdjustedRanking)).getD ""
  usedGasAdjustedRanking := usedGasAdjustedRanking
  quote := candidates.head?.map fun selected => ⟨quoteType, selected.amountIn, selected.amountOut⟩

/-- `GetBestRoute` from the quotes on. -/
def selectRoute (common : RouteCommon) (client : RouterQuoteClient)
    (tokens : RouteRequestTokens) (quoteType : RouteQuoteType) (amount : Int)
    (candidateTokens : List (List Text)) : GetBestRouteResponse :=
  let candidates := candidateTokens.filterMap fun pathTokens =>
    (quotePath common client quoteType amount pathTokens).toOption
  if candidates = [] then unsuccessful routeQuoteFailed
  else match applyGasAdjustedRanking common client quoteType candidates with
    | (candidates, none) => selectFirst tokens quoteType true candidates
    | (candidates, some _) =>
      selectFirst tokens quoteType false (sortRawQuoteCandidates quoteType candidates)

def getBestRoute (common : RouteCommon) (env : RouteEnvironment) (request : GetBestRouteRequest) :
    Except RpcError GetBestRouteResponse := do
  checkRouteRequest request
  let graph ← env.routerGraph.elim
    (.error ⟨.failedPrecondition, "router graph store is not initialized"⟩) .ok
  let client ← (env.lookupRouteQuoteClient request.chainId).elim
    (.error ⟨.notFound, "route quote client not found"⟩) .ok
  let tokens ← (resolveRouteRequestTokens common request.tokenIn request.tokenOut
    client.wethAddress).mapError fun error => ⟨.failedPrecondition, error⟩
  routeArgument (decide (tokens.executionTokenIn ≠ tokens.executionTokenOut))
    "tokenIn and tokenOut resolve to the same executable token"
  let candidateTokens ← (buildCandidateTokens graph request.chainId tokens.executionTokenIn
    tokens.executionTokenOut request.effectiveMaxHops).mapError fun _ =>
      ⟨.internal, "build candidate routes failed"⟩
  return if candidateTokens = [] then unsuccessful routeNotFound
    else selectRoute common client tokens request.effectiveQuoteType
      (mustBigInt request.amount) candidateTokens

end Backend
