-- SUMMARY: The router's quotes and its internal swap along a path.
import FluxSwap.Amm.Pair

/-!
# FluxSwapRouter: quotes and paths

The router quotes with a total fee of 30 basis points and executes the quoted
amounts hop by hop: each pair pays the next one, the last pair pays the receiver.
-/

open Exec

namespace FluxSwapRouter

def FEE_BPS_BASE : Nat := 10000
def TOTAL_SWAP_FEE_BPS : Nat := 30

def sortTokens (tokenA tokenB : Address) : Exec (Address × Address) := do
  require (tokenA ≠ tokenB) "FluxSwapRouter: IDENTICAL_ADDRESSES"
  let (token0, token1) := if tokenA < tokenB then (tokenA, tokenB) else (tokenB, tokenA)
  require (token0 ≠ Address.zero) "FluxSwapRouter: ZERO_ADDRESS"
  pure (token0, token1)

/-- `_getPairOrRevert`. -/
def getPairOrRevert (c : Chain) (tokenA tokenB : Address) : Exec Address := do
  let pair := c.getPair tokenA tokenB
  require (pair ≠ Address.zero) "FluxSwapRouter: PAIR_NOT_FOUND"
  pure pair

/-- `_getReserves`. -/
def getReserves (c : Chain) (tokenA tokenB : Address) : Exec (Nat × Nat) := do
  let (token0, _) ← sortTokens tokenA tokenB
  let pair ← getPairOrRevert c tokenA tokenB
  let p ← c.pairAt pair
  pure (if tokenA = token0 then (p.reserve0, p.reserve1) else (p.reserve1, p.reserve0))

def getAmountOut (amountIn reserveIn reserveOut : Nat) : Exec Nat := do
  require (0 < amountIn) "FluxSwapRouter: INSUFFICIENT_INPUT_AMOUNT"
  require (0 < reserveIn ∧ 0 < reserveOut) "FluxSwapRouter: INSUFFICIENT_LIQUIDITY"
  let amountInWithFee ← Uint256.mul amountIn (FEE_BPS_BASE - TOTAL_SWAP_FEE_BPS)
  let numerator ← Uint256.mul amountInWithFee reserveOut
  let scaled ← Uint256.mul reserveIn FEE_BPS_BASE
  let denominator ← Uint256.add scaled amountInWithFee
  Uint256.div numerator denominator

def getAmountIn (amountOut reserveIn reserveOut : Nat) : Exec Nat := do
  require (0 < amountOut) "FluxSwapRouter: INSUFFICIENT_OUTPUT_AMOUNT"
  require (0 < reserveIn ∧ 0 < reserveOut) "FluxSwapRouter: INSUFFICIENT_LIQUIDITY"
  let product ← Uint256.mul reserveIn amountOut
  let numerator ← Uint256.mul product FEE_BPS_BASE
  let left ← Uint256.sub reserveOut amountOut
  let denominator ← Uint256.mul left (FEE_BPS_BASE - TOTAL_SWAP_FEE_BPS)
  let quotient ← Uint256.div numerator denominator
  Uint256.add quotient 1

/-- The loop of `getAmountsOut`, from the first hop to the last. -/
def amountsOutFrom (c : Chain) : Nat → List Address → Exec (List Nat)
  | amountIn, input :: output :: rest => do
    let (reserveIn, reserveOut) ← getReserves c input output
    let amountOut ← getAmountOut amountIn reserveIn reserveOut
    let amounts ← amountsOutFrom c amountOut (output :: rest)
    pure (amountIn :: amounts)
  | amountIn, _ => pure [amountIn]

def getAmountsOut (c : Chain) (amountIn : Nat) (path : List Address) : Exec (List Nat) := do
  require (2 ≤ path.length) "FluxSwapRouter: INVALID_PATH"
  amountsOutFrom c amountIn path

/-- The loop of `getAmountsIn`, from the last hop to the first. -/
def amountsInFrom (c : Chain) (amountOut : Nat) : List Address → Exec (List Nat)
  | input :: output :: rest => do
    let amounts ← amountsInFrom c amountOut (output :: rest)
    let (reserveIn, reserveOut) ← getReserves c input output
    let amountIn ← getAmountIn (amounts.headD 0) reserveIn reserveOut
    pure (amountIn :: amounts)
  | _ => pure [amountOut]

def getAmountsIn (c : Chain) (amountOut : Nat) (path : List Address) : Exec (List Nat) := do
  require (2 ≤ path.length) "FluxSwapRouter: INVALID_PATH"
  amountsInFrom c amountOut path

/-- Where a hop pays to: the pair of the next hop, or the receiver. -/
def hopReceiver (c : Chain) (output : Address) : List Address → Address → Exec Address
  | next :: _, _ => getPairOrRevert c output next
  | [], dst => pure dst

/-- One round of the loop of `_swap`. -/
def swapHop (router : Address) (input output : Address) (rest : List Address) (amountOut : Nat)
    (dst : Address) (c : Chain) : Exec Chain := do
  let (token0, _) ← sortTokens input output
  let (amount0Out, amount1Out) := if input = token0 then (0, amountOut) else (amountOut, 0)
  let hopDst ← hopReceiver c output rest dst
  let pair ← getPairOrRevert c input output
  let (c, _) ← FluxSwapPair.swap pair router amount0Out amount1Out hopDst pure c
  pure c

/-- `_swap`. -/
def swapAlong (router : Address) : List Nat → List Address → Address → Chain → Exec Chain
  | _ :: amountOut :: amounts, input :: output :: rest, dst, c => do
    let c ← swapHop router input output rest amountOut dst c
    swapAlong router (amountOut :: amounts) (output :: rest) dst c
  | _, _, _, c => pure c

/-! ## Entry points -/

/-- The modifier `ensure`. -/
def ensure (c : Chain) (deadline : Nat) : Exec Unit :=
  require (c.timestamp ≤ deadline) "FluxSwapRouter: EXPIRED"

/-- `TransferHelper.safeTransferFrom`, called by the router. -/
def safeTransferFrom (router token src dst : Address) (value : Nat) (c : Chain) : Exec Chain :=
  match c.transferFrom token router src dst value with
  | some c' => .ok c'
  | none => .error (.message "TransferHelper: TRANSFER_FROM_FAILED")

@[simp] theorem safeTransferFrom_eq_ok {router token src dst : Address} {value : Nat}
    {c c' : Chain} :
    safeTransferFrom router token src dst value c = .ok c' ↔
      c.transferFrom token router src dst value = some c' := by
  unfold safeTransferFrom
  split <;> simp_all

/-- The caller pays the first amount to the first pair. -/
def payFirstPair (router sender : Address) : List Nat → List Address → Chain → Exec Chain
  | amount :: _, input :: output :: _, c => do
    let pair ← getPairOrRevert c input output
    safeTransferFrom router input sender pair amount c
  | _, _, _ => .error (.message "array out of bounds")

/-- The part that the exact-input swaps share: quote, slippage check, payment, `_swap`. -/
def swapExactTokens (router sender : Address) (amountIn amountOutMin : Nat) (path : List Address)
    (dst : Address) (c : Chain) : Exec (Chain × List Nat) := do
  let amounts ← getAmountsOut c amountIn path
  let amountOut ← last amounts
  require (amountOutMin ≤ amountOut) "FluxSwapRouter: INSUFFICIENT_OUTPUT_AMOUNT"
  let c ← payFirstPair router sender amounts path c
  let c ← swapAlong router amounts path dst c
  pure (c, amounts)

def swapExactTokensForTokens (router sender : Address) (amountIn amountOutMin : Nat)
    (path : List Address) (dst : Address) (deadline : Nat) (c : Chain) :
    Exec (Chain × List Nat) := do
  ensure c deadline
  swapExactTokens router sender amountIn amountOutMin path dst c

def swapExactTokensForETH (receive : Receivers) (router WETH sender : Address)
    (amountIn amountOutMin : Nat) (path : List Address) (dst : Address) (deadline : Nat)
    (c : Chain) : Exec (Chain × List Nat) := do
  ensure c deadline
  let output ← last path
  require (output = WETH) "FluxSwapRouter: INVALID_PATH"
  let (c, amounts) ← swapExactTokens router sender amountIn amountOutMin path router c
  let amountOut ← last amounts
  let c ← Weth.withdraw receive WETH router amountOut c
  let c ← Chain.sendETH receive router dst amountOut c
  pure (c, amounts)

/-- The part that the exact-output swaps share: quote, bound on the input, payment, `_swap`. -/
def swapForExactTokens (router sender : Address) (amountOut amountInMax : Nat)
    (path : List Address) (dst : Address) (c : Chain) : Exec (Chain × List Nat) := do
  let amounts ← getAmountsIn c amountOut path
  let amountIn ← first amounts
  require (amountIn ≤ amountInMax) "FluxSwapRouter: EXCESSIVE_INPUT_AMOUNT"
  let c ← payFirstPair router sender amounts path c
  let c ← swapAlong router amounts path dst c
  pure (c, amounts)

def swapTokensForExactTokens (router sender : Address) (amountOut amountInMax : Nat)
    (path : List Address) (dst : Address) (deadline : Nat) (c : Chain) :
    Exec (Chain × List Nat) := do
  ensure c deadline
  swapForExactTokens router sender amountOut amountInMax path dst c

def swapTokensForExactETH (receive : Receivers) (router WETH sender : Address)
    (amountOut amountInMax : Nat) (path : List Address) (dst : Address) (deadline : Nat)
    (c : Chain) : Exec (Chain × List Nat) := do
  ensure c deadline
  let output ← last path
  require (output = WETH) "FluxSwapRouter: INVALID_PATH"
  let (c, amounts) ← swapForExactTokens router sender amountOut amountInMax path router c
  let amountOut ← last amounts
  let c ← Weth.withdraw receive WETH router amountOut c
  let c ← Chain.sendETH receive router dst amountOut c
  pure (c, amounts)

/-- A payable call: `msg.value` is the router's before its code runs. -/
def payValue (router sender : Address) (value : Nat) (c : Chain) : Exec Chain := do
  require (value ≤ c.eth sender) "insufficient ETH"
  pure (c.moveETH sender router value)

/-- `IWETH(WETH).deposit{value: amounts[0]}()`, then the asserted transfer to the first pair. -/
def wrapToFirstPair (router WETH : Address) : List Nat → List Address → Chain → Exec Chain
  | amount :: _, input :: output :: _, c => do
    require (amount ≤ c.eth router) "insufficient ETH"
    let c := Weth.deposit WETH router amount (c.moveETH router WETH amount)
    let pair ← getPairOrRevert c input output
    match c.transfer WETH router pair amount with
    | some c => pure c
    | none => .error (.message "assert(IWETH(WETH).transfer)")
  | _, _, _ => .error (.message "array out of bounds")

def swapExactETHForTokens (router WETH sender : Address) (value amountOutMin : Nat)
    (path : List Address) (dst : Address) (deadline : Nat) (c : Chain) :
    Exec (Chain × List Nat) := do
  let c ← payValue router sender value c
  ensure c deadline
  let input ← first path
  require (input = WETH) "FluxSwapRouter: INVALID_PATH"
  let amounts ← getAmountsOut c value path
  let amountOut ← last amounts
  require (amountOutMin ≤ amountOut) "FluxSwapRouter: INSUFFICIENT_OUTPUT_AMOUNT"
  let c ← wrapToFirstPair router WETH amounts path c
  let c ← swapAlong router amounts path dst c
  pure (c, amounts)

/-- The end of `swapETHForExactTokens`. -/
def refundExcess (receive : Receivers) (router sender : Address) (value amountIn : Nat)
    (c : Chain) : Exec Chain :=
  if amountIn < value then Chain.sendETH receive router sender (value - amountIn) c else pure c

def swapETHForExactTokens (receive : Receivers) (router WETH sender : Address)
    (value amountOut : Nat) (path : List Address) (dst : Address) (deadline : Nat) (c : Chain) :
    Exec (Chain × List Nat) := do
  let c ← payValue router sender value c
  ensure c deadline
  let input ← first path
  require (input = WETH) "FluxSwapRouter: INVALID_PATH"
  let amounts ← getAmountsIn c amountOut path
  let amountIn ← first amounts
  require (amountIn ≤ value) "FluxSwapRouter: EXCESSIVE_INPUT_AMOUNT"
  let c ← wrapToFirstPair router WETH amounts path c
  let c ← swapAlong router amounts path dst c
  let c ← refundExcess receive router sender value amountIn c
  pure (c, amounts)

/-- `receive`: only WETH may send ETH to the router. -/
def receive (WETH sender : Address) : Exec Unit :=
  require (sender = WETH) "assert(msg.sender == WETH)"

end FluxSwapRouter
