-- SUMMARY: The router's liquidity entry points: creating the pair, choosing the amounts, paying the pair and minting.
import FluxSwap.Amm.Conservation

/-!
# Adding liquidity

`addLiquidity` and `addLiquidityETH` create the pair when there is none, choose the two
amounts from the reserves, pay them to the pair and mint. The choice is the same in both,
apart from the texts of its errors. The address that `create2` yields is a parameter.
-/

open Exec

/-- The storage of a pair after its constructor and `initialize`. -/
def Pair.created (token0 token1 : Address) : Pair where
  token0 := token0
  token1 := token1
  reserve0 := 0
  reserve1 := 0
  blockTimestampLast := 0
  price0CumulativeLast := 0
  price1CumulativeLast := 0
  unlocked := 1
  totalSupply := 0
  nonces := fun _ => 0

namespace FluxSwapRouter

/-- The smaller token first. -/
def ordered (tokenA tokenB : Address) : Address × Address :=
  if tokenA < tokenB then (tokenA, tokenB) else (tokenB, tokenA)

/-- `FluxSwapFactory.createPair`, together with the storage of the new pair. -/
def createPair (create2 : Address → Address → Address) (tokenA tokenB : Address) (c : Chain) :
    Exec Chain := do
  require (tokenA ≠ tokenB) "FluxSwap: IDENTICAL_ADDRESSES"
  let (token0, token1) := ordered tokenA tokenB
  require (token0 ≠ Address.zero) "FluxSwap: ZERO_ADDRESS"
  require (c.getPair token0 token1 = Address.zero) "FluxSwap: PAIR_EXISTS"
  let pair := create2 token0 token1
  require (pair ≠ Address.zero) "FluxSwap: CREATE2_FAILED"
  let c := c.setPair pair (Pair.created token0 token1)
  pure { c with getPair := fun a b =>
      if (a = token0 ∧ b = token1) ∨ (a = token1 ∧ b = token0) then pair else c.getPair a b }

/-- The first lines of both functions. -/
def ensurePair (create2 : Address → Address → Address) (tokenA tokenB : Address) (c : Chain) :
    Exec Chain :=
  if c.getPair tokenA tokenB = Address.zero then createPair create2 tokenA tokenB c else pure c

def quote (amountA reserveA reserveB : Nat) : Exec Nat := do
  require (0 < amountA) "FluxSwapRouter: INSUFFICIENT_AMOUNT"
  require (0 < reserveA ∧ 0 < reserveB) "FluxSwapRouter: INSUFFICIENT_LIQUIDITY"
  let product ← Uint256.mul amountA reserveB
  Uint256.div product reserveA

/-! ## The amounts -/

/-- What the caller offers of one token, the least it accepts to use, and the error below that. -/
structure Offer where
  desired      : Nat
  minimum      : Nat
  insufficient : String

/-- The reserve checks: the amounts used of two offers; `assertion` is the error of the `assert`. -/
def chooseAmounts (a b : Offer) (assertion : String) (reserveA reserveB : Nat) :
    Exec (Nat × Nat) :=
  if reserveA = 0 ∧ reserveB = 0 then do
    require (a.minimum ≤ a.desired) a.insufficient
    require (b.minimum ≤ b.desired) b.insufficient
    pure (a.desired, b.desired)
  else do
    let amountBOptimal ← quote a.desired reserveA reserveB
    if amountBOptimal ≤ b.desired then do
      require (a.minimum ≤ a.desired) a.insufficient
      require (b.minimum ≤ amountBOptimal) b.insufficient
      pure (a.desired, amountBOptimal)
    else do
      let amountAOptimal ← quote b.desired reserveB reserveA
      require (amountAOptimal ≤ a.desired) assertion
      require (a.minimum ≤ amountAOptimal) a.insufficient
      require (b.minimum ≤ b.desired) b.insufficient
      pure (amountAOptimal, b.desired)

structure AddLiquidityParams where
  tokenA         : Address
  tokenB         : Address
  amountADesired : Nat
  amountBDesired : Nat
  amountAMin     : Nat
  amountBMin     : Nat
  dst            : Address

structure AddLiquidityETHParams where
  token              : Address
  amountTokenDesired : Nat
  amountTokenMin     : Nat
  amountETHMin       : Nat
  dst                : Address
  value              : Nat

/-- The choice in `_addLiquidity`. -/
def AddLiquidityParams.amounts (params : AddLiquidityParams) : Nat → Nat → Exec (Nat × Nat) :=
  chooseAmounts
    ⟨params.amountADesired, params.amountAMin, "FluxSwapRouter: INSUFFICIENT_A_AMOUNT"⟩
    ⟨params.amountBDesired, params.amountBMin, "FluxSwapRouter: INSUFFICIENT_B_AMOUNT"⟩
    "assert(amountAOptimal <= amountADesired)"

/-- The choice in `_addLiquidityETH`. -/
def AddLiquidityETHParams.amounts (params : AddLiquidityETHParams) :
    Nat → Nat → Exec (Nat × Nat) :=
  chooseAmounts
    ⟨params.amountTokenDesired, params.amountTokenMin, "FluxSwapRouter: INSUFFICIENT_TOKEN_AMOUNT"⟩
    ⟨params.value, params.amountETHMin, "FluxSwapRouter: INSUFFICIENT_ETH_AMOUNT"⟩
    "assert(amountTokenOptimal <= amountTokenDesired)"

/-! ## The entry points -/

/-- `_addLiquidity`. -/
def AddLiquidityParams.run (params : AddLiquidityParams) (create2 : Address → Address → Address)
    (router sender : Address) (c : Chain) : Exec (Chain × Nat × Nat × Nat) := do
  let c ← ensurePair create2 params.tokenA params.tokenB c
  let (reserveA, reserveB) ← getReserves c params.tokenA params.tokenB
  let (amountA, amountB) ← params.amounts reserveA reserveB
  let pair := c.getPair params.tokenA params.tokenB
  let c ← safeTransferFrom router params.tokenA sender pair amountA c
  let c ← safeTransferFrom router params.tokenB sender pair amountB c
  let (c, liquidity) ← FluxSwapPair.mint pair router params.dst c
  pure (c, amountA, amountB, liquidity)

def addLiquidity (create2 : Address → Address → Address) (router sender : Address)
    (params : AddLiquidityParams) (deadline : Nat) (c : Chain) :
    Exec (Chain × Nat × Nat × Nat) := do
  ensure c deadline
  params.run create2 router sender c

/-- `IWETH(WETH).deposit` of the router, then the asserted transfer to the pair. -/
def wrapInto (router WETH pair : Address) (amount : Nat) (c : Chain) : Exec Chain := do
  require (amount ≤ c.eth router) "insufficient ETH"
  let c := Weth.deposit WETH router amount (c.moveETH router WETH amount)
  match c.transfer WETH router pair amount with
  | some c => pure c
  | none => .error (.message "assert(IWETH(WETH).transfer)")

/-- `_addLiquidityETH`. -/
def AddLiquidityETHParams.run (params : AddLiquidityETHParams)
    (create2 : Address → Address → Address) (receive : Receivers) (router WETH sender : Address)
    (c : Chain) : Exec (Chain × Nat × Nat × Nat) := do
  let c ← ensurePair create2 params.token WETH c
  let (reserveToken, reserveETH) ← getReserves c params.token WETH
  let (amountToken, amountETH) ← params.amounts reserveToken reserveETH
  let pair := c.getPair params.token WETH
  let c ← safeTransferFrom router params.token sender pair amountToken c
  let c ← wrapInto router WETH pair amountETH c
  let (c, liquidity) ← FluxSwapPair.mint pair router params.dst c
  let c ← refundExcess receive router sender params.value amountETH c
  pure (c, amountToken, amountETH, liquidity)

/-- `addLiquidityETH`; the value of the call is a field of its parameters. -/
def addLiquidityETH (create2 : Address → Address → Address) (receive : Receivers)
    (router WETH sender : Address) (params : AddLiquidityETHParams) (deadline : Nat) (c : Chain) :
    Exec (Chain × Nat × Nat × Nat) := do
  let c ← payValue router sender params.value c
  ensure c deadline
  params.run create2 receive router WETH sender c

end FluxSwapRouter
