-- SUMMARY: The constant-product pair FluxSwapPair: mint, burn, swap with its callback and protocol fee, skim, sync.
import FluxSwap.Amm.Chain

/-!
# FluxSwapPair

Every function takes the chain and returns the new one, or reverts. The callback
of a flash swap is a parameter of `swap`: whatever the receiver does to the chain.
-/

open Exec

namespace Math

def min (x y : Nat) : Nat := if x < y then x else y

/-- The loop of `sqrt`. Every round lowers `z`, so `z` rounds are enough. -/
def sqrtLoop (y : Nat) : (rounds z x : Nat) → Exec Nat
  | 0, z, _ => pure z
  | rounds + 1, z, x =>
    if x < z then do
      let quotient ← Uint256.div y x
      let sum ← Uint256.add quotient x
      sqrtLoop y rounds x (sum / 2)
    else pure z

def sqrt (y : Nat) : Exec Nat :=
  if 3 < y then do
    let x ← Uint256.add (y / 2) 1
    sqrtLoop y y y x
  else if y ≠ 0 then pure 1
  else pure 0

end Math

namespace UQ112x112

/-- A `uint112` times `2 ^ 112` fits into 224 bits. -/
def encode (y : Nat) : Nat := y * 2 ^ 112

/-- Used with `y ≠ 0` only. -/
def uqdiv (x y : Nat) : Nat := x / y

end UQ112x112

namespace FluxSwapPair

def MINIMUM_LIQUIDITY : Nat := 10 ^ 3
def FEE_BPS_BASE : Nat := 10000
def TOTAL_SWAP_FEE_BPS : Nat := 30
def PROTOCOL_SWAP_FEE_BPS : Nat := 5
def LP_SWAP_FEE_BPS : Nat := TOTAL_SWAP_FEE_BPS - PROTOCOL_SWAP_FEE_BPS

/-- `type(uint112).max`. -/
def maxUint112 : Nat := 2 ^ 112 - 1

/-- `_safeTransfer`. -/
def safeTransfer (c : Chain) (self token dst : Address) (value : Nat) : Exec Chain :=
  match c.transfer token self dst value with
  | some c' => .ok c'
  | none => .error (.message "FluxSwap: TRANSFER_FAILED")

/-- A payment that is left out when its value is zero. -/
def sendPositive (c : Chain) (self token dst : Address) (value : Nat) : Exec Chain :=
  if 0 < value then safeTransfer c self token dst value else pure c

/-- The accumulators of `_update`: the old price times the elapsed seconds. -/
def accumulate (p : Pair) (reserve0 reserve1 timeElapsed : Nat) : Exec Pair :=
  if 0 < timeElapsed ∧ reserve0 ≠ 0 ∧ reserve1 ≠ 0 then do
    let weighted0 ← Uint256.mul (UQ112x112.uqdiv (UQ112x112.encode reserve1) reserve0) timeElapsed
    let price0 ← Uint256.add p.price0CumulativeLast weighted0
    let weighted1 ← Uint256.mul (UQ112x112.uqdiv (UQ112x112.encode reserve0) reserve1) timeElapsed
    let price1 ← Uint256.add p.price1CumulativeLast weighted1
    pure { p with price0CumulativeLast := price0, price1CumulativeLast := price1 }
  else pure p

/-- `_update`. -/
def update (c : Chain) (self : Address) (balance0 balance1 reserve0 reserve1 : Nat) :
    Exec Chain := do
  require (balance0 ≤ maxUint112 ∧ balance1 ≤ maxUint112) "FluxSwap: OVERFLOW"
  let p ← c.pairAt self
  let blockTimestamp := c.timestamp % 2 ^ 32
  let timeElapsed ← Uint256.sub blockTimestamp p.blockTimestampLast
  let p ← accumulate p reserve0 reserve1 timeElapsed
  let c := c.setPair self { p with
    reserve0 := balance0
    reserve1 := balance1
    blockTimestampLast := blockTimestamp }
  pure (c.emit (.sync self balance0 balance1))

/-- The modifier `lock`. -/
def lock {α : Type} (self : Address) (body : Chain → Exec (Chain × α)) (c : Chain) :
    Exec (Chain × α) := do
  let p ← c.pairAt self
  require (p.unlocked = 1) "FluxSwap: LOCKED"
  let (c, result) ← body (c.setPair self { p with unlocked := 0 })
  let p ← c.pairAt self
  pure (c.setPair self { p with unlocked := 1 }, result)

/-! ## Liquidity -/

/-- The LP to mint for a deposit; the first deposit locks `MINIMUM_LIQUIDITY`. -/
def mintedLiquidity (c : Chain) (self : Address) (p : Pair) (amount0 amount1 : Nat) :
    Exec (Chain × Nat) :=
  if p.totalSupply = 0 then do
    let product ← Uint256.mul amount0 amount1
    let root ← Math.sqrt product
    let liquidity ← Uint256.sub root MINIMUM_LIQUIDITY
    let c ← FluxSwapERC20.mint c self Address.zero MINIMUM_LIQUIDITY
    pure (c, liquidity)
  else do
    let scaled0 ← Uint256.mul amount0 p.totalSupply
    let share0 ← Uint256.div scaled0 p.reserve0
    let scaled1 ← Uint256.mul amount1 p.totalSupply
    let share1 ← Uint256.div scaled1 p.reserve1
    pure (c, Math.min share0 share1)

def mint (self sender dst : Address) : Chain → Exec (Chain × Nat) :=
  lock self fun c => do
    let p ← c.pairAt self
    let balance0 := c.tokens.balanceOf p.token0 self
    let balance1 := c.tokens.balanceOf p.token1 self
    let amount0 ← Uint256.sub balance0 p.reserve0
    let amount1 ← Uint256.sub balance1 p.reserve1
    let (c, liquidity) ← mintedLiquidity c self p amount0 amount1
    require (0 < liquidity) "FluxSwap: INSUFFICIENT_LIQUIDITY_MINTED"
    let c ← FluxSwapERC20.mint c self dst liquidity
    let c ← update c self balance0 balance1 p.reserve0 p.reserve1
    pure (c.emit (.mint self sender amount0 amount1), liquidity)

def burn (self sender dst : Address) : Chain → Exec (Chain × Nat × Nat) :=
  lock self fun c => do
    let p ← c.pairAt self
    let balance0 := c.tokens.balanceOf p.token0 self
    let balance1 := c.tokens.balanceOf p.token1 self
    let liquidity := c.tokens.balanceOf self self
    let scaled0 ← Uint256.mul liquidity balance0
    let amount0 ← Uint256.div scaled0 p.totalSupply
    let scaled1 ← Uint256.mul liquidity balance1
    let amount1 ← Uint256.div scaled1 p.totalSupply
    require (0 < amount0 ∧ 0 < amount1) "FluxSwap: INSUFFICIENT_LIQUIDITY_BURNED"
    let c ← FluxSwapERC20.burn c self self liquidity
    let c ← safeTransfer c self p.token0 dst amount0
    let c ← safeTransfer c self p.token1 dst amount1
    let c ← update c self (c.tokens.balanceOf p.token0 self) (c.tokens.balanceOf p.token1 self)
      p.reserve0 p.reserve1
    pure (c.emit (.burn self sender amount0 amount1 dst), amount0, amount1)

/-! ## Swap -/

/-- The first part of `swap`: the checks and the optimistic payment. -/
def sendOutputs (c : Chain) (self : Address) (p : Pair) (amount0Out amount1Out : Nat)
    (dst : Address) : Exec Chain := do
  require (0 < amount0Out ∨ 0 < amount1Out) "FluxSwap: INSUFFICIENT_OUTPUT_AMOUNT"
  require (amount0Out < p.reserve0 ∧ amount1Out < p.reserve1) "FluxSwap: INSUFFICIENT_LIQUIDITY"
  require (dst ≠ p.token0 ∧ dst ≠ p.token1) "FluxSwap: INVALID_TO"
  let c ← sendPositive c self p.token0 dst amount0Out
  sendPositive c self p.token1 dst amount1Out

/-- What arrived beyond the reserve that the output left. -/
def amountIn (balance reserve amountOut : Nat) : Nat :=
  if reserve - amountOut < balance then balance - (reserve - amountOut) else 0

/-- The protocol's share of the fee goes to the treasury, when one is set. Returns
    the balances after it and the fee that stays with the pool. -/
def payProtocolFee (c : Chain) (self : Address) (p : Pair)
    (amount0In amount1In balance0 balance1 : Nat) : Exec (Chain × Nat × Nat × Nat) :=
  if c.treasury ≠ Address.zero then do
    let scaled0 ← Uint256.mul amount0In PROTOCOL_SWAP_FEE_BPS
    let scaled1 ← Uint256.mul amount1In PROTOCOL_SWAP_FEE_BPS
    let protocolFee0 := scaled0 / FEE_BPS_BASE
    let protocolFee1 := scaled1 / FEE_BPS_BASE
    let treasury := c.treasury
    let c ← sendPositive c self p.token0 treasury protocolFee0
    let c ← sendPositive c self p.token1 treasury protocolFee1
    let balance0 ← Uint256.sub balance0 protocolFee0
    let balance1 ← Uint256.sub balance1 protocolFee1
    let c := if 0 < protocolFee0 ∨ 0 < protocolFee1 then
        c.emit (.protocolFeePaid self treasury protocolFee0 protocolFee1)
      else c
    pure (c, balance0, balance1, LP_SWAP_FEE_BPS)
  else pure (c, balance0, balance1, TOTAL_SWAP_FEE_BPS)

/-- `require(… , "FluxSwap: K")` on the balances adjusted by the fee. -/
def checkK (p : Pair) (amount0In amount1In balance0 balance1 lpFeeBps : Nat) : Exec Unit := do
  let scaled0 ← Uint256.mul balance0 FEE_BPS_BASE
  let fee0 ← Uint256.mul amount0In lpFeeBps
  let balance0Adjusted ← Uint256.sub scaled0 fee0
  let scaled1 ← Uint256.mul balance1 FEE_BPS_BASE
  let fee1 ← Uint256.mul amount1In lpFeeBps
  let balance1Adjusted ← Uint256.sub scaled1 fee1
  let adjusted ← Uint256.mul balance0Adjusted balance1Adjusted
  let product ← Uint256.mul p.reserve0 p.reserve1
  let scaled ← Uint256.mul product (FEE_BPS_BASE ^ 2)
  require (scaled ≤ adjusted) "FluxSwap: K"

/-- The last part of `swap`: what came in, the fees, the check of K, the new reserves. -/
def takeInputs (c : Chain) (self sender : Address) (p : Pair) (amount0Out amount1Out : Nat)
    (dst : Address) : Exec Chain := do
  let balance0 := c.tokens.balanceOf p.token0 self
  let balance1 := c.tokens.balanceOf p.token1 self
  let amount0In := amountIn balance0 p.reserve0 amount0Out
  let amount1In := amountIn balance1 p.reserve1 amount1Out
  require (0 < amount0In ∨ 0 < amount1In) "FluxSwap: INSUFFICIENT_INPUT_AMOUNT"
  let (c, balance0, balance1, lpFeeBps) ←
    payProtocolFee c self p amount0In amount1In balance0 balance1
  checkK p amount0In amount1In balance0 balance1 lpFeeBps
  let c ← update c self balance0 balance1 p.reserve0 p.reserve1
  pure (c.emit (.swap self sender amount0In amount1In amount0Out amount1Out dst))

/-- `swap`; `callback` is the receiver's `fluxSwapCall`, `pure` when there is no data. -/
def swap (self sender : Address) (amount0Out amount1Out : Nat) (dst : Address)
    (callback : Chain → Exec Chain) : Chain → Exec (Chain × Unit) :=
  lock self fun c => do
    let p ← c.pairAt self
    let c ← sendOutputs c self p amount0Out amount1Out dst
    let c ← callback c
    let c ← takeInputs c self sender p amount0Out amount1Out dst
    pure (c, ())

/-! ## Balances and reserves -/

def skim (self dst : Address) : Chain → Exec (Chain × Unit) :=
  lock self fun c => do
    let p ← c.pairAt self
    let excess0 ← Uint256.sub (c.tokens.balanceOf p.token0 self) p.reserve0
    let c ← safeTransfer c self p.token0 dst excess0
    let excess1 ← Uint256.sub (c.tokens.balanceOf p.token1 self) p.reserve1
    let c ← safeTransfer c self p.token1 dst excess1
    pure (c, ())

def sync (self : Address) : Chain → Exec (Chain × Unit) :=
  lock self fun c => do
    let p ← c.pairAt self
    let c ← update c self (c.tokens.balanceOf p.token0 self) (c.tokens.balanceOf p.token1 self)
      p.reserve0 p.reserve1
    pure (c, ())

end FluxSwapPair
