-- SUMMARY: The subgraph's mapping: entities, the handlers of the factory's and the pairs' events, and the ids of event entities.
import FluxSwap.Amm.Chain
import FluxSwap.Contracts.Abi
import Mathlib.Data.Nat.Digits.Lemmas

/-!
# The mapping of the subgraph

The index keeps one entity for every pair and one for every event. Handlers load the entity
of the pair that emitted the event and do nothing when there is none, so the data source that
`handlePairCreated` starts is what its entity already says. A `BigInt` is an integer.
-/

namespace Subgraph

/-! ## Entities -/

structure Token where
  symbol             : String
  name               : String
  decimals           : Nat
  createdAtTimestamp : Nat

/-- The entity `Pair`. -/
structure PairEntity where
  token0             : Address
  token1             : Address
  reserve0           : Int
  reserve1           : Int
  totalSupply        : Int
  txCount            : Int
  swapCount          : Int
  mintCount          : Int
  burnCount          : Int
  createdAtBlock     : Nat
  createdAtTimestamp : Nat
  createdAtTxHash    : Bytes

/-- Where an event stands in the chain. -/
structure Position where
  timestamp   : Nat
  blockNumber : Nat
  txHash      : Bytes
  logIndex    : Nat

structure MintEvent extends Position where
  pair    : Address
  sender  : Address
  amount0 : Nat
  amount1 : Nat

structure BurnEvent extends Position where
  pair    : Address
  sender  : Address
  dst     : Address
  amount0 : Nat
  amount1 : Nat

structure SwapEvent extends Position where
  pair       : Address
  sender     : Address
  dst        : Address
  amount0In  : Nat
  amount1In  : Nat
  amount0Out : Nat
  amount1Out : Nat

structure SyncEvent extends Position where
  pair     : Address
  reserve0 : Nat
  reserve1 : Nat

/-- The store of the index. -/
structure Store where
  tokens     : Address → Option Token
  pairs      : Address → Option PairEntity
  mintEvents : Bytes → Option MintEvent
  burnEvents : Bytes → Option BurnEvent
  swapEvents : Bytes → Option SwapEvent
  syncEvents : Bytes → Option SyncEvent

def Store.empty : Store :=
  ⟨fun _ => none, fun _ => none, fun _ => none, fun _ => none, fun _ => none, fun _ => none⟩

/-- An event of a pair, at its place in the chain. -/
structure Event where
  position : Position
  log      : Log

/-- `PairCreated` of the factory. -/
structure PairCreated where
  position : Position
  token0   : Address
  token1   : Address
  pair     : Address

/-- `event.address`. -/
def address : Log → Address
  | .transfer pair .. | .approval pair .. | .mint pair .. | .burn pair .. | .swap pair ..
  | .protocolFeePaid pair .. | .sync pair .. => pair

/-! ## Ids -/

/-- The bytes of a nonnegative `BigInt`: two's complement, least significant byte first, and
no byte more than needed. -/
def toSignedBytesLE (n : Nat) : Bytes :=
  let digits := Nat.digits 256 n
  let bytes := digits.map Nat.toUInt8
  if digits.getLast?.getD 128 < 128 then bytes else bytes ++ [0]

def buildEventId (txHash : Bytes) (logIndex : Nat) : Bytes := txHash ++ toSignedBytesLE logIndex

/-- The id under which the entity of an event is saved. -/
def Event.id (event : Event) : Bytes :=
  buildEventId event.position.txHash event.position.logIndex

/-! ## The factory -/

/-- `toHexString` of an address. -/
def toHexString (account : Address) : String :=
  "0x" ++ String.ofList ((Nat.toDigits 16 (account.val + 16 ^ 40)).drop 1)

/-- Symbol, name and decimals. -/
def getKnownTokenMetadata (account : Address) : Option (String × String × Nat) :=
  if account = 0xf881723bef047da1cd494795a797835241d3be29 then some ("WETH", "Wrapped Ether", 18)
  else if account = 0x5171c0fec2f9c4413a9aae39f3d3739aa30b1110 then some ("FLUX", "Flux Token", 18)
  else if account = 0xf4fc2de27781b6401609732e0aa7f7c354bde388 then some ("USDT", "Tether USD", 6)
  else if account = 0xa4049489d8689a55154c35f9809b1382b0972a79 then some ("USDC", "USD Coin", 6)
  else if account = 0xc97de7b464a4db1910c16ce7835b918b4440c42c then
    some ("WBTC", "Wrapped Bitcoin", 8)
  else none

def createTokenIfMissing (account : Address) (timestamp : Nat) (s : Store) : Store :=
  match s.tokens account with
  | some _ => s
  | none =>
    let (symbol, name, decimals) := (getKnownTokenMetadata account).getD
      (toHexString account, toHexString account, 18)
    { s with tokens := Function.update s.tokens account (some ⟨symbol, name, decimals, timestamp⟩) }

/-- The entity of a pair right after its creation. -/
def newPair (event : PairCreated) : PairEntity where
  token0 := event.token0
  token1 := event.token1
  reserve0 := 0
  reserve1 := 0
  totalSupply := 0
  txCount := 0
  swapCount := 0
  mintCount := 0
  burnCount := 0
  createdAtBlock := event.position.blockNumber
  createdAtTimestamp := event.position.timestamp
  createdAtTxHash := event.position.txHash

def handlePairCreated (event : PairCreated) (s : Store) : Store :=
  let s := createTokenIfMissing event.token0 event.position.timestamp s
  let s := createTokenIfMissing event.token1 event.position.timestamp s
  match s.pairs event.pair with
  | some _ => s
  | none => { s with pairs := Function.update s.pairs event.pair (some (newPair event)) }

/-! ## The pairs -/

/-- `pair.save()`. -/
def Store.savePair (s : Store) (id : Address) (pair : PairEntity) : Store :=
  { s with pairs := Function.update s.pairs id (some pair) }

def handleMint (event : Event) (self sender : Address) (amount0 amount1 : Nat) (s : Store) :
    Store :=
  match s.pairs self with
  | none => s
  | some pair =>
    let s := { s with mintEvents := Function.update s.mintEvents event.id (some
      { event.position with pair := self, sender := sender, amount0 := amount0,
                            amount1 := amount1 }) }
    s.savePair self { pair with
      mintCount := pair.mintCount + 1
      txCount := pair.txCount + 1 }

def handleBurn (event : Event) (self sender dst : Address) (amount0 amount1 : Nat) (s : Store) :
    Store :=
  match s.pairs self with
  | none => s
  | some pair =>
    let s := { s with burnEvents := Function.update s.burnEvents event.id (some
      { event.position with pair := self, sender := sender, dst := dst, amount0 := amount0,
                            amount1 := amount1 }) }
    s.savePair self { pair with
      burnCount := pair.burnCount + 1
      txCount := pair.txCount + 1 }

def handleSwap (event : Event) (self sender dst : Address)
    (amount0In amount1In amount0Out amount1Out : Nat) (s : Store) : Store :=
  match s.pairs self with
  | none => s
  | some pair =>
    let s := { s with swapEvents := Function.update s.swapEvents event.id (some
      { event.position with pair := self, sender := sender, dst := dst, amount0In := amount0In,
                            amount1In := amount1In, amount0Out := amount0Out,
                            amount1Out := amount1Out }) }
    s.savePair self { pair with
      swapCount := pair.swapCount + 1
      txCount := pair.txCount + 1 }

def handleSync (event : Event) (self : Address) (reserve0 reserve1 : Nat) (s : Store) : Store :=
  match s.pairs self with
  | none => s
  | some pair =>
    let s := { s with syncEvents := Function.update s.syncEvents event.id (some
      { event.position with pair := self, reserve0 := reserve0, reserve1 := reserve1 }) }
    s.savePair self { pair with reserve0 := reserve0, reserve1 := reserve1 }

def handleTransfer (self src dst : Address) (value : Nat) (s : Store) : Store :=
  match s.pairs self with
  | none => s
  | some pair =>
    if src = Address.zero then
      s.savePair self { pair with totalSupply := pair.totalSupply + value }
    else if dst = Address.zero then
      s.savePair self { pair with totalSupply := pair.totalSupply - value }
    else s.savePair self pair

/-- The handler of an event; approvals and protocol fees have none. -/
def handle (event : Event) (s : Store) : Store :=
  match event.log with
  | .mint self sender amount0 amount1 => handleMint event self sender amount0 amount1 s
  | .burn self sender amount0 amount1 dst => handleBurn event self sender dst amount0 amount1 s
  | .swap self sender amount0In amount1In amount0Out amount1Out dst =>
    handleSwap event self sender dst amount0In amount1In amount0Out amount1Out s
  | .sync self reserve0 reserve1 => handleSync event self reserve0 reserve1 s
  | .transfer self src dst value => handleTransfer self src dst value s
  | .approval .. | .protocolFeePaid .. => s

/-- What the node delivers, in the order of the chain. -/
inductive Delivery
  | pairCreated (event : PairCreated)
  | event (event : Event)

def process (s : Store) : Delivery → Store
  | .pairCreated event => handlePairCreated event s
  | .event event => handle event s

/-- The index after everything that was delivered. -/
def index (deliveries : List Delivery) : Store := deliveries.foldl process .empty

end Subgraph
