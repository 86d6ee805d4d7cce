-- SUMMARY: Runs of the pairs: every transaction, flash callbacks of any depth, and the invariant of a pair's storage and balances.
import FluxSwap.Lib.System
import FluxSwap.Amm.Pair

/-!
# Runs of the pairs

A transaction is a call of a pair or a movement of some token by an account that is
not a pair. The callback of a flash swap is a list of further transactions, which
may contain flash swaps of other pairs; a callback that tries a call and survives
its failure has the effect of the list without that call.

A run also stops where a callback is about to start, so that a statement about
every state reached covers the states that code inside a callback sees.
-/

open Exec

namespace FluxSwapPair

inductive Op
  | mint (pair : Address) (sender : Sender) (dst : Address)
  | burn (pair : Address) (sender : Sender) (dst : Address)
  | swap (pair : Address) (sender : Sender) (amount0Out amount1Out : Nat) (dst : Address)
      (callback : List Op)
  | skim (pair dst : Address)
  | sync (pair : Address)
  | transfer (token : Address) (sender : Sender) (dst : Address) (value : Nat)
  | transferFrom (token : Address) (sender : Sender) (src dst : Address) (value : Nat)
  | approve (token : Address) (sender : Sender) (spender : Address) (value : Nat)
  | permit (pair owner spender : Address) (value deadline : Nat) (recovered : Address)
  | setTreasury (treasury : Address)
  | advanceTime (seconds : Nat)

/-- `transfer` of any token, called by an account that is not a pair. -/
def callTransfer (c : Chain) (token sender dst : Address) (value : Nat) : Exec Chain := do
  require (c.pairs sender = none) "the sender is a pair"
  match c.transfer token sender dst value with
  | some c' => pure c'
  | none => .error (.message "transfer failed")

def callTransferFrom (c : Chain) (token sender src dst : Address) (value : Nat) : Exec Chain := do
  require (c.pairs sender = none) "the sender is a pair"
  match c.transferFrom token sender src dst value with
  | some c' => pure c'
  | none => .error (.message "transferFrom failed")

def callApprove (c : Chain) (token sender spender : Address) (value : Nat) : Exec Chain := do
  require (c.pairs sender = none) "the sender is a pair"
  match c.pairs token with
  | some _ => FluxSwapERC20.approve c token sender spender value
  | none => pure { c with tokens := c.tokens.approve token sender spender value }

/-- `permit`; no pair has a key to sign with. -/
def callPermit (c : Chain) (pair owner spender : Address) (value deadline : Nat)
    (recovered : Address) : Exec Chain := do
  require (c.pairs recovered = none) "the signer is a pair"
  FluxSwapERC20.permit c pair owner spender value deadline recovered

mutual

def exec : Op → Chain → Exec Chain
  | .mint pair sender dst, c => do
    let (c, _) ← mint pair sender dst c
    pure c
  | .burn pair sender dst, c => do
    let (c, _) ← burn pair sender dst c
    pure c
  | .swap pair sender amount0Out amount1Out dst callback, c => do
    let (c, _) ← swap pair sender amount0Out amount1Out dst (fun c => execAll callback c) c
    pure c
  | .skim pair dst, c => do
    let (c, _) ← skim pair dst c
    pure c
  | .sync pair, c => do
    let (c, _) ← sync pair c
    pure c
  | .transfer token sender dst value, c => callTransfer c token sender dst value
  | .transferFrom token sender src dst value, c => callTransferFrom c token sender src dst value
  | .approve token sender spender value, c => callApprove c token sender spender value
  | .permit pair owner spender value deadline recovered, c =>
    callPermit c pair owner spender value deadline recovered
  | .setTreasury treasury, c => pure { c with treasury := treasury }
  | .advanceTime seconds, c => pure { c with timestamp := c.timestamp + seconds }

def execAll : List Op → Chain → Exec Chain
  | [], c => pure c
  | op :: ops, c => do
    let c ← exec op c
    execAll ops c

end

/-- What happens in a run: a transaction, or a flash swap up to its callback. -/
inductive Move
  | op (op : Op)
  | enter (pair : Address) (amount0Out amount1Out : Nat) (dst : Address)

/-- A flash swap up to its callback: the pair is locked and has paid out. -/
def enterSwap (c : Chain) (pair : Address) (amount0Out amount1Out : Nat) (dst : Address) :
    Exec Chain := do
  let p ← c.pairAt pair
  require (p.unlocked = 1) "FluxSwap: LOCKED"
  sendOutputs (c.setPair pair { p with unlocked := 0 }) pair { p with unlocked := 0 }
    amount0Out amount1Out dst

def move (c : Chain) : Move → Exec Chain
  | .op op => exec op c
  | .enter pair amount0Out amount1Out dst => enterSwap c pair amount0Out amount1Out dst

/-- A pair right after the factory created it: no LP yet, and no approval by the new
    address. Its address is a hash of its two tokens, so it is neither of them. -/
structure Fresh (c : Chain) (pair : Address) (p : Pair) : Prop where
  address : pair ≠ Address.zero
  tokens_ne : p.token0 ≠ p.token1
  token0_ne : p.token0 ≠ pair
  token1_ne : p.token1 ≠ pair
  reserve0 : p.reserve0 = 0
  reserve1 : p.reserve1 = 0
  unlocked : p.unlocked = 1
  totalSupply : p.totalSupply = 0
  shares : ∀ a, c.tokens.balanceOf pair a = 0
  allowance : ∀ t s, c.tokens.allowance t pair s = 0

/-- A chain with any balances, on which every pair is fresh. -/
def Initial (c : Chain) : Prop := ∀ pair p, c.pairs pair = some p → Fresh c pair p

/-- All runs of the pairs. -/
def system : System Chain Move := .ofCalls Initial move

/-- The runs from a given chain, with their moves. -/
def runsFrom (c₀ : Chain) : System (Chain × System.History Chain Move) Move :=
  .ofCallsLogged (· = c₀) move

end FluxSwapPair
