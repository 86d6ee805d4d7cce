-- SUMMARY: The chain the exchange runs on: token balances, pair storages, the factory's settings, logs; and the LP token FluxSwapERC20.
import FluxSwap.Contracts.Basic

/-!
# The chain and the LP token

The state that the exchange contracts share. The LP token of a pair is the token
at the pair's own address, so its balances and allowances are in the same ledger
as those of every other token; the pair's storage keeps the total supply.

`FluxSwapERC20` adds up balances with checked additions. A balance is at most the
total supply, which `_mint` checks, so only that check is kept.
-/

/-- Storage of a `FluxSwapPair`, apart from its LP balances and allowances. -/
structure Pair where
  token0               : Address
  token1               : Address
  reserve0             : Nat
  reserve1             : Nat
  blockTimestampLast   : Nat
  price0CumulativeLast : Nat
  price1CumulativeLast : Nat
  unlocked             : Nat
  totalSupply          : Nat
  nonces               : Address → Nat

/-- The events of a pair; the first field is the pair that emits. -/
inductive Log
  | transfer (pair src dst : Address) (value : Nat)
  | approval (pair owner spender : Address) (value : Nat)
  | mint (pair sender : Address) (amount0 amount1 : Nat)
  | burn (pair sender : Address) (amount0 amount1 : Nat) (dst : Address)
  | swap (pair sender : Address) (amount0In amount1In amount0Out amount1Out : Nat) (dst : Address)
  | protocolFeePaid (pair treasury : Address) (amount0 amount1 : Nat)
  | sync (pair : Address) (reserve0 reserve1 : Nat)
  deriving DecidableEq, Repr

structure Chain where
  tokens    : Tokens
  eth       : Address → Nat
  timestamp : Nat
  treasury  : Address
  getPair   : Address → Address → Address
  pairs     : Address → Option Pair
  logs      : List Log

open Exec

namespace Chain

variable {c c' : Chain}

/-- The balance of an account in an asset. -/
def holding (c : Chain) (account : Address) : Asset → Nat
  | .eth => c.eth account
  | .token token => c.tokens.balanceOf token account

/-- A call to a pair reaches its storage; a call elsewhere reverts. -/
def pairAt (c : Chain) (pair : Address) : Exec Pair :=
  match c.pairs pair with
  | some p => .ok p
  | none => .error (.message "call to an address without a pair")

@[simp] theorem pairAt_eq_ok {pair : Address} {p : Pair} :
    c.pairAt pair = .ok p ↔ c.pairs pair = some p := by
  unfold pairAt
  split <;> simp_all

def setPair (c : Chain) (pair : Address) (p : Pair) : Chain :=
  { c with pairs := Function.update c.pairs pair (some p) }

def emit (c : Chain) (log : Log) : Chain := { c with logs := c.logs ++ [log] }

@[simp] theorem setPair_tokens (c : Chain) (pair : Address) (p : Pair) :
    (c.setPair pair p).tokens = c.tokens := rfl

@[simp] theorem setPair_pairs (c : Chain) (pair : Address) (p : Pair) :
    (c.setPair pair p).pairs = Function.update c.pairs pair (some p) := rfl

@[simp] theorem emit_tokens (c : Chain) (log : Log) : (c.emit log).tokens = c.tokens := rfl

@[simp] theorem emit_pairs (c : Chain) (log : Log) : (c.emit log).pairs = c.pairs := rfl

end Chain

/-! ## The LP token -/

namespace FluxSwapERC20

/-- `_transfer`. -/
def transfer (c : Chain) (self src dst : Address) (value : Nat) : Exec Chain := do
  require (src ≠ Address.zero) "FluxSwap: TRANSFER_FROM_ZERO_ADDRESS"
  require (dst ≠ Address.zero) "FluxSwap: TRANSFER_TO_ZERO_ADDRESS"
  let _ ← Uint256.sub (c.tokens.balanceOf self src) value
  let c := { c with tokens := c.tokens.move self src dst value }
  pure (c.emit (.transfer self src dst value))

/-- `_approve`. -/
def approve (c : Chain) (self owner spender : Address) (value : Nat) : Exec Chain := do
  require (owner ≠ Address.zero) "FluxSwap: APPROVE_FROM_ZERO_ADDRESS"
  require (spender ≠ Address.zero) "FluxSwap: APPROVE_TO_ZERO_ADDRESS"
  let c := { c with tokens := c.tokens.approve self owner spender value }
  pure (c.emit (.approval self owner spender value))

/-- The first half of `transferFrom`: an allowance of `type(uint256).max` is not spent. -/
def spendAllowance (c : Chain) (self sender src : Address) (value : Nat) : Exec Chain :=
  if c.tokens.allowance self src sender ≠ Uint256.max then do
    let left ← Uint256.sub (c.tokens.allowance self src sender) value
    let c := { c with tokens := c.tokens.approve self src sender left }
    pure (c.emit (.approval self src sender left))
  else pure c

def transferFrom (c : Chain) (self sender src dst : Address) (value : Nat) : Exec Chain := do
  let c ← spendAllowance c self sender src value
  transfer c self src dst value

/-- `permit`; `recovered` is what `ECDSA.recover` returns for the digest and the signature. -/
def permit (c : Chain) (self owner spender : Address) (value deadline : Nat)
    (recovered : Address) : Exec Chain := do
  require (c.timestamp ≤ deadline) "FluxSwap: EXPIRED"
  let p ← c.pairAt self
  let nonce ← Uint256.add (p.nonces owner) 1
  let c := c.setPair self { p with nonces := Function.update p.nonces owner nonce }
  require (recovered ≠ Address.zero ∧ recovered = owner) "FluxSwap: INVALID_SIGNATURE"
  approve c self owner spender value

/-- `_mint`. -/
def mint (c : Chain) (self dst : Address) (value : Nat) : Exec Chain := do
  let p ← c.pairAt self
  let total ← Uint256.add p.totalSupply value
  let c := c.setPair self { p with totalSupply := total }
  let c := { c with tokens := c.tokens.credit self dst value }
  pure (c.emit (.transfer self Address.zero dst value))

/-- `_burn`. -/
def burn (c : Chain) (self src : Address) (value : Nat) : Exec Chain := do
  require (src ≠ Address.zero) "FluxSwap: BURN_FROM_ZERO_ADDRESS"
  let p ← c.pairAt self
  let _ ← Uint256.sub (c.tokens.balanceOf self src) value
  let total ← Uint256.sub p.totalSupply value
  let c := { c with tokens := c.tokens.debit self src value }
  let c := c.setPair self { p with totalSupply := total }
  pure (c.emit (.transfer self src Address.zero value))

end FluxSwapERC20

/-! ## Transfers of any token -/

namespace Chain

/-- Call `transfer` of a token: an LP token runs `FluxSwapERC20`, any other one is a
    standard token. -/
def transfer (c : Chain) (token src dst : Address) (value : Nat) : Option Chain :=
  match c.pairs token with
  | some _ => (FluxSwapERC20.transfer c token src dst value).toOption
  | none => (c.tokens.transfer token src dst value).map fun tokens => { c with tokens := tokens }

/-- Call `transferFrom` of a token. -/
def transferFrom (c : Chain) (token spender src dst : Address) (value : Nat) : Option Chain :=
  match c.pairs token with
  | some _ => (FluxSwapERC20.transferFrom c token spender src dst value).toOption
  | none =>
    (c.tokens.transferFrom Uint256.max token spender src dst value).map
      fun tokens => { c with tokens := tokens }

/-- The token lets `src` pay `dst`. -/
def admits (c : Chain) (token src dst : Address) : Bool :=
  match c.pairs token with
  | some _ => decide (src ≠ Address.zero ∧ dst ≠ Address.zero)
  | none => !c.tokens.refuses token dst

/-- The chain after a payment: only an LP token logs its transfers here. -/
def moved (c : Chain) (token src dst : Address) (value : Nat) : Chain :=
  { c with
    tokens := c.tokens.move token src dst value
    logs := match c.pairs token with
      | some _ => c.logs ++ [.transfer token src dst value]
      | none => c.logs }

@[simp] theorem moved_tokens (c : Chain) (token src dst : Address) (value : Nat) :
    (c.moved token src dst value).tokens = c.tokens.move token src dst value := rfl

@[simp] theorem moved_pairs (c : Chain) (token src dst : Address) (value : Nat) :
    (c.moved token src dst value).pairs = c.pairs := rfl

variable {c c' : Chain} {token src dst : Address} {value : Nat}

theorem transfer_eq_some :
    c.transfer token src dst value = some c' ↔
      (value ≤ c.tokens.balanceOf token src ∧ c.admits token src dst = true) ∧
        c.moved token src dst value = c' := by
  unfold transfer admits moved
  cases hpair : c.pairs token with
  | none => simp [and_assoc]
  | some p =>
    by_cases hsrc : src = Address.zero
    · simp [FluxSwapERC20.transfer, require, hsrc, Except.toOption]
    by_cases hdst : dst = Address.zero
    · simp [FluxSwapERC20.transfer, require, hsrc, hdst, Except.toOption]
    by_cases hvalue : value ≤ c.tokens.balanceOf token src
    · simp [FluxSwapERC20.transfer, require, hsrc, hdst, hvalue, Uint256.sub, Except.toOption,
        emit]
    · simp [FluxSwapERC20.transfer, require, hsrc, hdst, hvalue, Uint256.sub, Except.toOption]

/-- What `transferFrom` of any token does: the transfer of a plain `transfer`, paid for by
    the spender's allowance. No allowance grows from zero. -/
structure MovedFrom (c c' : Chain) (token spender src dst : Address) (value : Nat) : Prop where
  enough : value ≤ c.tokens.balanceOf token src
  allowed : c.tokens.allowance token src spender = Uint256.max ∨
    value ≤ c.tokens.allowance token src spender
  balances : c'.tokens.balanceOf = (c.tokens.move token src dst value).balanceOf
  pairs : c'.pairs = c.pairs
  zeros : ∀ t o s, c.tokens.allowance t o s = 0 → c'.tokens.allowance t o s = 0
  source : (∃ p, c.pairs token = some p) → src ≠ Address.zero

/-- Call `approve` of a token. -/
def approve (c : Chain) (token owner spender : Address) (value : Nat) : Exec Chain :=
  match c.pairs token with
  | some _ => FluxSwapERC20.approve c token owner spender value
  | none => pure { c with tokens := c.tokens.approve token owner spender value }

theorem spendAllowance_cases {sender : Address}
    (h : FluxSwapERC20.spendAllowance c token sender src value = .ok c') :
    (c.tokens.allowance token src sender = Uint256.max ∧ c' = c) ∨
    (value ≤ c.tokens.allowance token src sender ∧ ∃ left,
      left = c.tokens.allowance token src sender - value ∧
      c' = emit { c with tokens := c.tokens.approve token src sender left }
        (.approval token src sender left)) := by
  unfold FluxSwapERC20.spendAllowance at h
  split at h
  · simp only [bind_eq_ok, Uint256.sub_eq_ok, pure_eq_ok] at h
    obtain ⟨_, ⟨hle, rfl⟩, rfl⟩ := h
    exact .inr ⟨hle, _, rfl, rfl⟩
  · rename_i hmax
    obtain rfl := pure_eq_ok.mp h
    exact .inl ⟨not_not.mp hmax, rfl⟩

/-- `transferFrom` is the LP token's own one or that of the ledger. -/
theorem transferFrom_cases {spender : Address}
    (h : c.transferFrom token spender src dst value = some c') :
    ((∃ p, c.pairs token = some p) ∧
      FluxSwapERC20.transferFrom c token spender src dst value = .ok c') ∨
    (c.pairs token = none ∧ ∃ tokens,
      c.tokens.transferFrom Uint256.max token spender src dst value = some tokens ∧
      c' = { c with tokens := tokens }) := by
  unfold transferFrom at h
  split at h
  · rename_i p hpair
    exact .inl ⟨⟨p, hpair⟩, toOption_eq_some.mp h⟩
  · rename_i hnone
    obtain ⟨tokens, hmove, rfl⟩ := Option.map_eq_some_iff.mp h
    exact .inr ⟨hnone, tokens, hmove, rfl⟩

/-- What `transferFrom` of any token writes: the allowance is spent, unless it is unlimited, and
    then the value is moved. -/
theorem transferFrom_effect {spender : Address}
    (h : c.transferFrom token spender src dst value = some c') :
    value ≤ c.tokens.balanceOf token src ∧
    ((∃ p, c.pairs token = some p) → src ≠ Address.zero) ∧
    ∃ tokens logs, c' = { c with tokens := tokens.move token src dst value, logs := logs } ∧
      ((c.tokens.allowance token src spender = Uint256.max ∧ tokens = c.tokens) ∨
      (value ≤ c.tokens.allowance token src spender ∧
        tokens = c.tokens.approve token src spender
          (c.tokens.allowance token src spender - value))) := by
  rcases transferFrom_cases h with ⟨-, hrun⟩ | ⟨hnone, tokens, hrun, rfl⟩
  · simp only [FluxSwapERC20.transferFrom, FluxSwapERC20.transfer, bind_eq_ok, require_eq_ok,
      Uint256.sub_eq_ok, pure_eq_ok] at hrun
    obtain ⟨c₁, hspend, _, hsrc, _, -, _, ⟨hle, -⟩, rfl⟩ := hrun
    obtain ⟨hmax, rfl⟩ | ⟨hallowed, _, rfl, rfl⟩ := spendAllowance_cases hspend
    · exact ⟨hle, fun _ => hsrc, _, _, rfl, .inl ⟨hmax, rfl⟩⟩
    · exact ⟨hle, fun _ => hsrc, _, _, rfl, .inr ⟨hallowed, rfl⟩⟩
  · have hstandard : ¬∃ p, c.pairs token = some p := by simp [hnone]
    obtain ⟨tokens₁, hspend, hmove⟩ := Option.bind_eq_some_iff.mp hrun
    obtain ⟨⟨hle, -⟩, rfl⟩ := Ledger.transfer_eq_some.mp hmove
    rw [Ledger.spend_balanceOf hspend] at hle
    exact ⟨hle, fun hpair => absurd hpair hstandard, tokens₁, c.logs, rfl,
      Ledger.spend_cases hspend⟩

theorem transferFrom_spec {spender : Address}
    (h : c.transferFrom token spender src dst value = some c') :
    MovedFrom c c' token spender src dst value := by
  obtain ⟨hle, hsrc, tokens, logs, rfl, hspent⟩ := transferFrom_effect h
  obtain ⟨hmax, rfl⟩ | ⟨hallowed, rfl⟩ := hspent
  · exact ⟨hle, .inl hmax, rfl, rfl, fun _ _ _ hzero => hzero, hsrc⟩
  · exact ⟨hle, .inr hallowed, rfl, rfl,
      fun _ _ _ hzero => Ledger.approve_eq_zero (Nat.sub_le _ _) hzero, hsrc⟩

end Chain

/-! ## ETH -/

/-- What the code of an account does when it is sent ETH: sender, receiver, value. -/
abbrev Receivers : Type := Address → Address → Nat → Chain → Exec Chain

namespace Chain

def moveETH (c : Chain) (src dst : Address) (value : Nat) : Chain :=
  { c with eth := fun a =>
      c.eth a - (if a = src then value else 0) + (if a = dst then value else 0) }

theorem moveETH_add {c : Chain} {src : Address} {value : Nat} (dst : Address)
    (h : value ≤ c.eth src) (a : Address) :
    (c.moveETH src dst value).eth a + (if a = src then value else 0) =
      c.eth a + if a = dst then value else 0 := by
  simp only [moveETH]
  by_cases ha : a = src
  · subst ha
    simp only [if_true]
    omega
  · simp [ha]

/-- A call with a value and no data: the ETH moves, then the receiver's code runs. -/
def sendETH (receive : Receivers) (src dst : Address) (value : Nat) (c : Chain) : Exec Chain := do
  require (value ≤ c.eth src) "insufficient ETH"
  receive src dst value (c.moveETH src dst value)

theorem sendETH_eq_ok {receive : Receivers} {src dst : Address} {value : Nat} {c c' : Chain} :
    c.sendETH receive src dst value = .ok c' ↔
      value ≤ c.eth src ∧ receive src dst value (c.moveETH src dst value) = .ok c' := by
  simp [sendETH, bind_eq_ok]

end Chain

namespace Weth

/-- A payment of ETH to WETH is a deposit of the sender. -/
def deposit (WETH sender : Address) (value : Nat) (c : Chain) : Chain :=
  { c with tokens := c.tokens.credit WETH sender value }

def withdraw (receive : Receivers) (WETH sender : Address) (wad : Nat) (c : Chain) :
    Exec Chain := do
  require (wad ≤ c.tokens.balanceOf WETH sender) "Insufficient balance"
  let c := { c with tokens := c.tokens.debit WETH sender wad }
  Chain.sendETH receive WETH sender wad c

end Weth
