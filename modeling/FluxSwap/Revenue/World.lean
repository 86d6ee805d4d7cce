-- SUMMARY: The chain of the revenue pipeline: treasury, router, buyback executor, reward manager and revenue distributor at their addresses.
import FluxSwap.Amm.Router
import FluxSwap.Treasury.Steps
import FluxSwap.Manager.Model
import FluxSwap.Revenue.Executor
import FluxSwap.Revenue.Distributor

/-!
# The contracts around the revenue pipeline

Five kinds of contracts work on one chain. Balances, allowances and pairs are in the
`Chain`; every other storage is kept at the address of its contract. The treasury and the
manager see the chain only for the length of a call, so what their storages say about
balances and time between two calls is never read. A call to an address that has no contract
of the right kind reverts.
-/

open Exec

inductive RevenueContract
  | treasury (s : Treasury Unit)
  | router
  | executor (x : BuybackExecutor)
  | manager (m : MultiPoolManager)
  | distributor (x : RevenueDistributor)

structure RevenueChain where
  chain      : Chain
  contractAt : Address → Option RevenueContract

/-! ## The treasury and the manager on a chain -/

namespace Chain

/-- Call `burn(uint256)` of a token; a pair has no such function. -/
def burnTokens (c : Chain) (token src : Address) (value : Nat) : Option Chain :=
  match c.pairs token with
  | some _ => none
  | none =>
    if value ≤ c.tokens.balanceOf token src then
      some { c with tokens := c.tokens.debit token src value }
    else none

theorem burnTokens_eq_some {c c' : Chain} {token src : Address} {value : Nat} :
    c.burnTokens token src value = some c' ↔
      c.pairs token = none ∧ value ≤ c.tokens.balanceOf token src ∧
        { c with tokens := c.tokens.debit token src value } = c' := by
  unfold burnTokens
  cases c.pairs token with
  | some p => simp
  | none => by_cases hle : value ≤ c.tokens.balanceOf token src <;> simp [hle]

/-- The tokens of the chain; an LP token refuses the zero address only. -/
def ledger (c : Chain) : Tokens :=
  { c.tokens with
    refuses := fun token dst =>
      match c.pairs token with
      | some _ => decide (dst = Address.zero)
      | none => c.tokens.refuses token dst }

/-- Payments of the treasury; `receive` is the code of the accounts that it pays in ETH. -/
def payments (receive : Receivers) : Payments Chain where
  transfer token src dst amount c := c.transfer token src dst amount
  burn token src amount c := c.burnTokens token src amount
  sendETH src dst amount c := (c.sendETH receive src dst amount).toOption

end Chain

namespace Treasury

def onChain (s : Treasury Unit) (c : Chain) : Treasury Chain :=
  { s with timestamp := c.timestamp, assets := c }

def offChain (s : Treasury Chain) : Treasury Unit := { s with assets := () }

@[simp] theorem onChain_self (s : Treasury Unit) (c : Chain) : (s.onChain c).self = s.self := rfl

@[simp] theorem onChain_assets (s : Treasury Unit) (c : Chain) : (s.onChain c).assets = c := rfl

@[simp] theorem offChain_self (s : Treasury Chain) : s.offChain.self = s.self := rfl

end Treasury

namespace RevenueContract

/-- What the `paused()` probe of a caller finds. -/
def paused : RevenueContract → Bool
  | .treasury s => s.paused
  | .router => false
  | .executor x => x.paused
  | .manager m => m.paused
  | .distributor x => x.paused

/-- The address that a contract takes for its own. -/
def LivesAt (a : Address) : RevenueContract → Prop
  | .treasury s => s.self = a
  | .router => True
  | .executor x => x.self = a
  | .manager m => m.self = a
  | .distributor x => x.self = a

end RevenueContract

/-! ## Calls between the contracts -/

namespace RevenueChain

def noSuchFunction : Revert := .message "no such function"

def pausedAt (source : Address) (w : RevenueChain) : Bool :=
  match w.contractAt source with
  | some k => k.paused
  | none => false

/-- A new storage at an address. -/
def put (w : RevenueChain) (a : Address) (k : RevenueContract) : RevenueChain :=
  { w with contractAt := Function.update w.contractAt a (some k) }

/-- Run a function of the treasury at an address. -/
def callTreasury (treasury : Address) (f : Treasury Chain → Exec (Treasury Chain))
    (w : RevenueChain) : Exec RevenueChain :=
  match w.contractAt treasury with
  | some (.treasury s) => do
    let s ← f (s.onChain w.chain)
    pure ({ w with chain := s.assets }.put treasury (.treasury s.offChain))
  | _ => .error noSuchFunction

section Calls

variable (receive : Receivers)

def pullApprovedToken (treasury sender token : Address) (amount : Nat) (w : RevenueChain) :
    Exec RevenueChain :=
  w.callTreasury treasury (Treasury.pullApprovedToken (Chain.payments receive) sender token amount)

def burnApprovedToken (treasury sender token : Address) (amount : Nat) (w : RevenueChain) :
    Exec RevenueChain :=
  w.callTreasury treasury (Treasury.burnApprovedToken (Chain.payments receive) sender token amount)

def swapExactTokensForTokens (router sender : Address) (amountIn amountOutMin : Nat)
    (path : List Address) (dst : Address) (deadline : Nat) (w : RevenueChain) :
    Exec (RevenueChain × List Nat) :=
  match w.contractAt router with
  | some .router => do
    let (c, amounts) ← FluxSwapRouter.swapExactTokensForTokens router sender amountIn amountOutMin
      path dst deadline w.chain
    pure ({ w with chain := c }, amounts)
  | _ => .error noSuchFunction

def transfer (token src dst : Address) (amount : Nat) (w : RevenueChain) : Exec RevenueChain :=
  match w.chain.transfer token src dst amount with
  | some c => .ok { w with chain := c }
  | none => .error (.message "TransferHelper: TRANSFER_FAILED")

def managerTreasury (manager : Address) (w : RevenueChain) : Exec Address :=
  match w.contractAt manager with
  | some (.manager m) => .ok m.treasury
  | _ => .error noSuchFunction

def rewardToken (manager : Address) (w : RevenueChain) : Exec Address :=
  match w.contractAt manager with
  | some (.manager m) => .ok m.rewardToken
  | _ => .error noSuchFunction

def executorTreasury (executor : Address) (w : RevenueChain) : Exec Address :=
  match w.contractAt executor with
  | some (.executor x) => .ok x.treasury
  | _ => .error noSuchFunction

def buyToken (executor : Address) (w : RevenueChain) : Exec Address :=
  match w.contractAt executor with
  | some (.executor x) => .ok x.buyToken
  | _ => .error noSuchFunction

/-- What the manager learns from its call of the treasury. -/
def answerOf (paused : Bool) : Exec RevenueChain → TreasuryAnswer
  | .ok _ => ⟨paused, .ok ()⟩
  | .error (.message text) => ⟨paused, .error text⟩
  | .error (.panic _) => ⟨paused, .error "panic"⟩

/-- `distributeRewards` of a manager: in the middle of it the treasury pays the manager. -/
def distributeRewards (manager sender : Address) (totalReward : Nat) (w : RevenueChain) :
    Exec RevenueChain :=
  match w.contractAt manager with
  | some (.manager m) => do
    let pulled := w.pullApprovedToken receive m.treasury manager m.rewardToken totalReward
    let m ← { m with tokens := w.chain.ledger }.distributeRewards
      (answerOf (w.pausedAt m.treasury) pulled) sender totalReward
    let w ← pulled
    pure (w.put manager (.manager m))
  | _ => .error noSuchFunction

/-- What an executor calls. -/
def aroundExecutor : BuybackSurroundings RevenueChain where
  paused := pausedAt
  pullApprovedToken := pullApprovedToken receive
  approve token owner spender amount w :=
    (w.chain.approve token owner spender amount).toOption.map fun c => { w with chain := c }
  swapExactTokensForTokens := swapExactTokensForTokens
  transfer := transfer

def executeBuyback (executor sender spendToken : Address) (amountIn amountOutMin : Nat)
    (path : List Address) (recipient : Address) (deadline : Nat) (w : RevenueChain) :
    Exec (RevenueChain × Nat) :=
  match w.contractAt executor with
  | some (.executor x) =>
    x.executeBuyback (aroundExecutor receive) sender spendToken amountIn amountOutMin path recipient
      deadline w
  | _ => .error noSuchFunction

/-- What a distributor calls. -/
def aroundDistributor : RevenueSurroundings RevenueChain where
  rewardToken := rewardToken
  managerTreasury := managerTreasury
  buyToken := buyToken
  executorTreasury := executorTreasury
  executeBuyback := executeBuyback receive
  burnApprovedToken := burnApprovedToken receive
  distributeRewards := distributeRewards receive
  transfer := transfer

def executeBuybackAndDistribute (distributor sender spendToken : Address)
    (revenueAmount amountOutMin : Nat) (path : List Address) (deadline : Nat) (w : RevenueChain) :
    Exec (RevenueChain × Nat) :=
  match w.contractAt distributor with
  | some (.distributor x) =>
    x.executeBuybackAndDistribute (aroundDistributor receive) sender spendToken revenueAmount
      amountOutMin path deadline w
  | _ => .error noSuchFunction

end Calls

/-- Every contract is at its own address, none is a pair, and none is at `address(0)`. -/
structure Placed (w : RevenueChain) : Prop where
  zero : w.contractAt Address.zero = none
  home : ∀ a k, w.contractAt a = some k → k.LivesAt a
  pairs : ∀ a k, w.contractAt a = some k → w.chain.pairs a = none

/-! ## What the calls leave -/

variable {receive : Receivers} {w w' : RevenueChain} {treasury sender token : Address} {amount : Nat}

theorem managerTreasury_eq_ok {manager : Address}
    (h : w.managerTreasury manager = .ok treasury) :
    ∃ m, w.contractAt manager = some (.manager m) ∧ m.treasury = treasury := by
  unfold managerTreasury at h
  split at h
  · rename_i m hm
    exact ⟨m, hm, Except.ok.inj h⟩
  · cases h

theorem rewardToken_eq_ok {manager : Address} (h : w.rewardToken manager = .ok token) :
    ∃ m, w.contractAt manager = some (.manager m) ∧ m.rewardToken = token := by
  unfold rewardToken at h
  split at h
  · rename_i m hm
    exact ⟨m, hm, Except.ok.inj h⟩
  · cases h

theorem executorTreasury_eq_ok {executor : Address}
    (h : w.executorTreasury executor = .ok treasury) :
    ∃ x, w.contractAt executor = some (.executor x) ∧ x.treasury = treasury := by
  unfold executorTreasury at h
  split at h
  · rename_i x hx
    exact ⟨x, hx, Except.ok.inj h⟩
  · cases h

/-- Only treasuries have written to their storages. -/
structure OnlyTreasuries (w w' : RevenueChain) : Prop where
  treasuries : ∀ a s, w.contractAt a = some (.treasury s) →
    ∃ s', w'.contractAt a = some (.treasury s') ∧ s'.self = s.self
  others : ∀ a k, (∀ s, k ≠ .treasury s) → w.contractAt a = some k → w'.contractAt a = some k

theorem OnlyTreasuries.refl (w : RevenueChain) : OnlyTreasuries w w :=
  ⟨fun _ s hs => ⟨s, hs, rfl⟩, fun _ _ _ hk => hk⟩

theorem OnlyTreasuries.trans {w'' : RevenueChain} (h : OnlyTreasuries w w')
    (h' : OnlyTreasuries w' w'') : OnlyTreasuries w w'' where
  treasuries a s hs := by
    obtain ⟨s', hs', hself⟩ := h.treasuries a s hs
    obtain ⟨s'', hs'', hself'⟩ := h'.treasuries a s' hs'
    exact ⟨s'', hs'', hself'.trans hself⟩
  others a k hk hcontract := h'.others a k hk (h.others a k hk hcontract)

theorem onlyTreasuries_chain (w : RevenueChain) (c : Chain) :
    OnlyTreasuries w { w with chain := c } :=
  ⟨fun _ s hs => ⟨s, hs, rfl⟩, fun _ _ _ hk => hk⟩

theorem onlyTreasuries_put {s s' : Treasury Unit} (hs : w.contractAt treasury = some (.treasury s))
    (hself : s'.self = s.self) : OnlyTreasuries w (w.put treasury (.treasury s')) where
  treasuries a r hr := by
    by_cases ha : a = treasury
    · subst ha
      obtain rfl : s = r := by simpa [hs] using hr
      exact ⟨s', by simp [put], hself⟩
    · exact ⟨r, by simpa [put, ha] using hr, rfl⟩
  others a k hk hcontract := by
    have ha : a ≠ treasury := by
      rintro rfl
      rw [hs, Option.some.injEq] at hcontract
      exact hk s hcontract.symm
    simpa [put, ha] using hcontract

/-- A treasury lives at the address. -/
def TreasuryAt (w : RevenueChain) (a : Address) : Prop :=
  ∃ s, w.contractAt a = some (.treasury s) ∧ s.self = a

theorem TreasuryAt.home {a : Address} (h : w.TreasuryAt a) {s : Treasury Unit}
    (hs : w.contractAt a = some (.treasury s)) : s.self = a := by
  obtain ⟨r, hr, hself⟩ := h
  obtain rfl : r = s := by simpa [hr] using hs
  exact hself

theorem OnlyTreasuries.treasuryAt {a : Address} (h : OnlyTreasuries w w') (ha : w.TreasuryAt a) :
    w'.TreasuryAt a := by
  obtain ⟨s, hs, hself⟩ := ha
  obtain ⟨s', hs', hself'⟩ := h.treasuries a s hs
  exact ⟨s', hs', hself'.trans hself⟩

theorem callTreasury_eq_ok {f : Treasury Chain → Exec (Treasury Chain)}
    (h : w.callTreasury treasury f = .ok w') :
    ∃ s s', w.contractAt treasury = some (.treasury s) ∧ f (s.onChain w.chain) = .ok s' ∧
      w' = { w with chain := s'.assets }.put treasury (.treasury s'.offChain) := by
  unfold callTreasury at h
  split at h
  · rename_i s hs
    simp only [bind_eq_ok, pure_eq_ok] at h
    obtain ⟨s', hf, rfl⟩ := h
    exact ⟨s, s', hs, hf, rfl⟩
  · cases h

theorem pullApprovedToken_only (h : w.pullApprovedToken receive treasury sender token amount = .ok w') :
    OnlyTreasuries w w' := by
  obtain ⟨s, s', hs, hpull, rfl⟩ := callTreasury_eq_ok h
  obtain ⟨-, s₁, c, hconsume, -, rfl⟩ := Treasury.pullApprovedToken_eq_ok hpull
  exact (onlyTreasuries_chain w c).trans
    (onlyTreasuries_put hs (Treasury.consumeApprovedSpender_keeps hconsume).1)

theorem burnApprovedToken_only (h : w.burnApprovedToken receive treasury sender token amount = .ok w') :
    OnlyTreasuries w w' := by
  obtain ⟨s, s', hs, hburn, rfl⟩ := callTreasury_eq_ok h
  obtain ⟨-, s₁, c, hconsume, -, rfl⟩ := Treasury.burnApprovedToken_eq_ok hburn
  exact (onlyTreasuries_chain w c).trans
    (onlyTreasuries_put hs (Treasury.consumeApprovedSpender_keeps hconsume).1)

/-- Only a treasury can be pulled from. -/
theorem Placed.treasuryAt (hplaced : w.Placed)
    (h : w.pullApprovedToken receive treasury sender token amount = .ok w') :
    w.TreasuryAt treasury := by
  obtain ⟨s, -, hs, -⟩ := callTreasury_eq_ok h
  exact ⟨s, hs, hplaced.home treasury _ hs⟩

/-- The treasury transfers what is pulled to the caller. -/
theorem pullApprovedToken_effect (hhome : w.TreasuryAt treasury)
    (h : w.pullApprovedToken receive treasury sender token amount = .ok w') :
    w.chain.transfer token treasury sender amount = some w'.chain := by
  obtain ⟨s, s', hs, hpull, rfl⟩ := callTreasury_eq_ok h
  obtain ⟨-, s₁, c, hconsume, hpaid, rfl⟩ := Treasury.pullApprovedToken_eq_ok hpull
  obtain ⟨hself, hassets⟩ := Treasury.consumeApprovedSpender_keeps hconsume
  rw [hself, hassets, Treasury.onChain_self, Treasury.onChain_assets, hhome.home hs] at hpaid
  exact hpaid

/-- The treasury burns its own tokens. -/
theorem burnApprovedToken_effect (hhome : w.TreasuryAt treasury)
    (h : w.burnApprovedToken receive treasury sender token amount = .ok w') :
    w.chain.burnTokens token treasury amount = some w'.chain := by
  obtain ⟨s, s', hs, hburn, rfl⟩ := callTreasury_eq_ok h
  obtain ⟨-, s₁, c, hconsume, hburned, rfl⟩ := Treasury.burnApprovedToken_eq_ok hburn
  obtain ⟨hself, hassets⟩ := Treasury.consumeApprovedSpender_keeps hconsume
  rw [hself, hassets, Treasury.onChain_self, Treasury.onChain_assets, hhome.home hs] at hburned
  exact hburned

end RevenueChain
