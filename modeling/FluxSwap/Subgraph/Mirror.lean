-- SUMMARY: The index follows the pairs: supply, reserves and counts of a pair's entity after every operation, and ids of events.
import FluxSwap.Subgraph.Mapping
import FluxSwap.Amm.ShareValue

/-!
# The index follows the pairs

A pair changes its supply and its reserves only together with the event from which the index
rebuilds them, and ends every mint, burn and swap with its own event. Each building block of
a pair keeps the entity in step, so operations do, with everything in their callbacks.
-/

open Exec

namespace Subgraph

variable {c c' : Chain} {q self : Address} {e : PairEntity} {p p' : Pair} {log : Log}

/-! ## What an event does to the entity of its pair -/

/-- The entity after an event of its pair. -/
def PairEntity.after (e : PairEntity) : Log → PairEntity
  | .mint .. => { e with mintCount := e.mintCount + 1, txCount := e.txCount + 1 }
  | .burn .. => { e with burnCount := e.burnCount + 1, txCount := e.txCount + 1 }
  | .swap .. => { e with swapCount := e.swapCount + 1, txCount := e.txCount + 1 }
  | .sync _ reserve0 reserve1 => { e with reserve0 := reserve0, reserve1 := reserve1 }
  | .transfer _ src dst value =>
    if src = Address.zero then { e with totalSupply := e.totalSupply + value }
    else if dst = Address.zero then { e with totalSupply := e.totalSupply - value }
    else e
  | .approval .. | .protocolFeePaid .. => e

/-- The entity of a pair after events of any pairs. -/
def PairEntity.follow (q : Address) (e : PairEntity) (logs : List Log) : PairEntity :=
  logs.foldl (fun e log => if address log = q then e.after log else e) e

theorem follow_append (q : Address) (e : PairEntity) (logs : List Log) (log : Log) :
    e.follow q (logs ++ [log]) =
      if address log = q then (e.follow q logs).after log else e.follow q logs := by
  simp only [PairEntity.follow, List.foldl_append, List.foldl_cons, List.foldl_nil]

/-- The events of other pairs do not touch the entity. -/
theorem follow_of_forall_ne {logs : List Log} (h : ∀ log ∈ logs, address log ≠ q) :
    e.follow q logs = e := by
  induction logs with
  | nil => rfl
  | cons log logs ih =>
    simp only [PairEntity.follow, List.foldl_cons, if_neg (h log List.mem_cons_self)]
    exact ih fun log hlog => h log (List.mem_cons_of_mem _ hlog)

/-! ## The mirror -/

inductive Kind
  | mint
  | burn
  | swap
  deriving DecidableEq

/-- How many calls of each kind succeeded. -/
abbrev Activity : Type := Kind → Nat

/-- One call of a pair. -/
def once (q pair : Address) (kind : Kind) : Activity :=
  if pair = q then Pi.single kind 1 else 0

/-- The entity shows the storage of the pair and the activity so far. -/
structure Mirrors (e : PairEntity) (p : Pair) (k : Activity) : Prop where
  totalSupply : e.totalSupply = p.totalSupply
  reserve0 : e.reserve0 = p.reserve0
  reserve1 : e.reserve1 = p.reserve1
  mintCount : e.mintCount = k .mint
  burnCount : e.burnCount = k .burn
  swapCount : e.swapCount = k .swap
  txCount : e.txCount = k .mint + k .burn + k .swap

/-- The entity `e` shows the pair `q` after the events of the chain. -/
def Mirrored (e : PairEntity) (q : Address) (c : Chain) (k : Activity) : Prop :=
  ∃ p, c.pairs q = some p ∧ Mirrors (e.follow q c.logs) p k

/-- Nothing that the mirror is about changes. -/
theorem Mirrored.congr {k : Activity} (h : Mirrored e q c k) (hpairs : c'.pairs = c.pairs)
    (hlogs : c'.logs = c.logs) : Mirrored e q c' k := by
  unfold Mirrored
  rw [hpairs, hlogs]
  exact h

/-- A write to a pair that comes with an event of that pair. -/
theorem Mirrored.write {k k' : Activity} (h : Mirrored e q c k) (hp : c.pairs self = some p)
    (hpairs : c'.pairs = Function.update c.pairs self (some p'))
    (hlogs : c'.logs = c.logs ++ [log]) (hlog : address log = self)
    (hown : self = q → ∀ e, Mirrors e p k → Mirrors (e.after log) p' k')
    (hother : self ≠ q → k' = k) : Mirrored e q c' k' := by
  obtain ⟨p₀, hp₀, hm⟩ := h
  unfold Mirrored
  rw [hpairs, hlogs, follow_append, hlog]
  by_cases hself : self = q
  · subst hself
    obtain rfl := Option.some.inj (hp.symm.trans hp₀)
    rw [if_pos rfl, Function.update_self]
    exact ⟨p', rfl, hown rfl _ hm⟩
  · rw [if_neg hself, Function.update_of_ne (Ne.symm hself), hother hself]
    exact ⟨p₀, hp₀, hm⟩

/-- An event that the handlers do not count. -/
theorem Mirrored.silent {k : Activity} (h : Mirrored e q c k) (hpairs : c'.pairs = c.pairs)
    (hlogs : c'.logs = c.logs ++ [log]) (hsilent : ∀ e : PairEntity, e.after log = e) :
    Mirrored e q c' k := by
  obtain ⟨p, hp, hm⟩ := h
  unfold Mirrored
  rw [hpairs, hlogs, follow_append, hsilent, ite_self]
  exact ⟨p, hp, hm⟩

/-- A write to a pair that leaves its supply and its reserves alone. -/
theorem Mirrored.setPair {k : Activity} (h : Mirrored e q c k) (hp : c.pairs self = some p)
    (hsupply : p'.totalSupply = p.totalSupply) (h0 : p'.reserve0 = p.reserve0)
    (h1 : p'.reserve1 = p.reserve1) : Mirrored e q (c.setPair self p') k := by
  obtain ⟨p₀, hp₀, hm⟩ := h
  by_cases hself : self = q
  · subst hself
    obtain rfl := Option.some.inj (hp.symm.trans hp₀)
    refine ⟨p', by simp, ?_⟩
    exact ⟨by rw [hsupply]; exact hm.totalSupply, by rw [h0]; exact hm.reserve0,
      by rw [h1]; exact hm.reserve1, hm.mintCount, hm.burnCount, hm.swapCount, hm.txCount⟩
  · exact ⟨p₀, by simp only [Chain.setPair_pairs, Function.update_of_ne (Ne.symm hself), hp₀], hm⟩

/-! ## The LP token -/

variable {k : Activity}

theorem lpMint_mirrored {dst : Address} {value : Nat} (h : Mirrored e q c k)
    (hrun : FluxSwapERC20.mint c self dst value = .ok c') : Mirrored e q c' k := by
  simp only [FluxSwapERC20.mint, bind_eq_ok, Chain.pairAt_eq_ok, Uint256.add_eq_ok,
    pure_eq_ok] at hrun
  obtain ⟨p, hp, total, ⟨-, rfl⟩, rfl⟩ := hrun
  refine h.write hp rfl rfl rfl ?_ (fun _ => rfl)
  intro _ e hm
  simp only [PairEntity.after, if_true]
  exact ⟨by rw [hm.totalSupply]; push_cast; rfl, hm.reserve0, hm.reserve1, hm.mintCount,
    hm.burnCount, hm.swapCount, hm.txCount⟩

theorem lpBurn_mirrored {src : Address} {value : Nat} (h : Mirrored e q c k)
    (hrun : FluxSwapERC20.burn c self src value = .ok c') : Mirrored e q c' k := by
  simp only [FluxSwapERC20.burn, bind_eq_ok, require_eq_ok, Chain.pairAt_eq_ok,
    Uint256.sub_eq_ok, pure_eq_ok] at hrun
  obtain ⟨_, hsrc, p, hp, _, -, total, ⟨hle, rfl⟩, rfl⟩ := hrun
  refine h.write hp rfl rfl rfl ?_ (fun _ => rfl)
  intro _ e hm
  simp only [PairEntity.after, if_neg hsrc, if_true]
  exact ⟨by simp only [hm.totalSupply, Nat.cast_sub hle], hm.reserve0, hm.reserve1,
    hm.mintCount, hm.burnCount, hm.swapCount, hm.txCount⟩

theorem lpTransfer_mirrored {src dst : Address} {value : Nat} (h : Mirrored e q c k)
    (hrun : FluxSwapERC20.transfer c self src dst value = .ok c') : Mirrored e q c' k := by
  simp only [FluxSwapERC20.transfer, bind_eq_ok, require_eq_ok, pure_eq_ok] at hrun
  obtain ⟨_, hsrc, _, hdst, _, -, rfl⟩ := hrun
  refine h.silent rfl rfl ?_
  intro e
  simp only [PairEntity.after, if_neg hsrc, if_neg hdst]

theorem lpApprove_mirrored {owner spender : Address} {value : Nat} (h : Mirrored e q c k)
    (hrun : FluxSwapERC20.approve c self owner spender value = .ok c') : Mirrored e q c' k := by
  simp only [FluxSwapERC20.approve, bind_eq_ok, pure_eq_ok] at hrun
  obtain ⟨_, -, _, -, rfl⟩ := hrun
  exact h.silent rfl rfl fun _ => rfl

theorem spendAllowance_mirrored {sender src : Address} {value : Nat} (h : Mirrored e q c k)
    (hrun : FluxSwapERC20.spendAllowance c self sender src value = .ok c') :
    Mirrored e q c' k := by
  rcases Chain.spendAllowance_cases hrun with ⟨-, rfl⟩ | ⟨-, left, -, rfl⟩
  · exact h
  · exact h.silent rfl rfl fun _ => rfl

theorem lpTransferFrom_mirrored {sender src dst : Address} {value : Nat} (h : Mirrored e q c k)
    (hrun : FluxSwapERC20.transferFrom c self sender src dst value = .ok c') :
    Mirrored e q c' k := by
  obtain ⟨c₁, hspend, htransfer⟩ := bind_eq_ok.mp hrun
  exact lpTransfer_mirrored (spendAllowance_mirrored h hspend) htransfer

theorem transfer_mirrored {token src dst : Address} {value : Nat} (h : Mirrored e q c k)
    (hrun : c.transfer token src dst value = some c') : Mirrored e q c' k := by
  unfold Chain.transfer at hrun
  split at hrun
  · exact lpTransfer_mirrored h (toOption_eq_some.mp hrun)
  · obtain ⟨tokens, -, rfl⟩ := Option.map_eq_some_iff.mp hrun
    exact h.congr rfl rfl

theorem transferFrom_mirrored {token spender src dst : Address} {value : Nat}
    (h : Mirrored e q c k) (hrun : c.transferFrom token spender src dst value = some c') :
    Mirrored e q c' k := by
  rcases Chain.transferFrom_cases hrun with ⟨-, htransfer⟩ | ⟨-, tokens, -, rfl⟩
  · exact lpTransferFrom_mirrored h htransfer
  · exact h.congr rfl rfl

/-! ## Building blocks of a pair -/

theorem safeTransfer_mirrored {token dst : Address} {value : Nat} (h : Mirrored e q c k)
    (hrun : FluxSwapPair.safeTransfer c self token dst value = .ok c') : Mirrored e q c' k :=
  transfer_mirrored h (FluxSwapPair.safeTransfer_eq_ok.mp hrun)

theorem sendPositive_mirrored {token dst : Address} {value : Nat} (h : Mirrored e q c k)
    (hrun : FluxSwapPair.sendPositive c self token dst value = .ok c') : Mirrored e q c' k := by
  unfold FluxSwapPair.sendPositive at hrun
  split at hrun
  · exact safeTransfer_mirrored h hrun
  · obtain rfl := pure_eq_ok.mp hrun
    exact h

theorem update_mirrored {balance0 balance1 reserve0 reserve1 : Nat} (h : Mirrored e q c k)
    (hrun : FluxSwapPair.update c self balance0 balance1 reserve0 reserve1 = .ok c') :
    Mirrored e q c' k := by
  simp only [FluxSwapPair.update, bind_eq_ok, Chain.pairAt_eq_ok, pure_eq_ok] at hrun
  obtain ⟨_, -, p, hp, _, -, p₁, haccumulate, rfl⟩ := hrun
  have hsupply := (FluxSwapPair.accumulate_sameShares haccumulate).totalSupply
  refine h.write hp rfl rfl rfl ?_ (fun _ => rfl)
  intro _ e hm
  exact ⟨by simp only [hsupply]; exact hm.totalSupply, rfl, rfl, hm.mintCount, hm.burnCount,
    hm.swapCount, hm.txCount⟩

/-- The event that ends a mint, a burn or a swap is counted once. -/
theorem counted_mirrored {kind : Kind} (h : Mirrored e q c k) (hlog : address log = self)
    (hcounted : ∀ (e : PairEntity) (p : Pair) (k : Activity), Mirrors e p k →
      Mirrors (e.after log) p (k + Pi.single kind 1)) :
    Mirrored e q (c.emit log) (k + once q self kind) := by
  obtain ⟨p, hp, hm⟩ := h
  refine ⟨p, hp, ?_⟩
  simp only [Chain.emit, follow_append, hlog, once]
  split
  · exact hcounted _ _ _ hm
  · rw [add_zero]
    exact hm

theorem lock_mirrored {α : Type} {body : Chain → Exec (Chain × α)} {result : α} {k' : Activity}
    (h : Mirrored e q c k)
    (hbody : ∀ c c', Mirrored e q c k → body c = .ok (c', result) → Mirrored e q c' k')
    (hrun : FluxSwapPair.lock self body c = .ok (c', result)) : Mirrored e q c' k' := by
  obtain ⟨p, c₁, p₁, hp, -, hbodyRun, hp₁, rfl⟩ := FluxSwapPair.lock_spec hrun
  have hlocked : Mirrored e q (c.setPair self { p with unlocked := 0 }) k := h.setPair hp rfl rfl rfl
  exact (hbody _ _ hlocked hbodyRun).setPair hp₁ rfl rfl rfl

theorem mintedLiquidity_mirrored {amount0 amount1 liquidity : Nat} (h : Mirrored e q c k)
    (hrun : FluxSwapPair.mintedLiquidity c self p amount0 amount1 = .ok (c', liquidity)) :
    Mirrored e q c' k := by
  unfold FluxSwapPair.mintedLiquidity at hrun
  split at hrun
  · simp only [bind_eq_ok, pure_eq_ok, Prod.mk.injEq] at hrun
    obtain ⟨_, -, _, -, _, -, c₁, hmint, rfl, -⟩ := hrun
    exact lpMint_mirrored h hmint
  · simp only [bind_eq_ok, pure_eq_ok, Prod.mk.injEq] at hrun
    obtain ⟨_, -, _, -, _, -, _, -, rfl, -⟩ := hrun
    exact h

theorem sendOutputs_mirrored {amount0Out amount1Out : Nat} {dst : Address} (h : Mirrored e q c k)
    (hrun : FluxSwapPair.sendOutputs c self p amount0Out amount1Out dst = .ok c') :
    Mirrored e q c' k := by
  simp only [FluxSwapPair.sendOutputs, bind_eq_ok] at hrun
  obtain ⟨_, -, _, -, _, -, c₁, hfirst, hsecond⟩ := hrun
  exact sendPositive_mirrored (sendPositive_mirrored h hfirst) hsecond

theorem payProtocolFee_mirrored {amount0In amount1In balance0 balance1 : Nat}
    {balances : Nat × Nat × Nat} (h : Mirrored e q c k)
    (hrun : FluxSwapPair.payProtocolFee c self p amount0In amount1In balance0 balance1 =
      .ok (c', balances)) : Mirrored e q c' k := by
  unfold FluxSwapPair.payProtocolFee at hrun
  split at hrun
  · simp only [bind_eq_ok, pure_eq_ok, Prod.mk.injEq] at hrun
    obtain ⟨_, -, _, -, c₁, hfirst, c₂, hsecond, _, -, _, -, rfl, -⟩ := hrun
    have hpaid := sendPositive_mirrored (sendPositive_mirrored h hfirst) hsecond
    split
    · exact hpaid.silent rfl rfl fun _ => rfl
    · exact hpaid
  · obtain ⟨rfl, -⟩ := Prod.mk.inj (pure_eq_ok.mp hrun)
    exact h

/-! ## Entry points of a pair -/

theorem mint_mirrored {sender dst : Address} {liquidity : Nat} (h : Mirrored e q c k)
    (hrun : FluxSwapPair.mint self sender dst c = .ok (c', liquidity)) :
    Mirrored e q c' (k + once q self .mint) := by
  refine lock_mirrored h ?_ hrun
  intro c c' h hbody
  simp only [bind_eq_ok, pure_eq_ok, Prod.mk.injEq] at hbody
  obtain ⟨p, -, _, -, _, -, ⟨c₁, _⟩, hminted, _, -, c₂, hmint, c₃, hupdate, rfl, -⟩ := hbody
  have hupdated := update_mirrored (lpMint_mirrored (mintedLiquidity_mirrored h hminted) hmint)
    hupdate
  refine counted_mirrored hupdated rfl ?_
  intro e p k hm
  exact ⟨hm.totalSupply, hm.reserve0, hm.reserve1, by simp [PairEntity.after, hm.mintCount],
    by simp [PairEntity.after, hm.burnCount], by simp [PairEntity.after, hm.swapCount],
    by simp [PairEntity.after, hm.txCount]; omega⟩

theorem burn_mirrored {sender dst : Address} {amounts : Nat × Nat} (h : Mirrored e q c k)
    (hrun : FluxSwapPair.burn self sender dst c = .ok (c', amounts)) :
    Mirrored e q c' (k + once q self .burn) := by
  refine lock_mirrored h ?_ hrun
  intro c c' h hbody
  simp only [bind_eq_ok, pure_eq_ok, Prod.mk.injEq] at hbody
  obtain ⟨p, -, _, -, _, -, _, -, _, -, _, -, c₁, hburn, c₂, hfirst, c₃, hsecond, c₄, hupdate,
    rfl, -⟩ := hbody
  have hpaid := safeTransfer_mirrored (safeTransfer_mirrored (lpBurn_mirrored h hburn) hfirst)
    hsecond
  refine counted_mirrored (update_mirrored hpaid hupdate) rfl ?_
  intro e p k hm
  exact ⟨hm.totalSupply, hm.reserve0, hm.reserve1, by simp [PairEntity.after, hm.mintCount],
    by simp [PairEntity.after, hm.burnCount], by simp [PairEntity.after, hm.swapCount],
    by simp [PairEntity.after, hm.txCount]; omega⟩

theorem takeInputs_mirrored {sender dst : Address} {amount0Out amount1Out : Nat}
    (h : Mirrored e q c k)
    (hrun : FluxSwapPair.takeInputs c self sender p amount0Out amount1Out dst = .ok c') :
    Mirrored e q c' (k + once q self .swap) := by
  simp only [FluxSwapPair.takeInputs, bind_eq_ok, pure_eq_ok] at hrun
  obtain ⟨_, -, ⟨c₁, balances⟩, hfee, _, -, c₂, hupdate, rfl⟩ := hrun
  refine counted_mirrored (update_mirrored (payProtocolFee_mirrored h hfee) hupdate) rfl ?_
  intro e p k hm
  exact ⟨hm.totalSupply, hm.reserve0, hm.reserve1, by simp [PairEntity.after, hm.mintCount],
    by simp [PairEntity.after, hm.burnCount], by simp [PairEntity.after, hm.swapCount],
    by simp [PairEntity.after, hm.txCount]; omega⟩

/-- A swap counts once, after everything in its callback. -/
theorem swap_mirrored {sender dst : Address} {amount0Out amount1Out : Nat}
    {callback : Chain → Exec Chain} {inside : Activity} (h : Mirrored e q c k)
    (hcallback : ∀ c c', Mirrored e q c k → callback c = .ok c' →
      Mirrored e q c' (k + inside))
    (hrun : FluxSwapPair.swap self sender amount0Out amount1Out dst callback c = .ok (c', ())) :
    Mirrored e q c' (k + (inside + once q self .swap)) := by
  refine lock_mirrored h ?_ hrun
  intro c c' h hbody
  simp only [bind_eq_ok, pure_eq_ok, Prod.mk.injEq] at hbody
  obtain ⟨p, -, c₁, hout, c₂, hcall, c₃, htake, rfl, -⟩ := hbody
  rw [← add_assoc]
  exact takeInputs_mirrored (hcallback _ _ (sendOutputs_mirrored h hout) hcall) htake

theorem skim_mirrored {dst : Address} (h : Mirrored e q c k)
    (hrun : FluxSwapPair.skim self dst c = .ok (c', ())) : Mirrored e q c' k := by
  refine lock_mirrored h ?_ hrun
  intro c c' h hbody
  simp only [bind_eq_ok, pure_eq_ok, Prod.mk.injEq] at hbody
  obtain ⟨p, -, _, -, c₁, hfirst, _, -, c₂, hsecond, rfl, -⟩ := hbody
  exact safeTransfer_mirrored (safeTransfer_mirrored h hfirst) hsecond

theorem sync_mirrored (h : Mirrored e q c k) (hrun : FluxSwapPair.sync self c = .ok (c', ())) :
    Mirrored e q c' k := by
  refine lock_mirrored h ?_ hrun
  intro c c' h hbody
  simp only [bind_eq_ok, pure_eq_ok, Prod.mk.injEq] at hbody
  obtain ⟨p, -, c₁, hupdate, rfl, -⟩ := hbody
  exact update_mirrored h hupdate

/-! ## Calls of others -/

theorem callTransfer_mirrored {token sender dst : Address} {value : Nat} (h : Mirrored e q c k)
    (hrun : FluxSwapPair.callTransfer c token sender dst value = .ok c') : Mirrored e q c' k := by
  obtain ⟨_, -, hrun⟩ := bind_eq_ok.mp hrun
  split at hrun
  · rename_i c₁ htransfer
    obtain rfl := pure_eq_ok.mp hrun
    exact transfer_mirrored h htransfer
  · cases hrun

theorem callTransferFrom_mirrored {token sender src dst : Address} {value : Nat}
    (h : Mirrored e q c k)
    (hrun : FluxSwapPair.callTransferFrom c token sender src dst value = .ok c') :
    Mirrored e q c' k := by
  obtain ⟨_, -, hrun⟩ := bind_eq_ok.mp hrun
  split at hrun
  · rename_i c₁ htransfer
    obtain rfl := pure_eq_ok.mp hrun
    exact transferFrom_mirrored h htransfer
  · cases hrun

theorem callApprove_mirrored {token sender spender : Address} {value : Nat} (h : Mirrored e q c k)
    (hrun : FluxSwapPair.callApprove c token sender spender value = .ok c') :
    Mirrored e q c' k := by
  obtain ⟨_, -, hrun⟩ := bind_eq_ok.mp hrun
  split at hrun
  · exact lpApprove_mirrored h hrun
  · obtain rfl := pure_eq_ok.mp hrun
    exact h.congr rfl rfl

theorem callPermit_mirrored {owner spender recovered : Address} {value deadline : Nat}
    (h : Mirrored e q c k)
    (hrun : FluxSwapPair.callPermit c self owner spender value deadline recovered = .ok c') :
    Mirrored e q c' k := by
  obtain ⟨_, -, hrun⟩ := bind_eq_ok.mp hrun
  simp only [FluxSwapERC20.permit, bind_eq_ok, Chain.pairAt_eq_ok] at hrun
  obtain ⟨_, -, p, hp, nonce, -, _, -, happrove⟩ := hrun
  have hsigned : Mirrored e q (c.setPair self
      { p with nonces := Function.update p.nonces owner nonce }) k := h.setPair hp rfl rfl rfl
  exact lpApprove_mirrored hsigned happrove

/-! ## Every operation and every run -/

end Subgraph

namespace FluxSwapPair

open Subgraph

mutual

/-- The successful calls of a pair in an operation, with those in its callbacks. -/
def Op.activity (q : Address) : Op → Activity
  | .mint pair _ _ => once q pair .mint
  | .burn pair _ _ => once q pair .burn
  | .swap pair _ _ _ _ callback => activityAll q callback + once q pair .swap
  | .skim .. | .sync .. | .transfer .. | .transferFrom .. | .approve .. | .permit ..
  | .setTreasury .. | .advanceTime .. => 0

def activityAll (q : Address) : List Op → Activity
  | [] => 0
  | op :: ops => op.activity q + activityAll q ops

end

/-- A swap that has only reached its callback is not done yet. -/
def Move.activity (q : Address) : Move → Activity
  | .op called => called.activity q
  | .enter .. => 0

end FluxSwapPair

namespace Subgraph

open FluxSwapPair (Op Move exec execAll activityAll move)

variable {c c' : Chain} {q : Address} {e : PairEntity} {p : Pair} {k : Activity}

mutual

theorem exec_mirrored : (op : Op) → (c c' : Chain) → (k : Activity) → Mirrored e q c k →
    exec op c = .ok c' → Mirrored e q c' (k + op.activity q)
  | .mint pair sender dst, c, c', k, h, hrun => by
    simp only [exec, bind_eq_ok, pure_eq_ok] at hrun
    obtain ⟨⟨c₁, liquidity⟩, hcall, rfl⟩ := hrun
    rw [FluxSwapPair.Op.activity]
    exact mint_mirrored h hcall
  | .burn pair sender dst, c, c', k, h, hrun => by
    simp only [exec, bind_eq_ok, pure_eq_ok] at hrun
    obtain ⟨⟨c₁, amounts⟩, hcall, rfl⟩ := hrun
    rw [FluxSwapPair.Op.activity]
    exact burn_mirrored h hcall
  | .swap pair sender amount0Out amount1Out dst callback, c, c', k, h, hrun => by
    simp only [exec, bind_eq_ok, pure_eq_ok] at hrun
    obtain ⟨⟨c₁, u⟩, hcall, rfl⟩ := hrun
    rw [FluxSwapPair.Op.activity]
    exact swap_mirrored h (fun c₁ c₂ => execAll_mirrored callback c₁ c₂ k) hcall
  | .skim pair dst, c, c', k, h, hrun => by
    simp only [exec, bind_eq_ok, pure_eq_ok] at hrun
    obtain ⟨⟨c₁, u⟩, hcall, rfl⟩ := hrun
    exact skim_mirrored h hcall
  | .sync pair, c, c', k, h, hrun => by
    simp only [exec, bind_eq_ok, pure_eq_ok] at hrun
    obtain ⟨⟨c₁, u⟩, hcall, rfl⟩ := hrun
    exact sync_mirrored h hcall
  | .transfer token sender dst value, c, c', k, h, hrun => by
    rw [exec] at hrun
    exact callTransfer_mirrored h hrun
  | .transferFrom token sender src dst value, c, c', k, h, hrun => by
    rw [exec] at hrun
    exact callTransferFrom_mirrored h hrun
  | .approve token sender spender value, c, c', k, h, hrun => by
    rw [exec] at hrun
    exact callApprove_mirrored h hrun
  | .permit pair owner spender value deadline recovered, c, c', k, h, hrun => by
    rw [exec] at hrun
    exact callPermit_mirrored h hrun
  | .setTreasury treasury, c, c', k, h, hrun => by
    rw [exec] at hrun
    obtain rfl := pure_eq_ok.mp hrun
    exact h.congr rfl rfl
  | .advanceTime seconds, c, c', k, h, hrun => by
    rw [exec] at hrun
    obtain rfl := pure_eq_ok.mp hrun
    exact h.congr rfl rfl

theorem execAll_mirrored : (ops : List Op) → (c c' : Chain) → (k : Activity) → Mirrored e q c k →
    execAll ops c = .ok c' → Mirrored e q c' (k + activityAll q ops)
  | [], c, c', k, h, hrun => by
    rw [execAll] at hrun
    obtain rfl := pure_eq_ok.mp hrun
    exact h
  | op :: ops, c, c', k, h, hrun => by
    rw [execAll] at hrun
    obtain ⟨c₁, hop, hops⟩ := bind_eq_ok.mp hrun
    rw [activityAll, ← add_assoc]
    exact execAll_mirrored ops c₁ c' _ (exec_mirrored op c c₁ k h hop) hops

end

theorem move_mirrored {m : Move} (h : Mirrored e q c k) (hrun : move c m = .ok c') :
    Mirrored e q c' (k + m.activity q) := by
  cases m with
  | op op => exact exec_mirrored op c c' k h hrun
  | enter pair amount0Out amount1Out dst =>
    simp only [move, FluxSwapPair.enterSwap, bind_eq_ok, Chain.pairAt_eq_ok] at hrun
    obtain ⟨p, hp, _, -, hout⟩ := hrun
    have hlocked : Mirrored e q (c.setPair pair { p with unlocked := 0 }) k :=
      h.setPair hp rfl rfl rfl
    exact sendOutputs_mirrored hlocked hout

/-- No move creates a pair. -/
theorem move_absent {m : Move} (hs : FluxSwapPair.Sound c) (hrun : move c m = .ok c')
    (hnone : c.pairs q = none) : c'.pairs q = none := by
  cases m with
  | op op => exact (FluxSwapPair.exec_keeps op c c' hs hrun).absent q hnone
  | enter pair amount0Out amount1Out dst =>
    obtain ⟨p, hp, -, hframe, -, -⟩ := FluxSwapPair.enterSwap_spec hs hrun
    have hne : q ≠ pair := by
      rintro rfl
      rw [hnone] at hp
      cases hp
    rw [hframe.pairs q hne]
    exact hnone

theorem move_sound {m : Move} (hs : FluxSwapPair.Sound c) (hrun : move c m = .ok c') :
    FluxSwapPair.Sound c' := by
  cases m with
  | op op => exact (FluxSwapPair.exec_keeps op c c' hs hrun).sound
  | enter pair amount0Out amount1Out dst =>
    obtain ⟨p, -, -, -, -, hsound⟩ := FluxSwapPair.enterSwap_spec hs hrun
    exact hsound

/-- The pairs are fresh and have emitted nothing. -/
def Started (c : Chain) : Prop := FluxSwapPair.Initial c ∧ c.logs = []

/-- The runs of the pairs with their history. -/
def runs : System (Chain × System.History Chain Move) Move := .ofCallsLogged Started move

/-- The successful calls of a pair in a history. -/
def total (q : Address) (history : System.History Chain Move) : Activity :=
  (history.map fun r => r.2.activity q).sum

/-- In every state of every run the entity that starts at zero shows the pair. -/
theorem reachable_mirrored {history : System.History Chain Move}
    (h : runs.Reachable (c, history)) (created : PairCreated) (hp : c.pairs q = some p) :
    Mirrored (newPair created) q c (total q history) := by
  have hall : FluxSwapPair.Sound c ∧ (c.pairs q ≠ none →
      Mirrored (newPair created) q c (total q history)) := by
    refine System.ReachableWith.invariant_logged (I := fun c history => FluxSwapPair.Sound c ∧
      (c.pairs q ≠ none → Mirrored (newPair created) q c (total q history))) ?_ ?_ h
    · intro c ⟨hinit, hlogs⟩
      refine ⟨fun pair p hp => (hinit pair p hp).sound, fun hsome => ?_⟩
      obtain ⟨p, hp⟩ := Option.ne_none_iff_exists'.mp hsome
      have hfresh := hinit q p hp
      refine ⟨p, hp, ?_⟩
      rw [hlogs]
      exact ⟨by rw [hfresh.totalSupply]; rfl, by rw [hfresh.reserve0]; rfl,
        by rw [hfresh.reserve1]; rfl, rfl, rfl, rfl, rfl⟩
    · intro c history m c' ⟨hs, hm⟩ _ hrun
      refine ⟨move_sound hs hrun, fun hsome => ?_⟩
      have hbefore : c.pairs q ≠ none := fun hnone => hsome (move_absent hs hrun hnone)
      have hafter := move_mirrored (hm hbefore) hrun
      rw [add_comm] at hafter
      simpa only [total, List.map_cons, List.sum_cons] using hafter
  exact hall.2 (by rw [hp]; exact Option.some_ne_none p)

/-! ## Delivery -/

/-- The events of pairs among what was delivered. -/
def events : List Delivery → List Event
  | [] => []
  | .pairCreated _ :: rest => events rest
  | .event event :: rest => event :: events rest

theorem events_append (before after : List Delivery) :
    events (before ++ after) = events before ++ events after := by
  induction before with
  | nil => rfl
  | cons delivery before ih => cases delivery <;> simp [events, ih]

/-- A handler that finds no entity. -/
theorem pairs_of_missing {s : Store} {log : Log} (q : Address)
    (hnone : s.pairs (address log) = none) :
    s.pairs q = if address log = q then (s.pairs q).map (·.after log) else s.pairs q := by
  split
  · rename_i hsame
    rw [← hsame, hnone]
    rfl
  · rfl

/-- A handler that saves the entity it has found. -/
theorem pairs_of_saved {s s' : Store} {log : Log} (q : Address)
    (hentity : s.pairs (address log) = some e)
    (hsaved : s'.pairs = Function.update s.pairs (address log) (some (e.after log))) :
    s'.pairs q = if address log = q then (s.pairs q).map (·.after log) else s.pairs q := by
  rw [hsaved]
  split
  · rename_i hsame
    rw [← hsame, Function.update_self, hentity]
    rfl
  · rename_i hother
    rw [Function.update_of_ne (Ne.symm hother)]

/-- An event without a handler. -/
theorem pairs_of_silent {s : Store} {log : Log} (q : Address)
    (hsilent : ∀ e : PairEntity, e.after log = e) :
    s.pairs q = if address log = q then (s.pairs q).map (·.after log) else s.pairs q := by
  simp [hsilent]

/-- What a handler does to the entity of a pair. -/
theorem handle_pairs (event : Event) (s : Store) (q : Address) :
    (handle event s).pairs q =
      if address event.log = q then (s.pairs q).map (·.after event.log) else s.pairs q := by
  unfold handle
  cases event.log with
  | mint self sender amount0 amount1 =>
    cases hfound : s.pairs self with
    | none =>
      simp only [handleMint, hfound]
      exact pairs_of_missing q hfound
    | some entity =>
      simp only [handleMint, hfound]
      exact pairs_of_saved q hfound rfl
  | burn self sender amount0 amount1 dst =>
    cases hfound : s.pairs self with
    | none =>
      simp only [handleBurn, hfound]
      exact pairs_of_missing q hfound
    | some entity =>
      simp only [handleBurn, hfound]
      exact pairs_of_saved q hfound rfl
  | swap self sender amount0In amount1In amount0Out amount1Out dst =>
    cases hfound : s.pairs self with
    | none =>
      simp only [handleSwap, hfound]
      exact pairs_of_missing q hfound
    | some entity =>
      simp only [handleSwap, hfound]
      exact pairs_of_saved q hfound rfl
  | sync self reserve0 reserve1 =>
    cases hfound : s.pairs self with
    | none =>
      simp only [handleSync, hfound]
      exact pairs_of_missing q hfound
    | some entity =>
      simp only [handleSync, hfound]
      exact pairs_of_saved q hfound rfl
  | transfer self src dst value =>
    cases hfound : s.pairs self with
    | none =>
      simp only [handleTransfer, hfound]
      exact pairs_of_missing q hfound
    | some entity =>
      simp only [handleTransfer, hfound]
      refine pairs_of_saved q hfound ?_
      simp only [PairEntity.after]
      -- a transfer changes the supply only if one side is the zero address
      repeat' split
      all_goals rfl
  | approval self owner spender value => exact pairs_of_silent q fun _ => rfl
  | protocolFeePaid self treasury amount0 amount1 => exact pairs_of_silent q fun _ => rfl

theorem createTokenIfMissing_pairs (account : Address) (timestamp : Nat) (s : Store) :
    (createTokenIfMissing account timestamp s).pairs = s.pairs := by
  unfold createTokenIfMissing
  split <;> rfl

theorem handlePairCreated_pairs (event : PairCreated) (s : Store) (q : Address) :
    (handlePairCreated event s).pairs q =
      if event.pair = q then some ((s.pairs q).getD (newPair event)) else s.pairs q := by
  cases hfound : s.pairs event.pair with
  | some entity =>
    simp only [handlePairCreated, createTokenIfMissing_pairs, hfound]
    split
    · rename_i hsame
      rw [← hsame, hfound]
      rfl
    · rfl
  | none =>
    simp only [handlePairCreated, createTokenIfMissing_pairs, hfound]
    by_cases hsame : event.pair = q
    · subst hsame
      rw [Function.update_self, if_pos rfl, hfound]
      rfl
    · rw [Function.update_of_ne (Ne.symm hsame), if_neg hsame]

/-- An entity that exists follows the events of its pair. -/
theorem process_follow {s : Store} (h : s.pairs q = some e) (deliveries : List Delivery) :
    (deliveries.foldl process s).pairs q =
      some (e.follow q ((events deliveries).map Event.log)) := by
  induction deliveries generalizing s e with
  | nil => exact h
  | cons delivery deliveries ih =>
    rw [List.foldl_cons]
    cases delivery with
    | pairCreated event =>
      refine ih ?_
      rw [process, handlePairCreated_pairs, h, Option.getD_some, ite_self]
    | event event =>
      have hstep : (process s (.event event)).pairs q =
          some (if address event.log = q then e.after event.log else e) := by
        rw [process, handle_pairs, h]
        split <;> rfl
      rw [ih hstep]
      rfl

/-- Before the creation of a pair there is no entity. -/
theorem process_absent {s : Store} (h : s.pairs q = none) (deliveries : List Delivery)
    (hcreated : ∀ event, Delivery.pairCreated event ∈ deliveries → event.pair ≠ q) :
    (deliveries.foldl process s).pairs q = none := by
  induction deliveries generalizing s with
  | nil => exact h
  | cons delivery deliveries ih =>
    rw [List.foldl_cons]
    refine ih ?_ fun event hevent => hcreated event (List.mem_cons_of_mem _ hevent)
    cases delivery with
    | pairCreated event =>
      rw [process, handlePairCreated_pairs, if_neg (hcreated event List.mem_cons_self)]
      exact h
    | event event =>
      rw [process, handle_pairs, h]
      exact ite_self _

/-- What the node promises about a pair: it delivers the events of the chain once and in order,
the creation of the pair once and before the pair's own events, and every event of the chain
has its own place. -/
structure Delivered (deliveries : List Delivery) (q : Address) (c : Chain) : Prop where
  logs : (events deliveries).map Event.log = c.logs
  created : ∃ before created after, deliveries = before ++ .pairCreated created :: after ∧
    created.pair = q ∧ (∀ event, Delivery.pairCreated event ∈ before → event.pair ≠ q) ∧
    ∀ event ∈ events before, address event.log ≠ q
  hashes : ∀ event ∈ events deliveries, event.position.txHash.length = 32
  places : ((events deliveries).map fun event =>
    (event.position.txHash, event.position.logIndex)).Nodup

/-- The entity of a pair after everything that was delivered. -/
theorem index_pairs {deliveries : List Delivery} (h : Delivered deliveries q c) :
    ∃ created, (index deliveries).pairs q = some ((newPair created).follow q c.logs) := by
  obtain ⟨before, created, after, rfl, hpair, hfirst, hbefore⟩ := h.created
  refine ⟨created, ?_⟩
  have habsent := process_absent (s := .empty) (q := q) rfl before hfirst
  have hnew : (process (before.foldl process .empty) (.pairCreated created)).pairs q =
      some (newPair created) := by
    rw [process, handlePairCreated_pairs, habsent, if_pos hpair]
    rfl
  have hlogs : c.logs =
      (events before).map Event.log ++ (events after).map Event.log := by
    rw [← h.logs, events_append, List.map_append]
    rfl
  have hskip : (newPair created).follow q ((events before).map Event.log) = newPair created := by
    refine follow_of_forall_ne ?_
    intro log hlog
    obtain ⟨event, hevent, rfl⟩ := List.mem_map.mp hlog
    exact hbefore event hevent
  rw [index, List.foldl_append, List.foldl_cons, process_follow hnew after, hlogs]
  conv_rhs => rw [PairEntity.follow, List.foldl_append]
  rw [PairEntity.follow] at hskip
  rw [hskip]
  rfl

/-! ## Ids -/

theorem toNat_digits (n : Nat) :
    ((Nat.digits 256 n).map Nat.toUInt8).map UInt8.toNat = Nat.digits 256 n := by
  rw [List.map_map]
  have hdigit : ∀ d ∈ Nat.digits 256 n, (UInt8.toNat ∘ Nat.toUInt8) d = id d := by
    intro d hd
    have hlt : d < 256 := Nat.digits_lt_base (by decide) hd
    exact Nat.mod_eq_of_lt hlt
  rw [List.map_congr_left hdigit, List.map_id]

/-- The bytes of an integer determine it. -/
theorem toSignedBytesLE_injective : Function.Injective toSignedBytesLE := by
  have hvalue : Function.LeftInverse (fun bytes => Nat.ofDigits 256 (bytes.map UInt8.toNat))
      toSignedBytesLE := by
    intro n
    simp only [toSignedBytesLE]
    split
    · rw [toNat_digits, Nat.ofDigits_digits]
    · rw [List.map_append, toNat_digits, Nat.ofDigits_append, Nat.ofDigits_digits]
      simp
  exact hvalue.injective

/-- Events at different places have different ids. -/
theorem id_injective {a b : Event} (ha : a.position.txHash.length = 32)
    (hb : b.position.txHash.length = 32) (h : a.id = b.id) :
    (a.position.txHash, a.position.logIndex) = (b.position.txHash, b.position.logIndex) := by
  obtain ⟨hhash, hbytes⟩ := List.append_inj h (ha.trans hb.symm)
  rw [hhash, toSignedBytesLE_injective hbytes]

/-- After every operation of a run the entity of a pair shows its supply, its reserves and how
many mints, burns and swaps succeeded; and no two events share an id. -/
theorem subgraph_mirrors {history : System.History Chain Move} {deliveries : List Delivery}
    (h : runs.Reachable (c, history)) (hp : c.pairs q = some p)
    (hdelivered : Delivered deliveries q c) :
    (∃ e, (index deliveries).pairs q = some e ∧ e.totalSupply = p.totalSupply ∧
      e.reserve0 = p.reserve0 ∧ e.reserve1 = p.reserve1 ∧
      e.mintCount = total q history .mint ∧ e.burnCount = total q history .burn ∧
      e.swapCount = total q history .swap ∧
      e.txCount = e.mintCount + e.burnCount + e.swapCount) ∧
    ((events deliveries).map Event.id).Nodup := by
  constructor
  · obtain ⟨created, hindex⟩ := index_pairs hdelivered
    obtain ⟨p', hp', hm⟩ := reachable_mirrored h created hp
    obtain rfl := Option.some.inj (hp.symm.trans hp')
    refine ⟨_, hindex, hm.totalSupply, hm.reserve0, hm.reserve1, hm.mintCount, hm.burnCount,
      hm.swapCount, ?_⟩
    rw [hm.txCount, hm.mintCount, hm.burnCount, hm.swapCount]
  · refine (List.Nodup.of_map _ hdelivered.places).map_on ?_
    intro a ha b hb hid
    exact List.inj_on_of_nodup_map hdelivered.places ha hb
      (id_injective (hdelivered.hashes a ha) (hdelivered.hashes b hb) hid)

/-! ## A deposit and a flash swap -/

namespace Example

open FluxSwapPair.Example (start pair deposit flashSwap)

/-- The creation of the pair, and the events of the chain in one transaction. -/
def deliver (c : Chain) : List Delivery :=
  .pairCreated ⟨⟨0, 0, List.replicate 32 0, 0⟩, 4, 5, pair⟩ ::
    c.logs.zipIdx.map fun log => .event ⟨⟨1, 1, List.replicate 32 1, log.2⟩, log.1⟩

theorem events_map (logs : List (Log × Nat)) (f : Log × Nat → Event) :
    events (logs.map fun log => .event (f log)) = logs.map f := by
  induction logs with
  | nil => rfl
  | cons log logs ih => simp only [List.map_cons, events, ih]

theorem deliver_delivered (c : Chain) : Delivered (deliver c) pair c := by
  have hevents : events (deliver c) =
      c.logs.zipIdx.map fun log => ⟨⟨1, 1, List.replicate 32 1, log.2⟩, log.1⟩ :=
    events_map c.logs.zipIdx _
  refine ⟨?_, ⟨[], _, _, rfl, rfl, nofun, nofun⟩, ?_, ?_⟩
  · rw [hevents, List.map_map]
    exact List.zipIdx_map_fst 0 c.logs
  · rw [hevents]
    intro event hevent
    obtain ⟨log, -, rfl⟩ := List.mem_map.mp hevent
    exact List.length_replicate
  · rw [hevents, List.map_map]
    refine List.Nodup.of_map Prod.snd ?_
    rw [List.map_map]
    have hindices := List.zipIdx_map_snd 0 c.logs
    exact hindices ▸ List.nodup_range'

/-- What the chain and the history say about the pair. -/
def summary (r : Chain × System.History Chain Move) : Option (Nat × Nat × Nat × Nat) :=
  (r.1.pairs pair).map fun p =>
    (p.totalSupply, p.reserve0, total pair r.2 .mint, total pair r.2 .swap)

end Example

open Example FluxSwapPair.Example in
theorem subgraph_mirrors_flashSwap : ∃ c history e, runs.Reachable (c, history) ∧
    (index (deliver c)).pairs pair = some e ∧ e.totalSupply = 2000000 ∧ e.reserve0 = 1019990 ∧
      e.mintCount = 1 ∧ e.swapCount = 1 := by
  have hrun : (System.runWith (System.logged move) (fun _ _ => True) (start, [])
      (deposit ++ [.op flashSwap])).bind summary = some (2000000, 1019990, 1, 1) := by
    decide +kernel
  obtain ⟨⟨c, history⟩, hc, hsummary⟩ := Option.bind_eq_some_iff.mp hrun
  have hreach : runs.Reachable (c, history) :=
    System.reachableWith_of_runWith (.init ⟨⟨start_initial, rfl⟩, rfl⟩) hc
  obtain ⟨p, hp, heq⟩ := Option.map_eq_some_iff.mp hsummary
  simp only [Prod.mk.injEq] at heq
  obtain ⟨hsupply, hreserve, hmints, hswaps⟩ := heq
  obtain ⟨⟨e, he, h1, h2, -, h4, -, h6, -⟩, -⟩ :=
    subgraph_mirrors hreach hp (deliver_delivered c)
  exact ⟨c, history, e, hreach, he, by rw [h1, hsupply]; rfl, by rw [h2, hreserve]; rfl,
    by rw [h4, hmints]; rfl, by rw [h6, hswaps]; rfl⟩

end Subgraph
