-- SUMMARY: What the holder of a token can lose in a run of the pairs: no more than what it transferred itself and what it let others spend.
import FluxSwap.Amm.ShareValue

/-!
# Holders

A pair pays out its own balance only, and it moves the balance of nobody else, whatever runs
in its callbacks. So an account that is not a pair loses of a token, LP tokens included, what it
transfers itself and what others transfer in its name. The latter is paid for by allowances,
which grow by approvals and accepted permits only. An allowance of `type(uint256).max` is never
used up; the accounting is for accounts that give none.
-/

open Exec

namespace FluxSwapPair

variable {c c' : Chain} {a t : Address}

mutual

/-- The amounts of a token that an account transfers in an operation and its callbacks. -/
def Op.transfers (a t : Address) : Op → List Nat
  | .transfer token sender _ value => if t = token ∧ a = sender then [value] else []
  | .swap _ _ _ _ _ callback => transfersAll a t callback
  | _ => []

def transfersAll (a t : Address) : List Op → List Nat
  | [] => []
  | op :: ops => op.transfers a t ++ transfersAll a t ops

end

mutual

/-- The allowances of a token that an account gives in an operation and its callbacks, by itself
    or by a signed permit. -/
def Op.grants (a t : Address) : Op → List Nat
  | .approve token sender _ value => if t = token ∧ a = sender then [value] else []
  | .permit pair _ _ value _ recovered => if t = pair ∧ a = recovered then [value] else []
  | .swap _ _ _ _ _ callback => grantsAll a t callback
  | _ => []

def grantsAll (a t : Address) : List Op → List Nat
  | [] => []
  | op :: ops => op.grants a t ++ grantsAll a t ops

end

def Move.transfers (a t : Address) : Move → List Nat
  | .op transaction => transaction.transfers a t
  | .enter .. => []

def Move.grants (a t : Address) : Move → List Nat
  | .op transaction => transaction.grants a t
  | .enter .. => []

/-- The account is not a pair, and all allowances it gave of the token are used up by spending. -/
structure Limited (a t : Address) (c : Chain) : Prop where
  holder : c.pairs a = none
  limited : ∀ s, c.tokens.allowance t a s < Uint256.max

/-- From `c` to `c'` the account lost no more of the token than what it transferred itself and
    what was spent of its allowances. -/
structure Loses (a t : Address) (transfers grants : Nat) (c c' : Chain) : Prop extends
    Limited a t c' where
  balance : c.tokens.balanceOf t a + ∑ s, c'.tokens.allowance t a s ≤
    c'.tokens.balanceOf t a + transfers + (∑ s, c.tokens.allowance t a s + grants)

theorem Loses.trans {c'' : Chain} {m n m' n' : Nat} (h : Loses a t m n c c')
    (h' : Loses a t m' n' c' c'') : Loses a t (m + m') (n + n') c c'' where
  toLimited := h'.toLimited
  balance := by
    have hfirst := h.balance
    have hsecond := h'.balance
    omega

/-- A step that leaves the allowances alone and takes nothing from the account. -/
theorem Limited.quiet (hl : Limited a t c) (hpairs : c'.pairs a = none)
    (hallowance : c'.tokens.allowance t a = c.tokens.allowance t a)
    (hbalance : c.tokens.balanceOf t a ≤ c'.tokens.balanceOf t a) : Loses a t 0 0 c c' where
  holder := hpairs
  limited := by
    rw [hallowance]
    exact hl.limited
  balance := by
    rw [hallowance]
    omega

/-- A pair takes nothing from an account that is not a pair. -/
theorem Limited.frame {pair : Address} {p : Pair} (hl : Limited a t c) (hp : c.pairs pair = some p)
    (hf : Frame pair c c') : Loses a t 0 0 c c' := by
  have hne : a ≠ pair := by
    rintro rfl
    rw [hl.holder] at hp
    cases hp
  refine hl.quiet ?_ ?_ (hf.balance t a hne)
  · rw [hf.pairs a hne]
    exact hl.holder
  · rw [hf.allowance]

theorem Limited.acts {pair : Address} (hl : Limited a t c) (h : Acts pair c c') :
    Loses a t 0 0 c c' := by
  obtain ⟨p, -, hp, -⟩ := h.own
  exact hl.frame hp h.frame

/-! ## Transactions outside the pairs -/

/-- `transferFrom` of any token leaves the allowances or lowers the spender's. -/
theorem transferFrom_allowance_cases {token spender src dst : Address} {value : Nat}
    (h : c.transferFrom token spender src dst value = some c') :
    (c.tokens.allowance token src spender = Uint256.max ∧
      c'.tokens.allowance = c.tokens.allowance) ∨
    c'.tokens.allowance = (c.tokens.approve token src spender
      (c.tokens.allowance token src spender - value)).allowance := by
  obtain ⟨-, -, tokens, logs, rfl, hspent⟩ := Chain.transferFrom_effect h
  obtain ⟨hmax, rfl⟩ | ⟨-, rfl⟩ := hspent
  · exact .inl ⟨hmax, rfl⟩
  · exact .inr rfl

theorem callTransfer_loses {token sender dst : Address} {value : Nat} (hl : Limited a t c)
    (h : callTransfer c token sender dst value = .ok c') :
    Loses a t (if t = token ∧ a = sender then value else 0) 0 c c' := by
  simp only [callTransfer, bind_eq_ok] at h
  obtain ⟨-, -, h⟩ := h
  split at h
  · rename_i c₁ htransfer
    obtain rfl := pure_eq_ok.mp h
    obtain ⟨⟨hle, -⟩, rfl⟩ := Chain.transfer_eq_some.mp htransfer
    have hmove := c.tokens.balanceOf_move_add token sender dst value hle t a
    refine ⟨⟨hl.holder, hl.limited⟩, ?_⟩
    simp only [Chain.moved_tokens, Ledger.move_allowance]
    omega
  · cases h

/-- What an approval by an account adds to its allowances. -/
theorem Limited.approve {token owner spender : Address} {value : Nat} (hl : Limited a t c)
    (hvalue : t = token ∧ a = owner → value < Uint256.max)
    (hpairs : c'.pairs a = none) (hbalance : c'.tokens.balanceOf = c.tokens.balanceOf)
    (hallowance : c'.tokens.allowance = (c.tokens.approve token owner spender value).allowance) :
    Loses a t 0 (if t = token ∧ a = owner then value else 0) c c' := by
  by_cases hown : t = token ∧ a = owner
  · obtain ⟨rfl, rfl⟩ := hown
    have hsum := c.tokens.sum_allowance_approve t a spender value
    refine ⟨⟨hpairs, fun s => ?_⟩, ?_⟩
    · rw [hallowance]
      simp only [Ledger.approve]
      split
      · exact hvalue ⟨rfl, rfl⟩
      · exact hl.limited s
    · rw [hbalance, hallowance, if_pos ⟨rfl, rfl⟩]
      omega
  · have hsame : c'.tokens.allowance t a = c.tokens.allowance t a := by
      rw [hallowance]
      exact funext (c.tokens.allowance_approve_of_ne spender value
        hown)
    rw [if_neg hown]
    exact hl.quiet hpairs hsame (by rw [hbalance])

theorem callApprove_loses {token sender spender : Address} {value : Nat} (hl : Limited a t c)
    (hvalue : t = token ∧ a = sender → value < Uint256.max)
    (h : callApprove c token sender spender value = .ok c') :
    Loses a t 0 (if t = token ∧ a = sender then value else 0) c c' := by
  simp only [callApprove, bind_eq_ok] at h
  obtain ⟨-, -, h⟩ := h
  split at h
  · obtain ⟨logs, rfl⟩ := lpApprove_eq h
    exact hl.approve hvalue hl.holder rfl rfl
  · obtain rfl := pure_eq_ok.mp h
    exact hl.approve hvalue hl.holder rfl rfl

theorem callPermit_loses {pair owner spender recovered : Address} {value deadline : Nat}
    (hl : Limited a t c) (hvalue : t = pair ∧ a = recovered → value < Uint256.max)
    (h : callPermit c pair owner spender value deadline recovered = .ok c') :
    Loses a t 0 (if t = pair ∧ a = recovered then value else 0) c c' := by
  simp only [callPermit, FluxSwapERC20.permit, bind_eq_ok, require_eq_ok, Chain.pairAt_eq_ok] at h
  obtain ⟨_, -, _, -, p, hp, nonce, -, _, ⟨-, rfl⟩, happrove⟩ := h
  obtain ⟨logs, rfl⟩ := lpApprove_eq happrove
  have hne : a ≠ pair := by
    rintro rfl
    rw [hl.holder] at hp
    cases hp
  refine hl.approve hvalue ?_ rfl rfl
  simpa [hne] using hl.holder

/-- `transferFrom` of any token: what is taken from an account is spent of its allowances. -/
theorem transferFrom_loses {token spender src dst : Address} {value : Nat} (hl : Limited a t c)
    (h : c.transferFrom token spender src dst value = some c') : Loses a t 0 0 c c' := by
  have hfrom := Chain.transferFrom_spec h
  have hpairs : c'.pairs a = none := by
    rw [hfrom.pairs]
    exact hl.holder
  by_cases hown : t = token ∧ a = src
  · obtain ⟨rfl, rfl⟩ := hown
    -- a limited allowance goes down by what is taken
    have hspent := (transferFrom_allowance_cases h).resolve_left
      fun hmax => (hl.limited spender).ne hmax.1
    have hle := hfrom.allowed.resolve_left (hl.limited spender).ne
    have hmove := c.tokens.balanceOf_move_add t a dst value hfrom.enough t a
    have hsum := c.tokens.sum_allowance_approve t a spender
      (c.tokens.allowance t a spender - value)
    refine ⟨⟨hpairs, fun s => ?_⟩, ?_⟩
    · rw [hspent]
      simp only [Ledger.approve]
      split
      · have hlimited := hl.limited spender
        omega
      · exact hl.limited s
    · rw [hspent, hfrom.balances]
      simp only [and_self, if_true] at hmove
      omega
  -- the transfer is of another token or from another owner
  · have hsame : c'.tokens.allowance t a = c.tokens.allowance t a := by
      rcases transferFrom_allowance_cases h with ⟨-, hkept⟩ | hspent
      · rw [hkept]
      · rw [hspent]
        exact funext (c.tokens.allowance_approve_of_ne spender _ hown)
    refine hl.quiet hpairs hsame ?_
    have hmove := c.tokens.balanceOf_move_add token src dst value hfrom.enough t a
    rw [if_neg hown] at hmove
    rw [hfrom.balances]
    omega

/-! ## Every transaction and every run -/

/-- A swap, if its callback takes no more than its operations say. -/
theorem swap_loses {pair sender dst : Address} {amount0Out amount1Out m n : Nat}
    {callback : Chain → Exec Chain} (hs : Sound c) (hl : Limited a t c)
    (hkeeps : ∀ c₁ c₂, Sound c₁ → callback c₁ = .ok c₂ → Keeps c₁ c₂)
    (hcallback : ∀ c₁ c₂, Sound c₁ → Limited a t c₁ → callback c₁ = .ok c₂ → Loses a t m n c₁ c₂)
    (h : swap pair sender amount0Out amount1Out dst callback c = .ok (c', ())) :
    Loses a t m n c c' := by
  obtain ⟨p, c₃, p₃, hp, hopen, hbody, hp₃, rfl⟩ := lock_spec h
  simp only [bind_eq_ok, Chain.pairAt_eq_ok, Chain.setPair_pairs, Function.update_self,
    Option.some.injEq, pure_eq_ok, Prod.mk.injEq, and_true] at hbody
  obtain ⟨_, rfl, c₁, hsend, c₂, hrun, c₃', htake, rfl⟩ := hbody
  have henter : enterSwap c pair amount0Out amount1Out dst = .ok c₁ := by
    simp only [enterSwap, bind_eq_ok, Chain.pairAt_eq_ok, require_eq_ok]
    exact ⟨p, hp, (), hopen, hsend⟩
  obtain ⟨q, hq, -, hframe₁, hp₁, hsound₁⟩ := enterSwap_spec hs henter
  obtain rfl := Option.some.inj (hp.symm.trans hq)
  have hpaid : Loses a t 0 0 c c₁ := hl.frame hp hframe₁
  have hmid := hkeeps c₁ c₂ hsound₁ hrun
  have hcalled := hcallback c₁ c₂ hsound₁ hpaid.toLimited hrun
  obtain ⟨p₂, hp₂, hadv⟩ := hmid.advance pair _ hp₁
  obtain ⟨p', hframe₃, -⟩ := takeInputs_spec hp₂
    (hmid.sound pair p₂ hp₂).toSharesSound hadv.token0 hadv.token1 htake
  have htaken := hcalled.toLimited.frame hp₂ (hframe₃.trans (.setPair _ _ { p₃ with unlocked := 1 }))
  simpa using (hpaid.trans hcalled).trans htaken

/-- The allowances that an account gives stay below the one that is never used up. -/
def Finite (grants : List Nat) : Prop := ∀ value ∈ grants, value < Uint256.max

instance (grants : List Nat) : Decidable (Finite grants) :=
  inferInstanceAs (Decidable (∀ value ∈ grants, value < Uint256.max))

mutual

/-- The step lemma: a transaction, with all the callbacks in it, takes no more than the account
    transfers and has allowed. -/
theorem exec_loses : (op : Op) → (c c' : Chain) → Sound c → Limited a t c →
    Finite (op.grants a t) → exec op c = .ok c' →
    Loses a t (op.transfers a t).sum (op.grants a t).sum c c'
  | .mint pair sender dst, c, c', hs, hl, _, h => by
    simp only [exec, bind_eq_ok, pure_eq_ok] at h
    obtain ⟨⟨c₁, liquidity⟩, hrun, rfl⟩ := h
    exact hl.acts (mint_acts hs hrun)
  | .burn pair sender dst, c, c', hs, hl, _, h => by
    simp only [exec, bind_eq_ok, pure_eq_ok] at h
    obtain ⟨⟨c₁, amounts⟩, hrun, rfl⟩ := h
    exact hl.acts (burn_acts hs hrun)
  | .swap pair sender amount0Out amount1Out dst callback, c, c', hs, hl, hfinite, h => by
    simp only [exec, bind_eq_ok, pure_eq_ok] at h
    obtain ⟨⟨c₁, u⟩, hrun, rfl⟩ := h
    rw [Op.grants] at hfinite ⊢
    rw [Op.transfers]
    -- the callback is a list of transactions: the second half of the induction
    exact swap_loses hs hl (fun c₁ c₂ => execAll_keeps callback c₁ c₂)
      (fun c₁ c₂ hs₁ hl₁ => execAll_loses callback c₁ c₂ hs₁ hl₁ hfinite) hrun
  | .skim pair dst, c, c', hs, hl, _, h => by
    simp only [exec, bind_eq_ok, pure_eq_ok] at h
    obtain ⟨⟨c₁, u⟩, hrun, rfl⟩ := h
    exact hl.acts (skim_acts hs hrun)
  | .sync pair, c, c', hs, hl, _, h => by
    simp only [exec, bind_eq_ok, pure_eq_ok] at h
    obtain ⟨⟨c₁, u⟩, hrun, rfl⟩ := h
    exact hl.acts (sync_acts hs hrun)
  | .transfer token sender dst value, c, c', _, hl, _, h => by
    rw [exec] at h
    have hloses := callTransfer_loses hl h
    by_cases hown : t = token ∧ a = sender
    · simpa [Op.transfers, Op.grants, hown] using hloses
    · simpa [Op.transfers, Op.grants, hown] using hloses
  | .transferFrom token sender src dst value, c, c', _, hl, _, h => by
    simp only [exec, callTransferFrom, bind_eq_ok] at h
    obtain ⟨-, -, h⟩ := h
    split at h
    · rename_i c₁ htransfer
      obtain rfl := pure_eq_ok.mp h
      exact transferFrom_loses hl htransfer
    · cases h
  | .approve token sender spender value, c, c', _, hl, hfinite, h => by
    rw [exec] at h
    have hloses := callApprove_loses hl (fun hown => hfinite value (by simp [Op.grants, hown])) h
    by_cases hown : t = token ∧ a = sender
    · simpa [Op.transfers, Op.grants, hown] using hloses
    · simpa [Op.transfers, Op.grants, hown] using hloses
  | .permit pair owner spender value deadline recovered, c, c', _, hl, hfinite, h => by
    rw [exec] at h
    have hloses := callPermit_loses hl (fun hown => hfinite value (by simp [Op.grants, hown])) h
    by_cases hown : t = pair ∧ a = recovered
    · simpa [Op.transfers, Op.grants, hown] using hloses
    · simpa [Op.transfers, Op.grants, hown] using hloses
  | .setTreasury treasury, c, c', _, hl, _, h => by
    rw [exec] at h
    obtain rfl := pure_eq_ok.mp h
    exact hl.quiet hl.holder rfl le_rfl
  | .advanceTime seconds, c, c', _, hl, _, h => by
    rw [exec] at h
    obtain rfl := pure_eq_ok.mp h
    exact hl.quiet hl.holder rfl le_rfl

theorem execAll_loses : (ops : List Op) → (c c' : Chain) → Sound c → Limited a t c →
    Finite (grantsAll a t ops) → execAll ops c = .ok c' →
    Loses a t (transfersAll a t ops).sum (grantsAll a t ops).sum c c'
  | [], c, c', _, hl, _, h => by
    rw [execAll] at h
    obtain rfl := pure_eq_ok.mp h
    exact hl.quiet hl.holder rfl le_rfl
  | op :: ops, c, c', hs, hl, hfinite, h => by
    rw [execAll] at h
    obtain ⟨c₁, hop, hops⟩ := bind_eq_ok.mp h
    rw [grantsAll] at hfinite ⊢
    rw [transfersAll, List.sum_append, List.sum_append]
    have hfirst := exec_loses op c c₁ hs hl
      (fun value hvalue => hfinite value (List.mem_append_left _ hvalue)) hop
    exact hfirst.trans (execAll_loses ops c₁ c' (exec_keeps op c c₁ hs hop).sound
      hfirst.toLimited (fun value hvalue => hfinite value (List.mem_append_right _ hvalue)) hops)

end

/-- In every run, in every state of it and inside callbacks too, an account that is not a pair
    has lost of a token at most what it transferred itself and what the allowances it had given,
    and gave in the run, have gone down by, provided that it gave no unlimited one. -/
theorem holder_loses_only_granted {c₀ : Chain} {log : System.History Chain Move}
    (h₀ : system.Reachable c₀) (hholder : c₀.pairs a = none)
    (hlimited : ∀ s, c₀.tokens.allowance t a s < Uint256.max)
    (h : (runsFrom c₀).ReachableWith (fun _ m => Finite (m.grants a t)) (c, log)) :
    c₀.tokens.balanceOf t a + ∑ s, c.tokens.allowance t a s ≤
      c.tokens.balanceOf t a + (log.map fun entry => (entry.2.transfers a t).sum).sum +
        (∑ s, c₀.tokens.allowance t a s + (log.map fun entry => (entry.2.grants a t).sum).sum) := by
  have hkept : Sound c ∧ Loses a t (log.map fun entry => (entry.2.transfers a t).sum).sum
      (log.map fun entry => (entry.2.grants a t).sum).sum c₀ c := by
    refine System.ReachableWith.invariant_logged (I := fun c log => Sound c ∧
      Loses a t (log.map fun entry => (entry.2.transfers a t).sum).sum
        (log.map fun entry => (entry.2.grants a t).sum).sum c₀ c) ?_ ?_ h
    · rintro c rfl
      exact ⟨reachable_sound h₀, Limited.quiet ⟨hholder, hlimited⟩ hholder rfl le_rfl⟩
    · rintro s log m s' ⟨hs, hloses⟩ hfinite hstep
      simp only [List.map_cons, List.sum_cons]
      rw [Nat.add_comm (m.transfers a t).sum, Nat.add_comm (m.grants a t).sum]
      cases m with
      | op op =>
        exact ⟨(exec_keeps op s s' hs hstep).sound,
          hloses.trans (exec_loses op s s' hs hloses.toLimited hfinite hstep)⟩
      | enter pair amount0Out amount1Out dst =>
        obtain ⟨p, hp, -, hframe, -, hsound⟩ := enterSwap_spec hs hstep
        exact ⟨hsound, hloses.trans (hloses.toLimited.frame hp hframe)⟩
  exact hkept.2.balance

namespace Example

theorem bob_ne_zero : (6 : Address) ≠ Address.zero := by decide

def bob : Sender := ⟨6, bob_ne_zero⟩

/-- Alice provides liquidity and lets Bob spend; he does so in the callback of a flash swap. -/
def spending : List Move :=
  deposit ++ [.op (.approve token0 alice bob 500), .op (.swap pair bob 0 30000 bob
    [.transfer token0 bob pair 20000, .transferFrom token0 bob alice bob 300])]

end Example

open Example in
theorem holder_loses_only_granted_spending :
    ∃ c log, (runsFrom start).ReachableWith (fun _ m => Finite (m.grants alice token0)) (c, log) ∧
      c.tokens.balanceOf token0 alice = 10 ^ 9 - 10 ^ 6 - 300 ∧
      start.tokens.balanceOf token0 alice + ∑ s, c.tokens.allowance token0 alice s ≤
        c.tokens.balanceOf token0 alice + 10 ^ 6 +
          (∑ s, start.tokens.allowance token0 alice s + 500) := by
  have hrun : (System.runWith (System.logged move) (fun _ m => Finite (m.grants alice token0))
      (start, []) spending).map (fun r => (r.1.tokens.balanceOf token0 alice,
        (r.2.map fun entry => (entry.2.transfers alice token0).sum).sum,
        (r.2.map fun entry => (entry.2.grants alice token0).sum).sum)) =
      some (10 ^ 9 - 10 ^ 6 - 300, 10 ^ 6, 500) := by
    decide +kernel
  obtain ⟨⟨c, log⟩, hs, hsummary⟩ := Option.map_eq_some_iff.mp hrun
  simp only [Prod.mk.injEq] at hsummary
  obtain ⟨hbalance, htransfers, hgrants⟩ := hsummary
  have hreach : (runsFrom start).ReachableWith (fun _ m => Finite (m.grants alice token0)) (c, log) :=
    System.reachableWith_of_runWith (.init ⟨rfl, rfl⟩) hs
  have hloses := holder_loses_only_granted (.init start_initial) (by decide)
    (fun _ => by simp [start, Uint256.max]) hreach
  rw [htransfers, hgrants] at hloses
  exact ⟨c, log, hreach, hbalance, hloses⟩

end FluxSwapPair
