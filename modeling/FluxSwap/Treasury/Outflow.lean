-- SUMMARY: What leaves the treasury: every outflow is an allocation, a debit of an approved spender, or a timelocked withdrawal.
import FluxSwap.Treasury.Caps
import FluxSwap.Contracts.Basic

/-!
# Outflows

The balances are those of standard tokens and of ETH. Other accounts move only what is
theirs: the treasury approves nobody, so nobody else's call takes anything from it. Its
own calls take an asset out in three ways, and each call belongs to one of them. The
debits of a spender are bounded by the last approval, since an approval sets what
remains and every debit lowers it.
-/

/-- The balances of a chain: tokens and ETH. -/
structure Assets where
  tokens : Tokens
  eth    : Address → Nat

namespace Assets

/-- A payment of ETH. -/
def moveETH (a : Assets) (src dst : Address) (amount : Nat) : Assets :=
  { a with eth := fun b =>
      a.eth b - (if b = src then amount else 0) + (if b = dst then amount else 0) }

/-- Standard tokens and ETH: a transfer moves exactly the amount, a burn removes it. -/
def payments : Payments Assets where
  transfer token src dst amount a :=
    (a.tokens.transfer token src dst amount).map fun tokens => { a with tokens := tokens }
  burn token src amount a :=
    if amount ≤ a.tokens.balanceOf token src then
      some { a with tokens := a.tokens.debit token src amount }
    else none
  sendETH src dst amount a := if amount ≤ a.eth src then some (a.moveETH src dst amount) else none

/-- The holding of an account. -/
def holding (a : Assets) (account : Address) : Asset → Nat
  | .eth => a.eth account
  | .token token => a.tokens.balanceOf token account

/-- What other accounts than `self` may do: move, approve and burn what is theirs, spend what
    was approved, and issue new tokens. -/
inductive Elsewhere (self : Address) (a : Assets) : Assets → Prop
  | pay (token src dst : Address) (amount : Nat) (a' : Assets) : src ≠ self →
    payments.transfer token src dst amount a = some a' → Elsewhere self a a'
  | burn (token src : Address) (amount : Nat) (a' : Assets) : src ≠ self →
    payments.burn token src amount a = some a' → Elsewhere self a a'
  | payETH (src dst : Address) (amount : Nat) (a' : Assets) : src ≠ self →
    payments.sendETH src dst amount a = some a' → Elsewhere self a a'
  | approve (token owner spender : Address) (amount : Nat) : owner ≠ self →
    Elsewhere self a { a with tokens := a.tokens.approve token owner spender amount }
  | spend (token spender src dst : Address) (amount : Nat) (tokens : Tokens) :
    a.tokens.transferFrom Uint256.max token spender src dst amount = some tokens →
    Elsewhere self a { a with tokens := tokens }
  | issue (token dst : Address) (amount : Nat) :
    Elsewhere self a { a with tokens := a.tokens.credit token dst amount }

/-- The account has approved nobody. -/
def Unapproved (account : Address) (a : Assets) : Prop :=
  ∀ token spender, a.tokens.allowance token account spender = 0

variable {a a' : Assets} {account src dst token : Address} {amount : Nat}

/-- What a payer loses: the amount of the asset it pays, unless it pays itself. -/
theorem transfer_holding (h : payments.transfer token src dst amount a = some a') (asset : Asset) :
    a.holding src asset = a'.holding src asset ∨
      (asset = .token token ∧ a.holding src asset = a'.holding src asset + amount) := by
  obtain ⟨tokens, htransfer, rfl⟩ := Option.map_eq_some_iff.mp h
  obtain ⟨⟨hle, -⟩, rfl⟩ := Ledger.transfer_eq_some.mp htransfer
  cases asset with
  | eth => exact .inl rfl
  | token t =>
    have hadd := a.tokens.balanceOf_move_add token src dst amount hle t src
    by_cases ht : t = token
    · subst ht
      by_cases hself : src = dst
      · subst hself
        exact .inl (a.tokens.balanceOf_move_self t src amount hle).symm
      · right
        simp only [holding, and_self, if_true, true_and, hself, if_false] at hadd ⊢
        exact hadd.symm
    · left
      exact (a.tokens.balanceOf_move_of_token_ne token src dst amount ht src).symm

theorem burn_holding (h : payments.burn token src amount a = some a') (asset : Asset) :
    a.holding src asset = a'.holding src asset ∨
      (asset = .token token ∧ a.holding src asset = a'.holding src asset + amount) := by
  simp only [payments, Option.ite_none_right_eq_some, Option.some.injEq] at h
  obtain ⟨hle, rfl⟩ := h
  cases asset with
  | eth => exact .inl rfl
  | token t =>
    have hadd := a.tokens.balanceOf_debit_add token src amount hle t src
    by_cases ht : t = token
    · subst ht
      right
      simp only [holding, and_self, if_true] at hadd ⊢
      exact ⟨trivial, hadd.symm⟩
    · left
      exact (a.tokens.balanceOf_debit_of_token_ne token src amount ht src).symm

theorem sendETH_holding (h : payments.sendETH src dst amount a = some a') (asset : Asset) :
    a.holding src asset = a'.holding src asset ∨
      (asset = .eth ∧ a.holding src asset = a'.holding src asset + amount) := by
  simp only [payments, Option.ite_none_right_eq_some, Option.some.injEq] at h
  obtain ⟨hle, rfl⟩ := h
  cases asset with
  | token t => exact .inl rfl
  | eth =>
    by_cases hself : src = dst
    · subst hself
      left
      simp only [holding, moveETH, if_true]
      omega
    · refine .inr ⟨rfl, ?_⟩
      simp only [holding, moveETH, if_true, hself, if_false]
      omega

theorem Unapproved.of_transfer (hu : a.Unapproved account)
    (h : payments.transfer token src dst amount a = some a') : a'.Unapproved account := by
  obtain ⟨tokens, htransfer, rfl⟩ := Option.map_eq_some_iff.mp h
  obtain ⟨-, rfl⟩ := Ledger.transfer_eq_some.mp htransfer
  exact hu

theorem Unapproved.of_burn (hu : a.Unapproved account)
    (h : payments.burn token src amount a = some a') : a'.Unapproved account := by
  simp only [payments, Option.ite_none_right_eq_some, Option.some.injEq] at h
  obtain ⟨-, rfl⟩ := h
  exact hu

theorem Unapproved.of_sendETH (hu : a.Unapproved account)
    (h : payments.sendETH src dst amount a = some a') : a'.Unapproved account := by
  simp only [payments, Option.ite_none_right_eq_some, Option.some.injEq] at h
  obtain ⟨-, rfl⟩ := h
  exact hu

/-- Nobody else takes anything from an account that has approved nobody. -/
theorem Elsewhere.holding_le (h : Elsewhere account a a') (hunapproved : a.Unapproved account)
    (asset : Asset) : a.holding account asset ≤ a'.holding account asset := by
  cases h with
  | pay token src dst amount _ hother hpaid =>
    obtain ⟨tokens, htransfer, rfl⟩ := Option.map_eq_some_iff.mp hpaid
    obtain ⟨-, rfl⟩ := Ledger.transfer_eq_some.mp htransfer
    cases asset with
    | eth => exact le_rfl
    | token t => exact a.tokens.balanceOf_le_move _ _ _ _ hother.symm t
  | burn token src amount _ hother hburnt =>
    simp only [payments, Option.ite_none_right_eq_some, Option.some.injEq] at hburnt
    obtain ⟨-, rfl⟩ := hburnt
    cases asset with
    | eth => exact le_rfl
    | token t => exact (a.tokens.balanceOf_debit_of_ne token src amount hother.symm t).ge
  | payETH src dst amount _ hother hpaid =>
    simp only [payments, Option.ite_none_right_eq_some, Option.some.injEq] at hpaid
    obtain ⟨-, rfl⟩ := hpaid
    cases asset with
    | token t => exact le_rfl
    | eth =>
      simp only [holding, moveETH, hother.symm, if_false, Nat.sub_zero]
      exact Nat.le_add_right _ _
  | approve token owner spender amount hother =>
    cases asset with
    | eth => exact le_rfl
    | token t => exact le_rfl
  | spend token spender src dst amount tokens hspent =>
    cases asset with
    | eth => exact le_rfl
    | token t =>
      obtain ⟨hle, hbalance⟩ := Ledger.transferFrom_balanceOf hspent
      simp only [holding, hbalance]
      -- an account that has approved nobody is the source of nothing
      by_cases hself : account = src
      · subst hself
        have hzero : amount = 0 := by
          by_contra hpos
          rw [Ledger.transferFrom_eq_none (hunapproved _ _) (by decide)
            (Nat.pos_of_ne_zero hpos)] at hspent
          cases hspent
        rw [hzero, a.tokens.move_zero]
      · exact a.tokens.balanceOf_le_move _ _ _ _ hself t
  | issue token dst amount =>
    cases asset with
    | eth => exact le_rfl
    | token t => exact a.tokens.balanceOf_le_credit _ _ _ _ _

theorem Elsewhere.unapproved (h : Elsewhere account a a') (hunapproved : a.Unapproved account) :
    a'.Unapproved account := by
  cases h with
  | pay token src dst amount _ hother hpaid => exact hunapproved.of_transfer hpaid
  | burn token src amount _ hother hburnt => exact hunapproved.of_burn hburnt
  | payETH src dst amount _ hother hpaid => exact hunapproved.of_sendETH hpaid
  | approve token owner spender amount hother =>
    intro token' spender'
    simp only [Ledger.approve, hother.symm, false_and, and_false, if_false]
    exact hunapproved _ _
  | spend token spender src dst amount tokens hspent =>
    intro token' spender'
    exact Ledger.transferFrom_allowance_eq_zero hspent (hunapproved _ _)
  | issue token dst amount => exact hunapproved

end Assets

namespace Treasury

open Exec

variable {keccak256 : Bytes → Bytes32} {s s' : Treasury Assets}
  {log : System.History (Treasury Assets) (Op Assets)} {token spender : Address}

/-! ## Runs with standard tokens -/

/-- A treasury right after its constructor; its address is new, so it has approved nobody. -/
structure Founded (s : Treasury Assets) : Prop extends Deployed s where
  unapproved : s.assets.Unapproved s.self

/-- Other accounts move only what is theirs. -/
def Ordinary (r : Treasury Assets × System.History (Treasury Assets) (Op Assets)) :
    Op Assets → Prop
  | .others assets => r.1.assets.Elsewhere r.1.self assets
  | _ => True

/-- All runs of a treasury with standard tokens, with their histories. -/
def standardRuns (keccak256 : Bytes → Bytes32) :
    System (Treasury Assets × System.History (Treasury Assets) (Op Assets)) (Op Assets) :=
  .ofCallsLogged Founded (exec keccak256 Assets.payments)

theorem reachable_of_standardRuns (h : (standardRuns keccak256).ReachableWith Ordinary (s, log)) :
    (runs keccak256 Assets.payments).Reachable (s, log) :=
  System.ReachableWith.mono_logged (fun _ hs => hs.toDeployed) (fun _ _ _ => trivial) h

/-! ## Approved spenders -/

/-- What a call debits from the amount approved for a spender. -/
def debit (token spender : Address) : Op Assets → Nat
  | .consumeApprovedSpenderCap sender spent amount
  | .pullApprovedToken sender spent amount
  | .burnApprovedToken sender spent amount =>
    if spent = token ∧ sender = spender then amount else 0
  | _ => 0

/-- What a call sets the approved amount of a spender to: an approval or a revocation. -/
def approval (token spender : Address) : Op Assets → Option Nat
  | .execute (.approveSpender token' spender' amount) _ =>
    if token' = token ∧ spender' = spender then some amount else none
  | .execute (.revokeSpender token' spender') _ =>
    if token' = token ∧ spender' = spender then some 0 else none
  | _ => none

/-- What a call does to the amount approved for a spender. -/
def Remains (s s' : Treasury Assets) (token spender : Address) (op : Op Assets) : Prop :=
  match approval token spender op with
  | some amount => s'.approvedSpendRemaining token spender = amount
  | none => s'.approvedSpendRemaining token spender + debit token spender op =
      s.approvedSpendRemaining token spender

theorem setRemaining_remaining (s : Treasury Assets) (token' spender' : Address) (amount : Nat) :
    (s.setRemaining token' spender' amount).approvedSpendRemaining token spender =
      if token' = token ∧ spender' = spender then amount
      else s.approvedSpendRemaining token spender := by
  unfold setRemaining
  by_cases htoken : token' = token
  · subst htoken
    by_cases hspender : spender' = spender
    · subst hspender
      simp
    · simp [hspender, Ne.symm hspender]
  · simp [htoken, Ne.symm htoken]

theorem consumeApprovedSpender_remaining {sender spent : Address} {amount : Nat}
    (h : s.consumeApprovedSpender sender spent amount = .ok s') (token spender : Address) :
    s'.approvedSpendRemaining token spender +
      (if spent = token ∧ sender = spender then amount else 0) =
        s.approvedSpendRemaining token spender := by
  obtain ⟨-, -, hle, s₁, rfl, hs'⟩ := consumeApprovedSpender_eq_ok h
  have hsame : s'.approvedSpendRemaining = (s.setRemaining spent sender
      (s.approvedSpendRemaining spent sender - amount)).approvedSpendRemaining := by
    obtain ⟨-, rfl⟩ | ⟨-, rfl⟩ := hs'
    · rfl
    · rfl
  rw [hsame, setRemaining_remaining]
  split
  · rename_i hpair
    obtain ⟨rfl, rfl⟩ := hpair
    exact Nat.sub_add_cancel hle
  · rfl

theorem Performs.remains {operationId : Bytes32} {effect : Effect}
    (h : (s.setReadyAt operationId 0).Performs Assets.payments effect s') :
    Remains s s' token spender (.execute effect operationId) := by
  cases effect with
  | setOperator newOperator => obtain rfl := h; rfl
  | setGuardian newGuardian => obtain rfl := h; rfl
  | setMinDelay newMinDelay => obtain ⟨-, rfl⟩ := h; rfl
  | setAllowedToken token allowed => obtain ⟨-, rfl⟩ := h; rfl
  | setAllowedRecipient recipient allowed => obtain rfl := h; rfl
  | setDailySpendCap token newCap => obtain rfl := h; rfl
  | approveSpender token' spender' amount =>
    obtain rfl := h
    unfold Remains approval
    rw [setRemaining_remaining]
    by_cases hpair : token' = token ∧ spender' = spender
    · simp only [if_pos hpair]
    · simp only [if_neg hpair]
      rfl
  | revokeSpender token' spender' =>
    obtain rfl := h
    unfold Remains approval
    rw [setRemaining_remaining]
    by_cases hpair : token' = token ∧ spender' = spender
    · simp only [if_pos hpair]
    · simp only [if_neg hpair]
      rfl
  | emergencyWithdraw token dst amount => obtain ⟨-, a, -, rfl⟩ := h; rfl
  | emergencyWithdrawETH dst amount => obtain ⟨a, -, rfl⟩ := h; rfl

theorem exec_remains {op : Op Assets} (h : s.exec keccak256 Assets.payments op = .ok s')
    (token spender : Address) : Remains s s' token spender op := by
  cases op with
  | pause sender => obtain rfl := pause_eq_ok h; rfl
  | unpause sender => obtain rfl := unpause_eq_ok h; rfl
  | scheduleOperation sender operationId delay =>
    obtain ⟨-, -, rfl⟩ := scheduleOperation_eq_ok h
    rfl
  | cancelOperation sender operationId => obtain rfl := cancelOperation_eq_ok h; rfl
  | execute effect operationId => exact (execute_eq_ok h).2.2.2.remains
  | allocate sender spent dst amount =>
    obtain ⟨-, -, -, -, -, a, -, rfl⟩ := allocate_eq_ok h
    rfl
  | allocateETH sender dst amount =>
    obtain ⟨-, -, -, -, a, -, rfl⟩ := allocateETH_eq_ok h
    rfl
  | consumeApprovedSpenderCap sender spent amount =>
    exact consumeApprovedSpender_remaining (consumeApprovedSpenderCap_eq_ok h).2 token spender
  | pullApprovedToken sender spent amount =>
    obtain ⟨-, s₁, a, hconsume, -, rfl⟩ := pullApprovedToken_eq_ok h
    exact consumeApprovedSpender_remaining hconsume token spender
  | burnApprovedToken sender spent amount =>
    obtain ⟨-, s₁, a, hconsume, -, rfl⟩ := burnApprovedToken_eq_ok h
    exact consumeApprovedSpender_remaining hconsume token spender
  | wait seconds => obtain rfl := pure_eq_ok.mp h; rfl
  | others assets => obtain rfl := pure_eq_ok.mp h; rfl

/-- All that was debited in a part of a history. -/
def debits (token spender : Address) (log : System.History (Treasury Assets) (Op Assets)) : Nat :=
  (log.map fun r => debit token spender r.2).sum

/-- Since an approval, what was debited and what remains make up the approved amount. -/
def SinceApproval (s : Treasury Assets) (log : System.History (Treasury Assets) (Op Assets)) :
    Prop :=
  ∀ token spender amount since x op older, log = since ++ (x, op) :: older →
    approval token spender op = some amount →
    (∀ r ∈ since, approval token spender r.2 = none) →
    debits token spender since + s.approvedSpendRemaining token spender = amount

theorem SinceApproval.step {op : Op Assets} (hI : SinceApproval s log)
    (h : s.exec keccak256 Assets.payments op = .ok s') : SinceApproval s' ((s, op) :: log) := by
  intro token spender amount since x op' older hlog happroval hnone
  have hremains := exec_remains h token spender
  unfold Remains at hremains
  cases since with
  | nil =>
    obtain ⟨hlast, rfl⟩ := List.cons.inj hlog
    obtain ⟨rfl, rfl⟩ := Prod.mk.inj hlast
    rw [happroval] at hremains
    rw [hremains]
    exact Nat.zero_add _
  | cons last since =>
    obtain ⟨rfl, rfl⟩ := List.cons.inj hlog
    rw [hnone _ List.mem_cons_self] at hremains
    have hbefore := hI token spender amount since x op' older rfl happroval
      fun r hr => hnone r (List.mem_cons_of_mem _ hr)
    simp only [debits, List.map_cons, List.sum_cons] at hbefore ⊢
    omega

theorem reachable_sinceApproval (h : (standardRuns keccak256).ReachableWith Ordinary (s, log)) :
    SinceApproval s log := by
  refine System.ReachableWith.invariant_logged (I := SinceApproval) ?_ ?_ h
  · intro s _ token spender amount since x op older hlog
    cases since <;> cases hlog
  · exact fun s log op s' hI _ hcall => hI.step hcall

/-- The debits in any part of a history that follows an approval, up to the next one. -/
theorem debits_le {later since older : System.History (Treasury Assets) (Op Assets)}
    {x : Treasury Assets} {op : Op Assets} {amount : Nat}
    (h : (standardRuns keccak256).ReachableWith Ordinary (s, log))
    (hlog : log = later ++ (since ++ (x, op) :: older))
    (happroval : approval token spender op = some amount)
    (hnone : ∀ r ∈ since, approval token spender r.2 = none) :
    debits token spender since ≤ amount := by
  obtain ⟨y, hy⟩ : ∃ y, (standardRuns keccak256).ReachableWith Ordinary
      (y, since ++ (x, op) :: older) := by
    cases later using List.reverseRecOn with
    | nil => exact ⟨s, hlog ▸ h⟩
    | append_singleton later last =>
      obtain ⟨y, op'⟩ := last
      rw [List.append_assoc] at hlog
      exact ⟨y, (System.ReachableWith.earlier h hlog).1⟩
  have hsum := reachable_sinceApproval hy token spender amount since x op older rfl happroval hnone
  omega

/-- The call debits the amount approved for a spender. -/
def Debits (token spender : Address) : Op Assets → Prop
  | .consumeApprovedSpenderCap sender spent _
  | .pullApprovedToken sender spent _
  | .burnApprovedToken sender spent _ => spent = token ∧ sender = spender
  | _ => False

/-- A debit that succeeds is positive. -/
theorem debit_pos {op : Op Assets} (h : s.exec keccak256 Assets.payments op = .ok s')
    (hdebits : Debits token spender op) : 0 < debit token spender op := by
  cases op with
  | consumeApprovedSpenderCap sender spent amount =>
    obtain ⟨-, hpositive, -⟩ :=
      consumeApprovedSpender_eq_ok (consumeApprovedSpenderCap_eq_ok h).2
    simp only [debit, if_pos (show spent = token ∧ sender = spender from hdebits)]
    exact hpositive
  | pullApprovedToken sender spent amount =>
    obtain ⟨-, s₁, a, hconsume, -, -⟩ := pullApprovedToken_eq_ok h
    simp only [debit, if_pos (show spent = token ∧ sender = spender from hdebits)]
    exact (consumeApprovedSpender_eq_ok hconsume).2.1
  | burnApprovedToken sender spent amount =>
    obtain ⟨-, s₁, a, hconsume, -, -⟩ := burnApprovedToken_eq_ok h
    simp only [debit, if_pos (show spent = token ∧ sender = spender from hdebits)]
    exact (consumeApprovedSpender_eq_ok hconsume).2.1
  | _ => cases hdebits

/-- After a revocation no debit succeeds before the next approval. -/
theorem no_debit_since_revocation {later since older : System.History (Treasury Assets) (Op Assets)}
    {x : Treasury Assets} {op : Op Assets}
    (h : (standardRuns keccak256).ReachableWith Ordinary (s, log))
    (hlog : log = later ++ (since ++ (x, op) :: older))
    (hrevoked : approval token spender op = some 0)
    (hnone : ∀ r ∈ since, approval token spender r.2 = none) :
    ∀ r ∈ since, ¬ Debits token spender r.2 := by
  intro r hr hdebits
  have hle := debits_le h hlog hrevoked hnone
  have hpart : debit token spender r.2 ≤ debits token spender since :=
    List.single_le_sum (fun _ _ => Nat.zero_le _) _
      (List.mem_map_of_mem (f := fun r => debit token spender r.2) hr)
  obtain ⟨front, back, rfl⟩ := List.append_of_mem hr
  obtain ⟨y, op'⟩ := r
  have hsplit : log = (later ++ front) ++ (y, op') :: (back ++ (x, op) :: older) := by
    rw [hlog]
    simp only [List.append_assoc, List.cons_append]
  obtain ⟨-, -, y', hcall⟩ := System.ReachableWith.earlier h hsplit
  have hpos := debit_pos hcall hdebits
  dsimp only at hpart
  omega

/-! ## Outflows -/

/-- What the treasury holds of an asset. -/
def holding (s : Treasury Assets) (asset : Asset) : Nat := s.assets.holding s.self asset

/-- The ways in which a call may take an amount of an asset out of the treasury, with what
    entitles it in the state and the history before it. -/
inductive Authorised (keccak256 : Bytes → Bytes32) (x : Treasury Assets)
    (before : System.History (Treasury Assets) (Op Assets)) : Op Assets → Asset → Nat → Prop
  | allocation {sender token dst : Address} {amount : Nat} :
    sender = x.operator ∨ sender = x.multisig → x.paused = false →
    x.allowedTokens token = true → x.allowedRecipients dst = true →
    Authorised keccak256 x before (.allocate sender token dst amount) (.token token) amount
  | allocationETH {sender dst : Address} {amount : Nat} :
    sender = x.operator ∨ sender = x.multisig → x.paused = false →
    x.allowedRecipients dst = true →
    Authorised keccak256 x before (.allocateETH sender dst amount) .eth amount
  | pulled {sender token : Address} {amount : Nat} :
    x.paused = false → amount ≤ x.approvedSpendRemaining token sender →
    Authorised keccak256 x before (.pullApprovedToken sender token amount) (.token token) amount
  | burnt {sender token : Address} {amount : Nat} :
    x.paused = false → amount ≤ x.approvedSpendRemaining token sender →
    Authorised keccak256 x before (.burnApprovedToken sender token amount) (.token token) amount
  | withdrawal {token dst : Address} {amount : Word256} {operationId : Bytes32}
    {y : Treasury Assets} :
    operationId = (Effect.emergencyWithdraw token dst amount).hash keccak256 →
    ScheduledIn keccak256 before operationId y → y.multisig = x.multisig →
    y.timestamp + y.minDelay ≤ x.timestamp →
    Authorised keccak256 x before (.execute (.emergencyWithdraw token dst amount) operationId)
      (.token token) amount
  | withdrawalETH {dst : Address} {amount : Word256} {operationId : Bytes32}
    {y : Treasury Assets} :
    operationId = (Effect.emergencyWithdrawETH dst amount).hash keccak256 →
    ScheduledIn keccak256 before operationId y → y.multisig = x.multisig →
    y.timestamp + y.minDelay ≤ x.timestamp →
    Authorised keccak256 x before (.execute (.emergencyWithdrawETH dst amount) operationId)
      .eth amount

/-- A call takes nothing of an asset, or exactly an amount it is authorised to take. -/
def Accounted (keccak256 : Bytes → Bytes32) (x x' : Treasury Assets)
    (before : System.History (Treasury Assets) (Op Assets)) (op : Op Assets) (asset : Asset) :
    Prop :=
  x.holding asset ≤ x'.holding asset ∨
    ∃ amount, x.holding asset = x'.holding asset + amount ∧
      Authorised keccak256 x before op asset amount

theorem consumeApprovedSpender_assets {sender spent : Address} {amount : Nat}
    (h : s.consumeApprovedSpender sender spent amount = .ok s') :
    s'.assets = s.assets ∧ s'.self = s.self ∧ amount ≤ s.approvedSpendRemaining spent sender := by
  obtain ⟨-, -, hle, s₁, rfl, ⟨-, rfl⟩ | ⟨-, rfl⟩⟩ := consumeApprovedSpender_eq_ok h
  · exact ⟨rfl, rfl, hle⟩
  · exact ⟨rfl, rfl, hle⟩

/-- A payment by the treasury, in a state whose balances are those before the call. -/
theorem accounted_of_paid {x x' : Treasury Assets}
    {before : System.History (Treasury Assets) (Op Assets)} {op : Op Assets} {asset paid : Asset}
    {amount : Nat}
    (h : x.holding asset = x'.holding asset ∨
      (asset = paid ∧ x.holding asset = x'.holding asset + amount))
    (hauthorised : Authorised keccak256 x before op paid amount) :
    Accounted keccak256 x x' before op asset := by
  obtain hsame | ⟨rfl, hpaid⟩ := h
  · exact .inl hsame.le
  · exact .inr ⟨amount, hpaid, hauthorised⟩

section Outflow

variable {x x' : Treasury Assets} {before : System.History (Treasury Assets) (Op Assets)}

theorem execute_accounted {effect : Effect} {operationId : Bytes32}
    (htimelocked : Timelocked keccak256 x before)
    (h : x.execute keccak256 Assets.payments operationId effect = .ok x') (asset : Asset) :
    Accounted keccak256 x x' before (.execute effect operationId) asset := by
  obtain ⟨hid, hknown, hready, hperforms⟩ := execute_eq_ok h
  obtain ⟨y, hy, hmultisig, hdelay⟩ := htimelocked operationId hknown
  cases effect with
  | setOperator newOperator => obtain rfl := hperforms; exact .inl le_rfl
  | setGuardian newGuardian => obtain rfl := hperforms; exact .inl le_rfl
  | setMinDelay newMinDelay => obtain ⟨-, rfl⟩ := hperforms; exact .inl le_rfl
  | setAllowedToken token allowed => obtain ⟨-, rfl⟩ := hperforms; exact .inl le_rfl
  | setAllowedRecipient recipient allowed => obtain rfl := hperforms; exact .inl le_rfl
  | setDailySpendCap token newCap => obtain rfl := hperforms; exact .inl le_rfl
  | approveSpender token spender amount => obtain rfl := hperforms; exact .inl le_rfl
  | revokeSpender token spender => obtain rfl := hperforms; exact .inl le_rfl
  | emergencyWithdraw token dst amount =>
    obtain ⟨-, a, hpaid, rfl⟩ := hperforms
    exact accounted_of_paid (Assets.transfer_holding hpaid asset)
      (.withdrawal hid hy hmultisig (hdelay.trans hready))
  | emergencyWithdrawETH dst amount =>
    obtain ⟨a, hpaid, rfl⟩ := hperforms
    exact accounted_of_paid (Assets.sendETH_holding hpaid asset)
      (.withdrawalETH hid hy hmultisig (hdelay.trans hready))

theorem exec_accounted {op : Op Assets} (hunapproved : x.assets.Unapproved x.self)
    (htimelocked : Timelocked keccak256 x before) (hordinary : Ordinary (x, before) op)
    (h : x.exec keccak256 Assets.payments op = .ok x') (asset : Asset) :
    Accounted keccak256 x x' before op asset := by
  cases op with
  | pause sender => obtain rfl := pause_eq_ok h; exact .inl le_rfl
  | unpause sender => obtain rfl := unpause_eq_ok h; exact .inl le_rfl
  | scheduleOperation sender operationId delay =>
    obtain ⟨-, -, rfl⟩ := scheduleOperation_eq_ok h
    exact .inl le_rfl
  | cancelOperation sender operationId =>
    obtain rfl := cancelOperation_eq_ok h
    exact .inl le_rfl
  | execute effect operationId => exact execute_accounted htimelocked h asset
  | allocate sender spent dst amount =>
    obtain ⟨hsender, hopen, htoken, hrecipient, -, a, hpaid, rfl⟩ := allocate_eq_ok h
    exact accounted_of_paid (Assets.transfer_holding hpaid asset)
      (.allocation hsender hopen htoken hrecipient)
  | allocateETH sender dst amount =>
    obtain ⟨hsender, hopen, hrecipient, -, a, hpaid, rfl⟩ := allocateETH_eq_ok h
    exact accounted_of_paid (Assets.sendETH_holding hpaid asset)
      (.allocationETH hsender hopen hrecipient)
  | consumeApprovedSpenderCap sender spent amount =>
    obtain ⟨-, hconsume⟩ := consumeApprovedSpenderCap_eq_ok h
    obtain ⟨hassets, hself, -⟩ := consumeApprovedSpender_assets hconsume
    left
    rw [holding, holding, hassets, hself]
  | pullApprovedToken sender spent amount =>
    obtain ⟨hopen, s₁, a, hconsume, hpaid, rfl⟩ := pullApprovedToken_eq_ok h
    obtain ⟨hassets, hself, hle⟩ := consumeApprovedSpender_assets hconsume
    rw [hassets, hself] at hpaid
    refine accounted_of_paid ?_ (.pulled hopen hle)
    simp only [holding, hself]
    exact Assets.transfer_holding hpaid asset
  | burnApprovedToken sender spent amount =>
    obtain ⟨hopen, s₁, a, hconsume, hburnt, rfl⟩ := burnApprovedToken_eq_ok h
    obtain ⟨hassets, hself, hle⟩ := consumeApprovedSpender_assets hconsume
    rw [hassets, hself] at hburnt
    refine accounted_of_paid ?_ (.burnt hopen hle)
    simp only [holding, hself]
    exact Assets.burn_holding hburnt asset
  | wait seconds => obtain rfl := pure_eq_ok.mp h; exact .inl le_rfl
  -- the others cannot spend what the treasury has not approved
  | others assets =>
    obtain rfl := pure_eq_ok.mp h
    exact .inl (Assets.Elsewhere.holding_le hordinary hunapproved asset)

end Outflow

/-! ## The treasury approves nobody -/

/-- The treasury has approved nobody to spend its tokens. -/
def Private (s : Treasury Assets) : Prop := s.assets.Unapproved s.self

theorem Performs.private {effect : Effect} (hs : s.Private)
    (h : s.Performs Assets.payments effect s') : s'.Private := by
  cases effect with
  | setOperator newOperator => obtain rfl := h; exact hs
  | setGuardian newGuardian => obtain rfl := h; exact hs
  | setMinDelay newMinDelay => obtain ⟨-, rfl⟩ := h; exact hs
  | setAllowedToken token allowed => obtain ⟨-, rfl⟩ := h; exact hs
  | setAllowedRecipient recipient allowed => obtain rfl := h; exact hs
  | setDailySpendCap token newCap => obtain rfl := h; exact hs
  | approveSpender token spender amount => obtain rfl := h; exact hs
  | revokeSpender token spender => obtain rfl := h; exact hs
  | emergencyWithdraw token dst amount =>
    obtain ⟨-, a, hpaid, rfl⟩ := h
    exact Assets.Unapproved.of_transfer hs hpaid
  | emergencyWithdrawETH dst amount =>
    obtain ⟨a, hpaid, rfl⟩ := h
    exact Assets.Unapproved.of_sendETH hs hpaid

theorem consumeApprovedSpender_private {sender spent : Address} {amount : Nat} (hs : s.Private)
    (h : s.consumeApprovedSpender sender spent amount = .ok s') : s'.Private := by
  obtain ⟨hassets, hself, -⟩ := consumeApprovedSpender_assets h
  unfold Private
  rw [hassets, hself]
  exact hs

theorem exec_private {op : Op Assets} (hs : s.Private) (hordinary : Ordinary (s, log) op)
    (h : s.exec keccak256 Assets.payments op = .ok s') : s'.Private := by
  cases op with
  | pause sender => obtain rfl := pause_eq_ok h; exact hs
  | unpause sender => obtain rfl := unpause_eq_ok h; exact hs
  | scheduleOperation sender operationId delay =>
    obtain ⟨-, -, rfl⟩ := scheduleOperation_eq_ok h
    exact hs
  | cancelOperation sender operationId => obtain rfl := cancelOperation_eq_ok h; exact hs
  | execute effect operationId =>
    have hconsumed : (s.setReadyAt operationId 0).Private := hs
    exact (execute_eq_ok h).2.2.2.private hconsumed
  | allocate sender spent dst amount =>
    obtain ⟨-, -, -, -, -, a, hpaid, rfl⟩ := allocate_eq_ok h
    exact Assets.Unapproved.of_transfer hs hpaid
  | allocateETH sender dst amount =>
    obtain ⟨-, -, -, -, a, hpaid, rfl⟩ := allocateETH_eq_ok h
    exact Assets.Unapproved.of_sendETH hs hpaid
  | consumeApprovedSpenderCap sender spent amount =>
    exact consumeApprovedSpender_private hs (consumeApprovedSpenderCap_eq_ok h).2
  | pullApprovedToken sender spent amount =>
    obtain ⟨-, s₁, a, hconsume, hpaid, rfl⟩ := pullApprovedToken_eq_ok h
    have hdebited : s₁.Private := consumeApprovedSpender_private hs hconsume
    exact Assets.Unapproved.of_transfer hdebited hpaid
  | burnApprovedToken sender spent amount =>
    obtain ⟨-, s₁, a, hconsume, hburnt, rfl⟩ := burnApprovedToken_eq_ok h
    have hdebited : s₁.Private := consumeApprovedSpender_private hs hconsume
    exact Assets.Unapproved.of_burn hdebited hburnt
  | wait seconds => obtain rfl := pure_eq_ok.mp h; exact hs
  | others assets =>
    obtain rfl := pure_eq_ok.mp h
    exact Assets.Elsewhere.unapproved hordinary hs

theorem reachable_private (h : (standardRuns keccak256).ReachableWith Ordinary (s, log)) :
    s.Private := by
  refine System.ReachableWith.invariant_logged (I := fun s _ => s.Private) ?_ ?_ h
  · exact fun s hfounded => hfounded.unapproved
  · exact fun s log op s' hI hordinary hcall => exec_private hI hordinary hcall

/-- In every history each call takes nothing of an asset out of the treasury, or exactly an
    amount that it is authorised to take; what a spender is debited since an approval is at
    most the approved amount; and no debit of a spender succeeds since a revocation. -/
theorem outflows_authorised (h : (standardRuns keccak256).ReachableWith Ordinary (s, log)) :
    (∀ later x op before, log = later ++ (x, op) :: before →
      ∃ x', x.exec keccak256 Assets.payments op = .ok x' ∧
        ∀ asset, Accounted keccak256 x x' before op asset) ∧
    (∀ token spender later since x (amount : Word256) operationId older,
      log = later ++ (since ++ (x, .execute (.approveSpender token spender amount) operationId) ::
        older) →
      (∀ r ∈ since, approval token spender r.2 = none) →
        debits token spender since ≤ amount) ∧
    (∀ token spender later since x operationId older,
      log = later ++ (since ++ (x, .execute (.revokeSpender token spender) operationId) :: older) →
      (∀ r ∈ since, approval token spender r.2 = none) →
        ∀ r ∈ since, ¬ Debits token spender r.2) := by
  refine ⟨?_, ?_, ?_⟩
  · intro later x op before hlog
    obtain ⟨hreach, hordinary, x', hcall⟩ := System.ReachableWith.earlier h hlog
    have htimelocked := reachable_timelocked (reachable_of_standardRuns hreach)
    exact ⟨x', hcall, exec_accounted (reachable_private hreach) htimelocked hordinary hcall⟩
  · intro token spender later since x amount operationId older hlog hnone
    exact debits_le h hlog (if_pos ⟨rfl, rfl⟩) hnone
  · intro token spender later since x operationId older hlog hnone
    exact no_debit_since_revocation h hlog (if_pos ⟨rfl, rfl⟩) hnone

namespace Example

/-- The treasury of two days' delay, with 1000 of a token. -/
def funded : Treasury Assets where
  self := 4
  multisig := council
  operator := 2
  guardian := 3
  minDelay := 172800
  paused := false
  allowedTokens := fun _ => false
  allowedRecipients := fun _ => false
  dailySpendCap := fun _ => 0
  spentToday := fun _ => 0
  lastSpendDay := fun _ => 0
  approvedSpendRemaining := fun _ _ => 0
  operationReadyAt := fun _ => 0
  timestamp := 1700000000
  assets :=
    { tokens := { balanceOf := fun token account => if token = 8 ∧ account = 4 then 1000 else 0
                  allowance := fun _ _ _ => 0
                  refuses := fun _ _ => false }
      eth := fun _ => 0 }

theorem funded_founded : Founded funded where
  toDeployed :=
    ⟨by decide, by decide, by decide, by decide, rfl, rfl, rfl, rfl, rfl, rfl, rfl, rfl⟩
  unapproved := fun _ _ => rfl

/-- A spender is approved for 100 after two days and pulls 60 of it. -/
def pullApproved : List (Op Assets) :=
  let operationId := (Effect.approveSpender 8 9 100).hash digest
  [.scheduleOperation council operationId 172800, .wait 172800,
    .execute (.approveSpender 8 9 100) operationId, .pullApprovedToken 9 8 60]

/-- A call of the treasury or the passing of time. -/
def ofTreasury : Op Assets → Bool
  | .others _ => false
  | _ => true

theorem ordinary_of_ofTreasury {r : Treasury Assets × System.History (Treasury Assets) (Op Assets)}
    {op : Op Assets} (h : ofTreasury op = true) : Ordinary r op := by
  cases op with
  | others assets => cases h
  | _ => trivial

end Example

open Example in
theorem outflows_authorised_pullApproved :
    ∃ s x op before, (standardRuns digest).ReachableWith Ordinary (s, (x, op) :: before) ∧
      x.holding (.token 8) = 1000 ∧ debit 8 9 op = 60 ∧
      ∃ x', x.exec digest Assets.payments op = .ok x' ∧
        ∀ asset, Accounted digest x x' before op asset := by
  have hrun : (System.runWith (System.logged (exec digest Assets.payments))
      (fun _ op => ofTreasury op = true) (funded, []) pullApproved).map
        (fun r => r.2.map fun call => (call.1.holding (.token 8), debit 8 9 call.2)) =
        some [(1000, 60), (1000, 0), (1000, 0), (1000, 0)] := by
    decide +kernel
  obtain ⟨⟨s, log⟩, hs, hsummary⟩ := Option.map_eq_some_iff.mp hrun
  have hreach : (standardRuns digest).ReachableWith Ordinary (s, log) :=
    System.ReachableWith.mono_logged (fun _ hfounded => hfounded)
      (fun _ _ hop => ordinary_of_ofTreasury hop)
      (System.reachableWith_of_runWith (.init ⟨funded_founded, rfl⟩) hs)
  cases log with
  | nil => cases hsummary
  | cons call before =>
    obtain ⟨x, op⟩ := call
    obtain ⟨hholding, hdebit⟩ := Prod.mk.inj (List.cons.inj hsummary).1
    exact ⟨s, x, op, before, hreach, hholding, hdebit,
      (outflows_authorised hreach).1 [] x op before rfl⟩

end Treasury
