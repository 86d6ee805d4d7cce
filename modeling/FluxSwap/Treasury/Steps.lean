-- SUMMARY: What each call of the treasury does: one inversion lemma per entry point.
import FluxSwap.Treasury.Model

/-!
# The steps of a treasury

Each lemma says under which checks a call succeeds and what it leaves, so that the
invariants of the other files never unfold an entry point.
-/

namespace Treasury

open Exec

variable {α : Type} {keccak256 : Bytes → Bytes32} {pay : Payments α} {s s' : Treasury α}
  {sender token dst spender : Address} {amount : Nat} {operationId : Bytes32} {effect : Effect}

/-! ## Operations -/

/-- The storage with another time at which an operation is ready. -/
def setReadyAt (s : Treasury α) (operationId : Bytes32) (time : Nat) : Treasury α :=
  { s with operationReadyAt := Function.update s.operationReadyAt operationId time }

theorem scheduleOperation_eq_ok {delay : Nat}
    (h : s.scheduleOperation sender operationId delay = .ok s') :
    sender = s.multisig ∧ s.minDelay ≤ delay ∧
      s' = s.setReadyAt operationId (s.timestamp + delay) := by
  simp only [scheduleOperation, bind_eq_ok, require_eq_ok, Uint256.add_eq_ok, pure_eq_ok] at h
  obtain ⟨_, hsender, _, -, _, hdelay, _, -, _, ⟨-, rfl⟩, rfl⟩ := h
  exact ⟨hsender, hdelay, rfl⟩

theorem cancelOperation_eq_ok (h : s.cancelOperation sender operationId = .ok s') :
    s' = s.setReadyAt operationId 0 := by
  simp only [cancelOperation, bind_eq_ok, require_eq_ok, pure_eq_ok] at h
  obtain ⟨_, -, _, -, rfl⟩ := h
  rfl

theorem consumeOperation_eq_ok {expectedId : Bytes32}
    (h : s.consumeOperation operationId expectedId = .ok s') :
    operationId = expectedId ∧ s.operationReadyAt operationId ≠ 0 ∧
      s.operationReadyAt operationId ≤ s.timestamp ∧ s' = s.setReadyAt operationId 0 := by
  simp only [consumeOperation, bind_eq_ok, require_eq_ok, pure_eq_ok] at h
  obtain ⟨_, hexpected, _, hknown, _, hready, rfl⟩ := h
  exact ⟨hexpected, hknown, hready, rfl⟩

@[simp] theorem call_eq_ok {text : String} {assets : Option α} :
    s.call text assets = .ok s' ↔ ∃ a, assets = some a ∧ { s with assets := a } = s' := by
  unfold call
  split <;> simp_all

/-- What an operation does after it was consumed. -/
def Performs (pay : Payments α) (s : Treasury α) : Effect → Treasury α → Prop
  | .setOperator newOperator, s' => s' = { s with operator := newOperator }
  | .setGuardian newGuardian, s' => s' = { s with guardian := newGuardian }
  | .setMinDelay newMinDelay, s' =>
    0 < newMinDelay.val ∧ s' = { s with minDelay := newMinDelay }
  | .setAllowedToken token allowed, s' =>
    token ≠ Address.zero ∧
      s' = { s with allowedTokens := Function.update s.allowedTokens token allowed }
  | .setAllowedRecipient recipient allowed, s' =>
    s' = { s with allowedRecipients := Function.update s.allowedRecipients recipient allowed }
  | .setDailySpendCap token newCap, s' =>
    s' = { s with dailySpendCap := Function.update s.dailySpendCap token newCap }
  | .approveSpender token spender amount, s' => s' = s.setRemaining token spender amount
  | .revokeSpender token spender, s' => s' = s.setRemaining token spender 0
  | .emergencyWithdraw token dst amount, s' =>
    token ≠ Address.zero ∧
      ∃ a, pay.transfer token s.self dst amount s.assets = some a ∧ s' = { s with assets := a }
  | .emergencyWithdrawETH dst amount, s' =>
    ∃ a, pay.sendETH s.self dst amount s.assets = some a ∧ s' = { s with assets := a }

/-- An execute function consumes the operation of its own effect. -/
theorem execute_eq_ok (h : s.execute keccak256 pay operationId effect = .ok s') :
    operationId = effect.hash keccak256 ∧ s.operationReadyAt operationId ≠ 0 ∧
      s.operationReadyAt operationId ≤ s.timestamp ∧
      (s.setReadyAt operationId 0).Performs pay effect s' := by
  cases effect with
  | setOperator newOperator =>
    simp only [execute, executeSetOperator, requireNonzero, bind_eq_ok, require_eq_ok,
      pure_eq_ok] at h
    obtain ⟨_, -, s₁, hconsume, rfl⟩ := h
    obtain ⟨hexpected, hknown, hready, rfl⟩ := consumeOperation_eq_ok hconsume
    exact ⟨hexpected, hknown, hready, rfl⟩
  | setGuardian newGuardian =>
    simp only [execute, executeSetGuardian, requireNonzero, bind_eq_ok, require_eq_ok,
      pure_eq_ok] at h
    obtain ⟨_, -, s₁, hconsume, rfl⟩ := h
    obtain ⟨hexpected, hknown, hready, rfl⟩ := consumeOperation_eq_ok hconsume
    exact ⟨hexpected, hknown, hready, rfl⟩
  | setMinDelay newMinDelay =>
    simp only [execute, executeSetMinDelay, bind_eq_ok, require_eq_ok, pure_eq_ok] at h
    obtain ⟨_, hpositive, s₁, hconsume, rfl⟩ := h
    obtain ⟨hexpected, hknown, hready, rfl⟩ := consumeOperation_eq_ok hconsume
    exact ⟨hexpected, hknown, hready, hpositive, rfl⟩
  | setAllowedToken token allowed =>
    simp only [execute, executeSetAllowedToken, requireNonzero, bind_eq_ok, require_eq_ok,
      pure_eq_ok] at h
    obtain ⟨_, hnonzero, s₁, hconsume, rfl⟩ := h
    obtain ⟨hexpected, hknown, hready, rfl⟩ := consumeOperation_eq_ok hconsume
    exact ⟨hexpected, hknown, hready, hnonzero, rfl⟩
  | setAllowedRecipient recipient allowed =>
    simp only [execute, executeSetAllowedRecipient, requireNonzero, bind_eq_ok, require_eq_ok,
      pure_eq_ok] at h
    obtain ⟨_, -, s₁, hconsume, rfl⟩ := h
    obtain ⟨hexpected, hknown, hready, rfl⟩ := consumeOperation_eq_ok hconsume
    exact ⟨hexpected, hknown, hready, rfl⟩
  | setDailySpendCap token newCap =>
    simp only [execute, executeSetDailySpendCap, bind_eq_ok, pure_eq_ok] at h
    obtain ⟨s₁, hconsume, rfl⟩ := h
    obtain ⟨hexpected, hknown, hready, rfl⟩ := consumeOperation_eq_ok hconsume
    exact ⟨hexpected, hknown, hready, rfl⟩
  | approveSpender token spender amount =>
    simp only [execute, executeApproveSpender, requireNonzero, bind_eq_ok, require_eq_ok,
      pure_eq_ok] at h
    obtain ⟨_, -, _, -, s₁, hconsume, rfl⟩ := h
    obtain ⟨hexpected, hknown, hready, rfl⟩ := consumeOperation_eq_ok hconsume
    exact ⟨hexpected, hknown, hready, rfl⟩
  | revokeSpender token spender =>
    simp only [execute, executeRevokeSpender, requireNonzero, bind_eq_ok, require_eq_ok,
      pure_eq_ok] at h
    obtain ⟨_, -, _, -, s₁, hconsume, rfl⟩ := h
    obtain ⟨hexpected, hknown, hready, rfl⟩ := consumeOperation_eq_ok hconsume
    exact ⟨hexpected, hknown, hready, rfl⟩
  | emergencyWithdraw token dst amount =>
    simp only [execute, executeEmergencyWithdraw, requireNonzero, safeTransfer, bind_eq_ok,
      require_eq_ok, call_eq_ok] at h
    obtain ⟨_, hnonzero, _, -, s₁, hconsume, a, hpaid, rfl⟩ := h
    obtain ⟨hexpected, hknown, hready, rfl⟩ := consumeOperation_eq_ok hconsume
    exact ⟨hexpected, hknown, hready, hnonzero, a, hpaid, rfl⟩
  | emergencyWithdrawETH dst amount =>
    simp only [execute, executeEmergencyWithdrawETH, requireNonzero, safeTransferETH, bind_eq_ok,
      require_eq_ok, call_eq_ok] at h
    obtain ⟨_, -, s₁, hconsume, a, hpaid, rfl⟩ := h
    obtain ⟨hexpected, hknown, hready, rfl⟩ := consumeOperation_eq_ok hconsume
    exact ⟨hexpected, hknown, hready, a, hpaid, rfl⟩

/-! ## Spending -/

/-- The storage after `amount` was counted against the cap of a token. -/
def counted (s : Treasury α) (token : Address) (amount : Nat) : Treasury α :=
  { s with
    lastSpendDay := Function.update s.lastSpendDay token s.day
    spentToday := Function.update s.spentToday token (s.countedToday token + amount) }

theorem consumeCap_eq_ok (h : s.consumeCap token amount = .ok s') :
    0 < s.dailySpendCap token ∧ s.countedToday token + amount ≤ s.dailySpendCap token ∧
      s' = s.counted token amount := by
  simp only [consumeCap, bind_eq_ok, require_eq_ok, Uint256.add_eq_ok, pure_eq_ok] at h
  obtain ⟨_, hset, _, ⟨-, rfl⟩, _, hle, rfl⟩ := h
  exact ⟨hset, hle, rfl⟩

theorem consumeApprovedSpender_eq_ok (h : s.consumeApprovedSpender sender token amount = .ok s') :
    token ≠ Address.zero ∧ 0 < amount ∧ amount ≤ s.approvedSpendRemaining token sender ∧
      ∃ s₁, s₁ = s.setRemaining token sender (s.approvedSpendRemaining token sender - amount) ∧
        (s.dailySpendCap token = 0 ∧ s' = s₁ ∨
          s.countedToday token + amount ≤ s.dailySpendCap token ∧
            s' = s₁.counted token amount) := by
  simp only [consumeApprovedSpender, requireNonzero, bind_eq_ok, require_eq_ok,
    Uint256.sub_eq_ok] at h
  obtain ⟨_, hnonzero, _, hpositive, _, hle, _, ⟨-, rfl⟩, h⟩ := h
  refine ⟨hnonzero, hpositive, hle, _, rfl, ?_⟩
  unfold consumeCapIfConfigured at h
  split at h
  · rename_i hnone
    exact .inl ⟨hnone, (pure_eq_ok.mp h).symm⟩
  · obtain ⟨-, hcap, hs'⟩ := consumeCap_eq_ok h
    exact .inr ⟨hcap, hs'⟩

/-- Spending an approved amount is bookkeeping only. -/
theorem consumeApprovedSpender_keeps (h : s.consumeApprovedSpender sender token amount = .ok s') :
    s'.self = s.self ∧ s'.assets = s.assets := by
  obtain ⟨-, -, -, _, rfl, ⟨-, rfl⟩ | ⟨-, rfl⟩⟩ := consumeApprovedSpender_eq_ok h
  · exact ⟨rfl, rfl⟩
  · exact ⟨rfl, rfl⟩

theorem allocate_eq_ok (h : s.allocate pay sender token dst amount = .ok s') :
    (sender = s.operator ∨ sender = s.multisig) ∧ s.paused = false ∧
      s.allowedTokens token = true ∧ s.allowedRecipients dst = true ∧
      s.countedToday token + amount ≤ s.dailySpendCap token ∧
      ∃ a, pay.transfer token s.self dst amount s.assets = some a ∧
        s' = { s.counted token amount with assets := a } := by
  simp only [allocate, onlyOperatorOrMultisig, whenNotPaused, safeTransfer, bind_eq_ok,
    require_eq_ok, call_eq_ok] at h
  obtain ⟨_, hsender, _, hopen, _, htoken, _, hrecipient, s₁, hcap, a, hpaid, rfl⟩ := h
  obtain ⟨-, hle, rfl⟩ := consumeCap_eq_ok hcap
  exact ⟨hsender, hopen, htoken, hrecipient, hle, a, hpaid, rfl⟩

theorem allocateETH_eq_ok (h : s.allocateETH pay sender dst amount = .ok s') :
    (sender = s.operator ∨ sender = s.multisig) ∧ s.paused = false ∧
      s.allowedRecipients dst = true ∧
      s.countedToday Address.zero + amount ≤ s.dailySpendCap Address.zero ∧
      ∃ a, pay.sendETH s.self dst amount s.assets = some a ∧
        s' = { s.counted Address.zero amount with assets := a } := by
  simp only [allocateETH, onlyOperatorOrMultisig, whenNotPaused, safeTransferETH, bind_eq_ok,
    require_eq_ok, call_eq_ok] at h
  obtain ⟨_, hsender, _, hopen, _, hrecipient, s₁, hcap, a, hpaid, rfl⟩ := h
  obtain ⟨-, hle, rfl⟩ := consumeCap_eq_ok hcap
  exact ⟨hsender, hopen, hrecipient, hle, a, hpaid, rfl⟩

theorem consumeApprovedSpenderCap_eq_ok
    (h : s.consumeApprovedSpenderCap sender token amount = .ok s') :
    s.paused = false ∧ s.consumeApprovedSpender sender token amount = .ok s' := by
  simp only [consumeApprovedSpenderCap, whenNotPaused, bind_eq_ok, require_eq_ok] at h
  obtain ⟨_, hopen, hconsume⟩ := h
  exact ⟨hopen, hconsume⟩

theorem pullApprovedToken_eq_ok (h : s.pullApprovedToken pay sender token amount = .ok s') :
    s.paused = false ∧ ∃ s₁ a, s.consumeApprovedSpender sender token amount = .ok s₁ ∧
      pay.transfer token s₁.self sender amount s₁.assets = some a ∧
      s' = { s₁ with assets := a } := by
  simp only [pullApprovedToken, whenNotPaused, safeTransfer, bind_eq_ok, require_eq_ok,
    call_eq_ok] at h
  obtain ⟨_, hopen, s₁, hconsume, a, hpaid, rfl⟩ := h
  exact ⟨hopen, s₁, a, hconsume, hpaid, rfl⟩

theorem burnApprovedToken_eq_ok (h : s.burnApprovedToken pay sender token amount = .ok s') :
    s.paused = false ∧ ∃ s₁ a, s.consumeApprovedSpender sender token amount = .ok s₁ ∧
      pay.burn token s₁.self amount s₁.assets = some a ∧ s' = { s₁ with assets := a } := by
  simp only [burnApprovedToken, whenNotPaused, burn, bind_eq_ok, require_eq_ok, call_eq_ok] at h
  obtain ⟨_, hopen, s₁, hconsume, a, hpaid, rfl⟩ := h
  exact ⟨hopen, s₁, a, hconsume, hpaid, rfl⟩

theorem pause_eq_ok (h : s.pause sender = .ok s') : s' = { s with paused := true } := by
  simp only [pause, bind_eq_ok, require_eq_ok, pure_eq_ok] at h
  obtain ⟨_, -, _, -, rfl⟩ := h
  rfl

theorem unpause_eq_ok (h : s.unpause sender = .ok s') : s' = { s with paused := false } := by
  simp only [unpause, bind_eq_ok, require_eq_ok, pure_eq_ok] at h
  obtain ⟨_, -, _, -, rfl⟩ := h
  rfl

end Treasury
