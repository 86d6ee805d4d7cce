-- SUMMARY: The structure of the staking pool over every run: totals, snapshots, the bounds of the reward counters, and principal kept apart from rewards.
import FluxSwap.Staking.Liveness

/-!
# The structure of a pool

Solvency depends on rounding and may be lost. What this file states is never lost:
the totals are the sums of their mappings, the pending and the queued rewards fit
into the reserve, and the pool holds the stakes and the reserve side by side, also
where both are the same token.
-/

namespace StakingRewards

open Exec

variable {s s' : StakingRewards} {a : Address} {src : RewardSource}

/-! ## The invariant -/

/-- What the pool has to hold of a token. -/
def owed (s : StakingRewards) (token : Address) : Nat :=
  (if token = s.stakingToken then s.totalStaked else 0) +
    (if token = s.rewardsToken then s.rewardReserve else 0)

/-- The pool holds what it owes, and nobody may move it. -/
structure Holds (s : StakingRewards) : Prop where
  held : ∀ token, s.owed token ≤ s.tokens.balanceOf token s.self
  unapproved : ∀ token spender, s.tokens.allowance token s.self spender = 0

structure Structured (s : StakingRewards) : Prop extends Books s, Holds s where
  reserved : s.pendingUserRewards ≤ s.rewardReserve
  queued : s.queuedRewards ≤ s.rewardReserve - s.pendingUserRewards

/-- A pool right after its constructor. Its address is new, so it has approved nobody. -/
structure Deployed (s : StakingRewards) : Prop extends Initial s where
  unapproved : ∀ token spender, s.tokens.allowance token s.self spender = 0

/-- All runs of a deployed pool. -/
def deployment : System StakingRewards Op := .ofCalls Deployed exec

/-- The pool's own code has no `isFluxSwapTreasury` and no `claimPoolRewards`: a pool that
    is configured as its own source finds neither a treasury nor a manager there. -/
def Answers (s : StakingRewards) (src : RewardSource) : Prop :=
  s.rewardSource = s.self → src.isTreasury = false ∧ src.claim.isOk = false

/-- The calls that can happen: the pool calls none of its own entry points, and a reward
    source answers as its code does. -/
def Possible (s : StakingRewards) : Op → Prop
  | .stake src sender _ => sender.1 ≠ s.self ∧ s.Answers src
  | .withdraw src sender _ => sender.1 ≠ s.self ∧ s.Answers src
  | .getReward src sender => sender.1 ≠ s.self ∧ s.Answers src
  | .exit src sender => sender.1 ≠ s.self ∧ s.Answers src
  | .notifyRewardAmount src sender _ => sender.1 ≠ s.self ∧ s.Answers src
  | .syncRewards src => s.Answers src
  | .recoverUnallocatedRewards src sender _ => sender.1 ≠ s.self ∧ s.Answers src
  | _ => True

instance (s : StakingRewards) (src : RewardSource) : Decidable (s.Answers src) :=
  inferInstanceAs (Decidable (_ → _))

instance (s : StakingRewards) : (op : Op) → Decidable (s.Possible op)
  | .stake .. | .withdraw .. | .getReward .. | .exit .. | .notifyRewardAmount ..
  | .recoverUnallocatedRewards .. => inferInstanceAs (Decidable (_ ∧ _))
  | .syncRewards src => inferInstanceAs (Decidable (s.Answers src))
  | .transferOwnership .. | .setRewardSource .. | .setRewardNotifier ..
  | .setRewardConfiguration .. | .tokenTransfer .. | .tokenApprove .. => instDecidableTrue

/-- The fields of stakes and tokens that an operation on rewards leaves alone. -/
structure SameStakes (s s' : StakingRewards) : Prop where
  address : s'.self = s.self
  stakingToken : s'.stakingToken = s.stakingToken
  rewardsToken : s'.rewardsToken = s.rewardsToken
  totalStaked : s'.totalStaked = s.totalStaked
  balanceOf : s'.balanceOf = s.balanceOf

theorem SameStakes.trans {s'' : StakingRewards} (h : SameStakes s s') (h' : SameStakes s' s'') :
    SameStakes s s'' where
  address := h'.address.trans h.address
  stakingToken := h'.stakingToken.trans h.stakingToken
  rewardsToken := h'.rewardsToken.trans h.rewardsToken
  totalStaked := h'.totalStaked.trans h.totalStaked
  balanceOf := h'.balanceOf.trans h.balanceOf

theorem SameStakes.raise (s : StakingRewards) (increment queued : Nat) :
    SameStakes s (s.raise increment queued) := ⟨rfl, rfl, rfl, rfl, rfl⟩

theorem SameStakes.spread (s : StakingRewards) (incoming : Nat) :
    SameStakes s (s.spread incoming) := .raise s _ _

theorem SameStakes.received (s : StakingRewards) (tokens : Tokens) (reward : Nat) :
    SameStakes s (s.received tokens reward) := ⟨rfl, rfl, rfl, rfl, rfl⟩

theorem Deployed.structured (h : s.Deployed) : s.Structured where
  toBooks := h.toInitial.solvent.toBooks
  held token := by simp [owed, h.totalStaked, h.rewardReserve]
  unapproved := h.unapproved
  reserved := by rw [h.pendingUserRewards]; exact Nat.zero_le _
  queued := by rw [h.queuedRewards]; exact Nat.zero_le _

/-! ## Balances -/

section Balances

variable {l l' : Tokens} {token pool receiver : Address} {amount : Nat}

/-- What a payment to the pool adds to its balances. -/
theorem balanceOf_inflow {payer : Address} (hne : payer ≠ pool)
    (h : l'.balanceOf = (l.move token payer pool amount).balanceOf) (t : Address) :
    l'.balanceOf t pool = l.balanceOf t pool + if t = token then amount else 0 := by
  rw [h, l.balanceOf_move_of_ne_src token payer pool amount hne.symm]
  simp

/-- What a payment by the pool takes from its balances; nothing when it pays itself. -/
theorem balanceOf_outflow (h : l.transfer token pool receiver amount = some l') (t : Address) :
    l.balanceOf t pool ≤ l'.balanceOf t pool + if t = token then amount else 0 := by
  obtain ⟨⟨hle, -⟩, rfl⟩ := Ledger.transfer_eq_some.mp h
  have hadd := l.balanceOf_move_add token pool receiver amount hle t pool
  simp only [and_true] at hadd
  omega

theorem allowance_transfer {payer : Address} (h : l.transfer token payer receiver amount = some l') :
    l'.allowance = l.allowance := by
  obtain ⟨-, rfl⟩ := Ledger.transfer_eq_some.mp h
  rfl

end Balances

section Owed

variable (t : Address)

theorem owed_received (tokens : Tokens) (reward : Nat) :
    (s.received tokens reward).owed t = s.owed t + if t = s.rewardsToken then reward else 0 := by
  calc (s.received tokens reward).owed t
      = (if t = s.stakingToken then s.totalStaked else 0) +
          (if t = s.rewardsToken then s.rewardReserve + reward else 0) := rfl
    _ = s.owed t + if t = s.rewardsToken then reward else 0 := by
        rw [ite_add_zero, ← Nat.add_assoc, owed]

theorem owed_paid {reward : Nat} (h : reward ≤ s.rewardReserve) :
    s.owed t = owed { s with rewardReserve := s.rewardReserve - reward } t +
      if t = s.rewardsToken then reward else 0 := by
  calc s.owed t
      = (if t = s.stakingToken then s.totalStaked else 0) +
          (if t = s.rewardsToken then s.rewardReserve - reward + reward else 0) := by
        rw [Nat.sub_add_cancel h, owed]
    _ = owed { s with rewardReserve := s.rewardReserve - reward } t +
          if t = s.rewardsToken then reward else 0 := by
        rw [ite_add_zero, ← Nat.add_assoc]
        rfl

theorem owed_staked_more (balance amount : Nat) (tokens : Tokens) :
    (s.restaked a balance (s.totalStaked + amount) tokens).owed t =
      s.owed t + if t = s.stakingToken then amount else 0 := by
  calc (s.restaked a balance (s.totalStaked + amount) tokens).owed t
      = (if t = s.stakingToken then s.totalStaked + amount else 0) +
          (if t = s.rewardsToken then s.rewardReserve else 0) := rfl
    _ = s.owed t + if t = s.stakingToken then amount else 0 := by
        rw [ite_add_zero, Nat.add_right_comm, owed]

theorem owed_staked_less {amount : Nat} (h : amount ≤ s.totalStaked) (balance : Nat)
    (tokens : Tokens) :
    s.owed t = (s.restaked a balance (s.totalStaked - amount) tokens).owed t +
      if t = s.stakingToken then amount else 0 := by
  calc s.owed t
      = (if t = s.stakingToken then s.totalStaked - amount + amount else 0) +
          (if t = s.rewardsToken then s.rewardReserve else 0) := by
        rw [Nat.sub_add_cancel h, owed]
    _ = (s.restaked a balance (s.totalStaked - amount) tokens).owed t +
          if t = s.stakingToken then amount else 0 := by
        rw [ite_add_zero, Nat.add_right_comm]
        rfl

end Owed

/-! ## Rewards that arrive -/

theorem Structured.raise (hs : s.Structured) (increment : Nat) {queued : Nat}
    (hroom : queued ≤ s.rewardReserve - s.pendingUserRewards) :
    (s.raise increment queued).Structured where
  toBooks := hs.toBooks.raise _ _
  held := hs.held
  unapproved := hs.unapproved
  reserved := hs.reserved
  queued := hroom

/-- Spreading leaves at most what was there in the queue. -/
theorem Structured.spread (hs : s.Structured) (incoming : Nat)
    (hroom : incoming + s.queuedRewards ≤ s.rewardReserve - s.pendingUserRewards) :
    (s.spread incoming).Structured :=
  hs.raise _ ((Nat.sub_le _ _).trans hroom)

theorem Structured.flush (hs : s.Structured) : (s.spread 0).Structured :=
  hs.spread 0 (by rw [Nat.zero_add]; exact hs.queued)

/-- Rewards that reached the pool enter the reserve and are spread. -/
theorem Structured.received_spread (hs : s.Structured) {tokens : Tokens} {reward : Nat}
    (hheld : ∀ t, tokens.balanceOf t s.self =
      s.tokens.balanceOf t s.self + if t = s.rewardsToken then reward else 0)
    (hunapproved : ∀ t spender, tokens.allowance t s.self spender = 0) :
    ((s.received tokens reward).spread reward).Structured := by
  have hreserved := hs.reserved
  have hqueued := hs.queued
  have hnew : (s.received tokens reward).Structured := by
    refine ⟨⟨hs.staked, hs.pending, hs.snapshot⟩, ⟨?_, hunapproved⟩,
      hreserved.trans (Nat.le_add_right _ _), ?_⟩
    · intro t
      have hbefore := hs.held t
      have hafter := hheld t
      rw [owed_received]
      simp only [received]
      omega
    · simp only [received]
      omega
  refine hnew.spread reward ?_
  simp only [received]
  omega

theorem syncRewardsFrom_structured {reward : Nat} (hs : s.Structured) (hanswers : s.Answers src)
    (h : s.syncRewardsFrom src = .ok (s', reward)) : s'.Structured ∧ SameStakes s s' := by
  obtain ⟨tokens, hpaid, hcases⟩ := syncRewardsFrom_cases h
  have hledger : (∀ t, tokens.balanceOf t s.self = s.tokens.balanceOf t s.self +
      if t = s.rewardsToken then s.claimed src else 0) ∧
      ∀ t spender, tokens.allowance t s.self spender = 0 := by
    obtain ⟨hnone, rfl⟩ | ⟨hclaim, htransfer⟩ := hpaid
    · exact ⟨fun t => by simp [hnone], hs.unapproved⟩
    · have hother : s.rewardSource ≠ s.self := by
        intro hself
        have hrefused := (hanswers hself).2
        rw [hclaim] at hrefused
        cases hrefused
      refine ⟨balanceOf_inflow hother ?_, ?_⟩
      · rw [(Ledger.transfer_eq_some.mp htransfer).2]
      · rw [allowance_transfer htransfer]
        exact hs.unapproved
  obtain ⟨hheld, hunapproved⟩ := hledger
  obtain ⟨hnone, rfl⟩ | ⟨-, -, rfl⟩ := hcases
  · refine ⟨⟨⟨hs.staked, hs.pending, hs.snapshot⟩, ⟨?_, hunapproved⟩, hs.reserved, hs.queued⟩,
      ⟨rfl, rfl, rfl, rfl, rfl⟩⟩
    intro t
    have hsame := hheld t
    rw [hnone, ite_self, Nat.add_zero] at hsame
    exact (hs.held t).trans hsame.ge
  · exact ⟨hs.received_spread hheld hunapproved,
      (SameStakes.received s tokens _).trans (.spread _ _)⟩

/-! ## One account -/

theorem updateReward_structured (hs : s.Structured) (ha : a ≠ Address.zero)
    (h : s.updateReward a = .ok s') : s'.Structured ∧ SameStakes s s' := by
  obtain ⟨hle, rfl⟩ := updateReward_cases ha h
  have hbooks := hs.toBooks.credited a
  refine ⟨⟨⟨hbooks.staked, hbooks.pending, hbooks.snapshot⟩, ⟨hs.held, hs.unapproved⟩, hle, ?_⟩,
    ⟨rfl, rfl, rfl, rfl, rfl⟩⟩
  exact Nat.min_le_right _ _

theorem settle_structured (hs : s.Structured) (hanswers : s.Answers src) (ha : a ≠ Address.zero)
    (h : s.settle src a = .ok s') : s'.Structured ∧ SameStakes s s' := by
  obtain ⟨s₁, reward, hsync, hupdate, -⟩ := settle_cases h
  obtain ⟨hs₁, hsame⟩ := syncRewardsFrom_structured hs hanswers hsync
  obtain ⟨hs₂, hsame'⟩ := updateReward_structured hs₁.flush ha hupdate
  exact ⟨hs₂, (hsame.trans (.spread _ _)).trans hsame'⟩

/-- What an account is paid comes out of the reserve and out of what is pending. -/
theorem payReward_structured (hs : s.Structured) (h : s.payReward a = .ok s') :
    s'.Structured ∧ SameStakes s s' := by
  obtain rfl | ⟨hreserve, hpending, tokens, htransfer, rfl⟩ := payReward_cases h
  · exact ⟨hs, ⟨rfl, rfl, rfl, rfl, rfl⟩⟩
  · have hreserved := hs.reserved
    have hqueued := hs.queued
    refine ⟨⟨hs.toBooks.paid a tokens, ⟨?_, ?_⟩, ?_, ?_⟩, ⟨rfl, rfl, rfl, rfl, rfl⟩⟩
    · intro t
      have hbefore := hs.held t
      have hafter := balanceOf_outflow htransfer t
      rw [owed_paid t hreserve] at hbefore
      exact Nat.le_of_add_le_add_right (hbefore.trans hafter)
    · simp only [paid, allowance_transfer htransfer]
      exact hs.unapproved
    all_goals
      simp only [paid]
      omega

/-- A stake enters together with its tokens. -/
theorem Structured.staked_more (hs : s.Structured) {amount : Nat} (hother : a ≠ s.self)
    {tokens : Tokens}
    (htransfer : s.tokens.transferFrom Uint256.max s.stakingToken s.self a s.self amount =
      some tokens) :
    (s.restaked a (s.balanceOf a + amount) (s.totalStaked + amount) tokens).Structured := by
  refine ⟨hs.toBooks.restaked (by omega) tokens, ⟨?_, ?_⟩, hs.reserved, hs.queued⟩
  · intro t
    have hbefore := hs.held t
    have hafter := balanceOf_inflow hother (Ledger.transferFrom_balanceOf htransfer).2 t
    rw [owed_staked_more]
    simp only [restaked]
    omega
  · intro t spender
    exact Ledger.transferFrom_allowance_eq_zero htransfer (hs.unapproved t spender)

/-- A stake leaves together with its tokens. -/
theorem Structured.staked_less (hs : s.Structured) {amount : Nat} (hle : amount ≤ s.totalStaked)
    (hmine : amount ≤ s.balanceOf a) {tokens : Tokens}
    (htransfer : s.tokens.transfer s.stakingToken s.self a amount = some tokens) :
    (s.restaked a (s.balanceOf a - amount) (s.totalStaked - amount) tokens).Structured := by
  refine ⟨hs.toBooks.restaked (by omega) tokens, ⟨?_, ?_⟩, hs.reserved, hs.queued⟩
  · intro t
    have hbefore := hs.held t
    have hafter := balanceOf_outflow htransfer t
    rw [owed_staked_less t hle] at hbefore
    exact Nat.le_of_add_le_add_right (hbefore.trans hafter)
  · simp only [restaked, allowance_transfer htransfer]
    exact hs.unapproved

/-- Only the configuration may change freely. -/
theorem Structured.frame (hs : s.Structured) (owner source notifier : Address) (unlocked : Nat) :
    Structured { s with
      owner := owner
      rewardSource := source
      rewardNotifier := notifier
      unlocked := unlocked } :=
  ⟨⟨hs.staked, hs.pending, hs.snapshot⟩, ⟨hs.held, hs.unapproved⟩, hs.reserved, hs.queued⟩

/-- Movements between other accounts take nothing from the pool. -/
theorem Structured.others (hs : s.Structured) {tokens : Tokens}
    (hheld : ∀ t, s.tokens.balanceOf t s.self ≤ tokens.balanceOf t s.self)
    (hunapproved : ∀ t spender, tokens.allowance t s.self spender = 0) :
    Structured { s with tokens := tokens } :=
  ⟨⟨hs.staked, hs.pending, hs.snapshot⟩,
    ⟨fun t => (hs.held t).trans (hheld t), hunapproved⟩, hs.reserved, hs.queued⟩

/-- A notified reward comes from another account: the pool has approved nobody, itself
    included, and is no treasury. -/
theorem pullReward_structured (hs : s.Structured) (hanswers : s.Answers src) {reward : Nat}
    (hpos : 0 < reward) {tokens : Tokens} (h : s.pullReward src reward = .ok tokens) :
    ((s.received tokens reward).spread reward).Structured := by
  unfold pullReward at h
  split at h
  · rename_i htreasury
    split at h
    · cases h
    · rw [TransferHelper.safeTransfer_eq_ok] at h
      have hother : s.rewardSource ≠ s.self := by
        intro hself
        rw [(hanswers hself).1] at htreasury
        cases htreasury
      refine hs.received_spread (balanceOf_inflow hother ?_) ?_
      · rw [(Ledger.transfer_eq_some.mp h).2]
      · rw [allowance_transfer h]
        exact hs.unapproved
  · rw [TransferHelper.safeTransferFrom_eq_ok] at h
    have hother : s.rewardSource ≠ s.self := by
      intro hself
      rw [hself, Ledger.transferFrom_eq_none (hs.unapproved _ _) (by decide) hpos] at h
      cases h
    refine hs.received_spread (balanceOf_inflow hother (Ledger.transferFrom_balanceOf h).2) ?_
    intro t spender
    exact Ledger.transferFrom_allowance_eq_zero h (hs.unapproved t spender)

/-! ## Every transaction -/

section Step

variable (hs : s.Structured)
include hs

theorem stake_structured {sender : Sender} {amount : Nat}
    (hpossible : s.Possible (.stake src sender amount))
    (h : s.stake src sender amount = .ok s') : s'.Structured := by
  obtain ⟨-, s₀, hbody, rfl⟩ := lock_eq_ok.mp h
  obtain ⟨s₁, hsettle, hbody⟩ := bind_eq_ok.mp hbody
  obtain ⟨hs₁, hsame⟩ := settle_structured (hs.frame _ _ _ 0) hpossible.2 sender.2 hsettle
  simp only [bind_eq_ok, require_eq_ok, Uint256.add_eq_ok,
    TransferHelper.safeTransferFrom_eq_ok] at hbody
  obtain ⟨_, -, _, ⟨-, rfl⟩, _, ⟨-, rfl⟩, tokens, htransfer, hbody⟩ := hbody
  have hnew := hs₁.staked_more (by rw [hsame.address]; exact hpossible.1) htransfer
  split at hbody
  · obtain rfl := flushQueuedRewards_eq hbody
    exact hnew.flush.frame _ _ _ 1
  · obtain rfl := pure_eq_ok.mp hbody
    exact hnew.frame _ _ _ 1

theorem withdraw_structured {sender : Sender} {amount : Nat}
    (hpossible : s.Possible (.withdraw src sender amount))
    (h : s.withdraw src sender amount = .ok s') : s'.Structured := by
  obtain ⟨-, s₀, hbody, rfl⟩ := lock_eq_ok.mp h
  obtain ⟨s₁, hsettle, hbody⟩ := bind_eq_ok.mp hbody
  obtain ⟨hs₁, -⟩ := settle_structured (hs.frame _ _ _ 0) hpossible.2 sender.2 hsettle
  simp only [bind_eq_ok, require_eq_ok, Uint256.sub_eq_ok, pure_eq_ok,
    TransferHelper.safeTransfer_eq_ok] at hbody
  obtain ⟨_, -, _, -, _, ⟨htotal, rfl⟩, _, ⟨hmine, rfl⟩, tokens, htransfer, rfl⟩ := hbody
  exact (hs₁.staked_less htotal hmine htransfer).frame _ _ _ 1

/-- Paying rewards leaves the stakes. -/
theorem getReward_structured {sender : Sender} (hpossible : s.Possible (.getReward src sender))
    (h : s.getReward src sender = .ok s') : s'.Structured ∧ SameStakes s s' := by
  obtain ⟨-, s₀, hbody, rfl⟩ := lock_eq_ok.mp h
  obtain ⟨⟨s₁, reward⟩, hsync, hbody⟩ := bind_eq_ok.mp hbody
  obtain ⟨s₂, hupdate, hpay⟩ := bind_eq_ok.mp hbody
  obtain ⟨hs₁, hsame₁⟩ := syncRewardsFrom_structured (hs.frame _ _ _ 0) hpossible.2 hsync
  obtain ⟨hs₂, hsame₂⟩ := updateReward_structured hs₁ sender.2 hupdate
  obtain ⟨hs₃, hsame₃⟩ := payReward_structured hs₂ hpay
  have hsame := (hsame₁.trans hsame₂).trans hsame₃
  exact ⟨hs₃.frame _ _ _ 1, ⟨hsame.address, hsame.stakingToken, hsame.rewardsToken,
    hsame.totalStaked, hsame.balanceOf⟩⟩

theorem exit_structured {sender : Sender} (hpossible : s.Possible (.exit src sender))
    (h : s.exit src sender = .ok s') : s'.Structured := by
  obtain ⟨-, s₀, hbody, rfl⟩ := lock_eq_ok.mp h
  obtain ⟨s₁, hsettle, hbody⟩ := bind_eq_ok.mp hbody
  obtain ⟨s₂, hrelease, hpay⟩ := bind_eq_ok.mp hbody
  obtain ⟨hs₁, -⟩ := settle_structured (hs.frame _ _ _ 0) hpossible.2 sender.2 hsettle
  have hs₂ : s₂.Structured := by
    unfold releaseStake at hrelease
    split at hrelease
    · simp only [bind_eq_ok, Uint256.sub_eq_ok, pure_eq_ok,
        TransferHelper.safeTransfer_eq_ok] at hrelease
      obtain ⟨_, ⟨htotal, rfl⟩, tokens, htransfer, rfl⟩ := hrelease
      have hnew := hs₁.staked_less htotal le_rfl htransfer
      rw [Nat.sub_self] at hnew
      exact hnew
    · obtain rfl := pure_eq_ok.mp hrelease
      exact hs₁
  exact (payReward_structured hs₂ hpay).1.frame _ _ _ 1

theorem notifyRewardAmount_structured {sender : Sender} {reward : Nat}
    (hpossible : s.Possible (.notifyRewardAmount src sender reward))
    (h : s.notifyRewardAmount src sender reward = .ok s') : s'.Structured := by
  obtain ⟨-, s₀, hbody, rfl⟩ := lock_eq_ok.mp h
  simp only [bind_eq_ok, require_eq_ok, Uint256.add_eq_ok, pure_eq_ok] at hbody
  obtain ⟨_, -, _, hpos, _, -, tokens, hpull, _, ⟨-, rfl⟩, ⟨s₁, accounted⟩, happly, rfl⟩ := hbody
  obtain rfl := applyRewardAmount_eq happly
  exact (pullReward_structured (hs.frame _ _ _ 0) hpossible.2 hpos hpull).frame _ _ _ 1

theorem syncRewards_structured (hpossible : s.Possible (.syncRewards src))
    (h : s.syncRewards src = .ok s') : s'.Structured := by
  obtain ⟨-, s₀, hbody, rfl⟩ := lock_eq_ok.mp h
  obtain ⟨⟨s₁, reward⟩, hsync, hbody⟩ := bind_eq_ok.mp hbody
  obtain rfl := pure_eq_ok.mp hbody
  exact (syncRewardsFrom_structured (hs.frame _ _ _ 0) hpossible hsync).1.frame _ _ _ 1

/-- Recovery takes what is not pending, and no stake. -/
theorem recoverUnallocatedRewards_structured {sender : Sender} {dst : Address}
    (hpossible : s.Possible (.recoverUnallocatedRewards src sender dst))
    (h : s.recoverUnallocatedRewards src sender dst = .ok s') :
    s'.Structured ∧ SameStakes s s' := by
  obtain ⟨-, s₀, hbody, rfl⟩ := lock_eq_ok.mp h
  simp only [bind_eq_ok, require_eq_ok, Uint256.sub_eq_ok, pure_eq_ok,
    TransferHelper.safeTransfer_eq_ok] at hbody
  obtain ⟨_, -, _, -, ⟨s₁, reward⟩, hsync, _, -, _, ⟨hle, rfl⟩, _, -, _, ⟨hall, rfl⟩, tokens,
    htransfer, rfl⟩ := hbody
  obtain ⟨hs₁, hsame⟩ := syncRewardsFrom_structured (hs.frame _ _ _ 0) hpossible.2 hsync
  dsimp only at hle hall htransfer
  have hnew : Structured { s₁ with
      queuedRewards := 0
      rewardReserve := s₁.rewardReserve - (s₁.rewardReserve - s₁.pendingUserRewards)
      tokens := tokens } := by
    refine ⟨⟨hs₁.staked, hs₁.pending, hs₁.snapshot⟩, ⟨?_, ?_⟩, ?_, Nat.zero_le _⟩
    · intro t
      have hbefore := hs₁.held t
      have hafter := balanceOf_outflow htransfer t
      rw [owed_paid t hall] at hbefore
      exact Nat.le_of_add_le_add_right (hbefore.trans hafter)
    · dsimp only
      rw [allowance_transfer htransfer]
      exact hs₁.unapproved
    · exact (Nat.sub_sub_self hle).ge
  exact ⟨hnew.frame _ _ _ 1, ⟨hsame.address, hsame.stakingToken, hsame.rewardsToken,
    hsame.totalStaked, hsame.balanceOf⟩⟩

theorem exec_structured {op : Op} (hpossible : s.Possible op) (h : s.exec op = .ok s') :
    s'.Structured := by
  cases op with
  | stake src sender amount => exact stake_structured hs hpossible h
  | withdraw src sender amount => exact withdraw_structured hs hpossible h
  | getReward src sender => exact (getReward_structured hs hpossible h).1
  | exit src sender => exact exit_structured hs hpossible h
  | notifyRewardAmount src sender reward => exact notifyRewardAmount_structured hs hpossible h
  | syncRewards src => exact syncRewards_structured hs hpossible h
  | recoverUnallocatedRewards src sender dst =>
    exact (recoverUnallocatedRewards_structured hs hpossible h).1
  | transferOwnership sender newOwner =>
    simp only [exec, transferOwnership, bind_eq_ok, require_eq_ok, pure_eq_ok] at h
    obtain ⟨_, -, _, -, rfl⟩ := h
    exact hs.frame newOwner _ _ _
  | setRewardSource sender newRewardSource =>
    simp only [exec, setRewardSource, bind_eq_ok, require_eq_ok, pure_eq_ok] at h
    obtain ⟨_, -, _, -, _, -, rfl⟩ := h
    exact hs.frame _ newRewardSource _ _
  | setRewardNotifier sender newRewardNotifier =>
    simp only [exec, setRewardNotifier, bind_eq_ok, require_eq_ok, pure_eq_ok] at h
    obtain ⟨_, -, _, -, _, -, _, -, rfl⟩ := h
    exact hs.frame _ _ newRewardNotifier _
  | setRewardConfiguration sender newRewardSource newRewardNotifier =>
    simp only [exec, setRewardConfiguration, bind_eq_ok, require_eq_ok, pure_eq_ok] at h
    obtain ⟨_, -, _, -, _, -, rfl⟩ := h
    exact hs.frame _ newRewardSource newRewardNotifier _
  | tokenTransfer sender token dst amount =>
    simp only [exec, bind_eq_ok, require_eq_ok, pure_eq_ok,
      TransferHelper.safeTransfer_eq_ok] at h
    obtain ⟨_, hother, tokens, htransfer, rfl⟩ := h
    refine hs.others ?_ ?_
    · intro t
      rw [← (Ledger.transfer_eq_some.mp htransfer).2]
      exact s.tokens.balanceOf_le_move _ _ _ _ hother.symm t
    · rw [allowance_transfer htransfer]
      exact hs.unapproved
  | tokenApprove sender token spender amount =>
    simp only [exec, bind_eq_ok, require_eq_ok, pure_eq_ok] at h
    obtain ⟨_, hother, rfl⟩ := h
    refine hs.others (fun t => le_rfl) ?_
    intro t spender'
    simp only [Ledger.approve, hother.symm, false_and, and_false, if_false]
    exact hs.unapproved t spender'

end Step

theorem reachable_structured (h : deployment.ReachableWith Possible s) : s.Structured := by
  refine System.ReachableWith.invariant (I := Structured) ?_ ?_ h
  · exact fun s hinit => hinit.structured
  · exact fun s op s' hs hpossible hstep => exec_structured hs hpossible hstep

/-! ## What every run keeps -/

/-- What the pool owes of its two tokens. -/
theorem Structured.principal_le (hs : s.Structured) :
    s.totalStaked ≤ s.tokens.balanceOf s.stakingToken s.self := by
  have hheld := hs.held s.stakingToken
  unfold owed at hheld
  rw [if_pos rfl] at hheld
  exact (Nat.le_add_right _ _).trans hheld

theorem Structured.reserve_le (hs : s.Structured) :
    s.rewardReserve ≤ s.tokens.balanceOf s.rewardsToken s.self := by
  have hheld := hs.held s.rewardsToken
  unfold owed at hheld
  rw [if_pos (rfl : s.rewardsToken = s.rewardsToken)] at hheld
  exact (Nat.le_add_left _ _).trans hheld

theorem Structured.both_le (hs : s.Structured) (hsame : s.stakingToken = s.rewardsToken) :
    s.totalStaked + s.rewardReserve ≤ s.tokens.balanceOf s.stakingToken s.self := by
  have hheld := hs.held s.stakingToken
  unfold owed at hheld
  rw [if_pos rfl, if_pos hsame] at hheld
  exact hheld

/-- The stakes and the tokens that back them survive. -/
def KeepsPrincipal (s s' : StakingRewards) : Prop :=
  s'.totalStaked = s.totalStaked ∧ s'.balanceOf = s.balanceOf ∧
    s.totalStaked ≤ s'.tokens.balanceOf s.stakingToken s.self

theorem Structured.keepsPrincipal (hs' : s'.Structured) (hsame : SameStakes s s') :
    s.KeepsPrincipal s' := by
  refine ⟨hsame.totalStaked, hsame.balanceOf, ?_⟩
  rw [← hsame.totalStaked, ← hsame.stakingToken, ← hsame.address]
  exact hs'.principal_le

/-- In every state of every run the counters of the pool are the sums of its mappings, the
    rewards it owes fit into its reserve, and it holds its stakes and its reserve side by
    side; paying or recovering rewards takes nothing from the stakes. -/
theorem pool_structured (h : deployment.ReachableWith Possible s) :
    ∑ a, s.balanceOf a = s.totalStaked ∧
    ∑ a, s.rewards a = s.pendingUserRewards ∧
    (∀ a, s.userRewardPerTokenPaid a ≤ s.rewardPerTokenStored) ∧
    s.pendingUserRewards ≤ s.rewardReserve ∧
    s.queuedRewards ≤ s.rewardReserve - s.pendingUserRewards ∧
    (∀ (t : StakingRewards) (reward : Nat),
      (t.applyRewardAmount reward).Avoids (· = .panic .underflow)) ∧
    s.totalStaked ≤ s.tokens.balanceOf s.stakingToken s.self ∧
    s.rewardReserve ≤ s.tokens.balanceOf s.rewardsToken s.self ∧
    (s.stakingToken = s.rewardsToken →
      s.totalStaked + s.rewardReserve ≤ s.tokens.balanceOf s.stakingToken s.self) ∧
    (∀ src sender s', s.Possible (.getReward src sender) → s.getReward src sender = .ok s' →
      s.KeepsPrincipal s') ∧
    (∀ src sender dst s', s.Possible (.recoverUnallocatedRewards src sender dst) →
      s.recoverUnallocatedRewards src sender dst = .ok s' → s.KeepsPrincipal s') := by
  have hs := reachable_structured h
  refine ⟨hs.staked, hs.pending, hs.snapshot, hs.reserved, hs.queued,
    fun t reward => applyRewardAmount_avoids nofun, hs.principal_le, hs.reserve_le, hs.both_le,
    ?_, ?_⟩
  · intro src sender s' hpossible hcall
    obtain ⟨hs', hsame⟩ := getReward_structured hs hpossible hcall
    exact hs'.keepsPrincipal hsame
  · intro src sender dst s' hpossible hcall
    obtain ⟨hs', hsame⟩ := recoverUnallocatedRewards_structured hs hpossible hcall
    exact hs'.keepsPrincipal hsame

namespace Example

/-- A pool that pays its rewards in the token that is staked. -/
def sameToken : StakingRewards :=
  { start with
    rewardsToken := 5
    tokens := { start.tokens with
      allowance := fun _ owner _ => if owner = pool then 0 else Uint256.max } }

theorem sameToken_deployed : sameToken.Deployed where
  toInitial := ⟨rfl, rfl, rfl, rfl, rfl, rfl, rfl, rfl, rfl⟩
  unapproved _ _ := by simp [sameToken, start]

/-- Alice stakes, is rewarded and takes a part of her rewards. -/
def rewardedRun : List Op :=
  [.stake source alice (10 ^ 18), .notifyRewardAmount source notifier 5,
    .getReward source alice, .notifyRewardAmount source notifier 7]

end Example

open Example in
theorem pool_structured_sameToken :
    ∃ s, deployment.ReachableWith Possible s ∧ s.totalStaked = 10 ^ 18 ∧ s.rewardReserve = 7 ∧
      s.stakingToken = s.rewardsToken ∧
      s.totalStaked + s.rewardReserve ≤ s.tokens.balanceOf s.stakingToken s.self := by
  have hrun : (System.runWith exec Possible sameToken rewardedRun).map
      (fun s => (s.totalStaked, s.rewardReserve, s.stakingToken, s.rewardsToken)) =
        some (10 ^ 18, 7, 5, 5) := by
    decide +kernel
  obtain ⟨s, hs, hsummary⟩ := Option.map_eq_some_iff.mp hrun
  simp only [Prod.mk.injEq] at hsummary
  obtain ⟨htotal, hreserve, hstaking, hrewards⟩ := hsummary
  have hreach : deployment.ReachableWith Possible s :=
    System.reachableWith_of_runWith (.init sameToken_deployed) hs
  have hsame : s.stakingToken = s.rewardsToken := hstaking.trans hrewards.symm
  obtain ⟨-, -, -, -, -, -, -, -, hboth, -⟩ := pool_structured hreach
  exact ⟨s, hreach, htotal, hreserve, hsame, hboth hsame⟩

end StakingRewards
