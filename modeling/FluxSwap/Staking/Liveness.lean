-- SUMMARY: No transaction of a solvent pool fails in its reward accounting; the solvency theorem and the run that breaks it.
import FluxSwap.Staking.Solvency

/-!
# Reward accounting never blocks a staker

In a solvent pool no subtraction of the contract underflows, and with enough
headroom below `2 ^ 256` nothing else in `withdraw`, `getReward` and `exit` panics.
Each function is walked once, for a set `bad` of reverts that holds no text: the
walk needs bounds only where `bad` holds the overflow panic.
-/

namespace StakingRewards

open Exec

variable {s s' : StakingRewards} {a : Address} {src : RewardSource} {bad : Revert → Prop}

/-! ## Distribution -/

theorem precision_pos : 0 < precision := by decide

/-- Distribution does not panic while the accumulator and the rewards at hand fit. -/
theorem applyRewardAmount_avoids {reward : Nat}
    (hov : bad (.panic .overflow) → s.rewardPerTokenStored * s.totalStaked +
      (reward + s.queuedRewards) * precision ≤ Uint256.max) :
    (s.applyRewardAmount reward).Avoids bad := by
  have hscale : reward + s.queuedRewards ≤ (reward + s.queuedRewards) * precision :=
    Nat.le_mul_of_pos_right _ precision_pos
  unfold applyRewardAmount
  refine .bind (Uint256.add_avoids fun hbad => ?_) fun distributable hd => ?_
  · have := hov hbad
    omega
  obtain ⟨-, rfl⟩ := Uint256.add_eq_ok.mp hd
  refine .ite (fun _ => .pure) fun hsome => ?_
  refine .bind (Uint256.mul_avoids fun hbad => ?_) fun scaled hsc => ?_
  · have := hov hbad
    omega
  obtain ⟨-, rfl⟩ := Uint256.mul_eq_ok.mp hsc
  refine .ite (fun _ => .pure) fun _ => ?_
  -- every product of the rest is at most the one that is bounded
  have hinc := s.increment_mul_le reward
  have hself : s.increment reward ≤ (reward + s.queuedRewards) * precision := Nat.div_le_self _ _
  have hacc : s.rewardPerTokenStored ≤ s.rewardPerTokenStored * s.totalStaked :=
    Nat.le_mul_of_pos_right _ (by omega)
  refine .bind (Uint256.add_avoids fun hbad => ?_) fun updated hupdated => ?_
  · have := hov hbad
    unfold increment at hself
    omega
  obtain ⟨-, rfl⟩ := Uint256.add_eq_ok.mp hupdated
  refine .bind (Uint256.mul_avoids fun hbad => ?_) fun after hafter => ?_
  · have := hov hbad
    unfold increment at hinc
    rw [Nat.add_mul]
    omega
  obtain ⟨-, rfl⟩ := Uint256.mul_eq_ok.mp hafter
  refine .bind (Uint256.mul_avoids fun hbad => ?_) fun before hbefore => ?_
  · have := hov hbad
    omega
  obtain ⟨-, rfl⟩ := Uint256.mul_eq_ok.mp hbefore
  rw [Nat.add_mul]
  refine .bind (Uint256.sub_avoids (Nat.div_le_div_right (Nat.le_add_right _ _)))
    fun accounted haccounted => ?_
  obtain ⟨-, rfl⟩ := Uint256.sub_eq_ok.mp haccounted
  exact .bind (Uint256.sub_avoids (Rounding.sub_div_le precision_pos hinc)) fun _ _ => .pure

theorem flushQueuedRewards_avoids
    (hov : bad (.panic .overflow) → s.rewardPerTokenStored * s.totalStaked +
      (0 + s.queuedRewards) * precision ≤ Uint256.max) : s.flushQueuedRewards.Avoids bad := by
  unfold flushQueuedRewards
  exact .ite (fun _ => .bind (applyRewardAmount_avoids hov) fun _ _ => .pure) fun _ => .pure

/-- The accumulator and the queue that distribution leaves stay within what it was given. -/
theorem spread_le (s : StakingRewards) (incoming : Nat) :
    (s.spread incoming).rewardPerTokenStored * s.totalStaked ≤
        s.rewardPerTokenStored * s.totalStaked + (incoming + s.queuedRewards) * precision ∧
      (s.spread incoming).queuedRewards ≤ incoming + s.queuedRewards := by
  have hinc := s.increment_mul_le incoming
  rw [spread_rewardPerTokenStored, spread_queuedRewards, Nat.add_mul]
  omega

/-- Room for the rewards of one call: they fit into the reserve, and the accumulator
    times the stake stays below `2 ^ 256` while they and the queue are spread. -/
def Headroom (s : StakingRewards) (src : RewardSource) : Prop :=
  s.rewardReserve + s.claimed src ≤ Uint256.max ∧
    s.rewardPerTokenStored * s.totalStaked + 2 * ((s.claimed src + s.queuedRewards) * precision) ≤
      Uint256.max

theorem Headroom.of_sync {reward : Nat} (h : s.Headroom src)
    (hsync : s.syncRewardsFrom src = .ok (s', reward)) :
    s'.rewardReserve ≤ Uint256.max ∧
      s'.rewardPerTokenStored * s'.totalStaked + (0 + s'.queuedRewards) * precision ≤
        Uint256.max := by
  obtain ⟨hreserve, hroom⟩ := h
  obtain ⟨tokens, -, ⟨hnone, rfl⟩ | ⟨-, hmax, rfl⟩⟩ := syncRewardsFrom_cases hsync
  · rw [hnone] at hroom
    exact ⟨by dsimp only; omega, by dsimp only; omega⟩
  · refine ⟨hmax, ?_⟩
    have hle := (s.received tokens (s.claimed src)).spread_le (s.claimed src)
    have hqueue := Nat.mul_le_mul_right precision hle.2
    have hsum : (s.received tokens (s.claimed src)).queuedRewards = s.queuedRewards := rfl
    rw [spread_totalStaked, Nat.zero_add]
    have htotal : (s.received tokens (s.claimed src)).totalStaked = s.totalStaked := rfl
    have hacc : (s.received tokens (s.claimed src)).rewardPerTokenStored =
      s.rewardPerTokenStored := rfl
    rw [hsum] at hle hqueue
    rw [htotal, hacc] at hle
    rw [htotal]
    omega

theorem syncRewardsFrom_avoids (hmsg : ∀ text, ¬ bad (.message text))
    (hov : bad (.panic .overflow) → s.Headroom src) : (s.syncRewardsFrom src).Avoids bad := by
  unfold syncRewardsFrom
  refine .ite (fun _ => .pure) fun hself => ?_
  rw [not_not] at hself
  refine .bind ?_ fun result hclaim => ?_
  · unfold claimPoolRewards
    split
    · exact .error (hmsg _)
    · exact .bind (TransferHelper.safeTransfer_avoids hmsg) fun _ _ => .pure
  · unfold claimPoolRewards at hclaim
    split at hclaim
    · cases hclaim
    · rename_i paid hpaid
      obtain ⟨tokens, -, hclaim⟩ := bind_eq_ok.mp hclaim
      obtain rfl := pure_eq_ok.mp hclaim
      have hclaimed : s.claimed src = paid := by
        unfold claimed
        rw [if_pos hself, hpaid]
      dsimp only
      refine .ite (fun _ => .pure) fun _ => .bind (Uint256.add_avoids fun hbad => ?_) ?_
      · have hroom := (hov hbad).1
        rwa [hclaimed] at hroom
      · intro reserve _
        refine .bind (applyRewardAmount_avoids fun hbad => ?_) fun _ _ => .pure
        have hroom := (hov hbad).2
        rw [hclaimed] at hroom
        dsimp only
        omega

/-! ## Settlement and payment -/

/-- In a solvent pool what is booked for an account was unallocated. -/
theorem updateReward_avoids (hs : s.Solvent)
    (hov : bad (.panic .overflow) → s.rewardReserve ≤ Uint256.max ∧
      s.rewardPerTokenStored * s.totalStaked ≤ Uint256.max) :
    (s.updateReward a).Avoids bad := by
  have hle := hs.accrued_le a
  have hmine := hs.rewards_le a
  have hpending : s.pendingUserRewards ≤ s.rewardReserve := by omega
  unfold updateReward
  refine .ite (fun ha => ?_) fun _ => .pure
  refine .bind (Uint256.sub_avoids (hs.snapshot a)) fun span hspan => ?_
  obtain ⟨-, rfl⟩ := Uint256.sub_eq_ok.mp hspan
  refine .bind (Uint256.mul_avoids fun hbad => ?_) fun scaled hscaled => ?_
  · calc s.balanceOf a * (s.rewardPerTokenStored - s.userRewardPerTokenPaid a)
        ≤ s.totalStaked * s.rewardPerTokenStored :=
          Nat.mul_le_mul (hs.balance_le a) (Nat.sub_le _ _)
      _ = s.rewardPerTokenStored * s.totalStaked := Nat.mul_comm _ _
      _ ≤ Uint256.max := (hov hbad).2
  obtain ⟨-, rfl⟩ := Uint256.mul_eq_ok.mp hscaled
  refine .bind ?_ fun s₁ hs₁ => ?_
  · unfold bookAccrued
    refine .ite (fun _ => ?_) fun _ => .pure
    unfold accrued at hle
    refine .bind (Uint256.add_avoids fun hbad => ?_) fun _ _ =>
      .bind (Uint256.add_avoids fun hbad => ?_) fun _ _ => .pure
    · have := (hov hbad).1
      omega
    · have := (hov hbad).1
      omega
  · refine .bind (Uint256.sub_avoids ?_) fun _ _ => .ite (fun _ => .pure) fun _ => .pure
    unfold bookAccrued at hs₁
    unfold accrued at hle
    split at hs₁
    · simp only [bind_eq_ok, Uint256.add_eq_ok, pure_eq_ok] at hs₁
      obtain ⟨_, ⟨-, rfl⟩, _, ⟨-, rfl⟩, rfl⟩ := hs₁
      dsimp only
      omega
    · obtain rfl := pure_eq_ok.mp hs₁
      exact hpending

theorem settle_avoids (hs : s.Solvent) (hmsg : ∀ text, ¬ bad (.message text))
    (hov : bad (.panic .overflow) → s.Headroom src) : (settle src a s).Avoids bad := by
  unfold settle
  refine .bind (syncRewardsFrom_avoids hmsg hov) fun result hsync => ?_
  obtain ⟨s₁, reward⟩ := result
  refine .bind (flushQueuedRewards_avoids fun hbad => ((hov hbad).of_sync hsync).2)
    fun s₂ hflush => ?_
  obtain rfl := flushQueuedRewards_eq hflush
  refine updateReward_avoids (syncRewardsFrom_solvent hs hsync).spread fun hbad => ?_
  obtain ⟨hreserve, hroom⟩ := (hov hbad).of_sync hsync
  refine ⟨by rw [spread_rewardReserve]; exact hreserve, ?_⟩
  rw [spread_totalStaked]
  exact (s₁.spread_le 0).1.trans hroom

/-- A payment needs only that the pending rewards are reserved. -/
theorem payReward_avoids (hmsg : ∀ text, ¬ bad (.message text))
    (hpending : s.rewards a ≤ s.pendingUserRewards)
    (hreserve : s.pendingUserRewards ≤ s.rewardReserve) : (s.payReward a).Avoids bad := by
  unfold payReward
  refine .ite (fun _ => ?_) fun _ => .pure
  exact .bind (Uint256.sub_avoids (hpending.trans hreserve)) fun _ _ =>
    .bind (Uint256.sub_avoids hpending) fun _ _ =>
      .bind (TransferHelper.safeTransfer_avoids hmsg) fun _ _ => .pure

/-! ## Every transaction -/

theorem lock_avoids {body : StakingRewards → Exec StakingRewards}
    (hmsg : ∀ text, ¬ bad (.message text)) (h : (body { s with unlocked := 0 }).Avoids bad) :
    (lock body s).Avoids bad :=
  .bind (.require hmsg) fun _ _ => .bind h fun _ _ => .pure

section Step

variable (hs : s.Solvent) (hmsg : ∀ text, ¬ bad (.message text))
include hs hmsg

theorem withdraw_avoids {sender : Sender} {amount : Nat}
    (hov : bad (.panic .overflow) → s.Headroom src) :
    (s.withdraw src sender amount).Avoids bad := by
  have hopen := hs.frame s.owner s.rewardSource s.rewardNotifier 0 s.tokens
  refine lock_avoids hmsg (.bind (settle_avoids hopen hmsg hov) fun s₁ hsettle => ?_)
  have hs₁ := (settle_spec hopen sender.2 hsettle).1
  have hmine := hs₁.balance_le sender
  refine .bind (.require hmsg) fun _ _ => .bind (.require hmsg) fun _ hle => ?_
  rw [require_eq_ok] at hle
  exact .bind (Uint256.sub_avoids (hle.trans hmine)) fun _ _ =>
    .bind (Uint256.sub_avoids hle) fun _ _ =>
      .bind (TransferHelper.safeTransfer_avoids hmsg) fun _ _ => .pure

theorem getReward_avoids {sender : Sender} (hov : bad (.panic .overflow) → s.Headroom src) :
    (s.getReward src sender).Avoids bad := by
  have hopen := hs.frame s.owner s.rewardSource s.rewardNotifier 0 s.tokens
  refine lock_avoids hmsg (.bind (syncRewardsFrom_avoids hmsg hov) fun result hsync => ?_)
  obtain ⟨s₁, reward⟩ := result
  have hs₁ := syncRewardsFrom_solvent hopen hsync
  refine .bind (updateReward_avoids hs₁ fun hbad => ?_) fun s₂ hupdate => ?_
  · have hroom : Headroom { s with unlocked := 0 } src := hov hbad
    obtain ⟨hreserve, hroom⟩ := hroom.of_sync hsync
    exact ⟨hreserve, by omega⟩
  · obtain rfl := hs₁.updateReward_eq sender.2 hupdate
    have hs₂ := hs₁.credited sender
    exact payReward_avoids hmsg (hs₂.rewards_le sender) hs₂.pending_le

theorem exit_avoids {sender : Sender} (hov : bad (.panic .overflow) → s.Headroom src) :
    (s.exit src sender).Avoids bad := by
  have hopen := hs.frame s.owner s.rewardSource s.rewardNotifier 0 s.tokens
  refine lock_avoids hmsg (.bind (settle_avoids hopen hmsg hov) fun s₁ hsettle => ?_)
  have hs₁ := (settle_spec hopen sender.2 hsettle).1
  refine .bind ?_ fun s₂ hrelease => ?_
  · unfold releaseStake
    exact .ite (fun _ => .bind (Uint256.sub_avoids (hs₁.balance_le sender)) fun _ _ =>
      .bind (TransferHelper.safeTransfer_avoids hmsg) fun _ _ => .pure) fun _ => .pure
  · -- releasing the stake leaves the rewards as they are
    have hmine := hs₁.rewards_le sender
    have hpending := hs₁.pending_le
    unfold releaseStake at hrelease
    split at hrelease
    · simp only [bind_eq_ok, Uint256.sub_eq_ok, pure_eq_ok] at hrelease
      obtain ⟨_, ⟨-, rfl⟩, tokens, -, rfl⟩ := hrelease
      exact payReward_avoids hmsg hmine hpending
    · obtain rfl := pure_eq_ok.mp hrelease
      exact payReward_avoids hmsg hmine hpending

variable (hov : ¬ bad (.panic .overflow))
include hov

theorem stake_avoids {sender : Sender} {amount : Nat} :
    (s.stake src sender amount).Avoids bad := by
  have hopen := hs.frame s.owner s.rewardSource s.rewardNotifier 0 s.tokens
  refine lock_avoids hmsg (.bind (settle_avoids hopen hmsg fun hbad => absurd hbad hov)
    fun s₁ hsettle => ?_)
  refine .bind (.require hmsg) fun _ _ => .bind (Uint256.add_avoids fun hbad => absurd hbad hov)
    fun _ _ => .bind (Uint256.add_avoids fun hbad => absurd hbad hov) fun _ _ =>
      .bind (TransferHelper.safeTransferFrom_avoids hmsg) fun _ _ => ?_
  exact .ite (fun _ => flushQueuedRewards_avoids fun hbad => absurd hbad hov) fun _ => .pure

omit hs in
theorem notifyRewardAmount_avoids {sender : Sender} {reward : Nat} :
    (s.notifyRewardAmount src sender reward).Avoids bad := by
  refine lock_avoids hmsg (.bind (.require hmsg) fun _ _ => .bind (.require hmsg) fun _ _ =>
    .bind (.require hmsg) fun _ _ => .bind ?_ fun _ _ =>
      .bind (Uint256.add_avoids fun hbad => absurd hbad hov) fun _ _ =>
        .bind (applyRewardAmount_avoids fun hbad => absurd hbad hov) fun _ _ => .pure)
  unfold pullReward
  refine .ite (fun _ => ?_) fun _ => TransferHelper.safeTransferFrom_avoids hmsg
  split
  · exact .error (hmsg _)
  · exact TransferHelper.safeTransfer_avoids hmsg

omit hs in
theorem syncRewards_avoids : (s.syncRewards src).Avoids bad :=
  lock_avoids hmsg
    (.bind (syncRewardsFrom_avoids hmsg fun hbad => absurd hbad hov) fun _ _ => .pure)

theorem recoverUnallocatedRewards_avoids {sender : Sender} {dst : Address} :
    (s.recoverUnallocatedRewards src sender dst).Avoids bad := by
  have hopen := hs.frame s.owner s.rewardSource s.rewardNotifier 0 s.tokens
  refine lock_avoids hmsg (.bind (.require hmsg) fun _ _ => .bind (.require hmsg) fun _ _ =>
    .bind (syncRewardsFrom_avoids hmsg fun hbad => absurd hbad hov) fun result hsync => ?_)
  obtain ⟨s₁, reward⟩ := result
  have hs₁ := syncRewardsFrom_solvent hopen hsync
  refine .bind (.require hmsg) fun _ _ => .bind (Uint256.sub_avoids hs₁.pending_le)
    fun amount hamount => ?_
  obtain ⟨-, rfl⟩ := Uint256.sub_eq_ok.mp hamount
  exact .bind (.require hmsg) fun _ _ => .bind (Uint256.sub_avoids (Nat.sub_le _ _)) fun _ _ =>
    .bind (TransferHelper.safeTransfer_avoids hmsg) fun _ _ => .pure

/-- No subtraction of a solvent pool underflows, whatever the transaction. -/
theorem exec_avoids (op : Op) : (s.exec op).Avoids bad := by
  cases op with
  | stake src sender amount => exact stake_avoids hs hmsg hov
  | withdraw src sender amount => exact withdraw_avoids hs hmsg fun hbad => absurd hbad hov
  | getReward src sender => exact getReward_avoids hs hmsg fun hbad => absurd hbad hov
  | exit src sender => exact exit_avoids hs hmsg fun hbad => absurd hbad hov
  | notifyRewardAmount src sender reward => exact notifyRewardAmount_avoids hmsg hov
  | syncRewards src => exact syncRewards_avoids hmsg hov
  | recoverUnallocatedRewards src sender dst =>
    exact recoverUnallocatedRewards_avoids hs hmsg hov
  | transferOwnership sender newOwner =>
    exact .bind (.require hmsg) fun _ _ => .bind (.require hmsg) fun _ _ => .pure
  | setRewardSource sender newRewardSource =>
    exact .bind (.require hmsg) fun _ _ => .bind (.require hmsg) fun _ _ =>
      .bind (.require hmsg) fun _ _ => .pure
  | setRewardNotifier sender newRewardNotifier =>
    exact .bind (.require hmsg) fun _ _ => .bind (.require hmsg) fun _ _ =>
      .bind (.require hmsg) fun _ _ => .bind (.require hmsg) fun _ _ => .pure
  | setRewardConfiguration sender newRewardSource newRewardNotifier =>
    exact .bind (.require hmsg) fun _ _ => .bind (.require hmsg) fun _ _ =>
      .bind (.require hmsg) fun _ _ => .pure
  | tokenTransfer sender token dst amount =>
    exact .bind (.require hmsg) fun _ _ =>
      .bind (TransferHelper.safeTransfer_avoids hmsg) fun _ _ => .pure
  | tokenApprove sender token spender amount =>
    exact .bind (.require hmsg) fun _ _ => .pure

end Step

/-! ## Every run -/

/-- What a pool promises its stakers: the reserve covers what `earned` reports for
    all accounts together, no subtraction of any transaction underflows, and
    within the headroom nothing in `withdraw`, `getReward` and `exit` panics. -/
structure KeepsItsPromise (s : StakingRewards) : Prop where
  covered : ∀ earnings : Address → Nat, (∀ a, s.earned a = .ok (earnings a)) →
    ∑ a, earnings a ≤ s.rewardReserve
  entitled : ∑ a, s.entitlement a ≤ s.rewardReserve
  noUnderflow : ∀ op, (s.exec op).Avoids (· = .panic .underflow)
  noPanic : ∀ src (sender : Sender), s.Headroom src →
    (∀ amount, (s.exec (.withdraw src sender amount)).Avoids fun r => ∃ p, r = .panic p) ∧
    (s.exec (.getReward src sender)).Avoids (fun r => ∃ p, r = .panic p) ∧
    (s.exec (.exit src sender)).Avoids fun r => ∃ p, r = .panic p

theorem Solvent.keepsItsPromise (hs : s.Solvent) : s.KeepsItsPromise where
  covered earnings h := by
    have heq : earnings = s.entitlement := funext fun a => earned_eq_entitlement (h a)
    exact heq ▸ hs.sum_entitlement_le
  entitled := hs.sum_entitlement_le
  noUnderflow op := exec_avoids hs (by simp) (by simp) op
  noPanic src sender hroom := by
    have hmsg : ∀ text, ¬ ∃ p, Revert.message text = .panic p := by simp
    exact ⟨fun amount => withdraw_avoids hs hmsg fun _ => hroom,
      getReward_avoids hs hmsg fun _ => hroom, exit_avoids hs hmsg fun _ => hroom⟩

/-- In every run whose transactions forget no dust, the pool keeps its promise to
    the stakers in every state reached. -/
theorem keepsItsPromise_of_forgetsNoDust (h : system.ReachableWith ForgetsNoDust s) :
    s.KeepsItsPromise :=
  (reachable_solvent h).keepsItsPromise

/-! ## A run that keeps its dust and one that forgets it -/

namespace Example

def pool : Address := 1
theorem alice_ne_zero : (2 : Address) ≠ Address.zero := by decide
theorem bob_ne_zero : (3 : Address) ≠ Address.zero := by decide

def alice : Sender := ⟨2, alice_ne_zero⟩
def bob : Sender := ⟨3, bob_ne_zero⟩
def notifier : Sender := ⟨4, by decide⟩

/-- A source that has approved the pool; it is neither paused nor a treasury. -/
def source : RewardSource := { paused := false, isTreasury := false, pull := .ok (), claim := .ok 0 }

/-- A pool whose notifier is also its reward source. -/
def start : StakingRewards where
  self := pool
  stakingToken := 5
  rewardsToken := 6
  owner := 7
  rewardSource := notifier
  rewardNotifier := notifier
  rewardPerTokenStored := 0
  totalStaked := 0
  rewardReserve := 0
  queuedRewards := 0
  pendingUserRewards := 0
  unlocked := 1
  balanceOf := fun _ => 0
  userRewardPerTokenPaid := fun _ => 0
  rewards := fun _ => 0
  tokens := {
    balanceOf := fun _ a => if a = pool then 0 else 10 ^ 20
    allowance := fun _ _ _ => Uint256.max
    refuses := fun _ _ => false }

theorem start_initial : start.Initial := ⟨rfl, rfl, rfl, rfl, rfl, rfl, rfl, rfl, rfl⟩

/-- Bob doubles the stake when the accumulator is a whole number of rewards. -/
def evenRun : List Op :=
  [.stake source alice (10 ^ 18), .notifyRewardAmount source notifier 5,
    .stake source bob (10 ^ 18), .notifyRewardAmount source notifier 3]

/-- Bob stakes when the accumulated rewards of Alice end in a fraction. -/
def unevenRun : List Op :=
  [.notifyRewardAmount source notifier 4, .stake source alice (3 * 10 ^ 17),
    .notifyRewardAmount source notifier 1, .stake source bob (6 * 10 ^ 17),
    .notifyRewardAmount source notifier 2, .notifyRewardAmount source notifier 2]

end Example

open Example

theorem keepsItsPromise_evenRun :
    ∃ s, system.ReachableWith ForgetsNoDust s ∧ s.rewardReserve = 8 ∧ s.KeepsItsPromise := by
  have hrun : (System.runWith exec ForgetsNoDust start evenRun).map (·.rewardReserve) = some 8 := by
    decide +kernel
  obtain ⟨s, hs, hreserve⟩ := Option.map_eq_some_iff.mp hrun
  have hreach := System.reachableWith_of_runWith (.init start_initial) hs
  exact ⟨s, hreach, hreserve, keepsItsPromise_of_forgetsNoDust hreach⟩

/-- What the uneven run ends in: the two entitlements, the reserve, and Bob's withdrawal
    after Alice took her rewards. -/
def unevenOutcome (s : StakingRewards) : Exec Nat × Exec Nat × Nat × Option Revert :=
  (s.earned alice, s.earned bob, s.rewardReserve,
    match s.exec (.getReward source alice) with
    | .error _ => none
    | .ok s' =>
      match s'.exec (.withdraw source bob 1) with
      | .error r => some r
      | .ok _ => none)

/-- After the uneven run the pool owes 7 and 3 but holds 9: once Alice is paid, Bob cannot
    withdraw his stake. -/
theorem not_keepsItsPromise_unevenRun :
    ∃ s, system.Reachable s ∧ s.earned alice = .ok 7 ∧ s.earned bob = .ok 3 ∧
      s.rewardReserve = 9 ∧ s.rewardReserve < ∑ a, s.entitlement a ∧ ¬ s.KeepsItsPromise ∧
      ∃ s', s.exec (.getReward source alice) = .ok s' ∧
        s'.exec (.withdraw source bob 1) = .error (.panic .underflow) := by
  have hrun : ((System.runWith exec (fun _ _ => True) start unevenRun).map unevenOutcome) =
      some (.ok 7, .ok 3, 9, some (.panic .underflow)) := by
    decide +kernel
  obtain ⟨s, hs, houtcome⟩ := Option.map_eq_some_iff.mp hrun
  have hreach : system.Reachable s := System.reachableWith_of_runWith (.init start_initial) hs
  simp only [unevenOutcome, Prod.mk.injEq] at houtcome
  obtain ⟨halice, hbob, hreserve, hblocked⟩ := houtcome
  have hsum : s.rewardReserve < ∑ a, s.entitlement a := by
    calc s.rewardReserve < s.entitlement alice + s.entitlement bob := by
          rw [← earned_eq_entitlement halice, ← earned_eq_entitlement hbob, hreserve]
          decide
      _ = ∑ a ∈ {alice.1, bob.1}, s.entitlement a := (Finset.sum_pair (by decide)).symm
      _ ≤ ∑ a, s.entitlement a := Finset.sum_le_univ_sum_of_nonneg fun _ => Nat.zero_le _
  refine ⟨s, hreach, halice, hbob, hreserve, hsum, fun h => ?_, ?_⟩
  · exact absurd h.entitled (Nat.not_le.mpr hsum)
  · split at hblocked
    · cases hblocked
    · rename_i s' hget
      refine ⟨s', hget, ?_⟩
      split at hblocked
      · rename_i hwithdraw
        rw [hwithdraw, Option.some.inj hblocked]
      · cases hblocked

end StakingRewards
