-- SUMMARY: Reward solvency of the staking pool: the invariant of the reward accounting, when it is kept, and a run that breaks it.
import FluxSwap.Staking.Model
import FluxSwap.Lib.Rounding
import Mathlib.Algebra.BigOperators.Fin

/-!
# Reward solvency

The pool owes its stakers what `earned` reports and holds `rewardReserve`. A
notification accounts for the difference of two rounded products of the
accumulator and the total stake, so within a span of constant total stake the
accounted rewards are behind the accrued ones by less than one unit: the `dust`.
A change of the total stake takes the next difference from another product, and
the dust of the old one is forgotten. The invariant of this file survives exactly
the changes that forget nothing.
-/

namespace StakingRewards

open Exec

variable {s s' : StakingRewards} {a : Address} {src : RewardSource}

/-! ## Entitlements -/

/-- What an account has accrued since its snapshot. -/
def accrued (s : StakingRewards) (a : Address) : Nat :=
  s.balanceOf a * (s.rewardPerTokenStored - s.userRewardPerTokenPaid a) / precision

/-- The value of `earned`, apart from its overflow checks. -/
def entitlement (s : StakingRewards) (a : Address) : Nat := s.accrued a + s.rewards a

theorem earned_eq_entitlement {value : Nat} (h : s.earned a = .ok value) :
    value = s.entitlement a := by
  unfold earned at h
  simp only [bind_eq_ok, Uint256.sub_eq_ok, Uint256.mul_eq_ok, Uint256.add_eq_ok] at h
  obtain ⟨_, ⟨-, rfl⟩, _, ⟨-, rfl⟩, -, rfl⟩ := h
  rfl

/-- What all stakers have accrued since their snapshots, in units of
    `1 / precision` of a reward. -/
def unsettled (s : StakingRewards) : Nat :=
  ∑ a, s.balanceOf a * (s.rewardPerTokenStored - s.userRewardPerTokenPaid a)

/-- How far the accounted rewards may be behind the accrued ones, in units of
    `1 / precision` of a reward. -/
def dust (s : StakingRewards) : Nat := s.rewardPerTokenStored * s.totalStaked % precision

theorem dust_lt (s : StakingRewards) : s.dust < precision := Nat.mod_lt _ (by decide)

/-! ## The invariant -/

/-- The totals of the storage are the sums of its mappings. -/
structure Books (s : StakingRewards) : Prop where
  staked : ∑ a, s.balanceOf a = s.totalStaked
  pending : ∑ a, s.rewards a = s.pendingUserRewards
  snapshot : ∀ a, s.userRewardPerTokenPaid a ≤ s.rewardPerTokenStored

/-- The reserve, `incoming` rewards of which are not queued yet, covers what has
    accrued, what is queued and what is pending, up to the dust. -/
def CoveredWith (s : StakingRewards) (incoming : Nat) : Prop :=
  s.unsettled + precision * (incoming + s.queuedRewards + s.pendingUserRewards) ≤
    precision * s.rewardReserve + s.dust

structure Solvent (s : StakingRewards) : Prop extends Books s where
  covered : s.CoveredWith 0

theorem Initial.solvent (h : s.Initial) : s.Solvent where
  staked := by simp [h.balanceOf, h.totalStaked]
  pending := by simp [h.rewards, h.pendingUserRewards]
  snapshot a := by simp [h.userRewardPerTokenPaid]
  covered := by
    simp [CoveredWith, unsettled, h.balanceOf, h.queuedRewards, h.pendingUserRewards]

theorem Solvent.sum_accrued_le (h : s.Solvent) :
    ∑ a, s.accrued a + s.queuedRewards + s.pendingUserRewards ≤ s.rewardReserve := by
  have hfloor : precision * ∑ a, s.accrued a ≤ s.unsettled := Rounding.mul_sum_div_le _ _ _
  have hcov := h.covered
  unfold CoveredWith at hcov
  refine Rounding.le_of_mul_le_add ?_ s.dust_lt
  rw [Nat.add_assoc, Nat.mul_add]
  simp only [Nat.zero_add] at hcov
  omega

/-- What one account accrues is still unallocated, so the queue is never capped. -/
theorem Solvent.accrued_le (h : s.Solvent) (a : Address) :
    s.queuedRewards + s.pendingUserRewards + s.accrued a ≤ s.rewardReserve := by
  have hsingle : s.accrued a ≤ ∑ a, s.accrued a :=
    Finset.single_le_sum (f := s.accrued) (fun _ _ => Nat.zero_le _) (Finset.mem_univ a)
  have := h.sum_accrued_le
  omega

/-- What is pending is reserved. -/
theorem Solvent.pending_le (h : s.Solvent) : s.pendingUserRewards ≤ s.rewardReserve := by
  have := h.sum_accrued_le
  omega

theorem Solvent.sum_entitlement_le (h : s.Solvent) :
    ∑ a, s.entitlement a ≤ s.rewardReserve := by
  unfold entitlement
  rw [Finset.sum_add_distrib, h.pending]
  have := h.sum_accrued_le
  omega

/-- One account stakes at most the total. -/
theorem Books.balance_le (h : s.Books) (a : Address) : s.balanceOf a ≤ s.totalStaked := by
  rw [← h.staked]
  exact Finset.single_le_sum (f := s.balanceOf) (fun _ _ => Nat.zero_le _) (Finset.mem_univ a)

theorem Books.rewards_le (h : s.Books) (a : Address) : s.rewards a ≤ s.pendingUserRewards := by
  rw [← h.pending]
  exact Finset.single_le_sum (f := s.rewards) (fun _ _ => Nat.zero_le _) (Finset.mem_univ a)

/-! ## Distribution -/

/-- The increment of the accumulator when `incoming` rewards and the queue are
    spread over the total stake. -/
def increment (s : StakingRewards) (incoming : Nat) : Nat :=
  (incoming + s.queuedRewards) * precision / s.totalStaked

/-- The storage with the accumulator raised by `increment` and another queue. -/
def raise (s : StakingRewards) (increment queued : Nat) : StakingRewards :=
  { s with
    rewardPerTokenStored := s.rewardPerTokenStored + increment
    queuedRewards := queued }

/-- The storage after `incoming` rewards and the queue are spread: the accumulator
    is raised, and the difference of the rounded products leaves the queue. -/
def spread (s : StakingRewards) (incoming : Nat) : StakingRewards :=
  s.raise (s.increment incoming) (incoming + s.queuedRewards -
    ((s.rewardPerTokenStored + s.increment incoming) * s.totalStaked / precision -
      s.rewardPerTokenStored * s.totalStaked / precision))

theorem raise_totalStaked (s : StakingRewards) (increment queued : Nat) :
    (s.raise increment queued).totalStaked = s.totalStaked := rfl

theorem raise_balanceOf (s : StakingRewards) (increment queued : Nat) :
    (s.raise increment queued).balanceOf = s.balanceOf := rfl

theorem raise_rewardReserve (s : StakingRewards) (increment queued : Nat) :
    (s.raise increment queued).rewardReserve = s.rewardReserve := rfl

theorem raise_queuedRewards (s : StakingRewards) (increment queued : Nat) :
    (s.raise increment queued).queuedRewards = queued := rfl

theorem raise_rewardPerTokenStored (s : StakingRewards) (increment queued : Nat) :
    (s.raise increment queued).rewardPerTokenStored = s.rewardPerTokenStored + increment := rfl

-- The fields of `spread` are read through `raise`: unfolding a product with
-- `precision` by definition would count up to `10 ^ 18`.
@[simp] theorem spread_totalStaked (s : StakingRewards) (incoming : Nat) :
    (s.spread incoming).totalStaked = s.totalStaked := by
  rw [spread, raise_totalStaked]

@[simp] theorem spread_balanceOf (s : StakingRewards) (incoming : Nat) :
    (s.spread incoming).balanceOf = s.balanceOf := by
  rw [spread, raise_balanceOf]

@[simp] theorem spread_rewardReserve (s : StakingRewards) (incoming : Nat) :
    (s.spread incoming).rewardReserve = s.rewardReserve := by
  rw [spread, raise_rewardReserve]

theorem spread_rewardPerTokenStored (s : StakingRewards) (incoming : Nat) :
    (s.spread incoming).rewardPerTokenStored = s.rewardPerTokenStored + s.increment incoming := by
  rw [spread, raise_rewardPerTokenStored]

theorem spread_queuedRewards (s : StakingRewards) (incoming : Nat) :
    (s.spread incoming).queuedRewards = incoming + s.queuedRewards -
      ((s.rewardPerTokenStored + s.increment incoming) * s.totalStaked / precision -
        s.rewardPerTokenStored * s.totalStaked / precision) := by
  rw [spread, raise_queuedRewards]

theorem spread_eq_of_increment_eq_zero {incoming : Nat} (h : s.increment incoming = 0) :
    s.spread incoming = { s with queuedRewards := incoming + s.queuedRewards } := by
  simp [spread, raise, h]

/-- `_applyRewardAmount` spreads, also where it only fills the queue. -/
theorem applyRewardAmount_eq {reward accounted : Nat}
    (h : s.applyRewardAmount reward = .ok (s', accounted)) : s' = s.spread reward := by
  unfold applyRewardAmount at h
  obtain ⟨distributable, hd, h⟩ := bind_eq_ok.mp h
  obtain ⟨-, rfl⟩ := Uint256.add_eq_ok.mp hd
  split at h
  · rename_i hnone
    obtain ⟨rfl, -⟩ := Prod.mk.inj (pure_eq_ok.mp h)
    rw [spread_eq_of_increment_eq_zero]
    rcases hnone with hnone | hnone <;> simp [increment, hnone]
  · obtain ⟨scaled, hsc, h⟩ := bind_eq_ok.mp h
    obtain ⟨-, rfl⟩ := Uint256.mul_eq_ok.mp hsc
    dsimp only at h
    split at h
    · rename_i hnone
      obtain ⟨rfl, -⟩ := Prod.mk.inj (pure_eq_ok.mp h)
      rw [spread_eq_of_increment_eq_zero hnone]
    · simp only [bind_eq_ok, Uint256.add_eq_ok, Uint256.mul_eq_ok, Uint256.sub_eq_ok, pure_eq_ok,
        Prod.mk.injEq] at h
      obtain ⟨_, ⟨-, rfl⟩, _, ⟨-, rfl⟩, _, ⟨-, rfl⟩, _, ⟨-, rfl⟩, _, ⟨-, rfl⟩, rfl, -⟩ := h
      rfl

theorem flushQueuedRewards_eq (h : s.flushQueuedRewards = .ok s') : s' = s.spread 0 := by
  unfold flushQueuedRewards at h
  split at h
  · obtain ⟨⟨s₁, accounted⟩, happly, h⟩ := bind_eq_ok.mp h
    obtain rfl := pure_eq_ok.mp h
    exact applyRewardAmount_eq happly
  · rename_i hnone
    obtain rfl := pure_eq_ok.mp h
    have hzero : s.increment 0 = 0 := by
      rcases Nat.eq_zero_or_pos s.queuedRewards with hq | hq
      · simp [increment, hq]
      · have ht : s.totalStaked = 0 := by omega
        simp [increment, ht]
    simp [spread_eq_of_increment_eq_zero hzero]

/-- Raising the accumulator accrues the increment on the whole stake. -/
theorem Books.unsettled_raise (h : s.Books) (increment queued : Nat) :
    (s.raise increment queued).unsettled = s.unsettled + increment * s.totalStaked := by
  unfold unsettled
  rw [← h.staked, Finset.mul_sum, ← Finset.sum_add_distrib]
  refine Finset.sum_congr rfl fun a _ => ?_
  have hsnap := h.snapshot a
  show s.balanceOf a * (s.rewardPerTokenStored + increment - s.userRewardPerTokenPaid a) = _
  rw [Nat.sub_add_comm hsnap, Nat.mul_add, Nat.mul_comm increment]

theorem Books.raise (h : s.Books) (increment queued : Nat) : (s.raise increment queued).Books where
  staked := h.staked
  pending := h.pending
  snapshot a := (h.snapshot a).trans (Nat.le_add_right _ _)

/-- An increment that the rewards at hand pay for keeps the pool covered: what
    leaves the queue is what the stakers accrue, up to the change of the dust. -/
theorem Books.raise_solvent (hb : s.Books) {incoming increment : Nat}
    (hinc : increment * s.totalStaked ≤ (incoming + s.queuedRewards) * precision)
    (hc : s.CoveredWith incoming) :
    (s.raise increment (incoming + s.queuedRewards -
      ((s.rewardPerTokenStored + increment) * s.totalStaked / precision -
        s.rewardPerTokenStored * s.totalStaked / precision))).Solvent := by
  refine ⟨hb.raise _ _, ?_⟩
  have hle := Rounding.sub_div_le (x := s.rewardPerTokenStored * s.totalStaked)
    (d := precision) (by decide) hinc
  have hsplit := Rounding.div_add_sub_div (s.rewardPerTokenStored * s.totalStaked)
    (increment * s.totalStaked) precision
  have hmul := Nat.mul_le_mul_left precision hle
  unfold CoveredWith at hc ⊢
  rw [hb.unsettled_raise]
  simp only [StakingRewards.raise, dust, Nat.zero_add, Nat.add_mul, Nat.mul_add, Nat.mul_sub]
    at hc hmul hsplit ⊢
  omega

theorem increment_mul_le (s : StakingRewards) (incoming : Nat) :
    s.increment incoming * s.totalStaked ≤ (incoming + s.queuedRewards) * precision :=
  Nat.div_mul_le_self _ _

theorem Books.spread_solvent (hb : s.Books) {incoming : Nat} (hc : s.CoveredWith incoming) :
    (s.spread incoming).Solvent :=
  hb.raise_solvent (s.increment_mul_le incoming) hc

theorem Solvent.spread (hs : s.Solvent) : (s.spread 0).Solvent :=
  hs.toBooks.spread_solvent hs.covered

/-- Only the accounting fields matter for solvency. -/
theorem Solvent.frame (hs : s.Solvent) (owner source notifier : Address) (unlocked : Nat)
    (tokens : Tokens) :
    Solvent { s with
      owner := owner
      rewardSource := source
      rewardNotifier := notifier
      unlocked := unlocked
      tokens := tokens } :=
  ⟨⟨hs.staked, hs.pending, hs.snapshot⟩, hs.covered⟩

/-- The storage after `reward` arrived and entered the reserve. -/
def received (s : StakingRewards) (tokens : Tokens) (reward : Nat) : StakingRewards :=
  { s with tokens := tokens, rewardReserve := s.rewardReserve + reward }

/-- New rewards enter the reserve before they are distributed. -/
theorem Solvent.received_spread (hs : s.Solvent) (tokens : Tokens) (reward : Nat) :
    ((s.received tokens reward).spread reward).Solvent := by
  have hb : (s.received tokens reward).Books := ⟨hs.staked, hs.pending, hs.snapshot⟩
  refine hb.spread_solvent ?_
  have hcov := hs.covered
  simp only [CoveredWith, unsettled, dust, received, Nat.mul_add] at hcov ⊢
  omega

/-- What the manager pays out in a call; nothing when the notifier is another account. -/
def claimed (s : StakingRewards) (src : RewardSource) : Nat :=
  if s.rewardNotifier = s.self then
    match src.claim with
    | .ok reward => reward
    | .error _ => 0
  else 0

/-- What a synchronisation makes of the balances: nothing, or the manager pays. -/
def Synchronised (s : StakingRewards) (src : RewardSource) (tokens : Tokens) : Prop :=
  (s.claimed src = 0 ∧ tokens = s.tokens) ∨
  (src.claim = .ok (s.claimed src) ∧
    s.tokens.transfer s.rewardsToken s.rewardSource s.self (s.claimed src) = some tokens)

/-- `_syncRewards` spreads what the manager pays out, if it pays anything. -/
theorem syncRewardsFrom_cases {reward : Nat} (h : s.syncRewardsFrom src = .ok (s', reward)) :
    ∃ tokens, s.Synchronised src tokens ∧
      ((s.claimed src = 0 ∧ s' = { s with tokens := tokens }) ∨
      (s.claimed src ≠ 0 ∧ s.rewardReserve + s.claimed src ≤ Uint256.max ∧
        s' = (s.received tokens (s.claimed src)).spread (s.claimed src))) := by
  unfold syncRewardsFrom at h
  split at h
  -- only the pool's own manager is asked
  · rename_i hother
    obtain ⟨rfl, -⟩ := Prod.mk.inj (pure_eq_ok.mp h)
    exact ⟨s.tokens, .inl ⟨if_neg hother, rfl⟩, .inl ⟨if_neg hother, rfl⟩⟩
  · rename_i hself
    rw [not_not] at hself
    obtain ⟨⟨s₁, amount⟩, hclaim, h⟩ := bind_eq_ok.mp h
    unfold claimPoolRewards at hclaim
    split at hclaim
    · cases hclaim
    · rename_i paid hpaid
      obtain ⟨tokens, htransfer, hclaim⟩ := bind_eq_ok.mp hclaim
      obtain ⟨rfl, rfl⟩ := Prod.mk.inj (pure_eq_ok.mp hclaim)
      -- what the manager paid is what was claimed
      have hclaimed : s.claimed src = paid := by
        unfold claimed
        rw [if_pos hself, hpaid]
      unfold Synchronised
      rw [hclaimed]
      refine ⟨tokens, .inr ⟨hpaid, TransferHelper.safeTransfer_eq_ok.mp htransfer⟩, ?_⟩
      dsimp only at h
      split at h
      · obtain ⟨rfl, -⟩ := Prod.mk.inj (pure_eq_ok.mp h)
        exact .inl ⟨‹_›, rfl⟩
      · obtain ⟨reserve, hreserve, h⟩ := bind_eq_ok.mp h
        obtain ⟨hmax, rfl⟩ := Uint256.add_eq_ok.mp hreserve
        obtain ⟨⟨s₂, accounted⟩, happly, h⟩ := bind_eq_ok.mp h
        obtain ⟨rfl, -⟩ := Prod.mk.inj (pure_eq_ok.mp h)
        exact .inr ⟨‹_›, hmax, applyRewardAmount_eq happly⟩

theorem syncRewardsFrom_solvent {reward : Nat} (hs : s.Solvent)
    (h : s.syncRewardsFrom src = .ok (s', reward)) : s'.Solvent := by
  obtain ⟨tokens, -, ⟨-, rfl⟩ | ⟨-, -, rfl⟩⟩ := syncRewardsFrom_cases h
  · exact hs.frame _ _ _ _ tokens
  · exact hs.received_spread tokens _

/-! ## Settlement of one account -/

/-- The storage after an account is credited with what it accrued. -/
def credited (s : StakingRewards) (a : Address) : StakingRewards :=
  { s with
    rewards := Function.update s.rewards a (s.rewards a + s.accrued a)
    pendingUserRewards := s.pendingUserRewards + s.accrued a
    userRewardPerTokenPaid := Function.update s.userRewardPerTokenPaid a s.rewardPerTokenStored }

theorem credited_paid (s : StakingRewards) (a : Address) :
    (s.credited a).userRewardPerTokenPaid a = s.rewardPerTokenStored :=
  Function.update_self _ _ _

/-- `_updateReward` credits the account and caps the queue. -/
theorem updateReward_cases (ha : a ≠ Address.zero) (h : s.updateReward a = .ok s') :
    s.pendingUserRewards + s.accrued a ≤ s.rewardReserve ∧
      s' = { s.credited a with
        queuedRewards :=
          min s.queuedRewards (s.rewardReserve - (s.pendingUserRewards + s.accrued a)) } := by
  unfold updateReward at h
  rw [if_pos ha] at h
  simp only [bind_eq_ok, Uint256.sub_eq_ok, Uint256.mul_eq_ok] at h
  obtain ⟨_, ⟨-, rfl⟩, _, ⟨-, rfl⟩, s₁, hs₁, _, ⟨hle, rfl⟩, h⟩ := h
  have hs₁' : s₁ = { s with
      rewards := Function.update s.rewards a (s.rewards a + s.accrued a)
      pendingUserRewards := s.pendingUserRewards + s.accrued a } := by
    unfold bookAccrued at hs₁
    split at hs₁
    · simp only [bind_eq_ok, Uint256.add_eq_ok, pure_eq_ok] at hs₁
      obtain ⟨_, ⟨-, rfl⟩, _, ⟨-, rfl⟩, rfl⟩ := hs₁
      rfl
    · have hzero : s.accrued a = 0 := Nat.eq_zero_of_not_pos ‹_›
      obtain rfl := pure_eq_ok.mp hs₁
      simp [hzero]
  subst hs₁'
  dsimp only at h hle
  refine ⟨hle, ?_⟩
  split at h
  · rw [Nat.min_eq_right (Nat.le_of_lt ‹_›)]
    exact (pure_eq_ok.mp h).symm
  · rw [Nat.min_eq_left (Nat.le_of_not_lt ‹_›)]
    exact (pure_eq_ok.mp h).symm

/-- In a solvent pool `_updateReward` credits the account and nothing else. -/
theorem Solvent.updateReward_eq (hs : s.Solvent) (ha : a ≠ Address.zero)
    (h : s.updateReward a = .ok s') : s' = s.credited a := by
  have hle := hs.accrued_le a
  obtain ⟨-, rfl⟩ := updateReward_cases ha h
  rw [Nat.min_eq_left (by omega)]
  rfl

theorem Books.credited (h : s.Books) (a : Address) : (s.credited a).Books where
  staked := h.staked
  pending := by
    have hsum := Finset.sum_update_of_mem (Finset.mem_univ a) s.rewards (s.rewards a + s.accrued a)
    have hsplit := Finset.add_sum_erase Finset.univ s.rewards (Finset.mem_univ a)
    have hpend := h.pending
    simp only [StakingRewards.credited, hsum, ← Finset.erase_eq]
    omega
  snapshot b := by
    by_cases hb : b = a
    · subst hb; simp [StakingRewards.credited]
    · simpa [StakingRewards.credited, hb] using h.snapshot b

/-- Crediting takes from the unsettled rewards what it adds to the pending ones,
    and at most a fraction of a unit more. -/
theorem Solvent.credited (hs : s.Solvent) (a : Address) : (s.credited a).Solvent where
  toBooks := hs.toBooks.credited a
  covered := by
    have hsplit := Finset.add_sum_erase Finset.univ
      (fun b => s.balanceOf b * (s.rewardPerTokenStored - s.userRewardPerTokenPaid b))
      (Finset.mem_univ a)
    have hrest : (s.credited a).unsettled = ∑ b ∈ Finset.univ.erase a,
        s.balanceOf b * (s.rewardPerTokenStored - s.userRewardPerTokenPaid b) := by
      unfold unsettled
      rw [← Finset.add_sum_erase _ _ (Finset.mem_univ a)]
      simp only [StakingRewards.credited, Function.update_self, Nat.sub_self, Nat.mul_zero,
        Nat.zero_add]
      refine Finset.sum_congr rfl fun b hb => ?_
      rw [Function.update_of_ne (Finset.ne_of_mem_erase hb)]
    have hfloor : precision * s.accrued a ≤
        s.balanceOf a * (s.rewardPerTokenStored - s.userRewardPerTokenPaid a) :=
      Nat.mul_div_le _ _
    have hcov := hs.covered
    unfold CoveredWith at hcov ⊢
    rw [hrest]
    simp only [unsettled, ← hsplit, dust, StakingRewards.credited, Nat.zero_add,
      Nat.mul_add] at hcov ⊢
    omega

/-- The accumulator that a caller's settlement leaves: what the manager pays is
    spread, and then the queue. -/
def settledAccumulator (s : StakingRewards) (src : RewardSource) : Nat :=
  if s.claimed src = 0 then (s.spread 0).rewardPerTokenStored
  else ((s.spread (s.claimed src)).spread 0).rewardPerTokenStored

/-- Where distribution leads depends on the accumulator, the queue and the total stake. -/
theorem spread_congr {t : StakingRewards} (incoming : Nat)
    (haccumulator : s.rewardPerTokenStored = t.rewardPerTokenStored)
    (hqueue : s.queuedRewards = t.queuedRewards) (htotal : s.totalStaked = t.totalStaked) :
    (s.spread incoming).rewardPerTokenStored = (t.spread incoming).rewardPerTokenStored ∧
      (s.spread incoming).queuedRewards = (t.spread incoming).queuedRewards := by
  rw [spread_rewardPerTokenStored, spread_rewardPerTokenStored, spread_queuedRewards,
    spread_queuedRewards, increment, increment, haccumulator, hqueue, htotal]
  exact ⟨rfl, rfl⟩

/-- What a settlement leaves of the accumulator and the stakes before the caller is credited. -/
theorem settle_cases (h : s.settle src a = .ok s') :
    ∃ s₁ reward, s.syncRewardsFrom src = .ok (s₁, reward) ∧
      (s₁.spread 0).updateReward a = .ok s' ∧
      (s₁.spread 0).rewardPerTokenStored = s.settledAccumulator src ∧
      s₁.totalStaked = s.totalStaked ∧ s₁.balanceOf = s.balanceOf := by
  unfold settle at h
  obtain ⟨⟨s₁, reward⟩, hsync, h⟩ := bind_eq_ok.mp h
  obtain ⟨s₂, hflush, hupdate⟩ := bind_eq_ok.mp h
  obtain rfl := flushQueuedRewards_eq hflush
  refine ⟨s₁, reward, hsync, hupdate, ?_⟩
  rw [settledAccumulator]
  obtain ⟨tokens, -, ⟨hnone, rfl⟩ | ⟨hsome, -, rfl⟩⟩ := syncRewardsFrom_cases hsync
  · rw [if_pos hnone]
    exact ⟨(spread_congr 0 rfl rfl rfl).1, rfl, rfl⟩
  · have hcongr := spread_congr (s := s.received tokens (s.claimed src)) (t := s) (s.claimed src)
      rfl rfl rfl
    rw [if_neg hsome, spread_totalStaked, spread_balanceOf]
    refine ⟨(spread_congr 0 hcongr.1 hcongr.2 ?_).1, rfl, rfl⟩
    rw [spread_totalStaked, spread_totalStaked]
    rfl

/-- A caller's settlement moves the accumulator and the caller's snapshot, and no stake. -/
theorem settle_spec (hs : s.Solvent) (ha : a ≠ Address.zero) (h : s.settle src a = .ok s') :
    s'.Solvent ∧ s'.userRewardPerTokenPaid a = s'.rewardPerTokenStored ∧
      s'.rewardPerTokenStored = s.settledAccumulator src ∧
      s'.totalStaked = s.totalStaked ∧ s'.balanceOf = s.balanceOf := by
  obtain ⟨s₁, reward, hsync, hupdate, haccumulator, htotal, hbalance⟩ := settle_cases h
  have hs₂ := (syncRewardsFrom_solvent hs hsync).spread
  obtain rfl := hs₂.updateReward_eq ha hupdate
  refine ⟨hs₂.credited a, credited_paid _ a, haccumulator, ?_, ?_⟩
  · rw [← htotal, ← spread_totalStaked s₁ 0, StakingRewards.credited]
  · rw [← hbalance, ← spread_balanceOf s₁ 0, StakingRewards.credited]

/-- The storage after an account took its rewards. -/
def paid (s : StakingRewards) (a : Address) (tokens : Tokens) : StakingRewards :=
  { s with
    rewards := Function.update s.rewards a 0
    rewardReserve := s.rewardReserve - s.rewards a
    pendingUserRewards := s.pendingUserRewards - s.rewards a
    tokens := tokens }

theorem payReward_cases (h : s.payReward a = .ok s') :
    s' = s ∨ (s.rewards a ≤ s.rewardReserve ∧ s.rewards a ≤ s.pendingUserRewards ∧
      ∃ tokens, s.tokens.transfer s.rewardsToken s.self a (s.rewards a) = some tokens ∧
        s' = s.paid a tokens) := by
  unfold payReward at h
  split at h
  · simp only [bind_eq_ok, Uint256.sub_eq_ok, pure_eq_ok,
      TransferHelper.safeTransfer_eq_ok] at h
    obtain ⟨_, ⟨hreserve, rfl⟩, _, ⟨hpending, rfl⟩, tokens, htransfer, rfl⟩ := h
    exact .inr ⟨hreserve, hpending, tokens, htransfer, rfl⟩
  · exact .inl (pure_eq_ok.mp h).symm

theorem Books.paid (h : s.Books) (a : Address) (tokens : Tokens) : (s.paid a tokens).Books where
  staked := h.staked
  pending := by
    have hsum := Finset.sum_update_of_mem (Finset.mem_univ a) s.rewards 0
    have hsplit := Finset.add_sum_erase Finset.univ s.rewards (Finset.mem_univ a)
    have hpend := h.pending
    simp only [StakingRewards.paid, hsum, ← Finset.erase_eq]
    omega
  snapshot := h.snapshot

theorem payReward_solvent (hs : s.Solvent) (h : s.payReward a = .ok s') : s'.Solvent := by
  obtain rfl | ⟨hreserve, hpending, tokens, -, rfl⟩ := payReward_cases h
  · exact hs
  · refine ⟨hs.toBooks.paid a tokens, ?_⟩
    have hcov := hs.covered
    simp only [CoveredWith, unsettled, dust, StakingRewards.paid, Nat.zero_add, Nat.mul_add,
      Nat.mul_sub] at hcov ⊢
    have hle := Nat.mul_le_mul_left precision hreserve
    have hle' := Nat.mul_le_mul_left precision hpending
    omega

/-! ## Changes of the total stake -/

/-- At this value of the accumulator a change of the total stake to `total` by
    `sender` forgets no dust: the sender holds all of the old stake, or the new
    product has at least the fraction that the old one had. -/
def KeepsDust (s : StakingRewards) (accumulator : Nat) (sender : Address) (total : Nat) : Prop :=
  s.balanceOf sender = s.totalStaked ∨
    accumulator * s.totalStaked % precision ≤ accumulator * total % precision

/-- When one settled account holds all of the stake, nothing is unsettled. -/
theorem Books.unsettled_eq_zero (h : s.Books) (hsole : s.balanceOf a = s.totalStaked)
    (hpaid : s.userRewardPerTokenPaid a = s.rewardPerTokenStored) : s.unsettled = 0 := by
  have hsplit := Finset.add_sum_erase Finset.univ s.balanceOf (Finset.mem_univ a)
  rw [h.staked, hsole] at hsplit
  have hrest : ∑ b ∈ Finset.univ.erase a, s.balanceOf b = 0 := by omega
  refine Finset.sum_eq_zero fun b _ => ?_
  by_cases hb : b = a
  · subst hb; simp [hpaid]
  · rw [Finset.sum_eq_zero_iff.mp hrest b (Finset.mem_erase.mpr ⟨hb, Finset.mem_univ b⟩),
      Nat.zero_mul]

/-- The storage after an account's stake becomes `balance` and the total `total`. -/
def restaked (s : StakingRewards) (a : Address) (balance total : Nat) (tokens : Tokens) :
    StakingRewards :=
  { s with
    totalStaked := total
    balanceOf := Function.update s.balanceOf a balance
    tokens := tokens }

theorem Books.restaked (h : s.Books) {balance total : Nat}
    (htotal : total + s.balanceOf a = s.totalStaked + balance) (tokens : Tokens) :
    (s.restaked a balance total tokens).Books where
  staked := by
    have hsum := Finset.sum_update_of_mem (Finset.mem_univ a) s.balanceOf balance
    have hsplit := Finset.add_sum_erase Finset.univ s.balanceOf (Finset.mem_univ a)
    have hstaked := h.staked
    simp only [StakingRewards.restaked, hsum, ← Finset.erase_eq]
    omega
  pending := h.pending
  snapshot := h.snapshot

/-- A settled account may change its stake if that forgets no dust. -/
theorem Solvent.restake (hs : s.Solvent)
    (hpaid : s.userRewardPerTokenPaid a = s.rewardPerTokenStored) {balance total : Nat}
    (htotal : total + s.balanceOf a = s.totalStaked + balance)
    (hdust : s.KeepsDust s.rewardPerTokenStored a total) (tokens : Tokens) :
    (s.restaked a balance total tokens).Solvent where
  toBooks := hs.toBooks.restaked htotal tokens
  covered := by
    have hsame : ∑ b, Function.update s.balanceOf a balance b *
        (s.rewardPerTokenStored - s.userRewardPerTokenPaid b) = s.unsettled := by
      refine Finset.sum_congr rfl fun b _ => ?_
      by_cases hb : b = a
      · subst hb; simp [hpaid]
      · rw [Function.update_of_ne hb]
    have hcov := hs.covered
    simp only [CoveredWith, dust, Nat.zero_add] at hcov ⊢
    rw [show (s.restaked a balance total tokens).unsettled = s.unsettled from hsame]
    simp only [StakingRewards.restaked]
    rcases hdust with hsole | hdust
    · -- nothing is unsettled, so the reserve covers the rest without any dust
      have hzero := hs.toBooks.unsettled_eq_zero hsole hpaid
      have hle := hs.sum_accrued_le
      have hmul := Nat.mul_le_mul_left precision
        (show s.queuedRewards + s.pendingUserRewards ≤ s.rewardReserve by omega)
      omega
    · omega

/-! ## Every transaction -/

theorem lock_eq_ok {body : StakingRewards → Exec StakingRewards} :
    lock body s = .ok s' ↔
      s.unlocked = 1 ∧ ∃ s₁, body { s with unlocked := 0 } = .ok s₁ ∧
        { s₁ with unlocked := 1 } = s' := by
  unfold lock
  simp only [bind_eq_ok, require_eq_ok, pure_eq_ok]
  constructor
  · rintro ⟨_, hopen, s₁, hbody, heq⟩
    exact ⟨hopen, s₁, hbody, heq⟩
  · rintro ⟨hopen, s₁, hbody, heq⟩
    exact ⟨(), hopen, s₁, hbody, heq⟩

/-- The transaction forgets no dust when it changes the total stake. -/
def ForgetsNoDust (s : StakingRewards) : Op → Prop
  | .stake src sender amount =>
    s.KeepsDust (s.settledAccumulator src) sender (s.totalStaked + amount)
  | .withdraw src sender amount =>
    s.KeepsDust (s.settledAccumulator src) sender (s.totalStaked - amount)
  | .exit src sender =>
    s.KeepsDust (s.settledAccumulator src) sender (s.totalStaked - s.balanceOf sender)
  | _ => True

instance (s : StakingRewards) (accumulator : Nat) (sender : Address) (total : Nat) :
    Decidable (s.KeepsDust accumulator sender total) := inferInstanceAs (Decidable (_ ∨ _))

instance (s : StakingRewards) : (op : Op) → Decidable (s.ForgetsNoDust op)
  | .stake src sender _ =>
    inferInstanceAs (Decidable (s.KeepsDust (s.settledAccumulator src) sender _))
  | .withdraw src sender _ =>
    inferInstanceAs (Decidable (s.KeepsDust (s.settledAccumulator src) sender _))
  | .exit src sender =>
    inferInstanceAs (Decidable (s.KeepsDust (s.settledAccumulator src) sender _))
  | .getReward .. | .notifyRewardAmount .. | .syncRewards .. | .recoverUnallocatedRewards ..
  | .transferOwnership .. | .setRewardSource .. | .setRewardNotifier ..
  | .setRewardConfiguration .. | .tokenTransfer .. | .tokenApprove .. => instDecidableTrue

/-- The condition on the storage before the transaction, read after its settlement. -/
theorem KeepsDust.settled {sender : Address} {total : Nat} (hs : s.Solvent)
    (ha : sender ≠ Address.zero) (h : settle src sender { s with unlocked := 0 } = .ok s')
    (hdust : s.KeepsDust (s.settledAccumulator src) sender total) :
    s'.KeepsDust s'.rewardPerTokenStored sender total := by
  obtain ⟨-, -, haccumulator, htotal, hbalance⟩ := settle_spec (hs.frame _ _ _ 0 _) ha h
  unfold KeepsDust
  rw [haccumulator, htotal, hbalance]
  exact hdust

section Step

variable (hs : s.Solvent)
include hs

theorem stake_solvent {sender : Sender} {amount : Nat}
    (hdust : s.ForgetsNoDust (.stake src sender amount))
    (h : s.stake src sender amount = .ok s') : s'.Solvent := by
  obtain ⟨-, s₀, hbody, rfl⟩ := lock_eq_ok.mp h
  obtain ⟨s₁, hsettle, hbody⟩ := bind_eq_ok.mp hbody
  obtain ⟨hs₁, hpaid, -, htotal, -⟩ := settle_spec (hs.frame _ _ _ 0 _) sender.2 hsettle
  simp only [bind_eq_ok, require_eq_ok, Uint256.add_eq_ok] at hbody
  obtain ⟨_, -, _, ⟨-, rfl⟩, _, ⟨-, rfl⟩, tokens, -, hbody⟩ := hbody
  have hkeeps := KeepsDust.settled hs sender.2 hsettle hdust
  rw [show s.totalStaked = s₁.totalStaked from htotal.symm] at hkeeps
  have hnew := hs₁.restake hpaid
    (show s₁.totalStaked + amount + s₁.balanceOf sender =
      s₁.totalStaked + (s₁.balanceOf sender + amount) by omega) hkeeps tokens
  split at hbody
  · obtain rfl := flushQueuedRewards_eq hbody
    exact hnew.spread.frame _ _ _ 1 _
  · obtain rfl := pure_eq_ok.mp hbody
    exact hnew.frame _ _ _ 1 _

theorem withdraw_solvent {sender : Sender} {amount : Nat}
    (hdust : s.ForgetsNoDust (.withdraw src sender amount))
    (h : s.withdraw src sender amount = .ok s') : s'.Solvent := by
  obtain ⟨-, s₀, hbody, rfl⟩ := lock_eq_ok.mp h
  obtain ⟨s₁, hsettle, hbody⟩ := bind_eq_ok.mp hbody
  obtain ⟨hs₁, hpaid, -, htotal, -⟩ := settle_spec (hs.frame _ _ _ 0 _) sender.2 hsettle
  simp only [bind_eq_ok, require_eq_ok, Uint256.sub_eq_ok, pure_eq_ok] at hbody
  obtain ⟨_, -, _, hle, _, ⟨hle', rfl⟩, _, ⟨-, rfl⟩, tokens, -, rfl⟩ := hbody
  have hkeeps := KeepsDust.settled hs sender.2 hsettle hdust
  rw [show s.totalStaked = s₁.totalStaked from htotal.symm] at hkeeps
  exact (hs₁.restake hpaid (by omega) hkeeps tokens).frame _ _ _ 1 _

theorem getReward_solvent {sender : Sender} (h : s.getReward src sender = .ok s') :
    s'.Solvent := by
  obtain ⟨-, s₀, hbody, rfl⟩ := lock_eq_ok.mp h
  obtain ⟨⟨s₁, reward⟩, hsync, hbody⟩ := bind_eq_ok.mp hbody
  obtain ⟨s₂, hupdate, hpay⟩ := bind_eq_ok.mp hbody
  have hs₁ := syncRewardsFrom_solvent (hs.frame _ _ _ 0 _) hsync
  obtain rfl := hs₁.updateReward_eq sender.2 hupdate
  exact (payReward_solvent (hs₁.credited sender) hpay).frame _ _ _ 1 _

theorem exit_solvent {sender : Sender} (hdust : s.ForgetsNoDust (.exit src sender))
    (h : s.exit src sender = .ok s') : s'.Solvent := by
  obtain ⟨-, s₀, hbody, rfl⟩ := lock_eq_ok.mp h
  obtain ⟨s₁, hsettle, hbody⟩ := bind_eq_ok.mp hbody
  obtain ⟨s₂, hrelease, hpay⟩ := bind_eq_ok.mp hbody
  obtain ⟨hs₁, hpaid, -, htotal, hbalance⟩ :=
    settle_spec (hs.frame _ _ _ 0 _) sender.2 hsettle
  have hs₂ : s₂.Solvent := by
    unfold releaseStake at hrelease
    split at hrelease
    · simp only [bind_eq_ok, Uint256.sub_eq_ok, pure_eq_ok] at hrelease
      obtain ⟨_, ⟨hle, rfl⟩, tokens, -, rfl⟩ := hrelease
      have hkeeps := KeepsDust.settled hs sender.2 hsettle hdust
      rw [show s.totalStaked = s₁.totalStaked from htotal.symm,
        show s.balanceOf = s₁.balanceOf from hbalance.symm] at hkeeps
      exact hs₁.restake hpaid (by omega) hkeeps tokens
    · obtain rfl := pure_eq_ok.mp hrelease
      exact hs₁
  exact (payReward_solvent hs₂ hpay).frame _ _ _ 1 _

theorem notifyRewardAmount_solvent {sender : Sender} {reward : Nat}
    (h : s.notifyRewardAmount src sender reward = .ok s') : s'.Solvent := by
  obtain ⟨-, s₀, hbody, rfl⟩ := lock_eq_ok.mp h
  simp only [bind_eq_ok, require_eq_ok, Uint256.add_eq_ok, pure_eq_ok] at hbody
  obtain ⟨_, -, _, -, _, -, tokens, -, _, ⟨-, rfl⟩, ⟨s₁, accounted⟩, happly, rfl⟩ := hbody
  obtain rfl := applyRewardAmount_eq happly
  have hopen := hs.frame s.owner s.rewardSource s.rewardNotifier 0 s.tokens
  exact (hopen.received_spread tokens reward).frame _ _ _ 1 _

theorem syncRewards_solvent (h : s.syncRewards src = .ok s') : s'.Solvent := by
  obtain ⟨-, s₀, hbody, rfl⟩ := lock_eq_ok.mp h
  obtain ⟨⟨s₁, reward⟩, hsync, hbody⟩ := bind_eq_ok.mp hbody
  obtain rfl := pure_eq_ok.mp hbody
  exact (syncRewardsFrom_solvent (hs.frame _ _ _ 0 _) hsync).frame _ _ _ 1 _

/-- Recovery happens with nothing staked, so nothing is unsettled. -/
theorem recoverUnallocatedRewards_solvent {sender : Sender} {dst : Address}
    (h : s.recoverUnallocatedRewards src sender dst = .ok s') : s'.Solvent := by
  obtain ⟨-, s₀, hbody, rfl⟩ := lock_eq_ok.mp h
  simp only [bind_eq_ok, require_eq_ok, Uint256.sub_eq_ok, pure_eq_ok] at hbody
  obtain ⟨_, -, _, -, ⟨s₁, reward⟩, hsync, _, hzero, _, ⟨hle, rfl⟩, _, -, _, ⟨-, rfl⟩, tokens, -,
    rfl⟩ := hbody
  have hs₁ := syncRewardsFrom_solvent (hs.frame _ _ _ 0 _) hsync
  dsimp only at hzero hle
  refine Solvent.frame (s := { s₁ with
    queuedRewards := 0
    rewardReserve := s₁.rewardReserve - (s₁.rewardReserve - s₁.pendingUserRewards) })
    ⟨⟨hs₁.staked, hs₁.pending, hs₁.snapshot⟩, ?_⟩ _ _ _ 1 tokens
  have hnone : s₁.unsettled = 0 := by
    refine Finset.sum_eq_zero fun b _ => ?_
    have hbalance := hs₁.balance_le b
    rw [hzero, Nat.le_zero] at hbalance
    rw [hbalance, Nat.zero_mul]
  simp only [unsettled] at hnone
  simp only [CoveredWith, unsettled, hnone, Nat.sub_sub_self hle, Nat.zero_add]
  omega

/-- The step lemma: a transaction that forgets no dust keeps the pool solvent. -/
theorem exec_solvent {op : Op} (hdust : s.ForgetsNoDust op) (h : s.exec op = .ok s') :
    s'.Solvent := by
  cases op with
  | stake src sender amount => exact stake_solvent hs hdust h
  | withdraw src sender amount => exact withdraw_solvent hs hdust h
  | getReward src sender => exact getReward_solvent hs h
  | exit src sender => exact exit_solvent hs hdust h
  | notifyRewardAmount src sender reward => exact notifyRewardAmount_solvent hs h
  | syncRewards src => exact syncRewards_solvent hs h
  | recoverUnallocatedRewards src sender dst => exact recoverUnallocatedRewards_solvent hs h
  | transferOwnership sender newOwner =>
    simp only [exec, transferOwnership, bind_eq_ok, require_eq_ok, pure_eq_ok] at h
    obtain ⟨_, -, _, -, rfl⟩ := h
    exact hs.frame newOwner _ _ _ _
  | setRewardSource sender newRewardSource =>
    simp only [exec, setRewardSource, bind_eq_ok, require_eq_ok, pure_eq_ok] at h
    obtain ⟨_, -, _, -, _, -, rfl⟩ := h
    exact hs.frame _ newRewardSource _ _ _
  | setRewardNotifier sender newRewardNotifier =>
    simp only [exec, setRewardNotifier, bind_eq_ok, require_eq_ok, pure_eq_ok] at h
    obtain ⟨_, -, _, -, _, -, _, -, rfl⟩ := h
    exact hs.frame _ _ newRewardNotifier _ _
  | setRewardConfiguration sender newRewardSource newRewardNotifier =>
    simp only [exec, setRewardConfiguration, bind_eq_ok, require_eq_ok, pure_eq_ok] at h
    obtain ⟨_, -, _, -, _, -, rfl⟩ := h
    exact hs.frame _ newRewardSource newRewardNotifier _ _
  | tokenTransfer sender token dst amount =>
    simp only [exec, bind_eq_ok, require_eq_ok, pure_eq_ok] at h
    obtain ⟨_, -, tokens, -, rfl⟩ := h
    exact hs.frame _ _ _ _ tokens
  | tokenApprove sender token spender amount =>
    simp only [exec, bind_eq_ok, require_eq_ok, pure_eq_ok] at h
    obtain ⟨_, -, rfl⟩ := h
    exact hs.frame _ _ _ _ _

end Step

/-- The run lemma: a run in which no transaction forgets dust stays solvent. -/
theorem reachable_solvent (h : system.ReachableWith ForgetsNoDust s) : s.Solvent := by
  refine System.ReachableWith.invariant (I := Solvent) ?_ ?_ h
  · exact fun s hinit => hinit.solvent
  · exact fun s op s' hs hok hstep => exec_solvent hs hok hstep

end StakingRewards
