-- SUMMARY: What every transaction of the staking pool does for one account's rewards and for the backing of all rewards.
import FluxSwap.Staking.Structure
import FluxSwap.Lib.ProRata

/-!
# Distribution, transaction by transaction

A transaction is made of a few parts: rewards arrive and are spread, an account is settled,
restaked or paid, the queue is recovered. For one account, and for the pool as a whole, every
part satisfies the same relation, and the relation composes. No transaction needs to keep the
pool solvent for this: what is missing is carried along as a number of units that would have
to be added to the reserve.
-/

namespace StakingRewards

open Exec

variable {s s' x : StakingRewards} {a b : Address} {src : RewardSource}

/-! ## Backing -/

/-- The pool with `n` more units in its reserve. -/
def backed (s : StakingRewards) (n : Nat) : StakingRewards :=
  { s with rewardReserve := s.rewardReserve + n }

theorem Solvent.books_of_backed {n : Nat} (h : (s.backed n).Solvent) : s.Books :=
  ⟨h.staked, h.pending, h.snapshot⟩

theorem received_backed (s : StakingRewards) (tokens : Tokens) (reward n : Nat) :
    (s.received tokens reward).backed n = (s.backed n).received tokens reward := by
  simp only [backed, received, Nat.add_right_comm]

theorem raise_backed (s : StakingRewards) (increment queued n : Nat) :
    (s.raise increment queued).backed n = (s.backed n).raise increment queued := rfl

theorem received_spread_backed (s : StakingRewards) (tokens : Tokens) (reward n : Nat) :
    ((s.received tokens reward).spread reward).backed n =
      ((s.backed n).received tokens reward).spread reward := by
  rw [← received_backed, spread, spread, raise_backed]
  rfl

/-- Dropping queued rewards sets free as many units of the backing. -/
theorem Solvent.drop {n d queued : Nat} (h : (s.backed n).Solvent) (hd : d ≤ n)
    (hqueued : queued + d = s.queuedRewards) :
    Solvent (backed { s with queuedRewards := queued } (n - d)) := by
  refine ⟨⟨h.staked, h.pending, h.snapshot⟩, ?_⟩
  have hcovered := h.covered
  have hle := Nat.mul_le_mul_left precision hd
  simp only [CoveredWith, unsettled, dust, backed, ← hqueued, Nat.zero_add, Nat.mul_add, Nat.mul_sub]
    at hcovered ⊢
  omega

/-- A change of the total stake forgets less than one unit. -/
theorem Solvent.restaked_backed {n balance total : Nat} (h : (s.backed n).Solvent)
    (hpaid : s.userRewardPerTokenPaid a = s.rewardPerTokenStored)
    (htotal : total + s.balanceOf a = s.totalStaked + balance) (tokens : Tokens) :
    ((s.restaked a balance total tokens).backed (n + 1)).Solvent := by
  have hb := h.books_of_backed.restaked htotal tokens
  refine ⟨⟨hb.staked, hb.pending, hb.snapshot⟩, ?_⟩
  have hsame : ∑ b, Function.update s.balanceOf a balance b *
      (s.rewardPerTokenStored - s.userRewardPerTokenPaid b) = s.unsettled := by
    refine Finset.sum_congr rfl fun b _ => ?_
    by_cases hb : b = a
    · subst hb
      simp [hpaid]
    · rw [Function.update_of_ne hb]
  have hcovered := h.covered
  have hdust : s.dust < precision := s.dust_lt
  have hunsettled : (s.backed n).unsettled = s.unsettled := rfl
  have hunsettled' :
      ((s.restaked a balance total tokens).backed (n + 1)).unsettled = s.unsettled := hsame
  unfold CoveredWith at hcovered ⊢
  rw [hunsettled] at hcovered
  rw [hunsettled']
  simp only [backed, restaked, dust, Nat.zero_add, Nat.mul_add, Nat.mul_one] at hcovered hdust ⊢
  omega

theorem Solvent.paid_backed {n : Nat} (h : (s.backed n).Solvent)
    (hreserve : s.rewards a ≤ s.rewardReserve) (hpending : s.rewards a ≤ s.pendingUserRewards)
    (tokens : Tokens) : ((s.paid a tokens).backed n).Solvent := by
  have hb := h.books_of_backed.paid a tokens
  refine ⟨⟨hb.staked, hb.pending, hb.snapshot⟩, ?_⟩
  have hcovered := h.covered
  have hle := Nat.mul_le_mul_left precision hreserve
  have hle' := Nat.mul_le_mul_left precision hpending
  simp only [CoveredWith, unsettled, dust, backed, paid, Nat.zero_add, Nat.mul_add, Nat.mul_sub]
    at hcovered ⊢
  omega

/-- With nothing staked, the pending rewards alone need to be covered. -/
theorem Solvent.recovered_backed {n : Nat} (h : (s.backed n).Solvent) (hnone : s.totalStaked = 0) :
    Solvent (backed { s with
      queuedRewards := 0
      rewardReserve := s.pendingUserRewards } n) := by
  refine ⟨⟨h.staked, h.pending, h.snapshot⟩, ?_⟩
  have hunsettled : s.unsettled = 0 := by
    refine Finset.sum_eq_zero fun b _ => ?_
    have hbalance := h.books_of_backed.balance_le b
    rw [hnone, Nat.le_zero] at hbalance
    rw [hbalance, Nat.zero_mul]
  simp only [unsettled] at hunsettled
  simp only [CoveredWith, unsettled, backed, hunsettled, Nat.zero_add, Nat.mul_add]
  omega

/-! ## What a part of a transaction does -/

/-- The amounts of a part of a transaction: the rewards that arrive, those that the account
    takes, the times that it is settled, the queue that is recovered, and the changes of stakes. -/
structure Amounts where
  arrived   : Nat := 0
  taken     : Nat := 0
  settled   : Nat := 0
  recovered : Nat := 0
  restaked  : Nat := 0

def Amounts.add (m m' : Amounts) : Amounts where
  arrived := m.arrived + m'.arrived
  taken := m.taken + m'.taken
  settled := m.settled + m'.settled
  recovered := m.recovered + m'.recovered
  restaked := m.restaked + m'.restaked

/-- What an account is owed, in units of `1 / precision` of a reward. -/
def scaledEntitlement (s : StakingRewards) (a : Address) : Nat :=
  precision * s.rewards a + s.balanceOf a * (s.rewardPerTokenStored - s.userRewardPerTokenPaid a)

/-- The whole rewards that the accumulator has handed out to a total stake. -/
def handed (s : StakingRewards) (total : Nat) : Nat :=
  ProRata.handed precision s.rewardPerTokenStored total

/-- For an account that weighs `weight` of `total`: it accrues its weight times the growth of
    the accumulator and loses less than one unit with a settlement. What is handed out has
    arrived or was queued; a change of a stake costs the backing one unit at most. -/
structure Distributes (a : Address) (weight total : Nat) (m : Amounts) (s s' : StakingRewards) :
    Prop where
  books : s'.Books
  grows : s.rewardPerTokenStored ≤ s'.rewardPerTokenStored
  upper : precision * m.taken + s'.scaledEntitlement a ≤
    s.scaledEntitlement a + weight * (s'.rewardPerTokenStored - s.rewardPerTokenStored)
  lower : s.scaledEntitlement a + weight * (s'.rewardPerTokenStored - s.rewardPerTokenStored) ≤
    precision * (m.taken + m.settled) + s'.scaledEntitlement a
  spends : s'.handed total + s'.queuedRewards + m.recovered ≤
    s.handed total + s.queuedRewards + m.arrived
  backing : ∀ n, (s.backed n).Solvent → ∃ n', (s'.backed n').Solvent ∧
    s.handed total + s.queuedRewards + m.arrived + n' ≤
      s'.handed total + s'.queuedRewards + m.recovered + n + m.restaked

variable {weight total : Nat} {m m' : Amounts}

theorem Distributes.trans (h : Distributes a weight total m s x)
    (h' : Distributes a weight total m' x s') : Distributes a weight total (m.add m') s s' := by
  have hgrowth : weight * (s'.rewardPerTokenStored - s.rewardPerTokenStored) =
      weight * (x.rewardPerTokenStored - s.rewardPerTokenStored) +
        weight * (s'.rewardPerTokenStored - x.rewardPerTokenStored) := by
    have := h.grows
    have := h'.grows
    rw [← Nat.mul_add]
    congr 1
    omega
  have hupper := h.upper
  have hlower := h.lower
  have hspends := h.spends
  have hupper' := h'.upper
  have hlower' := h'.lower
  have hspends' := h'.spends
  refine ⟨h'.books, h.grows.trans h'.grows, ?_, ?_, ?_, ?_⟩
  · simp only [hgrowth, Amounts.add, Nat.mul_add]
    omega
  · simp only [hgrowth, Amounts.add, Nat.mul_add] at hlower hlower' ⊢
    omega
  · simp only [Amounts.add]
    omega
  · intro n hn
    obtain ⟨n₁, hn₁, hle₁⟩ := h.backing n hn
    obtain ⟨n₂, hn₂, hle₂⟩ := h'.backing n₁ hn₁
    refine ⟨n₂, hn₂, ?_⟩
    simp only [Amounts.add]
    omega

/-- Where the accumulator stays, the account's weight does not matter. -/
theorem Distributes.still (weight total : Nat) (hbooks : s'.Books)
    (haccumulator : s'.rewardPerTokenStored = s.rewardPerTokenStored)
    (hupper : precision * m.taken + s'.scaledEntitlement a ≤ s.scaledEntitlement a)
    (hlower : s.scaledEntitlement a ≤ precision * (m.taken + m.settled) + s'.scaledEntitlement a)
    (hqueue : s'.queuedRewards + m.recovered ≤ s.queuedRewards + m.arrived)
    (hbacking : ∀ n, (s.backed n).Solvent → ∃ n', (s'.backed n').Solvent ∧
      s.queuedRewards + m.arrived + n' ≤ s'.queuedRewards + m.recovered + n + m.restaked) :
    Distributes a weight total m s s' := by
  have hhanded : s'.handed total = s.handed total := by rw [handed, handed, haccumulator]
  refine ⟨hbooks, haccumulator.ge, ?_, ?_, ?_, ?_⟩
  · rw [haccumulator, Nat.sub_self, Nat.mul_zero]
    exact hupper
  · rw [haccumulator, Nat.sub_self, Nat.mul_zero]
    exact hlower
  · rw [hhanded]
    omega
  · intro n hn
    obtain ⟨n', hn', hle⟩ := hbacking n hn
    refine ⟨n', hn', ?_⟩
    rw [hhanded]
    omega

/-- Where the account's entitlement stays as well, only the queue and the backing matter. -/
theorem Distributes.untouched (weight total : Nat) (hbooks : s'.Books)
    (haccumulator : s'.rewardPerTokenStored = s.rewardPerTokenStored)
    (hentitlement : s'.scaledEntitlement a = s.scaledEntitlement a) (htaken : m.taken = 0)
    (hqueue : s'.queuedRewards + m.recovered ≤ s.queuedRewards + m.arrived)
    (hbacking : ∀ n, (s.backed n).Solvent → ∃ n', (s'.backed n').Solvent ∧
      s.queuedRewards + m.arrived + n' ≤ s'.queuedRewards + m.recovered + n + m.restaked) :
    Distributes a weight total m s s' := by
  refine .still weight total hbooks haccumulator ?_ ?_ hqueue hbacking
  · rw [hentitlement, htaken, Nat.mul_zero, Nat.zero_add]
  · rw [hentitlement]
    exact Nat.le_add_left _ _

/-- Where only fields change that no reward depends on. -/
theorem Distributes.frame (weight total : Nat) (hb : s.Books) (a owner source notifier : Address)
    (unlocked : Nat) (tokens : Tokens) :
    Distributes a weight total {} s { s with
      owner := owner
      rewardSource := source
      rewardNotifier := notifier
      unlocked := unlocked
      tokens := tokens } := by
  refine .untouched weight total ⟨hb.staked, hb.pending, hb.snapshot⟩ rfl rfl rfl le_rfl ?_
  intro n hn
  exact ⟨n, hn.frame owner source notifier unlocked tokens, le_rfl⟩

/-- An account weighs what it has staked of the total, or nothing is staked. -/
def Weighs (a : Address) (weight total : Nat) (s : StakingRewards) : Prop :=
  s.totalStaked = 0 ∨ (s.balanceOf a = weight ∧ s.totalStaked = total)

theorem SameStakes.weighs (h : SameStakes s s') (hw : s.Weighs a weight total) :
    s'.Weighs a weight total := by
  unfold Weighs
  rw [h.totalStaked, h.balanceOf]
  exact hw

theorem Books.received (hb : s.Books) (tokens : Tokens) (reward : Nat) :
    (s.received tokens reward).Books := ⟨hb.staked, hb.pending, hb.snapshot⟩

theorem raise_rewards (s : StakingRewards) (increment queued : Nat) :
    (s.raise increment queued).rewards = s.rewards := rfl

theorem raise_userRewardPerTokenPaid (s : StakingRewards) (increment queued : Nat) :
    (s.raise increment queued).userRewardPerTokenPaid = s.userRewardPerTokenPaid := rfl

theorem spread_rewards (s : StakingRewards) (incoming : Nat) :
    (s.spread incoming).rewards = s.rewards := by
  rw [spread, raise_rewards]

theorem spread_userRewardPerTokenPaid (s : StakingRewards) (incoming : Nat) :
    (s.spread incoming).userRewardPerTokenPaid = s.userRewardPerTokenPaid := by
  rw [spread, raise_userRewardPerTokenPaid]

/-- The increment accrues on the account's stake. -/
theorem spread_scaledEntitlement (incoming : Nat)
    (hsnapshot : s.userRewardPerTokenPaid a ≤ s.rewardPerTokenStored) :
    (s.spread incoming).scaledEntitlement a =
      s.scaledEntitlement a + s.balanceOf a * s.increment incoming := by
  unfold scaledEntitlement
  rw [spread_rewards, spread_userRewardPerTokenPaid, spread_balanceOf, spread_rewardPerTokenStored,
    Nat.sub_add_comm hsnapshot, Nat.mul_add, Nat.add_assoc]

/-- What is handed out to the total stake leaves the queue. -/
theorem spread_handed (s : StakingRewards) (incoming : Nat) :
    (s.spread incoming).handed s.totalStaked + (s.spread incoming).queuedRewards =
      s.handed s.totalStaked + s.queuedRewards + incoming := by
  have hle := Rounding.sub_div_le (x := s.rewardPerTokenStored * s.totalStaked) (d := precision)
    precision_pos (s.increment_mul_le incoming)
  have hmono := ProRata.handed_mono precision s.totalStaked
    (Nat.le_add_right s.rewardPerTokenStored (s.increment incoming))
  rw [spread_queuedRewards, handed, handed, spread_rewardPerTokenStored]
  unfold ProRata.handed at *
  rw [Nat.add_mul] at hmono ⊢
  omega

theorem received_scaledEntitlement (s : StakingRewards) (tokens : Tokens) (reward : Nat) :
    (s.received tokens reward).scaledEntitlement a = s.scaledEntitlement a := by
  simp only [scaledEntitlement, received]

theorem received_handed (s : StakingRewards) (tokens : Tokens) (reward : Nat) :
    (s.received tokens reward).handed total = s.handed total := by
  simp only [handed, received]

/-- Rewards that arrive are spread with the queue. -/
theorem received_spread_distributes (hb : s.Books) (hw : s.Weighs a weight total) (tokens : Tokens)
    (reward : Nat) :
    Distributes a weight total { arrived := reward } s
      ((s.received tokens reward).spread reward) := by
  have hbooks : ((s.received tokens reward).spread reward).Books :=
    (hb.received tokens reward).raise _ _
  have hbacking : ∀ n, (s.backed n).Solvent →
      (((s.received tokens reward).spread reward).backed n).Solvent := by
    intro n hn
    rw [received_spread_backed]
    exact hn.received_spread tokens reward
  have hacc : ((s.received tokens reward).spread reward).rewardPerTokenStored =
      s.rewardPerTokenStored + (s.received tokens reward).increment reward :=
    spread_rewardPerTokenStored _ _
  have hentitlement : ((s.received tokens reward).spread reward).scaledEntitlement a =
      s.scaledEntitlement a + s.balanceOf a * (s.received tokens reward).increment reward := by
    rw [spread_scaledEntitlement reward ((hb.received tokens reward).snapshot a),
      received_scaledEntitlement, received]
  rcases hw with hnone | ⟨rfl, rfl⟩
  -- nobody has staked: the rewards stay in the queue
  · have hzero : (s.received tokens reward).increment reward = 0 := by
      simp [increment, received, hnone]
    have hqueue : ((s.received tokens reward).spread reward).queuedRewards =
        reward + s.queuedRewards := by
      rw [spread_eq_of_increment_eq_zero hzero, received]
    rw [hzero, Nat.add_zero] at hacc
    rw [hzero, Nat.mul_zero, Nat.add_zero] at hentitlement
    refine .untouched weight total hbooks hacc hentitlement rfl ?_ ?_
    · rw [hqueue]
      dsimp only
      omega
    · intro n hn
      refine ⟨n, hbacking n hn, ?_⟩
      rw [hqueue]
      dsimp only
      omega
  -- otherwise what the index hands out has left the queue
  · have hgrowth : ((s.received tokens reward).spread reward).rewardPerTokenStored -
        s.rewardPerTokenStored = (s.received tokens reward).increment reward := by
      rw [hacc, Nat.add_sub_cancel_left]
    have hqueue : ((s.received tokens reward).spread reward).handed s.totalStaked +
        ((s.received tokens reward).spread reward).queuedRewards =
          s.handed s.totalStaked + s.queuedRewards + reward := by
      have hspread := (s.received tokens reward).spread_handed reward
      rw [received_handed] at hspread
      exact hspread
    refine ⟨hbooks, ?_, ?_, ?_, ?_, ?_⟩
    · rw [hacc]
      exact Nat.le_add_right _ _
    · rw [hentitlement, hgrowth]
      exact (Nat.zero_add _).le
    · rw [hentitlement, hgrowth]
      exact (Nat.zero_add _).ge
    · dsimp only
      omega
    · intro n hn
      refine ⟨n, hbacking n hn, ?_⟩
      dsimp only
      omega

/-- Spreading the queue again. -/
theorem spread_distributes (hb : s.Books) (hw : s.Weighs a weight total) :
    Distributes a weight total {} s (s.spread 0) := by
  have hsame : (s.received s.tokens 0).spread 0 = s.spread 0 := by
    rw [received, Nat.add_zero]
  rw [← hsame]
  exact received_spread_distributes hb hw s.tokens 0

/-- The manager's payment is spread. -/
theorem syncRewardsFrom_distributes {reward : Nat} (hb : s.Books) (hw : s.Weighs a weight total)
    (h : s.syncRewardsFrom src = .ok (s', reward)) :
    Distributes a weight total { arrived := s.claimed src } s s' ∧ SameStakes s s' ∧
      s'.rewardReserve = s.rewardReserve + s.claimed src := by
  obtain ⟨tokens, -, ⟨hnone, rfl⟩ | ⟨-, -, rfl⟩⟩ := syncRewardsFrom_cases h
  · rw [hnone]
    exact ⟨.frame _ _ hb _ _ _ _ _ tokens, ⟨rfl, rfl, rfl, rfl, rfl⟩, rfl⟩
  · exact ⟨received_spread_distributes hb hw tokens _, (SameStakes.received s tokens _).trans
      (.spread _ _), spread_rewardReserve _ _⟩

/-- A settlement books the whole units that the account has accrued. The queue is cut down to
    what the reserve still has. -/
theorem updateReward_distributes (weight total : Nat) (hb : s.Books) (hne : b ≠ Address.zero)
    (h : s.updateReward b = .ok s') :
    Distributes a weight total { settled := if b = a then 1 else 0 } s s' ∧ SameStakes s s' ∧
      s'.rewardReserve = s.rewardReserve ∧ s'.userRewardPerTokenPaid b = s'.rewardPerTokenStored := by
  obtain ⟨hreserve, rfl⟩ := updateReward_cases hne h
  refine ⟨?_, ⟨rfl, rfl, rfl, rfl, rfl⟩, rfl, credited_paid s b⟩
  have hcut := Nat.min_le_left s.queuedRewards
    (s.rewardReserve - (s.pendingUserRewards + s.accrued b))
  have hbooks := hb.credited b
  have hbacking : ∀ n, (s.backed n).Solvent → ∃ n', Solvent (backed { s.credited b with
      queuedRewards :=
        min s.queuedRewards (s.rewardReserve - (s.pendingUserRewards + s.accrued b)) } n') ∧
      s.queuedRewards + n' ≤
        min s.queuedRewards (s.rewardReserve - (s.pendingUserRewards + s.accrued b)) + n := by
    intro n hn
    have haccrued : s.queuedRewards + s.pendingUserRewards + s.accrued b ≤ s.rewardReserve + n :=
      hn.accrued_le b
    have hdropped : s.queuedRewards -
        min s.queuedRewards (s.rewardReserve - (s.pendingUserRewards + s.accrued b)) ≤ n := by
      omega
    have hcredited : ((s.credited b).backed n).Solvent := hn.credited b
    exact ⟨_, hcredited.drop hdropped (Nat.add_sub_of_le hcut), by omega⟩
  -- the fraction that the floor cuts off is less than one unit
  have hfloor := Nat.div_add_mod
    (s.balanceOf b * (s.rewardPerTokenStored - s.userRewardPerTokenPaid b)) precision
  have hfraction := Nat.mod_lt
    (s.balanceOf b * (s.rewardPerTokenStored - s.userRewardPerTokenPaid b)) precision_pos
  have hentitlement : (s.credited b).scaledEntitlement a ≤ s.scaledEntitlement a ∧
      s.scaledEntitlement a ≤ precision * (if b = a then 1 else 0) +
        (s.credited b).scaledEntitlement a := by
    by_cases hab : b = a
    · subst hab
      have hbooked : (s.credited b).scaledEntitlement b =
          precision * s.rewards b + precision * s.accrued b := by
        have hpaid := credited_paid s b
        unfold scaledEntitlement
        rw [hpaid]
        simp [credited, Nat.mul_add]
      rw [hbooked, if_pos rfl]
      unfold scaledEntitlement accrued
      omega
    · have hsame : (s.credited b).scaledEntitlement a = s.scaledEntitlement a := by
        unfold scaledEntitlement credited
        simp [Function.update_of_ne (Ne.symm hab)]
      rw [hsame, if_neg hab]
      omega
  refine .still _ _ ⟨hbooks.staked, hbooks.pending, hbooks.snapshot⟩ rfl ?_ ?_ hcut hbacking
  · exact (Nat.zero_add _).le.trans hentitlement.1
  · rw [Nat.zero_add]
    exact hentitlement.2

theorem Distributes.congr (h : Distributes a weight total m s s') (heq : m = m') :
    Distributes a weight total m' s s' := heq ▸ h

/-- What `stake`, `withdraw` and `exit` do first. -/
theorem settle_distributes (hb : s.Books) (hw : s.Weighs a weight total) (hne : b ≠ Address.zero)
    (h : s.settle src b = .ok s') :
    Distributes a weight total { arrived := s.claimed src, settled := if b = a then 1 else 0 } s s' ∧
      s'.rewardReserve = s.rewardReserve + s.claimed src ∧
      s'.userRewardPerTokenPaid b = s'.rewardPerTokenStored := by
  unfold settle at h
  obtain ⟨⟨s₁, reward⟩, hsync, h⟩ := bind_eq_ok.mp h
  obtain ⟨s₂, hflush, hupdate⟩ := bind_eq_ok.mp h
  obtain rfl := flushQueuedRewards_eq hflush
  obtain ⟨hd₁, hsame, hreserve₁⟩ := syncRewardsFrom_distributes hb hw hsync
  have hd₂ := spread_distributes hd₁.books (hsame.weighs hw)
  obtain ⟨hd₃, -, hreserve₃, hpaid⟩ := updateReward_distributes weight total hd₂.books hne hupdate
  refine ⟨((hd₁.trans hd₂).trans hd₃).congr ?_, ?_, hpaid⟩
  · simp only [Amounts.add, Nat.add_zero, Nat.zero_add]
  · rw [hreserve₃, spread_rewardReserve, hreserve₁]

/-- A settled account's rewards do not depend on its stake. -/
theorem restaked_distributes (weight total : Nat) (hb : s.Books)
    (hpaid : s.userRewardPerTokenPaid b = s.rewardPerTokenStored) {balance newTotal : Nat}
    (htotal : newTotal + s.balanceOf b = s.totalStaked + balance) (tokens : Tokens) :
    Distributes a weight total { restaked := 1 } s (s.restaked b balance newTotal tokens) := by
  have hsame : (s.restaked b balance newTotal tokens).scaledEntitlement a =
      s.scaledEntitlement a := by
    unfold scaledEntitlement restaked
    by_cases hab : a = b
    · subst hab
      simp [hpaid]
    · simp [Function.update_of_ne hab]
  refine .untouched _ _ (hb.restaked htotal tokens) rfl hsame rfl le_rfl ?_
  intro n hn
  exact ⟨n + 1, hn.restaked_backed hpaid htotal tokens, le_rfl⟩

/-- The payment of an account's booked rewards. -/
theorem payReward_distributes (weight total : Nat) (hb : s.Books) (h : s.payReward b = .ok s') :
    Distributes a weight total { taken := if b = a then s.rewardReserve - s'.rewardReserve else 0 }
        s s' ∧ SameStakes s s' := by
  obtain rfl | ⟨hreserve, hpending, tokens, -, rfl⟩ := payReward_cases h
  · rw [Nat.sub_self, ite_self]
    exact ⟨.frame _ _ hb _ _ _ _ _ _, rfl, rfl, rfl, rfl, rfl⟩
  refine ⟨?_, rfl, rfl, rfl, rfl, rfl⟩
  have hfall : s.rewardReserve - (s.paid b tokens).rewardReserve = s.rewards b :=
    Nat.sub_sub_self hreserve
  have hentitlement : precision * (if b = a then s.rewards b else 0) +
      (s.paid b tokens).scaledEntitlement a = s.scaledEntitlement a := by
    unfold scaledEntitlement paid
    by_cases hab : b = a
    · subst hab
      simp
    · simp [hab, Function.update_of_ne (Ne.symm hab)]
  rw [hfall]
  exact .still _ _ (hb.paid b tokens) rfl hentitlement.le hentitlement.ge le_rfl fun n hn =>
    ⟨n, hn.paid_backed hreserve hpending tokens, le_rfl⟩

/-- With nothing staked, what arrives is queued. -/
theorem syncRewardsFrom_queuedRewards {reward : Nat} (hnone : s.totalStaked = 0)
    (h : s.syncRewardsFrom src = .ok (s', reward)) :
    s'.queuedRewards = s.queuedRewards + s.claimed src := by
  obtain ⟨tokens, -, ⟨hzero, rfl⟩ | ⟨-, -, rfl⟩⟩ := syncRewardsFrom_cases h
  · rw [hzero, Nat.add_zero]
  · have hincrement : (s.received tokens (s.claimed src)).increment (s.claimed src) = 0 := by
      simp [increment, received, hnone]
    rw [spread_eq_of_increment_eq_zero hincrement]
    exact Nat.add_comm (s.claimed src) s.queuedRewards

/-- The recovery of the queue leaves what is pending. -/
theorem recovered_distributes (weight total : Nat) (hb : s.Books) (hnone : s.totalStaked = 0)
    (hpending : s.pendingUserRewards ≤ s.rewardReserve) (tokens : Tokens) :
    Distributes a weight total { recovered := s.queuedRewards } s { s with
      queuedRewards := 0
      rewardReserve := s.rewardReserve - (s.rewardReserve - s.pendingUserRewards)
      tokens := tokens } := by
  have hentitlement : scaledEntitlement { s with
      queuedRewards := 0
      rewardReserve := s.rewardReserve - (s.rewardReserve - s.pendingUserRewards)
      tokens := tokens } a = s.scaledEntitlement a := by
    simp only [scaledEntitlement]
  rw [Nat.sub_sub_self hpending] at hentitlement ⊢
  refine .untouched _ _ ⟨hb.staked, hb.pending, hb.snapshot⟩ rfl hentitlement rfl ?_ ?_
  · dsimp only
    omega
  · intro n hn
    refine ⟨n, (hn.recovered_backed hnone).frame _ _ _ _ tokens, ?_⟩
    dsimp only
    omega

/-! ## Every transaction -/

theorem Books.opened (hb : s.Books) : Books { s with unlocked := 0 } :=
  ⟨hb.staked, hb.pending, hb.snapshot⟩

/-- Opening and closing the lock does nothing for the rewards. -/
theorem Distributes.locked (h : Distributes a weight total m { s with unlocked := 0 } s') :
    Distributes a weight total m s { s' with unlocked := 1 } := by
  refine ⟨⟨h.books.staked, h.books.pending, h.books.snapshot⟩, h.grows, h.upper, h.lower, h.spends,
    ?_⟩
  intro n hn
  obtain ⟨n', hn', hle⟩ := h.backing n (hn.frame _ _ _ 0 _)
  exact ⟨n', hn'.frame _ _ _ 1 _, hle⟩

theorem SameStakes.locked (h : SameStakes { s with unlocked := 0 } s') :
    SameStakes s { s' with unlocked := 1 } :=
  ⟨h.address, h.stakingToken, h.rewardsToken, h.totalStaked, h.balanceOf⟩

section Step

variable {amount : Nat} {sender : Sender} (hb : s.Books)
include hb

/-- A stake divides rewards among the stakes it finds, and the first one takes all of the queue. -/
theorem stake_distributes (hw : s.Weighs a weight total)
    (hfirst : s.totalStaked = 0 → s'.balanceOf a = weight ∧ s'.totalStaked = total)
    (h : s.stake src sender amount = .ok s') :
    Distributes a weight total
      { arrived := s.claimed src, settled := if sender.1 = a then 1 else 0, restaked := 1 } s s' := by
  obtain ⟨-, s₀, hbody, rfl⟩ := lock_eq_ok.mp h
  obtain ⟨s₁, hsettle, hbody⟩ := bind_eq_ok.mp hbody
  obtain ⟨hd, -, hpaid⟩ := settle_distributes hb.opened hw sender.2 hsettle
  simp only [bind_eq_ok, require_eq_ok, Uint256.add_eq_ok] at hbody
  obtain ⟨_, -, _, ⟨-, rfl⟩, _, ⟨-, rfl⟩, tokens, -, hbody⟩ := hbody
  have hrestaked := hd.trans (restaked_distributes weight total hd.books hpaid
    (show s₁.totalStaked + amount + s₁.balanceOf sender =
      s₁.totalStaked + (s₁.balanceOf sender + amount) by omega) tokens)
  split at hbody
  · rename_i hnone
    obtain rfl := flushQueuedRewards_eq hbody
    have hw' : Weighs a weight total (s₁.restaked sender.1 (s₁.balanceOf sender.1 + amount)
        (s₁.totalStaked + amount) tokens) := .inr (hfirst hnone)
    refine ((hrestaked.trans (spread_distributes hrestaked.books hw')).congr ?_).locked
    simp only [Amounts.add, Nat.add_zero, Nat.zero_add]
    rfl
  · obtain rfl := pure_eq_ok.mp hbody
    refine (hrestaked.congr ?_).locked
    simp only [Amounts.add, Nat.add_zero, Nat.zero_add]
    rfl

theorem withdraw_distributes (hw : s.Weighs a weight total)
    (h : s.withdraw src sender amount = .ok s') :
    Distributes a weight total
      { arrived := s.claimed src, settled := if sender.1 = a then 1 else 0, restaked := 1 } s s' := by
  obtain ⟨-, s₀, hbody, rfl⟩ := lock_eq_ok.mp h
  obtain ⟨s₁, hsettle, hbody⟩ := bind_eq_ok.mp hbody
  obtain ⟨hd, -, hpaid⟩ := settle_distributes hb.opened hw sender.2 hsettle
  simp only [bind_eq_ok, require_eq_ok, Uint256.sub_eq_ok, pure_eq_ok] at hbody
  obtain ⟨_, -, _, -, _, ⟨hle, rfl⟩, _, ⟨hle', rfl⟩, tokens, -, rfl⟩ := hbody
  have hrestaked := hd.trans (restaked_distributes weight total hd.books hpaid
    (show s₁.totalStaked - amount + s₁.balanceOf sender =
      s₁.totalStaked + (s₁.balanceOf sender - amount) by omega) tokens)
  refine (hrestaked.congr ?_).locked
  simp only [Amounts.add, Nat.add_zero, Nat.zero_add]
  rfl

/-- Paying rewards leaves the stakes, and takes from the reserve what the account takes. -/
theorem getReward_distributes (hw : s.Weighs a weight total)
    (h : s.getReward src sender = .ok s') :
    Distributes a weight total
        { arrived := s.claimed src
          taken := if sender.1 = a then s.rewardReserve + s.claimed src - s'.rewardReserve else 0
          settled := if sender.1 = a then 1 else 0 } s s' ∧ SameStakes s s' := by
  obtain ⟨-, s₀, hbody, rfl⟩ := lock_eq_ok.mp h
  obtain ⟨⟨s₁, reward⟩, hsync, hbody⟩ := bind_eq_ok.mp hbody
  obtain ⟨s₂, hupdate, hpay⟩ := bind_eq_ok.mp hbody
  obtain ⟨hd₁, hsame₁, hreserve₁⟩ := syncRewardsFrom_distributes hb.opened hw hsync
  obtain ⟨hd₂, hsame₂, hreserve₂, -⟩ := updateReward_distributes weight total hd₁.books
    sender.2 hupdate
  obtain ⟨hd₃, hsame₃⟩ := payReward_distributes weight total hd₂.books hpay
  rw [hreserve₂, hreserve₁] at hd₃
  refine ⟨(((hd₁.trans hd₂).trans hd₃).congr ?_).locked, ((hsame₁.trans hsame₂).trans hsame₃).locked⟩
  simp only [Amounts.add, Nat.add_zero, Nat.zero_add]
  rfl

/-- At most one stake changes. -/
theorem exit_distributes (hw : s.Weighs a weight total) (h : s.exit src sender = .ok s') :
    ∃ restaked ≤ 1, Distributes a weight total
      { arrived := s.claimed src
        taken := if sender.1 = a then s.rewardReserve + s.claimed src - s'.rewardReserve else 0
        settled := if sender.1 = a then 1 else 0
        restaked := restaked } s s' := by
  obtain ⟨-, s₀, hbody, rfl⟩ := lock_eq_ok.mp h
  obtain ⟨s₁, hsettle, hbody⟩ := bind_eq_ok.mp hbody
  obtain ⟨s₂, hrelease, hpay⟩ := bind_eq_ok.mp hbody
  obtain ⟨hd₁, hreserve₁, hpaid⟩ := settle_distributes hb.opened hw sender.2 hsettle
  have hreleased : ∃ restaked ≤ 1, Distributes a weight total { restaked := restaked } s₁ s₂ ∧
      s₂.rewardReserve = s₁.rewardReserve := by
    unfold releaseStake at hrelease
    split at hrelease
    · simp only [bind_eq_ok, Uint256.sub_eq_ok, pure_eq_ok] at hrelease
      obtain ⟨_, ⟨hle, rfl⟩, tokens, -, rfl⟩ := hrelease
      exact ⟨1, le_rfl, restaked_distributes weight total hd₁.books hpaid
        (show s₁.totalStaked - s₁.balanceOf sender + s₁.balanceOf sender =
          s₁.totalStaked + 0 by omega) tokens, rfl⟩
    · obtain rfl := pure_eq_ok.mp hrelease
      exact ⟨0, Nat.zero_le 1, .frame _ _ hd₁.books _ _ _ _ _ _, rfl⟩
  obtain ⟨restaked, hone, hd₂, hreserve₂⟩ := hreleased
  obtain ⟨hd₃, -⟩ := payReward_distributes weight total hd₂.books hpay
  rw [hreserve₂, hreserve₁] at hd₃
  refine ⟨restaked, hone, (((hd₁.trans hd₂).trans hd₃).congr ?_).locked⟩
  simp only [Amounts.add, Nat.add_zero, Nat.zero_add]
  rfl

theorem notifyRewardAmount_distributes (hw : s.Weighs a weight total)
    (h : s.notifyRewardAmount src sender amount = .ok s') :
    Distributes a weight total { arrived := amount } s s' ∧ SameStakes s s' := by
  obtain ⟨-, s₀, hbody, rfl⟩ := lock_eq_ok.mp h
  simp only [bind_eq_ok, require_eq_ok, Uint256.add_eq_ok, pure_eq_ok] at hbody
  obtain ⟨_, -, _, -, _, -, tokens, -, _, ⟨-, rfl⟩, ⟨s₁, accounted⟩, happly, rfl⟩ := hbody
  obtain rfl := applyRewardAmount_eq happly
  exact ⟨(received_spread_distributes hb.opened hw tokens amount).locked,
    ((SameStakes.received _ tokens amount).trans (.spread _ amount)).locked⟩

theorem syncRewards_distributes (hw : s.Weighs a weight total) (h : s.syncRewards src = .ok s') :
    Distributes a weight total { arrived := s.claimed src } s s' ∧ SameStakes s s' := by
  obtain ⟨-, s₀, hbody, rfl⟩ := lock_eq_ok.mp h
  obtain ⟨⟨s₁, reward⟩, hsync, hbody⟩ := bind_eq_ok.mp hbody
  obtain rfl := pure_eq_ok.mp hbody
  obtain ⟨hd, hsame, -⟩ := syncRewardsFrom_distributes hb.opened hw hsync
  exact ⟨hd.locked, hsame.locked⟩

/-- What is recovered leaves the queue: all of it, with what arrives, since nothing is staked. -/
theorem recoverUnallocatedRewards_distributes {dst : Address} (hw : s.Weighs a weight total)
    (h : s.recoverUnallocatedRewards src sender dst = .ok s') :
    Distributes a weight total
        { arrived := s.claimed src, recovered := s.queuedRewards + s.claimed src } s s' ∧
      SameStakes s s' := by
  obtain ⟨-, s₀, hbody, rfl⟩ := lock_eq_ok.mp h
  simp only [bind_eq_ok, require_eq_ok, Uint256.sub_eq_ok, pure_eq_ok] at hbody
  obtain ⟨_, -, _, -, ⟨s₁, reward⟩, hsync, _, hnone, _, ⟨hle, rfl⟩, _, -, _, ⟨-, rfl⟩, tokens, -,
    rfl⟩ := hbody
  dsimp only at hnone hle
  obtain ⟨hd, hsame, -⟩ := syncRewardsFrom_distributes hb.opened hw hsync
  have hqueue : s₁.queuedRewards = s.queuedRewards + s.claimed src :=
    syncRewardsFrom_queuedRewards (s := { s with unlocked := 0 })
      (hsame.totalStaked.symm.trans hnone) hsync
  have hrecovered := recovered_distributes (a := a) weight total hd.books hnone hle tokens
  rw [hqueue] at hrecovered
  refine ⟨((hd.trans hrecovered).congr ?_).locked, hsame.address, hsame.stakingToken,
    hsame.rewardsToken, hsame.totalStaked, hsame.balanceOf⟩
  simp only [Amounts.add, Nat.add_zero, Nat.zero_add]
  rfl

end Step

/-- The storage whose stakes a transaction divides rewards among: the stakes that it finds, or
    the first one, which it makes itself. -/
def sharing (x s' : StakingRewards) : StakingRewards := if x.totalStaked = 0 then s' else x

theorem sharing_weighs (x s' : StakingRewards) (a : Address) :
    x.Weighs a ((x.sharing s').balanceOf a) (x.sharing s').totalStaked := by
  unfold Weighs sharing
  by_cases hnone : x.totalStaked = 0
  · exact .inl hnone
  · rw [if_neg hnone]
    exact .inr ⟨rfl, rfl⟩

/-- The rewards that arrive with a transaction. -/
def Op.arrived (x : StakingRewards) : Op → Nat
  | .stake src _ _ | .withdraw src _ _ | .getReward src _ | .exit src _ | .syncRewards src
  | .recoverUnallocatedRewards src _ _ => x.claimed src
  | .notifyRewardAmount _ _ reward => reward
  | _ => 0

/-- The rewards that an account takes with a transaction: what the reserve falls by, besides
    what arrives. -/
def Op.taken (a : Address) (x s' : StakingRewards) : Op → Nat
  | .getReward src sender | .exit src sender =>
    if sender.1 = a then x.rewardReserve + x.claimed src - s'.rewardReserve else 0
  | _ => 0

/-- The transaction settles the account. -/
def Op.settles (a : Address) : Op → Bool
  | .stake _ sender _ | .withdraw _ sender _ | .getReward _ sender | .exit _ sender =>
    decide (sender.1 = a)
  | _ => false

/-- The queue that the owner recovers with a transaction. -/
def Op.recovered (x : StakingRewards) : Op → Nat
  | .recoverUnallocatedRewards src _ _ => x.queuedRewards + x.claimed src
  | _ => 0

/-- The transaction may change a stake. -/
def Op.restakes : Op → Bool
  | .stake .. | .withdraw .. | .exit .. => true
  | _ => false

/-- The step lemma. -/
theorem exec_distributes {op : Op} (hb : x.Books) (a : Address) (h : x.exec op = .ok s') :
    (∃ restaked ≤ op.restakes.toNat,
      Distributes a ((x.sharing s').balanceOf a) (x.sharing s').totalStaked
        { arrived := op.arrived x
          taken := op.taken a x s'
          settled := (op.settles a).toNat
          recovered := op.recovered x
          restaked := restaked } x s') ∧
      (op.restakes = false → SameStakes x s') := by
  have hw := x.sharing_weighs s' a
  have hsettles : ∀ sender : Sender, (decide (sender.1 = a)).toNat = if sender.1 = a then 1 else 0 :=
    fun sender => by by_cases hsender : sender.1 = a <;> simp [hsender]
  cases op with
  | stake src sender amount =>
    -- what the first stake releases is shared among the stakes after it
    have hfirst : x.totalStaked = 0 → s'.balanceOf a = (x.sharing s').balanceOf a ∧
        s'.totalStaked = (x.sharing s').totalStaked := by
      intro hnone
      unfold sharing
      rw [if_pos hnone]
      exact ⟨rfl, rfl⟩
    refine ⟨⟨1, le_rfl, (stake_distributes hb hw hfirst h).congr ?_⟩, by simp [Op.restakes]⟩
    simp only [Op.arrived, Op.taken, Op.settles, Op.recovered, hsettles]
  | withdraw src sender amount =>
    refine ⟨⟨1, le_rfl, (withdraw_distributes hb hw h).congr ?_⟩, by simp [Op.restakes]⟩
    simp only [Op.arrived, Op.taken, Op.settles, Op.recovered, hsettles]
  | getReward src sender =>
    obtain ⟨hd, hstakes⟩ := getReward_distributes hb hw h
    refine ⟨⟨0, le_rfl, hd.congr ?_⟩, fun _ => hstakes⟩
    simp only [Op.arrived, Op.taken, Op.settles, Op.recovered, hsettles]
  | exit src sender =>
    obtain ⟨restaked, hone, hd⟩ := exit_distributes hb hw h
    refine ⟨⟨restaked, hone, hd.congr ?_⟩, by simp [Op.restakes]⟩
    simp only [Op.arrived, Op.taken, Op.settles, Op.recovered, hsettles]
  | notifyRewardAmount src sender reward =>
    obtain ⟨hd, hstakes⟩ := notifyRewardAmount_distributes hb hw h
    exact ⟨⟨0, le_rfl, hd⟩, fun _ => hstakes⟩
  | syncRewards src =>
    obtain ⟨hd, hstakes⟩ := syncRewards_distributes hb hw h
    exact ⟨⟨0, le_rfl, hd⟩, fun _ => hstakes⟩
  | recoverUnallocatedRewards src sender dst =>
    obtain ⟨hd, hstakes⟩ := recoverUnallocatedRewards_distributes hb hw h
    exact ⟨⟨0, le_rfl, hd⟩, fun _ => hstakes⟩
  -- the other calls touch neither rewards nor stakes
  | transferOwnership sender newOwner =>
    simp only [exec, transferOwnership, bind_eq_ok, require_eq_ok, pure_eq_ok] at h
    obtain ⟨_, -, _, -, rfl⟩ := h
    exact ⟨⟨0, le_rfl, .frame _ _ hb a newOwner _ _ _ _⟩, fun _ => ⟨rfl, rfl, rfl, rfl, rfl⟩⟩
  | setRewardSource sender newRewardSource =>
    simp only [exec, setRewardSource, bind_eq_ok, require_eq_ok, pure_eq_ok] at h
    obtain ⟨_, -, _, -, _, -, rfl⟩ := h
    exact ⟨⟨0, le_rfl, .frame _ _ hb a _ newRewardSource _ _ _⟩, fun _ => ⟨rfl, rfl, rfl, rfl, rfl⟩⟩
  | setRewardNotifier sender newRewardNotifier =>
    simp only [exec, setRewardNotifier, bind_eq_ok, require_eq_ok, pure_eq_ok] at h
    obtain ⟨_, -, _, -, _, -, _, -, rfl⟩ := h
    exact ⟨⟨0, le_rfl, .frame _ _ hb a _ _ newRewardNotifier _ _⟩,
      fun _ => ⟨rfl, rfl, rfl, rfl, rfl⟩⟩
  | setRewardConfiguration sender newRewardSource newRewardNotifier =>
    simp only [exec, setRewardConfiguration, bind_eq_ok, require_eq_ok, pure_eq_ok] at h
    obtain ⟨_, -, _, -, _, -, rfl⟩ := h
    exact ⟨⟨0, le_rfl, .frame _ _ hb a _ newRewardSource newRewardNotifier _ _⟩,
      fun _ => ⟨rfl, rfl, rfl, rfl, rfl⟩⟩
  | tokenTransfer sender token dst amount =>
    simp only [exec, bind_eq_ok, require_eq_ok, pure_eq_ok] at h
    obtain ⟨_, -, tokens, -, rfl⟩ := h
    exact ⟨⟨0, le_rfl, .frame _ _ hb a _ _ _ _ tokens⟩, fun _ => ⟨rfl, rfl, rfl, rfl, rfl⟩⟩
  | tokenApprove sender token spender amount =>
    simp only [exec, bind_eq_ok, require_eq_ok, pure_eq_ok] at h
    obtain ⟨_, -, rfl⟩ := h
    exact ⟨⟨0, le_rfl, .frame _ _ hb a _ _ _ _ _⟩, fun _ => ⟨rfl, rfl, rfl, rfl, rfl⟩⟩

end StakingRewards
