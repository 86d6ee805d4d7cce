-- SUMMARY: Claims against the view of the reward manager: when a pool is paid exactly what the view reports, and a run in which it is paid less.
import FluxSwap.Manager.Accounting

/-!
# Claims and the view

The view adds to a pool's pending rewards all that the pool has accrued; a claim grants
at most what is free. A distribution makes free the rounded product of its increment and
the total weight, while the pools accrue differences of rounded products of the whole
accumulator. Fractions left by earlier distributions can complete a unit there, and this
unit is carried over as well. The invariant of this file survives exactly the
distributions that leave the pools owed no more than what is free.
-/

namespace MultiPoolManager

open Exec

variable {m m' : MultiPoolManager} {info : PoolInfo} {pid : Nat} {pool sender : Address}

/-! ## The invariant -/

/-- What the pools have accrued and not been granted yet. -/
def outstanding (m : MultiPoolManager) : Nat :=
  (m.pools.map (owing m.accRewardPerAllocStored)).sum

/-- All that is outstanding is free. -/
def Covered (m : MultiPoolManager) : Prop := m.outstanding ≤ m.free

/-- The increment of the accumulator in a distribution. -/
def rewardDelta (m : MultiPoolManager) (totalReward : Nat) : Nat :=
  (totalReward + m.undistributedRewards) * precision / m.totalAllocPoint

/-- A distribution is affordable when what the pools are owed after it is at most what was
    free and what it frees; other transactions always are. -/
def Affordable (m : MultiPoolManager) : Op → Prop
  | .distributeRewards _ _ totalReward =>
    (m.pools.map (owing (m.accRewardPerAllocStored + m.rewardDelta totalReward))).sum ≤
      m.free + m.rewardDelta totalReward * m.totalAllocPoint / precision
  | _ => True

instance (m : MultiPoolManager) : (op : Op) → Decidable (m.Affordable op)
  | .distributeRewards .. => inferInstanceAs (Decidable (_ ≤ _))
  | .addPool .. | .deactivatePool .. | .setPool .. | .claimPoolRewards .. | .recoverToken ..
  | .setTreasury .. | .setPoolFactory .. | .pause .. | .unpause .. | .administer ..
  | .tokenTransfer .. | .tokenTransferFrom .. | .tokenApprove .. => instDecidableTrue

theorem owing_granting (accumulator granted : Nat) (info : PoolInfo) :
    owing accumulator (granting accumulator granted info) = 0 := Nat.sub_self _

theorem Covered.owing_le (h : m.Covered) (hinfo : m.pools[pid]? = some info) :
    owing m.accRewardPerAllocStored info ≤ m.free := by
  have hpart : owing m.accRewardPerAllocStored info ≤ m.outstanding :=
    List.single_le_sum (fun _ _ => Nat.zero_le _) _
      (List.mem_map_of_mem (List.mem_of_getElem? hinfo))
  exact hpart.trans h

/-- Where all is covered, a pool is granted what it is owed. -/
theorem Covered.accruePool_cases {reward : Nat} (h : m.Covered)
    (haccrue : m.accruePool pid = .ok (m', reward)) :
    ∃ info, m.pools[pid]? = some info ∧
      reward = info.pendingRewards + owing m.accRewardPerAllocStored info ∧
      m' = m.accrued pid info (owing m.accRewardPerAllocStored info) := by
  obtain ⟨info, hinfo, hreward, hm'⟩ := MultiPoolManager.accruePool_cases haccrue
  rw [Nat.min_eq_left (h.owing_le hinfo)] at hreward hm'
  exact ⟨info, hinfo, hreward, hm'⟩

/-- A pool that is rewritten so that it is owed nothing leaves the others covered. -/
theorem outstanding_set {info' : PoolInfo} (hinfo : m.pools[pid]? = some info)
    (hsettled : owing m.accRewardPerAllocStored info' = 0) :
    ((m.pools.set pid info').map (owing m.accRewardPerAllocStored)).sum +
      owing m.accRewardPerAllocStored info = m.outstanding := by
  rw [List.sum_map_set_add (owing m.accRewardPerAllocStored) hinfo, hsettled]
  rfl

theorem Covered.accrued (h : m.Covered) (hinfo : m.pools[pid]? = some info) :
    (m.accrued pid info (owing m.accRewardPerAllocStored info)).Covered := by
  have hset := outstanding_set hinfo
    (owing_granting m.accRewardPerAllocStored (owing m.accRewardPerAllocStored info) info)
  have hle := h.owing_le hinfo
  unfold Covered at h ⊢
  simp only [free, balance, outstanding, MultiPoolManager.accrued, store] at h hle hset ⊢
  omega

theorem accruePool_covered {reward : Nat} (h : m.Covered)
    (haccrue : m.accruePool pid = .ok (m', reward)) : m'.Covered := by
  obtain ⟨info, hinfo, -, rfl⟩ := h.accruePool_cases haccrue
  exact h.accrued hinfo

/-- Rewriting a pool so that it is owed nothing. -/
theorem Covered.rewrite (h : m.Covered) (info' : PoolInfo) (alloc : Nat)
    (hinfo : m.pools[pid]? = some info) (hsettled : owing m.accRewardPerAllocStored info' = 0) :
    Covered { m.store pid info' with totalAllocPoint := alloc } := by
  have hset := outstanding_set hinfo hsettled
  unfold Covered at h ⊢
  simp only [free, balance, outstanding, store] at h hset ⊢
  omega

/-- A pool that starts now is owed nothing. -/
theorem owing_opening (pool : Address) {allocPoint debt : Nat} (pending : Nat) {active : Bool}
    (h : m.openingDebt allocPoint active = .ok debt) :
    owing m.accRewardPerAllocStored ⟨pool, allocPoint, active, debt, pending⟩ = 0 := by
  unfold owing
  cases active with
  | true =>
    have hdebt := (share_eq_ok.mp h).2
    exact Nat.sub_eq_zero_of_le ((settledDebt_le _ _).trans hdebt.le)
  | false =>
    rw [settledDebt, if_neg (by simp), Nat.zero_sub]

/-! ## Every transaction -/

theorem Covered.quiet (hc : m.Covered) (h : Quiet m m') : m'.Covered := by
  have hbalance := h.balance
  unfold Covered outstanding free at hc ⊢
  rw [h.pools, h.accRewardPerAllocStored, h.totalPendingRewards, h.undistributedRewards]
  omega

/-- An affordable distribution: what is carried over is not free, the rest of it is. -/
theorem distributeRewards_covered {answer : TreasuryAnswer} {totalReward : Nat} (hb : m.Books)
    (haffordable : m.Affordable (.distributeRewards answer sender totalReward))
    (h : m.distributeRewards answer sender totalReward = .ok m') : m'.Covered := by
  simp only [distributeRewards, pullApprovedToken, bind_eq_ok, require_eq_ok, pure_eq_ok,
    Uint256.add_eq_ok, Uint256.mul_eq_ok, Uint256.div_eq_ok, Uint256.sub_eq_ok] at h
  obtain ⟨_, -, _, -, _, -, _, -, _, -, tokens, ⟨_, hother, hpull⟩, _, ⟨-, rfl⟩, _, ⟨-, rfl⟩, _,
    ⟨-, rfl⟩, _, -, _, ⟨-, rfl⟩, _, ⟨-, rfl⟩, _, ⟨hcarried, rfl⟩, rfl⟩ := h
  split at hpull
  · cases hpull
  obtain ⟨-, rfl⟩ := Ledger.transfer_eq_some.mp (TransferHelper.safeTransfer_eq_ok.mp hpull)
  have hpulled := m.tokens.balanceOf_move_of_ne_src m.rewardToken m.treasury m.self totalReward
    (Ne.symm hother) m.rewardToken
  simp only [and_self, if_true] at hpulled
  have hreserved := hb.reserved
  unfold Affordable at haffordable
  unfold Covered
  simp only [outstanding, free, balance, hpulled, rewardDelta] at haffordable hreserved hcarried ⊢
  omega

section Step

variable (hc : m.Covered)
include hc

theorem addPool_covered {allocPoint : Nat} {active : Bool}
    (h : m.addPool sender pool allocPoint active = .ok m') : m'.Covered := by
  simp only [addPool, onlyOwnerOrPoolFactory, bind_eq_ok, require_eq_ok, pure_eq_ok] at h
  obtain ⟨_, -, _, -, _, -, debt, hdebt, total, -, rfl⟩ := h
  have hnothing := owing_opening pool 0 hdebt
  unfold Covered outstanding at hc ⊢
  simp only [List.map_append, List.map_cons, List.map_nil, List.sum_append, List.sum_cons,
    List.sum_nil, hnothing, Nat.add_zero]
  exact hc

theorem deactivatePool_covered (h : m.deactivatePool sender pool = .ok m') : m'.Covered := by
  simp only [deactivatePool, onlyOwnerOrPoolFactory, bind_eq_ok, require_eq_ok] at h
  obtain ⟨_, -, pid, -, ⟨m₁, reward⟩, haccrue, info, hinfo, h⟩ := h
  have hc₁ := accruePool_covered hc haccrue
  rw [poolAt_eq_ok] at hinfo
  split at h
  · simp only [bind_eq_ok, Uint256.sub_eq_ok, pure_eq_ok] at h
    obtain ⟨_, -, rfl⟩ := h
    refine hc₁.rewrite _ _ hinfo ?_
    simp [owing, settledDebt]
  · obtain rfl := pure_eq_ok.mp h
    exact hc₁

theorem setPool_covered [Ownable] {allocPoint : Nat} {active : Bool}
    (h : m.setPool sender pid allocPoint active = .ok m') : m'.Covered := by
  simp only [setPool, bind_eq_ok, require_eq_ok, pure_eq_ok] at h
  obtain ⟨_, -, _, -, ⟨m₁, reward⟩, haccrue, info, hinfo, without, -, total, -, debt, hdebt,
    rfl⟩ := h
  have hc₁ := accruePool_covered hc haccrue
  exact hc₁.rewrite _ _ (poolAt_eq_ok.mp hinfo) (owing_opening _ _ hdebt)

theorem claimPoolRewards_covered {reward : Nat} (hb : m.Books)
    (h : m.claimPoolRewards sender pool = .ok (m', reward)) : m'.Covered := by
  simp only [claimPoolRewards, bind_eq_ok, require_eq_ok] at h
  obtain ⟨pid, -, _, -, ⟨m₁, granted⟩, haccrue, h⟩ := h
  have hc₁ := accruePool_covered hc haccrue
  have hb₁ := accruePool_books hb haccrue
  split at h
  · obtain ⟨rfl, -⟩ := Prod.mk.inj (pure_eq_ok.mp h)
    exact hc₁
  · simp only [bind_eq_ok, poolAt_eq_ok, Uint256.sub_eq_ok, TransferHelper.safeTransfer_eq_ok,
      pure_eq_ok, Prod.mk.injEq] at h
    obtain ⟨info₁, hinfo₁, _, ⟨hle, rfl⟩, tokens, htransfer, rfl, -⟩ := h
    obtain ⟨⟨henough, -⟩, rfl⟩ := Ledger.transfer_eq_some.mp htransfer
    have hadd := m₁.tokens.balanceOf_move_add m₁.rewardToken m₁.self pool granted henough
      m₁.rewardToken m₁.self
    simp only [true_and, if_true] at hadd
    have hset := List.sum_map_set_add (owing m₁.accRewardPerAllocStored)
      (y := { info₁ with pendingRewards := 0 }) hinfo₁
    have hsame : owing m₁.accRewardPerAllocStored { info₁ with pendingRewards := 0 } =
        owing m₁.accRewardPerAllocStored info₁ := rfl
    have hreserved := hb₁.reserved
    unfold Covered at hc₁ ⊢
    simp only [outstanding, free, balance, store] at hc₁ hreserved ⊢
    omega

theorem exec_covered [Ownable] [AccessControl Role] {op : Op} (hb : m.Books) (haffordable : m.Affordable op)
    (h : m.exec op = .ok m') : m'.Covered := by
  cases op with
  | addPool sender pool allocPoint active => exact addPool_covered hc h
  | deactivatePool sender pool => exact deactivatePool_covered hc h
  | setPool sender pid allocPoint active => exact setPool_covered hc h
  | distributeRewards answer sender totalReward =>
    exact distributeRewards_covered hb haffordable h
  | claimPoolRewards sender pool =>
    obtain ⟨⟨m₁, reward⟩, hclaim, h⟩ := bind_eq_ok.mp h
    obtain rfl := pure_eq_ok.mp h
    exact claimPoolRewards_covered hc hb hclaim
  | _ => exact hc.quiet (exec_quiet hb rfl h)

end Step

theorem Initial.covered (h : m.Initial) : m.Covered := by
  unfold Covered outstanding
  rw [h.pools]
  exact Nat.zero_le _

theorem reachable_covered [Ownable] [AccessControl Role] (h : system.ReachableWith Affordable m) :
    m.Books ∧ m.Covered := by
  refine System.ReachableWith.invariant (I := fun m => m.Books ∧ m.Covered) ?_ ?_ h
  · exact fun m hinit => ⟨hinit.books, hinit.covered⟩
  · exact fun m op m' hm haffordable hstep =>
      ⟨exec_books hm.1 hstep, exec_covered hm.2 hm.1 haffordable hstep⟩

/-! ## The view -/

/-- The view of a pool that was just settled. -/
theorem view_of_settled {reward : Nat} (hregistered : m.poolPidPlusOne pool ≠ 0)
    (hinfo : m.pools[m.poolPidPlusOne pool - 1]? = some info)
    (hsettled : info.active ∧ 0 < info.allocPoint →
      m.share info.allocPoint = .ok info.rewardDebt)
    (hreward : info.pendingRewards = reward) (hle : reward ≤ Uint256.max) :
    m.pendingPoolRewards pool = .ok reward := by
  subst hreward
  unfold pendingPoolRewards
  rw [pidOf_eq_ok.mpr ⟨hregistered, rfl⟩, ok_bind, poolAt_eq_ok.mpr hinfo, ok_bind]
  split
  · rw [hsettled ‹_›, ok_bind, Uint256.sub_eq_ok.mpr ⟨le_rfl, rfl⟩, ok_bind, Nat.sub_self,
      Uint256.add_eq_ok.mpr ⟨hle, rfl⟩, Nat.add_zero]
  · rfl

/-- What is pending and accrued of one pool is within the balance. -/
theorem claimable_le (hb : m.Books) (hc : m.Covered) (hinfo : m.pools[pid]? = some info) :
    info.pendingRewards + owing m.accRewardPerAllocStored info ≤ Uint256.max := by
  have hmax := hb.balance_le
  have hreserved := hb.reserved
  have hpending := hb.pending_le hinfo
  have howing := hc.owing_le hinfo
  unfold free at howing
  omega

section View

variable (hb : m.Books) (hc : m.Covered) (hregistered : m.poolPidPlusOne pool ≠ 0)
  (hinfo : m.pools[m.poolPidPlusOne pool - 1]? = some info)
include hb hc hregistered hinfo

/-- The view reports what is pending and accrued, unless the pool's share overflows. -/
theorem pendingPoolRewards_cases :
    m.pendingPoolRewards pool =
        .ok (info.pendingRewards + owing m.accRewardPerAllocStored info) ∧
      (info.active ∧ 0 < info.allocPoint →
        info.allocPoint * m.accRewardPerAllocStored ≤ Uint256.max) ∨
    ∃ e, m.pendingPoolRewards pool = .error e ∧ info.active ∧ 0 < info.allocPoint ∧
      m.share info.allocPoint = .error e := by
  have hview : m.pendingPoolRewards pool =
      if info.active ∧ 0 < info.allocPoint then do
        let debt ← m.share info.allocPoint
        let newlyAccrued ← Uint256.sub debt info.rewardDebt
        Uint256.add info.pendingRewards newlyAccrued
      else pure info.pendingRewards := by
    unfold pendingPoolRewards
    rw [pidOf_eq_ok.mpr ⟨hregistered, rfl⟩, ok_bind, poolAt_eq_ok.mpr hinfo, ok_bind]
  rw [hview]
  by_cases hweighted : info.active ∧ 0 < info.allocPoint
  · rw [if_pos hweighted]
    cases hshare : m.share info.allocPoint with
    | error e => exact .inr ⟨e, rfl, hweighted.1, hweighted.2, rfl⟩
    | ok debt =>
      obtain ⟨hfits, hdebt⟩ := share_eq_ok.mp hshare
      -- the debt never runs ahead of the share
      have hbehind := hb.debts info (List.mem_of_getElem? hinfo) hweighted.1
      have howing : owing m.accRewardPerAllocStored info = debt - info.rewardDebt := by
        rw [owing, settledDebt, if_pos hweighted, hdebt]
      have hle := claimable_le hb hc hinfo
      rw [howing] at hle ⊢
      refine .inl ⟨?_, fun _ => hfits⟩
      rw [ok_bind, Uint256.sub_eq_ok.mpr ⟨hdebt ▸ hbehind, rfl⟩, ok_bind,
        Uint256.add_eq_ok.mpr ⟨hle, rfl⟩]
  · rw [if_neg hweighted]
    -- an inactive or weightless pool has settled all it is owed
    have howing : owing m.accRewardPerAllocStored info = 0 := by
      rw [owing, settledDebt, if_neg hweighted, Nat.zero_sub]
    rw [howing]
    exact .inl ⟨rfl, fun h => absurd h hweighted⟩

/-- What a touch of the pool that succeeds says about the view. -/
theorem pendingPoolRewards_of_accruePool {reward : Nat}
    (haccrue : m.accruePool (m.poolPidPlusOne pool - 1) = .ok (m', reward)) :
    m.pendingPoolRewards pool =
      .ok (info.pendingRewards + owing m.accRewardPerAllocStored info) := by
  obtain ⟨hview, -⟩ | ⟨e, -, hactive, hweight, hshare⟩ :=
    pendingPoolRewards_cases hb hc hregistered hinfo
  · exact hview
  · unfold accruePool at haccrue
    rw [poolAt_eq_ok.mpr hinfo, ok_bind, if_pos ⟨hactive, hweight⟩, hshare, error_bind] at haccrue
    cases haccrue

/-- A claim pays what the view reports. -/
theorem claimPoolRewards_of_view (haccepts : m.tokens.refuses m.rewardToken pool = false)
    {reward : Nat} (hview : m.pendingPoolRewards pool = .ok reward) :
    ∃ m', m.claimPoolRewards pool pool = .ok (m', reward) ∧
      m'.tokens = m.tokens.move m.rewardToken m.self pool reward := by
  obtain ⟨hsome, hfits⟩ | ⟨e, herror, -⟩ := pendingPoolRewards_cases hb hc hregistered hinfo
  · obtain rfl := Except.ok.inj (hview.symm.trans hsome)
    obtain ⟨⟨m', paid⟩, hclaim⟩ :=
      (claimPoolRewards_avoids hb hregistered hinfo haccepts fun _ => hfits).exists_ok
    refine ⟨m', ?_⟩
    rw [hclaim]
    simp only [claimPoolRewards, bind_eq_ok, require_eq_ok, pidOf_eq_ok] at hclaim
    obtain ⟨_, ⟨-, rfl⟩, _, -, ⟨m₁, granted⟩, haccrue, hclaim⟩ := hclaim
    obtain ⟨info', hinfo', rfl, rfl⟩ := hc.accruePool_cases haccrue
    obtain rfl := Option.some.inj (hinfo.symm.trans hinfo')
    split at hclaim
    · rename_i hzero
      obtain ⟨rfl, rfl⟩ := Prod.mk.inj (pure_eq_ok.mp hclaim)
      dsimp only at hzero
      rw [hzero, m.tokens.move_zero]
      exact ⟨rfl, rfl⟩
    · simp only [bind_eq_ok, poolAt_eq_ok, Uint256.sub_eq_ok, TransferHelper.safeTransfer_eq_ok,
        pure_eq_ok, Prod.mk.injEq] at hclaim
      obtain ⟨info₁, -, _, -, tokens, htransfer, rfl, rfl⟩ := hclaim
      obtain ⟨-, rfl⟩ := Ledger.transfer_eq_some.mp htransfer
      exact ⟨rfl, rfl⟩
  · rw [hview] at herror
    cases herror

/-- Where the view reverts, the claim reverts in the same way. -/
theorem claimPoolRewards_of_view_error {e : Revert}
    (hview : m.pendingPoolRewards pool = .error e) : m.claimPoolRewards pool pool = .error e := by
  obtain ⟨hsome, -⟩ | ⟨e', herror, hactive, hweight, hshare⟩ :=
    pendingPoolRewards_cases hb hc hregistered hinfo
  · rw [hview] at hsome
    cases hsome
  · obtain rfl := Except.error.inj (hview.symm.trans herror)
    have haccrue : m.accruePool (m.poolPidPlusOne pool - 1) = .error e := by
      unfold accruePool
      rw [poolAt_eq_ok.mpr hinfo, ok_bind, if_pos ⟨hactive, hweight⟩, hshare, error_bind]
    unfold claimPoolRewards
    rw [pidOf_eq_ok.mpr ⟨hregistered, rfl⟩, ok_bind, require_eq_ok (u := ()) |>.mpr rfl, ok_bind, haccrue,
      error_bind]

/-- Deactivation moves what the pool is owed to its pending rewards. -/
theorem deactivatePool_view (h : m.deactivatePool sender pool = .ok m') :
    m'.pendingPoolRewards pool = m.pendingPoolRewards pool := by
  have hle := claimable_le hb hc hinfo
  simp only [deactivatePool, onlyOwnerOrPoolFactory, bind_eq_ok, require_eq_ok, pidOf_eq_ok] at h
  obtain ⟨_, -, _, ⟨-, rfl⟩, ⟨m₁, reward⟩, haccrue, info₁, hinfo₁, h⟩ := h
  rw [pendingPoolRewards_of_accruePool hb hc hregistered hinfo haccrue]
  obtain ⟨info', hinfo', -, rfl⟩ := hc.accruePool_cases haccrue
  obtain rfl := Option.some.inj (hinfo.symm.trans hinfo')
  have hgranted := accrued_getElem? hinfo (owing m.accRewardPerAllocStored info)
  obtain rfl := Option.some.inj (hgranted.symm.trans (poolAt_eq_ok.mp hinfo₁))
  have hlt := (List.getElem?_eq_some_iff.mp hgranted).1
  split at h
  · simp only [bind_eq_ok, Uint256.sub_eq_ok, pure_eq_ok] at h
    obtain ⟨_, -, rfl⟩ := h
    exact view_of_settled hregistered (List.getElem?_set_self hlt)
      (fun hweighted => absurd hweighted.1 Bool.false_ne_true) rfl hle
  · obtain rfl := pure_eq_ok.mp h
    exact view_of_settled hregistered hgranted (fun hweighted => absurd hweighted.1 ‹_›) rfl hle

/-- Re-weighting does the same. -/
theorem setPool_view [Ownable] {allocPoint : Nat} {active : Bool}
    (h : m.setPool sender (m.poolPidPlusOne pool - 1) allocPoint active = .ok m') :
    m'.pendingPoolRewards pool = m.pendingPoolRewards pool := by
  have hle := claimable_le hb hc hinfo
  simp only [setPool, bind_eq_ok, require_eq_ok, pure_eq_ok] at h
  obtain ⟨_, -, _, -, ⟨m₁, reward⟩, haccrue, info₁, hinfo₁, without, -, total, -, debt, hdebt,
    rfl⟩ := h
  rw [pendingPoolRewards_of_accruePool hb hc hregistered hinfo haccrue]
  obtain ⟨info', hinfo', -, rfl⟩ := hc.accruePool_cases haccrue
  obtain rfl := Option.some.inj (hinfo.symm.trans hinfo')
  have hgranted := accrued_getElem? hinfo (owing m.accRewardPerAllocStored info)
  obtain rfl := Option.some.inj (hgranted.symm.trans (poolAt_eq_ok.mp hinfo₁))
  have hlt := (List.getElem?_eq_some_iff.mp hgranted).1
  refine view_of_settled hregistered (List.getElem?_set_self hlt) ?_ rfl hle
  intro hweighted
  dsimp only at hweighted
  rw [openingDebt, if_pos hweighted.1] at hdebt
  exact hdebt

end View

/-! ## Runs -/

/-- The claim of a pool, a deactivation and a re-weighting all honour what the view reports
    for it: a claim pays exactly that, and the other two leave it as it is. -/
structure HonoursView [Ownable] (m : MultiPoolManager) (pool : Address) : Prop where
  paid : ∀ reward, m.pendingPoolRewards pool = .ok reward →
    ∃ m', m.claimPoolRewards pool pool = .ok (m', reward) ∧
      m'.tokens = m.tokens.move m.rewardToken m.self pool reward
  reverts : ∀ e, m.pendingPoolRewards pool = .error e → m.claimPoolRewards pool pool = .error e
  deactivated : ∀ sender m', m.deactivatePool sender pool = .ok m' →
    m'.pendingPoolRewards pool = m.pendingPoolRewards pool
  reweighted : ∀ sender allocPoint active m',
    m.setPool sender (m.poolPidPlusOne pool - 1) allocPoint active = .ok m' →
      m'.pendingPoolRewards pool = m.pendingPoolRewards pool

/-- In a run whose distributions are all affordable, what the view reports for a registered
    pool is what the pool gets. -/
theorem honoursView_of_affordable [Ownable] [AccessControl Role]
    (h : system.ReachableWith Affordable m)
    (hpool : m.poolExists pool = true)
    (haccepts : m.tokens.refuses m.rewardToken pool = false) : m.HonoursView pool := by
  obtain ⟨hb, hc⟩ := reachable_covered h
  have hregistered := hb.registered pool hpool
  obtain ⟨info, hinfo, -⟩ := hb.listed pool hregistered
  constructor
  · intro reward hview
    exact claimPoolRewards_of_view hb hc hregistered hinfo haccepts hview
  · intro e hview
    exact claimPoolRewards_of_view_error hb hc hregistered hinfo hview
  · intro sender m' hcall
    exact deactivatePool_view hb hc hregistered hinfo hcall
  · intro sender allocPoint active m' hcall
    exact setPool_view hb hc hregistered hinfo hcall

namespace Example

/-- The only pool has weight 3, and rewards of one unit are distributed. -/
def singleUnits (count : Nat) : List Op :=
  .addPool admin firstPool 3 true ::
    List.replicate count (.distributeRewards willing distributor 1)

/-- What the view reports for the pool and what a claim pays it. -/
def viewAndClaim (m : MultiPoolManager) : Option (Nat × Nat) :=
  match m.pendingPoolRewards firstPool, m.claimPoolRewards firstPool firstPool with
  | .ok reported, .ok (_, paid) => some (reported, paid)
  | _, _ => none

end Example

open OpenZeppelin Example in
theorem honoursView_of_affordable_two_pools :
    ∃ m, system.ReachableWith Affordable m ∧ m.pendingPoolRewards firstPool = .ok 2 ∧
      m.HonoursView firstPool := by
  have hrun : (System.runWith exec Affordable start
      [.addPool admin firstPool 1 true, .addPool admin secondPool 3 true,
        .distributeRewards willing distributor 8]).map (fun m =>
          (m.pendingPoolRewards firstPool |>.toOption, m.poolExists firstPool,
            m.tokens.refuses m.rewardToken firstPool)) = some (some 2, true, false) := by
    decide +kernel
  obtain ⟨m, hm, hsummary⟩ := Option.map_eq_some_iff.mp hrun
  simp only [Prod.mk.injEq] at hsummary
  obtain ⟨hview, hpool, haccepts⟩ := hsummary
  have hreach : system.ReachableWith Affordable m :=
    System.reachableWith_of_runWith (.init start_initial) hm
  refine ⟨m, hreach, ?_, honoursView_of_affordable hreach hpool haccepts⟩
  cases hresult : m.pendingPoolRewards firstPool with
  | error e =>
    rw [hresult] at hview
    cases hview
  | ok reward =>
    rw [hresult] at hview
    rw [Option.some.inj hview]

open OpenZeppelin Example in
/-- After two distributions of one unit the view reports 2 and a claim pays 1: each
    distribution carried one unit over, and the pool accrued both. -/
theorem claim_below_view :
    ∃ m m', system.Reachable m ∧ m.poolExists firstPool = true ∧
      m.pendingPoolRewards firstPool = .ok 2 ∧
      m.claimPoolRewards firstPool firstPool = .ok (m', 1) ∧ ¬ m.HonoursView firstPool := by
  have hrun : (System.runWith exec (fun _ _ => True) start (singleUnits 2)).map
      (fun m => (m.poolExists firstPool, viewAndClaim m)) = some (true, some (2, 1)) := by
    decide +kernel
  obtain ⟨m, hm, hsummary⟩ := Option.map_eq_some_iff.mp hrun
  obtain ⟨hpool, houtcome⟩ := Prod.mk.inj hsummary
  have hreach : system.Reachable m := System.reachableWith_of_runWith (.init start_initial) hm
  unfold viewAndClaim at houtcome
  split at houtcome
  · rename_i reported m' paid hview hclaim
    obtain ⟨rfl, rfl⟩ := Prod.mk.inj (Option.some.inj houtcome)
    refine ⟨m, m', hreach, hpool, hview, hclaim, ?_⟩
    intro hhonours
    obtain ⟨m'', hpaid, -⟩ := hhonours.paid 2 hview
    rw [hclaim] at hpaid
    cases hpaid
  · cases houtcome

end MultiPoolManager
