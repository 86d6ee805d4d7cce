-- SUMMARY: The listing of the pool factory over every run: both directions agree, managed pools are owned and registered, handed-over pools stay inactive.
import FluxSwap.Lib.Index
import FluxSwap.Pools.Model
import FluxSwap.Manager.Accounting
import FluxSwap.Staking.Structure

/-!
# The registry of the pool factory

The four tables of the factory say the same twice: which pool is listed for an asset, and
which asset a managed pool is listed for. A pool enters them when it is created, at an
address that is new, and leaves them when it is handed over.
-/

open Exec

/-! ## The owner of a pool -/

namespace StakingRewards

variable {s s' : StakingRewards} {src : RewardSource} {account : Address}

theorem raise_owner (s : StakingRewards) (increment queued : Nat) :
    (s.raise increment queued).owner = s.owner := rfl

theorem spread_owner (s : StakingRewards) (incoming : Nat) :
    (s.spread incoming).owner = s.owner := by
  rw [spread, raise_owner]

theorem syncRewardsFrom_owner {reward : Nat} (h : s.syncRewardsFrom src = .ok (s', reward)) :
    s'.owner = s.owner := by
  obtain ⟨tokens, -, hcases⟩ := syncRewardsFrom_cases h
  obtain ⟨-, rfl⟩ | ⟨-, -, rfl⟩ := hcases
  · rfl
  · exact spread_owner _ _

theorem updateReward_owner (h : s.updateReward account = .ok s') : s'.owner = s.owner := by
  by_cases hzero : account = Address.zero
  · rw [updateReward, if_neg (not_not.mpr hzero)] at h
    obtain rfl := pure_eq_ok.mp h
    rfl
  · obtain ⟨-, rfl⟩ := updateReward_cases hzero h
    rfl

theorem settle_owner (h : s.settle src account = .ok s') : s'.owner = s.owner := by
  obtain ⟨s₁, reward, hsync, hupdate, -⟩ := settle_cases h
  calc s'.owner = (s₁.spread 0).owner := updateReward_owner hupdate
    _ = s₁.owner := spread_owner s₁ 0
    _ = s.owner := syncRewardsFrom_owner hsync

theorem payReward_owner (h : s.payReward account = .ok s') : s'.owner = s.owner := by
  obtain rfl | ⟨-, -, tokens, -, rfl⟩ := payReward_cases h <;> rfl

theorem releaseStake_owner (h : s.releaseStake account = .ok s') : s'.owner = s.owner := by
  unfold releaseStake at h
  split at h
  · simp only [bind_eq_ok, pure_eq_ok] at h
    obtain ⟨_, -, _, -, rfl⟩ := h
    rfl
  · obtain rfl := pure_eq_ok.mp h
    rfl

/-- The lock itself leaves the owner alone. -/
theorem lock_owner {body : StakingRewards → Exec StakingRewards} (h : lock body s = .ok s')
    (hbody : ∀ t t', body t = .ok t' → t'.owner = t.owner) : s'.owner = s.owner := by
  obtain ⟨-, t, ht, rfl⟩ := lock_eq_ok.mp h
  have howner := hbody _ _ ht
  exact howner

theorem stake_owner {sender : Address} {amount : Nat}
    (h : s.stake src sender amount = .ok s') : s'.owner = s.owner := by
  refine lock_owner h ?_
  intro t t' ht
  simp only [bind_eq_ok] at ht
  obtain ⟨t₁, hsettle, _, -, _, -, _, -, _, -, ht⟩ := ht
  have howner := settle_owner hsettle
  split at ht
  · rw [flushQueuedRewards_eq ht, spread_owner]
    exact howner
  · obtain rfl := pure_eq_ok.mp ht
    exact howner

theorem withdraw_owner {sender : Address} {amount : Nat}
    (h : s.withdraw src sender amount = .ok s') : s'.owner = s.owner := by
  refine lock_owner h ?_
  intro t t' ht
  simp only [bind_eq_ok, pure_eq_ok] at ht
  obtain ⟨t₁, hsettle, _, -, _, -, _, -, _, -, _, -, rfl⟩ := ht
  have howner : t₁.owner = t.owner := settle_owner hsettle
  exact howner

theorem getReward_owner {sender : Address}
    (h : s.getReward src sender = .ok s') : s'.owner = s.owner := by
  refine lock_owner h ?_
  intro t t' ht
  simp only [bind_eq_ok] at ht
  obtain ⟨⟨t₁, _⟩, hsync, t₂, hupdate, hpay⟩ := ht
  exact (payReward_owner hpay).trans ((updateReward_owner hupdate).trans
    (syncRewardsFrom_owner hsync))

theorem exit_owner {sender : Address}
    (h : s.exit src sender = .ok s') : s'.owner = s.owner := by
  refine lock_owner h ?_
  intro t t' ht
  simp only [bind_eq_ok] at ht
  obtain ⟨t₁, hsettle, t₂, hrelease, hpay⟩ := ht
  exact (payReward_owner hpay).trans ((releaseStake_owner hrelease).trans
    (settle_owner hsettle))

theorem notifyRewardAmount_owner {sender : Address} {reward : Nat}
    (h : s.notifyRewardAmount src sender reward = .ok s') : s'.owner = s.owner := by
  refine lock_owner h ?_
  intro t t' ht
  simp only [bind_eq_ok, pure_eq_ok] at ht
  obtain ⟨_, -, _, -, _, -, _, -, _, -, ⟨t₁, _⟩, happly, rfl⟩ := ht
  obtain ⟨rfl, -⟩ := applyRewardAmount_eq happly
  rw [spread_owner]

theorem syncRewards_owner
    (h : s.syncRewards src = .ok s') : s'.owner = s.owner := by
  refine lock_owner h ?_
  intro t t' ht
  simp only [bind_eq_ok, pure_eq_ok] at ht
  obtain ⟨⟨t₁, _⟩, hsync, rfl⟩ := ht
  exact syncRewardsFrom_owner hsync

theorem recoverUnallocatedRewards_owner {sender dst : Address}
    (h : s.recoverUnallocatedRewards src sender dst = .ok s') : s'.owner = s.owner := by
  refine lock_owner h ?_
  intro t t' ht
  simp only [bind_eq_ok, pure_eq_ok] at ht
  obtain ⟨_, -, _, -, ⟨t₁, _⟩, hsync, _, -, _, -, _, -, _, -, _, -, rfl⟩ := ht
  have howner : t₁.owner = t.owner := syncRewardsFrom_owner hsync
  exact howner

/-- Only the owner can hand a pool over. -/
theorem exec_owner {op : Op} (hsender : op.sender ≠ some s.owner) (h : s.exec op = .ok s') :
    s'.owner = s.owner := by
  cases op with
  | stake src sender amount => exact stake_owner h
  | withdraw src sender amount => exact withdraw_owner h
  | getReward src sender => exact getReward_owner h
  | exit src sender => exact exit_owner h
  | notifyRewardAmount src sender reward => exact notifyRewardAmount_owner h
  | syncRewards src => exact syncRewards_owner h
  | recoverUnallocatedRewards src sender dst => exact recoverUnallocatedRewards_owner h
  | transferOwnership sender newOwner =>
    simp only [exec, transferOwnership, bind_eq_ok, require_eq_ok] at h
    obtain ⟨_, howner, -⟩ := h
    exact absurd (congrArg some howner) hsender
  | setRewardSource sender newRewardSource =>
    simp only [exec, setRewardSource, bind_eq_ok, pure_eq_ok] at h
    obtain ⟨_, -, _, -, _, -, rfl⟩ := h
    rfl
  | setRewardNotifier sender newRewardNotifier =>
    simp only [exec, setRewardNotifier, bind_eq_ok, pure_eq_ok] at h
    obtain ⟨_, -, _, -, _, -, _, -, rfl⟩ := h
    rfl
  | setRewardConfiguration sender newRewardSource newRewardNotifier =>
    simp only [exec, setRewardConfiguration, bind_eq_ok, pure_eq_ok] at h
    obtain ⟨_, -, _, -, _, -, rfl⟩ := h
    rfl
  | tokenTransfer sender token dst amount =>
    simp only [exec, bind_eq_ok, pure_eq_ok] at h
    obtain ⟨_, -, _, -, rfl⟩ := h
    rfl
  | tokenApprove sender token spender amount =>
    simp only [exec, bind_eq_ok, pure_eq_ok] at h
    obtain ⟨_, -, rfl⟩ := h
    rfl

end StakingRewards

/-! ## Pools of the manager -/

namespace MultiPoolManager

variable {m m' : MultiPoolManager} {pool : Address}

/-- The pool is in the list of the manager. -/
def Registered (m : MultiPoolManager) (pool : Address) : Prop :=
  m.poolExists pool = true ∧
    ∃ info, m.pools[m.poolPidPlusOne pool - 1]? = some info ∧ info.pool = pool

/-- The pool is in the list and is not active. -/
structure Inactive (m : MultiPoolManager) (pool : Address) : Prop where
  registered : m.poolExists pool = true
  numbered : m.poolPidPlusOne pool ≠ 0
  idle : ∃ info, m.pools[m.poolPidPlusOne pool - 1]? = some info ∧ info.active = false

/-- The owner switches the pool on again. -/
def Reactivates (m : MultiPoolManager) (pool : Address) : Op → Prop
  | .setPool sender pid _ active =>
    sender = m.access.owner ∧ pid + 1 = m.poolPidPlusOne pool ∧ active = true
  | _ => False

theorem accruePool_poolExists {pid reward : Nat} (h : m.accruePool pid = .ok (m', reward)) :
    m'.poolExists = m.poolExists := by
  obtain ⟨info, -, -, rfl⟩ := accruePool_cases h
  rfl

/-- A pool that is registered stays so. -/
theorem exec_poolExists [Ownable] [AccessControl Role] {op : Op} (hb : m.Books)
    (hexists : m.poolExists pool = true) (h : m.exec op = .ok m') : m'.poolExists pool = true := by
  cases htouches : op.touchesRewards with
  | false =>
    rw [(exec_quiet hb htouches h).poolExists]
    exact hexists
  | true =>
    cases op with
    | addPool sender other allocPoint active =>
      simp only [exec, addPool, bind_eq_ok, pure_eq_ok] at h
      obtain ⟨_, -, _, -, _, -, _, -, _, -, rfl⟩ := h
      simp only [Function.update_apply, hexists, ite_self]
    | deactivatePool sender other =>
      simp only [exec, deactivatePool, bind_eq_ok] at h
      obtain ⟨_, -, pid, -, ⟨m₁, reward⟩, haccrue, info, -, h⟩ := h
      rw [← accruePool_poolExists haccrue] at hexists
      split at h
      · simp only [bind_eq_ok, pure_eq_ok] at h
        obtain ⟨_, -, rfl⟩ := h
        exact hexists
      · obtain rfl := pure_eq_ok.mp h
        exact hexists
    | setPool sender pid allocPoint active =>
      simp only [exec, setPool, bind_eq_ok, pure_eq_ok] at h
      obtain ⟨_, -, _, -, ⟨m₁, reward⟩, haccrue, _, -, _, -, _, -, _, -, rfl⟩ := h
      rw [← accruePool_poolExists haccrue] at hexists
      exact hexists
    | distributeRewards answer sender totalReward =>
      simp only [exec, distributeRewards, bind_eq_ok, pure_eq_ok] at h
      obtain ⟨_, -, _, -, _, -, _, -, _, -, _, -, _, -, _, -, _, -, _, -, _, -, _, -, _, -, rfl⟩ := h
      exact hexists
    | claimPoolRewards sender other =>
      simp only [exec, claimPoolRewards, bind_eq_ok, pure_eq_ok] at h
      obtain ⟨⟨m₂, reward⟩, ⟨pid, -, _, -, ⟨m₁, accrued⟩, haccrue, h⟩, rfl⟩ := h
      rw [← accruePool_poolExists haccrue] at hexists
      split at h
      · obtain ⟨rfl, -⟩ := Prod.mk.inj (pure_eq_ok.mp h)
        exact hexists
      · simp only [bind_eq_ok, pure_eq_ok] at h
        obtain ⟨_, -, _, -, _, -, h⟩ := h
        obtain ⟨rfl, -⟩ := Prod.mk.inj h
        exact hexists
    | _ => cases htouches

/-- Writing a pool keeps another one idle, and the pool itself when it is written so. -/
theorem idle_set {xs : List PoolInfo} {pid i : Nat} {info info' : PoolInfo}
    (hidle : ∃ listed, xs[i]? = some listed ∧ listed.active = false)
    (hinfo : xs[pid]? = some info)
    (hwritten : pid = i → info.active = false → info'.active = false) :
    ∃ listed, (xs.set pid info')[i]? = some listed ∧ listed.active = false := by
  obtain ⟨listed, hlisted, hactive⟩ := hidle
  by_cases hsame : pid = i
  · subst hsame
    rw [hinfo] at hlisted
    obtain rfl := Option.some.inj hlisted
    exact ⟨info', List.getElem?_set_self (List.getElem?_eq_some_iff.mp hinfo).1,
      hwritten rfl hactive⟩
  · rw [List.getElem?_set_ne hsame]
    exact ⟨listed, hlisted, hactive⟩

/-- The pool that is settled keeps its state. -/
theorem accruePool_inactive {pid reward : Nat} (hinactive : m.Inactive pool)
    (h : m.accruePool pid = .ok (m', reward)) : m'.Inactive pool := by
  obtain ⟨info, hinfo, -, rfl⟩ := accruePool_cases h
  exact ⟨hinactive.registered, hinactive.numbered,
    idle_set hinactive.idle hinfo fun _ hactive => hactive⟩

theorem accruePool_poolPidPlusOne {pid reward : Nat} (h : m.accruePool pid = .ok (m', reward)) :
    m'.poolPidPlusOne = m.poolPidPlusOne := by
  obtain ⟨info, -, -, rfl⟩ := accruePool_cases h
  rfl

/-- An inactive pool stays inactive unless the owner switches it on. -/
theorem exec_inactive [Ownable] [AccessControl Role] {op : Op} (hb : m.Books)
    (hinactive : m.Inactive pool) (hop : ¬m.Reactivates pool op) (h : m.exec op = .ok m') : m'.Inactive pool := by
  cases htouches : op.touchesRewards with
  | false =>
    have hquiet := exec_quiet hb htouches h
    refine ⟨?_, ?_, ?_⟩
    · rw [hquiet.poolExists]
      exact hinactive.registered
    · rw [hquiet.poolPidPlusOne]
      exact hinactive.numbered
    · rw [hquiet.pools, hquiet.poolPidPlusOne]
      exact hinactive.idle
  | true =>
    cases op with
    | addPool sender other allocPoint active =>
      simp only [exec, addPool, bind_eq_ok, require_eq_ok, pure_eq_ok] at h
      obtain ⟨_, -, _, -, _, hnew, _, -, _, -, rfl⟩ := h
      have hother : pool ≠ other := by
        rintro rfl
        rw [hinactive.registered] at hnew
        cases hnew
      obtain ⟨info, hinfo, hactive⟩ := hinactive.idle
      refine ⟨?_, ?_, info, ?_, hactive⟩
      · simp only [Function.update_of_ne hother]
        exact hinactive.registered
      · simp only [Function.update_of_ne hother]
        exact hinactive.numbered
      · simp only [Function.update_of_ne hother]
        rw [List.getElem?_append_left (List.getElem?_eq_some_iff.mp hinfo).1]
        exact hinfo
    | deactivatePool sender other =>
      simp only [exec, deactivatePool, bind_eq_ok, poolAt_eq_ok] at h
      obtain ⟨_, -, pid, -, ⟨m₁, reward⟩, haccrue, info, hinfo, h⟩ := h
      have haccrued := accruePool_inactive hinactive haccrue
      split at h
      · simp only [bind_eq_ok, pure_eq_ok] at h
        obtain ⟨_, -, rfl⟩ := h
        exact ⟨haccrued.registered, haccrued.numbered,
          idle_set haccrued.idle hinfo fun _ _ => rfl⟩
      · obtain rfl := pure_eq_ok.mp h
        exact haccrued
    | setPool sender pid allocPoint active =>
      simp only [exec, setPool, bind_eq_ok, Access.onlyOwner_eq_ok, require_eq_ok, poolAt_eq_ok,
        pure_eq_ok] at h
      obtain ⟨_, howner, _, -, ⟨m₁, reward⟩, haccrue, info, hinfo, _, -, _, -, _, -, rfl⟩ := h
      have haccrued := accruePool_inactive hinactive haccrue
      refine ⟨haccrued.registered, haccrued.numbered, idle_set haccrued.idle hinfo ?_⟩
      intro hpid _
      change pid = m₁.poolPidPlusOne pool - 1 at hpid
      -- switched on it would be the excluded call
      have hnumber : pid + 1 = m.poolPidPlusOne pool := by
        have hne := hinactive.numbered
        rw [accruePool_poolPidPlusOne haccrue] at hpid
        omega
      exact Bool.eq_false_iff.mpr fun hactive => hop ⟨howner, hnumber, hactive⟩
    | distributeRewards answer sender totalReward =>
      simp only [exec, distributeRewards, bind_eq_ok, pure_eq_ok] at h
      obtain ⟨_, -, _, -, _, -, _, -, _, -, _, -, _, -, _, -, _, -, _, -, _, -, _, -, _, -, rfl⟩ := h
      exact ⟨hinactive.registered, hinactive.numbered, hinactive.idle⟩
    | claimPoolRewards sender other =>
      simp only [exec, claimPoolRewards, bind_eq_ok, pure_eq_ok] at h
      obtain ⟨⟨m₂, reward⟩, ⟨pid, -, _, -, ⟨m₁, accrued⟩, haccrue, h⟩, rfl⟩ := h
      have haccrued := accruePool_inactive hinactive haccrue
      split at h
      · obtain ⟨rfl, -⟩ := Prod.mk.inj (pure_eq_ok.mp h)
        exact haccrued
      · simp only [bind_eq_ok, poolAt_eq_ok, pure_eq_ok] at h
        obtain ⟨info, hinfo, _, -, _, -, h⟩ := h
        obtain ⟨rfl, -⟩ := Prod.mk.inj h
        exact ⟨haccrued.registered, haccrued.numbered,
          idle_set haccrued.idle hinfo fun _ hactive => hactive⟩
    | _ => cases htouches

theorem deactivatePool_inactive {sender : Address} (hexists : m.poolExists pool = true)
    (h : m.deactivatePool sender pool = .ok m') : m'.Inactive pool := by
  simp only [deactivatePool, bind_eq_ok, pidOf_eq_ok, poolAt_eq_ok] at h
  obtain ⟨_, -, pid, ⟨hnumbered, hpid⟩, ⟨m₁, reward⟩, haccrue, info, hinfo, h⟩ := h
  rw [← accruePool_poolExists haccrue] at hexists
  rw [← accruePool_poolPidPlusOne haccrue] at hnumbered hpid
  subst hpid
  split at h
  · simp only [bind_eq_ok, pure_eq_ok] at h
    obtain ⟨_, -, rfl⟩ := h
    refine ⟨hexists, hnumbered, { info with active := false, rewardDebt := 0 }, ?_, rfl⟩
    exact List.getElem?_set_self (List.getElem?_eq_some_iff.mp hinfo).1
  · rename_i hidle
    obtain rfl := pure_eq_ok.mp h
    exact ⟨hexists, hnumbered, info, hinfo, Bool.eq_false_iff.mpr hidle⟩

theorem Books.registered_of_exists (hb : m.Books) (h : m.poolExists pool = true) :
    m.Registered pool :=
  ⟨h, hb.listed pool (hb.registered pool h)⟩

end MultiPoolManager

/-! ## The listing -/

namespace FluxPoolFactory

variable {f : FluxPoolFactory} {asset pool : Address}

/-- What is listed for an asset as an LP pool or as a single token pool. -/
def listed (f : FluxPoolFactory) (key : Bool × Address) : Option Address :=
  let pool := if key.1 then f.lpTokenPools key.2 else f.singleTokenPools key.2
  if pool = Address.zero then none else some pool

/-- What a managed pool is listed for. -/
def entry (f : FluxPoolFactory) (pool : Address) : Option (Bool × Address) :=
  if f.managedPools pool then some (f.managedPoolIsLP pool, f.managedPoolStakingAsset pool)
  else none

theorem entry_eq_some {key : Bool × Address} :
    f.entry pool = some key ↔
      f.managedPools pool = true ∧ f.managedPoolIsLP pool = key.1 ∧
        f.managedPoolStakingAsset pool = key.2 := by
  unfold entry
  split
  · simp_all [Prod.ext_iff]
  · simp_all

theorem listed_single {p : Address} :
    f.listed (false, asset) = some p ↔ f.singleTokenPools asset = p ∧ p ≠ Address.zero := by
  simp only [listed, Bool.false_eq_true, if_false]
  split
  · simp_all
  · simp only [Option.some.injEq]
    exact ⟨fun h => ⟨h, h ▸ ‹_›⟩, And.left⟩

theorem listed_lp {p : Address} :
    f.listed (true, asset) = some p ↔ f.lpTokenPools asset = p ∧ p ≠ Address.zero := by
  simp only [listed, if_true]
  split
  · simp_all
  · simp only [Option.some.injEq]
    exact ⟨fun h => ⟨h, h ▸ ‹_›⟩, And.left⟩

theorem listSingleTokenPool_listed (hpool : pool ≠ Address.zero) :
    (f.listSingleTokenPool asset pool).listed =
      Function.update f.listed (false, asset) (some pool) := by
  funext ⟨isLP, other⟩
  cases isLP with
  | true => simp [listed, listSingleTokenPool]
  | false =>
    by_cases hother : other = asset
    · simp [listed, listSingleTokenPool, hother, hpool]
    · simp [listed, listSingleTokenPool, Function.update_of_ne, hother]

theorem listLPPool_listed (hpool : pool ≠ Address.zero) :
    (f.listLPPool asset pool).listed = Function.update f.listed (true, asset) (some pool) := by
  funext ⟨isLP, other⟩
  cases isLP with
  | false => simp [listed, listLPPool]
  | true =>
    by_cases hother : other = asset
    · simp [listed, listLPPool, hother, hpool]
    · simp [listed, listLPPool, Function.update_of_ne, hother]

theorem listSingleTokenPool_entry :
    (f.listSingleTokenPool asset pool).entry =
      Function.update f.entry pool (some (false, asset)) := by
  funext other
  by_cases hother : other = pool
  · simp [entry, listSingleTokenPool, hother]
  · simp [entry, listSingleTokenPool, Function.update_of_ne, hother]

theorem listLPPool_entry :
    (f.listLPPool asset pool).entry = Function.update f.entry pool (some (true, asset)) := by
  funext other
  by_cases hother : other = pool
  · simp [entry, listLPPool, hother]
  · simp [entry, listLPPool, Function.update_of_ne, hother]

/-- The writes of `transferManagedPoolOwnership`. -/
def strikePool (f : FluxPoolFactory) (pool : Address) : FluxPoolFactory :=
  let cleared := f.clearManagedPoolAssetRegistration pool
  { cleared with managedPools := Function.update cleared.managedPools pool false }

theorem strikePool_managedPools :
    (f.strikePool pool).managedPools = Function.update f.managedPools pool false := by
  simp only [strikePool, clearManagedPoolAssetRegistration]
  repeat' split
  all_goals rfl

theorem strikePool_entry : (f.strikePool pool).entry = Function.update f.entry pool none := by
  funext other
  by_cases hother : other = pool
  · simp [entry, strikePool_managedPools, hother]
  · have hkept : (f.strikePool pool).managedPoolIsLP other = f.managedPoolIsLP other ∧
        (f.strikePool pool).managedPoolStakingAsset other = f.managedPoolStakingAsset other := by
      simp only [strikePool, clearManagedPoolAssetRegistration]
      repeat' split
      all_goals simp [Function.update_of_ne, hother]
    simp [entry, strikePool_managedPools, hkept, Function.update_of_ne, hother]

/-- Striking out writes the table that the pool is listed in. -/
theorem strikePool_listed {key : Bool × Address} (hentry : f.entry pool = some key)
    (hasset : f.managedPoolStakingAsset pool ≠ Address.zero) :
    (f.strikePool pool).listed = Function.update f.listed key none := by
  obtain ⟨-, hlp, hkey⟩ := entry_eq_some.mp hentry
  obtain ⟨kind, asset⟩ := key
  obtain rfl : f.managedPoolStakingAsset pool = asset := hkey
  funext ⟨isLP, other⟩
  simp only [strikePool, clearManagedPoolAssetRegistration, if_neg hasset]
  cases kind with
  | true =>
    simp only [show f.managedPoolIsLP pool = true from hlp, if_true]
    cases isLP with
    | true => by_cases hother : other = f.managedPoolStakingAsset pool <;>
        simp [listed, Function.update_of_ne, hother]
    | false => simp [listed]
  | false =>
    simp only [show f.managedPoolIsLP pool = false from hlp, Bool.false_eq_true, if_false]
    cases isLP with
    | true => simp [listed]
    | false => by_cases hother : other = f.managedPoolStakingAsset pool <;>
        simp [listed, Function.update_of_ne, hother]

end FluxPoolFactory

/-! ## Every call -/

namespace PoolNetwork

variable {w w' : PoolNetwork} {pool : Address}

/-- The listing agrees in both directions, and every managed pool is the factory's own and
registered in the manager. -/
structure Consistent (w : PoolNetwork) : Prop where
  listing : Mutual w.factory.listed w.factory.entry
  asset : ∀ p, w.factory.managedPools p = true → w.factory.managedPoolStakingAsset p ≠ Address.zero
  owned : ∀ p, w.factory.managedPools p = true →
    ∃ s, w.pools p = some s ∧ s.owner = w.factory.self
  registered : ∀ p, w.factory.managedPools p = true → w.manager.poolExists p = true
  books : w.manager.Books

theorem Deployed.consistent [Ownable] [AccessControl Role] (h : w.Deployed) : w.Consistent where
  listing := by
    rintro ⟨isLP, asset⟩ p
    simp [FluxPoolFactory.listed, FluxPoolFactory.entry, h.lpTokenPools, h.singleTokenPools,
      h.managedPools]
  asset p hp := by
    rw [h.managedPools] at hp
    cases hp
  owned p hp := by
    rw [h.managedPools] at hp
    cases hp
  registered p hp := by
    rw [h.managedPools] at hp
    cases hp
  books := MultiPoolManager.reachable_books h.managed

@[simp] theorem poolAt_eq_ok {s : StakingRewards} : w.poolAt pool = .ok s ↔ w.pools pool = some s := by
  unfold poolAt
  split <;> simp_all

/-- A call that keeps the owner of a pool, or is made on a pool that is not managed, keeps the
listing. -/
theorem Consistent.callPool {call : StakingRewards → Exec StakingRewards} (hc : w.Consistent)
    (howner : ∀ s s', w.factory.managedPools pool = true → s.owner = w.factory.self →
      call s = .ok s' → s'.owner = s.owner)
    (h : w.callPool pool call = .ok w') : w'.Consistent := by
  simp only [PoolNetwork.callPool, bind_eq_ok, poolAt_eq_ok, pure_eq_ok] at h
  obtain ⟨s, hs, s', hcall, rfl⟩ := h
  refine ⟨hc.listing, hc.asset, ?_, hc.registered, hc.books⟩
  intro p hp
  obtain ⟨t, ht, hown⟩ := hc.owned p hp
  by_cases hsame : p = pool
  · subst hsame
    obtain rfl := Option.some.inj (hs.symm.trans ht)
    exact ⟨s', Function.update_self .., (howner s s' hp hown hcall).trans hown⟩
  · exact ⟨t, by simp only [Function.update_of_ne hsame, ht], hown⟩

/-- A new pool that is configured, listed and registered. -/
theorem Consistent.enter {asset : Address} {isLP : Bool} {factory : FluxPoolFactory}
    {manager : MultiPoolManager} {s : StakingRewards} (hc : w.Consistent) (hfresh : w.Fresh pool)
    (hasset : asset ≠ Address.zero) (hfree : w.factory.listed (isLP, asset) = none)
    (hself : factory.self = w.factory.self)
    (hlisted : factory.listed = Function.update w.factory.listed (isLP, asset) (some pool))
    (hentry : factory.entry = Function.update w.factory.entry pool (some (isLP, asset)))
    (howner : s.owner = w.factory.self)
    (hexists : ∀ p, w.manager.poolExists p = true → manager.poolExists p = true)
    (hadded : manager.poolExists pool = true) (hbooks : manager.Books) :
    Consistent ⟨factory, manager, Function.update w.pools pool (some s)⟩ := by
  have hnew : w.factory.entry pool = none := by
    refine if_neg ?_
    intro hmanaged
    obtain ⟨t, ht, -⟩ := hc.owned pool hmanaged
    rw [hfresh.2.2.2] at ht
    cases ht
  -- the entries after the call are the new one and the old ones
  have hcases : ∀ p, factory.managedPools p = true →
      (p = pool ∧ factory.managedPoolStakingAsset p = asset) ∨
        (p ≠ pool ∧ w.factory.managedPools p = true ∧
          factory.managedPoolStakingAsset p = w.factory.managedPoolStakingAsset p) := by
    intro p hp
    have hlook : factory.entry p =
        some (factory.managedPoolIsLP p, factory.managedPoolStakingAsset p) := if_pos hp
    rw [hentry] at hlook
    by_cases hsame : p = pool
    · subst hsame
      rw [Function.update_self] at hlook
      exact .inl ⟨rfl, (Prod.mk.inj (Option.some.inj hlook)).2.symm⟩
    · rw [Function.update_of_ne hsame] at hlook
      obtain ⟨hmanaged, -, hassets⟩ := FluxPoolFactory.entry_eq_some.mp hlook
      exact .inr ⟨hsame, hmanaged, hassets.symm⟩
  refine ⟨?_, ?_, ?_, ?_, hbooks⟩
  · rw [hlisted, hentry]
    exact hc.listing.enter hfree hnew
  · intro p hp
    rcases hcases p hp with ⟨-, hassets⟩ | ⟨-, hmanaged, hassets⟩
    · rw [hassets]
      exact hasset
    · rw [hassets]
      exact hc.asset p hmanaged
  · intro p hp
    rcases hcases p hp with ⟨rfl, -⟩ | ⟨hother, hmanaged, -⟩
    · exact ⟨s, Function.update_self .., howner.trans hself.symm⟩
    · obtain ⟨t, ht, hown⟩ := hc.owned p hmanaged
      exact ⟨t, by simp only [Function.update_of_ne hother, ht], hown.trans hself.symm⟩
  · intro p hp
    rcases hcases p hp with ⟨rfl, -⟩ | ⟨-, hmanaged, -⟩
    · exact hadded
    · exact hexists p (hc.registered p hmanaged)

theorem addPool_registers {m m' : MultiPoolManager} {sender : Address} {allocPoint : Nat}
    {active : Bool} (h : m.addPool sender pool allocPoint active = .ok m') :
    m'.poolExists pool = true := by
  simp only [MultiPoolManager.addPool, bind_eq_ok, pure_eq_ok] at h
  obtain ⟨_, -, _, -, _, -, _, -, _, -, rfl⟩ := h
  exact Function.update_self ..

/-- What the two creations share: a constructed pool of the factory, its configuration and its
registration. -/
theorem Consistent.create [Ownable] [AccessControl Role]
    (list : FluxPoolFactory → FluxPoolFactory) {asset : Address} {isLP : Bool} {constructed : Exec StakingRewards} {sender source notifier : Address} {allocPoint : Nat}
    {active : Bool} {w₁ w₂ : PoolNetwork} {manager : MultiPoolManager} (hc : w.Consistent)
    (hasset : asset ≠ Address.zero) (hfree : w.factory.listed (isLP, asset) = none)
    (hconstructed : ∀ s, constructed = .ok s → s.owner = w.factory.self)
    (hself : (list w.factory).self = w.factory.self)
    (hlisted : pool ≠ Address.zero → (list w.factory).listed =
      Function.update w.factory.listed (isLP, asset) (some pool))
    (hentry : (list w.factory).entry =
      Function.update w.factory.entry pool (some (isLP, asset)))
    (hdeploy : w.deploy pool constructed = .ok w₁)
    (hconfigure : w₁.callPool pool (·.setRewardConfiguration sender source notifier) = .ok w₂)
    (hadd : w₂.manager.addPool w₂.factory.self pool allocPoint active = .ok manager) :
    Consistent { w₂ with factory := list w₂.factory, manager := manager } := by
  simp only [deploy, bind_eq_ok, require_eq_ok, pure_eq_ok] at hdeploy
  obtain ⟨_, hfresh, s, hs, rfl⟩ := hdeploy
  simp only [PoolNetwork.callPool, bind_eq_ok, poolAt_eq_ok, pure_eq_ok, Function.update_self,
    Option.some.injEq, Function.update_idem] at hconfigure
  obtain ⟨_, rfl, s', hcall, rfl⟩ := hconfigure
  have hkept : s'.owner = s.owner := by
    simp only [StakingRewards.setRewardConfiguration, bind_eq_ok, pure_eq_ok] at hcall
    obtain ⟨_, -, _, -, _, -, rfl⟩ := hcall
    rfl
  have hcalled : w.manager.exec (.addPool w.factory.self pool allocPoint active) = .ok manager :=
    hadd
  exact hc.enter hfresh hasset hfree hself (hlisted hfresh.1) hentry
    (hkept.trans (hconstructed s hs))
    (fun p hp => MultiPoolManager.exec_poolExists hc.books hp hcalled) (addPool_registers hadd)
    (MultiPoolManager.exec_books hc.books hcalled)

theorem construct_owner {self owner stakingToken rewardsToken rewardSource rewardNotifier : Address}
    {tokens : Tokens} {s : StakingRewards}
    (h : StakingRewards.construct self owner stakingToken rewardsToken rewardSource rewardNotifier
      tokens = .ok s) : s.owner = owner := by
  simp only [StakingRewards.construct, bind_eq_ok, pure_eq_ok] at h
  obtain ⟨_, -, _, -, _, -, _, -, _, -, rfl⟩ := h
  rfl

theorem createSingleTokenPool_consistent [Ownable] [AccessControl Role]
    {sender stakingToken : Address} {allocPoint : Nat} {active : Bool} (hc : w.Consistent)
    (h : w.createSingleTokenPool sender stakingToken allocPoint active pool = .ok w') :
    w'.Consistent := by
  simp only [createSingleTokenPool, bind_eq_ok, require_eq_ok, pure_eq_ok] at h
  obtain ⟨_, -, _, hasset, _, hfree, w₁, hdeploy, w₂, hconfigure, manager, hadd, rfl⟩ := h
  have hnone : w.factory.listed (false, stakingToken) = none := if_pos hfree
  exact hc.create (·.listSingleTokenPool stakingToken pool) hasset hnone
    (fun _ => construct_owner) rfl FluxPoolFactory.listSingleTokenPool_listed FluxPoolFactory.listSingleTokenPool_entry hdeploy
    hconfigure hadd

theorem createLPPool_consistent [Ownable] [AccessControl Role] {answers : PairAnswers}
    {sender lpToken : Address} {allocPoint : Nat} {active : Bool} (hc : w.Consistent)
    (h : w.createLPPool answers sender lpToken allocPoint active pool = .ok w') :
    w'.Consistent := by
  simp only [createLPPool, bind_eq_ok, require_eq_ok, pure_eq_ok] at h
  obtain ⟨_, -, _, hasset, _, hfree, w₁, hdeploy, w₂, hconfigure, manager, hadd, rfl⟩ := h
  have hnone : w.factory.listed (true, lpToken) = none := if_pos hfree
  have howner : ∀ s, StakingRewards.constructLP answers pool w.factory.self w.factory.dexFactory
      lpToken w.factory.rewardToken w.factory.manager w.factory.self w.manager.tokens = .ok s →
      s.owner = w.factory.self := by
    intro s hs
    simp only [StakingRewards.constructLP, bind_eq_ok, pure_eq_ok] at hs
    obtain ⟨_, hconstruct, _, -, _, -, _, -, _, -, _, -, _, -, _, -, _, -, _, -, rfl⟩ := hs
    exact construct_owner hconstruct
  exact hc.create (·.listLPPool lpToken pool) hasset hnone howner rfl FluxPoolFactory.listLPPool_listed
    FluxPoolFactory.listLPPool_entry hdeploy hconfigure hadd

/-- What is left of the listing after a pool is struck out. -/
theorem managed_of_strikePool {f : FluxPoolFactory} {p : Address}
    (hp : (f.strikePool pool).managedPools p = true) :
    p ≠ pool ∧ f.managedPools p = true ∧
      (f.strikePool pool).managedPoolStakingAsset p = f.managedPoolStakingAsset p := by
  have hlook : (f.strikePool pool).entry p = some ((f.strikePool pool).managedPoolIsLP p,
      (f.strikePool pool).managedPoolStakingAsset p) := if_pos hp
  rw [FluxPoolFactory.strikePool_entry] at hlook
  by_cases hsame : p = pool
  · subst hsame
    rw [Function.update_self] at hlook
    cases hlook
  · rw [Function.update_of_ne hsame] at hlook
    obtain ⟨hmanaged, -, hasset⟩ := FluxPoolFactory.entry_eq_some.mp hlook
    exact ⟨hsame, hmanaged, hasset.symm⟩

theorem strikePool_self {f : FluxPoolFactory} : (f.strikePool pool).self = f.self := by
  simp only [FluxPoolFactory.strikePool, FluxPoolFactory.clearManagedPoolAssetRegistration]
  repeat' split
  all_goals rfl

/-- What a hand-over does: the pool is deactivated, changes its owner and is struck out. -/
theorem transferManagedPoolOwnership_cases [Ownable] {sender newOwner : Address}
    (h : w.transferManagedPoolOwnership sender pool newOwner = .ok w') :
    w.factory.managedPools pool = true ∧
      w.manager.deactivatePool w.factory.self pool = .ok w'.manager ∧
      (∃ s, w'.pools = Function.update w.pools pool (some s)) ∧
      w'.factory = w.factory.strikePool pool := by
  simp only [transferManagedPoolOwnership, FluxPoolFactory.requireManagedPool, PoolNetwork.callPool,
    bind_eq_ok, require_eq_ok, pure_eq_ok] at h
  obtain ⟨_, -, _, hmanaged, s, -, _, -, manager, hdeactivate, w₁, ⟨t, -, t', -, rfl⟩, rfl⟩ := h
  exact ⟨hmanaged, hdeactivate, ⟨t', rfl⟩, rfl⟩

theorem transferManagedPoolOwnership_consistent [Ownable] [AccessControl Role]
    {sender newOwner : Address} (hc : w.Consistent)
    (h : w.transferManagedPoolOwnership sender pool newOwner = .ok w') : w'.Consistent := by
  obtain ⟨hmanaged, hdeactivate, ⟨s, hpools⟩, hfactory⟩ := transferManagedPoolOwnership_cases h
  have hcalled : w.manager.exec (.deactivatePool w.factory.self pool) = .ok w'.manager := hdeactivate
  have hentry : w.factory.entry pool = some (w.factory.managedPoolIsLP pool,
      w.factory.managedPoolStakingAsset pool) := if_pos hmanaged
  refine ⟨?_, ?_, ?_, ?_, MultiPoolManager.exec_books hc.books hcalled⟩
  · rw [hfactory, FluxPoolFactory.strikePool_entry,
      FluxPoolFactory.strikePool_listed hentry (hc.asset pool hmanaged)]
    exact hc.listing.strike hentry
  · intro p hp
    rw [hfactory] at hp ⊢
    obtain ⟨-, hbefore, hasset⟩ := managed_of_strikePool hp
    rw [hasset]
    exact hc.asset p hbefore
  · intro p hp
    rw [hfactory] at hp
    obtain ⟨hother, hbefore, -⟩ := managed_of_strikePool hp
    obtain ⟨t, ht, hown⟩ := hc.owned p hbefore
    refine ⟨t, ?_, ?_⟩
    · rw [hpools, Function.update_of_ne hother]
      exact ht
    · rw [hfactory, strikePool_self]
      exact hown
  · intro p hp
    rw [hfactory] at hp
    obtain ⟨-, hbefore, -⟩ := managed_of_strikePool hp
    exact MultiPoolManager.exec_poolExists hc.books (hc.registered p hbefore) hcalled

/-- The owner of the factory configures a pool and recovers from it, and stays its owner. -/
theorem callManagedPool_consistent [Ownable] {sender : Address}
    {call : StakingRewards → Exec StakingRewards} (hc : w.Consistent)
    (howner : ∀ s s', call s = .ok s' → s'.owner = s.owner)
    (h : w.callManagedPool sender pool call = .ok w') : w'.Consistent := by
  simp only [callManagedPool, bind_eq_ok] at h
  obtain ⟨_, -, _, -, h⟩ := h
  exact hc.callPool (fun s s' _ _ => howner s s') h

theorem exec_consistent [Ownable] [AccessControl Role] {op : Op} (hc : w.Consistent)
    (h : w.exec op = .ok w') : w'.Consistent := by
  cases op with
  | createSingleTokenPool sender stakingToken allocPoint active pool =>
    exact createSingleTokenPool_consistent hc h
  | createLPPool answers sender lpToken allocPoint active pool =>
    exact createLPPool_consistent hc h
  | setManagedPoolRewardSource sender pool rewardSource =>
    refine callManagedPool_consistent hc ?_ h
    intro s s' hs
    simp only [StakingRewards.setRewardSource, bind_eq_ok, pure_eq_ok] at hs
    obtain ⟨_, -, _, -, _, -, rfl⟩ := hs
    rfl
  | setManagedPoolRewardNotifier sender pool rewardNotifier =>
    refine callManagedPool_consistent hc ?_ h
    intro s s' hs
    simp only [StakingRewards.setRewardNotifier, bind_eq_ok, pure_eq_ok] at hs
    obtain ⟨_, -, _, -, _, -, _, -, rfl⟩ := hs
    rfl
  | setManagedPoolRewardConfiguration sender pool rewardSource rewardNotifier =>
    refine callManagedPool_consistent hc ?_ h
    intro s s' hs
    simp only [StakingRewards.setRewardConfiguration, bind_eq_ok, pure_eq_ok] at hs
    obtain ⟨_, -, _, -, _, -, rfl⟩ := hs
    rfl
  | recoverManagedPoolUnallocatedRewards src sender pool dst =>
    exact callManagedPool_consistent hc
      (fun s s' => StakingRewards.recoverUnallocatedRewards_owner) h
  | transferManagedPoolOwnership sender pool newOwner =>
    exact transferManagedPoolOwnership_consistent hc h
  | transferOwnership sender newOwner =>
    simp only [exec, FluxPoolFactory.transferOwnership, bind_eq_ok, pure_eq_ok] at h
    obtain ⟨_, ⟨_, -, rfl⟩, rfl⟩ := h
    exact ⟨hc.listing, hc.asset, hc.owned, hc.registered, hc.books⟩
  | renounceOwnership sender =>
    simp only [exec, FluxPoolFactory.renounceOwnership, bind_eq_ok, pure_eq_ok] at h
    obtain ⟨_, ⟨_, -, rfl⟩, rfl⟩ := h
    exact ⟨hc.listing, hc.asset, hc.owned, hc.registered, hc.books⟩
  -- the manager keeps every pool it has registered
  | manager op =>
    simp only [exec, bind_eq_ok, pure_eq_ok] at h
    obtain ⟨manager, hcalled, rfl⟩ := h
    exact ⟨hc.listing, hc.asset, hc.owned,
      fun p hp => MultiPoolManager.exec_poolExists hc.books (hc.registered p hp) hcalled,
      MultiPoolManager.exec_books hc.books hcalled⟩
  -- a call that does not come from the owner leaves the owner of the pool
  | pool pool op =>
    simp only [exec, bind_eq_ok, require_eq_ok] at h
    obtain ⟨_, hsender, h⟩ := h
    refine hc.callPool ?_ h
    intro s s' _ hown hs
    rw [← hown] at hsender
    exact StakingRewards.exec_owner hsender hs

theorem reachable_consistent [Ownable] [AccessControl Role] (h : system.Reachable w) : w.Consistent :=
  h.invariant (fun _ => Deployed.consistent) fun _ _ _ => exec_consistent

/-! ## After a hand-over -/

/-- The manager's owner switches the pool on again. -/
def Reactivates (w : PoolNetwork) (pool : Address) : Op → Prop
  | .manager op => w.manager.Reactivates pool op
  | _ => False

theorem deploy_manager {constructed : Exec StakingRewards}
    (h : w.deploy pool constructed = .ok w') :
    w'.manager = w.manager ∧ w'.factory = w.factory := by
  simp only [deploy, bind_eq_ok, pure_eq_ok] at h
  obtain ⟨_, -, _, -, rfl⟩ := h
  exact ⟨rfl, rfl⟩

theorem callPool_manager {call : StakingRewards → Exec StakingRewards}
    (h : w.callPool pool call = .ok w') : w'.manager = w.manager ∧ w'.factory = w.factory := by
  simp only [PoolNetwork.callPool, bind_eq_ok, pure_eq_ok] at h
  obtain ⟨_, -, _, -, rfl⟩ := h
  exact ⟨rfl, rfl⟩

theorem callManagedPool_manager [Ownable] {sender : Address}
    {call : StakingRewards → Exec StakingRewards}
    (h : w.callManagedPool sender pool call = .ok w') : w'.manager = w.manager := by
  simp only [callManagedPool, bind_eq_ok] at h
  obtain ⟨_, -, _, -, h⟩ := h
  exact (callPool_manager h).1

/-- What a call does to the manager: nothing, or one call of the manager, which switches a pool
on only when it is itself such a call. -/
theorem exec_manager [Ownable] [AccessControl Role] {op : Op} (h : w.exec op = .ok w') :
    w'.manager = w.manager ∨ ∃ called, w.manager.exec called = .ok w'.manager ∧
      ∀ p, w.manager.Reactivates p called → w.Reactivates p op := by
  cases op with
  | createSingleTokenPool sender stakingToken allocPoint active pool =>
    simp only [exec, createSingleTokenPool, bind_eq_ok, pure_eq_ok] at h
    obtain ⟨_, -, _, -, _, -, w₁, hdeploy, w₂, hconfigure, manager, hadd, rfl⟩ := h
    rw [(callPool_manager hconfigure).1, (deploy_manager hdeploy).1] at hadd
    exact .inr ⟨.addPool w₂.factory.self pool allocPoint active, hadd, fun _ hnever => hnever.elim⟩
  | createLPPool answers sender lpToken allocPoint active pool =>
    simp only [exec, createLPPool, bind_eq_ok, pure_eq_ok] at h
    obtain ⟨_, -, _, -, _, -, w₁, hdeploy, w₂, hconfigure, manager, hadd, rfl⟩ := h
    rw [(callPool_manager hconfigure).1, (deploy_manager hdeploy).1] at hadd
    exact .inr ⟨.addPool w₂.factory.self pool allocPoint active, hadd, fun _ hnever => hnever.elim⟩
  | setManagedPoolRewardSource sender pool rewardSource => exact .inl (callManagedPool_manager h)
  | setManagedPoolRewardNotifier sender pool rewardNotifier =>
    exact .inl (callManagedPool_manager h)
  | setManagedPoolRewardConfiguration sender pool rewardSource rewardNotifier =>
    exact .inl (callManagedPool_manager h)
  | recoverManagedPoolUnallocatedRewards src sender pool dst =>
    exact .inl (callManagedPool_manager h)
  | transferManagedPoolOwnership sender pool newOwner =>
    have hdeactivate := (transferManagedPoolOwnership_cases h).2.1
    exact .inr ⟨.deactivatePool w.factory.self pool, hdeactivate, fun _ hnever => hnever.elim⟩
  | transferOwnership sender newOwner =>
    simp only [exec, bind_eq_ok, pure_eq_ok] at h
    obtain ⟨_, -, rfl⟩ := h
    exact .inl rfl
  | renounceOwnership sender =>
    simp only [exec, bind_eq_ok, pure_eq_ok] at h
    obtain ⟨_, -, rfl⟩ := h
    exact .inl rfl
  | manager op =>
    simp only [exec, bind_eq_ok, pure_eq_ok] at h
    obtain ⟨manager, hcalled, rfl⟩ := h
    exact .inr ⟨op, hcalled, fun _ hagain => hagain⟩
  | pool pool op =>
    simp only [exec, bind_eq_ok] at h
    obtain ⟨_, -, h⟩ := h
    exact .inl (callPool_manager h).1

/-- A pool that has been handed over stays inactive until the manager's owner switches it on. -/
theorem inactive_of_leadsTo [Ownable] [AccessControl Role] {t : PoolNetwork}
    (hc : w.Consistent) (hinactive : w.manager.Inactive pool)
    (h : system.LeadsTo (fun w op => ¬w.Reactivates pool op) w t) : t.manager.Inactive pool := by
  refine (h.preserves (I := fun t => t.Consistent ∧ t.manager.Inactive pool) ⟨hc, hinactive⟩ ?_).2
  intro t op t' ⟨hct, ht⟩ hop hstep
  refine ⟨exec_consistent hct hstep, ?_⟩
  rcases exec_manager hstep with hsame | ⟨called, hcalled, hagain⟩
  · rw [hsame]
    exact ht
  · exact MultiPoolManager.exec_inactive hct.books ht (fun hon => hop (hagain pool hon)) hcalled

/-! ## The registry -/

/-- In every reachable state the listing agrees in both directions, every managed pool belongs to
the factory and is registered in the manager, and a pool that is handed over stays inactive
until the manager's owner switches it on again. -/
theorem registry_agrees [Ownable] [AccessControl Role] (h : system.Reachable w) :
    (∀ asset p, (w.factory.singleTokenPools asset = p ∧ p ≠ Address.zero) ↔
      w.factory.managedPools p = true ∧ w.factory.managedPoolStakingAsset p = asset ∧
        w.factory.managedPoolIsLP p = false) ∧
    (∀ asset p, (w.factory.lpTokenPools asset = p ∧ p ≠ Address.zero) ↔
      w.factory.managedPools p = true ∧ w.factory.managedPoolStakingAsset p = asset ∧
        w.factory.managedPoolIsLP p = true) ∧
    (∀ p, w.factory.managedPools p = true →
      (∃ s, w.pools p = some s ∧ s.owner = w.factory.self) ∧ w.manager.Registered p) ∧
    ∀ sender p newOwner w', w.exec (.transferManagedPoolOwnership sender p newOwner) = .ok w' →
      ∀ t, system.LeadsTo (fun w op => ¬w.Reactivates p op) w' t → t.manager.Inactive p := by
  have hc := reachable_consistent h
  refine ⟨?_, ?_, ?_, ?_⟩
  · intro asset p
    rw [← FluxPoolFactory.listed_single, hc.listing (false, asset) p,
      FluxPoolFactory.entry_eq_some]
    exact and_congr_right fun _ => and_comm
  · intro asset p
    rw [← FluxPoolFactory.listed_lp, hc.listing (true, asset) p, FluxPoolFactory.entry_eq_some]
    exact and_congr_right fun _ => and_comm
  · intro p hp
    exact ⟨hc.owned p hp, hc.books.registered_of_exists (hc.registered p hp)⟩
  · intro sender p newOwner w' htransfer t hlater
    obtain ⟨hmanaged, hdeactivate, -, -⟩ := transferManagedPoolOwnership_cases htransfer
    exact inactive_of_leadsTo (exec_consistent hc htransfer)
      (MultiPoolManager.deactivatePool_inactive (hc.registered p hmanaged) hdeactivate) hlater

/-! ## A pool that is created, handed over and created again -/

namespace Example

/-- The factory at address 20, trusted by the manager. -/
def deployed : PoolNetwork where
  factory := {
    self := 20
    manager := 6
    dexFactory := 21
    rewardToken := 7
    owner := 22
    singleTokenPools := fun _ => Address.zero
    lpTokenPools := fun _ => Address.zero
    managedPools := fun _ => false
    managedPoolStakingAsset := fun _ => Address.zero
    managedPoolIsLP := fun _ => false }
  manager := { MultiPoolManager.Example.start with poolFactory := 20 }
  pools := fun _ => none

open OpenZeppelin in
theorem deployed_deployed : deployed.Deployed where
  owner := by decide
  manager := by decide
  dexFactory := by decide
  rewardToken := by decide
  address := rfl
  managed := by
    have hstart := MultiPoolManager.Example.start_initial
    exact .init ⟨hstart.totalAllocPoint, hstart.accRewardPerAllocStored,
      hstart.totalPendingRewards, hstart.undistributedRewards, hstart.pools, hstart.poolExists,
      hstart.poolPidPlusOne, hstart.unapproved, hstart.supply⟩
  singleTokenPools := rfl
  lpTokenPools := rfl
  managedPools := rfl
  managedPoolStakingAsset := rfl
  managedPoolIsLP := rfl
  pools := rfl

/-- Pool 41 for token 40 is handed over, and pool 42 takes its place. -/
def replaced : List Op :=
  [.createSingleTokenPool 22 40 5 true 41, .transferManagedPoolOwnership 22 41 43,
    .createSingleTokenPool 22 40 5 true 42]

end Example

open OpenZeppelin Example in
theorem registry_agrees_replaced : ∃ w, system.Reachable w ∧
    w.factory.singleTokenPools 40 = 42 ∧ w.factory.managedPools 41 = false ∧
      w.factory.managedPools 42 = true ∧ w.factory.managedPoolStakingAsset 42 = 40 := by
  have hrun : (System.runWith exec (fun _ _ => True) deployed replaced).map (fun w =>
      (w.factory.singleTokenPools 40, w.factory.managedPools 41)) = some (42, false) := by
    decide +kernel
  obtain ⟨w, hw, hsummary⟩ := Option.map_eq_some_iff.mp hrun
  obtain ⟨hlisted, hold⟩ := Prod.mk.inj hsummary
  have hreach : system.Reachable w := System.reachableWith_of_runWith (.init deployed_deployed) hw
  have hentry := ((registry_agrees hreach).1 40 42).mp ⟨hlisted, by decide⟩
  exact ⟨w, hreach, hlisted, hold, hentry.1, hentry.2.1⟩

end PoolNetwork
