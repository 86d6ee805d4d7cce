-- SUMMARY: Accounting of the reward manager over every run: weights, pending rewards, debts and the balance that covers them.
import FluxSwap.Manager.Model

/-!
# Accounting of the manager

The two totals are sums over the pools, no debt is ahead of the accumulator, and the
balance covers what is pending and what is carried over. Every entry point touches at
most one pool and first moves what that pool has accrued, so the accounting is kept by
one lemma about that move and by what each entry point does afterwards.
-/

/-- Replacing one entry of a list changes a sum over it by that entry. -/
theorem List.sum_map_set_add {α : Type} (f : α → Nat) {x y : α} :
    ∀ {xs : List α} {i : Nat}, xs[i]? = some x →
      ((xs.set i y).map f).sum + f x = (xs.map f).sum + f y := by
  intro xs
  induction xs with
  | nil =>
    intro i h
    cases h
  | cons z zs ih =>
    intro i h
    cases i with
    | zero =>
      simp only [List.getElem?_cons_zero, Option.some.injEq] at h
      subst h
      simp only [List.set_cons_zero, List.map_cons, List.sum_cons]
      omega
    | succ i =>
      have hrest := ih (i := i) (by simpa using h)
      simp only [List.set_cons_succ, List.map_cons, List.sum_cons]
      omega

namespace MultiPoolManager

open Exec

variable {m m' : MultiPoolManager} {info : PoolInfo} {pid : Nat} {pool sender : Address}

/-! ## What a pool is owed -/

/-- The weight a pool has in a distribution. -/
def weight (info : PoolInfo) : Nat := if info.active then info.allocPoint else 0

/-- What a pool's debt becomes when it is touched. -/
def settledDebt (accumulator : Nat) (info : PoolInfo) : Nat :=
  if info.active ∧ 0 < info.allocPoint then info.allocPoint * accumulator / precision else 0

/-- What a pool has accrued since it was last touched. -/
def owing (accumulator : Nat) (info : PoolInfo) : Nat :=
  settledDebt accumulator info - info.rewardDebt

/-- The balance of the reward token. -/
def balance (m : MultiPoolManager) : Nat := m.tokens.balanceOf m.rewardToken m.self

/-- The part of the balance that is neither pending nor carried over. -/
def free (m : MultiPoolManager) : Nat :=
  m.balance - (m.totalPendingRewards + m.undistributedRewards)

/-- A pool after `granted` rewards became pending. -/
def granting (accumulator granted : Nat) (info : PoolInfo) : PoolInfo :=
  { info with
    rewardDebt := settledDebt accumulator info
    pendingRewards := info.pendingRewards + granted }

/-- The storage after `granted` rewards of a pool became pending. -/
def accrued (m : MultiPoolManager) (pid : Nat) (info : PoolInfo) (granted : Nat) :
    MultiPoolManager :=
  { m.store pid (granting m.accRewardPerAllocStored granted info) with
    totalPendingRewards := m.totalPendingRewards + granted }

@[simp] theorem poolAt_eq_ok : m.poolAt pid = .ok info ↔ m.pools[pid]? = some info := by
  unfold poolAt
  split <;> simp_all

@[simp] theorem pidOf_eq_ok :
    m.pidOf pool = .ok pid ↔ m.poolPidPlusOne pool ≠ 0 ∧ m.poolPidPlusOne pool - 1 = pid := by
  unfold pidOf
  simp only [bind_eq_ok, require_eq_ok, pure_eq_ok, exists_const]

@[simp] theorem share_eq_ok {allocPoint debt : Nat} :
    m.share allocPoint = .ok debt ↔
      allocPoint * m.accRewardPerAllocStored ≤ Uint256.max ∧
        allocPoint * m.accRewardPerAllocStored / precision = debt := by
  unfold share
  simp only [bind_eq_ok, Uint256.mul_eq_ok, pure_eq_ok]
  constructor
  · rintro ⟨_, ⟨hmax, hscaled⟩, hdebt⟩
    subst hscaled
    exact ⟨hmax, hdebt⟩
  · rintro ⟨hmax, hdebt⟩
    exact ⟨_, ⟨hmax, rfl⟩, hdebt⟩

@[simp] theorem availableUnreservedRewards_eq_ok {available : Nat} :
    m.availableUnreservedRewards = .ok available ↔
      m.totalPendingRewards + m.undistributedRewards ≤ Uint256.max ∧ m.free = available := by
  unfold availableUnreservedRewards
  simp only [bind_eq_ok, Uint256.add_eq_ok, pure_eq_ok]
  have hfree : (if m.totalPendingRewards + m.undistributedRewards <
      m.tokens.balanceOf m.rewardToken m.self then
        m.tokens.balanceOf m.rewardToken m.self -
          (m.totalPendingRewards + m.undistributedRewards) else 0) = m.free := by
    unfold free balance
    split <;> omega
  constructor
  · rintro ⟨_, ⟨hmax, hreserved⟩, havailable⟩
    subst hreserved
    exact ⟨hmax, hfree.symm.trans havailable⟩
  · rintro ⟨hmax, havailable⟩
    exact ⟨_, ⟨hmax, rfl⟩, hfree.trans havailable⟩

theorem addWeight_eq {total allocPoint result : Nat} {active : Bool}
    (h : addWeight total allocPoint active = .ok result) :
    result = total + if active then allocPoint else 0 := by
  unfold addWeight at h
  split at h
  · rw [if_pos ‹_›]
    exact (Uint256.add_eq_ok.mp h).2.symm
  · rw [if_neg ‹_›]
    exact (pure_eq_ok.mp h).symm

theorem removeWeight_eq {total result : Nat}
    (h : removeWeight total info.allocPoint info.active = .ok result) :
    result + weight info = total := by
  unfold removeWeight at h
  unfold weight
  split at h
  · obtain ⟨hle, rfl⟩ := Uint256.sub_eq_ok.mp h
    rw [if_pos ‹_›]
    exact Nat.sub_add_cancel hle
  · rw [if_neg ‹_›]
    exact (pure_eq_ok.mp h).symm

/-- `_accruePool` grants what the pool is owed, at most what is free. -/
theorem accruePool_cases {reward : Nat} (h : m.accruePool pid = .ok (m', reward)) :
    ∃ info, m.pools[pid]? = some info ∧
      reward = info.pendingRewards + min (owing m.accRewardPerAllocStored info) m.free ∧
      m' = m.accrued pid info (min (owing m.accRewardPerAllocStored info) m.free) := by
  unfold accruePool at h
  obtain ⟨info, hinfo, h⟩ := bind_eq_ok.mp h
  refine ⟨info, poolAt_eq_ok.mp hinfo, ?_⟩
  -- when nothing is granted, only the debt is written
  have hnothing : ∀ debt, debt = settledDebt m.accRewardPerAllocStored info →
      owing m.accRewardPerAllocStored info = 0 →
      (m.store pid { info with rewardDebt := debt }, info.pendingRewards) = (m', reward) →
      reward = info.pendingRewards + min (owing m.accRewardPerAllocStored info) m.free ∧
        m' = m.accrued pid info (min (owing m.accRewardPerAllocStored info) m.free) := by
    intro debt hdebt hzero hresult
    obtain ⟨rfl, rfl⟩ := Prod.mk.inj hresult
    rw [hzero, Nat.zero_min, hdebt]
    exact ⟨rfl, rfl⟩
  split at h
  · rename_i hweighted
    simp only [bind_eq_ok, share_eq_ok, Uint256.sub_eq_ok] at h
    obtain ⟨_, ⟨-, rfl⟩, _, ⟨-, rfl⟩, h⟩ := h
    have hdebt : settledDebt m.accRewardPerAllocStored info =
        info.allocPoint * m.accRewardPerAllocStored / precision := if_pos hweighted
    rw [← hdebt] at h
    split at h
    · simp only [bind_eq_ok, availableUnreservedRewards_eq_ok, Uint256.add_eq_ok, pure_eq_ok,
        Prod.mk.injEq] at h
      obtain ⟨_, ⟨-, rfl⟩, _, ⟨-, rfl⟩, _, ⟨-, rfl⟩, rfl, rfl⟩ := h
      have hmin : (if m.free < settledDebt m.accRewardPerAllocStored info - info.rewardDebt then
          m.free else settledDebt m.accRewardPerAllocStored info - info.rewardDebt) =
          min (owing m.accRewardPerAllocStored info) m.free := by
        unfold owing
        split <;> omega
      rw [hmin]
      exact ⟨rfl, rfl⟩
    · refine hnothing _ rfl ?_ (pure_eq_ok.mp h)
      unfold owing
      omega
  · rename_i hidle
    have hdebt : settledDebt m.accRewardPerAllocStored info = 0 := if_neg hidle
    refine hnothing 0 hdebt.symm ?_ (pure_eq_ok.mp h)
    unfold owing
    rw [hdebt, Nat.zero_sub]

/-! ## The invariant -/

structure Books (m : MultiPoolManager) : Prop where
  weights : (m.pools.map weight).sum = m.totalAllocPoint
  pending : (m.pools.map PoolInfo.pendingRewards).sum = m.totalPendingRewards
  debts : ∀ info ∈ m.pools, info.active →
    info.rewardDebt ≤ info.allocPoint * m.accRewardPerAllocStored / precision
  reserved : m.totalPendingRewards + m.undistributedRewards ≤ m.balance
  registered : ∀ pool, m.poolExists pool = true → m.poolPidPlusOne pool ≠ 0
  listed : ∀ pool, m.poolPidPlusOne pool ≠ 0 →
    ∃ info, m.pools[m.poolPidPlusOne pool - 1]? = some info ∧ info.pool = pool
  unapproved : ∀ token spender, m.tokens.allowance token m.self spender = 0
  supply : ∑ a, m.tokens.balanceOf m.rewardToken a ≤ Uint256.max

theorem Initial.books (h : m.Initial) : m.Books where
  weights := by rw [h.pools, h.totalAllocPoint]; rfl
  pending := by rw [h.pools, h.totalPendingRewards]; rfl
  debts := by rw [h.pools]; nofun
  reserved := by rw [h.totalPendingRewards, h.undistributedRewards]; exact Nat.zero_le _
  registered pool hexists := by
    rw [h.poolExists] at hexists
    cases hexists
  listed pool hpid := by
    rw [h.poolPidPlusOne] at hpid
    exact absurd rfl hpid
  unapproved := h.unapproved
  supply := h.supply

theorem Books.balance_le (h : m.Books) : m.balance ≤ Uint256.max :=
  (Finset.single_le_sum (f := m.tokens.balanceOf m.rewardToken) (fun _ _ => Nat.zero_le _)
    (Finset.mem_univ m.self)).trans h.supply

/-- The listing of pools under writes to one of them. -/
theorem getElem?_set_listed {xs : List PoolInfo} {info' : PoolInfo} {i : Nat}
    (hinfo : xs[pid]? = some info) (hsame : info'.pool = info.pool)
    (hlisted : ∃ listed, xs[i]? = some listed ∧ listed.pool = pool) :
    ∃ listed, (xs.set pid info')[i]? = some listed ∧ listed.pool = pool := by
  obtain ⟨listed, hlisted, hpool⟩ := hlisted
  rw [List.getElem?_set]
  split
  · rename_i heq
    subst heq
    obtain rfl := Option.some.inj (hinfo.symm.trans hlisted)
    have hlt : pid < xs.length := (List.getElem?_eq_some_iff.mp hinfo).1
    rw [if_pos hlt]
    exact ⟨info', rfl, hsame.trans hpool⟩
  · exact ⟨listed, hlisted, hpool⟩

/-- Rewriting one pool: the totals follow that pool, and its debt has to be sound. -/
theorem Books.rewrite (h : m.Books) (info' : PoolInfo) (alloc pending : Nat)
    (hinfo : m.pools[pid]? = some info) (hsame : info'.pool = info.pool)
    (hdebt : info'.active →
      info'.rewardDebt ≤ info'.allocPoint * m.accRewardPerAllocStored / precision)
    (halloc : alloc + weight info = m.totalAllocPoint + weight info')
    (hpending : pending + info.pendingRewards = m.totalPendingRewards + info'.pendingRewards)
    (hreserved : pending + m.undistributedRewards ≤ m.balance) :
    Books { m.store pid info' with totalAllocPoint := alloc, totalPendingRewards := pending } where
  weights := by
    have hsum := List.sum_map_set_add weight (y := info') hinfo
    have hbefore := h.weights
    simp only [store]
    omega
  pending := by
    have hsum := List.sum_map_set_add PoolInfo.pendingRewards (y := info') hinfo
    have hbefore := h.pending
    simp only [store]
    omega
  debts := by
    intro other hother hactive
    rcases List.mem_or_eq_of_mem_set hother with hold | rfl
    · exact h.debts other hold hactive
    · exact hdebt hactive
  reserved := hreserved
  registered := h.registered
  listed pool hpid := getElem?_set_listed hinfo hsame (h.listed pool hpid)
  unapproved := h.unapproved
  supply := h.supply

theorem settledDebt_le (accumulator : Nat) (info : PoolInfo) :
    settledDebt accumulator info ≤ info.allocPoint * accumulator / precision := by
  unfold settledDebt
  split
  · exact le_rfl
  · exact Nat.zero_le _

/-- A grant within the free balance keeps the accounting. -/
theorem Books.accrued (h : m.Books) (hinfo : m.pools[pid]? = some info) {granted : Nat}
    (hfree : granted ≤ m.free) : (m.accrued pid info granted).Books := by
  have hreserved := h.reserved
  unfold free at hfree
  exact h.rewrite _ _ _ hinfo rfl (fun _ => settledDebt_le _ _) rfl
    (by simp only [granting]; omega) (by omega)

theorem accruePool_books {reward : Nat} (h : m.Books)
    (haccrue : m.accruePool pid = .ok (m', reward)) : m'.Books := by
  obtain ⟨info, hinfo, -, rfl⟩ := accruePool_cases haccrue
  exact h.accrued hinfo (Nat.min_le_right _ _)

/-- What the pool that was touched looks like afterwards. -/
theorem accrued_getElem? (hinfo : m.pools[pid]? = some info) (granted : Nat) :
    (m.accrued pid info granted).pools[pid]? =
      some (granting m.accRewardPerAllocStored granted info) := by
  have hlt : pid < m.pools.length := (List.getElem?_eq_some_iff.mp hinfo).1
  simp only [MultiPoolManager.accrued, store]
  rw [List.getElem?_set_self hlt]

/-! ## Transactions that leave the rewards alone -/

/-- The transactions that touch the pools or their rewards. -/
def Op.touchesRewards : Op → Bool
  | .addPool .. | .deactivatePool .. | .setPool .. | .distributeRewards ..
  | .claimPoolRewards .. => true
  | _ => false

/-- Nothing the accounting is about changes, and the manager loses no reward token. -/
structure Quiet (m m' : MultiPoolManager) : Prop where
  pools : m'.pools = m.pools
  poolExists : m'.poolExists = m.poolExists
  poolPidPlusOne : m'.poolPidPlusOne = m.poolPidPlusOne
  totalAllocPoint : m'.totalAllocPoint = m.totalAllocPoint
  accRewardPerAllocStored : m'.accRewardPerAllocStored = m.accRewardPerAllocStored
  totalPendingRewards : m'.totalPendingRewards = m.totalPendingRewards
  undistributedRewards : m'.undistributedRewards = m.undistributedRewards
  balance : m.balance ≤ m'.balance
  unapproved : ∀ token spender, m'.tokens.allowance token m'.self spender = 0
  supply : ∑ a, m'.tokens.balanceOf m'.rewardToken a = ∑ a, m.tokens.balanceOf m.rewardToken a

theorem Books.quiet (hb : m.Books) (h : Quiet m m') : m'.Books where
  weights := by rw [h.pools, h.totalAllocPoint]; exact hb.weights
  pending := by rw [h.pools, h.totalPendingRewards]; exact hb.pending
  debts := by rw [h.pools, h.accRewardPerAllocStored]; exact hb.debts
  reserved := by
    rw [h.totalPendingRewards, h.undistributedRewards]
    exact hb.reserved.trans h.balance
  registered := by rw [h.poolExists, h.poolPidPlusOne]; exact hb.registered
  listed := by rw [h.pools, h.poolPidPlusOne]; exact hb.listed
  unapproved := h.unapproved
  supply := h.supply.trans_le hb.supply

theorem Quiet.ledger (m : MultiPoolManager) {tokens : Tokens}
    (hbalance : m.balance ≤ tokens.balanceOf m.rewardToken m.self)
    (hunapproved : ∀ token spender, tokens.allowance token m.self spender = 0)
    (hsupply : ∑ a, tokens.balanceOf m.rewardToken a = ∑ a, m.tokens.balanceOf m.rewardToken a) :
    Quiet m { m with tokens := tokens } :=
  ⟨rfl, rfl, rfl, rfl, rfl, rfl, rfl, hbalance, hunapproved, hsupply⟩

theorem Quiet.administer (h : ∀ token spender, m.tokens.allowance token m.self spender = 0)
    (access : Access) (treasury poolFactory : Address) (paused : Bool) :
    Quiet m { m with
      access := access
      treasury := treasury
      poolFactory := poolFactory
      paused := paused } :=
  ⟨rfl, rfl, rfl, rfl, rfl, rfl, rfl, le_rfl, h, rfl⟩

/-- Movements of tokens by others take nothing from the manager. -/
theorem tokens_quiet {token src dst : Address} {amount : Nat} {tokens : Tokens}
    (hbalance : tokens.balanceOf = (m.tokens.move token src dst amount).balanceOf)
    (hle : amount ≤ m.tokens.balanceOf token src) (hother : m.self = src → amount = 0)
    (hunapproved : ∀ token spender, tokens.allowance token m.self spender = 0) :
    Quiet m { m with tokens := tokens } := by
  refine .ledger m ?_ hunapproved ?_
  · rw [hbalance]
    by_cases hself : m.self = src
    · rw [hother hself, m.tokens.move_zero]
      exact le_rfl
    · exact m.tokens.balanceOf_le_move _ _ _ _ hself _
  · rw [hbalance]
    exact m.tokens.sum_balanceOf_move _ _ _ _ hle _

/-! ## Every transaction -/

section Step

variable (hb : m.Books)
include hb

theorem addPool_books {allocPoint : Nat} {active : Bool}
    (h : m.addPool sender pool allocPoint active = .ok m') : m'.Books := by
  simp only [addPool, onlyOwnerOrPoolFactory, bind_eq_ok, require_eq_ok, pure_eq_ok] at h
  obtain ⟨_, -, _, -, _, hnew, debt, hdebt, total, htotal, rfl⟩ := h
  -- the new pool starts from the share it has not earned
  have hopening : active → debt ≤ allocPoint * m.accRewardPerAllocStored / precision := by
    intro hactive
    simp only [openingDebt, hactive, if_true, share_eq_ok] at hdebt
    exact hdebt.2.ge
  have hweight := addWeight_eq htotal
  refine ⟨?_, ?_, ?_, hb.reserved, ?_, ?_, hb.unapproved, hb.supply⟩
  · have hbefore := hb.weights
    simp only [List.map_append, List.map_cons, List.map_nil, List.sum_append, List.sum_cons,
      List.sum_nil, hbefore, weight, hweight, Nat.add_zero]
  · have hbefore := hb.pending
    simp only [List.map_append, List.map_cons, List.map_nil, List.sum_append, List.sum_cons,
      List.sum_nil, hbefore, Nat.add_zero]
  · intro info hinfo hactive
    rcases List.mem_append.mp hinfo with hold | hadded
    · exact hb.debts info hold hactive
    · obtain rfl := List.mem_singleton.mp hadded
      exact hopening hactive
  -- the identifiers are those of before, and the last one is the pool's own
  · intro other hexists
    by_cases hother : other = pool
    · subst hother
      simp
    · simp only [Function.update_of_ne hother] at hexists ⊢
      exact hb.registered other hexists
  · intro other hpid
    by_cases hother : other = pool
    · subst hother
      refine ⟨⟨other, allocPoint, active, debt, 0⟩, ?_, rfl⟩
      simp only [Function.update_self, Nat.add_sub_cancel]
      exact List.getElem?_concat_length
    · simp only [Function.update_of_ne hother] at hpid ⊢
      obtain ⟨info, hinfo, hsame⟩ := hb.listed other hpid
      refine ⟨info, ?_, hsame⟩
      rw [List.getElem?_append_left (List.getElem?_eq_some_iff.mp hinfo).1]
      exact hinfo

theorem deactivatePool_books (h : m.deactivatePool sender pool = .ok m') : m'.Books := by
  simp only [deactivatePool, onlyOwnerOrPoolFactory, bind_eq_ok, require_eq_ok] at h
  obtain ⟨_, -, pid, -, ⟨m₁, reward⟩, haccrue, info, hinfo, h⟩ := h
  have hb₁ := accruePool_books hb haccrue
  rw [poolAt_eq_ok] at hinfo
  split at h
  · rename_i hactive
    simp only [bind_eq_ok, Uint256.sub_eq_ok, pure_eq_ok] at h
    obtain ⟨_, ⟨hle, rfl⟩, rfl⟩ := h
    refine hb₁.rewrite _ _ _ hinfo rfl (by simp) ?_ rfl hb₁.reserved
    simp only [weight, hactive, if_true]
    exact Nat.sub_add_cancel hle
  · obtain rfl := pure_eq_ok.mp h
    exact hb₁

theorem setPool_books [Ownable] {allocPoint : Nat} {active : Bool}
    (h : m.setPool sender pid allocPoint active = .ok m') : m'.Books := by
  simp only [setPool, bind_eq_ok, require_eq_ok, pure_eq_ok] at h
  obtain ⟨_, -, _, -, ⟨m₁, reward⟩, haccrue, info, hinfo, without, hwithout, total, htotal, debt,
    hdebt, rfl⟩ := h
  have hb₁ := accruePool_books hb haccrue
  rw [poolAt_eq_ok] at hinfo
  have hleft := removeWeight_eq hwithout
  have hright := addWeight_eq htotal
  refine hb₁.rewrite _ _ _ hinfo rfl ?_ ?_ rfl hb₁.reserved
  · intro hactive
    dsimp only at hactive
    simp only [openingDebt, hactive, if_true, share_eq_ok] at hdebt
    exact hdebt.2.ge
  · simp only [weight] at hleft ⊢
    omega

/-- What a distribution carries over was free before or is pulled in. -/
theorem distributeRewards_books {answer : TreasuryAnswer} {totalReward : Nat}
    (h : m.distributeRewards answer sender totalReward = .ok m') : m'.Books := by
  simp only [distributeRewards, pullApprovedToken, bind_eq_ok, require_eq_ok, pure_eq_ok,
    Uint256.add_eq_ok, Uint256.mul_eq_ok, Uint256.div_eq_ok, Uint256.sub_eq_ok] at h
  obtain ⟨_, -, _, -, _, -, _, -, _, -, tokens, ⟨_, hother, hpull⟩, _, ⟨-, rfl⟩, _, ⟨-, rfl⟩, _,
    ⟨-, rfl⟩, _, -, _, ⟨-, rfl⟩, _, ⟨-, rfl⟩, _, ⟨-, rfl⟩, rfl⟩ := h
  split at hpull
  · cases hpull
  obtain ⟨⟨hle, -⟩, rfl⟩ := Ledger.transfer_eq_some.mp (TransferHelper.safeTransfer_eq_ok.mp hpull)
  refine ⟨hb.weights, hb.pending, ?_, ?_, hb.registered, hb.listed, hb.unapproved, ?_⟩
  · intro info hinfo hactive
    refine (hb.debts info hinfo hactive).trans (Nat.div_le_div_right ?_)
    exact Nat.mul_le_mul_left _ (Nat.le_add_right _ _)
  · have hbefore := hb.reserved
    have hpulled := m.tokens.balanceOf_move_of_ne_src m.rewardToken m.treasury m.self totalReward
      (Ne.symm hother) m.rewardToken
    simp only [and_self, if_true] at hpulled
    have hcarried := Nat.sub_le (totalReward + m.undistributedRewards)
      ((totalReward + m.undistributedRewards) * precision / m.totalAllocPoint *
        m.totalAllocPoint / precision)
    simp only [balance] at hbefore ⊢
    rw [hpulled]
    omega
  · rw [m.tokens.sum_balanceOf_move _ _ _ _ hle]
    exact hb.supply

theorem claimPoolRewards_books {reward : Nat}
    (h : m.claimPoolRewards sender pool = .ok (m', reward)) : m'.Books := by
  simp only [claimPoolRewards, bind_eq_ok, require_eq_ok] at h
  obtain ⟨pid, -, _, -, ⟨m₁, accrued⟩, haccrue, h⟩ := h
  have hb₁ := accruePool_books hb haccrue
  obtain ⟨info, hinfo, hreward, hm₁⟩ := accruePool_cases haccrue
  split at h
  · obtain ⟨rfl, -⟩ := Prod.mk.inj (pure_eq_ok.mp h)
    exact hb₁
  · simp only [bind_eq_ok, poolAt_eq_ok, Uint256.sub_eq_ok, TransferHelper.safeTransfer_eq_ok,
      pure_eq_ok, Prod.mk.injEq] at h
    obtain ⟨info₁, hinfo₁, _, ⟨hle, rfl⟩, tokens, htransfer, rfl, -⟩ := h
    -- the pool's pending rewards are what it was granted, and they leave with the total
    have hpending : info₁.pendingRewards = accrued := by
      subst hm₁
      rw [accrued_getElem? hinfo] at hinfo₁
      obtain rfl := Option.some.inj hinfo₁
      exact hreward.symm
    have hreserved := hb₁.reserved
    have hpaid := hb₁.rewrite { info₁ with pendingRewards := 0 } m₁.totalAllocPoint
      (m₁.totalPendingRewards - accrued) hinfo₁ rfl
      (hb₁.debts info₁ (List.mem_of_getElem? hinfo₁)) rfl
      (by dsimp only; omega) (by omega)
    obtain ⟨⟨henough, -⟩, rfl⟩ := Ledger.transfer_eq_some.mp htransfer
    have hadd := m₁.tokens.balanceOf_move_add m₁.rewardToken m₁.self pool accrued henough
      m₁.rewardToken m₁.self
    simp only [true_and, if_true] at hadd
    refine ⟨hpaid.weights, hpaid.pending, hpaid.debts, ?_, hpaid.registered, hpaid.listed,
      hb₁.unapproved, ?_⟩
    · simp only [balance, store] at hreserved ⊢
      omega
    · simp only [store, m₁.tokens.sum_balanceOf_move _ _ _ _ henough]
      exact hb₁.supply

theorem recoverToken_quiet [Ownable] {token dst : Address} {amount : Nat}
    (h : m.recoverToken sender token dst amount = .ok m') : Quiet m m' := by
  simp only [recoverToken, bind_eq_ok, require_eq_ok,
    TransferHelper.safeTransfer_eq_ok, pure_eq_ok] at h
  obtain ⟨_, -, _, -, _, -, _, hother, tokens, htransfer, rfl⟩ := h
  obtain ⟨⟨hle, -⟩, rfl⟩ := Ledger.transfer_eq_some.mp htransfer
  refine .ledger m ?_ hb.unapproved (m.tokens.sum_balanceOf_move _ _ _ _ hle _)
  rw [m.tokens.balanceOf_move_of_token_ne token m.self dst amount hother.symm]
  exact le_rfl

/-- The manager has approved nobody, so nobody moves its tokens. -/
theorem tokenTransferFrom_quiet {token src dst : Address} {amount : Nat} {tokens : Tokens}
    (h : m.tokens.transferFrom Uint256.max token sender src dst amount = some tokens) :
    Quiet m { m with tokens := tokens } := by
  obtain ⟨hle, hbalance⟩ := Ledger.transferFrom_balanceOf h
  refine tokens_quiet hbalance hle ?_ ?_
  · intro hself
    subst hself
    by_contra hpos
    rw [Ledger.transferFrom_eq_none (hb.unapproved _ _) (by decide)
      (Nat.pos_of_ne_zero hpos)] at h
    cases h
  · intro token' spender
    exact Ledger.transferFrom_allowance_eq_zero h (hb.unapproved _ _)

theorem exec_quiet [Ownable] [AccessControl Role] {op : Op} (hother : op.touchesRewards = false) (h : m.exec op = .ok m') :
    Quiet m m' := by
  cases op with
  | recoverToken sender token dst amount => exact recoverToken_quiet hb h
  | setTreasury sender newTreasury =>
    simp only [exec, setTreasury, bind_eq_ok, require_eq_ok, pure_eq_ok] at h
    obtain ⟨_, -, _, -, rfl⟩ := h
    exact .administer hb.unapproved _ newTreasury _ _
  | setPoolFactory sender newPoolFactory =>
    simp only [exec, setPoolFactory, bind_eq_ok, require_eq_ok, pure_eq_ok] at h
    obtain ⟨_, -, _, -, rfl⟩ := h
    exact .administer hb.unapproved _ _ newPoolFactory _
  | pause sender =>
    simp only [exec, pause, bind_eq_ok, require_eq_ok, pure_eq_ok] at h
    obtain ⟨_, -, _, -, rfl⟩ := h
    exact .administer hb.unapproved _ _ _ true
  | unpause sender =>
    simp only [exec, unpause, bind_eq_ok, require_eq_ok, pure_eq_ok] at h
    obtain ⟨_, -, _, -, rfl⟩ := h
    exact .administer hb.unapproved _ _ _ false
  | administer op =>
    simp only [exec, administer, bind_eq_ok, pure_eq_ok] at h
    obtain ⟨access, -, rfl⟩ := h
    exact .administer hb.unapproved access _ _ _
  | tokenTransfer token sender dst amount =>
    simp only [exec, bind_eq_ok, require_eq_ok, TransferHelper.safeTransfer_eq_ok,
      pure_eq_ok] at h
    obtain ⟨_, hother, tokens, htransfer, rfl⟩ := h
    obtain ⟨⟨hle, -⟩, rfl⟩ := Ledger.transfer_eq_some.mp htransfer
    exact tokens_quiet rfl hle (fun hself => absurd hself.symm hother) hb.unapproved
  | tokenTransferFrom token sender src dst amount =>
    simp only [exec, bind_eq_ok, require_eq_ok, TransferHelper.safeTransferFrom_eq_ok,
      pure_eq_ok] at h
    obtain ⟨_, -, tokens, htransfer, rfl⟩ := h
    exact tokenTransferFrom_quiet hb htransfer
  | tokenApprove token sender spender amount =>
    simp only [exec, bind_eq_ok, require_eq_ok, pure_eq_ok] at h
    obtain ⟨_, hother, rfl⟩ := h
    refine .ledger m le_rfl ?_ rfl
    intro token' spender'
    simp only [Ledger.approve, hother.symm, false_and, and_false, if_false]
    exact hb.unapproved _ _
  | _ => cases hother

theorem exec_books [Ownable] [AccessControl Role] {op : Op} (h : m.exec op = .ok m') : m'.Books := by
  cases op with
  | addPool sender pool allocPoint active => exact addPool_books hb h
  | deactivatePool sender pool => exact deactivatePool_books hb h
  | setPool sender pid allocPoint active => exact setPool_books hb h
  | distributeRewards answer sender totalReward => exact distributeRewards_books hb h
  | claimPoolRewards sender pool =>
    obtain ⟨⟨m₁, reward⟩, hclaim, h⟩ := bind_eq_ok.mp h
    obtain rfl := pure_eq_ok.mp h
    exact claimPoolRewards_books hb hclaim
  | _ => exact hb.quiet (exec_quiet hb rfl h)

end Step

theorem reachable_books [Ownable] [AccessControl Role] (h : system.Reachable m) : m.Books := by
  refine System.Reachable.invariant (I := Books) ?_ ?_ h
  · exact fun m hinit => hinit.books
  · exact fun m op m' hb hstep => exec_books hb hstep

/-! ## Claims -/

/-- One pool's pending rewards are part of the total. -/
theorem Books.pending_le (hb : m.Books) (hinfo : m.pools[pid]? = some info) :
    info.pendingRewards ≤ m.totalPendingRewards := by
  rw [← hb.pending]
  exact List.single_le_sum (fun _ _ => Nat.zero_le _) _
    (List.mem_map_of_mem (List.mem_of_getElem? hinfo))

/-- Only the product of a pool's weight and the accumulator can overflow: the sums are
    within the balance. -/
theorem accruePool_avoids {bad : Revert → Prop} (hb : m.Books) (hinfo : m.pools[pid]? = some info)
    (hfits : bad (.panic .overflow) → info.active ∧ 0 < info.allocPoint →
      info.allocPoint * m.accRewardPerAllocStored ≤ Uint256.max) :
    (m.accruePool pid).Avoids bad := by
  have hmax := hb.balance_le
  have hreserved := hb.reserved
  have hpending := hb.pending_le hinfo
  unfold accruePool
  refine (Avoids.of_ok (poolAt_eq_ok.mpr hinfo)).bind ?_
  intro info' hinfo'
  obtain rfl := Option.some.inj (hinfo.symm.trans (poolAt_eq_ok.mp hinfo'))
  refine .ite ?_ (fun _ => .pure)
  intro hweighted
  refine Avoids.bind ((Uint256.mul_avoids fun hbad => hfits hbad hweighted).bind fun _ _ => .pure) ?_
  intro debt hdebt
  obtain ⟨-, rfl⟩ := share_eq_ok.mp hdebt
  have hbehind := hb.debts info (List.mem_of_getElem? hinfo) hweighted.1
  refine (Uint256.sub_avoids hbehind).bind ?_
  intro newlyAccrued _
  refine .ite ?_ (fun _ => .pure)
  intro _
  refine Avoids.bind ((Uint256.add_avoids fun _ => hreserved.trans hmax).bind fun _ _ => .pure) ?_
  intro available havailable
  obtain ⟨-, rfl⟩ := availableUnreservedRewards_eq_ok.mp havailable
  -- no more is granted than is free, so neither sum overflows
  have hgranted : (if m.free < newlyAccrued then m.free else newlyAccrued) ≤ m.free := by
    split <;> omega
  have hfree : m.totalPendingRewards + m.free ≤ Uint256.max := by
    unfold free
    omega
  refine Avoids.bind (Uint256.add_avoids fun _ => ?_) ?_
  · omega
  intro _ _
  refine Avoids.bind (Uint256.add_avoids fun _ => ?_) fun _ _ => .pure
  omega

/-- The claim of a registered pool can fail in no other way. -/
theorem claimPoolRewards_avoids {bad : Revert → Prop} (hb : m.Books)
    (hregistered : m.poolPidPlusOne pool ≠ 0)
    (hinfo : m.pools[m.poolPidPlusOne pool - 1]? = some info)
    (haccepts : m.tokens.refuses m.rewardToken pool = false)
    (hfits : bad (.panic .overflow) → info.active ∧ 0 < info.allocPoint →
      info.allocPoint * m.accRewardPerAllocStored ≤ Uint256.max) :
    (m.claimPoolRewards pool pool).Avoids bad := by
  unfold claimPoolRewards
  refine (Avoids.of_ok (pidOf_eq_ok.mpr ⟨hregistered, rfl⟩)).bind ?_
  intro pid hpid
  obtain ⟨-, rfl⟩ := pidOf_eq_ok.mp hpid
  refine Avoids.bind (.of_ok (a := ()) (require_eq_ok.mpr rfl)) ?_
  intro _ _
  refine (accruePool_avoids hb hinfo hfits).bind ?_
  intro ⟨m₁, reward⟩ haccrue
  have hb₁ := accruePool_books hb haccrue
  obtain ⟨info', hinfo', hreward, hm₁⟩ := accruePool_cases haccrue
  have hinfo₁ := accrued_getElem? hinfo' (min (owing m.accRewardPerAllocStored info') m.free)
  rw [← hm₁] at hinfo₁
  have hpending : reward ≤ m₁.totalPendingRewards := by
    have hle := hb₁.pending_le hinfo₁
    rw [hreward]
    exact hle
  refine .ite (fun _ => .pure) ?_
  intro _
  refine (Avoids.of_ok (poolAt_eq_ok.mpr hinfo₁)).bind ?_
  intro _ _
  refine (Uint256.sub_avoids hpending).bind ?_
  intro _ _
  -- what is pending is covered by the balance
  have hcovered : reward ≤ m₁.tokens.balanceOf m₁.rewardToken m₁.self :=
    hpending.trans ((Nat.le_add_right _ _).trans hb₁.reserved)
  have hsame : m₁.tokens.refuses m₁.rewardToken pool = false := by
    subst hm₁
    exact haccepts
  refine Avoids.bind (.of_ok (TransferHelper.safeTransfer_eq_ok.mpr
    (Ledger.transfer_eq_some.mpr ⟨⟨hcovered, hsame⟩, rfl⟩))) ?_
  exact fun _ _ => .pure

theorem sum_weight_eq (pools : List PoolInfo) :
    (pools.map weight).sum = ((pools.filter PoolInfo.active).map PoolInfo.allocPoint).sum := by
  induction pools with
  | nil => rfl
  | cons info pools ih =>
    cases hactive : info.active with
    | true => simp [weight, hactive, ih]
    | false => simp [weight, hactive, ih]

/-- In every state of every run the totals of the manager are the sums over its pools, no
    debt is ahead of the accumulator, and the balance covers what is pending and what is
    carried over; so a claim of a registered pool can only fail by an overflow. -/
theorem manager_accounts [Ownable] [AccessControl Role] (h : system.Reachable m) :
    m.totalAllocPoint = ((m.pools.filter PoolInfo.active).map PoolInfo.allocPoint).sum ∧
    m.totalPendingRewards = (m.pools.map PoolInfo.pendingRewards).sum ∧
    (∀ info ∈ m.pools, info.active →
      info.rewardDebt ≤ info.allocPoint * m.accRewardPerAllocStored / precision) ∧
    m.totalPendingRewards + m.undistributedRewards ≤ m.tokens.balanceOf m.rewardToken m.self ∧
    ∀ pool, m.poolExists pool = true → m.tokens.refuses m.rewardToken pool = false →
      (m.claimPoolRewards pool pool).Avoids (· ≠ .panic .overflow) := by
  have hb := reachable_books h
  refine ⟨?_, hb.pending.symm, hb.debts, hb.reserved, ?_⟩
  · rw [← sum_weight_eq]
    exact hb.weights.symm
  · intro pool hpool haccepts
    have hregistered := hb.registered pool hpool
    obtain ⟨info, hinfo, -⟩ := hb.listed pool hregistered
    exact claimPoolRewards_avoids hb hregistered hinfo haccepts fun hbad => absurd rfl hbad

namespace Example

def admin : Address := 1
def vault : Address := 2
def distributor : Address := 3
def firstPool : Address := 4
def secondPool : Address := 5

/-- A manager with a funded treasury. -/
def start : MultiPoolManager where
  self := 6
  rewardToken := 7
  access := {
    owner := admin
    operator := distributor
    hasRole := ((Roles.write (fun _ _ => false) .defaultAdmin admin true).write .pauser admin
      true).write .operator distributor true }
  treasury := vault
  poolFactory := Address.zero
  totalAllocPoint := 0
  accRewardPerAllocStored := 0
  totalPendingRewards := 0
  undistributedRewards := 0
  paused := false
  pools := []
  poolExists := fun _ => false
  poolPidPlusOne := fun _ => 0
  tokens := {
    balanceOf := fun _ a => if a = vault then 10 ^ 20 else 0
    allowance := fun _ _ _ => 0
    refuses := fun _ _ => false }

theorem start_initial : start.Initial where
  totalAllocPoint := rfl
  accRewardPerAllocStored := rfl
  totalPendingRewards := rfl
  undistributedRewards := rfl
  pools := rfl
  poolExists := rfl
  poolPidPlusOne := rfl
  unapproved _ _ := rfl
  supply := by
    simp only [start, Finset.sum_ite_eq', Finset.mem_univ, if_true]
    decide

/-- A treasury that lets the manager pull. -/
def willing : TreasuryAnswer := { paused := false, pull := .ok () }

end Example

open OpenZeppelin Example in
theorem manager_accounts_two_pools :
    ∃ m, system.Reachable m ∧ m.totalAllocPoint = 4 ∧ m.undistributedRewards = 0 ∧
      m.totalPendingRewards + m.undistributedRewards ≤ m.tokens.balanceOf m.rewardToken m.self := by
  have hrun : (System.runWith exec (fun _ _ => True) start
      [.addPool admin firstPool 1 true, .addPool admin secondPool 3 true,
        .distributeRewards willing distributor 8, .claimPoolRewards firstPool firstPool,
        .deactivatePool admin secondPool, .setPool admin 0 4 true]).map
      (fun m => (m.totalAllocPoint, m.undistributedRewards)) = some (4, 0) := by
    decide +kernel
  obtain ⟨m, hm, hsummary⟩ := Option.map_eq_some_iff.mp hrun
  obtain ⟨htotal, hcarried⟩ := Prod.mk.inj hsummary
  have hreach : system.Reachable m := System.reachableWith_of_runWith (.init start_initial) hm
  exact ⟨m, hreach, htotal, hcarried, (manager_accounts hreach).2.2.2.1⟩

end MultiPoolManager
