-- SUMMARY: Every staker receives the pro rata share of the rewards, and the pool falls short, by at most one unit for each change of a stake.
import FluxSwap.Staking.Distribution

/-!
# Pro rata rewards

What a pool is for: whatever rewards it hands out are divided among the stakers of that
moment in proportion to their stakes. The pool keeps no such division, only an accumulator
and a snapshot of it for each account. This file states the division over the history of a
run. An account's rewards, taken and still earned, are off it by at most one unit for each
change of anybody's stake and for each settlement of the account itself, and by as many
units as stakes have changed the pool may owe more than it holds.
-/

namespace StakingRewards

open Exec

variable {s s' x : StakingRewards} {a : Address} {log : System.History StakingRewards Op}

/-! ## The ideal division -/

/-- All runs of a pool, with their histories. -/
def runs : System (StakingRewards × System.History StakingRewards Op) Op :=
  .ofCallsLogged Initial exec

/-- The rewards that a transaction from `x` to `s'` hands out to the stakers. -/
def released (x s' : StakingRewards) : Nat :=
  s'.handed (x.sharing s').totalStaked - x.handed (x.sharing s').totalStaked

/-- The part of them that falls to an account. -/
def fairPart (x s' : StakingRewards) (a : Address) : ℚ :=
  ProRata.part (x.released s') ((x.sharing s').balanceOf a) (x.sharing s').totalStaked

/-- The pro rata share of an account in a run that has led to `s`. -/
def fairShare (a : Address) : StakingRewards → System.History StakingRewards Op → ℚ
  | _, [] => 0
  | s, (x, _) :: log => fairShare a x log + x.fairPart s a

/-- The rewards that have been handed out in a run that has led to `s`. -/
def totalReleased : StakingRewards → System.History StakingRewards Op → Nat
  | _, [] => 0
  | s, (x, _) :: log => totalReleased x log + x.released s

/-- The rewards that an account has taken in a run that has led to `s`. -/
def totalTaken (a : Address) : StakingRewards → System.History StakingRewards Op → Nat
  | _, [] => 0
  | s, (x, op) :: log => totalTaken a x log + op.taken a x s

def totalArrived (log : System.History StakingRewards Op) : Nat :=
  (log.map fun entry => entry.2.arrived entry.1).sum

def totalRecovered (log : System.History StakingRewards Op) : Nat :=
  (log.map fun entry => entry.2.recovered entry.1).sum

def restakings (log : System.History StakingRewards Op) : Nat :=
  (log.map fun entry => entry.2.restakes.toNat).sum

def settlements (a : Address) (log : System.History StakingRewards Op) : Nat :=
  (log.map fun entry => (entry.2.settles a).toNat).sum

/-! ## The invariant -/

/-- The lag of the accumulator, for one account. -/
def lag (s : StakingRewards) (a : Address) : ℚ :=
  ProRata.lag precision s.rewardPerTokenStored (s.balanceOf a) s.totalStaked

theorem Books.lag_bounds (h : s.Books) (a : Address) : 0 ≤ s.lag a ∧ s.lag a < 1 :=
  ⟨ProRata.lag_nonneg _ _ _ _, ProRata.lag_lt_one precision_pos (h.balance_le a)⟩

/-- What the account's stakes have accrued in all, in whole rewards and fractions: it follows
    the pro rata share, and the account has been credited with it but for what its settlements
    have cut off. -/
structure Tracks (s : StakingRewards) (log : System.History StakingRewards Op) (a : Address)
    (accrued : ℚ) : Prop where
  follows : ProRata.Follows accrued (fairShare a s log) (s.lag a) (restakings log)
  upper : totalTaken a s log + (s.scaledEntitlement a : ℚ) / precision ≤ accrued
  lower : accrued ≤ totalTaken a s log + settlements a log + (s.scaledEntitlement a : ℚ) / precision

/-- The invariant. The units that have been dropped from the queue and those that the reserve
    lacks are together as many at most as stakes have changed. -/
structure Divided (s : StakingRewards) (log : System.History StakingRewards Op) : Prop where
  books : s.Books
  spends : totalReleased s log + s.queuedRewards + totalRecovered log ≤ totalArrived log
  backing : ∃ n, (s.backed n).Solvent ∧
    totalArrived log + n ≤
      totalReleased s log + s.queuedRewards + totalRecovered log + restakings log
  sums : ∑ a, fairShare a s log = totalReleased s log
  tracks : ∀ a, ∃ accrued, s.Tracks log a accrued

theorem Initial.divided (h : s.Initial) : s.Divided [] where
  books := h.solvent.toBooks
  spends := by simp [totalReleased, totalArrived, totalRecovered, h.queuedRewards]
  backing := ⟨0, h.solvent, by simp [totalArrived]⟩
  sums := by simp [fairShare, totalReleased]
  tracks a := by
    have hentitlement : s.scaledEntitlement a = 0 := by
      simp [scaledEntitlement, h.rewards, h.balanceOf]
    refine ⟨0, ?_, ?_, ?_⟩
    · simp [ProRata.Follows, fairShare, restakings, lag, ProRata.lag, ProRata.part, h.balanceOf]
    · simp [totalTaken, hentitlement]
    · simp [totalTaken, settlements, hentitlement]

/-! ## Steps -/

/-- Whatever is handed out is handed out in full. -/
theorem sum_fairPart (hx : x.Books) (hs' : s'.Books) : ∑ a, x.fairPart s' a = x.released s' := by
  have hsharing : (x.sharing s').Books := by
    unfold sharing
    split
    · exact hs'
    · exact hx
  rcases Nat.eq_zero_or_pos (x.sharing s').totalStaked with hnone | hsome
  · simp [fairPart, released, hnone, handed, ProRata.part, ProRata.handed]
  · refine ProRata.sum_part Finset.univ _ _ ?_ (Nat.cast_ne_zero.mpr (Nat.ne_of_gt hsome))
    rw [← hsharing.staked, Nat.cast_sum]

/-- What a weight accrues with a transaction, in rewards. -/
def growth (x s' : StakingRewards) (weight : Nat) : ℚ :=
  ((weight * (s'.rewardPerTokenStored - x.rewardPerTokenStored) : ℕ) : ℚ) / precision

theorem growth_eq {weight total : Nat} (hgrows : x.rewardPerTokenStored ≤ s'.rewardPerTokenStored)
    (hle : weight ≤ total) :
    x.growth s' weight =
      ProRata.part ((s'.handed total - x.handed total : ℕ) : ℚ) weight total +
        (ProRata.lag precision s'.rewardPerTokenStored weight total -
          ProRata.lag precision x.rewardPerTokenStored weight total) :=
  ProRata.accrued_eq precision_pos hgrows hle

/-- What the account accrues with a transaction follows its part of what is handed out: among
    the stakes that the transaction finds, and then a stake may change; or the first stake is
    made, and then it is handed out. -/
theorem follows_step {op : Op} {accrued : ℚ} (hx : x.Books) (hs' : s'.Books)
    (h : ProRata.Follows accrued (fairShare a x log) (x.lag a) (restakings log))
    (hgrows : x.rewardPerTokenStored ≤ s'.rewardPerTokenStored)
    (hstakes : op.restakes = false → SameStakes x s') :
    ProRata.Follows (accrued + x.growth s' ((x.sharing s').balanceOf a))
      (fairShare a s' ((x, op) :: log)) (s'.lag a) (restakings ((x, op) :: log)) := by
  have hold := hx.lag_bounds a
  have hnew := hs'.lag_bounds a
  have hcount : restakings ((x, op) :: log) = restakings log + op.restakes.toNat := by
    rw [restakings, restakings, List.map_cons, List.sum_cons, Nat.add_comm]
  rw [hcount, fairShare, fairPart, released]
  by_cases hnone : x.totalStaked = 0
  -- with nobody staking, whoever stakes first shares what was left
  · have hsharing : x.sharing s' = s' := if_pos hnone
    rw [hsharing]
    refine ProRata.Follows.release ?_ (growth_eq hgrows (hs'.balance_le a))
    cases hop : op.restakes with
    | true =>
      exact h.reweigh hold.1 hold.2 (ProRata.lag_nonneg _ _ _ _)
        (ProRata.lag_lt_one precision_pos (hs'.balance_le a))
    | false =>
      have hsame := hstakes hop
      rw [hsame.balanceOf, hsame.totalStaked]
      exact h
  · have hsharing : x.sharing s' = x := if_neg hnone
    rw [hsharing]
    -- the release is shared by the old stakes, and then they may change
    have hreleased := h.release (growth_eq hgrows (hx.balance_le a))
    cases hop : op.restakes with
    | true =>
      exact hreleased.reweigh (ProRata.lag_nonneg _ _ _ _)
        (ProRata.lag_lt_one precision_pos (hx.balance_le a)) hnew.1 hnew.2
    | false =>
      have hsame := hstakes hop
      rw [lag, hsame.balanceOf, hsame.totalStaked]
      exact hreleased

theorem Tracks.step {op : Op} {accrued : ℚ} (hx : x.Books) (h : x.Tracks log a accrued)
    (hexec : x.exec op = .ok s') :
    s'.Tracks ((x, op) :: log) a (accrued + x.growth s' ((x.sharing s').balanceOf a)) := by
  obtain ⟨⟨restaked, -, hd⟩, hstakes⟩ := exec_distributes hx a hexec
  have hscale : (0 : ℚ) < precision := Nat.cast_pos.mpr precision_pos
  have hcount : settlements a ((x, op) :: log) = settlements a log + (op.settles a).toNat := by
    rw [settlements, settlements, List.map_cons, List.sum_cons, Nat.add_comm]
  have hupper : (precision * op.taken a x s' + s'.scaledEntitlement a : ℚ) ≤
      x.scaledEntitlement a + ((x.sharing s').balanceOf a *
        (s'.rewardPerTokenStored - x.rewardPerTokenStored) : ℕ) := by
    exact_mod_cast hd.upper
  have hlower : (x.scaledEntitlement a + ((x.sharing s').balanceOf a *
        (s'.rewardPerTokenStored - x.rewardPerTokenStored) : ℕ) : ℚ) ≤
      precision * (op.taken a x s' + (op.settles a).toNat) + s'.scaledEntitlement a := by
    exact_mod_cast hd.lower
  rw [← div_le_div_iff_of_pos_right hscale, add_div, add_div, mul_div_cancel_left₀ _ hscale.ne']
    at hupper hlower
  have hold := h.upper
  have hold' := h.lower
  refine ⟨follows_step hx hd.books h.follows hd.grows hstakes, ?_, ?_⟩
  · rw [totalTaken, Nat.cast_add, growth]
    linarith
  · rw [totalTaken, hcount, Nat.cast_add, Nat.cast_add, growth]
    linarith

theorem Divided.step {op : Op} (h : x.Divided log) (hexec : x.exec op = .ok s') :
    s'.Divided ((x, op) :: log) := by
  obtain ⟨⟨restaked, hrestaked, hd⟩, -⟩ := exec_distributes h.books Address.zero hexec
  have hmono : x.handed (x.sharing s').totalStaked ≤ s'.handed (x.sharing s').totalStaked :=
    ProRata.handed_mono precision _ hd.grows
  refine ⟨hd.books, ?_, ?_, ?_, ?_⟩
  · have hold := h.spends
    have hspends := hd.spends
    simp only [totalReleased, released, totalArrived, totalRecovered, List.map_cons, List.sum_cons]
      at hold hspends ⊢
    omega
  · obtain ⟨n, hn, hold⟩ := h.backing
    obtain ⟨n', hn', hle⟩ := hd.backing n hn
    refine ⟨n', hn', ?_⟩
    simp only [totalReleased, released, totalArrived, totalRecovered, restakings, List.map_cons,
      List.sum_cons] at hold hle ⊢
    omega
  · simp only [fairShare, totalReleased]
    rw [Finset.sum_add_distrib, h.sums, sum_fairPart h.books hd.books, Nat.cast_add]
  · intro a
    obtain ⟨accrued, htracks⟩ := h.tracks a
    exact ⟨_, htracks.step h.books hexec⟩

theorem reachable_divided (h : runs.Reachable (s, log)) : s.Divided log := by
  refine System.ReachableWith.invariant_logged (I := Divided) ?_ ?_ h
  · exact fun s hinit => hinit.divided
  · exact fun s log op s' hI _ hexec => hI.step hexec

/-! ## What a staker receives -/

/-- The entitlement is what is owed, rounded down. -/
theorem entitlement_bounds (s : StakingRewards) (a : Address) :
    (s.entitlement a : ℚ) ≤ (s.scaledEntitlement a : ℚ) / precision ∧
      (s.scaledEntitlement a : ℚ) / precision < s.entitlement a + 1 := by
  have hscale : (0 : ℚ) < precision := Nat.cast_pos.mpr precision_pos
  have hsplit := Nat.div_add_mod
    (s.balanceOf a * (s.rewardPerTokenStored - s.userRewardPerTokenPaid a)) precision
  have hfraction := Nat.mod_lt
    (s.balanceOf a * (s.rewardPerTokenStored - s.userRewardPerTokenPaid a)) precision_pos
  have hle : precision * s.entitlement a ≤ s.scaledEntitlement a := by
    unfold entitlement accrued scaledEntitlement
    rw [Nat.mul_add]
    omega
  have hlt : s.scaledEntitlement a < precision * (s.entitlement a + 1) := by
    unfold entitlement accrued scaledEntitlement
    simp only [Nat.mul_add, Nat.mul_one]
    omega
  constructor
  · rw [le_div_iff₀ hscale, mul_comm]
    exact_mod_cast hle
  · rw [div_lt_iff₀ hscale, mul_comm]
    exact_mod_cast hlt

/-- In every run, what an account has taken and still earns is its pro rata share of the
    rewards that have been handed out, up to one unit for each change of a stake and each
    settlement of the account. The shares add up to what has been handed out; of what has
    arrived the rest is queued, recovered by the owner, or among as many units as stakes have
    changed. -/
theorem rewards_pro_rata (h : runs.Reachable (s, log)) :
    (∀ a, fairShare a s log - (restakings log + settlements a log + 1) <
        totalTaken a s log + s.entitlement a ∧
      totalTaken a s log + s.entitlement a < fairShare a s log + restakings log + 1) ∧
    ∑ a, fairShare a s log = totalReleased s log ∧
    totalReleased s log + s.queuedRewards + totalRecovered log ≤ totalArrived log ∧
    totalArrived log ≤
      totalReleased s log + s.queuedRewards + totalRecovered log + restakings log := by
  have hd := reachable_divided h
  refine ⟨fun a => ?_, hd.sums, hd.spends, ?_⟩
  · obtain ⟨accrued, htracks⟩ := hd.tracks a
    obtain ⟨hlag, hone⟩ := hd.books.lag_bounds a
    obtain ⟨hideal, hideal'⟩ := htracks.follows.bounds hlag hone
    obtain ⟨hwhole, hwhole'⟩ := s.entitlement_bounds a
    have hupper := htracks.upper
    have hlower := htracks.lower
    constructor <;> linarith
  · obtain ⟨n, -, hle⟩ := hd.backing
    omega

open Example in
/-- In the uneven run Alice is owed 7 of the 9 rewards, of which 19 / 3 are her share. -/
theorem rewards_pro_rata_unevenRun :
    ∃ s log, runs.Reachable (s, log) ∧ totalReleased s log = 9 ∧
      fairShare alice s log - (2 + 1 + 1) < 7 ∧ 7 < fairShare alice s log + 2 + 1 := by
  have hrun : (System.runWith (System.logged exec) (fun _ _ => True) (start, []) unevenRun).map
      (fun r => (totalReleased r.1 r.2, restakings r.2, settlements alice r.2,
        totalTaken alice r.1 r.2, r.1.entitlement alice)) = some (9, 2, 1, 0, 7) := by
    decide +kernel
  obtain ⟨⟨s, log⟩, hs, houtcome⟩ := Option.map_eq_some_iff.mp hrun
  simp only [Prod.mk.injEq] at houtcome
  obtain ⟨hreleased, hrestakings, hsettlements, htaken, hentitlement⟩ := houtcome
  have hreach : runs.Reachable (s, log) :=
    System.reachableWith_of_runWith (.init ⟨start_initial, rfl⟩) hs
  obtain ⟨hlower, hupper⟩ := (rewards_pro_rata hreach).1 alice
  rw [hrestakings, hsettlements, htaken, hentitlement] at hlower
  rw [hrestakings, htaken, hentitlement] at hupper
  norm_num at hlower hupper
  refine ⟨s, log, hreach, hreleased, ?_, ?_⟩
  · linarith
  · linarith

/-- In every run the rewards that the pool owes exceed its reserve by at most one unit for each
    change of a stake. -/
theorem shortfall_bounded (h : runs.Reachable (s, log)) :
    ∑ a, s.entitlement a ≤ s.rewardReserve + restakings log := by
  have hd := reachable_divided h
  obtain ⟨n, hn, hle⟩ := hd.backing
  have hspends := hd.spends
  have howed : ∑ a, s.entitlement a ≤ s.rewardReserve + n := hn.sum_entitlement_le
  omega

open Example in
/-- After the uneven run the pool owes one unit more than it holds. -/
theorem shortfall_bounded_unevenRun :
    ∃ s log, runs.Reachable (s, log) ∧ s.rewardReserve = 9 ∧
      s.entitlement alice + s.entitlement bob = 10 ∧ ∑ a, s.entitlement a ≤ 9 + 2 := by
  have hrun : (System.runWith (System.logged exec) (fun _ _ => True) (start, []) unevenRun).map
      (fun r => (r.1.rewardReserve, restakings r.2, r.1.entitlement alice + r.1.entitlement bob)) =
        some (9, 2, 10) := by
    decide +kernel
  obtain ⟨⟨s, log⟩, hs, houtcome⟩ := Option.map_eq_some_iff.mp hrun
  simp only [Prod.mk.injEq] at houtcome
  obtain ⟨hreserve, hrestakings, howed⟩ := houtcome
  have hreach : runs.Reachable (s, log) :=
    System.reachableWith_of_runWith (.init ⟨start_initial, rfl⟩) hs
  have hbound := shortfall_bounded hreach
  rw [hreserve, hrestakings] at hbound
  exact ⟨s, log, hreach, hreserve, howed, hbound⟩

end StakingRewards
