-- SUMMARY: A claim excludes other claims and cancellations until its outcome is recorded, unless a receipt check takes it for an interrupted submission.
import FluxSwap.Backend.Workers

/-!
# Claim exclusion

While an instance holds a claim, the order is in `submitting_execute`, in which nobody can
claim or cancel it. Only the receipt loop of another instance can end this early: it takes
every order in this status for one whose instance has stopped.
-/

namespace Backend

open Status

/-- The instance has claimed the order and has not recorded the outcome yet. -/
def Task.Holds (key : OrderKey) : Task → Prop
  | .claimed k _ _ _ | .submitted k _ _ _ => k = key
  | _ => False

instance (key : OrderKey) : DecidablePred (Task.Holds key)
  | .claimed k _ _ _ | .submitted k _ _ _ => inferInstanceAs (Decidable (k = key))
  | .idle | .scanning _ | .reconciling _ | .promoted _ _ | .tracking _ _ _ =>
    inferInstanceAs (Decidable False)

/-- The step is a receipt check of an order that was loaded in `submitting_execute`. -/
def Task.TakesForInterrupted (key : OrderKey) (task : Task) (act : Act) : Prop :=
  ∃ answers order rest, act = .checkPendingReceipt answers ∧
    task = .reconciling ((key, order) :: rest) ∧ order.status = submittingExecute

namespace State

/-- The step claims the order for the instance. -/
def Claims (s : State) (op : Op) (i : Nat) (key : OrderKey) : Prop :=
  ∃ answers order rest, op = .worker i (.evaluateOrder answers) ∧
    s.tasks i = .scanning ((key, order) :: rest) ∧
    (beginEvaluation answers s.db key order).2.isSome

/-- The step registers a cancellation of the order. -/
def RegistersCancel (s : State) (op : Op) (key : OrderKey) : Prop :=
  ∃ cancelTxHash, op = .cancelOrders key cancelTxHash ∧
    s.db.hasStatusIn key (registerCancel cancelTxHash).statuses

/-- No receipt check takes an order for an interrupted submission while an instance holds a
    claim of it. -/
def RespectsClaims (s : State) (op : Op) : Prop :=
  ∀ i act key, op = .worker i act → (s.tasks i).TakesForInterrupted key act →
    ∀ j, ¬(s.tasks j).Holds key

end State

/-- The steps of instances and of `CancelOrders` requests in which claims are respected. -/
def ClaimsRespected (r : State × System.History State Op) (op : Op) : Prop :=
  op.isEvent = false ∧ r.1.RespectsClaims op

/-- Runs of instances and of requests with their history. -/
def backend (cfg : Config) : System (State × System.History State Op) Op :=
  System.ofCallsLogged State.Initial (exec cfg)

/-! ## Steps -/

namespace Task.Step

variable {cfg : Config} {db db' : Database} {task task' : Task} {act : Act} {key : OrderKey}

/-- An instance that holds a claim after a step held it before, or has just made it. -/
theorem holds (h : Task.Step cfg db task act db' task') (hold : task'.Holds key) :
    (task.Holds key ∧ db' = db) ∨
      (db.statusOf key = some opened ∧ db'.statusOf key = some submittingExecute ∧
        ∃ answers order rest, act = .evaluateOrder answers ∧
          task = .scanning ((key, order) :: rest) ∧
          (beginEvaluation answers db key order).2.isSome) := by
  cases h with
  | submit => exact .inl ⟨hold, rfl⟩
  | claim hbegin =>
    cases hold
    obtain ⟨hopen, rfl, hrow⟩ := beginEvaluation_some hbegin
    refine .inr ⟨hopen, ?_, _, _, _, rfl, rfl, by rw [hbegin]; rfl⟩
    obtain ⟨row, hopened, hst⟩ := Option.map_eq_some_iff.mp hopen
    unfold Database.statusOf
    rw [Database.orders_update, if_pos rfl, hopened, Option.map_some, Option.map_some,
      Update.apply, if_pos (by rw [hst]; rfl)]
    rfl
  | check hbegin =>
    exfalso
    unfold beginCheck at hbegin
    split at hbegin
    · split at hbegin <;> cases hbegin <;> exact hold
    · split at hbegin <;> cases hbegin <;> exact hold
  | @skip task task' hrest =>
    cases task with
    | scanning orders => cases orders <;> cases hrest <;> exact hold.elim
    | reconciling orders => cases orders <;> cases hrest <;> exact hold.elim
    | _ => cases hrest <;> exact hold.elim
  | _ => exact hold.elim

/-- An order in `submitting_execute` stays there in the steps of an instance that does not
    hold it and does not take it for an interrupted submission. -/
theorem keeps_submitting (h : Task.Step cfg db task act db' task')
    (hst : db.statusOf key = some submittingExecute) (hnot : ¬task.Holds key)
    (hcheck : ¬task.TakesForInterrupted key act) :
    db'.statusOf key = some submittingExecute := by
  cases h with
  | pass hbegin =>
    rcases beginEvaluation_none hbegin with rfl | ⟨error, rfl⟩
    · exact hst
    · exact Database.statusOf_update hst fun _ => by simp [payloadInvalid]
  -- a claim takes no order that is being submitted
  | claim hbegin =>
    obtain ⟨-, rfl, -⟩ := beginEvaluation_some hbegin
    exact Database.statusOf_update hst fun _ => by simp [Database.claim]
  | close => exact Database.statusOf_update hst fun heq => (hnot heq.symm).elim
  | record => exact Database.statusOf_update hst fun heq => (hnot heq.symm).elim
  -- only the check of an interrupted submission may move it
  | @check key' order rest answers _ _ hbegin =>
    have hother : order.status = submittingExecute → key ≠ key' := by
      rintro hsub rfl
      exact hcheck ⟨answers, order, rest, rfl, rfl, hsub⟩
    unfold beginCheck at hbegin
    split at hbegin
    · split at hbegin <;> cases hbegin <;>
        exact Database.statusOf_update hst fun heq => (hother ‹_› heq).elim
    · split at hbegin <;> cases hbegin
      · exact Database.statusOf_update hst fun _ =>
          (checkPendingReceipt_decides ‹_›).submitting_notMem
      · exact hst
  | track =>
    unfold finishCheck
    split
    · exact Database.statusOf_update hst fun _ =>
        (checkPendingReceipt_decides ‹_›).submitting_notMem
    · exact hst
  | _ => exact hst

end Task.Step

/-! ## Runs -/

/-- A claimed order is in `submitting_execute`, and one instance holds its claim. -/
structure Exclusive (s : State) : Prop where
  submitting : ∀ i key, (s.tasks i).Holds key → s.db.statusOf key = some submittingExecute
  unique : ∀ i j key, (s.tasks i).Holds key → (s.tasks j).Holds key → i = j

namespace Exclusive

variable {cfg : Config} {s s' : State}

theorem initial (h : s.Initial) : Exclusive s where
  submitting i key hold := by
    rw [h] at hold
    exact hold.elim
  unique i j key hold := by
    rw [h] at hold
    exact hold.elim

theorem not_claims (h : Exclusive s) {i j : Nat} {key : OrderKey} {op : Op}
    (hold : (s.tasks i).Holds key) : ¬s.Claims op j key := by
  rintro ⟨answers, order, rest, -, -, hclaims⟩
  obtain ⟨⟨payload, row⟩, hsome⟩ := Option.isSome_iff_exists.mp hclaims
  have hopen := (beginEvaluation_some (Prod.ext rfl hsome)).1
  rw [h.submitting i key hold] at hopen
  cases hopen

theorem not_registersCancel (h : Exclusive s) {i : Nat} {key : OrderKey} {op : Op}
    (hold : (s.tasks i).Holds key) : ¬s.RegistersCancel op key := by
  rintro ⟨cancelTxHash, -, hregisters⟩
  have hopen := Database.hasStatusIn_singleton.mp hregisters
  rw [h.submitting i key hold] at hopen
  cases hopen

theorem worker (h : Exclusive s) {i : Nat} {act : Act} (hok : s.RespectsClaims (.worker i act))
    (hstep : exec cfg s (.worker i act) = .ok s') : Exclusive s' := by
  obtain ⟨db, task, hnext, rfl⟩ := exec_worker hstep
  -- Another instance's claim survives, and the order it holds is not the one claimed now.
  have hothers : ∀ j key, j ≠ i → (s.tasks j).Holds key →
      db.statusOf key = some submittingExecute ∧ ¬task.Holds key := by
    intro j key hne hold
    have hst := h.submitting j key hold
    have hnot : ¬(s.tasks i).Holds key := fun hi => hne (h.unique j i key hold hi)
    refine ⟨hnext.keeps_submitting hst hnot fun htakes => hok i act key rfl htakes j hold, ?_⟩
    intro hnew
    rcases hnext.holds hnew with ⟨hi, -⟩ | ⟨hopen, -⟩
    · exact hnot hi
    · rw [hst] at hopen
      cases hopen
  constructor
  · intro j key hold
    by_cases hj : j = i
    · subst j
      simp only [Function.update_self] at hold
      rcases hnext.holds hold with ⟨hi, rfl⟩ | ⟨-, hst, -⟩
      · exact h.submitting i key hi
      · exact hst
    · simp only [Function.update_of_ne hj] at hold
      exact (hothers j key hj hold).1
  · intro j k key hold hold'
    by_cases hj : j = i <;> by_cases hk : k = i
    · rw [hj, hk]
    · subst j
      simp only [Function.update_self, Function.update_of_ne hk] at hold hold'
      exact ((hothers k key hk hold').2 hold).elim
    · subst k
      simp only [Function.update_self, Function.update_of_ne hj] at hold hold'
      exact ((hothers j key hj hold).2 hold').elim
    · simp only [Function.update_of_ne hj, Function.update_of_ne hk] at hold hold'
      exact h.unique j k key hold hold'

theorem cancelOrders (h : Exclusive s) {key : OrderKey} {cancelTxHash : TxHash}
    (hstep : exec cfg s (.cancelOrders key cancelTxHash) = .ok s') : Exclusive s' := by
  obtain ⟨-, rfl⟩ := exec_cancelOrders hstep
  refine ⟨fun i k hold => ?_, h.unique⟩
  exact Database.statusOf_update (h.submitting i k hold) fun _ => by simp [registerCancel]

theorem step (h : Exclusive s) {log : System.History State Op} {op : Op}
    (hok : ClaimsRespected (s, log) op) (hstep : exec cfg s op = .ok s') : Exclusive s' := by
  cases op with
  | worker i act => exact h.worker hok.2 hstep
  | cancelOrders key cancelTxHash => exact h.cancelOrders hstep
  | event call => cases hok.1

end Exclusive

/-- Nobody has claimed or cancelled the order since the instance claimed it. -/
def ExclusiveSince (i : Nat) (key : OrderKey) (log : System.History State Op) : Prop :=
  ∃ later x op before, log = later ++ (x, op) :: before ∧ x.Claims op i key ∧
    ∀ r ∈ later, (∀ j, ¬r.1.Claims r.2 j key) ∧ ¬r.1.RegistersCancel r.2 key

namespace ExclusiveSince

variable {cfg : Config} {s s' : State} {log : System.History State Op} {op : Op}

/-- A claim that was held before a step was not disturbed by the step. -/
theorem extend {i j : Nat} {key : OrderKey} (h : Exclusive s) (hold : (s.tasks j).Holds key)
    (hsince : ExclusiveSince i key log) : ExclusiveSince i key ((s, op) :: log) := by
  obtain ⟨later, x, op', before, hlog, hclaims, hlater⟩ := hsince
  refine ⟨(s, op) :: later, x, op', before, by rw [hlog]; rfl, hclaims, ?_⟩
  intro r hr
  rcases List.mem_cons.mp hr with rfl | hr
  · exact ⟨fun k => h.not_claims hold, h.not_registersCancel hold⟩
  · exact hlater r hr

theorem step (h : Exclusive s) (hsince : ∀ i key, (s.tasks i).Holds key → ExclusiveSince i key log)
    (hok : ClaimsRespected (s, log) op) (hstep : exec cfg s op = .ok s') :
    ∀ i key, (s'.tasks i).Holds key → ExclusiveSince i key ((s, op) :: log) := by
  intro i key hold
  cases op with
  | worker j act =>
    obtain ⟨db, task, hnext, rfl⟩ := exec_worker hstep
    by_cases hi : i = j
    · subst i
      simp only [Function.update_self] at hold
      rcases hnext.holds hold with ⟨hj, -⟩ | ⟨-, -, answers, order, rest, rfl, htask, hclaims⟩
      · exact (hsince j key hj).extend h hj
      · exact ⟨[], s, _, log, rfl, ⟨answers, order, rest, rfl, htask, hclaims⟩, by simp⟩
    · simp only [Function.update_of_ne hi] at hold
      exact (hsince i key hold).extend h hold
  | cancelOrders k cancelTxHash =>
    obtain ⟨-, rfl⟩ := exec_cancelOrders hstep
    exact (hsince i key hold).extend h hold
  | event call => cases hok.1

end ExclusiveSince

/-- Claims exclude each other: as long as an instance has not recorded the outcome of its
    claim, it alone holds the order, and since its claim nobody has claimed the order or
    registered a cancellation of it. -/
theorem claims_exclude {cfg : Config} {s : State} {log : System.History State Op}
    (h : (backend cfg).ReachableWith ClaimsRespected (s, log)) {i : Nat} {key : OrderKey}
    (hold : (s.tasks i).Holds key) :
    (∀ j, (s.tasks j).Holds key → j = i) ∧ ExclusiveSince i key log := by
  have hinv : Exclusive s ∧ ∀ i key, (s.tasks i).Holds key → ExclusiveSince i key log := by
    refine System.ReachableWith.invariant_logged
      (I := fun s log => Exclusive s ∧ ∀ i key, (s.tasks i).Holds key → ExclusiveSince i key log)
      ?_ ?_ h
    · intro s hs
      refine ⟨.initial hs, fun i key hold => ?_⟩
      rw [hs] at hold
      exact hold.elim
    · intro s log op s' ⟨hexclusive, hsince⟩ hok hstep
      exact ⟨hexclusive.step hok hstep, ExclusiveSince.step hexclusive hsince hok hstep⟩
  exact ⟨fun j hj => hinv.1.unique j i key hj hold, hinv.2 i key hold⟩

/-! ## Concrete runs -/

namespace Example

/-- One instance claims the order and sends its transaction, and another one comes too late,
    as does a cancellation. -/
def claimInTime : List Op :=
  [.worker 0 (.scanOnce [orderKey]), .worker 1 (.scanOnce [orderKey]),
    .worker 0 (.evaluateOrder willing), .worker 1 (.evaluateOrder willing),
    .cancelOrders orderKey 77, .worker 0 (.executeOrder willing (.ok 50))]

/-- The receipt loop of an instance reopens an order that another instance has claimed. -/
def reopenClaimed : List Op :=
  [.worker 0 (.scanOnce [orderKey]), .worker 0 (.evaluateOrder willing),
    .worker 1 (.reconcilePendingOnce [orderKey]), .worker 1 (.checkPendingReceipt willing)]

/-- Then it claims the order itself, and both send a transaction. -/
def claimTwice : List Op :=
  reopenClaimed ++ [.worker 1 .stop, .worker 1 (.scanOnce [orderKey]),
    .worker 1 (.evaluateOrder willing), .worker 0 (.executeOrder willing (.ok 50)),
    .worker 1 (.executeOrder willing (.ok 51))]

def noCheck : Op → Bool
  | .worker _ (.checkPendingReceipt _) => false
  | op => !op.isEvent

end Example

open Example in
theorem claims_exclude_claimInTime :
    ∃ s log, (backend config).ReachableWith ClaimsRespected (s, log) ∧
      (s.tasks 0).Holds orderKey ∧ ExclusiveSince 0 orderKey log := by
  have hrun : (System.runWith (System.logged (exec config)) (fun _ op => noCheck op = true)
      (start, []) claimInTime).map (fun r => decide ((r.1.tasks 0).Holds orderKey)) =
        some true := by
    decide +kernel
  obtain ⟨⟨s, log⟩, hs, hsummary⟩ := Option.map_eq_some_iff.mp hrun
  have hold : (s.tasks 0).Holds orderKey := of_decide_eq_true hsummary
  have hreach : (backend config).ReachableWith ClaimsRespected (s, log) := by
    refine System.ReachableWith.mono_logged (fun _ h => h) ?_
      (System.reachableWith_of_runWith (.init ⟨start_initial, rfl⟩) hs)
    intro r op hop
    cases op with
    | worker i act =>
      refine ⟨rfl, ?_⟩
      rintro _ _ key ⟨⟩ ⟨answers, order, rest, rfl, -⟩
      cases hop
    | cancelOrders key cancelTxHash =>
      refine ⟨rfl, ?_⟩
      rintro _ _ _ ⟨⟩
    | _ => cases hop
  exact ⟨s, log, hreach, hold, (claims_exclude hreach hold).2⟩

open Example in
/-- When a receipt check takes a claimed order for an interrupted submission, another
    instance can claim it and send a second transaction, and a request can cancel it. -/
theorem claimed_twice_after_check :
    (∃ s log, (backend config).ReachableWith (fun _ op => op.isEvent = false) (s, log) ∧
      (s.tasks 0).Holds orderKey ∧ (s.tasks 1).Holds orderKey) ∧
    (∃ s log, (backend config).ReachableWith (fun _ op => op.isEvent = false) (s, log) ∧
      (s.tasks 0).Holds orderKey ∧ s.RegistersCancel (.cancelOrders orderKey 77) orderKey) := by
  have htwice : (System.runWith (System.logged (exec config)) (fun _ op => op.isEvent = false)
      (start, []) claimTwice).map (fun r => (decide ((r.1.tasks 0).Holds orderKey),
        decide ((r.1.tasks 1).Holds orderKey))) = some (true, true) := by
    decide +kernel
  have hreopened : (System.runWith (System.logged (exec config)) (fun _ op => op.isEvent = false)
      (start, []) reopenClaimed).map (fun r => (decide ((r.1.tasks 0).Holds orderKey),
        r.1.db.hasStatusIn orderKey (registerCancel 77).statuses)) = some (true, true) := by
    decide +kernel
  constructor
  · obtain ⟨⟨s, log⟩, hs, hsummary⟩ := Option.map_eq_some_iff.mp htwice
    obtain ⟨h0, h1⟩ := Prod.mk.inj hsummary
    exact ⟨s, log, System.reachableWith_of_runWith (.init ⟨start_initial, rfl⟩) hs,
      of_decide_eq_true h0, of_decide_eq_true h1⟩
  · obtain ⟨⟨s, log⟩, hs, hsummary⟩ := Option.map_eq_some_iff.mp hreopened
    obtain ⟨h0, hopen⟩ := Prod.mk.inj hsummary
    exact ⟨s, log, System.reachableWith_of_runWith (.init ⟨start_initial, rfl⟩) hs,
      of_decide_eq_true h0, 77, rfl, hopen⟩

end Backend
