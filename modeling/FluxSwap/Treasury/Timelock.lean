-- SUMMARY: The timelock of the treasury: every executed operation was scheduled by the multisig, long enough before and for this effect only.
import FluxSwap.Treasury.Steps

/-!
# The timelock

An operation is pending while its ready time is not zero. The invariant finds, for
every pending operation, the schedule in the history that made it pending, with no
cancellation and no execution of it since. An execution consumes a pending operation,
so it comes after such a schedule, and the next execution of the same operation needs
a new one. The hashed bytes of two different effects differ.
-/

namespace Treasury

open Exec

variable {α : Type} {keccak256 : Bytes → Bytes32} {pay : Payments α} {s s' : Treasury α}
  {log : System.History (Treasury α) (Op α)} {operationId : Bytes32} {effect : Effect}

/-! ## Preimages -/

theorem Effect.args_lt (effect : Effect) : ∀ n ∈ effect.args, n < 2 ^ 256 := by
  have haddress : ∀ a : Address, a.val < 2 ^ 256 := fun a => a.isLt.trans (by decide)
  have hbool : ∀ b : Bool, b.toNat < 2 ^ 256 := fun b => by cases b <;> decide
  cases effect <;>
    simp only [Effect.args, List.forall_mem_cons, List.not_mem_nil, false_implies, implies_true,
      and_true, haddress, hbool, Fin.is_lt]

theorem Effect.length_args_lt (effect : Effect) : effect.args.length < 2 ^ 250 := by
  cases effect <;> simp [Effect.args]

/-- One effect of each kind. -/
def Effect.kinds : List Effect :=
  [.setOperator 0, .setGuardian 0, .setMinDelay 0, .setAllowedToken 0 false,
    .setAllowedRecipient 0 false, .setDailySpendCap 0 0, .approveSpender 0 0 0,
    .revokeSpender 0 0, .emergencyWithdraw 0 0 0, .emergencyWithdrawETH 0 0]

theorem Effect.tag_mem (effect : Effect) : effect.tag ∈ Effect.kinds.map Effect.tag := by
  cases effect <;> simp [Effect.kinds, Effect.tag]

/-- The ten tags have different bytes. -/
theorem tag_injective : ∀ tag ∈ Effect.kinds.map Effect.tag, ∀ tag' ∈ Effect.kinds.map Effect.tag,
    Abi.word tag.length ++ Abi.padded (Abi.ascii tag) =
      Abi.word tag'.length ++ Abi.padded (Abi.ascii tag') → tag = tag' := by
  decide +kernel

/-- The tag and the values determine the effect. -/
theorem Effect.eq_of_tag_args {effect effect' : Effect} (htag : effect.tag = effect'.tag)
    (hargs : effect.args = effect'.args) : effect = effect' := by
  have hbool : ∀ b b' : Bool, b.toNat = b'.toNat ↔ b = b' := by decide
  cases effect <;> cases effect' <;> simp [Effect.tag] at htag <;>
    simpa [Effect.args, Fin.val_inj, hbool] using hargs

/-- Different effects have different preimages. -/
theorem Effect.preimage_injective : Function.Injective Effect.preimage := by
  intro effect effect' h
  obtain ⟨hargs, htag⟩ := Abi.encodeTagged_injective effect.args_lt effect'.args_lt
    effect.length_args_lt effect'.length_args_lt h
  exact Effect.eq_of_tag_args
    (tag_injective _ effect.tag_mem _ effect'.tag_mem htag) hargs

/-! ## What a call does to the pending operations -/

/-- The ready times after a call. -/
def readyAfter (s : Treasury α) : Op α → Bytes32 → Nat
  | .scheduleOperation _ operationId delay =>
    Function.update s.operationReadyAt operationId (s.timestamp + delay)
  | .cancelOperation _ operationId => Function.update s.operationReadyAt operationId 0
  | .execute _ operationId => Function.update s.operationReadyAt operationId 0
  | _ => s.operationReadyAt

/-- The fields of the timelock after a call. -/
structure Clocked (s s' : Treasury α) (op : Op α) : Prop where
  multisig : s'.multisig = s.multisig
  readyAt : s'.operationReadyAt = s.readyAfter op
  timestamp : s.timestamp ≤ s'.timestamp

theorem Performs.clocked (h : (s.setReadyAt operationId 0).Performs pay effect s') :
    Clocked s s' (.execute effect operationId) := by
  cases effect with
  | setOperator newOperator => obtain rfl := h; exact ⟨rfl, rfl, le_rfl⟩
  | setGuardian newGuardian => obtain rfl := h; exact ⟨rfl, rfl, le_rfl⟩
  | setMinDelay newMinDelay => obtain ⟨-, rfl⟩ := h; exact ⟨rfl, rfl, le_rfl⟩
  | setAllowedToken token allowed => obtain ⟨-, rfl⟩ := h; exact ⟨rfl, rfl, le_rfl⟩
  | setAllowedRecipient recipient allowed => obtain rfl := h; exact ⟨rfl, rfl, le_rfl⟩
  | setDailySpendCap token newCap => obtain rfl := h; exact ⟨rfl, rfl, le_rfl⟩
  | approveSpender token spender amount => obtain rfl := h; exact ⟨rfl, rfl, le_rfl⟩
  | revokeSpender token spender => obtain rfl := h; exact ⟨rfl, rfl, le_rfl⟩
  | emergencyWithdraw token dst amount => obtain ⟨-, a, -, rfl⟩ := h; exact ⟨rfl, rfl, le_rfl⟩
  | emergencyWithdrawETH dst amount => obtain ⟨a, -, rfl⟩ := h; exact ⟨rfl, rfl, le_rfl⟩

/-- A spender's call leaves the timelock alone. -/
theorem consumeApprovedSpender_clock {sender token : Address} {amount : Nat}
    (h : s.consumeApprovedSpender sender token amount = .ok s') :
    s'.multisig = s.multisig ∧ s'.operationReadyAt = s.operationReadyAt ∧
      s'.timestamp = s.timestamp := by
  obtain ⟨-, -, -, s₁, rfl, ⟨-, rfl⟩ | ⟨-, rfl⟩⟩ := consumeApprovedSpender_eq_ok h
  · exact ⟨rfl, rfl, rfl⟩
  · exact ⟨rfl, rfl, rfl⟩

theorem exec_clocked {op : Op α} (h : s.exec keccak256 pay op = .ok s') : Clocked s s' op := by
  cases op with
  | pause sender => obtain rfl := pause_eq_ok h; exact ⟨rfl, rfl, le_rfl⟩
  | unpause sender => obtain rfl := unpause_eq_ok h; exact ⟨rfl, rfl, le_rfl⟩
  | scheduleOperation sender operationId delay =>
    obtain ⟨-, -, rfl⟩ := scheduleOperation_eq_ok h
    exact ⟨rfl, rfl, le_rfl⟩
  | cancelOperation sender operationId =>
    obtain rfl := cancelOperation_eq_ok h
    exact ⟨rfl, rfl, le_rfl⟩
  | execute effect operationId => exact (execute_eq_ok h).2.2.2.clocked
  | allocate sender token dst amount =>
    obtain ⟨-, -, -, -, -, a, -, rfl⟩ := allocate_eq_ok h
    exact ⟨rfl, rfl, le_rfl⟩
  | allocateETH sender dst amount =>
    obtain ⟨-, -, -, -, a, -, rfl⟩ := allocateETH_eq_ok h
    exact ⟨rfl, rfl, le_rfl⟩
  | consumeApprovedSpenderCap sender token amount =>
    obtain ⟨-, hconsume⟩ := consumeApprovedSpenderCap_eq_ok h
    obtain ⟨hmultisig, hready, htime⟩ := consumeApprovedSpender_clock hconsume
    exact ⟨hmultisig, hready, htime.ge⟩
  | pullApprovedToken sender token amount =>
    obtain ⟨-, s₁, a, hconsume, -, rfl⟩ := pullApprovedToken_eq_ok h
    obtain ⟨hmultisig, hready, htime⟩ := consumeApprovedSpender_clock hconsume
    exact ⟨hmultisig, hready, htime.ge⟩
  | burnApprovedToken sender token amount =>
    obtain ⟨-, s₁, a, hconsume, -, rfl⟩ := burnApprovedToken_eq_ok h
    obtain ⟨hmultisig, hready, htime⟩ := consumeApprovedSpender_clock hconsume
    exact ⟨hmultisig, hready, htime.ge⟩
  -- time only goes forward
  | wait seconds =>
    obtain rfl := pure_eq_ok.mp h
    exact ⟨rfl, rfl, Nat.le_add_right _ _⟩
  | others assets =>
    obtain rfl := pure_eq_ok.mp h
    exact ⟨rfl, rfl, le_rfl⟩

/-! ## Pending operations -/

/-- The call ends a pending operation: it cancels it, or executes an effect with its hash. -/
def Settles (keccak256 : Bytes → Bytes32) (operationId : Bytes32) : Op α → Prop
  | .cancelOperation _ cancelled => cancelled = operationId
  | .execute effect _ => effect.hash keccak256 = operationId
  | _ => False

/-- The multisig scheduled the operation in the state `y`, and it was neither cancelled nor
    executed since. -/
def ScheduledIn (keccak256 : Bytes → Bytes32) (log : System.History (Treasury α) (Op α))
    (operationId : Bytes32) (y : Treasury α) : Prop :=
  ∃ delay between older,
    log = between ++ (y, .scheduleOperation y.multisig operationId delay) :: older ∧
      ∀ r ∈ between, ¬ Settles keccak256 operationId r.2

theorem ScheduledIn.cons {y : Treasury α} {op : Op α}
    (h : ScheduledIn keccak256 log operationId y) (hop : ¬ Settles keccak256 operationId op) :
    ScheduledIn keccak256 ((s, op) :: log) operationId y := by
  obtain ⟨delay, between, older, rfl, hbetween⟩ := h
  refine ⟨delay, (s, op) :: between, older, rfl, ?_⟩
  intro r hr
  cases List.mem_cons.mp hr with
  | inl hlast => rw [hlast]; exact hop
  | inr hold => exact hbetween r hold

/-- Every pending operation has its schedule, at least the delay in force then before it is
    ready. -/
def Timelocked (keccak256 : Bytes → Bytes32) (s : Treasury α)
    (log : System.History (Treasury α) (Op α)) : Prop :=
  ∀ operationId, s.operationReadyAt operationId ≠ 0 →
    ∃ y, ScheduledIn keccak256 log operationId y ∧ y.multisig = s.multisig ∧
      y.timestamp + y.minDelay ≤ s.operationReadyAt operationId

theorem Timelocked.step {op : Op α} (hI : Timelocked keccak256 s log)
    (h : s.exec keccak256 pay op = .ok s') : Timelocked keccak256 s' ((s, op) :: log) := by
  intro operationId hpending
  have hclocked := exec_clocked h
  rw [hclocked.readyAt] at hpending ⊢
  rw [hclocked.multisig]
  -- an operation that the call does not touch keeps its schedule
  have hkept : s.readyAfter op operationId = s.operationReadyAt operationId →
      ¬ Settles keccak256 operationId op →
      ∃ y, ScheduledIn keccak256 ((s, op) :: log) operationId y ∧ y.multisig = s.multisig ∧
        y.timestamp + y.minDelay ≤ s.readyAfter op operationId := by
    intro hsame hop
    rw [hsame] at hpending ⊢
    obtain ⟨y, hy, hmultisig, hdelay⟩ := hI operationId hpending
    exact ⟨y, hy.cons hop, hmultisig, hdelay⟩
  cases op with
  | scheduleOperation sender scheduled delay =>
    by_cases hid : operationId = scheduled
    · subst hid
      obtain ⟨rfl, hdelay, -⟩ := scheduleOperation_eq_ok h
      refine ⟨s, ⟨delay, [], log, rfl, nofun⟩, rfl, ?_⟩
      simp only [readyAfter, Function.update_self]
      exact Nat.add_le_add_left hdelay _
    · exact hkept (Function.update_of_ne hid _ _) nofun
  | cancelOperation sender cancelled =>
    by_cases hid : operationId = cancelled
    · subst hid
      exact absurd (Function.update_self _ _ _) hpending
    · exact hkept (Function.update_of_ne hid _ _) (fun hcancel => hid hcancel.symm)
  | execute effect executed =>
    obtain ⟨rfl, -⟩ := execute_eq_ok h
    by_cases hid : operationId = effect.hash keccak256
    · subst hid
      exact absurd (Function.update_self _ _ _) hpending
    · exact hkept (Function.update_of_ne hid _ _) (fun hexecute => hid hexecute.symm)
  | _ => exact hkept rfl nofun

theorem reachable_timelocked (h : (runs keccak256 pay).Reachable (s, log)) :
    Timelocked keccak256 s log := by
  refine System.ReachableWith.invariant_logged (I := Timelocked keccak256) ?_ ?_ h
  · intro s hdeployed operationId hpending
    rw [hdeployed.operationReadyAt] at hpending
    exact absurd rfl hpending
  · exact fun s log op s' hI _ hcall => hI.step hcall

/-! ## Executions -/

/-- An execution in the history comes after its schedule. -/
theorem scheduled_before_execution (h : (runs keccak256 pay).Reachable (s, log))
    {later before : System.History (Treasury α) (Op α)} {x : Treasury α}
    (hlog : log = later ++ (x, .execute effect operationId) :: before) :
    operationId = effect.hash keccak256 ∧
      ∃ y, ScheduledIn keccak256 before operationId y ∧ y.multisig = x.multisig ∧
        y.timestamp + y.minDelay ≤ x.timestamp := by
  obtain ⟨hreach, -, x', hcall⟩ := System.ReachableWith.earlier h hlog
  obtain ⟨hid, hknown, hready, -⟩ := execute_eq_ok hcall
  obtain ⟨y, hy, hmultisig, hdelay⟩ := reachable_timelocked hreach operationId hknown
  exact ⟨hid, y, hy, hmultisig, hdelay.trans hready⟩

/-- Between two executions of one operation there is a new schedule of it. -/
theorem rescheduled_between {later middle before : System.History (Treasury α) (Op α)}
    {x x' : Treasury α} {effect' : Effect} {operationId' : Bytes32}
    (h : (runs keccak256 pay).Reachable (s, log))
    (hlog : log = later ++ (x, .execute effect operationId) :: middle ++
      (x', .execute effect' operationId') :: before)
    (hsame : effect'.hash keccak256 = effect.hash keccak256) :
    ∃ y delay, (y, Op.scheduleOperation y.multisig (effect.hash keccak256) delay) ∈ middle := by
  have hsplit : log = later ++ (x, .execute effect operationId) ::
      (middle ++ (x', .execute effect' operationId') :: before) := by
    rw [hlog, List.append_assoc]
    rfl
  obtain ⟨rfl, y, ⟨delay, between, older, heq, hbetween⟩, -, -⟩ :=
    scheduled_before_execution h hsplit
  refine ⟨y, delay, ?_⟩
  -- the older execution is not among the calls since the schedule
  obtain ⟨as, rfl, htail⟩ | ⟨cs, rfl, htail⟩ := List.append_eq_append_iff.mp heq
  · cases as with
    | nil => cases htail
    | cons a as =>
      obtain ⟨rfl, -⟩ := List.cons.inj htail
      exact absurd hsame (hbetween _ (List.mem_append_right _ List.mem_cons_self))
  · cases cs with
    | nil => cases htail
    | cons c cs =>
      obtain ⟨rfl, -⟩ := List.cons.inj htail
      exact List.mem_append_right _ List.mem_cons_self

/-- In every history each execution was scheduled by the multisig under the hash of its own
    effect, at least the delay in force at the schedule before, and neither cancelled nor
    executed in between; a second execution needs a second schedule; and different effects
    hash different bytes. -/
theorem timelock (h : (runs keccak256 pay).Reachable (s, log)) :
    (∀ later x effect operationId before,
      log = later ++ (x, .execute effect operationId) :: before →
        operationId = effect.hash keccak256 ∧
          ∃ y, ScheduledIn keccak256 before operationId y ∧ y.multisig = x.multisig ∧
            y.timestamp + y.minDelay ≤ x.timestamp) ∧
    (∀ later x effect operationId middle x' effect' operationId' before,
      log = later ++ (x, .execute effect operationId) :: middle ++
          (x', .execute effect' operationId') :: before →
        effect'.hash keccak256 = effect.hash keccak256 →
          ∃ y delay,
            (y, Op.scheduleOperation y.multisig (effect.hash keccak256) delay) ∈ middle) ∧
    Function.Injective Effect.preimage := by
  refine ⟨?_, ?_, Effect.preimage_injective⟩
  · intro later x effect operationId before hlog
    exact scheduled_before_execution h hlog
  · intro later x effect operationId middle x' effect' operationId' before hlog hsame
    exact rescheduled_between h hlog hsame

namespace Example

def council : Address := 1

/-- Some hash of 256 bits. -/
def digest (bytes : Bytes) : Bytes32 :=
  Fin.ofNat _ (bytes.foldl (fun acc b => acc * 257 + b.toNat + 1) 0)

/-- Calls that always succeed, on a chain without balances. -/
def succeeding : Payments Unit where
  transfer _ _ _ _ _ := some ()
  burn _ _ _ _ := some ()
  sendETH _ _ _ _ := some ()

/-- A treasury with a delay of two days. -/
def start : Treasury Unit where
  self := 4
  multisig := council
  operator := 2
  guardian := 3
  minDelay := 172800
  paused := false
  allowedTokens := fun _ => false
  allowedRecipients := fun _ => false
  dailySpendCap := fun _ => 0
  spentToday := fun _ => 0
  lastSpendDay := fun _ => 0
  approvedSpendRemaining := fun _ _ => 0
  operationReadyAt := fun _ => 0
  timestamp := 1700000000
  assets := ()

theorem start_deployed : start.Deployed :=
  ⟨by decide, by decide, by decide, by decide, rfl, rfl, rfl, rfl, rfl, rfl, rfl, rfl⟩

/-- The operator is replaced after two days. -/
def replaceOperator : List (Op Unit) :=
  let operationId := (Effect.setOperator 9).hash digest
  [.scheduleOperation council operationId 172800, .wait 172800,
    .execute (.setOperator 9) operationId]

def isExecution : Op Unit → Bool
  | .execute .. => true
  | _ => false

end Example

open Example in
theorem timelock_replaceOperator :
    ∃ s x effect operationId before,
      (runs digest succeeding).Reachable (s, (x, .execute effect operationId) :: before) ∧
        s.operator = 9 ∧
        ∃ y, ScheduledIn digest before operationId y ∧ y.multisig = x.multisig ∧
          y.timestamp + y.minDelay ≤ x.timestamp := by
  have hrun : (System.runWith (System.logged (exec digest succeeding)) (fun _ _ => True)
      (start, []) replaceOperator).map (fun r => (r.1.operator, r.2.map (isExecution ·.2))) =
        some (9, [true, false, false]) := by
    decide +kernel
  obtain ⟨⟨s, log⟩, hs, hsummary⟩ := Option.map_eq_some_iff.mp hrun
  obtain ⟨hoperator, hkinds⟩ := Prod.mk.inj hsummary
  have hreach : (runs digest succeeding).Reachable (s, log) :=
    System.reachableWith_of_runWith (.init ⟨start_deployed, rfl⟩) hs
  cases log with
  | nil => cases hkinds
  | cons r before =>
    obtain ⟨x, op⟩ := r
    have hlast : isExecution op = true := (List.cons.inj hkinds).1
    cases op with
    | execute effect operationId =>
      exact ⟨s, x, effect, operationId, before, hreach, hoperator,
        ((timelock hreach).1 [] x effect operationId before rfl).2⟩
    | _ => cases hlast

end Treasury
