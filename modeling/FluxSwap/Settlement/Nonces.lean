-- SUMMARY: Every nonce of a maker is consumed at most once, over every run and every re-entrance.
import FluxSwap.Settlement.Model
import FluxSwap.Lib.System
import Mathlib.Data.List.Count

/-!
# Nonce discipline

The two flags only ever go up, and an event that consumes a nonce is emitted only by
the call that raised its flag. `Disciplined` says this of two states; it composes, so
it holds of every call, of everything that re-enters the settlement during a call, and
of every run. That at most one event consumes a nonce follows from it.
-/

open Exec

namespace FluxSignedOrderSettlement

variable {ω : Type}

/-! ## Runs -/

/-- What code outside the settlement can do to its state: change the world, and enter
    the settlement through its own functions. -/
inductive Reentered (d : Deployment ω) : State ω → State ω → Prop
  | done (s : State ω) : Reentered d s s
  | world {s s' : State ω} (w : ω) : Reentered d { s with world := w } s' → Reentered d s s'
  | enter {s s₁ s' : State ω} (sender : Sender) (op : Op) :
      exec d sender s op = .ok s₁ → Reentered d s₁ s' → Reentered d s s'

/-- Storage and events belong to the settlement: a called contract changes them only by
    entering it. -/
def OwnStorage (d : Deployment ω) : Prop :=
  ∀ call s s', d.call call s = .ok s' → Reentered d s s'

/-- The steps of a run: anything happens elsewhere, or somebody sends a transaction. -/
inductive Step (ω : Type)
  | world (w : ω)
  | transaction (sender : Sender) (op : Op)

def Step.apply (d : Deployment ω) (s : State ω) : Step ω → State ω
  | .world w => { s with world := w }
  | .transaction sender op => transact d sender op s

/-- The storage after the constructor. -/
def Storage.deployed (owner : Address) : Storage where
  owner := owner
  paused := false
  restrictedExecutor := Address.zero
  onlyRestrictedExecutor := false
  orderExecuted := fun _ => false
  invalidatedNonce := fun _ _ => false
  entered := false

structure Deployed (s : State ω) : Prop where
  storage : ∃ owner, s.storage = .deployed owner
  events : ∃ owner, s.events = [.ownershipTransferred Address.zero owner]

def system (d : Deployment ω) : System (State ω) (Step ω) where
  init := Deployed
  step s e s' := e.apply d s = s'

/-! ## What consumes a nonce -/

/-- The nonce that an event consumes. -/
def Event.consumed : Event → Option (Address × Nat)
  | .orderExecuted _ order _ _ _ _ => some (order.maker, order.nonce)
  | .nonceInvalidated maker nonce => some (maker, nonce)
  | _ => none

/-- How many events have consumed a nonce. -/
def State.consumptions (s : State ω) (maker : Address) (nonce : Nat) : Nat :=
  s.events.countP fun e => e.consumed = some (maker, nonce)

variable {s s₁ s' : State ω}

/-- The hash of the order that an event executes. -/
def Event.executedHash : Event → Option Bytes32
  | .orderExecuted orderHash _ _ _ _ _ => some orderHash
  | _ => none

/-- What happened between two states is what the new events say: a flag went up if and only
    if an event raised it, no nonce was consumed twice, and the hash in an event is the hash
    of its order. -/
structure DisciplinedBy (d : Deployment ω) (new : List Event) (s s' : State ω) : Prop where
  events : s'.events = s.events ++ new
  executed : ∀ h, s'.storage.orderExecuted h = true ↔
    s.storage.orderExecuted h = true ∨ ∃ e ∈ new, e.executedHash = some h
  invalidated : ∀ m n, s'.storage.invalidatedNonce m n = true ↔
    s.storage.invalidatedNonce m n = true ∨ ∃ e ∈ new, e.consumed = some (m, n)
  once : ∀ m n, (new.countP fun e => e.consumed = some (m, n)) ≤
    if s.storage.invalidatedNonce m n then 0 else 1
  hashed : ∀ h order executor gross recipientOut fee,
    Event.orderExecuted h order executor gross recipientOut fee ∈ new → h = hashOrder d order

def Disciplined (d : Deployment ω) (s s' : State ω) : Prop := ∃ new, DisciplinedBy d new s s'

variable {d : Deployment ω}

theorem DisciplinedBy.trans {new new' : List Event} (h : DisciplinedBy d new s s₁)
    (h' : DisciplinedBy d new' s₁ s') : DisciplinedBy d (new ++ new') s s' where
  events := by rw [h'.events, h.events, List.append_assoc]
  executed x := by
    rw [h'.executed, h.executed]
    simp only [List.mem_append, or_and_right, exists_or, or_assoc]
  invalidated m n := by
    rw [h'.invalidated, h.invalidated]
    simp only [List.mem_append, or_and_right, exists_or, or_assoc]
  once m n := by
    rw [List.countP_append]
    have hfirst := h.once m n
    have hsecond := h'.once m n
    cases hflag : s₁.storage.invalidatedNonce m n with
    | true =>
      -- consumed by the first half, if at all
      rw [hflag] at hsecond
      simp only [if_true] at hsecond
      omega
    | false =>
      -- not consumed by the first half
      have hnot : ¬(s.storage.invalidatedNonce m n = true ∨
          ∃ e ∈ new, e.consumed = some (m, n)) := by
        rw [← h.invalidated, hflag]
        exact Bool.false_ne_true
      rw [not_or] at hnot
      have hnone : (new.countP fun e => e.consumed = some (m, n)) = 0 := by
        rw [List.countP_eq_zero]
        intro e he
        simpa using fun hconsumed => hnot.2 ⟨e, he, hconsumed⟩
      rw [hflag] at hsecond
      rw [hnone, Bool.eq_false_iff.mpr hnot.1]
      simpa using hsecond
  hashed x order executor gross recipientOut fee hmem := by
    cases List.mem_append.mp hmem with
    | inl hnew => exact h.hashed _ _ _ _ _ _ hnew
    | inr hnew => exact h'.hashed _ _ _ _ _ _ hnew

/-- A change that touches neither the flags nor the events. -/
theorem Disciplined.of_eq (hexecuted : s'.storage.orderExecuted = s.storage.orderExecuted)
    (hinvalidated : s'.storage.invalidatedNonce = s.storage.invalidatedNonce)
    (hevents : s'.events = s.events) : Disciplined d s s' := by
  refine ⟨[], ?_, ?_, ?_, ?_, ?_⟩
  · rw [hevents, List.append_nil]
  · simp [hexecuted]
  · simp [hinvalidated]
  · simp
  · simp

theorem Disciplined.refl (s : State ω) : Disciplined d s s := .of_eq rfl rfl rfl

theorem Disciplined.trans (h : Disciplined d s s₁) (h' : Disciplined d s₁ s') :
    Disciplined d s s' := by
  obtain ⟨new, hnew⟩ := h
  obtain ⟨new', hnew'⟩ := h'
  exact ⟨new ++ new', hnew.trans hnew'⟩

/-! ## The entry points that call nobody -/

@[simp] theorem invalidate_orderExecuted (s : State ω) (maker : Address) (nonce : Nat) :
    (s.invalidate maker nonce).storage.orderExecuted = s.storage.orderExecuted := rfl

theorem invalidate_invalidatedNonce (s : State ω) (maker : Address) (nonce : Nat) (m : Address)
    (n : Nat) : (s.invalidate maker nonce).storage.invalidatedNonce m n =
      if m = maker ∧ n = nonce then true else s.storage.invalidatedNonce m n := rfl

theorem emit_storage (s : State ω) (e : Event) : (s.emit e).storage = s.storage := rfl

/-- One nonce is invalidated whose flag was down. -/
theorem disciplined_invalidate {maker : Address} {nonce : Nat}
    (hfree : s.storage.invalidatedNonce maker nonce = false) :
    Disciplined d s ((s.invalidate maker nonce).emit (.nonceInvalidated maker nonce)) := by
  refine ⟨[.nonceInvalidated maker nonce], rfl, ?_, ?_, ?_, ?_⟩
  · intro h
    simp [emit_storage, Event.executedHash]
  · intro m n
    simp only [emit_storage, invalidate_invalidatedNonce, List.mem_singleton, exists_eq_left,
      Event.consumed, Option.some.injEq, Prod.mk.injEq]
    by_cases heq : m = maker ∧ n = nonce
    · simp [heq]
    · rw [if_neg heq]
      refine ⟨.inl, fun h => h.resolve_right fun hm => heq ⟨hm.1.symm, hm.2.symm⟩⟩
  · intro m n
    rw [List.countP_singleton]
    by_cases heq : m = maker ∧ n = nonce
    · rw [heq.1, heq.2, hfree]
      simp [Event.consumed]
    · have hne : ¬(Event.nonceInvalidated maker nonce).consumed = some (m, n) := by
        simp only [Event.consumed, Option.some.injEq, Prod.mk.injEq]
        exact fun hm => heq ⟨hm.1.symm, hm.2.symm⟩
      simp [hne]
  · simp

theorem invalidateAll_spec {maker : Address} {nonces : List Nat}
    (h : invalidateAll maker nonces s = .ok s') :
    Disciplined d s s' ∧ s'.storage.entered = s.storage.entered ∧ nonces.Nodup ∧
      ∀ n ∈ nonces, s.storage.invalidatedNonce maker n = false := by
  induction nonces generalizing s with
  | nil =>
    obtain rfl := pure_eq_ok.mp h
    exact ⟨.refl _, rfl, List.nodup_nil, fun n hn => by cases hn⟩
  | cons nonce nonces ih =>
    simp only [invalidateAll, bind_eq_ok, require_eq_ok] at h
    obtain ⟨_, hfree, hrest⟩ := h
    obtain ⟨hdisciplined, hentered, hnodup, hfrees⟩ := ih hrest
    have hsplit : ∀ n ∈ nonces, n ≠ nonce ∧ s.storage.invalidatedNonce maker n = false := by
      intro n hn
      have hafter := hfrees n hn
      rw [emit_storage, invalidate_invalidatedNonce] at hafter
      split at hafter
      · cases hafter
      · rename_i hne
        exact ⟨fun heq => hne ⟨rfl, heq⟩, hafter⟩
    refine ⟨(disciplined_invalidate hfree).trans hdisciplined, hentered, ?_, ?_⟩
    · exact List.nodup_cons.mpr ⟨fun hmem => (hsplit nonce hmem).1 rfl, hnodup⟩
    · intro n hn
      cases List.mem_cons.mp hn with
      | inl heq => exact heq ▸ hfree
      | inr hmem => exact (hsplit n hmem).2

/-- A batch goes through only when its nonces are distinct and free. -/
theorem invalidateNoncesBySig_spec {maker : Address} {nonces : List Nat} {deadline : Nat}
    {signature : Bytes} (h : invalidateNoncesBySig d maker nonces deadline signature s = .ok s') :
    Disciplined d s s' ∧ s'.storage.entered = s.storage.entered ∧ nonces.Nodup ∧
      ∀ n ∈ nonces, s.storage.invalidatedNonce maker n = false := by
  simp only [invalidateNoncesBySig, bind_eq_ok] at h
  obtain ⟨_, -, _, -, _, -, _, -, _, -, hall⟩ := h
  exact invalidateAll_spec hall

/-- What an administrative change keeps. -/
theorem disciplined_administer {change : Storage → Storage} {e : Event}
    (hexecuted : (change s.storage).orderExecuted = s.storage.orderExecuted)
    (hinvalidated : (change s.storage).invalidatedNonce = s.storage.invalidatedNonce)
    (he : e.consumed = none) : Disciplined d s (administer s change e) := by
  refine ⟨[e], rfl, ?_, ?_, ?_, ?_⟩
  · intro h
    have hnot : e.executedHash = none := by
      cases e with
      | orderExecuted => cases he
      | _ => rfl
    simp [administer, emit_storage, hexecuted, hnot]
  · intro m n
    simp [administer, emit_storage, hinvalidated, he]
  · intro m n
    simp [he]
  · intro h order executor gross recipientOut fee hmem
    rw [← List.mem_singleton.mp hmem] at he
    cases he

theorem administration_spec {sender : Sender} {op : Op}
    (hexecute : ∀ order signature deadline reward, op ≠ .executeOrder order signature deadline reward)
    (h : exec d sender s op = .ok s') :
    Disciplined d s s' ∧ s'.storage.entered = s.storage.entered := by
  cases op with
  | executeOrder order signature deadline reward => exact absurd rfl (hexecute _ _ _ _)
  | invalidateNoncesBySig maker nonces deadline signature =>
    obtain ⟨hdisciplined, hentered, -⟩ := invalidateNoncesBySig_spec h
    exact ⟨hdisciplined, hentered⟩
  -- the owner's calls leave nonces, executions and events as they are
  | setRestrictedExecutor executor =>
    simp only [exec, setRestrictedExecutor, bind_eq_ok, pure_eq_ok] at h
    obtain ⟨_, -, rfl⟩ := h
    exact ⟨disciplined_administer rfl rfl rfl, rfl⟩
  | setExecutorRestriction restricted =>
    simp only [exec, setExecutorRestriction, bind_eq_ok, pure_eq_ok] at h
    obtain ⟨_, -, _, -, rfl⟩ := h
    exact ⟨disciplined_administer rfl rfl rfl, rfl⟩
  | pause =>
    simp only [exec, pause, bind_eq_ok, pure_eq_ok] at h
    obtain ⟨_, -, _, -, rfl⟩ := h
    exact ⟨disciplined_administer rfl rfl rfl, rfl⟩
  | unpause =>
    simp only [exec, unpause, bind_eq_ok, pure_eq_ok] at h
    obtain ⟨_, -, _, -, rfl⟩ := h
    exact ⟨disciplined_administer rfl rfl rfl, rfl⟩
  | transferOwnership newOwner =>
    simp only [exec, transferOwnership, bind_eq_ok, pure_eq_ok] at h
    obtain ⟨_, -, rfl⟩ := h
    exact ⟨disciplined_administer rfl rfl rfl, rfl⟩
  | renounceOwnership =>
    simp only [exec, renounceOwnership, bind_eq_ok, pure_eq_ok] at h
    obtain ⟨_, -, rfl⟩ := h
    exact ⟨disciplined_administer rfl rfl rfl, rfl⟩

/-! ## Re-entrance and executeOrder -/

/-- Disciplined while the guard is held, and the guard stays held. -/
def Guarded (d : Deployment ω) (s s' : State ω) : Prop :=
  s.storage.entered = true → Disciplined d s s' ∧ s'.storage.entered = true

theorem Guarded.refl (s : State ω) : Guarded d s s := fun h => ⟨.refl s, h⟩

theorem Guarded.trans (h : Guarded d s s₁) (h' : Guarded d s₁ s') : Guarded d s s' := by
  intro hentered
  obtain ⟨hfirst, hheld⟩ := h hentered
  obtain ⟨hsecond, hheld'⟩ := h' hheld
  exact ⟨hfirst.trans hsecond, hheld'⟩

theorem executeOrder_of_entered {sender : Address} {order : SignedOrder} {signature : Bytes}
    {deadline reward amountOut : Nat} (hentered : s.storage.entered = true) :
    executeOrder d sender order signature deadline reward s ≠ .ok (s', amountOut) := by
  intro h
  rw [executeOrder, nonReentrant_eq_ok, hentered] at h
  exact absurd h.1 (by decide)

/-- While the guard is held, `executeOrder` cannot be entered, and the other entry points
    are disciplined. -/
theorem Reentered.guarded (h : Reentered d s s') : Guarded d s s' := by
  induction h with
  | done s => exact .refl s
  | @world s s' w _ ih =>
    have hworld : Guarded d s { s with world := w } :=
      fun hentered => ⟨.of_eq rfl rfl rfl, hentered⟩
    exact hworld.trans ih
  | @enter s s₁ s' sender op hexec _ ih =>
    refine Guarded.trans ?_ ih
    intro hentered
    have hexecute : ∀ order signature deadline reward,
        op ≠ .executeOrder order signature deadline reward := by
      intro order signature deadline reward hop
      subst hop
      obtain ⟨⟨s₂, amountOut⟩, hrun, -⟩ := bind_eq_ok.mp hexec
      exact executeOrder_of_entered hentered hrun
    obtain ⟨hdisciplined, hkept⟩ := administration_spec hexecute hexec
    exact ⟨hdisciplined, hkept.trans hentered⟩

section Calls

variable (hown : OwnStorage d)

include hown

theorem callOrRevert_guarded {call : Call} {text : String}
    (h : callOrRevert d call text s = .ok s') : Guarded d s s' := by
  unfold callOrRevert at h
  split at h
  · rename_i s₁ hcall
    cases h
    exact (hown _ _ _ hcall).guarded
  · cases h

theorem payReward_guarded {pay : Call} {text : String} {reward : Nat}
    (h : payReward d pay text reward s = .ok s') : Guarded d s s' := by
  unfold payReward at h
  split at h
  · exact callOrRevert_guarded hown h
  · obtain rfl := pure_eq_ok.mp h
    exact .refl s

theorem approveIfNeeded_guarded {token spender : Address} {amount : Nat}
    (h : approveIfNeeded d token spender amount s = .ok s') : Guarded d s s' := by
  simp only [approveIfNeeded, bind_eq_ok] at h
  obtain ⟨current, -, h⟩ := h
  split at h
  · obtain rfl := pure_eq_ok.mp h
    exact .refl s
  · split at h
    · obtain ⟨s₁, hreset, hset⟩ := bind_eq_ok.mp h
      exact (callOrRevert_guarded hown hreset).trans (callOrRevert_guarded hown hset)
    · exact callOrRevert_guarded hown h

theorem pullInput_guarded {order : SignedOrder} (h : pullInput d order s = .ok s') :
    Guarded d s s' := by
  simp only [pullInput, bind_eq_ok] at h
  obtain ⟨_, -, _, -, _, -, _, -, s₁, hpull, happrove⟩ := h
  exact (callOrRevert_guarded hown hpull).trans (approveIfNeeded_guarded hown happrove)

theorem distribute_guarded {order : SignedOrder} {amountOut reward : Nat} {executor : Address}
    (h : distribute d order amountOut reward executor s = .ok s') : Guarded d s s' := by
  unfold distribute at h
  split at h
  · simp only [distributeNativeOutput, bind_eq_ok] at h
    obtain ⟨_, -, s₁, hpay, hreward⟩ := h
    exact (callOrRevert_guarded hown hpay).trans (payReward_guarded hown hreward)
  · simp only [distributeTokenOutput, bind_eq_ok] at h
    obtain ⟨_, -, s₁, hpay, hreward⟩ := h
    exact (callOrRevert_guarded hown hpay).trans (payReward_guarded hown hreward)

theorem settleAndDistribute_guarded {order : SignedOrder} {deadline amountOut reward : Nat}
    {executor : Address}
    (h : settleAndDistribute d order deadline amountOut reward executor s = .ok s') :
    Guarded d s s' := by
  simp only [settleAndDistribute, bind_eq_ok] at h
  obtain ⟨_, -, s₁, hswap, hpayout⟩ := h
  exact (hown _ _ _ hswap).guarded.trans (distribute_guarded hown hpayout)

end Calls

/-- The flags that `executeOrder` raises before it calls anybody, and the event that it emits
    at the end, are one consumption of the nonce. -/
theorem disciplined_execute {order : SignedOrder} {executor : Address}
    {gross recipientOut fee : Nat}
    (hfree : s.storage.invalidatedNonce order.maker order.nonce = false)
    (hcalls : Disciplined d
      ((s.markExecuted (hashOrder d order)).invalidate order.maker order.nonce) s₁) :
    Disciplined d s
      (s₁.emit (.orderExecuted (hashOrder d order) order executor gross recipientOut fee)) := by
  obtain ⟨new, hnew⟩ := hcalls
  refine ⟨new ++ [.orderExecuted (hashOrder d order) order executor gross recipientOut fee],
    ?_, ?_, ?_, ?_, ?_⟩
  · rw [← List.append_assoc]
    exact congrArg (· ++ _) hnew.events
  · intro h
    rw [emit_storage, hnew.executed, invalidate_orderExecuted]
    by_cases heq : h = hashOrder d order
    · simp [State.markExecuted, heq, Event.executedHash]
    · simp [State.markExecuted, heq, Event.executedHash, Ne.symm heq, or_and_right, exists_or]
  · intro m n
    rw [emit_storage, hnew.invalidated, invalidate_invalidatedNonce]
    by_cases heq : m = order.maker ∧ n = order.nonce
    · simp [heq, Event.consumed, or_and_right, exists_or]
    · have hne : ¬(order.maker = m ∧ order.nonce = n) := fun h => heq ⟨h.1.symm, h.2.symm⟩
      simp [heq, hne, Event.consumed, or_and_right, exists_or, State.markExecuted]
  · intro m n
    have hcount := hnew.once m n
    rw [List.countP_append, List.countP_singleton]
    rw [invalidate_invalidatedNonce] at hcount
    by_cases heq : m = order.maker ∧ n = order.nonce
    · -- The flag is up when the calls begin, so nothing in them consumes this nonce.
      rw [if_pos heq, if_pos rfl] at hcount
      rw [heq.1, heq.2] at hcount ⊢
      rw [hfree]
      simp only [Bool.false_eq_true, if_false]
      split <;> omega
    · have hne : ¬(Event.orderExecuted (hashOrder d order) order executor gross recipientOut
          fee).consumed = some (m, n) := by
        simp only [Event.consumed, Option.some.injEq, Prod.mk.injEq]
        exact fun h => heq ⟨h.1.symm, h.2.symm⟩
      rw [if_neg heq] at hcount
      simpa [hne, State.markExecuted] using hcount
  · intro h other executor' gross' recipientOut' fee' hmem
    cases List.mem_append.mp hmem with
    | inl hcalled => exact hnew.hashed _ _ _ _ _ _ hcalled
    | inr hlast =>
      cases List.mem_singleton.mp hlast
      rfl

/-- The nonce of an admitted order was free. -/
theorem admitOrder_free {sender : Address} {order : SignedOrder} {signature : Bytes}
    {deadline reward amountOut : Nat}
    (h : admitOrder d sender order signature deadline reward s = .ok amountOut) :
    s.storage.invalidatedNonce order.maker order.nonce = false := by
  simp only [admitOrder, bind_eq_ok, require_eq_ok] at h
  obtain ⟨_, -, _, -, _, -, _, -, _, -, _, hfree, -⟩ := h
  exact hfree

theorem setEntered_disciplined (s : State ω) (entered : Bool) :
    Disciplined d s (s.setEntered entered) := .of_eq rfl rfl rfl

theorem executeOrder_disciplined (hown : OwnStorage d) {sender : Address} {order : SignedOrder}
    {signature : Bytes} {deadline reward amountOut : Nat}
    (h : executeOrder d sender order signature deadline reward s = .ok (s', amountOut)) :
    Disciplined d s s' := by
  simp only [executeOrder, nonReentrant_eq_ok, emitOrderExecuted, bind_eq_ok, pure_eq_ok,
    Prod.mk.injEq] at h
  obtain ⟨-, _, ⟨quote, hadmitted, s₁, hpull, s₂, hsettle, s₃, ⟨_, -, rfl⟩, rfl, rfl⟩, rfl⟩ := h
  have hfree := admitOrder_free hadmitted
  have hcalls := (pullInput_guarded hown hpull).trans (settleAndDistribute_guarded hown hsettle) rfl
  refine (setEntered_disciplined s true).trans (Disciplined.trans ?_ (setEntered_disciplined _ false))
  exact disciplined_execute hfree hcalls.1

theorem exec_disciplined (hown : OwnStorage d) {sender : Sender} {op : Op}
    (h : exec d sender s op = .ok s') : Disciplined d s s' := by
  by_cases hop : ∃ order signature deadline reward, op = .executeOrder order signature deadline reward
  · obtain ⟨order, signature, deadline, reward, rfl⟩ := hop
    simp only [exec, bind_eq_ok, pure_eq_ok] at h
    obtain ⟨⟨s₁, amountOut⟩, hrun, rfl⟩ := h
    exact executeOrder_disciplined hown hrun
  · refine (administration_spec ?_ h).1
    intro order signature deadline reward heq
    exact hop ⟨order, signature, deadline, reward, heq⟩

/-! ## Every run -/

theorem transact_disciplined (hown : OwnStorage d) (sender : Sender) (op : Op) (s : State ω) :
    Disciplined d s (transact d sender op s) := by
  unfold transact
  split
  · rename_i s' hexec
    exact exec_disciplined hown hexec
  · exact .refl s

theorem Step.disciplined (hown : OwnStorage d) (e : Step ω) (s : State ω) :
    Disciplined d s (e.apply d s) := by
  cases e with
  | world w => exact .of_eq rfl rfl rfl
  | transaction sender op => exact transact_disciplined hown sender op s

theorem run_disciplined (hown : OwnStorage d) (steps : List (Step ω)) (s : State ω) :
    Disciplined d s (steps.foldl (Step.apply d) s) := by
  induction steps generalizing s with
  | nil => exact .refl s
  | cons e steps ih => exact (e.disciplined hown s).trans (ih _)

/-- What holds between transactions: the flags are what the events say, a nonce is consumed
    at most once, and the hash in an event is the hash of its order. -/
structure Sound (d : Deployment ω) (s : State ω) : Prop where
  executed : ∀ h, s.storage.orderExecuted h = true ↔ ∃ e ∈ s.events, e.executedHash = some h
  invalidated : ∀ m n, s.storage.invalidatedNonce m n = true ↔
    ∃ e ∈ s.events, e.consumed = some (m, n)
  once : ∀ m n, s.consumptions m n ≤ 1
  hashed : ∀ h order executor gross recipientOut fee,
    Event.orderExecuted h order executor gross recipientOut fee ∈ s.events → h = hashOrder d order

theorem Deployed.sound (h : Deployed s) : Sound d s := by
  obtain ⟨⟨owner, hstorage⟩, owner', hevents⟩ := h
  constructor
  · simp [hstorage, Storage.deployed, hevents, Event.executedHash]
  · simp [hstorage, Storage.deployed, hevents, Event.consumed]
  · simp [State.consumptions, hevents, Event.consumed]
  · simp [hevents]

theorem Sound.disciplined (h : Sound d s) (hd : Disciplined d s s') : Sound d s' := by
  obtain ⟨new, hnew⟩ := hd
  constructor
  · intro x
    rw [hnew.executed, h.executed, hnew.events]
    simp only [List.mem_append, or_and_right, exists_or]
  · intro m n
    rw [hnew.invalidated, h.invalidated, hnew.events]
    simp only [List.mem_append, or_and_right, exists_or]
  · intro m n
    have hbefore := h.once m n
    have hafter := hnew.once m n
    unfold State.consumptions at hbefore ⊢
    rw [hnew.events, List.countP_append]
    split at hafter
    · omega
    · rename_i hflag
      rw [h.invalidated] at hflag
      have hnone : (s.events.countP fun e => e.consumed = some (m, n)) = 0 := by
        rw [List.countP_eq_zero]
        intro e he
        simpa using fun hconsumed => hflag ⟨e, he, hconsumed⟩
      omega
  · intro x order executor gross recipientOut fee hmem
    rw [hnew.events] at hmem
    cases List.mem_append.mp hmem with
    | inl hold => exact h.hashed _ _ _ _ _ _ hold
    | inr hfresh => exact hnew.hashed _ _ _ _ _ _ hfresh

theorem sound_of_reachable (hown : OwnStorage d) (h : (system d).Reachable s) : Sound d s := by
  refine h.invariant (I := Sound d) (fun s hinit => Deployed.sound hinit) ?_
  intro s e s' hsound hstep
  cases hstep
  exact hsound.disciplined (e.disciplined hown s)

/-- A marked hash belongs to an executed order, whose nonce is used up. -/
theorem Sound.marked (h : Sound d s) {x : Bytes32} (hmarked : s.storage.orderExecuted x = true) :
    ∃ order executor gross recipientOut fee,
      Event.orderExecuted x order executor gross recipientOut fee ∈ s.events ∧
        hashOrder d order = x ∧ s.storage.invalidatedNonce order.maker order.nonce = true := by
  obtain ⟨e, he, hhash⟩ := (h.executed x).mp hmarked
  cases e with
  | orderExecuted h' order executor gross recipientOut fee =>
    cases hhash
    exact ⟨order, executor, gross, recipientOut, fee, he, (h.hashed _ _ _ _ _ _ he).symm,
      (h.invalidated _ _).mpr ⟨_, he, rfl⟩⟩
  | _ => cases hhash

/-- In every reachable state, and whatever re-entered on the way: each nonce of a maker
    has been consumed by at most one event in all; a hash is marked executed only by an
    executed order with that hash, whose nonce is invalidated; no flag ever comes down
    again; and a batch with a repeated or consumed nonce changes nothing. -/
theorem nonces_consumed_once (hown : OwnStorage d) (hs : (system d).Reachable s) :
    (∀ maker nonce, s.consumptions maker nonce ≤ 1) ∧
    (∀ h, s.storage.orderExecuted h = true → ∃ order executor gross recipientOut fee,
      Event.orderExecuted h order executor gross recipientOut fee ∈ s.events ∧
        hashOrder d order = h ∧ s.storage.invalidatedNonce order.maker order.nonce = true) ∧
    (∀ later : List (Step ω),
      (∀ h, s.storage.orderExecuted h = true →
        (later.foldl (Step.apply d) s).storage.orderExecuted h = true) ∧
      (∀ maker nonce, s.storage.invalidatedNonce maker nonce = true →
        (later.foldl (Step.apply d) s).storage.invalidatedNonce maker nonce = true)) ∧
    (∀ sender maker nonces deadline signature,
      (¬ nonces.Nodup ∨ ∃ n ∈ nonces, s.storage.invalidatedNonce maker n = true ∨
        0 < s.consumptions maker n) →
      transact d sender (.invalidateNoncesBySig maker nonces deadline signature) s = s) := by
  have hsound := sound_of_reachable hown hs
  refine ⟨hsound.once, fun h hmarked => hsound.marked hmarked, ?_, ?_⟩
  · intro later
    obtain ⟨new, hnew⟩ := run_disciplined hown later s
    exact ⟨fun h hh => (hnew.executed h).mpr (.inl hh),
      fun maker nonce hflag => (hnew.invalidated maker nonce).mpr (.inl hflag)⟩
  · intro sender maker nonces deadline signature hbad
    unfold transact
    split
    · rename_i s' hexec
      -- a batch that goes through has only free nonces, each of them once
      obtain ⟨-, -, hnodup, hfree⟩ := invalidateNoncesBySig_spec hexec
      cases hbad with
      | inl hrepeated => exact absurd hnodup hrepeated
      | inr hconsumed =>
        obtain ⟨n, hn, hflag⟩ := hconsumed
        have hdown := hfree n hn
        have hup : s.storage.invalidatedNonce maker n = true := by
          cases hflag with
          | inl hflag => exact hflag
          | inr hcount =>
            obtain ⟨e, he, hconsumes⟩ := List.countP_pos_iff.mp hcount
            exact (hsound.invalidated maker n).mpr ⟨e, he, of_decide_eq_true hconsumes⟩
        rw [hdown] at hup
        cases hup
    · rfl

/-! ## A recipient that re-enters -/

namespace Example

def alice : Address := 2
def bob : Sender := ⟨3, by decide⟩

/-- The signature of an account is its address as one byte. -/
def quiet : Deployment Unit where
  self := 10
  router := 11
  WETH := 12
  chainid := 1
  ownable := OpenZeppelin.ownable
  reentrancyGuard := OpenZeppelin.reentrancyGuard
  math := OpenZeppelin.math
  keccak256 bytes := Fin.ofNat _ (bytes.foldl (fun acc b => acc * 257 + b.toNat + 1) 0)
  recover _ signature := .ok (Fin.ofNat _ (signature.headD 0).toNat)
  timestamp _ := 100
  getPair _ _ _ := .ok 20
  getAmountsOut _ amountIn _ := .ok [amountIn, 2 * amountIn]
  decimals _ _ := .ok 18
  balanceOf _ _ _ := .ok 1000
  allowance _ _ _ _ := .ok 1000
  call _ s := .ok s

/-- Whoever is paid ETH uses the payment to invalidate Alice's nonce 2. -/
def reentrant : Deployment Unit :=
  { quiet with call := fun call s =>
      match call with
      | .sendETH _ _ => invalidateNoncesBySig quiet alice [2] 1000 [2] s
      | _ => .ok s }

theorem reentrant_own : OwnStorage reentrant := by
  intro call s s' h
  cases call with
  | sendETH dst value =>
    exact .enter bob (.invalidateNoncesBySig alice [2] 1000 [2]) h (.done s')
  | _ =>
    cases h
    exact .done _

def order : SignedOrder where
  maker := alice
  inputToken := 30
  outputToken := Address.zero
  amountIn := 100
  minAmountOut := 150
  maxExecutorRewardBps := 0
  triggerPriceX18 := 1
  expiry := 1000
  nonce := 1
  recipient := 40

def start : State Unit where
  storage := .deployed 1
  events := [.ownershipTransferred Address.zero 1]
  world := ()

def settled : State Unit := transact reentrant bob (.executeOrder order [2] 1000 0) start

theorem settled_reachable : (system reentrant).Reachable settled :=
  .step (.init ⟨⟨1, rfl⟩, 1, rfl⟩) trivial (e := .transaction bob (.executeOrder order [2] 1000 0)) rfl

end Example

open Example in
theorem nonces_consumed_once_reentered :
    (system reentrant).Reachable settled ∧
      settled.consumptions alice 1 = 1 ∧ settled.consumptions alice 2 = 1 ∧
      ∀ maker nonce, settled.consumptions maker nonce ≤ 1 :=
  ⟨settled_reachable, by decide +kernel, by decide +kernel,
    (nonces_consumed_once reentrant_own settled_reachable).1⟩

end FluxSignedOrderSettlement
