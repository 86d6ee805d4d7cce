-- SUMMARY: Labelled transition systems, runs whose steps all meet a condition, and the invariant rule.
import Mathlib.Data.List.Basic

/-!
# Transition systems

A system has initial states and labelled steps. A claim about every run is a
claim about every reachable state, and a claim about the runs that avoid some
steps is a claim about the states reached by steps that meet a condition.
-/

universe u v w

/-- A labelled transition system. -/
structure System (σ : Type u) (ε : Type v) where
  init : σ → Prop
  step : σ → ε → σ → Prop

namespace System

variable {σ : Type u} {ε : Type v} {ρ : Type w}

/-- The states reached by runs in which every step meets `ok`. -/
inductive ReachableWith (S : System σ ε) (ok : σ → ε → Prop) : σ → Prop
  | init {s : σ} : S.init s → ReachableWith S ok s
  | step {s s' : σ} {e : ε} : ReachableWith S ok s → ok s e → S.step s e s' → ReachableWith S ok s'

/-- The states reached by any run. -/
def Reachable (S : System σ ε) : σ → Prop := S.ReachableWith fun _ _ => True

variable {S : System σ ε}

/-- The invariant rule: what holds initially and is kept by every admitted step
holds in every state reached. -/
theorem ReachableWith.invariant {ok : σ → ε → Prop} {I : σ → Prop}
    (hinit : ∀ s, S.init s → I s)
    (hstep : ∀ s e s', I s → ok s e → S.step s e s' → I s')
    {s : σ} (h : S.ReachableWith ok s) : I s := by
  induction h with
  | init h => exact hinit _ h
  | step _ hok hs ih => exact hstep _ _ _ ih hok hs

/-- The invariant rule over all runs. -/
theorem Reachable.invariant {I : σ → Prop}
    (hinit : ∀ s, S.init s → I s)
    (hstep : ∀ s e s', I s → S.step s e s' → I s')
    {s : σ} (h : S.Reachable s) : I s :=
  ReachableWith.invariant hinit (fun s e s' hI _ hs => hstep s e s' hI hs) h

/-- Fewer steps reach fewer states. -/
theorem ReachableWith.mono {ok ok' : σ → ε → Prop} (hok : ∀ s e, ok s e → ok' s e) {s : σ}
    (h : S.ReachableWith ok s) : S.ReachableWith ok' s := by
  induction h with
  | init h => exact .init h
  | step _ hstep hs ih => exact .step ih (hok _ _ hstep) hs

/-- A run that another system follows step by step, where a step may also change nothing
that is observed. -/
theorem ReachableWith.simulated {τ : Type u} {δ : Type v} {T : System τ δ}
    {ok : σ → ε → Prop} {ok' : τ → δ → Prop} (f : σ → τ) (hinit : ∀ s, S.init s → T.init (f s))
    (hstep : ∀ s e s', ok s e → S.step s e s' →
      f s' = f s ∨ ∃ d, ok' (f s) d ∧ T.step (f s) d (f s'))
    {s : σ} (h : S.ReachableWith ok s) : T.ReachableWith ok' (f s) := by
  induction h with
  | init h => exact .init (hinit _ h)
  | @step s s' e _ hok hs ih =>
    rcases hstep s e s' hok hs with hsame | ⟨d, hd, hs'⟩
    · rw [hsame]
      exact ih
    · exact .step ih hd hs'

theorem Reachable.simulated {τ : Type u} {δ : Type v} {T : System τ δ} (f : σ → τ)
    (hinit : ∀ s, S.init s → T.init (f s))
    (hstep : ∀ s e s', S.step s e s' → f s' = f s ∨ ∃ d, T.step (f s) d (f s'))
    {s : σ} (h : S.Reachable s) : T.Reachable (f s) := by
  refine ReachableWith.simulated f hinit ?_ h
  intro s e s' _ hs
  rcases hstep s e s' hs with hsame | ⟨d, hs'⟩
  · exact .inl hsame
  · exact .inr ⟨d, trivial, hs'⟩

/-- The same steps from one given state. -/
def startingAt (S : System σ ε) (s : σ) : System σ ε where
  init := (· = s)
  step := S.step

/-- The states that come after a state by steps that meet `ok`. -/
def LeadsTo (S : System σ ε) (ok : σ → ε → Prop) (s s' : σ) : Prop :=
  (S.startingAt s).ReachableWith ok s'

/-- What holds at some time and is kept by every admitted step holds from then on. -/
theorem LeadsTo.preserves {ok : σ → ε → Prop} {I : σ → Prop} {s s' : σ} (h : S.LeadsTo ok s s')
    (hI : I s) (hstep : ∀ s e s', I s → ok s e → S.step s e s' → I s') : I s' := by
  refine ReachableWith.invariant (S := S.startingAt s) ?_ hstep h
  rintro _ rfl
  exact hI

/-! ## Systems whose steps are computed -/

/-- The system whose steps are the calls that succeed; a call that fails leaves
the state as it was. -/
def ofCalls (init : σ → Prop) (exec : σ → ε → Except ρ σ) : System σ ε where
  init := init
  step s e s' := exec s e = .ok s'

/-- Run a list of calls, each of which has to meet `ok` and to succeed. -/
def runWith (exec : σ → ε → Except ρ σ) (ok : σ → ε → Prop) [∀ s e, Decidable (ok s e)] :
    σ → List ε → Option σ
  | s, [] => some s
  | s, e :: es =>
    if ok s e then
      match exec s e with
      | .ok s' => runWith exec ok s' es
      | .error _ => none
    else none

theorem reachableWith_of_runWith {init : σ → Prop} {exec : σ → ε → Except ρ σ}
    {ok : σ → ε → Prop} [∀ s e, Decidable (ok s e)] {s s' : σ} {es : List ε}
    (hs : (ofCalls init exec).ReachableWith ok s) (h : runWith exec ok s es = some s') :
    (ofCalls init exec).ReachableWith ok s' := by
  induction es generalizing s with
  | nil =>
    simp only [runWith, Option.some.injEq] at h
    exact h ▸ hs
  | cons e es ih =>
    simp only [runWith] at h
    split at h
    · rename_i hok
      split at h
      · rename_i s₁ hs₁
        exact ih (.step hs hok hs₁) h
      · cases h
    · cases h

/-! ## Histories -/

/-- A history: the calls made so far, each with the state it was made in, the latest first. -/
abbrev History (σ : Type u) (ε : Type v) : Type (max u v) := List (σ × ε)

/-- A call that is also written to the history. -/
def logged (exec : σ → ε → Except ρ σ) (r : σ × History σ ε) (e : ε) :
    Except ρ (σ × History σ ε) :=
  match exec r.1 e with
  | .ok s' => .ok (s', (r.1, e) :: r.2)
  | .error x => .error x

/-- The system of calls together with their history. -/
def ofCallsLogged (init : σ → Prop) (exec : σ → ε → Except ρ σ) : System (σ × History σ ε) ε :=
  ofCalls (fun r => init r.1 ∧ r.2 = []) (logged exec)

theorem logged_eq_ok {exec : σ → ε → Except ρ σ} {r r' : σ × History σ ε} {e : ε} :
    logged exec r e = .ok r' ↔ exec r.1 e = .ok r'.1 ∧ r'.2 = (r.1, e) :: r.2 := by
  unfold logged
  constructor
  · intro h
    split at h
    · cases h
      exact ⟨‹_›, rfl⟩
    · cases h
  · intro ⟨hexec, hlog⟩
    rw [hexec, ← hlog]

/-- The invariant rule with a history: it holds of the empty history, and a call that
succeeds extends it. -/
theorem ReachableWith.invariant_logged {init : σ → Prop} {exec : σ → ε → Except ρ σ}
    {ok : σ × History σ ε → ε → Prop} {I : σ → History σ ε → Prop}
    (hinit : ∀ s, init s → I s [])
    (hstep : ∀ s log e s', I s log → ok (s, log) e → exec s e = .ok s' → I s' ((s, e) :: log))
    {s : σ} {log : History σ ε} (h : (ofCallsLogged init exec).ReachableWith ok (s, log)) :
    I s log := by
  refine ReachableWith.invariant (I := fun r => I r.1 r.2) ?_ ?_ h
  · intro r hr
    rw [hr.2]
    exact hinit r.1 hr.1
  · intro r e r' hI hok hcall
    obtain ⟨hexec, hlog⟩ := logged_eq_ok.mp hcall
    rw [hlog]
    exact hstep r.1 r.2 e r'.1 hI hok hexec

/-- Every call in a history was made in a state that its own history reaches, met the
condition there and succeeded. -/
theorem ReachableWith.earlier {init : σ → Prop} {exec : σ → ε → Except ρ σ}
    {ok : σ × History σ ε → ε → Prop} {s : σ} {log : History σ ε}
    (h : (ofCallsLogged init exec).ReachableWith ok (s, log)) :
    ∀ {later : History σ ε} {x : σ} {e : ε} {before : History σ ε}, log = later ++ (x, e) :: before →
      (ofCallsLogged init exec).ReachableWith ok (x, before) ∧ ok (x, before) e ∧
        ∃ x', exec x e = .ok x' := by
  have hall : ∀ r, (ofCallsLogged init exec).ReachableWith ok r →
      ∀ later x e before, r.2 = later ++ (x, e) :: before →
        (ofCallsLogged init exec).ReachableWith ok (x, before) ∧ ok (x, before) e ∧
          ∃ x', exec x e = .ok x' := by
    intro r hr
    induction hr with
    | init hinit =>
      intro later x e before hsplit
      rw [hinit.2] at hsplit
      cases later <;> cases hsplit
    | @step r r' e hreach hok hcall ih =>
      intro later x e' before hsplit
      obtain ⟨hexec, hlog⟩ := logged_eq_ok.mp hcall
      rw [hlog] at hsplit
      cases later with
      | nil =>
        obtain ⟨hlast, rfl⟩ := List.cons.inj hsplit
        obtain ⟨rfl, rfl⟩ := Prod.mk.inj hlast
        exact ⟨hreach, hok, r'.1, hexec⟩
      | cons last later =>
        exact ih later x e' before (List.cons.inj hsplit).2
  intro later x e before hsplit
  exact hall (s, log) h later x e before hsplit

/-- Fewer starting points and fewer steps reach fewer states. -/
theorem ReachableWith.mono_logged {init init' : σ → Prop} {exec : σ → ε → Except ρ σ}
    {ok ok' : σ × History σ ε → ε → Prop} (hinit : ∀ s, init s → init' s)
    (hok : ∀ r e, ok r e → ok' r e) {r : σ × History σ ε}
    (h : (ofCallsLogged init exec).ReachableWith ok r) :
    (ofCallsLogged init' exec).ReachableWith ok' r := by
  induction h with
  | init hr => exact .init ⟨hinit _ hr.1, hr.2⟩
  | step _ hstep hcall ih => exact .step ih (hok _ _ hstep) hcall

end System
