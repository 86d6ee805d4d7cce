-- SUMMARY: The router graph keeps every edge unless the scanner stores a token's list from pairs listed before a pair that the subscriber has merged meanwhile, or a read of the subscriber fails.
import FluxSwap.RouterGraph.Worker

/-!
# Edges of the router graph

The subscriber adds to a list what it has read of it, and it is the only one to handle
events, so it never drops a token that an earlier event has brought. The scanner replaces a
list by what its listed pairs give. This drops the token of a pair that has been created
since the listing, if the event of the pair has been merged by then. A read that fails looks
like an empty list, so the subscriber then replaces what it has stored of the token before by
one neighbour.
-/

namespace RouterGraph

/-- The event the subscriber has in hand. -/
def Subscriber.event : Subscriber → Option PairCreatedEvent
  | .idle => none
  | .received event _ | .missing event _ | .first event _ | .firstRead event _ _
  | .second event _ | .secondRead event _ _ | .merged event _ => some event

/-- The subscriber has stored the neighbour in the event at hand. -/
def Subscriber.Merged (token neighbor : Address) : Subscriber → Prop
  | .second event _ | .secondRead event _ _ =>
    token = event.pair.token0 ∧ neighbor = event.pair.token1
  | .merged event _ => event.pair.Joins token neighbor
  | _ => False

/-- The subscriber has stored the neighbour. -/
def State.Merged (s : State) (token neighbor : Address) : Prop :=
  (∃ event ∈ s.applied, event.pair.Joins token neighbor) ∨ s.subscriber.Merged token neighbor

/-- If the step stores the list of a token for the scanner, then the pairs it has listed include
    one with each neighbour of the token that the subscriber has stored. -/
def SavesCurrent (s : State) (op : Op) : Prop :=
  ∀ listed token rest, op = .saveTokenNeighbors → s.scanner = .changed listed token rest →
    ∀ neighbor, s.Merged token neighbor → ∃ pair ∈ listed, pair.Joins token neighbor

/-- The token whose list the subscriber reads next. -/
def Subscriber.reads : Subscriber → Option Address
  | .first event _ => some event.pair.token0
  | .second event _ => some event.pair.token1
  | _ => none

/-- If the subscriber reads the list of a token and gets no answer, then it has stored no
    neighbour of the token yet, but perhaps the one of the event at hand. -/
def ReadsAnswered (s : State) (op : Op) : Prop :=
  ∀ event token, op = .applyPairEvent false → s.subscriber.event = some event →
    s.subscriber.reads = some token →
    ∀ neighbor, s.Merged token neighbor → event.pair.Joins token neighbor

/-- No step loses an edge. -/
def KeepsEdges (s : State) (op : Op) : Prop := SavesCurrent s op ∧ ReadsAnswered s op

/-- The list that the subscriber has read and not yet replaced. -/
def Subscriber.read : Subscriber → Option (Address × List Address)
  | .firstRead event _ existing => some (event.pair.token0, existing.getD [])
  | .secondRead event _ existing => some (event.pair.token1, existing.getD [])
  | _ => none

/-- What the subscriber has stored of a token is in the store, and in the list in its hand, to
    which it adds the neighbour of the event at hand. -/
structure EdgesKept (s : State) : Prop where
  stored : ∀ token neighbor, s.Merged token neighbor → neighbor ∈ s.store.neighborsOf token
  read : ∀ token list, s.subscriber.read = some (token, list) →
    ∀ neighbor, s.Merged token neighbor →
      neighbor ∈ list ∨ ∃ event, s.subscriber.event = some event ∧ event.pair.Joins token neighbor

/-! ## The scanner -/

/-- What a step of the scanner can do: only one of its steps touches a list. -/
theorem syncOnce_cases {s s' : State} {op : Op} (h : syncOnce s op = some s') :
    s'.subscriber = s.subscriber ∧ s'.applied = s.applied ∧
      (s'.store.tokenNeighbors = s.store.tokenNeighbors ∨
        ∃ listed token rest, op = .saveTokenNeighbors ∧ s.scanner = .changed listed token rest ∧
          s'.store = s.store.saveTokenNeighbors token (scannedNeighbors listed token)) := by
  unfold syncOnce at h
  split at h
  · split at h <;> cases h
    exact ⟨rfl, rfl, .inl rfl⟩
  · split at h
    · split at h <;> cases h <;> exact ⟨rfl, rfl, .inl rfl⟩
    · cases h
  · split at h <;> cases h
    exact ⟨rfl, rfl, .inl rfl⟩
  · split at h
    · split at h
      · split at h
        · split at h <;> cases h <;> exact ⟨rfl, rfl, .inl rfl⟩
        · cases h
          exact ⟨rfl, rfl, .inl rfl⟩
      · cases h
    · cases h
  · split at h <;> cases h
    exact ⟨rfl, rfl, .inr ⟨_, _, _, rfl, ‹_›, rfl⟩⟩
  · cases h

theorem neighborsOf_congr {store store' : Store}
    (h : store'.tokenNeighbors = store.tokenNeighbors) (token : Address) :
    store'.neighborsOf token = store.neighborsOf token := by
  unfold Store.neighborsOf
  rw [h]

namespace EdgesKept

variable {s s' : State}

/-- A step that leaves the lists alone and takes nothing new into the subscriber's hand. -/
theorem of_same (h : EdgesKept s) (hlists : s'.store.tokenNeighbors = s.store.tokenNeighbors)
    (hmerged : ∀ token neighbor, s'.Merged token neighbor → s.Merged token neighbor)
    (hread : s'.subscriber.read = none ∨ s'.subscriber = s.subscriber) : EdgesKept s' where
  stored token neighbor hmem := by
    rw [neighborsOf_congr hlists]
    exact h.stored token neighbor (hmerged token neighbor hmem)
  read token list hlist neighbor hmem := by
    cases hread with
    | inl hnone =>
      rw [hnone] at hlist
      cases hlist
    | inr hsame =>
      rw [hsame] at hlist ⊢
      exact h.read token list hlist neighbor (hmerged token neighbor hmem)

/-- A step of the scanner keeps the edges if it stores current lists. -/
theorem syncOnce (h : EdgesKept s) {op : Op} (hop : SavesCurrent s op)
    (hstep : syncOnce s op = some s') : EdgesKept s' := by
  obtain ⟨hsubscriber, happlied, hstore⟩ := syncOnce_cases hstep
  have hmerged : ∀ token neighbor, s'.Merged token neighbor → s.Merged token neighbor := by
    intro token neighbor hmem
    unfold State.Merged at *
    rwa [hsubscriber, happlied] at hmem
  cases hstore with
  | inl hlists => exact h.of_same hlists hmerged (.inr hsubscriber)
  | inr hsave =>
    obtain ⟨listed, saved, rest, rfl, hscanner, hstore⟩ := hsave
    refine ⟨fun token neighbor hmem => ?_, fun token list hlist neighbor hmem => ?_⟩
    · rw [hstore, Store.neighborsOf_saveTokenNeighbors]
      split
      · subst token
        exact mem_scannedNeighbors.mpr
          (hop listed saved rest rfl hscanner neighbor (hmerged saved neighbor hmem))
      · exact h.stored token neighbor (hmerged token neighbor hmem)
    · rw [hsubscriber] at hlist ⊢
      exact h.read token list hlist neighbor (hmerged token neighbor hmem)

/-! ## The subscriber -/

/-- The subscriber reads the list of a token. Without an answer there is nothing to lose. -/
theorem reads (h : EdgesKept s) {token : Address} {subscriber : Subscriber} {answered : Bool}
    {event : PairCreatedEvent} (hop : ReadsAnswered s (.applyPairEvent answered))
    (hevent : s.subscriber.event = some event) (htoken : s.subscriber.reads = some token)
    (hmerged : ∀ t n, subscriber.Merged t n → s.subscriber.Merged t n)
    (hread : subscriber.read = some (token, (s.store.getTokenNeighbors answered token).getD []))
    (hsame : subscriber.event = some event) :
    EdgesKept { s with subscriber := subscriber } := by
  have hmem : ∀ t n, ({ s with subscriber := subscriber } : State).Merged t n → s.Merged t n :=
    fun t n => Or.imp_right (hmerged t n)
  refine ⟨fun t n hn => h.stored t n (hmem t n hn), fun t list hlist n hn => ?_⟩
  obtain ⟨rfl, rfl⟩ := Prod.mk.inj (Option.some.inj (hread.symm.trans hlist))
  rw [Store.getD_getTokenNeighbors]
  cases answered with
  | true => exact .inl (h.stored token n (hmem token n hn))
  | false => exact .inr ⟨event, hsame, hop event token rfl hevent htoken n (hmem token n hn)⟩

/-- The subscriber replaces the list it has read by one with one more neighbour. -/
theorem merges (h : EdgesKept s) {token neighbor : Address} {existing : Option (List Address)}
    {subscriber : Subscriber}
    {event : PairCreatedEvent} (hread : s.subscriber.read = some (token, existing.getD []))
    (hevent : s.subscriber.event = some event)
    (hjoins : ∀ n, event.pair.Joins token n → n = neighbor)
    (hmerged : ∀ t n, subscriber.Merged t n →
      s.subscriber.Merged t n ∨ (t = token ∧ n = neighbor))
    (hnone : subscriber.read = none) :
    EdgesKept { s with
      store := s.store.saveTokenNeighbors token (mergedNeighbors existing neighbor)
      subscriber := subscriber } := by
  refine ⟨fun t n hn => ?_, fun t list hlist => ?_⟩
  · have hn' : s.Merged t n ∨ (t = token ∧ n = neighbor) := by
      cases hn with
      | inl happlied => exact .inl (.inl happlied)
      | inr hsubscriber => exact (hmerged t n hsubscriber).imp_left .inr
    rw [Store.neighborsOf_saveTokenNeighbors]
    split
    · subst t
      rw [mem_mergedNeighbors]
      cases hn' with
      | inl hold =>
        rcases h.read _ _ hread n hold with hlist | ⟨e, he, hn⟩
        · exact .inr hlist
        · obtain rfl := Option.some.inj (hevent.symm.trans he)
          exact .inl (hjoins n hn)
      | inr hnew => exact .inl hnew.2
    · cases hn' with
      | inl hold => exact h.stored t n hold
      | inr hnew => exact absurd hnew.1 ‹_›
  · rw [hnone] at hlist
    cases hlist

theorem applyPairEvent (h : EdgesKept s) {answered : Bool}
    (hop : ReadsAnswered s (.applyPairEvent answered))
    (hstep : applyPairEvent answered s = some s') : EdgesKept s' := by
  unfold RouterGraph.applyPairEvent at hstep
  split at hstep
  · cases hstep
  · split at hstep <;> cases hstep
    · exact h.of_same rfl (fun _ _ => Or.imp_right False.elim) (.inl rfl)
    · exact h.of_same rfl (fun _ _ => Or.imp_right False.elim) (.inl rfl)
  · cases hstep
    exact h.of_same rfl (fun _ _ => Or.imp_right False.elim) (.inl rfl)
  · cases hstep
    rename_i hsubscriber
    refine h.reads hop (by rw [hsubscriber]; rfl) (by rw [hsubscriber]; rfl)
      (fun _ _ => False.elim) rfl rfl
  · cases hstep
    rename_i hsubscriber
    refine h.merges (by rw [hsubscriber]; rfl) (by rw [hsubscriber]; rfl) (fun n hn => ?_)
      (fun t n hn => .inr hn) rfl
    rcases hn with ⟨-, rfl⟩ | ⟨hsame, rfl⟩
    · rfl
    · exact hsame
  · cases hstep
    rename_i hsubscriber
    refine h.reads hop (by rw [hsubscriber]; rfl) (by rw [hsubscriber]; rfl) (fun t n hn => ?_)
      rfl rfl
    rw [hsubscriber]
    exact hn
  · cases hstep
    rename_i hsubscriber
    refine h.merges (by rw [hsubscriber]; rfl) (by rw [hsubscriber]; rfl) (fun n hn => ?_)
      (fun t n hn => ?_) rfl
    · rcases hn with ⟨hsame, rfl⟩ | ⟨-, rfl⟩
      · exact hsame
      · rfl
    · rw [hsubscriber]
      exact hn
  · cases hstep
    rename_i event advanceCursor hsubscriber
    refine h.of_same ?_ (fun t n hn => ?_) (.inl rfl)
    · split <;> rfl
    · have hn' := hn.resolve_right id
      simp only [List.mem_cons, exists_eq_or_imp] at hn'
      rw [State.Merged, hsubscriber]
      exact hn'.symm

/-! ## Runs -/

/-- The step lemma. -/
theorem step (h : EdgesKept s) {op : Op} (hop : KeepsEdges s op) (hstep : next s op = some s') :
    EdgesKept s' := by
  unfold next at hstep
  split at hstep
  · cases hstep
    exact h.of_same rfl (fun _ _ => id) (.inr rfl)
  · split at hstep
    · split at hstep <;> cases hstep
      exact h.of_same rfl (fun _ _ => Or.imp_right False.elim) (.inl rfl)
    · cases hstep
  · exact h.applyPairEvent hop.2 hstep
  · cases hstep
    exact h.of_same rfl (fun _ _ => Or.imp_right False.elim) (.inl rfl)
  · exact h.syncOnce hop.1 hstep

theorem initial (h : s.Initial) : EdgesKept s := by
  obtain ⟨-, hsubscriber, happlied⟩ := h
  refine ⟨fun token neighbor hmem => ?_, fun token list hlist => ?_⟩
  · unfold State.Merged at hmem
    rw [hsubscriber, happlied] at hmem
    simp [Subscriber.Merged] at hmem
  · rw [hsubscriber] at hlist
    cases hlist

end EdgesKept

theorem exec_ok {s s' : State} {op : Op} (h : exec s op = .ok s') : next s op = some s' := by
  unfold exec at h
  split at h
  · rw [‹next s op = _›, Except.ok.inj h]
  · cases h

/-- In runs in which the scanner stores current lists only and the subscriber's reads of lists
    it has added to are answered, both ends of a pair stay in each other's list once
    `applyPairEvent` has returned for the pair. -/
theorem applied_edges_kept {s : State} (h : worker.ReachableWith KeepsEdges s)
    {event : PairCreatedEvent} (hevent : event ∈ s.applied) :
    event.pair.token1 ∈ s.store.neighborsOf event.pair.token0 ∧
      event.pair.token0 ∈ s.store.neighborsOf event.pair.token1 := by
  have hkept : EdgesKept s := by
    refine h.invariant (fun _ hinit => .initial hinit) ?_
    intro s op s' hkept hop hstep
    exact hkept.step hop (exec_ok hstep)
  exact ⟨hkept.stored _ _ (.inl ⟨event, hevent, .inl ⟨rfl, rfl⟩⟩),
    hkept.stored _ _ (.inl ⟨event, hevent, .inr ⟨rfl, rfl⟩⟩)⟩

/-- Storing a list that is not current drops a neighbour that the subscriber has stored. -/
theorem outdated_save_drops {s s' : State} (hop : ¬SavesCurrent s .saveTokenNeighbors)
    (hstep : exec s .saveTokenNeighbors = .ok s') :
    ∃ token neighbor, s'.Merged token neighbor ∧ neighbor ∉ s'.store.neighborsOf token := by
  unfold SavesCurrent at hop
  push Not at hop
  obtain ⟨listed, token, rest, -, hscanner, neighbor, hmerged, hmissing⟩ := hop
  have hnext := exec_ok hstep
  simp only [next, syncOnce, hscanner, Option.some.injEq] at hnext
  subst hnext
  refine ⟨token, neighbor, hmerged, ?_⟩
  rw [Store.neighborsOf_saveTokenNeighbors, if_pos rfl, mem_scannedNeighbors]
  rintro ⟨pair, hpair, hjoins⟩
  exact hmissing pair hpair hjoins

/-- A read that does not meet the condition, and then the save, drop a neighbour that the
    subscriber has stored. -/
theorem unanswered_read_drops {s s₁ s₂ : State} {answered : Bool}
    (hop : ¬ReadsAnswered s (.applyPairEvent false))
    (hread : exec s (.applyPairEvent false) = .ok s₁)
    (hsave : exec s₁ (.applyPairEvent answered) = .ok s₂) :
    ∃ token neighbor, s₂.Merged token neighbor ∧ neighbor ∉ s₂.store.neighborsOf token := by
  unfold ReadsAnswered at hop
  push Not at hop
  obtain ⟨event, token, -, hevent, htoken, neighbor, hmerged, hother⟩ := hop
  have hread' := exec_ok hread
  have hsave' := exec_ok hsave
  refine ⟨token, neighbor, ?_⟩
  cases hsubscriber : s.subscriber with
  | first e advanceCursor =>
    rw [hsubscriber] at hevent htoken
    obtain rfl := Option.some.inj hevent
    obtain rfl := Option.some.inj htoken
    simp only [next, applyPairEvent, hsubscriber, Option.some.injEq] at hread'
    subst hread'
    simp only [next, applyPairEvent, Option.some.injEq] at hsave'
    subst hsave'
    -- what was merged is from an earlier event, for this one has merged nothing yet
    have happlied := hmerged.resolve_right (by rw [hsubscriber]; exact id)
    refine ⟨.inl happlied, ?_⟩
    rw [Store.neighborsOf_saveTokenNeighbors, if_pos rfl, mem_mergedNeighbors,
      Store.getD_getTokenNeighbors]
    rintro (rfl | hmem)
    · exact hother (.inl ⟨rfl, rfl⟩)
    · cases hmem
  | second e advanceCursor =>
    rw [hsubscriber] at hevent htoken
    obtain rfl := Option.some.inj hevent
    obtain rfl := Option.some.inj htoken
    simp only [next, applyPairEvent, hsubscriber, Option.some.injEq] at hread'
    subst hread'
    simp only [next, applyPairEvent, Option.some.injEq] at hsave'
    subst hsave'
    have happlied := hmerged.resolve_right (by rw [hsubscriber]; exact fun hnow => hother (.inl hnow))
    refine ⟨.inl happlied, ?_⟩
    rw [Store.neighborsOf_saveTokenNeighbors, if_pos rfl, mem_mergedNeighbors,
      Store.getD_getTokenNeighbors]
    rintro (rfl | hmem)
    · exact hother (.inr ⟨rfl, rfl⟩)
    · cases hmem
  | idle | received | missing | firstRead | secondRead | merged =>
    rw [hsubscriber] at htoken
    cases htoken

namespace Example

def pairA : PairDescriptor := ⟨101, 1, 2⟩

def pairB : PairDescriptor := ⟨102, 1, 3⟩

def created : PairCreatedEvent := ⟨pairB, 20, 7, 0⟩

/-- A factory with one pair, and an empty store. -/
def start : State where
  allPairs := [pairA]
  store := ⟨fun _ => none, fun _ => none, none⟩
  scanner := .idle
  subscriber := .idle
  applied := []

/-- The first `SyncOnce` of a run. -/
def firstSync : List Op :=
  [.listPairs, .checkPairMetadata true, .savePairMetadata, .checkTokenNeighbors 1 true,
    .saveTokenNeighbors, .checkTokenNeighbors 2 true, .saveTokenNeighbors]

/-- A pair is created, and its event is applied. -/
def createAndApply : List Op :=
  [.createPair pairB, .receive created true] ++ List.replicate 7 (.applyPairEvent true)

/-- The next `SyncOnce` lists the pairs before the new one is there and stores the list of a
    token after the event has been applied. -/
def overtaken : List Op :=
  firstSync ++ [.listPairs] ++ createAndApply ++
    [.checkPairMetadata true, .checkTokenNeighbors 1 true, .saveTokenNeighbors]

/-- Nothing has been merged, or the step is neither a save of the scanner nor a failing read. -/
def savesFirst (s : State) (op : Op) : Bool :=
  match op, s.subscriber, s.applied with
  | .saveTokenNeighbors, .idle, [] => true
  | .saveTokenNeighbors, _, _ => false
  | .applyPairEvent answered, _, _ => answered
  | _, _, _ => true

theorem keepsEdges_of_savesFirst {s : State} {op : Op} (h : savesFirst s op = true) :
    KeepsEdges s op := by
  constructor
  · rintro listed token rest rfl - neighbor hmerged
    unfold savesFirst at h
    split at h
    · rename_i hsubscriber happlied
      unfold State.Merged at hmerged
      rw [hsubscriber, happlied] at hmerged
      simp [Subscriber.Merged] at hmerged
    · cases h
    · simp_all
    · simp_all
  · rintro event token rfl
    cases h

theorem applied_edges_kept_created :
    ∃ s, worker.ReachableWith KeepsEdges s ∧ created ∈ s.applied ∧
      3 ∈ s.store.neighborsOf 1 := by
  have hrun : (System.runWith exec (fun s op => savesFirst s op = true) start
      (firstSync ++ createAndApply)).map (fun s => decide (created ∈ s.applied)) = some true := by
    decide +kernel
  obtain ⟨s, hs, hsummary⟩ := Option.map_eq_some_iff.mp hrun
  have hreach : worker.ReachableWith KeepsEdges s :=
    System.ReachableWith.mono (fun _ _ => keepsEdges_of_savesFirst)
      (System.reachableWith_of_runWith (.init ⟨rfl, rfl, rfl⟩) hs)
  have hevent : created ∈ s.applied := of_decide_eq_true hsummary
  exact ⟨s, hreach, hevent, (applied_edges_kept hreach hevent).1⟩

/-- The new pair is lost from the list of its first token, after its event has been applied. -/
theorem applied_edge_lost :
    ∃ s, worker.Reachable s ∧ created ∈ s.applied ∧
      created.pair.token1 ∉ s.store.neighborsOf created.pair.token0 := by
  have hrun : (System.runWith exec (fun _ _ => True) start overtaken).map (fun s =>
      (decide (created ∈ s.applied), decide (3 ∉ s.store.neighborsOf 1))) = some (true, true) := by
    decide +kernel
  obtain ⟨s, hs, hsummary⟩ := Option.map_eq_some_iff.mp hrun
  obtain ⟨hevent, hlost⟩ := Prod.mk.inj hsummary
  exact ⟨s, System.reachableWith_of_runWith (.init ⟨rfl, rfl, rfl⟩) hs,
    of_decide_eq_true hevent, of_decide_eq_true hlost⟩

end Example

end RouterGraph
