-- SUMMARY: The router graph never shows an edge that the factory does not have, and an undisturbed scan makes it exact, whatever the loops have done to the lists before.
import FluxSwap.RouterGraph.Edges

/-!
# Repair of the router graph

Both loops store only what pairs of the factory give, in any order of their steps. A scanner
that stores old lists, or a subscriber that replaces a list it has read before the scanner
stored it, can lose edges. The next scan brings them back: when no pair is created during the
scan and the subscriber replaces only lists that are still as it has read them, the store shows
the factory as soon as the scan is over, and as long as this goes on.
-/

namespace RouterGraph

/-! ## Sorted lists -/

theorem sortedLT_sortStrings {set : List Address} (h : set.Nodup) : (sortStrings set).SortedLT :=
  List.sortedLE_insertionSort.sortedLT_of_nodup ((List.perm_insertionSort _ set).nodup_iff.mpr h)

theorem nodup_set {pairs : List PairDescriptor} {token : Address} :
    ((neighborSets pairs).set token).Nodup := by
  have hall : ∀ (pairs : List PairDescriptor) (sets : NeighborSets),
      (∀ t, (sets.set t).Nodup) → ∀ t, ((pairs.foldl appendPair sets).set t).Nodup := by
    intro pairs
    induction pairs with
    | nil => exact fun _ hsets => hsets
    | cons pair pairs ih =>
      have happend : ∀ (sets : NeighborSets) token neighbor, (∀ t, (sets.set t).Nodup) →
          ∀ t, ((appendNeighbor sets token neighbor).set t).Nodup := by
        intro sets token neighbor hsets t
        simp only [appendNeighbor, Function.update_apply]
        split
        · exact (hsets token).insert
        · exact hsets t
      intro sets hsets
      exact ih _ (happend _ _ _ (happend _ _ _ hsets))
  exact hall pairs _ (fun _ => List.nodup_nil) token

theorem sortedLT_scannedNeighbors {pairs : List PairDescriptor} {token : Address} :
    (scannedNeighbors pairs token).SortedLT := sortedLT_sortStrings nodup_set

theorem sortedLT_mergedNeighbors {existing : Option (List Address)} {neighbor : Address} :
    (mergedNeighbors existing neighbor).SortedLT :=
  sortedLT_sortStrings (List.nodup_dedup _).insert

/-- Merging a neighbour that is there already changes nothing. -/
theorem mergedNeighbors_of_mem {existing : Option (List Address)} {neighbor : Address}
    (hsorted : (existing.getD []).SortedLT) (hmem : neighbor ∈ existing.getD []) :
    mergedNeighbors existing neighbor = existing.getD [] := by
  refine sortedLT_mergedNeighbors.eq_of_mem_iff hsorted fun token => ?_
  rw [mem_mergedNeighbors]
  constructor
  · rintro (rfl | hold)
    · exact hmem
    · exact hold
  · exact .inr

theorem mem_tokens {pairs : List PairDescriptor} {token : Address} :
    token ∈ (neighborSets pairs).tokens ↔ ∃ pair ∈ pairs, ∃ neighbor, pair.Joins token neighbor := by
  have hall : ∀ (pairs : List PairDescriptor) (sets : NeighborSets),
      token ∈ (pairs.foldl appendPair sets).tokens ↔
        token ∈ sets.tokens ∨ ∃ pair ∈ pairs, ∃ neighbor, pair.Joins token neighbor := by
    intro pairs
    induction pairs with
    | nil => simp
    | cons pair pairs ih =>
      intro sets
      have hpair : (∃ neighbor, pair.Joins token neighbor) ↔
          token = pair.token0 ∨ token = pair.token1 := by
        unfold PairDescriptor.Joins
        simp [exists_or]
      rw [List.foldl_cons, ih]
      simp only [appendPair, appendNeighbor, List.mem_insert_iff, List.mem_cons, exists_eq_or_imp,
        hpair]
      tauto
  rw [neighborSets, hall]
  simp

/-! ## Soundness -/

/-- A list that can be stored for the token: sorted, without repetitions, and only of tokens
    that a pair joins with it. -/
structure SoundList (allPairs : List PairDescriptor) (token : Address) (list : List Address) :
    Prop where
  sorted : list.SortedLT
  joined : ∀ neighbor ∈ list, ∃ pair ∈ allPairs, pair.Joins token neighbor

/-- The store shows nothing that the factory does not have. -/
structure Store.Sound (store : Store) (allPairs : List PairDescriptor) : Prop where
  lists : ∀ token, SoundList allPairs token (store.neighborsOf token)
  metadata : ∀ address pair, store.pairMetadata address = some pair →
    pair ∈ allPairs ∧ pair.pairAddress = address

/-- The pairs the scanner has in hand. -/
def Scanner.inHand : Scanner → List PairDescriptor
  | .idle => []
  | .pairs listed rest => listed ++ rest
  | .missing listed pair rest => pair :: (listed ++ rest)
  | .tokens listed _ | .changed listed _ _ => listed

def Scanner.isIdle : Scanner → Bool
  | .idle => true
  | _ => false

theorem Scanner.eq_idle {scanner : Scanner} (h : scanner.isIdle = true) : scanner = .idle := by
  cases scanner with
  | idle => rfl
  | _ => cases h

structure State.Sound (s : State) : Prop where
  store : s.store.Sound s.allPairs
  scanner : ∀ pair ∈ s.scanner.inHand, pair ∈ s.allPairs
  event : ∀ event, s.subscriber.event = some event → event.pair ∈ s.allPairs
  read : ∀ token list, s.subscriber.read = some (token, list) → SoundList s.allPairs token list

theorem SoundList.mono {pairs pairs' : List PairDescriptor} (hpairs : pairs ⊆ pairs')
    {token : Address} {list : List Address} (h : SoundList pairs token list) :
    SoundList pairs' token list where
  sorted := h.sorted
  joined neighbor hmem := by
    obtain ⟨pair, hpair, hjoins⟩ := h.joined neighbor hmem
    exact ⟨pair, hpairs hpair, hjoins⟩

theorem soundList_scannedNeighbors {pairs listed : List PairDescriptor}
    (h : ∀ pair ∈ listed, pair ∈ pairs) (token : Address) :
    SoundList pairs token (scannedNeighbors listed token) where
  sorted := sortedLT_scannedNeighbors
  joined neighbor hmem := by
    obtain ⟨pair, hpair, hjoins⟩ := mem_scannedNeighbors.mp hmem
    exact ⟨pair, h pair hpair, hjoins⟩

theorem soundList_mergedNeighbors {pairs : List PairDescriptor} {token neighbor : Address}
    {existing : Option (List Address)} (h : SoundList pairs token (existing.getD []))
    (hnew : ∃ pair ∈ pairs, pair.Joins token neighbor) :
    SoundList pairs token (mergedNeighbors existing neighbor) where
  sorted := sortedLT_mergedNeighbors
  joined n hmem := by
    obtain rfl | hold := mem_mergedNeighbors.mp hmem
    · exact hnew
    · exact h.joined n hold

namespace Store.Sound

variable {store : Store} {allPairs : List PairDescriptor}

theorem saveTokenNeighbors (h : store.Sound allPairs) {token : Address} {list : List Address}
    (hlist : SoundList allPairs token list) :
    (store.saveTokenNeighbors token list).Sound allPairs where
  lists t := by
    rw [neighborsOf_saveTokenNeighbors]
    split
    · subst t
      exact hlist
    · exact h.lists t
  metadata := h.metadata

theorem savePairMetadata (h : store.Sound allPairs) {pair : PairDescriptor}
    (hpair : pair ∈ allPairs) : (store.savePairMetadata pair).Sound allPairs where
  lists token := h.lists token
  metadata address stored hstored := by
    simp only [Store.savePairMetadata, Function.update_apply] at hstored
    split at hstored
    · obtain rfl := Option.some.inj hstored
      exact ⟨hpair, by simp [*]⟩
    · exact h.metadata address stored hstored

theorem mono {pairs' : List PairDescriptor} (hpairs : allPairs ⊆ pairs')
    (h : store.Sound allPairs) : store.Sound pairs' where
  lists token := (h.lists token).mono hpairs
  metadata address pair hstored :=
    ⟨hpairs (h.metadata address pair hstored).1, (h.metadata address pair hstored).2⟩

end Store.Sound

theorem inHand_afterToken {listed : List PairDescriptor} {rest : List Address}
    {pair : PairDescriptor} (h : pair ∈ (Scanner.afterToken listed rest).inHand) :
    pair ∈ listed := by
  cases rest with
  | nil => simp [Scanner.afterToken, Scanner.inHand] at h
  | cons token rest => exact h

theorem inHand_afterPair {listed rest : List PairDescriptor} {pair : PairDescriptor}
    (h : pair ∈ (Scanner.afterPair listed rest).inHand) : pair ∈ listed ++ rest := by
  cases rest with
  | nil => simpa using inHand_afterToken h
  | cons next rest => exact h

/-! ## What a step can do -/

/-- The steps of the scanner. -/
inductive ScannerStep (s : State) : State → Prop
  | listed : s.scanner = .idle →
    ScannerStep s { s with scanner := .afterPair s.allPairs s.allPairs }
  | present {listed pair rest} : s.scanner = .pairs listed (pair :: rest) →
    (s.store.pairMetadata pair.pairAddress).isSome →
    ScannerStep s { s with scanner := .afterPair listed rest }
  | absent {listed pair rest} : s.scanner = .pairs listed (pair :: rest) →
    ScannerStep s { s with scanner := .missing listed pair rest }
  | savedMetadata {listed pair rest} : s.scanner = .missing listed pair rest →
    ScannerStep s { s with
      store := s.store.savePairMetadata pair
      scanner := .afterPair listed rest }
  | same {listed rest} {token : Address} : s.scanner = .tokens listed rest → token ∈ rest →
    s.store.tokenNeighbors token = some (scannedNeighbors listed token) →
    ScannerStep s { s with scanner := .afterToken listed (rest.erase token) }
  | different {listed rest} {token : Address} : s.scanner = .tokens listed rest → token ∈ rest →
    ScannerStep s { s with scanner := .changed listed token (rest.erase token) }
  | savedNeighbors {listed token rest} : s.scanner = .changed listed token rest →
    ScannerStep s { s with
      store := s.store.saveTokenNeighbors token (scannedNeighbors listed token)
      scanner := .afterToken listed rest }

theorem syncOnce_scannerStep {s s' : State} {op : Op} (h : syncOnce s op = some s') :
    ScannerStep s s' := by
  unfold syncOnce at h
  split at h
  · split at h <;> cases h
    exact .listed ‹_›
  · split at h
    · split at h <;> cases h
      · rename_i hstored
        exact .present ‹_› (by rw [Store.getPairMetadata_eq_some _ hstored]; rfl)
      · exact .absent ‹_›
    · cases h
  · split at h <;> cases h
    exact .savedMetadata ‹_›
  · split at h
    · split at h
      · split at h
        · split at h <;> cases h
          · rename_i hmem _ existing hstored hsame
            refine .same ‹_› hmem ?_
            rw [Store.getTokenNeighbors_eq_some _ _ hstored, of_decide_eq_true hsame]
          · exact .different ‹_› ‹_›
        · cases h
          exact .different ‹_› ‹_›
      · cases h
    · cases h
  · split at h <;> cases h
    exact .savedNeighbors ‹_›
  · cases h

/-- What a step of the subscriber can do: it replaces the list it has in hand, or it touches
    no list and reads one at most, which it takes for empty if it gets no answer. -/
theorem applyPairEvent_cases {s s' : State} {answered : Bool}
    (h : applyPairEvent answered s = some s') :
    s'.allPairs = s.allPairs ∧ s'.scanner = s.scanner ∧
    (∀ event, s'.subscriber.event = some event → s.subscriber.event = some event) ∧
    ((s'.store.tokenNeighbors = s.store.tokenNeighbors ∧
        (s'.store.pairMetadata = s.store.pairMetadata ∨
          ∃ event, s.subscriber.event = some event ∧
            s'.store.pairMetadata = (s.store.savePairMetadata event.pair).pairMetadata) ∧
        ∀ token list, s'.subscriber.read = some (token, list) →
          list = if answered then s.store.neighborsOf token else []) ∨
      ∃ event token neighbor existing, s.subscriber.event = some event ∧
        event.pair.Joins token neighbor ∧ s.subscriber.read = some (token, existing.getD []) ∧
        s'.store = s.store.saveTokenNeighbors token (mergedNeighbors existing neighbor) ∧
        s'.subscriber.read = none) := by
  unfold applyPairEvent at h
  cases hsubscriber : s.subscriber with
  | idle =>
    rw [hsubscriber] at h
    cases h
  | received event advanceCursor =>
    simp only [hsubscriber] at h
    split at h <;> cases h
    · exact ⟨rfl, rfl, fun _ => id, .inl ⟨rfl, .inl rfl, fun _ _ hread => by cases hread⟩⟩
    · exact ⟨rfl, rfl, fun _ => id, .inl ⟨rfl, .inl rfl, fun _ _ hread => by cases hread⟩⟩
  | missing event advanceCursor =>
    simp only [hsubscriber, Option.some.injEq] at h
    subst h
    exact ⟨rfl, rfl, fun _ => id,
      .inl ⟨rfl, .inr ⟨event, rfl, rfl⟩, fun _ _ hread => by cases hread⟩⟩
  | first event advanceCursor =>
    simp only [hsubscriber, Option.some.injEq] at h
    subst h
    refine ⟨rfl, rfl, fun _ => id, .inl ⟨rfl, .inl rfl, fun token list hread => ?_⟩⟩
    obtain ⟨rfl, rfl⟩ := Prod.mk.inj (Option.some.inj hread)
    exact s.store.getD_getTokenNeighbors _ answered
  | firstRead event advanceCursor existing =>
    simp only [hsubscriber, Option.some.injEq] at h
    subst h
    exact ⟨rfl, rfl, fun _ => id, .inr ⟨event, event.pair.token0, event.pair.token1, existing, rfl,
      .inl ⟨rfl, rfl⟩, rfl, rfl, rfl⟩⟩
  -- from here on the same for the other token
  | second event advanceCursor =>
    simp only [hsubscriber, Option.some.injEq] at h
    subst h
    refine ⟨rfl, rfl, fun _ => id, .inl ⟨rfl, .inl rfl, fun token list hread => ?_⟩⟩
    obtain ⟨rfl, rfl⟩ := Prod.mk.inj (Option.some.inj hread)
    exact s.store.getD_getTokenNeighbors _ answered
  | secondRead event advanceCursor existing =>
    simp only [hsubscriber, Option.some.injEq] at h
    subst h
    exact ⟨rfl, rfl, fun _ => id, .inr ⟨event, event.pair.token1, event.pair.token0, existing, rfl,
      .inr ⟨rfl, rfl⟩, rfl, rfl, rfl⟩⟩
  | merged event advanceCursor =>
    simp only [hsubscriber, Option.some.injEq] at h
    subst h
    refine ⟨rfl, rfl, fun _ hevent => ?_, .inl ⟨?_, .inl ?_, fun _ _ hread => ?_⟩⟩
    · cases hevent
    · split <;> rfl
    · split <;> rfl
    · cases hread

/-! ## Soundness over runs -/

namespace State.Sound

variable {s s' : State}

theorem scannerStep (h : s.Sound) (hstep : ScannerStep s s') : s'.Sound := by
  cases hstep with
  | listed hscanner =>
    refine { h with scanner := fun pair hpair => ?_ }
    exact (List.mem_append.mp (inHand_afterPair hpair)).elim id id
  | present hscanner =>
    refine { h with scanner := fun pair hpair => h.scanner pair ?_ }
    rw [hscanner]
    have hmem := List.mem_append.mp (inHand_afterPair hpair)
    exact List.mem_append.mpr (hmem.imp_right (List.mem_cons_of_mem _))
  | @absent listed pair rest hscanner =>
    refine { h with scanner := fun p hp => h.scanner p ?_ }
    rw [hscanner]
    simp only [Scanner.inHand, List.mem_cons, List.mem_append] at hp ⊢
    tauto
  | @savedMetadata listed pair rest hscanner =>
    have hinHand : ∀ p ∈ pair :: (listed ++ rest), p ∈ s.allPairs := by
      simpa [hscanner, Scanner.inHand] using h.scanner
    refine { h with store := h.store.savePairMetadata (hinHand pair List.mem_cons_self), scanner := ?_ }
    exact fun p hp => hinHand p (List.mem_cons_of_mem _ (inHand_afterPair hp))
  | same hscanner =>
    refine { h with scanner := fun pair hpair => h.scanner pair ?_ }
    rw [hscanner]
    exact inHand_afterToken hpair
  | different hscanner =>
    refine { h with scanner := fun pair hpair => h.scanner pair ?_ }
    rw [hscanner]
    exact hpair
  | @savedNeighbors listed token rest hscanner =>
    have hinHand : ∀ p ∈ listed, p ∈ s.allPairs := by
      simpa [hscanner, Scanner.inHand] using h.scanner
    refine { h with
      store := h.store.saveTokenNeighbors (soundList_scannedNeighbors hinHand token)
      scanner := fun pair hpair => hinHand pair (inHand_afterToken hpair) }

theorem applyPairEvent (h : s.Sound) {answered : Bool} (hstep : applyPairEvent answered s = some s') :
    s'.Sound := by
  obtain ⟨hpairs, hscanner, hevent, hquiet | hmerge⟩ := applyPairEvent_cases hstep
  · obtain ⟨hlists, hmetadata, hread⟩ := hquiet
    refine ⟨⟨fun token => ?_, fun address pair hstored => ?_⟩, ?_, ?_, ?_⟩
    · rw [hpairs, neighborsOf_congr hlists]
      exact h.store.lists token
    · rw [hpairs]
      rcases hmetadata with hsame | ⟨event, hin, hsaved⟩
      · exact h.store.metadata address pair (hsame ▸ hstored)
      · exact (h.store.savePairMetadata (h.event event hin)).metadata address pair (hsaved ▸ hstored)
    · rw [hscanner, hpairs]
      exact h.scanner
    · rw [hpairs]
      exact fun event hin => h.event event (hevent event hin)
    · intro token list hlist
      rw [hpairs, hread token list hlist]
      split
      · exact h.store.lists token
      · exact ⟨List.Pairwise.nil.sortedLT, fun neighbor hmem => by cases hmem⟩
  · obtain ⟨event, token, neighbor, existing, hin, hjoins, hread, hstore, hnone⟩ := hmerge
    have hmerged : SoundList s.allPairs token (mergedNeighbors existing neighbor) :=
      soundList_mergedNeighbors (h.read token _ hread) ⟨event.pair, h.event event hin, hjoins⟩
    refine ⟨?_, ?_, ?_, ?_⟩
    · rw [hpairs, hstore]
      exact h.store.saveTokenNeighbors hmerged
    · rw [hscanner, hpairs]
      exact h.scanner
    · rw [hpairs]
      exact fun event hin => h.event event (hevent event hin)
    · intro token list hlist
      rw [hnone] at hlist
      cases hlist

/-- The step lemma: no step of any of the parties stores an edge that the factory does not
    have. -/
theorem step (h : s.Sound) {op : Op} (hstep : next s op = some s') : s'.Sound := by
  unfold next at hstep
  split at hstep
  · rename_i pair
    cases hstep
    have hpairs : s.allPairs ⊆ s.allPairs ++ [pair] := List.subset_append_left _ _
    exact ⟨h.store.mono hpairs, fun p hp => hpairs (h.scanner p hp),
      fun event hin => hpairs (h.event event hin),
      fun token list hlist => (h.read token list hlist).mono hpairs⟩
  · split at hstep
    · split at hstep <;> cases hstep
      refine { h with event := fun event hin => ?_, read := fun token list hlist => by cases hlist }
      obtain rfl := Option.some.inj hin
      assumption
    · cases hstep
  · exact h.applyPairEvent hstep
  · cases hstep
    exact { h with
      scanner := fun pair hpair => by cases hpair
      event := fun event hin => by cases hin
      read := fun token list hlist => by cases hlist }
  · exact h.scannerStep (syncOnce_scannerStep hstep)

theorem initial (h : s.Initial) (hstore : s.store.Sound s.allPairs) : s.Sound := by
  obtain ⟨hscanner, hsubscriber, -⟩ := h
  refine ⟨hstore, fun pair hpair => ?_, fun event hin => ?_, fun token list hlist => ?_⟩
  · rw [hscanner] at hpair
    cases hpair
  · rw [hsubscriber] at hin
    cases hin
  · rw [hsubscriber] at hlist
    cases hlist

end State.Sound

/-- From a store that shows nothing foreign, an empty one for instance, no order of the steps of
    the factory and of the two loops, unanswered reads, errors and restarts included, ever makes
    it show an edge or the metadata of a pair that the factory does not have. -/
theorem stored_graph_sound {s₀ s : State} (hinit : s₀.Initial)
    (hstore : s₀.store.Sound s₀.allPairs) (h : worker.LeadsTo (fun _ _ => True) s₀ s) :
    s.store.Sound s.allPairs := by
  have hsound : s.Sound :=
    System.LeadsTo.preserves h (State.Sound.initial hinit hstore)
      fun s op s' hs _ hexec => hs.step (exec_ok hexec)
  exact hsound.store

namespace Example

theorem start_sound : start.store.Sound start.allPairs where
  lists token := ⟨List.Pairwise.nil.sortedLT, fun neighbor hmem => by cases hmem⟩
  metadata address pair hstored := by cases hstored

/-- The scan that has lost an edge goes on to its end. -/
def losing : List Op := overtaken ++ [.checkTokenNeighbors 2 true]

theorem losing_run :
    ∃ s, worker.LeadsTo (fun _ _ => True) start s ∧ s.scanner.isIdle = true ∧
      s.allPairs = [pairA, pairB] ∧ 3 ∉ s.store.neighborsOf 1 := by
  have hrun : (System.runWith exec (fun _ _ => True) start losing).map (fun s =>
      (s.scanner.isIdle, decide (s.allPairs = [pairA, pairB]), decide (3 ∉ s.store.neighborsOf 1))) =
        some (true, true, true) := by
    decide +kernel
  obtain ⟨s, hs, hsummary⟩ := Option.map_eq_some_iff.mp hrun
  simp only [Prod.mk.injEq, decide_eq_true_eq] at hsummary
  exact ⟨s, System.reachableWith_of_runWith (.init rfl) hs, hsummary⟩

end Example

open Example in
theorem stored_graph_sound_overtaken :
    ∃ s, worker.LeadsTo (fun _ _ => True) start s ∧ 3 ∉ s.store.neighborsOf 1 ∧
      s.store.Sound s.allPairs := by
  obtain ⟨s, hs, -, -, hlost⟩ := losing_run
  exact ⟨s, hs, hlost, stored_graph_sound ⟨rfl, rfl, rfl⟩ start_sound hs⟩

/-! ## A scan -/

/-- The pairs from which a scan has been computing. -/
def Scanner.listed : Scanner → Option (List PairDescriptor)
  | .idle => none
  | .pairs listed _ | .missing listed _ _ | .tokens listed _ | .changed listed _ _ => some listed

/-- The pairs whose metadata the scan has still to look at. -/
def Scanner.pairsLeft : Scanner → List PairDescriptor
  | .pairs _ rest => rest
  | .missing _ pair rest => pair :: rest
  | _ => []

/-- The tokens whose lists the scan has still to look at. -/
def Scanner.tokensLeft : Scanner → List Address
  | .idle => []
  | .pairs listed _ | .missing listed _ _ => (neighborSets listed).tokens
  | .tokens _ rest => rest
  | .changed _ token rest => token :: rest

@[simp] theorem pairsLeft_afterToken (listed : List PairDescriptor) (rest : List Address) :
    (Scanner.afterToken listed rest).pairsLeft = [] := by
  cases rest <;> rfl

@[simp] theorem tokensLeft_afterToken (listed : List PairDescriptor) (rest : List Address) :
    (Scanner.afterToken listed rest).tokensLeft = rest := by
  cases rest <;> rfl

@[simp] theorem pairsLeft_afterPair (listed rest : List PairDescriptor) :
    (Scanner.afterPair listed rest).pairsLeft = rest := by
  cases rest with
  | nil => exact pairsLeft_afterToken listed _
  | cons pair rest => rfl

@[simp] theorem tokensLeft_afterPair (listed rest : List PairDescriptor) :
    (Scanner.afterPair listed rest).tokensLeft = (neighborSets listed).tokens := by
  cases rest with
  | nil => exact tokensLeft_afterToken listed _
  | cons pair rest => rfl

theorem listed_afterToken {listed pairs : List PairDescriptor} {rest : List Address}
    (h : (Scanner.afterToken listed rest).listed = some pairs) : pairs = listed := by
  cases rest with
  | nil => cases h
  | cons token rest => exact (Option.some.inj h).symm

theorem listed_afterPair {listed pairs rest : List PairDescriptor}
    (h : (Scanner.afterPair listed rest).listed = some pairs) : pairs = listed := by
  cases rest with
  | nil => exact listed_afterToken h
  | cons pair rest => exact (Option.some.inj h).symm

/-- No pair is created, no loop fails, and a list that the subscriber replaces is still the one
    it has read. -/
def Undisturbed (s : State) : Op → Prop
  | .createPair _ | .restart => False
  | .applyPairEvent _ =>
    ∀ token list, s.subscriber.read = some (token, list) → s.store.neighborsOf token = list
  | _ => True

/-- The steps by which the scanner goes on with a scan. -/
def Op.continuesScan : Op → Bool
  | .checkPairMetadata _ | .savePairMetadata | .checkTokenNeighbors .. | .saveTokenNeighbors => true
  | _ => false

theorem undisturbed_of_continuesScan {s : State} {op : Op} (h : op.continuesScan = true) :
    Undisturbed s op := by
  cases op with
  | createPair | restart | applyPairEvent => cases h
  | _ => trivial

theorem exec_of_next {s s' : State} {op : Op} (h : next s op = some s') : exec s op = .ok s' := by
  unfold exec
  rw [h]

/-- During a scan, what the scan has looked at is there. -/
structure Scanning (s : State) : Prop where
  listed : ∀ listed, s.scanner.listed = some listed → listed = s.allPairs
  metadata : ∀ pair ∈ s.allPairs,
    pair ∈ s.scanner.pairsLeft ∨ (s.store.pairMetadata pair.pairAddress).isSome
  lists : ∀ token ∈ (neighborSets s.allPairs).tokens,
    token ∈ s.scanner.tokensLeft ∨ s.store.neighborsOf token = scannedNeighbors s.allPairs token

namespace Scanning

variable {s s' : State}

theorem isSome_savePairMetadata {store : Store} {saved : PairDescriptor} {address : Address}
    (h : (store.pairMetadata address).isSome) :
    ((store.savePairMetadata saved).pairMetadata address).isSome := by
  simp only [Store.savePairMetadata, Function.update_apply]
  split
  · rfl
  · exact h

theorem scannerStep (h : Scanning s) (hstep : ScannerStep s s') : Scanning s' := by
  cases hstep with
  | listed hscanner =>
    refine ⟨fun listed hlisted => listed_afterPair hlisted, fun pair hpair => .inl ?_,
      fun token htoken => .inl ?_⟩
    · simpa using hpair
    · simpa using htoken
  | @present listed pair rest hscanner hthere =>
    obtain rfl := h.listed listed (by rw [hscanner]; rfl)
    refine ⟨fun pairs hpairs => listed_afterPair hpairs, fun p hp => ?_,
      fun token htoken => .inl (by simpa using htoken)⟩
    have hleft := h.metadata p hp
    rw [hscanner, Scanner.pairsLeft, List.mem_cons] at hleft
    rcases hleft with (rfl | hleft) | hleft
    · exact .inr hthere
    · exact .inl (by simpa using hleft)
    · exact .inr hleft
  | @absent listed pair rest hscanner =>
    obtain rfl := h.listed listed (by rw [hscanner]; rfl)
    refine ⟨fun pairs hpairs => (Option.some.inj hpairs).symm, fun p hp => ?_,
      fun token htoken => .inl htoken⟩
    have hleft := h.metadata p hp
    rw [hscanner] at hleft
    exact hleft
  | @savedMetadata listed pair rest hscanner =>
    obtain rfl := h.listed listed (by rw [hscanner]; rfl)
    refine ⟨fun pairs hpairs => listed_afterPair hpairs, fun p hp => ?_,
      fun token htoken => .inl (by simpa using htoken)⟩
    have hleft := h.metadata p hp
    rw [hscanner, Scanner.pairsLeft, List.mem_cons] at hleft
    rcases hleft with (rfl | hleft) | hleft
    · exact .inr (by simp [Store.savePairMetadata])
    · exact .inl (by simpa using hleft)
    · exact .inr (isSome_savePairMetadata hleft)
  | @same listed rest token hscanner hmem hstored =>
    obtain rfl := h.listed listed (by rw [hscanner]; rfl)
    refine ⟨fun pairs hpairs => listed_afterToken hpairs, fun p hp => ?_, fun t ht => ?_⟩
    · have hleft := h.metadata p hp
      rw [hscanner] at hleft
      exact .inr (hleft.resolve_left (List.not_mem_nil))
    · have hleft := h.lists t ht
      rw [hscanner, Scanner.tokensLeft] at hleft
      rcases hleft with hleft | hleft
      · by_cases heq : t = token
        · subst heq
          exact .inr (by simp [Store.neighborsOf, hstored])
        · exact .inl (by simpa using (List.mem_erase_of_ne heq).mpr hleft)
      · exact .inr hleft
  | @different listed rest token hscanner hmem =>
    obtain rfl := h.listed listed (by rw [hscanner]; rfl)
    refine ⟨fun pairs hpairs => (Option.some.inj hpairs).symm, fun p hp => ?_, fun t ht => ?_⟩
    · have hleft := h.metadata p hp
      rw [hscanner] at hleft
      exact .inr (hleft.resolve_left (List.not_mem_nil))
    · have hleft := h.lists t ht
      rw [hscanner, Scanner.tokensLeft] at hleft
      rcases hleft with hleft | hleft
      · by_cases heq : t = token
        · exact .inl (List.mem_cons.mpr (.inl heq))
        · exact .inl (List.mem_cons.mpr (.inr ((List.mem_erase_of_ne heq).mpr hleft)))
      · exact .inr hleft
  | @savedNeighbors listed token rest hscanner =>
    obtain rfl := h.listed listed (by rw [hscanner]; rfl)
    refine ⟨fun pairs hpairs => listed_afterToken hpairs, fun p hp => ?_, fun t ht => ?_⟩
    · have hleft := h.metadata p hp
      rw [hscanner] at hleft
      exact .inr (hleft.resolve_left (List.not_mem_nil))
    · have hleft := h.lists t ht
      rw [hscanner, Scanner.tokensLeft, List.mem_cons] at hleft
      simp only [Store.neighborsOf_saveTokenNeighbors, tokensLeft_afterToken]
      by_cases heq : t = token
      · rw [if_pos heq, heq]
        exact .inr rfl
      · rw [if_neg heq]
        exact hleft.imp_left (·.resolve_left heq)

/-- An event that is merged into lists as they are adds nothing to a list of the scan. -/
theorem applyPairEvent (h : Scanning s) (hsound : s.Sound)
    (hcurrent : ∀ token list, s.subscriber.read = some (token, list) →
      s.store.neighborsOf token = list)
    {answered : Bool} (hstep : applyPairEvent answered s = some s') : Scanning s' := by
  obtain ⟨hpairs, hscanner, -, hquiet | hmerge⟩ := applyPairEvent_cases hstep
  · obtain ⟨hlists, hmetadata, -⟩ := hquiet
    refine ⟨?_, fun pair hpair => ?_, fun token htoken => ?_⟩
    · rw [hscanner, hpairs]
      exact h.listed
    · rw [hpairs] at hpair
      rw [hscanner]
      rcases hmetadata with hsame | ⟨event, -, hsaved⟩
      · rw [hsame]
        exact h.metadata pair hpair
      · rw [hsaved]
        exact (h.metadata pair hpair).imp_right isSome_savePairMetadata
    · rw [hpairs] at htoken ⊢
      rw [hscanner, neighborsOf_congr hlists]
      exact h.lists token htoken
  · obtain ⟨event, token, neighbor, existing, hin, hjoins, hread, hstore, -⟩ := hmerge
    refine ⟨?_, fun pair hpair => ?_, fun t ht => ?_⟩
    · rw [hscanner, hpairs]
      exact h.listed
    · rw [hpairs] at hpair
      rw [hscanner, hstore]
      exact h.metadata pair hpair
    · rw [hpairs] at ht ⊢
      rw [hscanner, hstore, Store.neighborsOf_saveTokenNeighbors]
      refine (h.lists t ht).imp_right fun hdone => ?_
      by_cases heq : t = token
      · subst heq
        have hexisting : existing.getD [] = scannedNeighbors s.allPairs t :=
          (hcurrent t _ hread).symm.trans hdone
        -- the pair of an event is one that the scan has listed
        have hmem : neighbor ∈ existing.getD [] := by
          rw [hexisting, mem_scannedNeighbors]
          exact ⟨event.pair, hsound.event event hin, hjoins⟩
        rw [if_pos rfl, mergedNeighbors_of_mem (hexisting ▸ sortedLT_scannedNeighbors) hmem, hexisting]
      · rw [if_neg heq]
        exact hdone

/-- The step lemma. -/
theorem step (h : Scanning s) (hsound : s.Sound) {op : Op} (hop : Undisturbed s op)
    (hstep : next s op = some s') : Scanning s' := by
  unfold next at hstep
  split at hstep
  · exact hop.elim
  · split at hstep
    · split at hstep <;> cases hstep
      exact ⟨h.listed, h.metadata, h.lists⟩
    · cases hstep
  · exact h.applyPairEvent hsound hop hstep
  · exact hop.elim
  · exact h.scannerStep (syncOnce_scannerStep hstep)

end Scanning

/-- The store shows the factory: for every token exactly the tokens it has a pair with, sorted,
    and the metadata of every pair and of nothing else. -/
structure State.Exact (s : State) : Prop where
  neighbors : ∀ token neighbor, neighbor ∈ s.store.neighborsOf token ↔
    ∃ pair ∈ s.allPairs, pair.Joins token neighbor
  sorted : ∀ token, (s.store.neighborsOf token).SortedLT
  metadata : ∀ pair ∈ s.allPairs, ∃ stored ∈ s.allPairs,
    stored.pairAddress = pair.pairAddress ∧
      s.store.pairMetadata pair.pairAddress = some stored
  foreign : ∀ address stored, s.store.pairMetadata address = some stored →
    stored ∈ s.allPairs ∧ stored.pairAddress = address

theorem Scanning.exact {s : State} (h : Scanning s) (hsound : s.Sound)
    (hidle : s.scanner = .idle) : s.Exact where
  neighbors token neighbor := by
    constructor
    · exact (hsound.store.lists token).joined neighbor
    · rintro ⟨pair, hpair, hjoins⟩
      have htoken : token ∈ (neighborSets s.allPairs).tokens :=
        mem_tokens.mpr ⟨pair, hpair, neighbor, hjoins⟩
      have hleft := h.lists token htoken
      rw [hidle] at hleft
      rw [hleft.resolve_left List.not_mem_nil, mem_scannedNeighbors]
      exact ⟨pair, hpair, hjoins⟩
  sorted token := (hsound.store.lists token).sorted
  metadata pair hpair := by
    have hleft := h.metadata pair hpair
    rw [hidle] at hleft
    obtain ⟨stored, hstored⟩ := Option.isSome_iff_exists.mp (hleft.resolve_left List.not_mem_nil)
    obtain ⟨hmem, haddress⟩ := hsound.store.metadata _ stored hstored
    exact ⟨stored, hmem, haddress, hstored⟩
  foreign := hsound.store.metadata

/-- The run lemma: a scan from any sound state. -/
theorem exact_of_scan {s s₁ s₂ : State} (hsound : s.Sound) (hlist : exec s .listPairs = .ok s₁)
    (hscan : worker.LeadsTo Undisturbed s₁ s₂) (hidle : s₂.scanner = .idle) : s₂.Exact := by
  have hlisted : s₁ = { s with scanner := .afterPair s.allPairs s.allPairs } := by
    have hnext := exec_ok hlist
    simp only [next, syncOnce] at hnext
    split at hnext
    · exact (Option.some.inj hnext).symm
    · cases hnext
  have hstart : Scanning s₁ ∧ s₁.Sound := by
    refine ⟨?_, hsound.step (exec_ok hlist)⟩
    rw [hlisted]
    exact ⟨fun pairs hpairs => listed_afterPair hpairs, fun pair hpair => .inl (by simpa using hpair),
      fun token htoken => .inl (by simpa using htoken)⟩
  have hend : Scanning s₂ ∧ s₂.Sound :=
    System.LeadsTo.preserves (I := fun s => Scanning s ∧ s.Sound) hscan hstart
      fun s op s' hs hop hexec =>
        ⟨hs.1.step hs.2 hop (exec_ok hexec), hs.2.step (exec_ok hexec)⟩
  exact hend.1.exact hend.2 hidle

/-- One store is followed by another within a number of steps of the scanner. -/
inductive Continues : Nat → State → State → Prop
  | done {s : State} : Continues 0 s s
  | step {n : Nat} {s s₂ : State} (op : Op) (s₁ : State) : op.continuesScan = true →
    exec s op = .ok s₁ → Continues n s₁ s₂ → Continues (n + 1) s s₂

theorem Continues.leadsTo {n : Nat} {s s' : State} (h : Continues n s s') :
    worker.LeadsTo Undisturbed s s' := by
  have hall : ∀ {s₀}, worker.LeadsTo Undisturbed s₀ s → worker.LeadsTo Undisturbed s₀ s' := by
    induction h with
    | done => exact fun hs => hs
    | step op s₁ hop hexec _ ih =>
      intro s₀ hs
      exact ih (.step hs (undisturbed_of_continuesScan hop) hexec)
  exact hall (.init rfl)

theorem continues_of_runWith {s s' : State} {ops : List Op}
    (h : System.runWith exec (fun _ op => op.continuesScan = true) s ops = some s') :
    Continues ops.length s s' := by
  induction ops generalizing s with
  | nil =>
    obtain rfl := Option.some.inj h
    exact .done
  | cons op ops ih =>
    simp only [System.runWith] at h
    split at h
    · rename_i hop
      split at h
      · rename_i s₁ hexec
        exact .step op s₁ hop hexec (ih h)
      · cases h
    · cases h

namespace Example

/-- After the scan that has lost an edge, another one runs to its end. -/
theorem repairing_run :
    ∃ s s₁ s₂, worker.LeadsTo (fun _ _ => True) start s ∧ 3 ∉ s.store.neighborsOf 1 ∧
      s.scanner = .idle ∧ s.allPairs = [pairA, pairB] ∧ exec s .listPairs = .ok s₁ ∧
      Continues 6 s₁ s₂ ∧ s₂.scanner = .idle := by
  have hrun : ((System.runWith exec (fun _ _ => True) start losing).bind fun s =>
      (next s .listPairs).bind fun s₁ =>
        (System.runWith exec (fun _ op => op.continuesScan = true) s₁ [.checkPairMetadata true,
          .checkPairMetadata true, .checkTokenNeighbors 1 true, .saveTokenNeighbors,
          .checkTokenNeighbors 3 true, .checkTokenNeighbors 2 true]).map fun s₂ => (s, s₁, s₂)).map
      (fun r => (decide (3 ∉ r.1.store.neighborsOf 1), r.1.scanner.isIdle,
        decide (r.1.allPairs = [pairA, pairB]), r.2.2.scanner.isIdle)) =
        some (true, true, true, true) := by
    decide +kernel
  obtain ⟨⟨s, s₁, s₂⟩, hall, hsummary⟩ := Option.map_eq_some_iff.mp hrun
  simp only [Prod.mk.injEq, decide_eq_true_eq] at hsummary
  obtain ⟨hlost, hidle, hpairs, hidle'⟩ := hsummary
  obtain ⟨s', hs, hrest⟩ := Option.bind_eq_some_iff.mp hall
  obtain ⟨s₁', hnext, hscan⟩ := Option.bind_eq_some_iff.mp hrest
  obtain ⟨s₂', hs₂, hsame⟩ := Option.map_eq_some_iff.mp hscan
  simp only [Prod.mk.injEq] at hsame
  obtain ⟨rfl, rfl, rfl⟩ := hsame
  exact ⟨s', s₁', s₂', System.reachableWith_of_runWith (.init rfl) hs, hlost, Scanner.eq_idle hidle,
    hpairs, exec_of_next hnext, continues_of_runWith hs₂, Scanner.eq_idle hidle'⟩

end Example

/-- Whatever has happened before, once a scan that nothing disturbs is over the store shows
    exactly the factory, and it goes on to do so while nothing disturbs the loops. -/
theorem undisturbed_scan_exact {s₀ s s₁ s₂ : State} (hinit : s₀.Initial)
    (hstore : s₀.store.Sound s₀.allPairs) (h : worker.LeadsTo (fun _ _ => True) s₀ s)
    (hlist : exec s .listPairs = .ok s₁) (hscan : worker.LeadsTo Undisturbed s₁ s₂)
    (hidle : s₂.scanner = .idle) : s₂.Exact := by
  have hsound : s.Sound :=
    System.LeadsTo.preserves h (State.Sound.initial hinit hstore)
      fun s op s' hs _ hexec => hs.step (exec_ok hexec)
  exact exact_of_scan hsound hlist hscan hidle

open Example in
theorem undisturbed_scan_exact_losing :
    ∃ s s₁ s₂, worker.LeadsTo (fun _ _ => True) start s ∧ 3 ∉ s.store.neighborsOf 1 ∧
      exec s .listPairs = .ok s₁ ∧ worker.LeadsTo Undisturbed s₁ s₂ ∧ s₂.Exact := by
  obtain ⟨s, s₁, s₂, hs, hlost, -, -, hlist, hrun, hidle⟩ := repairing_run
  exact ⟨s, s₁, s₂, hs, hlost, hlist, hrun.leadsTo,
    undisturbed_scan_exact ⟨rfl, rfl, rfl⟩ start_sound hs hlist hrun.leadsTo hidle⟩

/-! ## A scan comes to its end -/

/-- The steps that a scan has left at most: two for each pair and each token, one of them done
    when the read has been made. -/
def Scanner.stepsLeft : Scanner → Nat
  | .idle => 0
  | .pairs listed rest => 2 * rest.length + 2 * (neighborSets listed).tokens.length
  | .missing listed _ rest => 1 + 2 * rest.length + 2 * (neighborSets listed).tokens.length
  | .tokens _ rest => 2 * rest.length
  | .changed _ _ rest => 1 + 2 * rest.length

/-- A scan has something left in each of its two loops. -/
def Scanner.Busy : Scanner → Prop
  | .pairs _ rest => rest ≠ []
  | .tokens _ rest => rest ≠ []
  | _ => True

theorem stepsLeft_afterToken (listed : List PairDescriptor) (rest : List Address) :
    (Scanner.afterToken listed rest).stepsLeft = 2 * rest.length := by
  cases rest <;> rfl

theorem stepsLeft_afterPair (listed rest : List PairDescriptor) :
    (Scanner.afterPair listed rest).stepsLeft =
      2 * rest.length + 2 * (neighborSets listed).tokens.length := by
  cases rest with
  | nil =>
    rw [Scanner.afterPair, stepsLeft_afterToken]
    simp
  | cons pair rest => rfl

theorem busy_afterToken (listed : List PairDescriptor) (rest : List Address) :
    (Scanner.afterToken listed rest).Busy := by
  cases rest with
  | nil => trivial
  | cons token rest => exact List.cons_ne_nil token rest

theorem busy_afterPair (listed rest : List PairDescriptor) :
    (Scanner.afterPair listed rest).Busy := by
  cases rest with
  | nil => exact busy_afterToken listed _
  | cons pair rest => exact List.cons_ne_nil pair rest

/-- A step of a scan takes one of the steps that are left. -/
theorem ScannerStep.stepsLeft {s s' : State} (h : ScannerStep s s') (hscan : s.scanner ≠ .idle) :
    s'.scanner.Busy ∧ s'.scanner.stepsLeft + 1 ≤ s.scanner.stepsLeft := by
  cases h with
  | listed hscanner => exact absurd hscanner hscan
  | present hscanner =>
    refine ⟨busy_afterPair _ _, ?_⟩
    rw [hscanner, stepsLeft_afterPair, Scanner.stepsLeft, List.length_cons]
    omega
  | absent hscanner =>
    refine ⟨trivial, ?_⟩
    rw [hscanner, Scanner.stepsLeft, Scanner.stepsLeft, List.length_cons]
    omega
  | savedMetadata hscanner =>
    refine ⟨busy_afterPair _ _, ?_⟩
    rw [hscanner, stepsLeft_afterPair, Scanner.stepsLeft]
    omega
  | same hscanner hmem =>
    refine ⟨busy_afterToken _ _, ?_⟩
    have hlength := List.length_erase_add_one hmem
    rw [hscanner, stepsLeft_afterToken, Scanner.stepsLeft]
    omega
  | different hscanner hmem =>
    refine ⟨trivial, ?_⟩
    have hlength := List.length_erase_add_one hmem
    rw [hscanner, Scanner.stepsLeft, Scanner.stepsLeft]
    omega
  | savedNeighbors hscanner =>
    refine ⟨busy_afterToken _ _, ?_⟩
    rw [hscanner, stepsLeft_afterToken, Scanner.stepsLeft]
    omega

/-- A step that continues a scan is a step of a scan under way. -/
theorem scannerStep_of_continues {s s' : State} {op : Op} (hop : op.continuesScan = true)
    (h : exec s op = .ok s') : ScannerStep s s' ∧ s.scanner ≠ .idle := by
  have hnext := exec_ok h
  have hsync : syncOnce s op = some s' := by
    cases op with
    | checkPairMetadata | savePairMetadata | checkTokenNeighbors | saveTokenNeighbors => exact hnext
    | createPair | listPairs | receive | applyPairEvent | restart => cases hop
  refine ⟨syncOnce_scannerStep hsync, fun hidle => ?_⟩
  cases op with
  | checkPairMetadata | savePairMetadata | checkTokenNeighbors | saveTokenNeighbors =>
    simp [syncOnce, hidle] at hsync
  | createPair | listPairs | receive | applyPairEvent | restart => cases hop

/-- A scan under way is never stuck. -/
theorem scan_goes_on {s : State} (hbusy : s.scanner.Busy) (hscan : s.scanner ≠ .idle) :
    ∃ op s', op.continuesScan = true ∧ exec s op = .ok s' := by
  cases hscanner : s.scanner with
  | idle => exact absurd hscanner hscan
  | pairs listed rest =>
    rw [hscanner] at hbusy
    obtain ⟨pair, rest, rfl⟩ := List.exists_cons_of_ne_nil hbusy
    -- an unanswered read leads on as well
    exact ⟨.checkPairMetadata false, _, rfl, exec_of_next (by
      simp only [next, syncOnce, hscanner, Store.getPairMetadata, Bool.false_eq_true, if_false]
      rfl)⟩
  | missing listed pair rest =>
    exact ⟨.savePairMetadata, _, rfl, exec_of_next (by
      simp only [next, syncOnce, hscanner]
      rfl)⟩
  | tokens listed rest =>
    rw [hscanner] at hbusy
    obtain ⟨token, rest, rfl⟩ := List.exists_cons_of_ne_nil hbusy
    exact ⟨.checkTokenNeighbors token false, _, rfl, exec_of_next (by
      simp only [next, syncOnce, hscanner, List.mem_cons, true_or, if_true,
        Store.getTokenNeighbors, Bool.false_eq_true, if_false]
      rfl)⟩
  | changed listed token rest =>
    exact ⟨.saveTokenNeighbors, _, rfl, exec_of_next (by
      simp only [next, syncOnce, hscanner]
      rfl)⟩

/-- The run lemma: each step of a scan uses up one of those that were left. -/
theorem Continues.stepsLeft {n : Nat} {s s' : State} (h : Continues n s s')
    (hbusy : s.scanner.Busy) :
    s'.scanner.Busy ∧ n + s'.scanner.stepsLeft ≤ s.scanner.stepsLeft ∧
      s'.allPairs = s.allPairs := by
  induction h with
  | done => exact ⟨hbusy, by omega, rfl⟩
  | step op s₁ hop hexec _ ih =>
    obtain ⟨hstep, hscan⟩ := scannerStep_of_continues hop hexec
    obtain ⟨hbusy₁, hleft⟩ := hstep.stepsLeft hscan
    obtain ⟨hbusy', hrest, hpairs⟩ := ih hbusy₁
    refine ⟨hbusy', by omega, hpairs.trans ?_⟩
    cases hstep <;> rfl

/-- From every state that the loops can be in between two scans the next scan, left alone, ends
    after at most two steps for each pair and each token, in whatever order it takes the tokens
    and whether its reads are answered or not; and at its end the store shows exactly the
    factory: every edge that was lost is back. -/
theorem scan_repairs {s₀ s : State} (hinit : s₀.Initial) (hstore : s₀.store.Sound s₀.allPairs)
    (h : worker.LeadsTo (fun _ _ => True) s₀ s) (hidle : s.scanner = .idle) :
    ∃ s₁, exec s .listPairs = .ok s₁ ∧ ∀ steps s₂, Continues steps s₁ s₂ →
      steps ≤ 2 * (s.allPairs.length + (neighborSets s.allPairs).tokens.length) ∧
      (s₂.scanner ≠ .idle → ∃ op s₃, op.continuesScan = true ∧ exec s₂ op = .ok s₃) ∧
      (s₂.scanner = .idle → s₂.allPairs = s.allPairs ∧ s₂.Exact) := by
  have hlist : exec s .listPairs = .ok { s with scanner := .afterPair s.allPairs s.allPairs } :=
    exec_of_next (by simp [next, syncOnce, hidle])
  have hsound : s.Sound :=
    System.LeadsTo.preserves h (State.Sound.initial hinit hstore)
      fun s op s' hs _ hexec => hs.step (exec_ok hexec)
  refine ⟨_, hlist, fun steps s₂ hrun => ?_⟩
  obtain ⟨hbusy, hleft, hpairs⟩ := hrun.stepsLeft (busy_afterPair _ _)
  rw [stepsLeft_afterPair] at hleft
  refine ⟨by omega, scan_goes_on hbusy, fun hdone => ⟨hpairs, ?_⟩⟩
  exact exact_of_scan hsound hlist hrun.leadsTo hdone

open Example in
theorem scan_repairs_losing :
    ∃ s s₁ s₂ : State, worker.LeadsTo (fun _ _ => True) start s ∧ 3 ∉ s.store.neighborsOf 1 ∧
      exec s .listPairs = .ok s₁ ∧ Continues 6 s₁ s₂ ∧ s₂.Exact ∧
      3 ∈ s₂.store.neighborsOf 1 := by
  obtain ⟨s, s₁, s₂, hs, hlost, hidle, hpairs, hlist, hrun, hidle'⟩ := repairing_run
  obtain ⟨s₁', hlist', hscan⟩ := scan_repairs ⟨rfl, rfl, rfl⟩ start_sound hs hidle
  obtain rfl := Except.ok.inj (hlist.symm.trans hlist')
  obtain ⟨hsame, hexact⟩ := (hscan 6 s₂ hrun).2.2 hidle'
  have hpair : pairB ∈ s₂.allPairs := by rw [hsame, hpairs]; decide
  exact ⟨s, s₁, s₂, hs, hlost, hlist, hrun, hexact,
    (hexact.neighbors 1 3).mpr ⟨pairB, hpair, .inl ⟨rfl, rfl⟩⟩⟩

end RouterGraph
