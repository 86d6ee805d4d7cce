-- SUMMARY: The router graph worker: the scanner's SyncOnce and the subscriber's applyPairEvent on one store, one read or write at a time.
import FluxSwap.Contracts.Abi
import FluxSwap.Lib.System
import Mathlib.Data.List.Sort
import Mathlib.Logic.Function.Basic

/-!
# The router graph worker

The worker keeps, for every token, the sorted list of the tokens it has a pair with. Two
loops write these lists: the scanner from the pairs of the factory as it has listed them,
the subscriber from `PairCreated` events. The keys of the store are those of one chain and
one factory, and the store is one that is enabled. It reports no error of a read: a `Get`
that fails is answered like one that finds nothing. The time of an update is left out:
nothing reads it.
-/

namespace RouterGraph

/-! ## Data -/

structure PairDescriptor where
  pairAddress : Address
  token0      : Address
  token1      : Address
  deriving DecidableEq

/-- The pair is one of the two tokens. -/
def PairDescriptor.Joins (pair : PairDescriptor) (token neighbor : Address) : Prop :=
  (token = pair.token0 ∧ neighbor = pair.token1) ∨ (token = pair.token1 ∧ neighbor = pair.token0)

structure PairCreatedEvent where
  pair        : PairDescriptor
  blockNumber : Nat
  blockHash   : Bytes32
  logIndex    : Nat
  deriving DecidableEq

structure SyncCursor where
  blockNumber : Nat
  blockHash   : Bytes32
  logIndex    : Nat
  deriving DecidableEq

/-- What is stored under the keys of `PairMetadata`, `TokenNeighbors` and `SyncCursor`. -/
structure Store where
  pairMetadata   : Address → Option PairDescriptor
  tokenNeighbors : Address → Option (List Address)
  syncCursor     : Option SyncCursor

namespace Store

def savePairMetadata (store : Store) (metadata : PairDescriptor) : Store :=
  { store with
    pairMetadata := Function.update store.pairMetadata metadata.pairAddress (some metadata) }

def saveTokenNeighbors (store : Store) (token : Address) (neighbors : List Address) : Store :=
  { store with tokenNeighbors := Function.update store.tokenNeighbors token (some neighbors) }

/-- `GetPairMetadata`: what is stored, or nothing if the `Get` fails. -/
def getPairMetadata (store : Store) (answered : Bool) (pairAddress : Address) :
    Option PairDescriptor :=
  if answered then store.pairMetadata pairAddress else none

/-- `GetTokenNeighbors`: what is stored, or nothing if the `Get` fails. -/
def getTokenNeighbors (store : Store) (answered : Bool) (token : Address) :
    Option (List Address) :=
  if answered then store.tokenNeighbors token else none

/-- The stored neighbours of a token, none if there is no list. -/
def neighborsOf (store : Store) (token : Address) : List Address :=
  (store.tokenNeighbors token).getD []

end Store

/-! ## Neighbour sets -/

/-- The addresses of a set in the order of their hexadecimal strings. -/
def sortStrings (set : List Address) : List Address := set.insertionSort (· ≤ ·)

/-- The map `neighborSets` of `SyncOnce`: its keys and the sets under them. -/
structure NeighborSets where
  tokens : List Address
  set    : Address → List Address

def appendNeighbor (neighborSets : NeighborSets) (token neighbor : Address) : NeighborSets where
  tokens := neighborSets.tokens.insert token
  set := Function.update neighborSets.set token ((neighborSets.set token).insert neighbor)

/-- The body of the first loop of `SyncOnce`, as far as it fills the map. -/
def appendPair (neighborSets : NeighborSets) (pair : PairDescriptor) : NeighborSets :=
  appendNeighbor (appendNeighbor neighborSets pair.token0 pair.token1) pair.token1 pair.token0

/-- The map after the first loop of `SyncOnce`. -/
def neighborSets (pairs : List PairDescriptor) : NeighborSets :=
  pairs.foldl appendPair ⟨[], fun _ => []⟩

/-- What `SyncOnce` stores for a token. -/
def scannedNeighbors (pairs : List PairDescriptor) (token : Address) : List Address :=
  sortStrings ((neighborSets pairs).set token)

/-- What `mergeAndSaveNeighbors` stores for a token. -/
def mergedNeighbors (existing : Option (List Address)) (neighbor : Address) : List Address :=
  sortStrings ((existing.getD []).dedup.insert neighbor)

def sameNeighbors (left right : List Address) : Bool := decide (left = right)

/-! ## The loops -/

/-- Where the scanner stands. -/
inductive Scanner
  | idle
  /-- In the first loop of `SyncOnce`, before `GetPairMetadata` for the next pair. -/
  | pairs (listed rest : List PairDescriptor)
  /-- In `savePairMetadataIfMissing`, before `SavePairMetadata`. -/
  | missing (listed : List PairDescriptor) (pair : PairDescriptor) (rest : List PairDescriptor)
  /-- In the second loop of `SyncOnce`, before `GetTokenNeighbors` for the next token. -/
  | tokens (listed : List PairDescriptor) (rest : List Address)
  /-- In `saveTokenNeighborsIfChanged`, before `SaveTokenNeighbors`. -/
  | changed (listed : List PairDescriptor) (token : Address) (rest : List Address)

/-- Where the subscriber stands in `applyPairEvent`. -/
inductive Subscriber
  | idle
  /-- Before `GetPairMetadata`. -/
  | received (event : PairCreatedEvent) (advanceCursor : Bool)
  /-- Before `SavePairMetadata`. -/
  | missing (event : PairCreatedEvent) (advanceCursor : Bool)
  /-- Before the two steps of `mergeAndSaveNeighbors` for `token0`. -/
  | first (event : PairCreatedEvent) (advanceCursor : Bool)
  | firstRead (event : PairCreatedEvent) (advanceCursor : Bool) (existing : Option (List Address))
  /-- Before the two steps of `mergeAndSaveNeighbors` for `token1`. -/
  | second (event : PairCreatedEvent) (advanceCursor : Bool)
  | secondRead (event : PairCreatedEvent) (advanceCursor : Bool) (existing : Option (List Address))
  /-- Before `saveSyncCursor`, if it is called. -/
  | merged (event : PairCreatedEvent) (advanceCursor : Bool)

/-- The pairs of the factory, the store, the two loops, and the events for which
    `applyPairEvent` has returned. -/
structure State where
  allPairs   : List PairDescriptor
  store      : Store
  scanner    : Scanner
  subscriber : Subscriber
  applied    : List PairCreatedEvent

/-- The steps. A step that reads the store says whether the `Get` is answered;
    `checkTokenNeighbors` names the token because the loop over a map takes the keys in any
    order; `restart` is an error of either loop, which ends both. -/
inductive Op
  | createPair (pair : PairDescriptor)
  | listPairs
  | checkPairMetadata (answered : Bool)
  | savePairMetadata
  | checkTokenNeighbors (token : Address) (answered : Bool)
  | saveTokenNeighbors
  | receive (event : PairCreatedEvent) (advanceCursor : Bool)
  | applyPairEvent (answered : Bool)
  | restart

/-- A step that is not next. -/
inductive NotEnabled
  | notEnabled

/-- The scanner's next position once the lists of all tokens but `rest` are there. -/
def Scanner.afterToken (listed : List PairDescriptor) : List Address → Scanner
  | [] => .idle
  | token :: rest => .tokens listed (token :: rest)

/-- The scanner's next position once the metadata of the pairs before `rest` is there. -/
def Scanner.afterPair (listed : List PairDescriptor) : List PairDescriptor → Scanner
  | [] => .afterToken listed (neighborSets listed).tokens
  | pair :: rest => .pairs listed (pair :: rest)

/-- One step of the subscriber, with the answer of the store if it reads. -/
def applyPairEvent (answered : Bool) (s : State) : Option State :=
  match s.subscriber with
  | .idle => none
  | .received event advanceCursor =>
    match s.store.getPairMetadata answered event.pair.pairAddress with
    | some _ => some { s with subscriber := .first event advanceCursor }
    | none => some { s with subscriber := .missing event advanceCursor }
  | .missing event advanceCursor =>
    some { s with
      store := s.store.savePairMetadata event.pair
      subscriber := .first event advanceCursor }
  | .first event advanceCursor =>
    some { s with
      subscriber := .firstRead event advanceCursor
        (s.store.getTokenNeighbors answered event.pair.token0) }
  | .firstRead event advanceCursor existing =>
    some { s with
      store := s.store.saveTokenNeighbors event.pair.token0
        (mergedNeighbors existing event.pair.token1)
      subscriber := .second event advanceCursor }
  | .second event advanceCursor =>
    some { s with
      subscriber := .secondRead event advanceCursor
        (s.store.getTokenNeighbors answered event.pair.token1) }
  | .secondRead event advanceCursor existing =>
    some { s with
      store := s.store.saveTokenNeighbors event.pair.token1
        (mergedNeighbors existing event.pair.token0)
      subscriber := .merged event advanceCursor }
  | .merged event advanceCursor =>
    some { s with
      store := if advanceCursor then { s.store with
          syncCursor := some ⟨event.blockNumber, event.blockHash, event.logIndex⟩ }
        else s.store
      subscriber := .idle
      applied := event :: s.applied }

/-- One step of the scanner. -/
def syncOnce (s : State) : Op → Option State
  | .listPairs =>
    match s.scanner with
    | .idle => some { s with scanner := .afterPair s.allPairs s.allPairs }
    | _ => none
  | .checkPairMetadata answered =>
    match s.scanner with
    | .pairs listed (pair :: rest) =>
      match s.store.getPairMetadata answered pair.pairAddress with
      | some _ => some { s with scanner := .afterPair listed rest }
      | none => some { s with scanner := .missing listed pair rest }
    | _ => none
  | .savePairMetadata =>
    match s.scanner with
    | .missing listed pair rest => some { s with
        store := s.store.savePairMetadata pair
        scanner := .afterPair listed rest }
    | _ => none
  | .checkTokenNeighbors token answered =>
    match s.scanner with
    | .tokens listed rest =>
      if token ∈ rest then
        match s.store.getTokenNeighbors answered token with
        | some existing =>
          if sameNeighbors existing (scannedNeighbors listed token) then
            some { s with scanner := .afterToken listed (rest.erase token) }
          else some { s with scanner := .changed listed token (rest.erase token) }
        | none => some { s with scanner := .changed listed token (rest.erase token) }
      else none
    | _ => none
  | .saveTokenNeighbors =>
    match s.scanner with
    | .changed listed token rest => some { s with
        store := s.store.saveTokenNeighbors token (scannedNeighbors listed token)
        scanner := .afterToken listed rest }
    | _ => none
  | _ => none

/-- One step: the factory adds a pair, an event of a pair of the factory comes in, a loop goes
    on, or both loops start anew. -/
def next (s : State) : Op → Option State
  | .createPair pair => some { s with allPairs := s.allPairs ++ [pair] }
  | .receive event advanceCursor =>
    match s.subscriber with
    | .idle =>
      if event.pair ∈ s.allPairs then
        some { s with subscriber := .received event advanceCursor }
      else none
    | _ => none
  | .applyPairEvent answered => applyPairEvent answered s
  | .restart => some { s with scanner := .idle, subscriber := .idle }
  | op => syncOnce s op

def exec (s : State) (op : Op) : Except NotEnabled State :=
  match next s op with
  | some s' => .ok s'
  | none => .error .notEnabled

/-- Any pairs and any store; no event has been applied. -/
def State.Initial (s : State) : Prop :=
  s.scanner = .idle ∧ s.subscriber = .idle ∧ s.applied = []

def worker : System State Op := System.ofCalls State.Initial exec

/-! ## Neighbour lists -/

namespace Store

variable (store : Store) (token : Address)

@[simp] theorem neighborsOf_saveTokenNeighbors (neighbors : List Address) (t : Address) :
    (store.saveTokenNeighbors token neighbors).neighborsOf t =
      if t = token then neighbors else store.neighborsOf t := by
  unfold neighborsOf saveTokenNeighbors
  simp only [Function.update_apply]
  split <;> rfl

theorem getPairMetadata_eq_some {answered : Bool} {pairAddress : Address} {pair : PairDescriptor}
    (h : store.getPairMetadata answered pairAddress = some pair) :
    store.pairMetadata pairAddress = some pair := by
  unfold getPairMetadata at h
  split at h
  · exact h
  · cases h

theorem getTokenNeighbors_eq_some {answered : Bool} {list : List Address}
    (h : store.getTokenNeighbors answered token = some list) :
    store.tokenNeighbors token = some list := by
  unfold getTokenNeighbors at h
  split at h
  · exact h
  · cases h

/-- A read brings the stored list, or an empty one if it is not answered. -/
theorem getD_getTokenNeighbors (answered : Bool) :
    (store.getTokenNeighbors answered token).getD [] =
      if answered then store.neighborsOf token else [] := by
  cases answered <;> rfl

@[simp] theorem neighborsOf_savePairMetadata (metadata : PairDescriptor) :
    (store.savePairMetadata metadata).neighborsOf token = store.neighborsOf token := rfl

end Store

theorem mem_sortStrings {token : Address} {set : List Address} :
    token ∈ sortStrings set ↔ token ∈ set := List.mem_insertionSort _

theorem mem_mergedNeighbors {existing : Option (List Address)} {token neighbor : Address} :
    token ∈ mergedNeighbors existing neighbor ↔ token = neighbor ∨ token ∈ existing.getD [] := by
  unfold mergedNeighbors
  rw [mem_sortStrings, List.mem_insert_iff, List.mem_dedup]

theorem mem_set_appendNeighbor {sets : NeighborSets} {token neighbor t n : Address} :
    n ∈ (appendNeighbor sets token neighbor).set t ↔
      n ∈ sets.set t ∨ (t = token ∧ n = neighbor) := by
  simp only [appendNeighbor, Function.update_apply]
  split
  · subst t
    rw [List.mem_insert_iff]
    tauto
  · tauto

theorem mem_set_appendPair {sets : NeighborSets} {pair : PairDescriptor} {t n : Address} :
    n ∈ (appendPair sets pair).set t ↔ n ∈ sets.set t ∨ pair.Joins t n := by
  unfold appendPair PairDescriptor.Joins
  rw [mem_set_appendNeighbor, mem_set_appendNeighbor, or_assoc]

theorem mem_set_foldl {pairs : List PairDescriptor} {sets : NeighborSets} {t n : Address} :
    n ∈ (pairs.foldl appendPair sets).set t ↔
      n ∈ sets.set t ∨ ∃ pair ∈ pairs, pair.Joins t n := by
  induction pairs generalizing sets with
  | nil => simp
  | cons pair pairs ih =>
    rw [List.foldl_cons, ih, mem_set_appendPair, or_assoc]
    simp

/-- The scanner's list of a token holds exactly the tokens of its listed pairs. -/
theorem mem_scannedNeighbors {pairs : List PairDescriptor} {token neighbor : Address} :
    neighbor ∈ scannedNeighbors pairs token ↔ ∃ pair ∈ pairs, pair.Joins token neighbor := by
  unfold scannedNeighbors neighborSets
  rw [mem_sortStrings, mem_set_foldl]
  simp

end RouterGraph
