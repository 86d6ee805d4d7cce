-- SUMMARY: The subscriber's sessions on a chain that grows and reorganises: backfills in steps, the subscription, disconnects and restarts.
import FluxSwap.Indexer.Foreign
import FluxSwap.Lib.System
import Mathlib.Data.List.Perm.Basic

/-!
# Sessions

A session backfills, subscribes, and then handles the logs that come in; a ticker starts
further backfills in between. Each call to the node and to the database is a step of its own,
so the chain can go on between any two of them. A session ends with an error or a restart, and
then only the tables are left.
-/

namespace Indexer

open Backend

/-! ## Data -/

/-- A place between two logs of the chain. -/
structure Position where
  blockNumber : Nat
  logIndex    : Int

def CursorPosition.position (cursor : CursorPosition) : Position :=
  ⟨cursor.blockNumber, cursor.logIndex⟩

def Log.After (entry : Log) (p : Position) : Prop :=
  p.blockNumber < entry.blockNumber ∨
    (p.blockNumber = entry.blockNumber ∧ p.logIndex < entry.index)

instance (entry : Log) (p : Position) : Decidable (entry.After p) :=
  inferInstanceAs (Decidable (_ ∨ _))

/-- What the subscription has still to deliver. For the statements: `unread` are the logs
    that were mined after the last backfill asked for its range and before the subscription
    became active. -/
structure Subscription where
  queue  : List Log
  unread : List Log

/-- Where `runOnce` stands. For the statements: `unread` are the logs between the origin and
    the window of a backfill without a cursor. -/
inductive Phase
  | down
  /-- In `backfillRecentLogs`, before `BlockNumber`. -/
  | dialed
  /-- In `backfillRecentLogs`, before `GetPosition`. -/
  | latest (latestBlock : Nat)
  /-- In `backfillFromCursor`, before `BlockNumber`. -/
  | starting (fromBlock : Nat) (cursor : Option CursorPosition) (unread : List Log)
  /-- In `backfillFromCursor`, before `FilterLogs`. -/
  | range (fromBlock latestBlock : Nat) (cursor : Option CursorPosition) (unread : List Log)
  /-- In the loop of `backfillFromCursor`. -/
  | replaying (latestBlock : Nat) (cursor : Option CursorPosition) (unread rest : List Log)
  /-- After the first backfill, before `SubscribeFilterLogs`; the block up to which it has
      read, if it has read at all. -/
  | filled (latestBlock : Option Nat) (unread : List Log)
  /-- In the loop of `runOnce`. -/
  | live
  deriving DecidableEq

/-- The chain with the contract's logs, the tables, and the session. For the statements:
    `origin` is the place from which on logs are indexed. -/
structure Session where
  head         : Nat
  chain        : List Log
  tables       : State
  phase        : Phase
  subscription : Option Subscription
  origin       : Option Position

/-- The steps. A reorganisation keeps the blocks up to `fork`; the notices are those of the
    logs that it removes, in any order. `interrupt` is a failure between `ApplyEvent` and
    `advanceCursor`, `disconnect` any other failure or a restart. -/
inductive Op
  | mine (logs : List Log)
  | reorg (fork head : Nat) (logs notices : List Log)
  | updateOrders (orders : OrderKey → Option Order)
  | dial
  | blockNumber
  | getPosition
  | filterLogs
  | handle
  | finish
  | interrupt
  | subscribe
  | tick
  | disconnect

/-! ## The chain -/

/-- The log decodes if its topic is that of a supported event. -/
def Log.decodes (cfg : Config) (entry : Log) : Bool :=
  (entry.topics.head?.bind (eventNameByTopic cfg)).all fun name => (decodeLog cfg name entry).isSome

theorem emitted_iff {cfg : Config} {entry : Log} :
    Emitted cfg entry ↔ entry.address = cfg.settlementAddress ∧ entry.removed = false ∧
      entry.decodes cfg = true := by
  have hdecodes : entry.decodes cfg = true ↔ ∀ topic name, entry.topics.head? = some topic →
      eventNameByTopic cfg topic = some name → ∃ event, decodeLog cfg name entry = some event := by
    simp only [Log.decodes, Option.all_eq_true, Option.bind_eq_some_iff, Option.isSome_iff_exists]
    exact ⟨fun h topic name htopic hname => h name ⟨topic, htopic, hname⟩,
      fun h name ⟨topic, htopic, hname⟩ => h topic name htopic hname⟩
  rw [hdecodes]
  exact ⟨fun h => ⟨h.1, h.2, h.3⟩, fun h => ⟨h.1, h.2.1, h.2.2⟩⟩

instance (cfg : Config) (entry : Log) : Decidable (Emitted cfg entry) :=
  decidable_of_iff _ emitted_iff.symm

/-- The logs of new blocks. -/
def NewLogs (cfg : Config) (fork head : Nat) (logs : List Log) : Prop :=
  (∀ entry ∈ logs, Emitted cfg entry ∧ fork < entry.blockNumber ∧ entry.blockNumber ≤ head) ∧
    logs.Pairwise Before ∧
    ∀ entry ∈ logs, ∀ entry' ∈ logs, entry.blockNumber = entry'.blockNumber →
      entry.blockHash = entry'.blockHash

instance (cfg : Config) (fork head : Nat) (logs : List Log) :
    Decidable (NewLogs cfg fork head logs) := inferInstanceAs (Decidable (_ ∧ _ ∧ _))

/-- The notice that a log has been removed. -/
def Log.notice (entry : Log) : Log := { entry with removed := true }

namespace Session

/-- The subscription takes the logs up. -/
def deliver (s : Session) (logs : List Log) : Option Subscription :=
  s.subscription.map fun subscription =>
    { subscription with queue := subscription.queue ++ logs }

def mine (cfg : Config) (s : Session) (logs : List Log) : Option Session :=
  if NewLogs cfg s.head (s.head + 1) logs then
    some { s with
      head := s.head + 1
      chain := s.chain ++ logs
      subscription := s.deliver logs }
  else none

/-- The logs that a reorganisation keeps, and those that it removes. -/
def kept (s : Session) (fork : Nat) : List Log :=
  s.chain.filter fun entry => decide (entry.blockNumber ≤ fork)

def removed (s : Session) (fork : Nat) : List Log :=
  s.chain.filter fun entry => decide (fork < entry.blockNumber)

def reorg (cfg : Config) (s : Session) (fork head : Nat) (logs notices : List Log) :
    Option Session :=
  if fork ≤ head ∧ NewLogs cfg fork head logs ∧
      notices.Perm ((s.removed fork).map Log.notice) then
    some { s with
      head := head
      chain := s.kept fork ++ logs
      subscription := s.deliver (notices ++ logs) }
  else none

/-! ## The session -/

/-- The session is over. -/
def ended (s : Session) : Session := { s with phase := .down, subscription := none }

/-- The supported logs after the origin in some of the blocks. -/
def logsIn (cfg : Config) (s : Session) (origin : Position) (blocks : Nat → Bool) : List Log :=
  s.chain.filter fun entry =>
    decide (entry.After origin) && (eventOf cfg entry).isSome && blocks entry.blockNumber

/-- `backfillRecentLogs` returns without an error. -/
def filled (s : Session) (latestBlock : Option Nat) (unread : List Log) : Session :=
  match s.subscription with
  | none => { s with phase := .filled latestBlock unread }
  | some subscription =>
    { s with
      phase := .live
      subscription := some { subscription with
        unread := if latestBlock.isSome then unread else subscription.unread } }

def blockNumber (s : Session) : Option Session :=
  match s.phase with
  | .dialed => some { s with phase := .latest s.head }
  | .starting fromBlock cursor unread =>
    if s.head < fromBlock then some (s.filled (some s.head) unread)
    else some { s with phase := .range fromBlock s.head cursor unread }
  | _ => none

def getPosition (cfg : Config) (s : Session) : Option Session :=
  match s.phase with
  | .latest latestBlock =>
    match s.tables.cursor, startBlock cfg latestBlock s.tables.cursor with
    | none, none => some (s.filled none [])
    | some _, none => some (s.filled (some latestBlock) [])
    | some cursor, some fromBlock =>
      some { s with phase := .starting fromBlock (some cursor) [] }
    | none, some fromBlock =>
      let origin := s.origin.getD ⟨fromBlock, -1⟩
      some { s with
        origin := some origin
        phase := .starting fromBlock none
          (s.logsIn cfg origin fun blockNumber => decide (blockNumber < fromBlock)) }
  | _ => none

def filterLogs (s : Session) : Option Session :=
  match s.phase with
  | .range fromBlock latestBlock cursor unread =>
    some { s with
      phase := .replaying latestBlock cursor unread (logsBetween s.chain fromBlock latestBlock) }
  | _ => none

/-- The session after `handleLog`: it goes on as `next`, or it is over. -/
def handled (s next : Session) : Except IndexerError State → Session
  | .ok tables => { next with tables := tables }
  | .error _ => s.ended

/-- One round of the loop of `backfillFromCursor`, or of that of `runOnce` for a log. -/
def handle (cfg : Config) (s : Session) : Option Session :=
  match s.phase, s.subscription with
  | .replaying latestBlock cursor unread (entry :: rest), _ =>
    let next := { s with phase := .replaying latestBlock cursor unread rest }
    if shouldSkipEntry cursor entry then some next
    else some (s.handled next (handleLog cfg s.tables entry))
  | .live, some ⟨entry :: queue, unread⟩ =>
    let next := { s with subscription := some ⟨queue, unread⟩ }
    some (s.handled next (handleLog cfg s.tables entry))
  | _, _ => none

/-- The end of the loop of `backfillFromCursor`. -/
def finish (s : Session) : Option Session :=
  match s.phase with
  | .replaying latestBlock _ unread [] => some (s.filled (some latestBlock) unread)
  | _ => none

/-- The session ends after an event has been applied. -/
def applied (cfg : Config) (s : Session) (entry : Log) : Session :=
  { s with tables := { s.tables with db := store cfg s.tables.db entry } }.ended

def interrupt (cfg : Config) (s : Session) : Option Session :=
  match s.phase, s.subscription with
  | .replaying _ cursor _ (entry :: _), _ =>
    if shouldSkipEntry cursor entry then none else some (s.applied cfg entry)
  | .live, some ⟨entry :: _, _⟩ => some (s.applied cfg entry)
  | _, _ => none

def subscribe (cfg : Config) (s : Session) : Option Session :=
  match s.phase with
  | .filled latestBlock unread =>
    let origin := s.origin.getD ⟨s.head + 1, -1⟩
    some { s with
      phase := .live
      origin := some origin
      subscription := some ⟨[], unread ++ s.logsIn cfg origin fun blockNumber =>
        latestBlock.all fun latestBlock => decide (latestBlock < blockNumber)⟩ }
  | _ => none

def next (cfg : Config) (s : Session) : Op → Option Session
  | .mine logs => s.mine cfg logs
  | .reorg fork head logs notices => s.reorg cfg fork head logs notices
  | .updateOrders orders =>
    some { s with tables := { s.tables with db := { s.tables.db with orders := orders } } }
  | .dial =>
    match s.phase with
    | .down => some { s with phase := .dialed }
    | _ => none
  | .blockNumber => s.blockNumber
  | .getPosition => s.getPosition cfg
  | .filterLogs => s.filterLogs
  | .handle => s.handle cfg
  | .finish => s.finish
  | .interrupt => s.interrupt cfg
  | .subscribe => s.subscribe cfg
  | .tick =>
    match s.phase with
    | .live => some { s with phase := .dialed }
    | _ => none
  | .disconnect => some s.ended

end Session

/-- A step that is not next. -/
inductive NotEnabled
  | notEnabled

def exec (cfg : Config) (s : Session) (op : Op) : Except NotEnabled Session :=
  match s.next cfg op with
  | some s' => .ok s'
  | none => .error .notEnabled

theorem exec_eq_ok {cfg : Config} {s s' : Session} {op : Op} :
    exec cfg s op = .ok s' ↔ s.next cfg op = some s' := by
  unfold exec
  cases s.next cfg op with
  | none => exact ⟨nofun, nofun⟩
  | some s'' => rw [Except.ok.injEq, Option.some.injEq]

/-- No session, and either no cursor, or one up to which everything counts as indexed. -/
structure Session.Initial (cfg : Config) (s : Session) : Prop where
  down : s.phase = .down ∧ s.subscription = none
  origin : s.origin = s.tables.cursor.map CursorPosition.position
  history : History cfg s.chain
  mined : ∀ entry ∈ s.chain, entry.blockNumber ≤ s.head
  cursor : ∀ cursor ∈ s.tables.cursor, cursor.blockNumber ≤ s.head

def subscriber (cfg : Config) : System Session Op :=
  System.ofCalls (Session.Initial cfg) (exec cfg)

/-! ## Sessions to try -/

namespace SessionExample

open Example

/-- A chain of ten blocks without logs, and empty tables. -/
def session : Session := ⟨10, [], start, .down, none, none⟩

theorem session_initial : session.Initial config where
  down := ⟨rfl, rfl⟩
  origin := rfl
  history := ⟨nofun, .nil, nofun⟩
  mined := nofun
  cursor := nofun

/-- Another maker invalidates a nonce. -/
def invalidatedLog (blockNumber : Nat) : Log where
  address := 900
  topics := [nonceInvalidatedTopic config, 12]
  data := List.replicate 32 0
  blockNumber := blockNumber
  txHash := Fin.ofNat (2 ^ 256) blockNumber
  blockHash := Fin.ofNat (2 ^ 256) blockNumber
  index := 0
  removed := false

/-- A backfill that finds no logs. -/
def emptyBackfill : List Op := [.blockNumber, .getPosition, .blockNumber, .filterLogs, .finish]

/-- The blocks of the stored events. -/
def eventBlocks (s : Session) : List Int := s.tables.db.events.map Backend.OrderEvent.blockNumber

end SessionExample

end Indexer
