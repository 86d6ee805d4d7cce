-- SUMMARY: Logs of orders that the database does not know: every backfill stops at the first of them, however often it runs.
import FluxSwap.Indexer.Subscriber
import FluxSwap.Backend.StatusLog
import Mathlib.Order.Basic
import Mathlib.Data.List.TakeWhile

/-!
# Foreign logs

An `OrderExecuted` log may be about an order that was signed and executed without this
backend. Its event cannot be applied, and the cursor stays before it. So what the backfills
of a fixed chain do, one after another, is decided by the first such log.
-/

namespace Indexer

open Backend

variable {cfg : Config} {entry : Log} {db : Database} {s : State}

/-! ## The logs of the contract -/

/-- The event of a log, if it has one that is supported. -/
def eventOf (cfg : Config) (entry : Log) : Option OrderEvent := do
  let topic ← entry.topics.head?
  let name ← eventNameByTopic cfg topic
  decodeLog cfg name entry

/-- A log as the settlement contract emits it: what is supported can be decoded. -/
structure Emitted (cfg : Config) (entry : Log) : Prop where
  address : entry.address = cfg.settlementAddress
  kept : entry.removed = false
  decodes : ∀ topic name, entry.topics.head? = some topic →
    eventNameByTopic cfg topic = some name → ∃ event, decodeLog cfg name entry = some event

/-- Earlier in the chain. -/
def Before (entry entry' : Log) : Prop :=
  entry.blockNumber < entry'.blockNumber ∨
    (entry.blockNumber = entry'.blockNumber ∧ entry.index < entry'.index)

instance : DecidableRel Before := fun _ _ => inferInstanceAs (Decidable (_ ∨ _))

/-- The logs of the contract in a chain without reorganisations. -/
structure History (cfg : Config) (chain : List Log) : Prop where
  emitted : ∀ entry ∈ chain, Emitted cfg entry
  ordered : chain.Pairwise Before
  blocks : ∀ entry ∈ chain, ∀ entry' ∈ chain, entry.blockNumber = entry'.blockNumber →
    entry.blockHash = entry'.blockHash

/-- The logs of a range of blocks. -/
def logsBetween (chain : List Log) (fromBlock toBlock : Nat) : List Log :=
  chain.filter fun entry => decide (fromBlock ≤ entry.blockNumber ∧ entry.blockNumber ≤ toBlock)

/-- A node that has the chain up to a block, and answers. -/
def Client.ofChain (latestBlock : Nat) (chain : List Log) : Client where
  blockNumber := some latestBlock
  filterLogs fromBlock toBlock := some (logsBetween chain fromBlock toBlock)

/-- The log executes an order that the database does not have. -/
def foreign (cfg : Config) (db : Database) (entry : Log) : Bool :=
  match eventOf cfg entry with
  | some event => decide (event.name = .orderExecuted) && (db.orders event.orderKey).isNone
  | none => false

/-! ## One log -/

/-- The database after an event, if it can be applied. -/
def store (cfg : Config) (db : Database) (entry : Log) : Database :=
  match eventOf cfg entry with
  | none => db
  | some event =>
    match applyEvent event db with
    | .ok db => db
    | .error _ => db

/-- The log is handled: its event is applied, and the cursor is moved to it. -/
def process (cfg : Config) (s : State) (entry : Log) : State :=
  advanceCursor { s with db := store cfg s.db entry } entry

theorem decodeLog_fields {name : EventName} {event : OrderEvent}
    (h : decodeLog cfg name entry = some event) :
    event.name = name ∧ event.removed = entry.removed ∧ event.chainId = cfg.chainId ∧
      event.txHash = entry.txHash ∧ event.logIndex = entry.index := by
  unfold decodeLog at h
  split at h
  · obtain ⟨amounts, -, rfl⟩ := Option.map_eq_some_iff.mp h
    exact ⟨rfl, rfl, rfl, rfl, rfl⟩
  · obtain ⟨nonce, -, rfl⟩ := Option.map_eq_some_iff.mp h
    exact ⟨rfl, rfl, rfl, rfl, rfl⟩
  · cases h

/-- Handling a log that decodes if it is supported. -/
theorem handleLog_of_decodes (hdecodes : ∀ topic name, entry.topics.head? = some topic →
      eventNameByTopic cfg topic = some name → ∃ event, decodeLog cfg name entry = some event)
    (s : State) :
    handleLog cfg s entry =
      match eventOf cfg entry with
      | none => .ok (advanceCursor s entry)
      | some event =>
        match applyEvent event s.db with
        | .error e => .error (.applyFailed e)
        | .ok db => .ok (advanceCursor { s with db := db } entry) := by
  unfold handleLog eventOf
  cases htopics : entry.topics with
  | nil => rfl
  | cons topic rest =>
    simp only [List.head?_cons, Option.bind_eq_bind, Option.bind_some]
    cases hname : eventNameByTopic cfg topic with
    | none => rfl
    | some name =>
      obtain ⟨event, hevent⟩ := hdecodes topic name (by rw [htopics]; rfl) hname
      simp only [Option.bind_some, hevent] <;> rfl

/-- Handling a log that the contract emitted. -/
theorem handleLog_eq (hemitted : Emitted cfg entry) (s : State) :
    handleLog cfg s entry =
      match eventOf cfg entry with
      | none => .ok (advanceCursor s entry)
      | some event =>
        match applyEvent event s.db with
        | .error e => .error (.applyFailed e)
        | .ok db => .ok (advanceCursor { s with db := db } entry) :=
  handleLog_of_decodes hemitted.decodes s

theorem applyEvent_executed {event : OrderEvent} (hkept : event.removed = false)
    (hname : event.name = .orderExecuted) :
    applyEvent event db = ignoreDuplicate db (EventService.apply event.toOrderEvent db) := by
  unfold applyEvent
  rw [hkept, hname]
  rfl

theorem applyEvent_invalidated {event : OrderEvent} (hkept : event.removed = false)
    (hname : event.name = .nonceInvalidated) :
    applyEvent event db =
      ignoreDuplicate db (EventService.applyNonceInvalidated event.toOrderEvent db) := by
  unfold applyEvent
  rw [hkept, hname]
  rfl

/-- An event whose order is unknown cannot be applied. -/
theorem applyEvent_foreign {event : OrderEvent} (hkept : event.removed = false)
    (hname : event.name = .orderExecuted) (hunknown : db.orders event.orderKey = none) :
    applyEvent event db = .error .recordNotFound := by
  rw [applyEvent_executed hkept hname]
  have hmissing : db.getByOrderHash event.orderKey = none := hunknown
  unfold EventService.apply
  rw [hmissing]
  rfl

/-- Rows of orders neither appear nor disappear. -/
def SameKeys (db db' : Database) : Prop := ∀ key, db'.orders key = none ↔ db.orders key = none

theorem SameKeys.refl (db : Database) : SameKeys db db := fun _ => Iff.rfl

theorem SameKeys.of_map {db' : Database} {f : OrderKey → Order → Order}
    (h : ∀ key, db'.orders key = (db.orders key).map (f key)) : SameKeys db db' := by
  intro key
  rw [h key, Option.map_eq_none_iff]

theorem stored_of_createEvent_none {e : Backend.OrderEvent} (h : db.createEvent e = none) :
    ∃ row ∈ db.events, row.id = e.id := by
  unfold Database.createEvent at h
  split at h
  · rename_i hany
    simpa using hany
  · cases h

/-- `Apply` of the execution of a known order. -/
theorem apply_isOk {e : Backend.OrderEvent} {db₁ : Database} {order : Order}
    (hname : e.name = .orderExecuted) (hrow : db.orders e.orderKey = some order)
    (hcreate : db.createEvent e = some db₁) : ∃ db', EventService.apply e db = .ok db' := by
  have hfound : db.getByOrderHash e.orderKey = some order := hrow
  unfold EventService.apply
  rw [hfound]
  simp only [hcreate, hname]
  split
  · exact ⟨_, rfl⟩
  · split
    · exact ⟨_, rfl⟩
    · exact ⟨_, rfl⟩

/-- Any other event can be applied, and is stored then. -/
theorem applyEvent_known {event : OrderEvent} (hkept : event.removed = false)
    (hknown : event.name = .orderExecuted → db.orders event.orderKey ≠ none) :
    ∃ db', applyEvent event db = .ok db' ∧ SameKeys db db' ∧
      (∀ row ∈ db.events, row ∈ db'.events) ∧ ∃ row ∈ db'.events, row.id = event.id := by
  have hnew : ∀ db' : Database, db'.events = event.toOrderEvent :: db.events →
      (∀ row ∈ db.events, row ∈ db'.events) ∧ ∃ row ∈ db'.events, row.id = event.id := by
    intro db' hevents
    rw [hevents]
    exact ⟨fun row hrow => .tail _ hrow, _, .head _, rfl⟩
  cases hname : event.name with
  | orderExecuted =>
    rw [applyEvent_executed hkept hname]
    obtain ⟨order, hrow⟩ := Option.ne_none_iff_exists'.mp (hknown hname)
    cases hcreate : db.createEvent event.toOrderEvent with
    | none =>
      -- a duplicate is no error to the indexer, and its row is there already
      have hduplicate : EventService.apply event.toOrderEvent db = .error .duplicateOrderEvent := by
        have hfound : db.getByOrderHash event.orderKey = some order := hrow
        unfold EventService.apply
        rw [hfound]
        simp only [hcreate]
      rw [hduplicate]
      exact ⟨db, rfl, .refl db, fun row hrow => hrow, stored_of_createEvent_none hcreate⟩
    | some db₁ =>
      obtain ⟨db', happly⟩ := apply_isOk hname hrow hcreate
      obtain ⟨-, -, -, hevents, horders⟩ := EventService.apply_ok happly
      rw [happly]
      exact ⟨db', rfl, .of_map horders, hnew db' hevents⟩
  | nonceInvalidated =>
    rw [applyEvent_invalidated hkept hname]
    cases happly : EventService.applyNonceInvalidated event.toOrderEvent db with
    | ok db' =>
      obtain ⟨-, hevents, horders⟩ := EventService.applyNonceInvalidated_ok happly
      exact ⟨db', rfl, .of_map horders, hnew db' hevents⟩
    | error e =>
      unfold EventService.applyNonceInvalidated at happly
      split at happly
      · rename_i hcreate
        cases happly
        exact ⟨db, rfl, .refl db, fun row hrow => hrow, stored_of_createEvent_none hcreate⟩
      · cases happly

theorem eventOf_kept (hemitted : Emitted cfg entry) {event : OrderEvent}
    (h : eventOf cfg entry = some event) : event.removed = false := by
  unfold eventOf at h
  simp only [Option.bind_eq_bind, Option.bind_eq_some_iff] at h
  obtain ⟨topic, -, name, -, hdecode⟩ := h
  rw [(decodeLog_fields hdecode).2.1]
  exact hemitted.kept

/-- A foreign log fails. -/
theorem handleLog_foreign (hemitted : Emitted cfg entry) (h : foreign cfg s.db entry = true) :
    handleLog cfg s entry = .error (.applyFailed .recordNotFound) := by
  rw [handleLog_eq hemitted]
  unfold foreign at h
  cases hevent : eventOf cfg entry with
  | none => simp [hevent] at h
  | some event =>
    simp only [hevent, Bool.and_eq_true, decide_eq_true_eq, Option.isNone_iff_eq_none] at h
    simp only [applyEvent_foreign (eventOf_kept hemitted hevent) h.1 h.2]

/-- Any other log is handled. -/
theorem handleLog_known (hemitted : Emitted cfg entry) (h : foreign cfg s.db entry = false) :
    handleLog cfg s entry = .ok (process cfg s entry) ∧ SameKeys s.db (process cfg s entry).db ∧
      (∀ row ∈ s.db.events, row ∈ (process cfg s entry).db.events) ∧
      ∀ event, eventOf cfg entry = some event →
        ∃ row ∈ (process cfg s entry).db.events, row.id = event.id := by
  rw [handleLog_eq hemitted]
  unfold process store
  cases hevent : eventOf cfg entry with
  | none => exact ⟨rfl, .refl s.db, fun row hrow => hrow, by simp⟩
  | some event =>
    have hknown : event.name = .orderExecuted → s.db.orders event.orderKey ≠ none := by
      intro hname hunknown
      simp [foreign, hevent, hname, hunknown] at h
    obtain ⟨db', happly, hsame, hkeeps, hstored⟩ :=
      applyEvent_known (eventOf_kept hemitted hevent) hknown
    simp only [happly]
    refine ⟨trivial, hsame, hkeeps, ?_⟩
    rintro _ hevent'
    obtain rfl := Option.some.inj hevent'
    exact hstored

theorem foreign_congr {db' : Database} (h : SameKeys db db') :
    foreign cfg db' entry = foreign cfg db entry := by
  unfold foreign
  cases eventOf cfg entry with
  | none => rfl
  | some event =>
    have hnone : (db'.orders event.orderKey).isNone = (db.orders event.orderKey).isNone := by
      rw [Bool.eq_iff_iff, Option.isNone_iff_eq_none, Option.isNone_iff_eq_none]
      exact h event.orderKey
    simp only [hnone]

/-! ## One backfill -/

/-- The logs are handled one after another. -/
def processAll (cfg : Config) (s : State) (entries : List Log) : State :=
  entries.foldl (process cfg) s

/-- The logs that a backfill gets through, and the rest. -/
def applied (cfg : Config) (db : Database) (entries : List Log) : List Log :=
  entries.takeWhile fun entry => !foreign cfg db entry

def blocked (cfg : Config) (db : Database) (entries : List Log) : List Log :=
  entries.dropWhile fun entry => !foreign cfg db entry

/-- The error of a backfill that is left with these logs. -/
def errorOf : List Log → Option IndexerError
  | [] => none
  | _ :: _ => some (.applyFailed .recordNotFound)

theorem applied_congr {db' : Database} (h : SameKeys db db') (entries : List Log) :
    applied cfg db' entries = applied cfg db entries := by
  unfold applied
  simp only [foreign_congr h]

theorem blocked_congr {db' : Database} (h : SameKeys db db') (entries : List Log) :
    blocked cfg db' entries = blocked cfg db entries := by
  unfold blocked
  simp only [foreign_congr h]

/-- A replay handles the logs that it does not skip, up to the first foreign one. -/
theorem replay_eq {cursor : Option CursorPosition} {entries : List Log}
    (hemitted : ∀ entry ∈ entries, Emitted cfg entry) (s : State) :
    replay cfg cursor entries s =
      let left := entries.filter fun entry => !shouldSkipEntry cursor entry
      (processAll cfg s (applied cfg s.db left), errorOf (blocked cfg s.db left)) := by
  induction entries generalizing s with
  | nil => rfl
  | cons entry rest ih =>
    have hrest : ∀ entry ∈ rest, Emitted cfg entry := fun entry h => hemitted entry (.tail _ h)
    have hentry := hemitted entry (.head _)
    unfold replay
    cases hskip : shouldSkipEntry cursor entry with
    | true =>
      simp only [if_true, List.filter_cons, hskip, Bool.not_true, Bool.false_eq_true, if_false]
      exact ih hrest s
    | false =>
      simp only [Bool.false_eq_true, if_false, List.filter_cons, hskip, Bool.not_false, if_true]
      cases hforeign : foreign cfg s.db entry with
      | true =>
        rw [handleLog_foreign hentry hforeign]
        simp [applied, blocked, hforeign, processAll, errorOf]
      | false =>
        obtain ⟨hhandle, hsame, -⟩ := handleLog_known hentry hforeign
        rw [hhandle]
        simp only [ih hrest (process cfg s entry), applied_congr hsame, blocked_congr hsame]
        simp [applied, blocked, hforeign, processAll]

/-- What the next backfill has to handle. -/
def pending (cfg : Config) (latestBlock : Nat) (chain : List Log) (s : State) : List Log :=
  match startBlock cfg latestBlock s.cursor with
  | none => []
  | some fromBlock =>
    (logsBetween chain fromBlock latestBlock).filter fun entry => !shouldSkipEntry s.cursor entry

/-- A backfill while the node has the chain up to a block. -/
def backfill (cfg : Config) (latestBlock : Nat) (chain : List Log) (s : State) :
    State × Option IndexerError :=
  backfillRecentLogs cfg (.ofChain latestBlock chain) (.ofChain latestBlock chain) s

theorem startBlock_some (latestBlock : Nat) (cursor : CursorPosition) :
    startBlock cfg latestBlock (some cursor) =
      if latestBlock < cursor.blockNumber then none else some cursor.blockNumber := rfl

theorem startBlock_le {latestBlock fromBlock : Nat} {cursor : Option CursorPosition}
    (h : startBlock cfg latestBlock cursor = some fromBlock) : fromBlock ≤ latestBlock := by
  unfold startBlock at h
  split at h
  · split at h
    · cases h
    · obtain rfl := Option.some.inj h
      omega
  · split at h
    · cases h
    · split at h
      · obtain rfl := Option.some.inj h
        omega
      · obtain rfl := Option.some.inj h
        omega

theorem backfill_eq {latestBlock : Nat} {chain : List Log} (hchain : History cfg chain)
    (s : State) :
    backfill cfg latestBlock chain s =
      (processAll cfg s (applied cfg s.db (pending cfg latestBlock chain s)),
        errorOf (blocked cfg s.db (pending cfg latestBlock chain s))) := by
  unfold backfill backfillRecentLogs pending
  simp only [Client.ofChain]
  cases hstart : startBlock cfg latestBlock s.cursor with
  | none => rfl
  | some fromBlock =>
    have hle := startBlock_le hstart
    have hemitted : ∀ entry ∈ logsBetween chain fromBlock latestBlock, Emitted cfg entry :=
      fun entry h => hchain.emitted entry (List.mem_of_mem_filter h)
    simp only [backfillFromCursor, Nat.not_lt.mpr hle, if_false, replay_eq hemitted]

/-! ## Backfills one after another -/

theorem processAll_cursor (s : State) (entries : List Log) :
    (processAll cfg s entries).cursor = (entries.getLast?.map positionOf).or s.cursor := by
  induction entries using List.reverseRecOn with
  | nil => rfl
  | append_singleton entries entry _ =>
    simp [processAll, process, advanceCursor]

/-- Handling known logs keeps the keys, so it does not change which logs are foreign; and it
    stores the event of each. -/
theorem processAll_known {entries : List Log} (hemitted : ∀ entry ∈ entries, Emitted cfg entry)
    (hknown : ∀ entry ∈ entries, foreign cfg s.db entry = false) :
    SameKeys s.db (processAll cfg s entries).db ∧
      (∀ row ∈ s.db.events, row ∈ (processAll cfg s entries).db.events) ∧
      ∀ entry ∈ entries, ∀ event, eventOf cfg entry = some event →
        ∃ row ∈ (processAll cfg s entries).db.events, row.id = event.id := by
  induction entries generalizing s with
  | nil => exact ⟨.refl s.db, fun row hrow => hrow, by simp⟩
  | cons entry rest ih =>
    obtain ⟨-, hsame, hkeeps, hstored⟩ :=
      handleLog_known (hemitted entry (.head _)) (hknown entry (.head _))
    obtain ⟨hsame', hkeeps', hstored'⟩ := ih (s := process cfg s entry)
      (fun entry h => hemitted entry (.tail _ h)) fun entry' h => by
        rw [foreign_congr hsame]
        exact hknown entry' (.tail _ h)
    refine ⟨fun key => (hsame' key).trans (hsame key), fun row hrow => hkeeps' row (hkeeps row hrow),
      ?_⟩
    intro entry' hentry event hevent
    rcases List.mem_cons.mp hentry with rfl | hentry
    · obtain ⟨row, hrow, hid⟩ := hstored event hevent
      exact ⟨row, hkeeps' row hrow, hid⟩
    · exact hstored' entry' hentry event hevent

theorem Before.irrefl (entry : Log) : ¬Before entry entry := by
  unfold Before
  omega

theorem Before.asymm {entry' : Log} (h : Before entry entry') : ¬Before entry' entry := by
  unfold Before at h ⊢
  omega

/-- A log is skipped by the cursor at a log of the same chain exactly if it is not later and in
    the same block. -/
theorem shouldSkip_positionOf {chain : List Log} (hchain : History cfg chain) {entry entry' : Log}
    (hmem : entry ∈ chain) (hmem' : entry' ∈ chain) :
    shouldSkipEntry (some (positionOf entry)) entry' = true ↔
      entry'.blockNumber = entry.blockNumber ∧ entry'.index ≤ entry.index := by
  have hunfold : shouldSkipEntry (some (positionOf entry)) entry' =
      (decide (entry'.blockNumber = entry.blockNumber) &&
        decide (entry.blockHash = entry'.blockHash) &&
        decide ((entry'.index : Int) ≤ (entry.index : Int))) := rfl
  rw [hunfold]
  simp only [Bool.and_eq_true, decide_eq_true_eq, Int.ofNat_le]
  constructor
  · rintro ⟨⟨hblock, -⟩, hindex⟩
    exact ⟨hblock, hindex⟩
  · rintro ⟨hblock, hindex⟩
    exact ⟨⟨hblock, hchain.blocks entry hmem entry' hmem' hblock.symm⟩, hindex⟩

theorem mem_pending {latestBlock : Nat} {chain : List Log} {entry : Log} :
    entry ∈ pending cfg latestBlock chain s ↔
      entry ∈ chain ∧ ∃ fromBlock, startBlock cfg latestBlock s.cursor = some fromBlock ∧
        (fromBlock ≤ entry.blockNumber ∧ entry.blockNumber ≤ latestBlock) ∧
        shouldSkipEntry s.cursor entry = false := by
  unfold pending logsBetween
  cases startBlock cfg latestBlock s.cursor with
  | none => simp
  | some fromBlock =>
    simp only [List.mem_filter, decide_eq_true_eq, Bool.not_eq_true', Option.some.injEq,
      exists_eq_left', and_assoc]

/-- What comes after a pending log in the chain is pending too. -/
theorem pending_later {latestBlock : Nat} {chain : List Log} (hchain : History cfg chain)
    {last entry : Log} (hlast : last ∈ pending cfg latestBlock chain s) (hentry : entry ∈ chain)
    (hbefore : Before last entry) (hle : entry.blockNumber ≤ latestBlock) :
    entry ∈ pending cfg latestBlock chain s := by
  obtain ⟨hmem, fromBlock, hstart, hrange, hkept⟩ := mem_pending.mp hlast
  refine mem_pending.mpr ⟨hentry, fromBlock, hstart, ⟨?_, hle⟩, ?_⟩
  · unfold Before at hbefore
    omega
  · -- a log of the cursor's block that is skipped lies before every log that is not
    rw [Bool.eq_false_iff]
    intro hskip
    cases hcursor : s.cursor with
    | none => simp [hcursor, shouldSkipEntry] at hskip
    | some cursor =>
      simp only [hcursor, shouldSkipEntry, Bool.and_eq_true, decide_eq_true_eq] at hskip
      obtain ⟨⟨hblock, hhash⟩, hindex⟩ := hskip
      have hfrom : fromBlock = cursor.blockNumber := by
        rw [hcursor, startBlock_some] at hstart
        split at hstart
        · cases hstart
        · exact (Option.some.inj hstart).symm
      unfold Before at hbefore
      have hsame : last.blockNumber = entry.blockNumber := by omega
      rw [hcursor, Bool.eq_false_iff] at hkept
      apply hkept
      simp only [shouldSkipEntry, Bool.and_eq_true, decide_eq_true_eq]
      refine ⟨⟨by omega, ?_⟩, by omega⟩
      rw [hchain.blocks last hmem entry hentry hsame]
      exact hhash

/-- Two filtered parts of a list with the same members are the same. -/
theorem filter_eq_filter {α : Type} {l xs ys : List α} {p q : α → Bool} (hxs : xs = l.filter p)
    (hys : ys = l.filter q) (h : ∀ x ∈ l, x ∈ xs ↔ x ∈ ys) : xs = ys := by
  subst hxs hys
  apply List.filter_congr
  intro x hx
  have hiff := h x hx
  simp only [List.mem_filter, hx, true_and] at hiff
  exact Bool.eq_iff_iff.mpr hiff

theorem pending_eq_filter (cfg : Config) (latestBlock : Nat) (chain : List Log) (s : State) :
    ∃ p, pending cfg latestBlock chain s = chain.filter p := by
  unfold pending logsBetween
  split
  · exact ⟨fun _ => false, by simp⟩
  · exact ⟨_, List.filter_filter⟩

/-- With the cursor at a pending log, the logs after it are pending. -/
theorem pending_resumes {latestBlock : Nat} {chain : List Log} (hchain : History cfg chain)
    {s' : State} {before after : List Log} {last : Log}
    (hsplit : pending cfg latestBlock chain s = before ++ after)
    (hlast : before.getLast? = some last) (hcursor : s'.cursor = some (positionOf last)) :
    pending cfg latestBlock chain s' = after := by
  obtain ⟨p, hfilter⟩ := pending_eq_filter cfg latestBlock chain s
  obtain ⟨q, hfilter'⟩ := pending_eq_filter cfg latestBlock chain s'
  have hmemLast : last ∈ before := List.mem_of_getLast? hlast
  have hpending : last ∈ pending cfg latestBlock chain s := by
    rw [hsplit]
    exact List.mem_append_left _ hmemLast
  obtain ⟨hmem, -, -, ⟨-, hrange⟩, -⟩ := mem_pending.mp hpending
  have hsorted : (before ++ after).Pairwise Before := by
    rw [← hsplit, hfilter]
    exact hchain.ordered.sublist List.filter_sublist
  obtain ⟨hsortedBefore, -, hacross⟩ := List.pairwise_append.mp hsorted
  -- the logs after `last` are those later in the chain
  have hafter : after = (before ++ after).filter fun entry => decide (Before last entry) := by
    rw [List.filter_append, List.filter_eq_nil_iff.mpr, List.filter_eq_self.mpr, List.nil_append]
    · intro entry hentry
      exact decide_eq_true (hacross last hmemLast entry hentry)
    · intro entry hentry
      rw [decide_eq_true_eq]
      obtain ⟨front, rfl⟩ := List.getLast?_eq_some_iff.mp hlast
      rcases List.mem_append.mp hentry with hfront | hself
      · exact Before.asymm ((List.pairwise_append.mp hsortedBefore).2.2 entry hfront last (.head _))
      · obtain rfl := List.mem_singleton.mp hself
        exact Before.irrefl entry
  rw [← hsplit, hfilter, List.filter_filter] at hafter
  refine filter_eq_filter hfilter' hafter ?_
  intro entry hentry
  have hstart : startBlock cfg latestBlock s'.cursor = some last.blockNumber := by
    rw [hcursor, startBlock_some, if_neg]
    · rfl
    · show ¬latestBlock < last.blockNumber
      omega
  have hlater : entry ∈ after ↔ entry ∈ pending cfg latestBlock chain s ∧ Before last entry := by
    rw [hafter, hfilter]
    simp only [List.mem_filter, Bool.and_eq_true, decide_eq_true_eq]
    tauto
  rw [hlater, mem_pending, hcursor]
  have hskip := shouldSkip_positionOf hchain hmem hentry
  constructor
  · rintro ⟨-, fromBlock, hfrom, hbetween, hkept⟩
    rw [← hcursor, hstart] at hfrom
    obtain rfl := Option.some.inj hfrom
    rw [Bool.eq_false_iff, Ne, hskip] at hkept
    have hbefore : Before last entry := by
      unfold Before
      omega
    exact ⟨pending_later hchain hpending hentry hbefore hbetween.2, hbefore⟩
  · rintro ⟨hin, hbefore⟩
    obtain ⟨-, -, -, ⟨-, hle⟩, -⟩ := mem_pending.mp hin
    refine ⟨hentry, last.blockNumber, by rw [← hcursor]; exact hstart, ⟨?_, hle⟩, ?_⟩
    · unfold Before at hbefore
      omega
    · rw [Bool.eq_false_iff, Ne, hskip]
      unfold Before at hbefore
      omega

/-- Consecutive backfills of an unchanged chain. -/
def runs (cfg : Config) (latestBlock : Nat) (chain : List Log) : Nat → State → State
  | 0, s => s
  | n + 1, s => (backfill cfg latestBlock chain (runs cfg latestBlock chain n s)).1

/-- The logs that the backfills get through. -/
def reached (cfg : Config) (latestBlock : Nat) (chain : List Log) (s : State) : List Log :=
  applied cfg s.db (pending cfg latestBlock chain s)

theorem reached_known (latestBlock : Nat) (chain : List Log) (s : State) {entry : Log}
    (h : entry ∈ reached cfg latestBlock chain s) : foreign cfg s.db entry = false := by
  have hknown := List.mem_takeWhile_imp h
  simpa using hknown

theorem reached_pending (latestBlock : Nat) (chain : List Log) (s : State) {entry : Log}
    (h : entry ∈ reached cfg latestBlock chain s) : entry ∈ pending cfg latestBlock chain s :=
  (List.takeWhile_sublist _).subset h

theorem pending_split (cfg : Config) (latestBlock : Nat) (chain : List Log) (s : State) :
    pending cfg latestBlock chain s = reached cfg latestBlock chain s ++
      blocked cfg s.db (pending cfg latestBlock chain s) :=
  List.takeWhile_append_dropWhile.symm

/-- After one backfill the next one has the rest before it. -/
theorem pending_after {latestBlock : Nat} {chain : List Log} (hchain : History cfg chain)
    (s : State) :
    pending cfg latestBlock chain (processAll cfg s (reached cfg latestBlock chain s)) =
      blocked cfg s.db (pending cfg latestBlock chain s) := by
  have hsplit := pending_split cfg latestBlock chain s
  cases hlast : (reached cfg latestBlock chain s).getLast? with
  | none =>
    have hnil := List.getLast?_eq_none_iff.mp hlast
    rw [hnil, List.nil_append] at hsplit
    rw [hnil]
    exact hsplit
  | some last =>
    apply pending_resumes hchain hsplit hlast
    rw [processAll_cursor, hlast]
    rfl

/-- Nothing is left to a backfill whose first log is foreign. -/
theorem applied_blocked (db : Database) (entries : List Log) :
    applied cfg db (blocked cfg db entries) = [] := by
  unfold applied blocked
  rw [List.takeWhile_eq_nil_iff]
  intro hne
  exact List.dropWhile_get_zero_not _ entries hne

/-- However often the backfill runs, it gets to the first foreign log and no further. -/
theorem runs_eq {latestBlock : Nat} {chain : List Log} (hchain : History cfg chain) (s : State)
    (n : Nat) :
    runs cfg latestBlock chain (n + 1) s =
      processAll cfg s (reached cfg latestBlock chain s) := by
  induction n with
  | zero => exact congrArg Prod.fst (backfill_eq hchain s)
  | succ n ih =>
    have hsame : SameKeys s.db (processAll cfg s (reached cfg latestBlock chain s)).db := by
      apply (processAll_known _ fun entry => reached_known latestBlock chain s).1
      intro entry hentry
      exact hchain.emitted entry (mem_pending.mp (reached_pending latestBlock chain s hentry)).1
    show (backfill cfg latestBlock chain (runs cfg latestBlock chain (n + 1) s)).1 = _
    rw [ih, backfill_eq hchain, pending_after hchain, applied_congr hsame, applied_blocked]
    rfl

/-- The event of every log is stored, unless its order is unknown, and the cursor is at the
    last log. -/
def CaughtUp (cfg : Config) (entries : List Log) (s : State) : Prop :=
  (∀ entry ∈ entries, foreign cfg s.db entry = false → ∀ event, eventOf cfg entry = some event →
    ∃ row ∈ s.db.events, row.id = event.id) ∧
  ∀ last, entries.getLast? = some last → s.cursor = some (positionOf last)

/-- A cursor at a log of the chain skips it. -/
theorem cursor_ne_pending {latestBlock : Nat} {chain : List Log} (hchain : History cfg chain)
    {entry : Log} (h : entry ∈ pending cfg latestBlock chain s) :
    s.cursor ≠ some (positionOf entry) := by
  intro hcursor
  obtain ⟨hmem, -, -, -, hkept⟩ := mem_pending.mp h
  rw [hcursor, Bool.eq_false_iff, Ne, shouldSkip_positionOf hchain hmem hmem] at hkept
  exact hkept ⟨rfl, le_rfl⟩

/-- The backfills catch up only with logs that are all known. -/
theorem known_of_caughtUp {latestBlock : Nat} {chain : List Log} (hchain : History cfg chain)
    {n : Nat} (h : CaughtUp cfg (pending cfg latestBlock chain s) (runs cfg latestBlock chain n s)) :
    ∀ entry ∈ pending cfg latestBlock chain s, foreign cfg s.db entry = false := by
  have hsplit := pending_split cfg latestBlock chain s
  cases hblocked : blocked cfg s.db (pending cfg latestBlock chain s) with
  | nil =>
    intro entry hentry
    rw [hsplit, hblocked, List.append_nil] at hentry
    exact reached_known latestBlock chain s hentry
  | cons entry rest =>
    -- the last log is blocked, so no run has its position as its cursor
    obtain ⟨last, hlast⟩ : ∃ last, (entry :: rest).getLast? = some last :=
      ⟨_, List.getLast?_eq_some_getLast (List.cons_ne_nil entry rest)⟩
    have hmem : last ∈ entry :: rest := List.mem_of_getLast? hlast
    have hcursor : (runs cfg latestBlock chain n s).cursor = some (positionOf last) := by
      apply h.2 last
      rw [hsplit, hblocked, List.getLast?_append, hlast]
      rfl
    exfalso
    cases n with
    | zero =>
      have hpending : last ∈ pending cfg latestBlock chain s := by
        rw [hsplit, hblocked]
        exact List.mem_append_right _ hmem
      exact cursor_ne_pending hchain hpending hcursor
    | succ n =>
      rw [runs_eq hchain] at hcursor
      have hpending : last ∈ pending cfg latestBlock chain
          (processAll cfg s (reached cfg latestBlock chain s)) := by
        rw [pending_after hchain, hblocked]
        exact hmem
      exact cursor_ne_pending hchain hpending hcursor

/-- For every list of logs of the contract that the backfill finds, and every number of runs:
    they get exactly to the first foreign log, storing the event of each log before it and
    leaving the cursor at the last of these. So they catch up exactly if no log is foreign. -/
theorem backfills_stop_at_foreign {latestBlock : Nat} {chain : List Log}
    (hchain : History cfg chain) (s : State) :
    (∀ n, runs cfg latestBlock chain (n + 1) s =
      processAll cfg s (reached cfg latestBlock chain s)) ∧
    CaughtUp cfg (reached cfg latestBlock chain s)
      (processAll cfg s (reached cfg latestBlock chain s)) ∧
    ((∃ n, CaughtUp cfg (pending cfg latestBlock chain s) (runs cfg latestBlock chain n s)) ↔
      ∀ entry ∈ pending cfg latestBlock chain s, foreign cfg s.db entry = false) := by
  have hreached : CaughtUp cfg (reached cfg latestBlock chain s)
      (processAll cfg s (reached cfg latestBlock chain s)) := by
    have hemitted : ∀ entry ∈ reached cfg latestBlock chain s, Emitted cfg entry :=
      fun entry h => hchain.emitted entry (mem_pending.mp (reached_pending latestBlock chain s h)).1
    obtain ⟨-, -, hstored⟩ :=
      processAll_known hemitted fun entry => reached_known latestBlock chain s
    refine ⟨fun entry hentry _ => hstored entry hentry, ?_⟩
    intro last hlast
    rw [processAll_cursor, hlast]
    rfl
  refine ⟨runs_eq hchain s, hreached, ?_, ?_⟩
  · rintro ⟨n, h⟩
    exact known_of_caughtUp hchain h
  · intro hknown
    have hall : reached cfg latestBlock chain s = pending cfg latestBlock chain s := by
      apply List.takeWhile_eq_self_iff.mpr
      intro entry hentry
      rw [hknown entry hentry]
      rfl
    refine ⟨1, ?_⟩
    rw [runs_eq hchain, hall]
    rw [hall] at hreached
    exact hreached

/-! ## Concrete logs -/

namespace Example

/-- Any function that tells the two event signatures apart serves as the hash. -/
def config : Config where
  chainId := 1
  settlementAddress := 900
  backfillBlocks := 100
  keccak256 bytes := Fin.ofNat (2 ^ 256) bytes.length

/-- The execution of an order, in a block of its own. -/
def executedLog (orderHash : Bytes32) (blockNumber : Nat) : Log where
  address := 900
  topics := [orderExecutedTopic config, orderHash, 11]
  data := List.replicate 224 0
  blockNumber := blockNumber
  txHash := Fin.ofNat (2 ^ 256) blockNumber
  blockHash := Fin.ofNat (2 ^ 256) blockNumber
  index := 0
  removed := false

/-- The database of the other runs, which has the order 5 and no other, and no cursor yet. -/
def start : State := ⟨Backend.Example.created, none⟩

theorem executedLog_emitted (orderHash : Bytes32) (blockNumber : Nat) :
    Emitted config (executedLog orderHash blockNumber) := by
  refine ⟨rfl, rfl, ?_⟩
  intro topic name htopic hname
  obtain rfl : orderExecutedTopic config = topic := Option.some.inj htopic
  have hexecuted : name = .orderExecuted := by
    rw [eventNameByTopic, if_pos rfl] at hname
    exact (Option.some.inj hname).symm
  subst hexecuted
  obtain ⟨amounts, hamounts⟩ :
      ∃ amounts, decodeThreeUint256Offset (executedLog orderHash blockNumber).data 96 =
        some amounts := by
    have hlength : (executedLog orderHash blockNumber).data.length = 224 := List.length_replicate
    unfold decodeThreeUint256Offset
    rw [if_neg (by omega)]
    exact ⟨_, rfl⟩
  have hdecode : decodeLog config .orderExecuted (executedLog orderHash blockNumber) =
      (decodeThreeUint256Offset (executedLog orderHash blockNumber).data 96).map fun amounts =>
        { baseEvent config .orderExecuted (executedLog orderHash blockNumber) with
          orderHash := orderHash
          maker := topicAddress 11
          grossAmountOut := amounts.1
          recipientAmountOut := amounts.2.1
          executorFeeAmount := amounts.2.2 } := rfl
  rw [hdecode, hamounts]
  exact ⟨_, rfl⟩

theorem history_of_two {orderHash orderHash' : Bytes32} {blockNumber blockNumber' : Nat}
    (h : blockNumber < blockNumber') :
    History config [executedLog orderHash blockNumber, executedLog orderHash' blockNumber'] := by
  refine ⟨?_, ?_, ?_⟩
  · intro entry hentry
    rcases List.mem_pair.mp hentry with rfl | rfl
    · exact executedLog_emitted _ _
    · exact executedLog_emitted _ _
  · simp only [List.pairwise_cons, List.mem_singleton, forall_eq, List.not_mem_nil,
      false_implies, implies_true, List.Pairwise.nil, and_true]
    exact .inl h
  · intro entry hentry entry' hentry' hblock
    rcases List.mem_pair.mp hentry with rfl | rfl <;>
      rcases List.mem_pair.mp hentry' with rfl | rfl <;>
      exact congrArg (Fin.ofNat (2 ^ 256)) hblock

end Example

open Indexer.Example in
/-- The known order is executed in block 10, a foreign one in block 11: after three backfills the
    first event is stored and the cursor is at it. -/
theorem backfills_stop_at_foreign_after_known :
    let chain := [executedLog 5 10, executedLog 99 11]
    runs config 11 chain 3 start = processAll config start [executedLog 5 10] ∧
      CaughtUp config [executedLog 5 10] (processAll config start [executedLog 5 10]) := by
  intro chain
  have hreached : reached config 11 chain start = [executedLog 5 10] := by decide +kernel
  have hchain : History config chain := history_of_two (by decide)
  obtain ⟨hruns, hcaught, -⟩ := backfills_stop_at_foreign hchain start
  rw [← hreached]
  exact ⟨hruns 2, hcaught⟩

open Indexer.Example in
/-- A foreign order is executed in block 10, the known one in block 11: the event of the known
    one is not stored, however often the backfill runs. -/
theorem not_caughtUp_behind_foreign :
    let chain := [executedLog 99 10, executedLog 5 11]
    History config chain ∧ pending config 11 chain start = chain ∧
      foreign config start.db (executedLog 5 11) = false ∧
      ∀ n, (runs config 11 chain n start).db.events = [] ∧
        ¬CaughtUp config (pending config 11 chain start) (runs config 11 chain n start) := by
  intro chain
  have hchain : History config chain := history_of_two (by decide)
  have hpending : pending config 11 chain start = chain := by decide +kernel
  have hforeign : foreign config start.db (executedLog 99 10) = true := by decide +kernel
  have hreached : reached config 11 chain start = [] := by decide +kernel
  refine ⟨hchain, hpending, by decide +kernel, ?_⟩
  intro n
  constructor
  · cases n with
    | zero => rfl
    | succ n =>
      rw [runs_eq hchain, hreached]
      rfl
  · intro hcaught
    have hknown := known_of_caughtUp hchain hcaught (executedLog 99 10) (by rw [hpending]; exact .head _)
    rw [hforeign] at hknown
    cases hknown

end Indexer
