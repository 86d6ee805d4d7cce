-- SUMMARY: Without reorganisations the subscriber loses no log up to its cursor, as long as it handles none while earlier ones are in neither of its streams.
import FluxSwap.Indexer.Session

/-!
# No log is lost

A backfill reads from the cursor to the head, and a subscription delivers what is mined after
it has become active. What is mined in between is in neither stream, and so is what lies
before the window of a backfill without a cursor. As long as there are no such logs when the
cursor is moved, every log that is passed by the cursor has been applied.
-/

namespace Indexer

open Backend

/-! ## The statement -/

/-- The event of the log is stored, if it has a supported one. -/
def Applied (cfg : Config) (db : Database) (entry : Log) : Prop :=
  ∀ event ∈ eventOf cfg entry, ∃ row ∈ db.events, row.id = event.id

instance (cfg : Config) (db : Database) (entry : Log) : Decidable (Applied cfg db entry) :=
  inferInstanceAs (Decidable (∀ event ∈ eventOf cfg entry, ∃ row ∈ db.events, row.id = event.id))

/-- Every log after the origin and up to the stored cursor has been applied. -/
def NoLoss (cfg : Config) (s : Session) : Prop :=
  ∀ entry ∈ s.chain, ∀ origin ∈ s.origin, ∀ cursor ∈ s.tables.cursor,
    entry.After origin → ¬entry.After cursor.position → Applied cfg s.tables.db entry

instance (cfg : Config) (s : Session) : Decidable (NoLoss cfg s) :=
  inferInstanceAs (Decidable (∀ entry ∈ s.chain, ∀ origin ∈ s.origin, ∀ cursor ∈ s.tables.cursor,
    entry.After origin → ¬entry.After cursor.position → Applied cfg s.tables.db entry))

/-- The step is no reorganisation. -/
def Op.keepsChain : Op → Bool
  | .reorg _ _ _ _ => false
  | _ => true

/-- The logs that are in neither stream of the session. -/
def Session.unread (s : Session) : List Log :=
  match s.phase with
  | .replaying _ _ unread _ => unread
  | .live => (s.subscription.map Subscription.unread).getD []
  | _ => []

/-- The step is no reorganisation, and handles no log while one that has not been applied is in
    neither stream. -/
def Gapless (cfg : Config) (s : Session) : Op → Prop
  | .reorg _ _ _ _ => False
  | .handle => ∀ entry ∈ s.unread, Applied cfg s.tables.db entry
  | _ => True

instance (cfg : Config) (s : Session) : (op : Op) → Decidable (Gapless cfg s op)
  | .reorg _ _ _ _ => .isFalse id
  | .handle => inferInstanceAs (Decidable (∀ entry ∈ s.unread, Applied cfg s.tables.db entry))
  | .mine _ | .updateOrders _ | .dial | .blockNumber | .getPosition | .filterLogs | .finish
  | .interrupt | .subscribe | .tick | .disconnect => .isTrue trivial

/-! ## The invariant -/

/-- A log after the origin that has not been applied. -/
def Due (cfg : Config) (s : Session) (entry : Log) : Prop :=
  entry ∈ s.chain ∧ (∃ origin, s.origin = some origin ∧ entry.After origin) ∧
    ¬Applied cfg s.tables.db entry

/-- No log up to the cursor is due. -/
def Passed (due : Log → Prop) (head : Nat) (cursor : Option CursorPosition) : Prop :=
  ∀ c, cursor = some c → c.blockNumber ≤ head ∧ ∀ entry, due entry → entry.After c.position

/-- What the session has read so far, and what it has still to go through. -/
def PhaseOk (due : Log → Prop) (s : Session) : Prop :=
  match s.phase with
  | .latest latestBlock =>
    latestBlock ≤ s.head ∧ ∀ c, s.tables.cursor = some c → c.blockNumber ≤ latestBlock
  | .starting fromBlock cursor unread =>
    s.origin.isSome ∧ fromBlock ≤ s.head ∧ Passed due s.head cursor ∧
      ∀ entry, due entry → entry.blockNumber < fromBlock → entry ∈ unread
  | .range fromBlock latestBlock cursor unread =>
    s.origin.isSome ∧ latestBlock ≤ s.head ∧ fromBlock ≤ latestBlock ∧ Passed due s.head cursor ∧
      (∀ entry, due entry → entry.blockNumber < fromBlock → entry ∈ unread) ∧
      ∀ subscription, s.subscription = some subscription →
        ∀ entry ∈ subscription.unread, entry.blockNumber ≤ latestBlock
  | .replaying latestBlock cursor unread rest =>
    s.origin.isSome ∧ latestBlock ≤ s.head ∧ Passed due s.head cursor ∧
      (∀ entry, due entry → entry.blockNumber ≤ latestBlock → entry ∈ unread ∨ entry ∈ rest) ∧
      (rest.Pairwise Before ∧
        ∀ entry ∈ rest, entry ∈ s.chain ∧ entry.blockNumber ≤ latestBlock) ∧
      ∀ subscription, s.subscription = some subscription →
        ∀ entry ∈ subscription.unread, entry.blockNumber ≤ latestBlock
  | .filled latestBlock unread =>
    ∀ block, latestBlock = some block →
      block ≤ s.head ∧ ∀ entry, due entry → entry.blockNumber ≤ block → entry ∈ unread
  | _ => True

/-- Every log that is due will be delivered or is unread. -/
structure SubscriptionOk (due : Log → Prop) (chain : List Log) (head : Nat)
    (subscription : Subscription) : Prop where
  due : ∀ entry, due entry → entry ∈ subscription.unread ∨ entry ∈ subscription.queue
  ordered : subscription.queue.Pairwise Before
  queue : ∀ entry ∈ subscription.queue, entry ∈ chain
  unread : ∀ entry ∈ subscription.unread, entry.blockNumber ≤ head

/-- The logs that a backfill has not read. -/
def Phase.unread : Phase → List Log
  | .starting _ _ unread | .range _ _ _ unread | .replaying _ _ unread _ | .filled _ unread => unread
  | _ => []

structure Indexed (cfg : Config) (s : Session) : Prop where
  history : History cfg s.chain
  mined : ∀ entry ∈ s.chain, entry.blockNumber ≤ s.head
  unread : ∀ entry ∈ s.phase.unread, entry.blockNumber ≤ s.head
  started : s.origin = none → s.subscription = none ∧ s.tables.cursor = none
  passed : Passed (Due cfg s) s.head s.tables.cursor
  phase : PhaseOk (Due cfg s) s
  subscription : ∀ subscription, s.subscription = some subscription →
    SubscriptionOk (Due cfg s) s.chain s.head subscription

section Steps

variable {cfg : Config} {s s' : Session} {entry : Log}

theorem Indexed.noLoss (h : Indexed cfg s) : NoLoss cfg s := by
  intro entry hentry origin horigin cursor hcursor hafter hpassed
  by_contra hnot
  exact hpassed ((h.passed cursor hcursor).2 entry ⟨hentry, ⟨origin, horigin, hafter⟩, hnot⟩)

theorem Due.isSome (h : Due cfg s entry) : (eventOf cfg entry).isSome = true := by
  obtain ⟨-, -, hnot⟩ := h
  rw [Option.isSome_iff_ne_none]
  intro hnone
  exact hnot fun event hevent => absurd (hnone.symm.trans hevent) nofun

/-- What is due in some blocks is among their logs. -/
theorem Due.mem_logsIn (h : Due cfg s entry) (before : Session) (hchain : s.chain = before.chain)
    {origin : Position} (horigin : s.origin = some origin) {blocks : Nat → Bool}
    (hblocks : blocks entry.blockNumber = true) : entry ∈ before.logsIn cfg origin blocks := by
  obtain ⟨hmem, ⟨origin', horigin', hafter⟩, -⟩ := id h
  obtain rfl : origin' = origin := Option.some.inj (horigin'.symm.trans horigin)
  refine List.mem_filter.mpr ⟨hchain ▸ hmem, ?_⟩
  rw [Bool.and_eq_true, Bool.and_eq_true]
  exact ⟨⟨decide_eq_true hafter, h.isSome⟩, hblocks⟩

theorem Passed.mono {due due' : Log → Prop} {head : Nat} {cursor : Option CursorPosition}
    (h : Passed due head cursor) (hdue : ∀ entry, due' entry → due entry) :
    Passed due' head cursor := fun c hc =>
  ⟨(h c hc).1, fun entry hentry => (h c hc).2 entry (hdue entry hentry)⟩

theorem Applied.mono {db db' : Database} (h : Applied cfg db entry)
    (hevents : ∀ row ∈ db.events, row ∈ db'.events) : Applied cfg db' entry := by
  intro event hevent
  obtain ⟨row, hrow, hid⟩ := h event hevent
  exact ⟨row, hevents row hrow, hid⟩

theorem positionOf_position (entry : Log) :
    (positionOf entry).position = ⟨entry.blockNumber, entry.index⟩ := rfl

theorem Before.after {entry' : Log} (h : Before entry entry') :
    entry'.After (positionOf entry).position := by
  rw [positionOf_position]
  unfold Before at h
  unfold Log.After
  dsimp only
  omega

/-- A log that has been handled has been applied, and the cursor is at it. -/
theorem handleLog_ok (hemitted : Emitted cfg entry) {t t' : State}
    (h : handleLog cfg t entry = .ok t') :
    t'.cursor = some (positionOf entry) ∧ (∀ row ∈ t.db.events, row ∈ t'.db.events) ∧
      Applied cfg t'.db entry := by
  cases hforeign : foreign cfg t.db entry with
  | true =>
    rw [handleLog_foreign hemitted hforeign] at h
    cases h
  | false =>
    obtain ⟨hhandle, -, hkeeps, hstored⟩ := handleLog_known hemitted hforeign
    rw [hhandle] at h
    obtain rfl := Except.ok.inj h
    exact ⟨rfl, hkeeps, hstored⟩

theorem store_events (hemitted : Emitted cfg entry) (db : Database) :
    ∀ row ∈ db.events, row ∈ (store cfg db entry).events := by
  cases hforeign : foreign cfg db entry with
  | true =>
    have hsame : store cfg db entry = db := by
      unfold store
      unfold foreign at hforeign
      cases hevent : eventOf cfg entry with
      | none => rfl
      | some event =>
        simp only [hevent, Bool.and_eq_true, decide_eq_true_eq, Option.isNone_iff_eq_none]
          at hforeign
        simp only [applyEvent_foreign (eventOf_kept hemitted hevent) hforeign.1 hforeign.2]
    rw [hsame]
    exact fun _ => id
  | false => exact (handleLog_known (s := ⟨db, none⟩) hemitted hforeign).2.2.1

theorem SubscriptionOk.mono {due due' : Log → Prop} {chain : List Log} {head : Nat}
    {subscription : Subscription} (h : SubscriptionOk due chain head subscription)
    (hdue : ∀ entry, due' entry → due entry) : SubscriptionOk due' chain head subscription :=
  ⟨fun entry hentry => h.due entry (hdue entry hentry), h.ordered, h.queue, h.unread⟩

theorem due_of_tables {t : State} (hevents : ∀ row ∈ s.tables.db.events, row ∈ t.db.events)
    (h : Due cfg { s with tables := t } entry) : Due cfg s entry :=
  ⟨h.1, h.2.1, fun happlied => h.2.2 (happlied.mono hevents)⟩

/-- A step that only moves the session on. -/
theorem Indexed.withPhase (h : Indexed cfg s) (phase : Phase)
    (hunread : ∀ entry ∈ phase.unread, entry.blockNumber ≤ s.head)
    (hphase : PhaseOk (Due cfg s) { s with phase := phase }) :
    Indexed cfg { s with phase := phase } :=
  ⟨h.history, h.mined, hunread, h.started, h.passed, hphase, h.subscription⟩

/-- The session is over; the events may have grown. -/
theorem Indexed.ended_of_events (h : Indexed cfg s) (db : Database)
    (hevents : ∀ row ∈ s.tables.db.events, row ∈ db.events) :
    Indexed cfg { s with tables := { s.tables with db := db } }.ended where
  history := h.history
  mined := h.mined
  unread := nofun
  started := fun horigin => ⟨rfl, (h.started horigin).2⟩
  passed := h.passed.mono fun _ => due_of_tables (t := { s.tables with db := db }) hevents
  phase := trivial
  subscription := nofun

theorem Indexed.ended (h : Indexed cfg s) : Indexed cfg s.ended :=
  h.ended_of_events s.tables.db fun _ => id

/-! ## Steps of the chain -/

/-- What is due above the head was never to be read. -/
theorem Passed.grows {due due' : Log → Prop} {head head' : Nat} {cursor : Option CursorPosition}
    (h : Passed due head cursor) (hhead : head ≤ head')
    (hdue : ∀ entry, due' entry → due entry ∨ head < entry.blockNumber) :
    Passed due' head' cursor := by
  intro c hc
  obtain ⟨hle, hafter⟩ := h c hc
  refine ⟨hle.trans hhead, fun entry hentry => ?_⟩
  rcases hdue entry hentry with hentry | habove
  · exact hafter entry hentry
  · exact .inl (hle.trans_lt habove)

/-- New blocks, and the subscription takes their logs up. -/
theorem PhaseOk.grows {due due' : Log → Prop} {head : Nat} {logs : List Log}
    (h : PhaseOk due s) (hhead : s.head ≤ head)
    (hdue : ∀ entry, due' entry → due entry ∨ s.head < entry.blockNumber) :
    PhaseOk due'
      { s with head := head, chain := s.chain ++ logs, subscription := s.deliver logs } := by
  have hbound : ∀ latestBlock, (∀ subscription, s.subscription = some subscription →
        ∀ entry ∈ subscription.unread, entry.blockNumber ≤ latestBlock) →
      ∀ subscription, s.deliver logs = some subscription →
        ∀ entry ∈ subscription.unread, entry.blockNumber ≤ latestBlock := by
    intro latestBlock hle subscription hsubscription
    obtain ⟨subscription', hsubscription', rfl⟩ := Option.map_eq_some_iff.mp hsubscription
    exact hle subscription' hsubscription'
  -- new logs are above the head, so what is due below it was due before
  have hbelow : ∀ entry, due' entry → entry.blockNumber ≤ s.head → due entry := by
    intro entry hentry hle
    exact (hdue entry hentry).resolve_right (Nat.not_lt.mpr hle)
  unfold PhaseOk at h ⊢
  cases hphase : s.phase with
  | down | dialed | live => trivial
  | latest latestBlock =>
    simp only [hphase] at h ⊢
    exact ⟨h.1.trans hhead, h.2⟩
  | starting fromBlock cursor unread =>
    simp only [hphase] at h ⊢
    obtain ⟨horigin, hfrom, hpassed, hbefore⟩ := h
    exact ⟨horigin, hfrom.trans hhead, hpassed.grows hhead hdue, fun entry hentry hlt =>
      hbefore entry (hbelow entry hentry (hlt.le.trans hfrom)) hlt⟩
  | range fromBlock latestBlock cursor unread =>
    simp only [hphase] at h ⊢
    obtain ⟨horigin, hlatest, hfrom, hpassed, hbefore, hsubscription⟩ := h
    exact ⟨horigin, hlatest.trans hhead, hfrom, hpassed.grows hhead hdue, fun entry hentry hlt =>
      hbefore entry (hbelow entry hentry (by omega)) hlt, hbound latestBlock hsubscription⟩
  | replaying latestBlock cursor unread rest =>
    simp only [hphase] at h ⊢
    obtain ⟨horigin, hlatest, hpassed, hread, ⟨hordered, hrest⟩, hsubscription⟩ := h
    refine ⟨horigin, hlatest.trans hhead, hpassed.grows hhead hdue, fun entry hentry hle =>
      hread entry (hbelow entry hentry (hle.trans hlatest)) hle, ⟨hordered, fun entry hentry => ?_⟩,
      hbound latestBlock hsubscription⟩
    exact ⟨List.mem_append_left logs (hrest entry hentry).1, (hrest entry hentry).2⟩
  | filled latestBlock unread =>
    simp only [hphase] at h ⊢
    intro block hblock
    obtain ⟨hle, hread⟩ := h block hblock
    exact ⟨hle.trans hhead, fun entry hentry hentryLe =>
      hread entry (hbelow entry hentry (hentryLe.trans hle)) hentryLe⟩

/-- A chain to which the logs of the next block have been added. -/
theorem History.append {chain logs : List Log} {head : Nat} (h : History cfg chain)
    (hmined : ∀ entry ∈ chain, entry.blockNumber ≤ head)
    (hnew : NewLogs cfg head (head + 1) logs) : History cfg (chain ++ logs) := by
  obtain ⟨hlogs, hordered, hblocks⟩ := hnew
  have hlater : ∀ entry ∈ chain, ∀ entry' ∈ logs, entry.blockNumber < entry'.blockNumber :=
    fun entry hentry entry' hentry' => (hmined entry hentry).trans_lt (hlogs entry' hentry').2.1
  refine ⟨?_, ?_, ?_⟩
  · intro entry hentry
    exact (List.mem_append.mp hentry).elim (h.emitted entry) fun hentry => (hlogs entry hentry).1
  · exact List.pairwise_append.mpr ⟨h.ordered, hordered, fun entry hentry entry' hentry' =>
      .inl (hlater entry hentry entry' hentry')⟩
  · intro entry hentry entry' hentry' hsame
    rcases List.mem_append.mp hentry with hentry | hentry <;>
      rcases List.mem_append.mp hentry' with hentry' | hentry'
    · exact h.blocks entry hentry entry' hentry' hsame
    · exact absurd hsame (hlater entry hentry entry' hentry').ne
    · exact absurd hsame.symm (hlater entry' hentry' entry hentry).ne
    · exact hblocks entry hentry entry' hentry' hsame

/-- New blocks bring new logs that are due, all above the head. -/
theorem Indexed.mine {logs : List Log} (h : Indexed cfg s) (hs : s.mine cfg logs = some s') :
    Indexed cfg s' := by
  unfold Session.mine at hs
  split at hs
  · rename_i hnew
    obtain rfl := Option.some.inj hs
    have habove : ∀ entry ∈ logs, s.head < entry.blockNumber := fun entry hentry =>
      (hnew.1 entry hentry).2.1
    have hdue : ∀ entry, Due cfg { s with
        head := s.head + 1, chain := s.chain ++ logs, subscription := s.deliver logs } entry →
        Due cfg s entry ∨ entry ∈ logs := by
      rintro entry ⟨hmem, horigin, hnot⟩
      exact (List.mem_append.mp hmem).imp_left fun hmem => ⟨hmem, horigin, hnot⟩
    have hdue' := fun entry hentry => (hdue entry hentry).imp_right (habove entry)
    refine ⟨h.history.append h.mined hnew, ?_, ?_, ?_, h.passed.grows (Nat.le_succ _) hdue',
      h.phase.grows (Nat.le_succ _) hdue', ?_⟩
    · intro entry hentry
      rcases List.mem_append.mp hentry with hentry | hentry
      · exact (h.mined entry hentry).trans (Nat.le_succ _)
      · exact (hnew.1 entry hentry).2.2
    · exact fun entry hentry => (h.unread entry hentry).trans (Nat.le_succ _)
    · intro horigin
      obtain ⟨hnone, hcursor⟩ := h.started horigin
      refine ⟨?_, hcursor⟩
      show s.deliver logs = none
      rw [Session.deliver, hnone]
      rfl
    · intro subscription hsubscription
      obtain ⟨old, hold, rfl⟩ := Option.map_eq_some_iff.mp hsubscription
      obtain ⟨hread, hordered, hqueue, hunread⟩ := h.subscription old hold
      refine ⟨?_, ?_, ?_, fun entry hentry => (hunread entry hentry).trans (Nat.le_succ _)⟩
      · intro entry hentry
        rcases hdue entry hentry with hentry | hentry
        · exact (hread entry hentry).imp_right (List.mem_append_left logs)
        · exact .inr (List.mem_append_right old.queue hentry)
      · exact List.pairwise_append.mpr ⟨hordered, hnew.2.1, fun entry hentry entry' hentry' =>
          .inl ((h.mined entry (hqueue entry hentry)).trans_lt (habove entry' hentry'))⟩
      · intro entry hentry
        exact List.mem_append.mpr ((List.mem_append.mp hentry).imp_left (hqueue entry))
  · cases hs

/-- Changes of the orders do not touch the events. -/
theorem Indexed.updateOrders (h : Indexed cfg s) (orders : OrderKey → Option Order) :
    Indexed cfg { s with tables := { s.tables with db := { s.tables.db with orders := orders } } } :=
  ⟨h.history, h.mined, h.unread, h.started, h.passed, h.phase, h.subscription⟩

/-! ## Steps of a backfill -/

/-- A backfill that returns leaves what it has not read, and a subscription that is active
    delivers the rest. -/
theorem Indexed.filled (h : Indexed cfg s) {latestBlock : Option Nat} {unread : List Log}
    (hunread : ∀ entry ∈ unread, entry.blockNumber ≤ s.head)
    (hread : ∀ block, latestBlock = some block →
      block ≤ s.head ∧ ∀ entry, Due cfg s entry → entry.blockNumber ≤ block → entry ∈ unread)
    (hbound : ∀ block, latestBlock = some block → ∀ subscription,
      s.subscription = some subscription → ∀ entry ∈ subscription.unread, entry.blockNumber ≤ block) :
    Indexed cfg (s.filled latestBlock unread) := by
  unfold Session.filled
  split
  · exact h.withPhase _ hunread hread
  · rename_i subscription hsubscription
    obtain ⟨hdue, hordered, hqueue, hold⟩ := h.subscription subscription hsubscription
    refine ⟨h.history, h.mined, nofun, fun horigin => ?_, h.passed, trivial, ?_⟩
    · exact absurd ((h.started horigin).1.symm.trans hsubscription) nofun
    rintro _ ⟨⟩
    cases latestBlock with
    | none => exact ⟨hdue, hordered, hqueue, hold⟩
    | some block =>
      refine ⟨fun entry hentry => ?_, hordered, hqueue, hunread⟩
      by_cases hle : entry.blockNumber ≤ block
      · exact .inl ((hread block rfl).2 entry hentry hle)
      · exact .inr ((hdue entry hentry).resolve_left fun hmem =>
          hle (hbound block rfl subscription hsubscription entry hmem))

theorem Indexed.blockNumber (h : Indexed cfg s) (hs : s.blockNumber = some s') :
    Indexed cfg s' := by
  have hphase := h.phase
  unfold Session.blockNumber at hs
  split at hs
  · obtain rfl := Option.some.inj hs
    exact h.withPhase _ nofun ⟨le_rfl, fun c hc => (h.passed c hc).1⟩
  · rename_i fromBlock cursor unread heq
    simp only [PhaseOk, heq] at hphase
    obtain ⟨horigin, hfrom, hpassed, hbefore⟩ := hphase
    rw [if_neg (Nat.not_lt.mpr hfrom)] at hs
    obtain rfl := Option.some.inj hs
    have hunread := h.unread
    rw [heq] at hunread
    exact h.withPhase _ hunread ⟨horigin, le_rfl, hfrom, hpassed, hbefore, fun subscription hsubscription =>
      (h.subscription subscription hsubscription).unread⟩
  · cases hs

theorem Indexed.filterLogs (h : Indexed cfg s) (hs : s.filterLogs = some s') :
    Indexed cfg s' := by
  have hphase := h.phase
  unfold Session.filterLogs at hs
  split at hs
  · rename_i fromBlock latestBlock cursor unread heq
    simp only [PhaseOk, heq] at hphase
    obtain ⟨horigin, hlatest, -, hpassed, hbefore, hsubscription⟩ := hphase
    obtain rfl := Option.some.inj hs
    have hunread := h.unread
    rw [heq] at hunread
    refine h.withPhase _ hunread ⟨horigin, hlatest, hpassed, fun entry hentry hle => ?_,
      ⟨h.history.ordered.sublist List.filter_sublist, fun entry hentry => ?_⟩, hsubscription⟩
    · by_cases hlt : entry.blockNumber < fromBlock
      · exact .inl (hbefore entry hentry hlt)
      · exact .inr (List.mem_filter.mpr
          ⟨hentry.1, decide_eq_true ⟨Nat.not_lt.mp hlt, hle⟩⟩)
    · obtain ⟨hmem, hrange⟩ := List.mem_filter.mp hentry
      exact ⟨hmem, (of_decide_eq_true hrange).2⟩
  · cases hs

theorem Indexed.finish (h : Indexed cfg s) (hs : s.finish = some s') : Indexed cfg s' := by
  have hphase := h.phase
  unfold Session.finish at hs
  split at hs
  · rename_i latestBlock cursor unread heq
    simp only [PhaseOk, heq] at hphase
    obtain ⟨-, hlatest, -, hread, -, hsubscription⟩ := hphase
    obtain rfl := Option.some.inj hs
    have hunread := h.unread
    rw [heq] at hunread
    refine h.filled hunread ?_ ?_
    · rintro _ ⟨⟩
      exact ⟨hlatest, fun entry hentry hle =>
        (hread entry hentry hle).resolve_right List.not_mem_nil⟩
    · rintro _ ⟨⟩
      exact hsubscription
  · cases hs

/-- With an origin, setting it anew changes nothing; without one, nothing is due and there is
    neither a cursor nor a subscription. -/
theorem Indexed.withOrigin (h : Indexed cfg s) (origin : Position) :
    (Passed (Due cfg { s with origin := some (s.origin.getD origin) }) s.head s.tables.cursor) ∧
      ∀ subscription, s.subscription = some subscription →
        SubscriptionOk (Due cfg { s with origin := some (s.origin.getD origin) }) s.chain s.head
          subscription := by
  cases horigin : s.origin with
  | none =>
    obtain ⟨hnone, hcursor⟩ := h.started horigin
    rw [hnone, hcursor]
    exact ⟨nofun, nofun⟩
  | some origin' =>
    rw [Option.getD_some, ← horigin]
    exact ⟨h.passed, h.subscription⟩

theorem Indexed.getPosition (h : Indexed cfg s) (hs : s.getPosition cfg = some s') :
    Indexed cfg s' := by
  have hphase := h.phase
  unfold Session.getPosition at hs
  split at hs
  · rename_i latestBlock heq
    simp only [PhaseOk, heq] at hphase
    obtain ⟨hlatest, hcursor⟩ := hphase
    split at hs
    · obtain rfl := Option.some.inj hs
      exact h.filled nofun nofun nofun
    · rename_i c hc hstart
      rw [hc, startBlock_some, if_neg (Nat.not_lt.mpr (hcursor c hc))] at hstart
      cases hstart
    · rename_i c fromBlock hc hstart
      obtain rfl := Option.some.inj hs
      rw [hc, startBlock_some, if_neg (Nat.not_lt.mpr (hcursor c hc))] at hstart
      obtain rfl := Option.some.inj hstart
      have horigin : s.origin.isSome := Option.isSome_iff_ne_none.mpr fun hnone =>
        absurd (hc.symm.trans (h.started hnone).2) nofun
      refine h.withPhase _ nofun ⟨horigin, (hcursor c hc).trans hlatest, hc ▸ h.passed, ?_⟩
      intro entry hentry hlt
      have hafter := (h.passed c hc).2 entry hentry
      unfold Log.After CursorPosition.position at hafter
      dsimp only at hafter
      omega
    · rename_i fromBlock hc hstart
      obtain rfl := Option.some.inj hs
      obtain ⟨hpassed, hsubscription⟩ := h.withOrigin ⟨fromBlock, -1⟩
      refine ⟨h.history, h.mined, fun entry hentry => ?_, nofun, hpassed,
        ⟨rfl, (startBlock_le hstart).trans hlatest, nofun, ?_⟩, hsubscription⟩
      · exact h.mined entry (List.mem_of_mem_filter hentry)
      · intro entry hentry hlt
        exact hentry.mem_logsIn s rfl rfl (decide_eq_true hlt)
  · cases hs

/-- Nothing is due after an origin above the head. -/
theorem Indexed.due_of_origin (h : Indexed cfg s)
    (hentry : Due cfg { s with origin := some (s.origin.getD ⟨s.head + 1, -1⟩) } entry) :
    Due cfg s entry := by
  cases horigin : s.origin with
  | some origin =>
    rwa [horigin, Option.getD_some, ← horigin] at hentry
  | none =>
    rw [horigin, Option.getD_none] at hentry
    obtain ⟨hmem, ⟨origin, horigin', hafter⟩, -⟩ := hentry
    obtain rfl := Option.some.inj horigin'
    have hle := h.mined entry hmem
    unfold Log.After at hafter
    dsimp only at hafter
    omega

theorem Indexed.subscribe (h : Indexed cfg s) (hs : s.subscribe cfg = some s') :
    Indexed cfg s' := by
  have hphase := h.phase
  unfold Session.subscribe at hs
  split at hs
  · rename_i latestBlock unread heq
    simp only [PhaseOk, heq] at hphase
    have hunread := h.unread
    rw [heq] at hunread
    obtain rfl := Option.some.inj hs
    obtain ⟨hpassed, -⟩ := h.withOrigin ⟨s.head + 1, -1⟩
    refine ⟨h.history, h.mined, nofun, nofun, hpassed, trivial, ?_⟩
    rintro _ ⟨⟩
    refine ⟨fun entry hentry => .inl ?_, .nil, nofun, fun entry hentry => ?_⟩
    · rw [List.mem_append, or_iff_not_imp_left]
      intro hread
      refine hentry.mem_logsIn s rfl rfl ?_
      refine (Option.all_eq_true _ _).mpr fun block hblock => ?_
      refine decide_eq_true (Nat.lt_of_not_le fun hle => hread ?_)
      exact (hphase block hblock).2 entry (h.due_of_origin hentry) hle
    · rcases List.mem_append.mp hentry with hentry | hentry
      · exact hunread entry hentry
      · exact h.mined entry (List.mem_of_mem_filter hentry)
  · cases hs

/-! ## Handling a log -/

/-- A log that is next in order is handled, and what is due comes after it. -/
theorem Indexed.handled_due (h : Indexed cfg s) (hmem : entry ∈ s.chain) {t : State}
    (ht : handleLog cfg s.tables entry = .ok t) {entry' : Log}
    (hdue : Due cfg { s with tables := t } entry') : Due cfg s entry' ∧ entry' ≠ entry := by
  obtain ⟨-, hevents, happlied⟩ := handleLog_ok (h.history.emitted entry hmem) ht
  refine ⟨due_of_tables hevents hdue, ?_⟩
  rintro rfl
  exact hdue.2.2 happlied

/-- The cursor at a log that has been handled, where what is due comes after it. -/
theorem Indexed.handled_passed (h : Indexed cfg s) (hmem : entry ∈ s.chain) {t : State}
    (ht : handleLog cfg s.tables entry = .ok t)
    (hafter : ∀ entry', Due cfg s entry' → entry' ≠ entry → Before entry entry') :
    Passed (Due cfg { s with tables := t }) s.head t.cursor := by
  intro c hc
  obtain ⟨hcursor, -, -⟩ := handleLog_ok (h.history.emitted entry hmem) ht
  obtain rfl : c = positionOf entry := Option.some.inj (hc.symm.trans hcursor)
  refine ⟨h.mined entry hmem, fun entry' hentry' => ?_⟩
  obtain ⟨hdue, hne⟩ := h.handled_due hmem ht hentry'
  exact (hafter entry' hdue hne).after

/-- A log of the range is handled: what is due of the range is in the rest of it. -/
theorem Indexed.handle_replaying (h : Indexed cfg s) {latestBlock : Nat}
    {cursor : Option CursorPosition} {unread rest : List Log}
    (heq : s.phase = .replaying latestBlock cursor unread (entry :: rest))
    (hgapless : ∀ entry ∈ unread, Applied cfg s.tables.db entry) {t : State}
    (ht : handleLog cfg s.tables entry = .ok t) :
    Indexed cfg { s with phase := .replaying latestBlock cursor unread rest, tables := t } := by
  have hphase := h.phase
  have hunread := h.unread
  rw [heq] at hunread
  simp only [PhaseOk, heq] at hphase
  obtain ⟨horigin, hlatest, hpassed, hread, ⟨hordered, hrest⟩, hbound⟩ := hphase
  obtain ⟨hfirst, hordered⟩ := List.pairwise_cons.mp hordered
  obtain ⟨hmem, hle⟩ := hrest entry List.mem_cons_self
  have hdue : ∀ entry', Due cfg { s with tables := t } entry' → Due cfg s entry' ∧ entry' ≠ entry :=
    fun _ => h.handled_due hmem ht
  have htail : ∀ entry', Due cfg s entry' → entry' ≠ entry → entry'.blockNumber ≤ latestBlock →
      entry' ∈ rest := by
    intro entry' hentry' hne hle'
    have hmem' := (hread entry' hentry' hle').resolve_left fun hmem =>
      hentry'.2.2 (hgapless entry' hmem)
    exact (List.mem_cons.mp hmem').resolve_left hne
  refine ⟨h.history, h.mined, hunread, fun hnone => ?_, h.handled_passed hmem ht ?_,
    ⟨horigin, hlatest, hpassed.mono fun _ hentry' => (hdue _ hentry').1, ?_,
      ⟨hordered, fun entry' hentry' => hrest entry' (List.mem_cons_of_mem _ hentry')⟩, hbound⟩,
    fun subscription hsubscription => (h.subscription subscription hsubscription).mono
      fun _ hentry' => (hdue _ hentry').1⟩
  · rw [show s.origin = none from hnone] at horigin
    cases horigin
  · intro entry' hentry' hne
    by_cases hle' : entry'.blockNumber ≤ latestBlock
    · exact hfirst entry' (htail entry' hentry' hne hle')
    · exact .inl (hle.trans_lt (Nat.lt_of_not_le hle'))
  · intro entry' hentry' hle'
    exact .inr (htail entry' (hdue _ hentry').1 (hdue _ hentry').2 hle')

/-- A log that the cursor was past is passed over. -/
theorem Indexed.skip (h : Indexed cfg s) {latestBlock : Nat} {cursor : Option CursorPosition}
    {unread rest : List Log} (heq : s.phase = .replaying latestBlock cursor unread (entry :: rest))
    (hskip : shouldSkipEntry cursor entry = true) :
    Indexed cfg { s with phase := .replaying latestBlock cursor unread rest } := by
  have hphase := h.phase
  have hunread := h.unread
  simp only [PhaseOk, heq] at hphase
  rw [heq] at hunread
  obtain ⟨horigin, hlatest, hpassed, hread, ⟨hordered, hrest⟩, hbound⟩ := hphase
  have hnotDue : ¬Due cfg s entry := by
    intro hdue
    cases cursor with
    | none => cases hskip
    | some c =>
      have hafter := (hpassed c rfl).2 entry hdue
      simp only [shouldSkipEntry, Bool.and_eq_true, decide_eq_true_eq] at hskip
      unfold Log.After CursorPosition.position at hafter
      dsimp only at hafter
      omega
  refine h.withPhase _ hunread ⟨horigin, hlatest, hpassed, fun entry' hentry' hle => ?_,
    ⟨(List.pairwise_cons.mp hordered).2, fun entry' hentry' =>
      hrest entry' (List.mem_cons_of_mem _ hentry')⟩, hbound⟩
  refine (hread entry' hentry' hle).imp_right fun hmem => (List.mem_cons.mp hmem).resolve_left ?_
  rintro rfl
  exact hnotDue hentry'

/-- A log that the subscription delivers is handled: what is due is in the rest of it. -/
theorem Indexed.handle_live (h : Indexed cfg s) (hlive : s.phase = .live) {queue unread : List Log}
    (heq : s.subscription = some ⟨entry :: queue, unread⟩)
    (hgapless : ∀ entry ∈ unread, Applied cfg s.tables.db entry) {t : State}
    (ht : handleLog cfg s.tables entry = .ok t) :
    Indexed cfg { s with subscription := some ⟨queue, unread⟩, tables := t } := by
  obtain ⟨hread, hordered, hqueue, hunread⟩ := h.subscription _ heq
  obtain ⟨hfirst, hordered⟩ := List.pairwise_cons.mp hordered
  have hmem := hqueue entry List.mem_cons_self
  have hdue : ∀ entry', Due cfg { s with tables := t } entry' → Due cfg s entry' ∧ entry' ≠ entry :=
    fun _ => h.handled_due hmem ht
  have htail : ∀ entry', Due cfg s entry' → entry' ≠ entry → entry' ∈ queue := by
    intro entry' hentry' hne
    have hmem' := (hread entry' hentry').resolve_left fun hmem => hentry'.2.2 (hgapless entry' hmem)
    exact (List.mem_cons.mp hmem').resolve_left hne
  refine ⟨h.history, h.mined, h.unread, fun hnone => ?_, h.handled_passed hmem ht
    fun entry' hentry' hne => hfirst entry' (htail entry' hentry' hne), ?_, ?_⟩
  · exact absurd ((h.started hnone).1.symm.trans heq) nofun
  · simp only [PhaseOk, hlive]
  · rintro _ ⟨⟩
    exact ⟨fun entry' hentry' => .inr (htail entry' (hdue _ hentry').1 (hdue _ hentry').2), hordered,
      fun entry' hentry' => hqueue entry' (List.mem_cons_of_mem _ hentry'), hunread⟩

theorem Indexed.handle (h : Indexed cfg s)
    (hgapless : ∀ entry ∈ s.unread, Applied cfg s.tables.db entry)
    (hs : s.handle cfg = some s') : Indexed cfg s' := by
  unfold Session.unread at hgapless
  unfold Session.handle at hs
  split at hs
  · rename_i latestBlock cursor unread entry rest heq
    simp only [heq] at hgapless
    split at hs <;> obtain rfl := Option.some.inj hs
    · exact h.skip heq ‹_›
    · unfold Session.handled
      split
      · exact h.handle_replaying heq hgapless ‹_›
      · exact h.ended
  · rename_i entry queue unread hlive hsubscription
    simp only [hlive, hsubscription, Option.map_some, Option.getD_some] at hgapless
    obtain rfl := Option.some.inj hs
    unfold Session.handled
    split
    · exact h.handle_live hlive hsubscription hgapless ‹_›
    · exact h.ended
  · cases hs

/-- A session that fails between the event and the cursor leaves the cursor behind. -/
theorem Indexed.interrupt (h : Indexed cfg s) (hs : s.interrupt cfg = some s') :
    Indexed cfg s' := by
  have hphase := h.phase
  unfold Session.interrupt at hs
  split at hs
  · rename_i heq
    simp only [PhaseOk, heq] at hphase
    obtain ⟨-, -, -, -, ⟨-, hrest⟩, -⟩ := hphase
    split at hs
    · cases hs
    · obtain rfl := Option.some.inj hs
      exact h.ended_of_events _
        (store_events (h.history.emitted _ (hrest _ List.mem_cons_self).1) _)
  · rename_i hsubscription
    obtain rfl := Option.some.inj hs
    exact h.ended_of_events _ (store_events (h.history.emitted _
      ((h.subscription _ hsubscription).queue _ List.mem_cons_self)) _)
  · cases hs

theorem Indexed.next {op : Op} (h : Indexed cfg s) (hgapless : Gapless cfg s op)
    (hs : s.next cfg op = some s') : Indexed cfg s' := by
  cases op with
  | mine logs => exact h.mine hs
  | reorg fork head logs notices => exact hgapless.elim
  | updateOrders orders =>
    obtain rfl := Option.some.inj hs
    exact h.updateOrders orders
  | dial =>
    simp only [Session.next] at hs
    split at hs
    · obtain rfl := Option.some.inj hs
      exact h.withPhase _ nofun trivial
    · cases hs
  | blockNumber => exact h.blockNumber hs
  | getPosition => exact h.getPosition hs
  | filterLogs => exact h.filterLogs hs
  | handle => exact h.handle hgapless hs
  | finish => exact h.finish hs
  | interrupt => exact h.interrupt hs
  | subscribe => exact h.subscribe hs
  | tick =>
    simp only [Session.next] at hs
    split at hs
    · obtain rfl := Option.some.inj hs
      exact h.withPhase _ nofun trivial
    · cases hs
  | disconnect =>
    obtain rfl := Option.some.inj hs
    exact h.ended

/-- At the beginning nothing after the origin is up to the cursor. -/
theorem Session.Initial.indexed (h : s.Initial cfg) : Indexed cfg s := by
  obtain ⟨hdown, hnone⟩ := h.down
  refine ⟨h.history, h.mined, ?_, ?_, ?_, ?_, ?_⟩
  · rw [hdown]
    exact nofun
  · intro horigin
    refine ⟨hnone, ?_⟩
    rwa [h.origin, Option.map_eq_none_iff] at horigin
  · intro c hc
    refine ⟨h.cursor c hc, fun entry hentry => ?_⟩
    obtain ⟨-, ⟨origin, horigin, hafter⟩, -⟩ := hentry
    rw [h.origin, hc, Option.map_some, Option.some.injEq] at horigin
    rwa [horigin]
  · simp only [PhaseOk, hdown]
  · intro subscription hsubscription
    exact absurd (hnone.symm.trans hsubscription) nofun

end Steps

/-! ## Every run -/

/-- In a run without reorganisations in which no log is handled while earlier ones are in neither
    stream, every log up to the cursor has been applied. -/
theorem no_log_lost {cfg : Config} {s : Session}
    (h : (subscriber cfg).ReachableWith (Gapless cfg) s) : NoLoss cfg s := by
  have hindexed : Indexed cfg s :=
    h.invariant (fun _ => Session.Initial.indexed) fun _ _ _ hs hgapless hcall =>
      hs.next hgapless (exec_eq_ok.mp hcall)
  exact hindexed.noLoss

/-! ## Two runs -/

open Example SessionExample in
/-- The order is executed after the subscription has become active. -/
theorem no_log_lost_live : ∃ s, eventBlocks s = [11] ∧ s.tables.cursor.map (·.blockNumber) = some 11 ∧
    NoLoss config s := by
  have hrun : (System.runWith (exec config) (Gapless config) session
      (.dial :: emptyBackfill ++ [.subscribe, .mine [executedLog 5 11], .handle])).map (fun s =>
        (eventBlocks s, s.tables.cursor.map (·.blockNumber))) = some ([11], some 11) := by
    decide +kernel
  obtain ⟨s, hs, hsummary⟩ := Option.map_eq_some_iff.mp hrun
  obtain ⟨hevents, hcursor⟩ := Prod.mk.inj hsummary
  exact ⟨s, hevents, hcursor,
    no_log_lost (System.reachableWith_of_runWith (.init session_initial) hs)⟩

open Example SessionExample in
/-- The order is executed after the backfill has read the head and before the subscription is
    active, and the next log that is delivered moves the cursor past it. -/
theorem not_no_log_lost_between :
    ∃ s, (subscriber config).ReachableWith (fun _ op => op.keepsChain = true) s ∧
      eventBlocks s = [12] ∧ s.tables.cursor.map (·.blockNumber) = some 12 ∧
      s.chain = [executedLog 5 11, invalidatedLog 12] ∧ ¬NoLoss config s := by
  have hrun : (System.runWith (exec config) (fun _ op => op.keepsChain = true) session
      (.dial :: emptyBackfill ++ [.mine [executedLog 5 11], .subscribe, .mine [invalidatedLog 12],
        .handle])).map (fun s => ((eventBlocks s, s.tables.cursor.map (·.blockNumber)),
          (s.chain, decide (NoLoss config s)))) =
      some (([12], some 12), ([executedLog 5 11, invalidatedLog 12], false)) := by
    decide +kernel
  obtain ⟨s, hs, hsummary⟩ := Option.map_eq_some_iff.mp hrun
  obtain ⟨hstored, hrest⟩ := Prod.mk.inj hsummary
  obtain ⟨hevents, hcursor⟩ := Prod.mk.inj hstored
  obtain ⟨hchain, hloss⟩ := Prod.mk.inj hrest
  exact ⟨s, System.reachableWith_of_runWith (.init session_initial) hs, hevents, hcursor, hchain,
    of_decide_eq_false hloss⟩

end Indexer
