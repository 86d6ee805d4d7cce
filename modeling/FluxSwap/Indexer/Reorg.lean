-- SUMMARY: After a reconnect the stored events are those of the chain, as long as no removal of a stored log goes unheard.
import FluxSwap.Indexer.Session

/-!
# Reorganisations

A removed log is only ever heard of from the subscription, by a notice, and the notice deletes
the row of its event. Backfills read what is in the chain and delete nothing. The rows converge
to the chain as long as a notice comes, and is handled, for every row whose log leaves the chain.
-/

namespace Indexer

open Backend

/-! ## The statement -/

/-- The key of a row of `order_events`. -/
abbrev EventId : Type := Nat × TxHash × Nat

/-- The key of the row that a log is stored in, if it is a supported one. -/
def keyOf (cfg : Config) (entry : Log) : Option EventId :=
  (eventOf cfg entry).map fun event => event.id

/-- The chain has a log with this key. -/
def Canonical (cfg : Config) (chain : List Log) (key : EventId) : Prop :=
  ∃ entry ∈ chain, keyOf cfg entry = some key

/-- There is a notice that a log with this key has been removed. -/
def Noticed (cfg : Config) (queue : List Log) (key : EventId) : Prop :=
  ∃ entry ∈ queue, entry.removed = true ∧ keyOf cfg entry = some key

instance (cfg : Config) (chain : List Log) (key : EventId) : Decidable (Canonical cfg chain key) :=
  inferInstanceAs (Decidable (∃ entry ∈ chain, keyOf cfg entry = some key))

namespace Session

def Stored (s : Session) (key : EventId) : Prop := ∃ row ∈ s.tables.db.events, row.id = key

instance (s : Session) (key : EventId) : Decidable (s.Stored key) :=
  inferInstanceAs (Decidable (∃ row ∈ s.tables.db.events, row.id = key))

/-- What the subscription has still to deliver. -/
def queue (s : Session) : List Log := (s.subscription.map Subscription.queue).getD []

/-- What a backfill has still to go through. -/
def rest (s : Session) : List Log :=
  match s.phase with
  | .replaying _ _ _ rest => rest
  | _ => []

/-- The log that is handled next, and what the subscription has to deliver after it. -/
def current (s : Session) : Option (Log × List Log) :=
  match s.phase, s.subscription with
  | .replaying _ cursor _ (entry :: _), _ =>
    if shouldSkipEntry cursor entry then none else some (entry, s.queue)
  | .live, some ⟨entry :: queue, _⟩ => some (entry, queue)
  | _, _ => none

end Session

/-- After a backfill of a new session up to the head, every row is that of a log of the chain. -/
def Converged (cfg : Config) (s : Session) : Prop :=
  ∀ unread, s.phase = .filled (some s.head) unread →
    ∀ row ∈ s.tables.db.events, Canonical cfg s.chain row.id

/-- Whoever drops these logs drops no notice for one of the keys. -/
def Unneeded (cfg : Config) (s : Session) (queue : List Log) (keys : EventId → Prop) : Prop :=
  ∀ entry ∈ queue, entry.removed = true → ∀ key ∈ keyOf cfg entry, keys key →
    Canonical cfg s.chain key

instance (cfg : Config) (s : Session) (queue : List Log) (keys : EventId → Prop)
    [DecidablePred keys] : Decidable (Unneeded cfg s queue keys) :=
  inferInstanceAs (Decidable (∀ entry ∈ queue, entry.removed = true → ∀ key ∈ keyOf cfg entry,
    keys key → Canonical cfg s.chain key))

/-- A reorganisation without a subscription removes no log that is stored or is about to be, and
    a session does not end while the notice of a stored log is in its queue. -/
def Heard (cfg : Config) (s : Session) : Op → Prop
  | .reorg fork _ logs _ =>
    s.subscription = none → ∀ entry ∈ s.removed fork, ∀ key ∈ keyOf cfg entry,
      (s.Stored key ∨ ∃ entry' ∈ s.rest, keyOf cfg entry' = some key) →
      Canonical cfg (s.kept fork ++ logs) key
  | .handle => ∀ current ∈ s.current, current.1.removed = false →
    foreign cfg s.tables.db current.1 = true → Unneeded cfg s current.2 s.Stored
  | .interrupt => ∀ current ∈ s.current,
    Unneeded cfg s current.2 fun key => s.Stored key ∨ keyOf cfg current.1 = some key
  | .disconnect => Unneeded cfg s s.queue s.Stored
  | _ => True

instance (cfg : Config) (s : Session) : (op : Op) → Decidable (Heard cfg s op)
  | .reorg fork _ logs _ =>
    inferInstanceAs (Decidable (s.subscription = none → ∀ entry ∈ s.removed fork,
      ∀ key ∈ keyOf cfg entry,
        (s.Stored key ∨ ∃ entry' ∈ s.rest, keyOf cfg entry' = some key) →
        Canonical cfg (s.kept fork ++ logs) key))
  | .handle =>
    inferInstanceAs (Decidable (∀ current ∈ s.current, current.1.removed = false →
      foreign cfg s.tables.db current.1 = true → Unneeded cfg s current.2 s.Stored))
  | .interrupt =>
    inferInstanceAs (Decidable (∀ current ∈ s.current,
      Unneeded cfg s current.2 fun key => s.Stored key ∨ keyOf cfg current.1 = some key))
  | .disconnect => inferInstanceAs (Decidable (Unneeded cfg s s.queue s.Stored))
  | .mine _ | .updateOrders _ | .dial | .blockNumber | .getPosition | .filterLogs | .finish
  | .subscribe | .tick => .isTrue trivial

/-- No session yet, and every row is that of a log of the chain. -/
structure Session.Fresh (cfg : Config) (s : Session) : Prop extends s.Initial cfg where
  rows : ∀ row ∈ s.tables.db.events, Canonical cfg s.chain row.id

/-- The subscriber's sessions, from tables that agree with the chain. -/
def freshSubscriber (cfg : Config) : System Session Op :=
  System.ofCalls (Session.Fresh cfg) (exec cfg)

/-! ## Notices -/

section Notices

variable {cfg : Config} {entry : Log}

theorem decodeLog_notice (name : EventName) :
    decodeLog cfg name entry.notice =
      (decodeLog cfg name entry).map fun event => { event with removed := true } := by
  unfold decodeLog Log.notice baseEvent
  cases name <;> rcases entry.topics with _ | ⟨topic, _ | ⟨second, rest⟩⟩ <;>
    simp only [Option.map_map, Option.map_none] <;> rfl

theorem eventOf_notice : eventOf cfg entry.notice =
    (eventOf cfg entry).map fun event => { event with removed := true } := by
  unfold eventOf
  simp only [Option.bind_eq_bind, Option.map_bind, Function.comp_def, decodeLog_notice]
  rfl

@[simp] theorem keyOf_notice : keyOf cfg entry.notice = keyOf cfg entry := by
  unfold keyOf
  rw [eventOf_notice, Option.map_map]
  rfl

/-- What a subscription delivers: logs, and notices of logs. -/
def Delivered (cfg : Config) (entry : Log) : Prop :=
  Emitted cfg entry ∨ ∃ entry', Emitted cfg entry' ∧ entry = entry'.notice

/-- The event of a notice is reverted. -/
theorem handleLog_notice (hemitted : Emitted cfg entry) (t : State) :
    handleLog cfg t entry.notice = .ok (process cfg t entry.notice) := by
  have hdecodes : ∀ topic name, entry.notice.topics.head? = some topic →
      eventNameByTopic cfg topic = some name →
      ∃ event, decodeLog cfg name entry.notice = some event := by
    intro topic name htopic hname
    obtain ⟨event, hevent⟩ := hemitted.decodes topic name htopic hname
    rw [decodeLog_notice, hevent]
    exact ⟨_, rfl⟩
  rw [handleLog_of_decodes hdecodes]
  unfold process store
  rw [eventOf_notice]
  cases eventOf cfg entry with
  | none => rfl
  | some event => rfl

/-- A log is handled, or it is a foreign one. -/
theorem Delivered.handleLog (h : Delivered cfg entry) (t : State) :
    Indexer.handleLog cfg t entry = .ok (process cfg t entry) ∨
      (∃ e, Indexer.handleLog cfg t entry = .error e) ∧ entry.removed = false ∧
        foreign cfg t.db entry = true := by
  rcases h with h | ⟨entry, h, rfl⟩
  · cases hforeign : foreign cfg t.db entry with
    | true => exact .inr ⟨⟨_, handleLog_foreign h hforeign⟩, h.kept, rfl⟩
    | false => exact .inl (handleLog_known h hforeign).1
  · exact .inl (handleLog_notice h t)

theorem revert_events (e : Backend.OrderEvent) (db : Database) :
    (EventService.revert e db).events = db.events.filter fun row => row.id ≠ e.id := by
  by_cases hstored : ∃ row ∈ db.events, row.id = e.id
  · exact (EventService.revert_of_stored hstored).1
  · have hnone : ∀ row ∈ db.events, row.id ≠ e.id := fun row hrow hid => hstored ⟨row, hrow, hid⟩
    rw [EventService.revert_of_not_stored hnone]
    exact (List.filter_eq_self.mpr fun row hrow => decide_eq_true (hnone row hrow)).symm

/-- Applying an event that is no notice adds at most its own row. -/
theorem applyEvent_adds {event : OrderEvent} {db db' : Database} (hkept : event.removed = false)
    (h : applyEvent event db = .ok db') :
    ∀ row ∈ db'.events, row ∈ db.events ∨ row.id = event.id := by
  have hcons : db'.events = event.toOrderEvent :: db.events →
      ∀ row ∈ db'.events, row ∈ db.events ∨ row.id = event.id := by
    intro hevents row hrow
    rw [hevents] at hrow
    exact (List.mem_cons.mp hrow).elim (fun hrow => .inr (congrArg _ hrow)) .inl
  have hignore : ∀ result : Except EventError Database,
      (∀ db', result = .ok db' → db'.events = event.toOrderEvent :: db.events) →
      ignoreDuplicate db result = .ok db' → ∀ row ∈ db'.events, row ∈ db.events ∨ row.id = event.id := by
    intro result hresult hok
    unfold ignoreDuplicate at hok
    split at hok
    · obtain rfl := Except.ok.inj hok
      exact fun row hrow => .inl hrow
    · exact hcons (hresult db' hok)
  cases hname : event.name with
  | orderExecuted =>
    rw [applyEvent_executed hkept hname] at h
    exact hignore _ (fun db' hok => (EventService.apply_ok hok).2.2.2.1) h
  | nonceInvalidated =>
    rw [applyEvent_invalidated hkept hname] at h
    exact hignore _ (fun db' hok => (EventService.applyNonceInvalidated_ok hok).2.1) h

/-- The rows after a log: a notice has deleted the row of its key, and any other log has added
    at most that of its own. -/
theorem Delivered.store_rows (h : Delivered cfg entry) {db : Database} :
    ∀ row ∈ (store cfg db entry).events,
      row ∈ db.events ∧ (entry.removed = true → keyOf cfg entry ≠ some row.id) ∨
        entry.removed = false ∧ keyOf cfg entry = some row.id := by
  intro row hrow
  rcases h with h | ⟨entry, h, rfl⟩
  · have hkept := h.kept
    unfold store at hrow
    unfold keyOf
    cases hevent : eventOf cfg entry with
    | none =>
      rw [hevent] at hrow
      exact .inl ⟨hrow, fun hremoved => absurd (hkept.symm.trans hremoved) nofun⟩
    | some event =>
      simp only [hevent] at hrow
      have hold : row ∈ db.events → row ∈ db.events ∧
          (entry.removed = true → (some event).map (fun event => event.id) ≠ some row.id) :=
        fun hrow => ⟨hrow, fun hremoved => absurd (hkept.symm.trans hremoved) nofun⟩
      split at hrow
      · rename_i db' happly
        rcases applyEvent_adds (eventOf_kept h hevent) happly row hrow with hrow | hid
        · exact .inl (hold hrow)
        · exact .inr ⟨hkept, congrArg some hid.symm⟩
      · exact .inl (hold hrow)
  -- a notice deletes the row of its event and adds none
  · refine .inl ?_
    unfold store at hrow
    rw [eventOf_notice] at hrow
    rw [keyOf_notice]
    unfold keyOf
    cases hevent : eventOf cfg entry with
    | none =>
      rw [hevent] at hrow
      exact ⟨hrow, fun _ => nofun⟩
    | some event =>
      rw [hevent] at hrow
      have hrow : row ∈ (EventService.revert event.toOrderEvent db).events := hrow
      rw [revert_events] at hrow
      obtain ⟨hrow, hid⟩ := List.mem_filter.mp hrow
      exact ⟨hrow, fun _ hsame => of_decide_eq_true hid (Option.some.inj hsame).symm⟩

end Notices

/-! ## The queue -/

section Queue

variable {cfg : Config} {chain chain' queue more : List Log} {key : EventId}

/-- The chain has a log with this key, or a notice of its removal is still to come. -/
def Accounted (cfg : Config) (chain queue : List Log) (key : EventId) : Prop :=
  Canonical cfg chain key ∨ Noticed cfg queue key

/-- Every log in the queue is in the chain, or the notice of its removal comes after it. -/
def QueueOk (cfg : Config) (chain : List Log) : List Log → Prop
  | [] => True
  | entry :: queue =>
    (entry.removed = false → ∀ key, keyOf cfg entry = some key → Accounted cfg chain queue key) ∧
      QueueOk cfg chain queue

theorem not_noticed_nil : ¬Noticed cfg [] key := fun ⟨_, hmem, _⟩ => List.not_mem_nil hmem

theorem Accounted.canonical (h : Accounted cfg chain [] key) : Canonical cfg chain key :=
  h.resolve_right not_noticed_nil

/-- What is delivered accounts for the changes of the chain. -/
theorem Accounted.deliver (h : Accounted cfg chain queue key)
    (hchain : ∀ key, Canonical cfg chain key → Accounted cfg chain' more key) :
    Accounted cfg chain' (queue ++ more) key := by
  have happend : ∀ {queue' : List Log}, queue' ⊆ queue ++ more → Noticed cfg queue' key →
      Accounted cfg chain' (queue ++ more) key := by
    rintro queue' hsub ⟨entry, hmem, hnotice⟩
    exact .inr ⟨entry, hsub hmem, hnotice⟩
  rcases h with h | h
  · rcases hchain key h with h | h
    · exact .inl h
    · exact happend (List.subset_append_right queue more) h
  · exact happend (List.subset_append_left queue more) h

theorem QueueOk.deliver (h : QueueOk cfg chain queue)
    (hchain : ∀ key, Canonical cfg chain key → Accounted cfg chain' more key)
    (hmore : QueueOk cfg chain' more) : QueueOk cfg chain' (queue ++ more) := by
  induction queue with
  | nil => exact hmore
  | cons entry queue ih =>
    exact ⟨fun hkept key hkey => (h.1 hkept key hkey).deliver hchain, ih h.2⟩

theorem QueueOk.of_canonical
    (h : ∀ entry ∈ queue, entry.removed = false → ∀ key, keyOf cfg entry = some key →
      Canonical cfg chain key) : QueueOk cfg chain queue := by
  induction queue with
  | nil => trivial
  | cons entry queue ih =>
    exact ⟨fun hkept key hkey => .inl (h entry List.mem_cons_self hkept key hkey),
      ih fun entry' hmem => h entry' (List.mem_cons_of_mem entry hmem)⟩

end Queue

/-! ## The invariant -/

structure Tracked (cfg : Config) (s : Session) : Prop where
  chain : ∀ entry ∈ s.chain, Emitted cfg entry
  delivered : ∀ entry ∈ s.queue, Delivered cfg entry
  rows : ∀ row ∈ s.tables.db.events, Accounted cfg s.chain s.queue row.id
  queue : QueueOk cfg s.chain s.queue
  rest : ∀ entry ∈ s.rest, Emitted cfg entry ∧
    ∀ key, keyOf cfg entry = some key → Accounted cfg s.chain s.queue key
  filled : ∀ latestBlock unread, s.phase = .filled latestBlock unread → s.subscription = none

section Steps

variable {cfg : Config} {s s' : Session} {entry : Log} {queue : List Log}

theorem Session.queue_of_none (h : s.subscription = none) : s.queue = [] := by
  rw [Session.queue, h]
  rfl

theorem Tracked.converged (h : Tracked cfg s) : Converged cfg s := by
  intro unread hphase row hrow
  have hrow := h.rows row hrow
  rw [Session.queue_of_none (h.filled _ _ hphase)] at hrow
  exact hrow.canonical

/-- A step of the session that neither handles a log nor ends it. -/
theorem Tracked.of_same (h : Tracked cfg s) (hchain : s'.chain = s.chain)
    (hqueue : s'.queue = s.queue) (hevents : s'.tables.db.events = s.tables.db.events)
    (hrest : ∀ entry ∈ s'.rest, entry ∈ s.rest ∨ entry ∈ s.chain)
    (hfilled : ∀ latestBlock unread, s'.phase = .filled latestBlock unread →
      s'.subscription = none) : Tracked cfg s' := by
  refine ⟨hchain ▸ h.chain, hqueue ▸ h.delivered, ?_, ?_, ?_, hfilled⟩
  · rw [hchain, hqueue, hevents]
    exact h.rows
  · rw [hchain, hqueue]
    exact h.queue
  · rw [hchain, hqueue]
    intro entry hentry
    rcases hrest entry hentry with hentry | hentry
    · exact h.rest entry hentry
    · exact ⟨h.chain entry hentry, fun key hkey => .inl ⟨entry, hentry, hkey⟩⟩

/-- The chain changes, and the subscription tells what has left it. -/
theorem Tracked.deliver (h : Tracked cfg s) {head : Nat} {chain more : List Log}
    (hchain : ∀ entry ∈ chain, Emitted cfg entry) (hmore : ∀ entry ∈ more, Delivered cfg entry)
    (hlogs : ∀ entry ∈ more, entry.removed = false → entry ∈ chain)
    (htold : s.subscription ≠ none → ∀ key, Canonical cfg s.chain key →
      Accounted cfg chain more key)
    (hkept : s.subscription = none → ∀ key, Canonical cfg s.chain key →
      (s.Stored key ∨ ∃ entry ∈ s.rest, keyOf cfg entry = some key) → Canonical cfg chain key) :
    Tracked cfg { s with head := head, chain := chain, subscription := s.deliver more } := by
  have hfilled : ∀ latestBlock unread, s.phase = .filled latestBlock unread →
      s.deliver more = none := by
    intro latestBlock unread hphase
    rw [Session.deliver, h.filled latestBlock unread hphase]
    rfl
  cases hsubscription : s.subscription with
  -- nobody listens: what has been stored or read has to stay canonical by itself
  | none =>
    have hnone : s.queue = [] := Session.queue_of_none hsubscription
    have hqueue : Session.queue { s with
        head := head, chain := chain, subscription := s.deliver more } = [] := by
      rw [Session.queue, Session.deliver, hsubscription]
      rfl
    refine ⟨hchain, ?_, ?_, ?_, ?_, hfilled⟩ <;> rw [hqueue]
    · exact nofun
    · intro row hrow
      have hcanonical := h.rows row hrow
      rw [hnone] at hcanonical
      exact .inl (hkept hsubscription row.id hcanonical.canonical (.inl ⟨row, hrow, rfl⟩))
    · trivial
    · intro entry hentry
      obtain ⟨hemitted, hkeys⟩ := h.rest entry hentry
      rw [hnone] at hkeys
      exact ⟨hemitted, fun key hkey =>
        .inl (hkept hsubscription key (hkeys key hkey).canonical (.inr ⟨entry, hentry, hkey⟩))⟩
  -- the queue grows by what is told of the change
  | some subscription =>
    have hqueue : Session.queue { s with
        head := head, chain := chain, subscription := s.deliver more } = s.queue ++ more := by
      rw [Session.queue, Session.deliver, Session.queue, hsubscription]
      rfl
    have htold := htold (by rw [hsubscription]; exact nofun)
    refine ⟨hchain, ?_, ?_, ?_, ?_, hfilled⟩ <;> rw [hqueue]
    · intro entry hentry
      exact (List.mem_append.mp hentry).elim (h.delivered entry) (hmore entry)
    · exact fun row hrow => (h.rows row hrow).deliver htold
    · exact h.queue.deliver htold (.of_canonical fun entry hentry hremoved key hkey =>
        ⟨entry, hlogs entry hentry hremoved, hkey⟩)
    · intro entry hentry
      obtain ⟨hemitted, hkeys⟩ := h.rest entry hentry
      exact ⟨hemitted, fun key hkey => (hkeys key hkey).deliver htold⟩

theorem Tracked.mine {logs : List Log} (h : Tracked cfg s) (hs : s.mine cfg logs = some s') :
    Tracked cfg s' := by
  unfold Session.mine at hs
  split at hs
  · rename_i hnew
    obtain rfl := Option.some.inj hs
    have hgrows : ∀ key, Canonical cfg s.chain key → Canonical cfg (s.chain ++ logs) key :=
      fun key ⟨entry, hentry, hkey⟩ => ⟨entry, List.mem_append_left logs hentry, hkey⟩
    refine h.deliver ?_ (fun entry hentry => .inl (hnew.1 entry hentry).1)
      (fun entry hentry _ => List.mem_append_right s.chain hentry)
      (fun _ key hkey => .inl (hgrows key hkey)) fun _ key hkey _ => hgrows key hkey
    intro entry hentry
    exact (List.mem_append.mp hentry).elim (h.chain entry) fun hentry => (hnew.1 entry hentry).1
  · cases hs

theorem Tracked.reorg {fork head : Nat} {logs notices : List Log} (h : Tracked cfg s)
    (hheard : Heard cfg s (.reorg fork head logs notices))
    (hs : s.reorg cfg fork head logs notices = some s') : Tracked cfg s' := by
  unfold Session.reorg at hs
  split at hs
  · rename_i hreorg
    obtain ⟨-, hnew, hperm⟩ := hreorg
    obtain rfl := Option.some.inj hs
    -- a log is kept, or it is removed and a notice of it is among the notices
    have hsplit : ∀ key, Canonical cfg s.chain key →
        Canonical cfg (s.kept fork ++ logs) key ∨
          ∃ entry ∈ s.removed fork, keyOf cfg entry = some key := by
      rintro key ⟨entry, hentry, hkey⟩
      by_cases hle : entry.blockNumber ≤ fork
      · exact .inl ⟨entry, List.mem_append_left logs
          (List.mem_filter.mpr ⟨hentry, decide_eq_true hle⟩), hkey⟩
      · exact .inr ⟨entry, List.mem_filter.mpr ⟨hentry, decide_eq_true (Nat.lt_of_not_le hle)⟩, hkey⟩
    have hnotice : ∀ entry ∈ notices, ∃ entry' ∈ s.removed fork, entry'.notice = entry :=
      fun entry hentry => List.mem_map.mp (hperm.mem_iff.mp hentry)
    refine h.deliver ?_ ?_ ?_ ?_ ?_
    · intro entry hentry
      rcases List.mem_append.mp hentry with hentry | hentry
      · exact h.chain entry (List.mem_of_mem_filter hentry)
      · exact (hnew.1 entry hentry).1
    · intro entry hentry
      rcases List.mem_append.mp hentry with hentry | hentry
      · obtain ⟨entry', hentry', rfl⟩ := hnotice entry hentry
        exact .inr ⟨entry', h.chain entry' (List.mem_of_mem_filter hentry'), rfl⟩
      · exact .inl (hnew.1 entry hentry).1
    · intro entry hentry hkept
      rcases List.mem_append.mp hentry with hentry | hentry
      · obtain ⟨entry', -, rfl⟩ := hnotice entry hentry
        cases hkept
      · exact List.mem_append_right (s.kept fork) hentry
    · intro _ key hkey
      refine (hsplit key hkey).imp_right ?_
      rintro ⟨entry, hentry, hkey⟩
      exact ⟨entry.notice, List.mem_append_left logs
        (hperm.mem_iff.mpr (List.mem_map_of_mem hentry)), rfl, keyOf_notice.trans hkey⟩
    · intro hnone key hkey htracked
      rcases hsplit key hkey with hkept | ⟨entry, hentry, hentryKey⟩
      · exact hkept
      · exact hheard hnone entry hentry key hentryKey htracked
  · cases hs

/-! ## Steps of the session -/

/-- A session that is over when the rows are accounted for without its queue. -/
theorem Tracked.ended_of_rows (h : Tracked cfg s) {t : State}
    (hrows : ∀ row ∈ t.db.events, Canonical cfg s.chain row.id) :
    Tracked cfg { s with tables := t }.ended :=
  ⟨h.chain, nofun, fun row hrow => .inl (hrows row hrow), trivial, nofun, fun _ _ _ => rfl⟩

/-- What is accounted for stays so when no needed notice is dropped. -/
theorem Unneeded.canonical {keys : EventId → Prop} {key : EventId}
    (h : Unneeded cfg s queue keys) (hkey : keys key) (haccounted : Accounted cfg s.chain queue key) :
    Canonical cfg s.chain key := by
  rcases haccounted with hcanonical | ⟨entry, hentry, hremoved, hentryKey⟩
  · exact hcanonical
  · exact h entry hentry hremoved key hentryKey hkey

theorem Tracked.disconnect (h : Tracked cfg s) (hheard : Unneeded cfg s s.queue s.Stored) :
    Tracked cfg s.ended :=
  h.ended_of_rows fun row hrow => hheard.canonical ⟨row, hrow, rfl⟩ (h.rows row hrow)

theorem Tracked.filled_phase (h : Tracked cfg s) (latestBlock : Option Nat) (unread : List Log) :
    Tracked cfg (s.filled latestBlock unread) := by
  unfold Session.filled
  split
  · exact h.of_same rfl rfl rfl nofun fun _ _ _ => ‹s.subscription = none›
  · rename_i subscription hsubscription
    refine h.of_same rfl ?_ rfl nofun nofun
    rw [Session.queue, Session.queue, hsubscription]
    rfl

theorem Session.current_replaying {latestBlock : Nat} {cursor : Option CursorPosition}
    {unread rest : List Log} (heq : s.phase = .replaying latestBlock cursor unread (entry :: rest))
    (hkept : ¬shouldSkipEntry cursor entry = true) : s.current = some (entry, s.queue) := by
  simp only [Session.current, heq, if_neg hkept]

theorem Session.current_live {unread : List Log} (hlive : s.phase = .live)
    (hsubscription : s.subscription = some ⟨entry :: queue, unread⟩) :
    s.current = some (entry, queue) := by
  simp only [Session.current, hlive, hsubscription]

/-- What has been handled so far keeps the rest accounted for, and the log is one of these. -/
theorem Tracked.current (h : Tracked cfg s) (hcurrent : s.current = some (entry, queue)) :
    Delivered cfg entry ∧
      (∀ key, keyOf cfg entry = some key → entry.removed = false → Accounted cfg s.chain queue key) ∧
      ∀ key, Accounted cfg s.chain s.queue key →
        (entry.removed = true → keyOf cfg entry ≠ some key) → Accounted cfg s.chain queue key := by
  unfold Session.current at hcurrent
  split at hcurrent
  · rename_i latestBlock cursor unread entry' rest heq
    split at hcurrent
    · cases hcurrent
    · obtain ⟨rfl, rfl⟩ := Prod.mk.inj (Option.some.inj hcurrent)
      have hmem : entry' ∈ s.rest := by
        rw [Session.rest, heq]
        exact List.mem_cons_self
      obtain ⟨hemitted, hkeys⟩ := h.rest entry' hmem
      exact ⟨.inl hemitted, fun key hkey _ => hkeys key hkey, fun key haccounted _ => haccounted⟩
  · rename_i entry' queue' unread hlive hsubscription
    obtain ⟨rfl, rfl⟩ := Prod.mk.inj (Option.some.inj hcurrent)
    have hqueue : s.queue = entry' :: queue' := by
      rw [Session.queue, hsubscription]
      rfl
    have hpending := h.queue
    rw [hqueue] at hpending
    refine ⟨h.delivered entry' (by rw [hqueue]; exact List.mem_cons_self),
      fun key hkey hkept => hpending.1 hkept key hkey, ?_⟩
    rw [hqueue]
    rintro key (hcanonical | ⟨notice, hmem, hremoved, hkey⟩) hother
    · exact .inl hcanonical
    · rcases List.mem_cons.mp hmem with rfl | hmem
      · exact absurd hkey (hother hremoved)
      · exact .inr ⟨notice, hmem, hremoved, hkey⟩
  · cases hcurrent

/-- The rows after the log that is handled next. -/
theorem Tracked.store_rows (h : Tracked cfg s) (hcurrent : s.current = some (entry, queue)) :
    ∀ row ∈ (store cfg s.tables.db entry).events, Accounted cfg s.chain queue row.id ∧
      (s.Stored row.id ∨ keyOf cfg entry = some row.id) := by
  obtain ⟨hdelivered, hown, hothers⟩ := h.current hcurrent
  intro row hrow
  rcases hdelivered.store_rows row hrow with ⟨hrow, hother⟩ | ⟨hkept, hkey⟩
  · exact ⟨hothers row.id (h.rows row hrow) hother, .inl ⟨row, hrow, rfl⟩⟩
  · exact ⟨hown row.id hkey hkept, .inr hkey⟩

theorem Tracked.interrupt (h : Tracked cfg s) (hheard : Heard cfg s .interrupt)
    (hs : s.interrupt cfg = some s') : Tracked cfg s' := by
  obtain ⟨entry, queue, hcurrent, rfl⟩ :
      ∃ entry queue, s.current = some (entry, queue) ∧ s' = s.applied cfg entry := by
    unfold Session.interrupt at hs
    split at hs
    · rename_i heq
      split at hs
      · cases hs
      · obtain rfl := Option.some.inj hs
        exact ⟨_, _, Session.current_replaying heq ‹_›, rfl⟩
    · rename_i hlive hsubscription
      obtain rfl := Option.some.inj hs
      exact ⟨_, _, Session.current_live hlive hsubscription, rfl⟩
    · cases hs
  refine h.ended_of_rows fun row hrow => ?_
  obtain ⟨haccounted, hkey⟩ := h.store_rows hcurrent row hrow
  exact (hheard (entry, queue) hcurrent).canonical hkey haccounted

/-- A session ends with a log that cannot be applied. -/
theorem Tracked.failed (h : Tracked cfg s) (hcurrent : s.current = some (entry, queue))
    (hheard : Heard cfg s .handle) (hkept : entry.removed = false)
    (hforeign : foreign cfg s.tables.db entry = true) : Tracked cfg s.ended := by
  obtain ⟨-, -, hothers⟩ := h.current hcurrent
  refine h.ended_of_rows fun row hrow => ?_
  refine (hheard (entry, queue) hcurrent hkept hforeign).canonical ⟨row, hrow, rfl⟩ ?_
  exact hothers row.id (h.rows row hrow) fun hremoved => absurd (hkept.symm.trans hremoved) nofun

/-- A log of the backfill is handled. -/
theorem Tracked.handle_replaying (h : Tracked cfg s) (hheard : Heard cfg s .handle)
    {latestBlock : Nat} {cursor : Option CursorPosition} {unread rest : List Log}
    (heq : s.phase = .replaying latestBlock cursor unread (entry :: rest))
    (hkept : ¬shouldSkipEntry cursor entry = true) :
    Tracked cfg (s.handled { s with phase := .replaying latestBlock cursor unread rest }
      (handleLog cfg s.tables entry)) := by
  have hcurrent := Session.current_replaying heq hkept
  rcases (h.current hcurrent).1.handleLog s.tables with hok | ⟨⟨e, herror⟩, hremoved, hforeign⟩
  · rw [hok]
    refine ⟨h.chain, h.delivered, fun row hrow => (h.store_rows hcurrent row hrow).1, h.queue,
      fun entry' hentry' => h.rest entry' ?_, nofun⟩
    rw [Session.rest, heq]
    exact List.mem_cons_of_mem entry hentry'
  · rw [herror]
    exact h.failed hcurrent hheard hremoved hforeign

/-- A log that the subscription delivers is handled, or a notice. -/
theorem Tracked.handle_live (h : Tracked cfg s) (hheard : Heard cfg s .handle)
    {unread : List Log} (hlive : s.phase = .live)
    (hsubscription : s.subscription = some ⟨entry :: queue, unread⟩) :
    Tracked cfg (s.handled { s with subscription := some ⟨queue, unread⟩ }
      (handleLog cfg s.tables entry)) := by
  have hcurrent := Session.current_live hlive hsubscription
  have hqueue : s.queue = entry :: queue := by
    rw [Session.queue, hsubscription]
    rfl
  have hdelivered := h.delivered
  have hpending := h.queue
  rw [hqueue] at hdelivered hpending
  have hrest : s.rest = [] := by
    rw [Session.rest, hlive]
  rcases (h.current hcurrent).1.handleLog s.tables with hok | ⟨⟨e, herror⟩, hremoved, hforeign⟩
  · rw [hok]
    refine ⟨h.chain, fun entry' hentry' => hdelivered entry' (List.mem_cons_of_mem entry hentry'),
      fun row hrow => (h.store_rows hcurrent row hrow).1, hpending.2, fun entry' hentry' => ?_, ?_⟩
    · exact absurd (hrest ▸ hentry' : entry' ∈ []) List.not_mem_nil
    · intro latestBlock unread' hphase
      exact absurd (hlive.symm.trans hphase) nofun
  · rw [herror]
    exact h.failed hcurrent hheard hremoved hforeign

theorem Tracked.handle (h : Tracked cfg s) (hheard : Heard cfg s .handle)
    (hs : s.handle cfg = some s') : Tracked cfg s' := by
  unfold Session.handle at hs
  split at hs
  · rename_i latestBlock cursor unread entry rest heq
    split at hs <;> obtain rfl := Option.some.inj hs
    · refine h.of_same rfl rfl rfl (fun entry' hentry' => .inl ?_) nofun
      rw [Session.rest, heq]
      exact List.mem_cons_of_mem entry hentry'
    · exact h.handle_replaying hheard heq ‹_›
  · rename_i hlive hsubscription
    obtain rfl := Option.some.inj hs
    exact h.handle_live hheard hlive hsubscription
  · cases hs

theorem Tracked.blockNumber (h : Tracked cfg s) (hs : s.blockNumber = some s') :
    Tracked cfg s' := by
  unfold Session.blockNumber at hs
  split at hs
  · obtain rfl := Option.some.inj hs
    exact h.of_same rfl rfl rfl nofun nofun
  · split at hs <;> obtain rfl := Option.some.inj hs
    · exact h.filled_phase _ _
    · exact h.of_same rfl rfl rfl nofun nofun
  · cases hs

theorem Tracked.getPosition (h : Tracked cfg s) (hs : s.getPosition cfg = some s') :
    Tracked cfg s' := by
  unfold Session.getPosition at hs
  split at hs
  · split at hs <;> obtain rfl := Option.some.inj hs
    · exact h.filled_phase _ _
    · exact h.filled_phase _ _
    · exact h.of_same rfl rfl rfl nofun nofun
    · exact h.of_same rfl rfl rfl nofun nofun
  · cases hs

/-- A backfill reads what is in the chain. -/
theorem Tracked.filterLogs (h : Tracked cfg s) (hs : s.filterLogs = some s') :
    Tracked cfg s' := by
  unfold Session.filterLogs at hs
  split at hs
  · obtain rfl := Option.some.inj hs
    exact h.of_same rfl rfl rfl (fun entry hentry => .inr (List.mem_of_mem_filter hentry)) nofun
  · cases hs

theorem Tracked.finish (h : Tracked cfg s) (hs : s.finish = some s') : Tracked cfg s' := by
  unfold Session.finish at hs
  split at hs
  · obtain rfl := Option.some.inj hs
    exact h.filled_phase _ _
  · cases hs

theorem Tracked.subscribe (h : Tracked cfg s) (hs : s.subscribe cfg = some s') :
    Tracked cfg s' := by
  unfold Session.subscribe at hs
  split at hs
  · rename_i heq
    obtain rfl := Option.some.inj hs
    refine h.of_same rfl ?_ rfl nofun nofun
    exact (Session.queue_of_none (h.filled _ _ heq)).symm
  · cases hs

theorem Tracked.next {op : Op} (h : Tracked cfg s) (hheard : Heard cfg s op)
    (hs : s.next cfg op = some s') : Tracked cfg s' := by
  cases op with
  | mine logs => exact h.mine hs
  | reorg fork head logs notices => exact h.reorg hheard hs
  | updateOrders orders =>
    obtain rfl := Option.some.inj hs
    exact ⟨h.chain, h.delivered, h.rows, h.queue, h.rest, h.filled⟩
  | dial =>
    simp only [Session.next] at hs
    split at hs
    · obtain rfl := Option.some.inj hs
      exact h.of_same rfl rfl rfl nofun nofun
    · cases hs
  | blockNumber => exact h.blockNumber hs
  | getPosition => exact h.getPosition hs
  | filterLogs => exact h.filterLogs hs
  | handle => exact h.handle hheard hs
  | finish => exact h.finish hs
  | interrupt => exact h.interrupt hheard hs
  | subscribe => exact h.subscribe hs
  | tick =>
    simp only [Session.next] at hs
    split at hs
    · obtain rfl := Option.some.inj hs
      exact h.of_same rfl rfl rfl nofun nofun
    · cases hs
  | disconnect =>
    obtain rfl := Option.some.inj hs
    exact h.disconnect hheard

theorem Session.Fresh.tracked (h : s.Fresh cfg) : Tracked cfg s := by
  obtain ⟨hdown, hnone⟩ := h.down
  have hqueue := Session.queue_of_none hnone
  refine ⟨h.history.emitted, ?_, fun row hrow => .inl (h.rows row hrow), ?_, ?_, ?_⟩
  · rw [hqueue]
    exact nofun
  · rw [hqueue]
    trivial
  · rw [Session.rest, hdown]
    exact nofun
  · exact fun _ _ _ => hnone

end Steps

/-! ## Every run -/

/-- In a run in which the removal of every stored log is heard of, the rows after a reconnect are
    those of logs of the chain. -/
theorem rows_converge {cfg : Config} {s : Session}
    (h : (freshSubscriber cfg).ReachableWith (Heard cfg) s) : Converged cfg s := by
  have htracked : Tracked cfg s :=
    h.invariant (fun _ => Session.Fresh.tracked) fun _ _ _ hs hheard hcall =>
      hs.next hheard (exec_eq_ok.mp hcall)
  exact htracked.converged

/-! ## Two runs -/

open SessionExample in
theorem session_fresh : session.Fresh Example.config := ⟨session_initial, nofun⟩

open Example SessionExample in
/-- The block of an execution is replaced while the session listens, and the next session reads
    up to the head. -/
theorem rows_converge_live : ∃ s, s.phase = .filled (some 12) [] ∧ s.head = 12 ∧
    eventBlocks s = [12] ∧ Converged config s := by
  have hrun : (System.runWith (exec config) (Heard config) session
      (.dial :: emptyBackfill ++ [.subscribe, .mine [executedLog 5 11], .handle,
        .reorg 10 12 [invalidatedLog 12] [(executedLog 5 11).notice], .handle, .handle,
        .disconnect, .dial, .blockNumber, .getPosition, .blockNumber, .filterLogs, .handle,
        .finish])).map (fun s => ((s.phase, s.head), eventBlocks s)) =
      some ((.filled (some 12) [], 12), [12]) := by
    decide +kernel
  obtain ⟨s, hs, hsummary⟩ := Option.map_eq_some_iff.mp hrun
  obtain ⟨hread, hevents⟩ := Prod.mk.inj hsummary
  obtain ⟨hphase, hhead⟩ := Prod.mk.inj hread
  exact ⟨s, hphase, hhead, hevents,
    rows_converge (System.reachableWith_of_runWith (.init session_fresh) hs)⟩

open Example SessionExample in
/-- The block is replaced between two sessions, and the backfill of the next, which starts from
    the cursor in it, leaves its row. -/
theorem not_rows_converge_disconnected :
    ∃ s, (freshSubscriber config).Reachable s ∧ s.phase = .filled (some 12) [] ∧ s.head = 12 ∧
      s.chain = [] ∧ eventBlocks s = [11] ∧ ¬Converged config s := by
  have hrun : (System.runWith (exec config) (fun _ _ => True) session
      (.dial :: emptyBackfill ++ [.subscribe, .mine [executedLog 5 11], .handle, .disconnect,
        .reorg 10 12 [] [(executedLog 5 11).notice], .dial] ++ emptyBackfill)).map (fun s =>
          ((s.phase, s.head), (s.chain, eventBlocks s))) =
      some ((.filled (some 12) [], 12), ([], [11])) := by
    decide +kernel
  obtain ⟨s, hs, hsummary⟩ := Option.map_eq_some_iff.mp hrun
  obtain ⟨hread, htables⟩ := Prod.mk.inj hsummary
  obtain ⟨hphase, hhead⟩ := Prod.mk.inj hread
  obtain ⟨hchain, hevents⟩ := Prod.mk.inj htables
  refine ⟨s, System.reachableWith_of_runWith (.init session_fresh) hs, hphase, hhead, hchain,
    hevents, fun hconverged => ?_⟩
  have hrow : ∃ row, row ∈ s.tables.db.events :=
    List.exists_mem_of_ne_nil _ fun hnil => by
      rw [eventBlocks, hnil] at hevents
      cases hevents
  obtain ⟨row, hrow⟩ := hrow
  obtain ⟨entry, hentry, -⟩ := hconverged [] (hhead ▸ hphase) row hrow
  rw [hchain] at hentry
  cases hentry

end Indexer
