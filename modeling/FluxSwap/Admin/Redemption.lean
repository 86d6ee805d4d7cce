-- SUMMARY: A nonce that has been marked is never found again, and opens one session at most unless two verifications of it overlap.
import FluxSwap.Admin.Sessions

/-!
# Nonces are redeemed once

Two verifications of one nonce can run side by side and both open a session, as the nonce is
marked after it is read. Once it is marked, no further verification of it begins: every later
row of the nonce is one that a verification writes, and these are marked.
-/

namespace Admin

open Text

variable {env : Env} {s s' : State} {log : System.History State Op}

/-! ## A nonce is marked once -/

/-- The nonce that a step draws. -/
def Op.draws : Op → Option Text
  | .createNonce _ nonce _ _ => some nonce
  | _ => none

/-- The random nonces of a run are different. -/
def FreshNonces (r : State × System.History State Op) (op : Op) : Prop :=
  op.draws = none ∨ op.draws ∉ r.2.map fun entry => entry.2.draws

instance FreshNonces.decidable (r : State × System.History State Op) (op : Op) :
    Decidable (FreshNonces r op) :=
  inferInstanceAs (Decidable (_ ∨ _))

/-- A verification has marked the nonce. -/
def Spent (log : System.History State Op) (nonce : Text) : Prop :=
  ∃ x request now record signature checkedAt, (x, Op.saveNonce request now) ∈ log ∧
    x.verifications request = .approved record signature checkedAt ∧ record.nonce = nonce

theorem Spent.cons {nonce : Text} (h : Spent log nonce) (entry : State × Op) :
    Spent (entry :: log) nonce := by
  obtain ⟨x, request, now, record, signature, checkedAt, hmem, hrest⟩ := h
  exact ⟨x, request, now, record, signature, checkedAt, List.mem_cons_of_mem _ hmem, hrest⟩

/-- A nonce is drawn by one step only, and once it is marked no row shows it as unused. -/
structure State.Once (s : State) (log : System.History State Op) : Prop where
  drawn : ∀ entry ∈ log, ∀ entry' ∈ log, ∀ nonce, entry.2.draws = some nonce →
    entry'.2.draws = some nonce → entry = entry'
  spent : ∀ nonce, Spent log nonce → (∃ entry ∈ log, entry.2.draws = some nonce) ∧
    ∀ row ∈ s.nonces, row.nonce = nonce → row.used = true

theorem Drawn.draws {record : AdminAuthNonce} (h : Drawn env log record) :
    ∃ entry ∈ log, entry.2.draws = some record.nonce := by
  obtain ⟨x, walletAddress, written, hmem, -⟩ := h
  exact ⟨_, hmem, rfl⟩

/-- Rows of one nonce are one row. -/
theorem State.Once.id_eq {record record' : AdminAuthNonce} (h : s.Once log)
    (hdrawn : Drawn env log record) (hdrawn' : Drawn env log record')
    (hnonce : record.nonce = record'.nonce) : record.id = record'.id := by
  obtain ⟨x, walletAddress, written, hmem, hid, -⟩ := hdrawn
  obtain ⟨x', walletAddress', written', hmem', hid', -⟩ := hdrawn'
  have hsame := h.drawn _ hmem _ hmem' record.nonce rfl (by rw [hnonce]; rfl)
  rw [hid, hid', (Prod.mk.inj hsame).1]

theorem State.Once.step {op : Op} (h : s.Once log) (hsound : s.Sound env log)
    (hfresh : FreshNonces (s, log) op) (hstep : Step env s op s') :
    s'.Once ((s, op) :: log) := by
  have hfresh' : ∀ nonce, op.draws = some nonce → ∀ entry ∈ log, entry.2.draws ≠ some nonce := by
    intro nonce hop entry hentry hdraws
    rcases hfresh with hnone | hnew
    · rw [hop] at hnone
      cases hnone
    · exact hnew (List.mem_map.mpr ⟨entry, hentry, by rw [hop, hdraws]⟩)
  refine ⟨?_, ?_⟩
  · intro entry hentry entry' hentry' nonce hdraws hdraws'
    rcases List.mem_cons.mp hentry with rfl | hentry <;>
      rcases List.mem_cons.mp hentry' with rfl | hentry'
    · rfl
    · exact (hfresh' nonce hdraws entry' hentry' hdraws').elim
    · exact (hfresh' nonce hdraws' entry hentry hdraws).elim
    · exact h.drawn entry hentry entry' hentry' nonce hdraws hdraws'
  · -- a nonce that was marked before stays marked, in the rows that a step keeps
    have hbefore : ∀ nonce, Spent log nonce →
        (∃ entry ∈ (s, op) :: log, entry.2.draws = some nonce) ∧
          ∀ row ∈ s.nonces, row.nonce = nonce → row.used = true := by
      intro nonce hspent
      obtain ⟨⟨entry, hentry, hdraws⟩, hrows⟩ := h.spent nonce hspent
      exact ⟨⟨entry, List.mem_cons_of_mem _ hentry, hdraws⟩, hrows⟩
    have hsplit : ∀ nonce, Spent ((s, op) :: log) nonce → Spent log nonce ∨
        ∃ request now record signature checkedAt, op = .saveNonce request now ∧
          s.verifications request = .approved record signature checkedAt ∧
          record.nonce = nonce := by
      rintro nonce ⟨x, request, now, record, signature, checkedAt, hmem, hrest⟩
      rcases List.mem_cons.mp hmem with hlast | hmem
      · obtain ⟨rfl, rfl⟩ := Prod.mk.inj hlast
        exact .inr ⟨request, now, record, signature, checkedAt, rfl, hrest⟩
      · exact .inl ⟨x, request, now, record, signature, checkedAt, hmem, hrest⟩
    intro nonce hspent
    cases hstep with
    | @createNonce walletAddress drawn written now hnow hadmin =>
      rcases hsplit nonce hspent with hspent | ⟨_, _, _, _, _, hop, -⟩
      · obtain ⟨⟨entry, hentry, hdraws⟩, hrows⟩ := h.spent nonce hspent
        refine ⟨⟨entry, List.mem_cons_of_mem _ hentry, hdraws⟩, fun row hrow hnonce => ?_⟩
        rcases List.mem_append.mp hrow with hrow | hrow
        · exact hrows row hrow hnonce
        · obtain rfl := List.mem_singleton.mp hrow
          obtain rfl : drawn = nonce := hnonce
          exact (hfresh' drawn rfl entry hentry hdraws).elim
      · cases hop
    | @saveNonce request record signature checkedAt now nonces hverified hchecked hnow hsave =>
      have hgood := hsound.verifications request
      rw [hverified] at hgood
      obtain ⟨hdrawn, -⟩ := hgood
      rcases hsplit nonce hspent with hspent | ⟨_, _, record', _, _, hop, hverified', rfl⟩
      · refine ⟨(hbefore nonce hspent).1, fun row hrow hnonce => ?_⟩
        rcases mem_saveAuthNonce hsave hrow with rfl | ⟨hrow, -⟩
        · rfl
        · exact (hbefore nonce hspent).2 row hrow hnonce
      · cases hop
        rw [hverified] at hverified'
        cases hverified'
        obtain ⟨entry, hentry, hdraws⟩ := hdrawn.draws
        refine ⟨⟨entry, List.mem_cons_of_mem _ hentry, hdraws⟩, fun row hrow hnonce => ?_⟩
        rcases mem_saveAuthNonce hsave hrow with rfl | ⟨hrow, hid⟩
        · rfl
        · exact (hid (h.id_eq (hsound.nonces row hrow).1 hdrawn hnonce)).elim
    | deleteExpiredNonces =>
      rcases hsplit nonce hspent with hspent | ⟨_, _, _, _, _, hop, -⟩
      · exact ⟨(hbefore nonce hspent).1, fun row hrow hnonce =>
          (hbefore nonce hspent).2 row (List.mem_of_mem_filter hrow) hnonce⟩
      · cases hop
    | clearAdminData =>
      rcases hsplit nonce hspent with hspent | ⟨_, _, _, _, _, hop, -⟩
      · exact ⟨(hbefore nonce hspent).1, fun _ hrow => (List.not_mem_nil hrow).elim⟩
      · cases hop
    | findNonce | checkNonce | createSession | abandon | deleteExpiredSessions | advanceTime =>
      rcases hsplit nonce hspent with hspent | ⟨_, _, _, _, _, hop, -⟩
      · exact hbefore nonce hspent
      · cases hop

theorem reachable_once (h : (runs env).ReachableWith FreshNonces (s, log)) : s.Once log := by
  have hboth : s.Sound env log ∧ s.Once log := by
    refine System.ReachableWith.invariant_logged
      (I := fun s log => State.Sound env s log ∧ s.Once log) ?_ ?_ h
    · intro s hinit
      refine ⟨State.Sound.initial hinit, fun _ hentry => (List.not_mem_nil hentry).elim, ?_⟩
      rintro nonce ⟨_, _, _, _, _, _, hmem, -⟩
      exact (List.not_mem_nil hmem).elim
    · exact fun s log op s' hs hfresh hexec =>
        ⟨hs.1.step (exec_step hexec), hs.2.step hs.1 hfresh (exec_step hexec)⟩
  exact hboth.2

/-- Once a nonce is marked, no verification finds it. -/
theorem findNonce_not_spent {request : Nat} {body : VerifyNonceRequest} (h : s.Once log)
    (hexec : exec env s (.findNonce request body) = .ok s') : ¬Spent log body.nonce := by
  intro hspent
  cases exec_step hexec with
  | findNonce hmem hnonce hunused =>
    have hused := (h.spent _ hspent).2 _ hmem hnonce
    rw [hunused] at hused
    cases hused

/-! ## One session for each nonce -/

/-- The nonce that a verification is about. -/
def Verification.nonce : Verification → Option Text
  | .idle => none
  | .found _ record | .approved record _ _ | .redeemed record _ _ _ => some record.nonce

/-- Verifications of one nonce do not overlap. -/
def NoOverlap (log : System.History State Op) : Prop :=
  ∀ y request body, (y, Op.findNonce request body) ∈ log →
    ∀ other, (y.verifications other).nonce ≠ some body.nonce

/-- The step opens a session for the nonce. -/
def opens (nonce : Text) (entry : State × Op) : Bool :=
  match entry.2 with
  | .createSession request _ => decide ((entry.1.verifications request).nonce = some nonce)
  | _ => false

/-- How many sessions a nonce has opened. -/
def opened (nonce : Text) (log : System.History State Op) : Nat := (log.filter (opens nonce)).length

theorem opened_cons (nonce : Text) (entry : State × Op) :
    opened nonce (entry :: log) = opened nonce log + if opens nonce entry then 1 else 0 := by
  unfold opened
  rw [List.filter_cons]
  split <;> simp

/-- A nonce is in one place: with one verification, or behind one session. -/
structure State.Single (s : State) (log : System.History State Op) : Prop where
  holder : ∀ request other nonce, (s.verifications request).nonce = some nonce →
    (s.verifications other).nonce = some nonce → request = other
  marked : ∀ request record signature checkedAt now,
    s.verifications request = .redeemed record signature checkedAt now → Spent log record.nonce
  once : ∀ nonce, opened nonce log ≤ 1
  closed : ∀ nonce, 0 < opened nonce log →
    Spent log nonce ∧ ∀ request, (s.verifications request).nonce ≠ some nonce

/-- A step that opens no session, and after which no other nonce is held. -/
theorem State.Single.keep {op : Op} (h : s.Single log) (hopens : ∀ nonce, opens nonce (s, op) = false)
    (hnonce : ∀ request nonce, (s'.verifications request).nonce = some nonce →
      (s.verifications request).nonce = some nonce)
    (hmarked : ∀ request record signature checkedAt now,
      s'.verifications request = .redeemed record signature checkedAt now →
        Spent ((s, op) :: log) record.nonce) :
    s'.Single ((s, op) :: log) := by
  have hsame : ∀ nonce, opened nonce ((s, op) :: log) = opened nonce log := by
    intro nonce
    rw [opened_cons, hopens]
    rfl
  refine ⟨fun request other nonce hrequest hother => ?_, hmarked, fun nonce => ?_, fun nonce hpos => ?_⟩
  · exact h.holder request other nonce (hnonce _ _ hrequest) (hnonce _ _ hother)
  · rw [hsame]
    exact h.once nonce
  · rw [hsame] at hpos
    obtain ⟨hspent, hfree⟩ := h.closed nonce hpos
    exact ⟨hspent.cons _, fun request hheld => hfree request (hnonce _ _ hheld)⟩

theorem put_verifications (request other : Nat) (verification : Verification) :
    (s.put request verification).verifications other =
      if other = request then verification else s.verifications other := by
  show Function.update s.verifications request verification other = _
  rw [Function.update_apply]

/-- A verification goes on with its nonce, or ends. -/
theorem nonce_put {request : Nat} {verification : Verification}
    (h : verification.nonce = none ∨ verification.nonce = (s.verifications request).nonce) :
    ∀ other nonce, ((s.put request verification).verifications other).nonce = some nonce →
      (s.verifications other).nonce = some nonce := by
  intro other nonce hheld
  rw [put_verifications] at hheld
  split at hheld
  · subst other
    rcases h with hnone | hsame
    · rw [hnone] at hheld
      cases hheld
    · rw [← hsame]
      exact hheld
  · exact hheld

theorem marked_put {request : Nat} {verification : Verification}
    (h : ∀ other record signature checkedAt now,
      s.verifications other = .redeemed record signature checkedAt now → Spent log record.nonce)
    (hverification : ∀ record signature checkedAt now,
      verification = .redeemed record signature checkedAt now → Spent log record.nonce) :
    ∀ other record signature checkedAt now,
      (s.put request verification).verifications other = .redeemed record signature checkedAt now →
        Spent log record.nonce := by
  intro other record signature checkedAt now hredeemed
  rw [put_verifications] at hredeemed
  split at hredeemed
  · exact hverification _ _ _ _ hredeemed
  · exact h other record signature checkedAt now hredeemed

theorem State.Single.step {op : Op} (h : s.Single log) (honce : s.Once log)
    (hoverlap : NoOverlap ((s, op) :: log)) (hexec : exec env s op = .ok s') :
    s'.Single ((s, op) :: log) := by
  have hstep := exec_step hexec
  have hkept : ∀ request record signature checkedAt now,
      s.verifications request = .redeemed record signature checkedAt now →
        Spent ((s, op) :: log) record.nonce :=
    fun request record signature checkedAt now hredeemed =>
      (h.marked request record signature checkedAt now hredeemed).cons _
  cases hstep with
  | createNonce | deleteExpiredNonces | deleteExpiredSessions | clearAdminData | advanceTime =>
    exact h.keep (fun _ => rfl) (fun _ _ hheld => hheld) hkept
  | abandon =>
    refine h.keep (fun _ => rfl) (nonce_put (.inl rfl)) (marked_put hkept ?_)
    rintro _ _ _ _ ⟨⟩
  | @checkNonce request body record hfound happroved =>
    refine h.keep (fun _ => rfl) (nonce_put (.inr ?_)) (marked_put hkept ?_)
    · rw [hfound]
      rfl
    · rintro _ _ _ _ ⟨⟩
  | @saveNonce request record signature checkedAt now nonces hverified hchecked hnow hsave =>
    refine h.keep (fun _ => rfl) (nonce_put (.inr ?_)) fun other record' signature' at' now' => ?_
    · show some record.nonce = (s.verifications request).nonce
      rw [hverified]
      rfl
    · intro hredeemed
      rw [put_verifications] at hredeemed
      split at hredeemed
      · cases hredeemed
        exact ⟨s, request, now, record, signature, checkedAt, List.mem_cons_self, hverified, rfl⟩
      · exact hkept other _ _ _ _ hredeemed
  | @findNonce request body record hmem hnonce hunused =>
    -- without overlap nobody else holds the nonce that is found
    have hfree : ∀ other, (s.verifications other).nonce ≠ some body.nonce :=
      hoverlap s request body List.mem_cons_self
    have hsame : ∀ nonce, opened nonce ((s, .findNonce request body) :: log) = opened nonce log :=
      fun nonce => opened_cons nonce _
    have hheld : ∀ other nonce,
        ((s.put request (.found body record)).verifications other).nonce = some nonce →
          (other = request ∧ nonce = body.nonce) ∨ (s.verifications other).nonce = some nonce := by
      intro other nonce hother
      rw [put_verifications] at hother
      split at hother
      · exact .inl ⟨‹_›, (Option.some.inj hother).symm.trans hnonce⟩
      · exact .inr hother
    refine ⟨fun request' other nonce hrequest hother => ?_, marked_put hkept (by rintro _ _ _ _ ⟨⟩),
      fun nonce => ?_, fun nonce hpos => ?_⟩
    · rcases hheld _ _ hrequest with ⟨hnew, rfl⟩ | hold
      · rcases hheld _ _ hother with ⟨hnew', -⟩ | hold'
        · rw [hnew, hnew']
        · exact (hfree other hold').elim
      · rcases hheld _ _ hother with ⟨-, rfl⟩ | hold'
        · exact (hfree request' hold).elim
        · exact h.holder request' other nonce hold hold'
    · rw [hsame]
      exact h.once nonce
    · rw [hsame] at hpos
      obtain ⟨hspent, hclosed⟩ := h.closed nonce hpos
      refine ⟨hspent.cons _, fun other hother => ?_⟩
      rcases hheld _ _ hother with ⟨-, rfl⟩ | hother
      · exact findNonce_not_spent honce hexec hspent
      · exact hclosed other hother
  | @createSession request token signature record checkedAt now hredeemed =>
    have hrequest : (s.verifications request).nonce = some record.nonce := by
      rw [hredeemed]
      rfl
    have hcount : ∀ nonce, opened nonce ((s, .createSession request token) :: log) =
        opened nonce log + if record.nonce = nonce then 1 else 0 := by
      intro nonce
      rw [opened_cons]
      simp only [opens, hrequest, Option.some.injEq, decide_eq_true_eq]
    -- as long as a request holds a nonce, no session has been opened with it
    have hzero : opened record.nonce log = 0 := by
      by_contra hpos
      exact (h.closed record.nonce (Nat.pos_of_ne_zero hpos)).2 request hrequest
    have hheld : ∀ other nonce,
        ((s.put request .idle).verifications other).nonce = some nonce →
          other ≠ request ∧ (s.verifications other).nonce = some nonce := by
      intro other nonce hother
      rw [put_verifications] at hother
      split at hother
      · cases hother
      · exact ⟨‹_›, hother⟩
    refine ⟨fun request' other nonce hrequest' hother => ?_, marked_put hkept (by rintro _ _ _ _ ⟨⟩),
      fun nonce => ?_, fun nonce hpos => ?_⟩
    · exact h.holder request' other nonce (hheld _ _ hrequest').2 (hheld _ _ hother).2
    · rw [hcount]
      split
      · rename_i hnonce
        rw [← hnonce, hzero]
      · exact h.once nonce
    · rw [hcount] at hpos
      by_cases hnonce : record.nonce = nonce
      · subst hnonce
        refine ⟨(h.marked request record signature checkedAt now hredeemed).cons _,
          fun other hother => ?_⟩
        obtain ⟨hne, hother⟩ := hheld other record.nonce hother
        exact hne (h.holder other request record.nonce hother hrequest)
      · rw [if_neg hnonce] at hpos
        obtain ⟨hspent, hclosed⟩ := h.closed nonce hpos
        exact ⟨hspent.cons _, fun other hother => hclosed other (hheld other nonce hother).2⟩

theorem reachable_single (h : (runs env).ReachableWith FreshNonces (s, log))
    (hoverlap : NoOverlap log) : s.Single log := by
  have hall : (s.Sound env log ∧ s.Once log) ∧ (NoOverlap log → s.Single log) := by
    refine System.ReachableWith.invariant_logged
      (I := fun s log => (State.Sound env s log ∧ s.Once log) ∧ (NoOverlap log → s.Single log))
      ?_ ?_ h
    · intro s hinit
      have hreach : (runs env).ReachableWith FreshNonces (s, []) := .init ⟨hinit, rfl⟩
      refine ⟨⟨State.Sound.initial hinit, reachable_once hreach⟩, fun _ => ?_⟩
      have hidle : ∀ request, s.verifications request = .idle := fun request => by
        rw [hinit.2.2]
      refine ⟨fun request other nonce hheld => ?_, fun request _ _ _ _ hredeemed => ?_,
        fun _ => Nat.zero_le 1, fun _ hpos => (Nat.lt_irrefl 0 hpos).elim⟩
      · rw [hidle] at hheld
        cases hheld
      · rw [hidle] at hredeemed
        cases hredeemed
    · rintro s log op s' ⟨⟨hsound, honce⟩, hsingle⟩ hfresh hexec
      refine ⟨⟨hsound.step (exec_step hexec), honce.step hsound hfresh (exec_step hexec)⟩,
        fun hoverlap => ?_⟩
      have hbefore : NoOverlap log := fun y request body hmem =>
        hoverlap y request body (List.mem_cons_of_mem _ hmem)
      exact (hsingle hbefore).step honce hoverlap hexec
  exact hall.2 hoverlap

/-- In every run in which the random nonces are different: after a verification has marked a
    nonce no verification of it begins, also if the row has been cleaned up and written again
    by one that was under way; and where verifications of one nonce do not overlap, every nonce
    opens one session at most. -/
theorem nonce_redeemed_once (h : (runs env).ReachableWith FreshNonces (s, log)) :
    (∀ later x request now before record signature checkedAt,
      log = later ++ (x, Op.saveNonce request now) :: before →
      x.verifications request = .approved record signature checkedAt →
      ∀ y request' body, (y, Op.findNonce request' body) ∈ later → body.nonce ≠ record.nonce) ∧
    (NoOverlap log → ∀ nonce, opened nonce log ≤ 1) := by
  refine ⟨?_, fun hoverlap => (reachable_single h hoverlap).once⟩
  rintro later x request now before record signature checkedAt hlog hverified y request' body hmem
    hnonce
  obtain ⟨later', between, rfl⟩ := List.append_of_mem hmem
  rw [List.append_assoc, List.cons_append] at hlog
  obtain ⟨hreach, -, y', hexec⟩ := h.earlier hlog
  refine findNonce_not_spent (reachable_once hreach) hexec ?_
  rw [hnonce]
  exact ⟨x, request, now, record, signature, checkedAt,
    List.mem_append_right _ List.mem_cons_self, hverified, rfl⟩

namespace Example

/-- Two verifications find the nonce before one of them marks it. -/
def loginTwice : List Op :=
  [.createNonce wallet body.nonce "2026-01-01T00:00:00Z".toList 100, .findNonce 0 body,
    .findNonce 1 body, .checkNonce 0, .saveNonce 0 100, .createSession 0 token, .checkNonce 1,
    .saveNonce 1 100, .createSession 1 "0xef".toList]

end Example

open Example in
theorem nonce_redeemed_once_login :
    ∃ s log, (runs site).ReachableWith FreshNonces (s, log) ∧
      opened body.nonce log = 1 ∧
      ∀ x request now before later record signature checkedAt,
        log = later ++ (x, Op.saveNonce request now) :: before →
        x.verifications request = .approved record signature checkedAt →
        ∀ y request' body', (y, Op.findNonce request' body') ∈ later →
          body'.nonce ≠ record.nonce := by
  have hrun : (System.runWith (System.logged (exec site)) FreshNonces (start, []) login).map
      (fun r => opened body.nonce r.2) = some 1 := by
    decide +kernel
  obtain ⟨⟨s, log⟩, hs, hopened⟩ := Option.map_eq_some_iff.mp hrun
  have hreach : (runs site).ReachableWith FreshNonces (s, log) :=
    System.reachableWith_of_runWith (.init ⟨start_initial, rfl⟩) hs
  refine ⟨s, log, hreach, hopened, ?_⟩
  intro x request now before later record signature checkedAt
  exact (nonce_redeemed_once hreach).1 later x request now before record signature checkedAt

open Example in
example : (System.runWith (System.logged (exec site)) FreshNonces (start, []) loginTwice).map
    (fun r => opened body.nonce r.2) = some 2 := by
  decide +kernel

end Admin
