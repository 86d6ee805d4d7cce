-- SUMMARY: Whoever passes the middleware has proved the ownership of an administrator's wallet in time.
import FluxSwap.Admin.Login

/-!
# Sessions of administrators

Every session goes back to one verification, whose signature belongs to the wallet that the
nonce was drawn for. This holds however the requests interleave: a step either leaves a row or
a verification as it is or extends what is known about it.
-/

namespace Admin

open Text

variable {env : Env} {s s' : State} {log : System.History State Op}

/-! ## What a step can do -/

@[simp] theorem check_eq_ok {condition : Bool} {status : Nat} {message : String} {u : Unit} :
    check condition status message = .ok u ↔ condition = true := by
  unfold check
  split <;> simp_all

@[simp] theorem found_eq_ok {α : Type} {result : Option α} {status : Nat} {message : String}
    {a : α} : found result status message = .ok a ↔ result = some a := by
  unfold found
  split <;> simp_all

@[simp] theorem except_pure_eq_ok {ε α : Type} {a b : α} :
    (pure a : Except ε α) = .ok b ↔ a = b := by
  simp [pure, Except.pure]

/-- The checks of a verification at an instant. -/
structure Approved (env : Env) (record : AdminAuthNonce) (signature : Text) (now : Int) : Prop where
  inTime : now ≤ record.expiresAt
  signed : recoverPersonalSignAddress env.goEthereum record.message signature =
    some record.walletAddress
  admin : env.isAdmin record.walletAddress = true

theorem checkNonce_ok {body : VerifyNonceRequest} {record : AdminAuthNonce} {now : Int}
    (h : checkNonce env body record now = .ok ()) : Approved env record body.signature now := by
  simp only [checkNonce, Backend.except_bind_eq_ok, check_eq_ok, decide_eq_true_eq] at h
  obtain ⟨_, -, _, hwallet, _, htime, _, hsigned, hadmin⟩ := h
  rw [← hwallet] at hsigned hadmin
  exact ⟨htime, hsigned, hadmin⟩

theorem findUnusedByNonce_some {rows : List AdminAuthNonce} {nonce : Text} {record : AdminAuthNonce}
    (h : findUnusedByNonce rows nonce = some record) :
    record ∈ rows ∧ record.nonce = nonce ∧ record.used = false := by
  have hmatch := List.find?_some h
  simp only [Bool.and_eq_true, decide_eq_true_eq, Bool.not_eq_true'] at hmatch
  exact ⟨List.mem_of_find?_eq_some h, hmatch.1, hmatch.2⟩

/-- What `Save` leaves: the record itself, and rows that were there. -/
theorem mem_saveAuthNonce {rows rows' : List AdminAuthNonce} {record row : AdminAuthNonce}
    (h : saveAuthNonce rows record = some rows') (hrow : row ∈ rows') :
    row = record ∨ row ∈ rows ∧ row.id ≠ record.id := by
  unfold saveAuthNonce createAuthNonce at h
  split at h
  · obtain rfl := Option.some.inj h
    obtain ⟨row', hmem, rfl⟩ := List.mem_map.mp hrow
    by_cases hid : row'.id = record.id
    · exact .inl (if_pos hid)
    · rw [if_neg hid]
      exact .inr ⟨hmem, hid⟩
  · rename_i hmissing
    split at h
    · cases h
    · obtain rfl := Option.some.inj h
      rcases List.mem_append.mp hrow with hmem | hmem
      · refine .inr ⟨hmem, fun hid => hmissing ?_⟩
        exact List.any_eq_true.mpr ⟨row, hmem, decide_eq_true hid⟩
      · exact .inl (List.mem_singleton.mp hmem)

/-- The steps, case by case. -/
inductive Step (env : Env) (s : State) : Op → State → Prop
  | createNonce {walletAddress nonce written : Text} {now : Int} :
      now ≤ s.now → env.isAdmin (normalizeAddress walletAddress) = true →
      Step env s (.createNonce walletAddress nonce written now)
        { s with
          nonces := s.nonces ++
            [nonceRow s.nextId (normalizeAddress walletAddress) nonce written now]
          nextId := s.nextId + 1 }
  | findNonce {request : Nat} {body : VerifyNonceRequest} {record : AdminAuthNonce} :
      record ∈ s.nonces → record.nonce = body.nonce → record.used = false →
      Step env s (.findNonce request body) (s.put request (.found body record))
  | checkNonce {request : Nat} {body : VerifyNonceRequest} {record : AdminAuthNonce} :
      s.verifications request = .found body record → Approved env record body.signature s.now →
      Step env s (.checkNonce request) (s.put request (.approved record body.signature s.now))
  | saveNonce {request : Nat} {record : AdminAuthNonce} {signature : Text} {checkedAt now : Int}
      {nonces : List AdminAuthNonce} :
      s.verifications request = .approved record signature checkedAt → checkedAt ≤ now →
      now ≤ s.now →
      saveAuthNonce s.nonces { record with used := true, usedAt := some now, updatedAt := now } =
        some nonces →
      Step env s (.saveNonce request now)
        ({ s with nonces := nonces }.put request (.redeemed record signature checkedAt now))
  | createSession {request : Nat} {token signature : Text} {record : AdminAuthNonce}
      {checkedAt now : Int} :
      s.verifications request = .redeemed record signature checkedAt now →
      Step env s (.createSession request token)
        ({ s with sessions := s.sessions ++ [openedSession env record token now] }.put request .idle)
  | abandon {request : Nat} : Step env s (.abandon request) (s.put request .idle)
  | deleteExpiredNonces {now : Int} :
      Step env s (.deleteExpiredNonces now)
        { s with nonces := s.nonces.filter fun row => decide (now < row.expiresAt) }
  | deleteExpiredSessions {now : Int} :
      Step env s (.deleteExpiredSessions now)
        { s with sessions := s.sessions.filter fun row => decide (now < row.expiresAt) }
  | clearAdminData : Step env s .clearAdminData { s with nonces := [], sessions := [] }
  | advanceTime {now : Int} : s.now ≤ now → Step env s (.advanceTime now) { s with now := now }

theorem exec_step {op : Op} (h : exec env s op = .ok s') : Step env s op s' := by
  unfold exec at h
  split at h
  · split at h
    · simp only [createNonce, Backend.except_bind_eq_ok, check_eq_ok, found_eq_ok,
        except_pure_eq_ok] at h
      obtain ⟨_, -, _, -, _, -, _, hadmin, nonces, hcreate, rfl⟩ := h
      unfold createAuthNonce at hcreate
      split at hcreate
      · cases hcreate
      · cases hcreate
        exact .createNonce ‹_› hadmin
    · cases h
  · split at h
    · simp only [findNonce, Backend.except_bind_eq_ok, check_eq_ok, found_eq_ok,
        except_pure_eq_ok] at h
      obtain ⟨record, ⟨_, -, _, -, hfind⟩, rfl⟩ := h
      obtain ⟨hmem, hnonce, hunused⟩ := findUnusedByNonce_some hfind
      exact .findNonce hmem hnonce hunused
    · cases h
  · split at h
    · simp only [Backend.except_bind_eq_ok, except_pure_eq_ok] at h
      obtain ⟨_, hcheck, rfl⟩ := h
      exact .checkNonce ‹_› (checkNonce_ok hcheck)
    · cases h
  · split at h
    · split at h
      · simp only [Backend.except_bind_eq_ok, found_eq_ok, except_pure_eq_ok] at h
        obtain ⟨nonces, hsave, rfl⟩ := h
        exact .saveNonce ‹_› (And.left ‹_›) (And.right ‹_›) hsave
      · cases h
    · cases h
  · split at h
    · simp only [Backend.except_bind_eq_ok, found_eq_ok, except_pure_eq_ok] at h
      obtain ⟨sessions, hcreate, rfl⟩ := h
      unfold createAdminSession at hcreate
      split at hcreate
      · cases hcreate
      · cases hcreate
        exact .createSession ‹_›
    · cases h
  · cases h
    exact .abandon
  · split at h <;> cases h
    exact .deleteExpiredNonces
  · split at h <;> cases h
    exact .deleteExpiredSessions
  · cases h
    exact .clearAdminData
  · split at h <;> cases h
    exact .advanceTime ‹_›

/-! ## Where sessions come from -/

/-- An earlier request of an administrator drew the nonce. -/
def Drawn (env : Env) (log : System.History State Op) (record : AdminAuthNonce) : Prop :=
  ∃ x walletAddress written,
    (x, Op.createNonce walletAddress record.nonce written record.createdAt) ∈ log ∧
    record.id = x.nextId ∧ record.walletAddress = normalizeAddress walletAddress ∧
    env.isAdmin record.walletAddress = true ∧
    record.message = loginMessage record.walletAddress record.nonce written ∧
    record.expiresAt = record.createdAt + 10 * minute

theorem Drawn.cons {record : AdminAuthNonce} (h : Drawn env log record) (entry : State × Op) :
    Drawn env (entry :: log) record := by
  obtain ⟨x, walletAddress, written, hmem, hrest⟩ := h
  exact ⟨x, walletAddress, written, List.mem_cons_of_mem _ hmem, hrest⟩

/-- What is known about a verification, at an instant. -/
def Verification.Good (env : Env) (log : System.History State Op) (now : Int) :
    Verification → Prop
  | .idle => True
  | .found _ record => Drawn env log record ∧ record.createdAt ≤ now
  | .approved record signature checkedAt =>
    Drawn env log record ∧ Approved env record signature checkedAt ∧
      record.createdAt ≤ checkedAt ∧ checkedAt ≤ now
  | .redeemed record signature checkedAt redeemedAt =>
    Drawn env log record ∧ Approved env record signature checkedAt ∧
      record.createdAt ≤ checkedAt ∧ checkedAt ≤ redeemedAt ∧ redeemedAt ≤ now

theorem Verification.Good.later {verification : Verification} {now now' : Int}
    (h : verification.Good env log now) (entry : State × Op) (hnow : now ≤ now') :
    verification.Good env (entry :: log) now' := by
  cases verification with
  | idle => trivial
  | found body record => exact ⟨h.1.cons entry, h.2.trans hnow⟩
  | approved record signature checkedAt =>
    obtain ⟨hdrawn, happroved, hcreated, hchecked⟩ := h
    exact ⟨hdrawn.cons entry, happroved, hcreated, hchecked.trans hnow⟩
  | redeemed record signature checkedAt redeemedAt =>
    obtain ⟨hdrawn, happroved, hcreated, hchecked, hredeemed⟩ := h
    exact ⟨hdrawn.cons entry, happroved, hcreated, hchecked, hredeemed.trans hnow⟩

/-- A verification opened the session. -/
def Opened (env : Env) (log : System.History State Op) (session : AdminSession) : Prop :=
  ∃ x request token record signature checkedAt redeemedAt,
    (x, Op.createSession request token) ∈ log ∧
    x.verifications request = .redeemed record signature checkedAt redeemedAt ∧
    (x.verifications request).Good env log x.now ∧
    session = openedSession env record token redeemedAt

theorem Opened.cons {session : AdminSession} (h : Opened env log session) (entry : State × Op) :
    Opened env (entry :: log) session := by
  obtain ⟨x, request, token, record, signature, checkedAt, redeemedAt, hmem, hverification, hgood,
    hsession⟩ := h
  exact ⟨x, request, token, record, signature, checkedAt, redeemedAt, List.mem_cons_of_mem _ hmem,
    hverification, hgood.later entry le_rfl, hsession⟩

structure State.Sound (env : Env) (s : State) (log : System.History State Op) : Prop where
  nonces : ∀ row ∈ s.nonces, Drawn env log row ∧ row.createdAt ≤ s.now
  verifications : ∀ request, (s.verifications request).Good env log s.now
  sessions : ∀ session ∈ s.sessions, Opened env log session

theorem State.Sound.initial (h : Initial s) : s.Sound env [] := by
  obtain ⟨hnonces, hsessions, hverifications⟩ := h
  refine ⟨fun row hrow => ?_, fun request => ?_, fun session hsession => ?_⟩
  · rw [hnonces] at hrow
    cases hrow
  · rw [hverifications]
    trivial
  · rw [hsessions] at hsession
    cases hsession

/-- A new verification in place of an old one. -/
theorem goods_put {verification : Verification} {now : Int} (request : Nat)
    (hgoods : ∀ other, (s.verifications other).Good env log now)
    (hgood : verification.Good env log now) :
    ∀ other, ((s.put request verification).verifications other).Good env log now := by
  intro other
  show (Function.update s.verifications request verification other).Good _ _ _
  by_cases hother : other = request
  · rw [hother, Function.update_self]
    exact hgood
  · rw [Function.update_of_ne hother]
    exact hgoods other

theorem State.Sound.step {op : Op} (h : s.Sound env log) (hstep : Step env s op s') :
    s'.Sound env ((s, op) :: log) := by
  have hnonces : ∀ row ∈ s.nonces, Drawn env ((s, op) :: log) row ∧ row.createdAt ≤ s.now :=
    fun row hrow => ⟨(h.nonces row hrow).1.cons _, (h.nonces row hrow).2⟩
  have hverifications : ∀ request, (s.verifications request).Good env ((s, op) :: log) s.now :=
    fun request => (h.verifications request).later _ le_rfl
  have hsessions : ∀ session ∈ s.sessions, Opened env ((s, op) :: log) session :=
    fun session hsession => (h.sessions session hsession).cons _
  cases hstep with
  | createNonce hnow hadmin =>
    refine ⟨fun row hrow => ?_, hverifications, hsessions⟩
    rcases List.mem_append.mp hrow with hrow | hrow
    · exact hnonces row hrow
    · obtain rfl := List.mem_singleton.mp hrow
      exact ⟨⟨s, _, _, List.mem_cons_self, rfl, rfl, hadmin, rfl, rfl⟩, hnow⟩
  | findNonce hmem hnonce hunused =>
    exact ⟨hnonces, goods_put _ hverifications (hnonces _ hmem), hsessions⟩
  | @checkNonce request body record hfound happroved =>
    have hgood := hverifications request
    rw [hfound] at hgood
    exact ⟨hnonces, goods_put _ hverifications ⟨hgood.1, happroved, hgood.2, le_rfl⟩, hsessions⟩
  | @saveNonce request record signature checkedAt now nonces hverified hchecked hnow hsave =>
    have hgood := hverifications request
    rw [hverified] at hgood
    obtain ⟨hdrawn, happroved, hcreated, hpast⟩ := hgood
    refine ⟨fun row hrow => ?_,
      goods_put _ hverifications ⟨hdrawn, happroved, hcreated, hchecked, hnow⟩, hsessions⟩
    -- only the row that was marked is new, and it was drawn as the record was
    rcases mem_saveAuthNonce hsave hrow with rfl | ⟨hrow, -⟩
    · exact ⟨hdrawn, hcreated.trans hpast⟩
    · exact hnonces row hrow
  | @createSession request token signature record checkedAt now hredeemed =>
    refine ⟨hnonces, goods_put _ hverifications trivial, fun session hsession => ?_⟩
    rcases List.mem_append.mp hsession with hsession | hsession
    · exact hsessions session hsession
    · obtain rfl := List.mem_singleton.mp hsession
      exact ⟨s, request, token, record, signature, checkedAt, now, List.mem_cons_self, hredeemed,
        hverifications request, rfl⟩
  | abandon => exact ⟨hnonces, goods_put _ hverifications trivial, hsessions⟩
  | deleteExpiredNonces =>
    exact ⟨fun row hrow => hnonces row (List.mem_of_mem_filter hrow), hverifications, hsessions⟩
  | deleteExpiredSessions =>
    exact ⟨hnonces, hverifications, fun session hsession =>
      hsessions session (List.mem_of_mem_filter hsession)⟩
  | clearAdminData =>
    exact ⟨fun _ hrow => (List.not_mem_nil hrow).elim, hverifications,
      fun _ hsession => (List.not_mem_nil hsession).elim⟩
  | advanceTime hnow =>
    exact ⟨fun row hrow => ⟨(hnonces row hrow).1, (hnonces row hrow).2.trans hnow⟩,
      fun request => (h.verifications request).later _ hnow, hsessions⟩

theorem reachable_sound {ok : State × System.History State Op → Op → Prop}
    (h : (runs env).ReachableWith ok (s, log)) : s.Sound env log := by
  refine System.ReachableWith.invariant_logged (I := State.Sound env) ?_ ?_ h
  · exact fun s hinit => State.Sound.initial hinit
  · exact fun s log op s' hs _ hexec => hs.step (exec_step hexec)

theorem requireAdmin_ok {header address : Text} {now : Int}
    (h : requireAdmin env s header now = .ok address) :
    env.isAdmin address = true ∧ ∃ session ∈ s.sessions, session.walletAddress = address ∧
      session.tokenHash = env.tokenHash (bearerToken header) ∧ now < session.expiresAt := by
  simp only [requireAdmin, Backend.except_bind_eq_ok, check_eq_ok, found_eq_ok,
    except_pure_eq_ok] at h
  obtain ⟨_, -, _, -, session, hfind, _, hadmin, rfl⟩ := h
  have hmatch := List.find?_some hfind
  simp only [Bool.and_eq_true, decide_eq_true_eq] at hmatch
  exact ⟨hadmin, session, List.mem_of_find?_eq_some hfind, rfl, hmatch.1.1, hmatch.2⟩

namespace Example

def wallet : Text := lowerHex 40 4

/-- A wallet whose signatures are recognised by their length. -/
def goEthereum : OrderSignature.GoEthereum where
  keccak256Hash _ := 0
  pack _ := .ok []
  toAddress _ := none
  decode _ := .ok []
  validateSignatureValues _ _ _ _ := true
  sigToPub _ signature := if signature.length = 65 then .ok [] else .error "invalid signature"
  pubkeyToAddress _ := 4

/-- One administrator, and sessions of twelve hours. -/
def site : Env where
  goEthereum := goEthereum
  isHexAddress := isHex 40
  sha256 bytes := Fin.ofNat _ (bytes.foldl (fun acc b => acc * 257 + b.toNat + 1) 0)
  appEnv := "production".toList
  adminWallets := [wallet]
  sessionTTLHours := 12

def start : State where
  now := 100
  nonces := []
  nextId := 1
  sessions := []
  verifications := fun _ => .idle

theorem start_initial : Initial start := ⟨rfl, rfl, rfl⟩

def body : VerifyNonceRequest where
  walletAddress := wallet
  nonce := "0x1234".toList
  signature := lowerHex 130 27

def token : Text := "0xabcd".toList

/-- A nonce is drawn, and one verification opens a session. -/
def login : List Op :=
  [.createNonce wallet body.nonce "2026-01-01T00:00:00Z".toList 100, .advanceTime 200,
    .findNonce 0 body, .checkNonce 0, .saveNonce 0 200, .createSession 0 token]

end Example

/-- Whatever requests have run, in whatever order: an address that the middleware hands on is
    an administrator's. A verification returned a token with the hash of the one presented, the
    session has not expired, and in that verification the wallet of this address had signed the
    message of a nonce that was drawn for it, at most ten minutes before. -/
theorem session_authenticated {header address : Text} {now : Int}
    (h : (runs env).Reachable (s, log)) (hadmitted : requireAdmin env s header now = .ok address) :
    env.isAdmin address = true ∧
    ∃ x request token record signature checkedAt redeemedAt,
      (x, Op.createSession request token) ∈ log ∧
      x.verifications request = .redeemed record signature checkedAt redeemedAt ∧
      env.tokenHash token = env.tokenHash (bearerToken header) ∧
      record.walletAddress = address ∧ Drawn env log record ∧
      recoverPersonalSignAddress env.goEthereum record.message signature = some address ∧
      record.createdAt ≤ checkedAt ∧ checkedAt ≤ record.createdAt + 10 * minute ∧
      checkedAt ≤ redeemedAt ∧ now < redeemedAt + env.sessionTTL := by
  obtain ⟨hadmin, session, hmem, rfl, hhash, hnow⟩ := requireAdmin_ok hadmitted
  obtain ⟨x, request, token, record, signature, checkedAt, redeemedAt, hcreated, hverification,
    hgood, rfl⟩ := (reachable_sound h).sessions session hmem
  rw [hverification] at hgood
  obtain ⟨hdrawn, happroved, hafter, hchecked, -⟩ := hgood
  have hexpires : record.expiresAt = record.createdAt + 10 * minute := by
    obtain ⟨-, -, -, -, -, -, -, -, hexpires⟩ := hdrawn
    exact hexpires
  refine ⟨hadmin, x, request, token, record, signature, checkedAt, redeemedAt, hcreated,
    hverification, hhash, rfl, hdrawn, happroved.signed, hafter, ?_, hchecked, hnow⟩
  exact hexpires ▸ happroved.inTime

open Example in
theorem session_authenticated_login :
    ∃ s log, (runs site).Reachable (s, log) ∧
      requireAdmin site s ("Bearer ".toList ++ token) 300 = .ok wallet ∧
      ∃ record signature checkedAt, Drawn site log record ∧
        recoverPersonalSignAddress goEthereum record.message signature = some wallet ∧
        checkedAt ≤ record.createdAt + 10 * minute := by
  have hrun : (System.runWith (System.logged (exec site)) (fun _ _ => True) (start, [])
      login).map (fun r => (requireAdmin site r.1 ("Bearer ".toList ++ token) 300).toOption) =
        some (some wallet) := by
    decide +kernel
  obtain ⟨⟨s, log⟩, hs, hadmitted⟩ := Option.map_eq_some_iff.mp hrun
  have hreach : (runs site).Reachable (s, log) :=
    System.reachableWith_of_runWith (.init ⟨start_initial, rfl⟩) hs
  have hadmitted : requireAdmin site s ("Bearer ".toList ++ token) 300 = .ok wallet :=
    Backend.except_toOption_eq_some.mp hadmitted
  obtain ⟨-, _, _, _, record, signature, checkedAt, _, -, -, -, -, hdrawn, hsigned, -, hintime, -⟩ :=
    session_authenticated hreach hadmitted
  exact ⟨s, log, hreach, hadmitted, record, signature, checkedAt, hdrawn, hsigned, hintime⟩

end Admin
