-- SUMMARY: The login of the admin backend: nonces, personal signatures, sessions, and the requests interleaved at the granularity of database accesses.
import FluxSwap.Backend.Creation
import FluxSwap.Lib.System
import FluxSwap.Signing.OrderSignature

/-!
# The login of the admin backend

A wallet asks for a nonce, signs a message with it, and has the signature verified, which
opens a session; the token of a session admits a request to the protected routes. A
verification reads the nonce, checks the signature, marks the nonce and creates the session in
separate accesses to the database, between which other requests run. Instants are nanoseconds.
-/

namespace Admin

open Text

/-! ## Addresses and the list of administrators -/

/-- The configuration, and what is used of go-ethereum and `crypto/sha256`. -/
structure Env where
  goEthereum      : OrderSignature.GoEthereum
  isHexAddress    : Text → Bool
  sha256          : Bytes → Bytes32
  appEnv          : Text
  adminWallets    : List Text
  sessionTTLHours : Int

def normalizeAddress (address : Text) : Text := normalize address

structure AdminAllowlist where
  addresses     : List Text
  allowLocalAny : Bool

/-- `NewAdminAllowlist`. -/
def Env.allowlist (env : Env) : AdminAllowlist where
  addresses := (env.adminWallets.map normalizeAddress).filter env.isHexAddress
  allowLocalAny :=
    decide (toLower (trimSpace env.appEnv) = "local".toList) && env.adminWallets.isEmpty

def Env.isAddress (env : Env) (address : Text) : Bool := env.isHexAddress (normalizeAddress address)

def Env.isConfigured (env : Env) : Bool :=
  !env.allowlist.addresses.isEmpty || env.allowlist.allowLocalAny

def Env.isAdmin (env : Env) (address : Text) : Bool :=
  if env.allowlist.allowLocalAny then env.isAddress address
  else env.allowlist.addresses.contains (normalizeAddress address)

/-! ## Signatures and tokens -/

/-- The bytes of a Go string. -/
def utf8 (s : Text) : Bytes := s.flatMap String.utf8EncodeChar

/-- `hex.DecodeString`. -/
def decodeString : Text → Option Bytes
  | [] => some []
  | [_] => none
  | high :: low :: rest =>
    if high.isHexDigit && low.isHexDigit then
      (decodeString rest).map ((16 * hexDigit high + hexDigit low).toUInt8 :: ·)
    else none

/-- `strings.TrimPrefix`. -/
def trimPrefix (start s : Text) : Text := if start.isPrefixOf s then s.drop start.length else s

/-- What a wallet signs for a message. -/
def personalBytes (message : Text) : Bytes :=
  0x19 :: utf8 "Ethereum Signed Message:\n".toList ++
    utf8 (Nat.toDigits 10 (utf8 message).length) ++ utf8 message

/-- `RecoverPersonalSignAddress`. The notation of an address is normalized. -/
def recoverPersonalSignAddress (g : OrderSignature.GoEthereum) (message signatureHex : Text) :
    Option Text := do
  let signatureBytes ← decodeString (trimPrefix "0x".toList signatureHex)
  if signatureBytes.length ≠ 65 then none
  let v := OrderSignature.sigV signatureBytes
  let signatureBytes := if 27 ≤ v then signatureBytes.set 64 (v - 27) else signatureBytes
  match g.sigToPub (g.keccak256Hash (personalBytes message)) signatureBytes with
  | .ok publicKey => some (lowerHex 40 (g.pubkeyToAddress publicKey))
  | .error _ => none

def Env.tokenHash (env : Env) (token : Text) : Text := lowerHexDigits 64 (env.sha256 (utf8 token))

/-- `written` is the time in the notation of RFC 3339. -/
def loginMessage (wallet nonce written : Text) : Text :=
  "FluxSwap 管理端登录\n钱包: ".toList ++ wallet ++ "\n随机数: ".toList ++ nonce ++
    "\n时间: ".toList ++ written

/-! ## Tables -/

structure AdminAuthNonce where
  id            : Nat
  walletAddress : Text
  nonce         : Text
  message       : Text
  expiresAt     : Int
  used          : Bool
  usedAt        : Option Int
  createdAt     : Int
  updatedAt     : Int
  deriving DecidableEq

structure AdminSession where
  tokenHash     : Text
  walletAddress : Text
  expiresAt     : Int
  revokedAt     : Option Int
  createdAt     : Int
  updatedAt     : Int
  deriving DecidableEq

/-- `FindUnusedByNonce`. -/
def findUnusedByNonce (rows : List AdminAuthNonce) (nonce : Text) : Option AdminAuthNonce :=
  rows.find? fun row => decide (row.nonce = nonce) && !row.used

/-- `Create` with the unique index on the nonce. -/
def createAuthNonce (rows : List AdminAuthNonce) (row : AdminAuthNonce) :
    Option (List AdminAuthNonce) :=
  if rows.any fun other => other.nonce = row.nonce then none else some (rows ++ [row])

/-- `Save`: all columns of the row with the key, which is inserted if it is gone. -/
def saveAuthNonce (rows : List AdminAuthNonce) (record : AdminAuthNonce) :
    Option (List AdminAuthNonce) :=
  if rows.any fun row => row.id = record.id then
    some (rows.map fun row => if row.id = record.id then record else row)
  else createAuthNonce rows record

/-- `Create` with the unique index on the hash of the token. -/
def createAdminSession (rows : List AdminSession) (row : AdminSession) :
    Option (List AdminSession) :=
  if rows.any fun other => other.tokenHash = row.tokenHash then none else some (rows ++ [row])

/-- `FindActiveByTokenHash`. -/
def findActiveByTokenHash (rows : List AdminSession) (tokenHash : Text) (now : Int) :
    Option AdminSession :=
  rows.find? fun row =>
    decide (row.tokenHash = tokenHash) && row.revokedAt.isNone && decide (now < row.expiresAt)

/-! ## Requests -/

/-- A status code with a message. -/
structure HttpError where
  status  : Nat
  message : String

/-- `fail`, unless a condition holds. -/
def check (condition : Bool) (status : Nat) (message : String) : Except HttpError Unit :=
  if condition then .ok () else .error ⟨status, message⟩

def found {α : Type} (result : Option α) (status : Nat) (message : String) : Except HttpError α :=
  match result with
  | some a => .ok a
  | none => .error ⟨status, message⟩

structure VerifyNonceRequest where
  walletAddress : Text
  nonce         : Text
  signature     : Text

/-- Where a verification stands, with its variables. -/
inductive Verification
  | idle
  /-- After `FindUnusedByNonce`. -/
  | found (body : VerifyNonceRequest) (record : AdminAuthNonce)
  /-- After the checks, the last of which was at `checkedAt`. -/
  | approved (record : AdminAuthNonce) (signature : Text) (checkedAt : Int)
  /-- After `Save`; `now` has been read just before. -/
  | redeemed (record : AdminAuthNonce) (signature : Text) (checkedAt now : Int)

structure State where
  now           : Int
  nonces        : List AdminAuthNonce
  nextId        : Nat
  sessions      : List AdminSession
  verifications : Nat → Verification

def minute : Int := 60 * 10 ^ 9

def hour : Int := 60 * minute

/-- `time.Duration(h.cfg.SessionTTLHours) * time.Hour`, which is a product of `int64`. -/
def Env.sessionTTL (env : Env) : Int := Int.bmod (env.sessionTTLHours * hour) (2 ^ 64)

/-- The steps of the requests. A request is a number; `now` is a reading of the clock. -/
inductive Op
  | createNonce (walletAddress nonce written : Text) (now : Int)
  | findNonce (request : Nat) (body : VerifyNonceRequest)
  | checkNonce (request : Nat)
  | saveNonce (request : Nat) (now : Int)
  | createSession (request : Nat) (token : Text)
  /-- A request that fails or is given up. -/
  | abandon (request : Nat)
  | deleteExpiredNonces (now : Int)
  | deleteExpiredSessions (now : Int)
  | clearAdminData
  | advanceTime (now : Int)

/-- The row that `createNonce` stores. -/
def nonceRow (id : Nat) (wallet nonce written : Text) (now : Int) : AdminAuthNonce where
  id := id
  walletAddress := wallet
  nonce := nonce
  message := loginMessage wallet nonce written
  expiresAt := now + 10 * minute
  used := false
  usedAt := none
  createdAt := now
  updatedAt := now

/-- The handler `createNonce`; the random nonce has been drawn. -/
def createNonce (env : Env) (walletAddress nonce written : Text) (now : Int) (s : State) :
    Except HttpError State := do
  check (!walletAddress.isEmpty) 400 "请求参数无效"
  check env.isConfigured 403 "管理端管理员白名单未配置"
  let wallet := normalizeAddress walletAddress
  check (env.isAddress wallet) 400 "钱包地址格式无效"
  check (env.isAdmin wallet) 403 "当前钱包没有管理权限"
  let nonces ← found (createAuthNonce s.nonces (nonceRow s.nextId wallet nonce written now)) 500
    "保存登录随机数失败"
  return { s with nonces := nonces, nextId := s.nextId + 1 }

/-- The handler `verifyNonce` up to `FindUnusedByNonce`. -/
def findNonce (env : Env) (body : VerifyNonceRequest) (s : State) :
    Except HttpError AdminAuthNonce := do
  check (!body.walletAddress.isEmpty && !body.nonce.isEmpty && !body.signature.isEmpty) 400
    "请求参数无效"
  check env.isConfigured 403 "管理端管理员白名单未配置"
  found (findUnusedByNonce s.nonces body.nonce) 400 "登录随机数不存在或已使用"

/-- The checks of `verifyNonce`. -/
def checkNonce (env : Env) (body : VerifyNonceRequest) (record : AdminAuthNonce) (now : Int) :
    Except HttpError Unit := do
  let wallet := normalizeAddress body.walletAddress
  check (env.isAddress wallet) 400 "钱包地址格式无效"
  check (decide (record.walletAddress = wallet)) 400 "钱包地址和登录随机数不匹配"
  check (decide (now ≤ record.expiresAt)) 400 "登录随机数已过期"
  check (decide (recoverPersonalSignAddress env.goEthereum record.message body.signature =
    some wallet)) 401 "钱包签名校验失败"
  check (env.isAdmin wallet) 403 "当前钱包没有管理权限"

/-- The session that a verification opens. -/
def openedSession (env : Env) (record : AdminAuthNonce) (token : Text) (now : Int) :
    AdminSession where
  tokenHash := env.tokenHash token
  walletAddress := record.walletAddress
  expiresAt := now + env.sessionTTL
  revokedAt := none
  createdAt := now
  updatedAt := now

/-- A step that the request is not at, or a reading of a clock that lies ahead. -/
def notEnabled : HttpError := ⟨0, "not enabled"⟩

def State.put (s : State) (request : Nat) (verification : Verification) : State :=
  { s with verifications := Function.update s.verifications request verification }

/-- One step. -/
def exec (env : Env) (s : State) : Op → Except HttpError State
  | .createNonce walletAddress nonce written now =>
    if now ≤ s.now then createNonce env walletAddress nonce written now s else .error notEnabled
  | .findNonce request body =>
    match s.verifications request with
    | .idle => do
      let record ← findNonce env body s
      return s.put request (.found body record)
    | _ => .error notEnabled
  | .checkNonce request =>
    match s.verifications request with
    | .found body record => do
      checkNonce env body record s.now
      return s.put request (.approved record body.signature s.now)
    | _ => .error notEnabled
  | .saveNonce request now =>
    match s.verifications request with
    | .approved record signature checkedAt =>
      if checkedAt ≤ now ∧ now ≤ s.now then do
        let nonces ← found (saveAuthNonce s.nonces
          { record with used := true, usedAt := some now, updatedAt := now }) 500
          "更新登录随机数失败"
        return { s with nonces := nonces }.put request (.redeemed record signature checkedAt now)
      else .error notEnabled
    | _ => .error notEnabled
  | .createSession request token =>
    match s.verifications request with
    | .redeemed record _ _ now => do
      let sessions ← found (createAdminSession s.sessions (openedSession env record token now)) 500
        "创建登录会话失败"
      return { s with sessions := sessions }.put request .idle
    | _ => .error notEnabled
  | .abandon request => .ok (s.put request .idle)
  | .deleteExpiredNonces now =>
    if now ≤ s.now then
      .ok { s with nonces := s.nonces.filter fun row => decide (now < row.expiresAt) }
    else .error notEnabled
  | .deleteExpiredSessions now =>
    if now ≤ s.now then
      .ok { s with sessions := s.sessions.filter fun row => decide (now < row.expiresAt) }
    else .error notEnabled
  | .clearAdminData => .ok { s with nonces := [], sessions := [] }
  | .advanceTime now => if s.now ≤ now then .ok { s with now := now } else .error notEnabled

/-! ## The protected routes -/

def bearerToken (header : Text) : Text :=
  let header := trimSpace header
  if header.isEmpty then []
  else if !"Bearer ".toList.isPrefixOf header then []
  else trimSpace (trimPrefix "Bearer ".toList header)

/-- The middleware `requireAdmin`: the address that it hands on. -/
def requireAdmin (env : Env) (s : State) (header : Text) (now : Int) : Except HttpError Text := do
  check env.isConfigured 403 "管理端管理员白名单未配置"
  let token := bearerToken header
  check (!token.isEmpty) 401 "缺少管理端登录令牌"
  let session ← found (findActiveByTokenHash s.sessions (env.tokenHash token) now) 401
    "管理端登录已过期或无效"
  check (env.isAdmin session.walletAddress) 403 "当前钱包没有管理权限"
  return session.walletAddress

/-- Empty tables and no request. -/
def Initial (s : State) : Prop :=
  s.nonces = [] ∧ s.sessions = [] ∧ s.verifications = fun _ => .idle

/-- All runs of the admin backend, with their histories. -/
def runs (env : Env) : System (State × System.History State Op) Op :=
  .ofCallsLogged Initial (exec env)

end Admin
