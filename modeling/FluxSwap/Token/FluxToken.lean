-- SUMMARY: The protocol token FluxToken: a capped and burnable ERC20 with an owner and a minter role.
import FluxSwap.Contracts.ERC20
import FluxSwap.Contracts.OpenZeppelin
import FluxSwap.Lib.System

/-!
# FluxToken

The token inherits transfers, burning, its cap, its owner and its roles, and adds a minter role,
which moves with the ownership. Events are left out.
-/

open Exec

/-- The roles of the token. -/
inductive TokenRole
  | defaultAdmin
  | minter
  | other (id : Nat)
  deriving DecidableEq, Repr

instance : RoleNames TokenRole := ⟨.defaultAdmin⟩

@[simp] theorem TokenRole.defaultAdmin_eq :
    (RoleNames.defaultAdmin : TokenRole) = .defaultAdmin := rfl

/-- Storage of the token. -/
structure FluxToken extends ERC20Storage where
  owner   : Address
  hasRole : Roles TokenRole Address

namespace FluxToken

/-! ## What is inherited as it is -/

/-- An inherited function of the token contracts. -/
def onERC20 (call : ERC20Storage → Exec ERC20Storage) (t : FluxToken) : Exec FluxToken := do
  let s ← call t.toERC20Storage
  pure { t with toERC20Storage := s }

theorem onERC20_eq_ok {call : ERC20Storage → Exec ERC20Storage} {t t' : FluxToken} :
    t.onERC20 call = .ok t' ↔
      ∃ s, call t.toERC20Storage = .ok s ∧ { t with toERC20Storage := s } = t' := by
  simp only [onERC20, bind_eq_ok, pure_eq_ok]

section EntryPoints

variable [ERC20] [Ownable] [AccessControl TokenRole]

def transfer (sender : Sender) (dst : Address) (value : Nat) : FluxToken → Exec FluxToken :=
  onERC20 (ERC20.transfer sender dst value)

def approve (sender : Sender) (spender : Address) (value : Nat) : FluxToken → Exec FluxToken :=
  onERC20 (ERC20.approve sender spender value)

def transferFrom (sender : Sender) (src dst : Address) (value : Nat) :
    FluxToken → Exec FluxToken :=
  onERC20 (ERC20.transferFrom sender src dst value)

def burn (sender : Sender) (value : Nat) : FluxToken → Exec FluxToken :=
  onERC20 (ERC20.burn sender value)

def burnFrom (sender : Sender) (account : Address) (value : Nat) : FluxToken → Exec FluxToken :=
  onERC20 (ERC20.burnFrom sender account value)

def renounceOwnership (sender : Address) (t : FluxToken) : Exec FluxToken := do
  let owner ← Ownable.renounceOwnership sender t.owner
  pure { t with owner := owner }

def grantRole (sender : Address) (role : TokenRole) (account : Address) (t : FluxToken) :
    Exec FluxToken := do
  let hasRole ← AccessControl.grantRole sender role account t.hasRole
  pure { t with hasRole := hasRole }

def revokeRole (sender : Address) (role : TokenRole) (account : Address) (t : FluxToken) :
    Exec FluxToken := do
  let hasRole ← AccessControl.revokeRole sender role account t.hasRole
  pure { t with hasRole := hasRole }

def renounceRole (sender : Address) (role : TokenRole) (callerConfirmation : Address)
    (t : FluxToken) : Exec FluxToken := do
  let hasRole ← AccessControl.renounceRole sender role callerConfirmation t.hasRole
  pure { t with hasRole := hasRole }

/-! ## Minting and ownership -/

/-- `_grantRole`. -/
def grant (t : FluxToken) (role : TokenRole) (account : Address) : FluxToken :=
  { t with hasRole := AccessControl.grant t.hasRole role account }

/-- `_revokeRole`. -/
def revoke (t : FluxToken) (role : TokenRole) (account : Address) : FluxToken :=
  { t with hasRole := AccessControl.revoke t.hasRole role account }

def setMinter (sender minter : Address) (allowed : Bool) (t : FluxToken) : Exec FluxToken := do
  require (sender = t.owner) "FluxToken: FORBIDDEN"
  require (minter ≠ Address.zero) "FluxToken: ZERO_ADDRESS"
  pure (if allowed then t.grant .minter minter else t.revoke .minter minter)

def mint (sender dst : Address) (amount : Nat) (t : FluxToken) : Exec FluxToken := do
  require (t.hasRole .minter sender) "FluxToken: FORBIDDEN"
  require (dst ≠ Address.zero) "FluxToken: ZERO_ADDRESS"
  let total ← Uint256.add t.totalSupply amount
  require (total ≤ t.cap) "FluxToken: CAP_EXCEEDED"
  t.onERC20 (ERC20.mint dst amount)

def transferOwnership (sender newOwner : Address) (t : FluxToken) : Exec FluxToken := do
  Ownable.onlyOwner sender t.owner
  require (newOwner ≠ Address.zero) "FluxToken: ZERO_ADDRESS"
  require (newOwner ≠ t.owner) "FluxToken: SAME_OWNER"
  let previousOwner := t.owner
  let previousOwnerWasMinter := t.hasRole .minter previousOwner
  let owner ← Ownable.transferOwnership sender newOwner t.owner
  let t := { t with owner := owner }
  let t := t.grant .defaultAdmin newOwner
  let t := if previousOwnerWasMinter then t.grant .minter newOwner else t
  let t := t.revoke .defaultAdmin previousOwner
  pure (if previousOwnerWasMinter then t.revoke .minter previousOwner else t)

/-! ## Runs -/

/-- The arguments of the constructor; the cap is a `uint256`. -/
structure Arguments where
  name             : String
  symbol           : String
  owner            : Address
  initialRecipient : Address
  initialSupply    : Nat
  cap              : Nat
  cap_le           : cap ≤ Uint256.max

def construct (args : Arguments) : Exec FluxToken := do
  let s ← ERC20.construct args.cap
  let owner ← Ownable.construct args.owner
  require (args.name ≠ "") "FluxToken: INVALID_NAME"
  require (args.symbol ≠ "") "FluxToken: INVALID_SYMBOL"
  require (args.initialSupply ≤ args.cap) "FluxToken: CAP_EXCEEDED"
  require (0 < args.initialSupply → args.initialRecipient ≠ Address.zero) "FluxToken: ZERO_ADDRESS"
  let t : FluxToken := { s with owner := owner, hasRole := fun _ _ => false }
  let t := t.grant .defaultAdmin args.owner
  let t := t.grant .minter args.owner
  if 0 < args.initialSupply then
    t.onERC20 (ERC20.mint args.initialRecipient args.initialSupply)
  else pure t

inductive Op
  | transfer (sender : Sender) (dst : Address) (value : Nat)
  | approve (sender : Sender) (spender : Address) (value : Nat)
  | transferFrom (sender : Sender) (src dst : Address) (value : Nat)
  | burn (sender : Sender) (value : Nat)
  | burnFrom (sender : Sender) (account : Address) (value : Nat)
  | setMinter (sender : Sender) (minter : Address) (allowed : Bool)
  | mint (sender : Sender) (dst : Address) (amount : Nat)
  | transferOwnership (sender : Sender) (newOwner : Address)
  | renounceOwnership (sender : Sender)
  | grantRole (sender : Sender) (role : TokenRole) (account : Address)
  | revokeRole (sender : Sender) (role : TokenRole) (account : Address)
  | renounceRole (sender : Sender) (role : TokenRole) (callerConfirmation : Address)

def exec (t : FluxToken) : Op → Exec FluxToken
  | .transfer sender dst value => t.transfer sender dst value
  | .approve sender spender value => t.approve sender spender value
  | .transferFrom sender src dst value => t.transferFrom sender src dst value
  | .burn sender value => t.burn sender value
  | .burnFrom sender account value => t.burnFrom sender account value
  | .setMinter sender minter allowed => t.setMinter sender minter allowed
  | .mint sender dst amount => t.mint sender dst amount
  | .transferOwnership sender newOwner => t.transferOwnership sender newOwner
  | .renounceOwnership sender => t.renounceOwnership sender
  | .grantRole sender role account => t.grantRole sender role account
  | .revokeRole sender role account => t.revokeRole sender role account
  | .renounceRole sender role callerConfirmation => t.renounceRole sender role callerConfirmation

/-- A token that a constructor has returned. -/
def Deployed (t : FluxToken) : Prop := ∃ args, construct args = .ok t

/-- All runs of the token. -/
def system : System FluxToken Op := .ofCalls Deployed exec

end EntryPoints

/-! ## What the calls that set roles do -/

section Roles

variable [AccessControl TokenRole] {t t' : FluxToken} {sender account newOwner : Address}
  {role : TokenRole}

theorem setMinter_eq_ok {allowed : Bool} : t.setMinter sender account allowed = .ok t' ↔
    sender = t.owner ∧ account ≠ Address.zero ∧
      t' = { t with hasRole := t.hasRole.write .minter account allowed } := by
  simp only [setMinter, grant, revoke, bind_eq_ok, require_eq_ok, pure_eq_ok,
    AccessControl.grant_eq, AccessControl.revoke_eq]
  constructor
  · rintro ⟨_, hsender, _, hzero, rfl⟩
    exact ⟨hsender, hzero, by cases allowed <;> rfl⟩
  · rintro ⟨hsender, hzero, rfl⟩
    exact ⟨(), hsender, (), hzero, by cases allowed <;> rfl⟩

theorem grantRole_eq_ok : t.grantRole sender role account = .ok t' ↔
    t.hasRole .defaultAdmin sender = true ∧
      t' = { t with hasRole := t.hasRole.write role account true } := by
  simp only [grantRole, bind_eq_ok, AccessControl.grantRole_eq_ok, AccessControl.grant_eq,
    TokenRole.defaultAdmin_eq, pure_eq_ok]
  constructor
  · rintro ⟨_, ⟨hadmin, rfl⟩, rfl⟩
    exact ⟨hadmin, rfl⟩
  · rintro ⟨hadmin, rfl⟩
    exact ⟨_, ⟨hadmin, rfl⟩, rfl⟩

theorem revokeRole_eq_ok : t.revokeRole sender role account = .ok t' ↔
    t.hasRole .defaultAdmin sender = true ∧
      t' = { t with hasRole := t.hasRole.write role account false } := by
  simp only [revokeRole, bind_eq_ok, AccessControl.revokeRole_eq_ok, AccessControl.revoke_eq,
    TokenRole.defaultAdmin_eq, pure_eq_ok]
  constructor
  · rintro ⟨_, ⟨hadmin, rfl⟩, rfl⟩
    exact ⟨hadmin, rfl⟩
  · rintro ⟨hadmin, rfl⟩
    exact ⟨_, ⟨hadmin, rfl⟩, rfl⟩

theorem renounceRole_eq_ok : t.renounceRole sender role account = .ok t' ↔
    account = sender ∧ t' = { t with hasRole := t.hasRole.write role sender false } := by
  simp only [renounceRole, bind_eq_ok, AccessControl.renounceRole_eq_ok, AccessControl.revoke_eq,
    pure_eq_ok]
  constructor
  · rintro ⟨_, ⟨hconfirmed, rfl⟩, rfl⟩
    exact ⟨hconfirmed, rfl⟩
  · rintro ⟨hconfirmed, rfl⟩
    exact ⟨_, ⟨hconfirmed, rfl⟩, rfl⟩

/-- The roles after a transfer of the ownership: the administration has moved, and the minter
    role with it if the former owner had it. -/
def handedOver (roles : Roles TokenRole Address) (previousOwner newOwner : Address) :
    Roles TokenRole Address :=
  if roles .minter previousOwner then
    (((roles.write .defaultAdmin newOwner true).write .minter newOwner true).write .defaultAdmin
      previousOwner false).write .minter previousOwner false
  else (roles.write .defaultAdmin newOwner true).write .defaultAdmin previousOwner false

theorem transferOwnership_eq_ok [Ownable] : t.transferOwnership sender newOwner = .ok t' ↔
    sender = t.owner ∧ newOwner ≠ Address.zero ∧ newOwner ≠ t.owner ∧
      t' = { t with owner := newOwner, hasRole := handedOver t.hasRole t.owner newOwner } := by
  simp only [transferOwnership, grant, revoke, handedOver, bind_eq_ok, Ownable.onlyOwner_eq_ok,
    Ownable.transferOwnership_eq_ok, require_eq_ok, pure_eq_ok, AccessControl.grant_eq,
    AccessControl.revoke_eq]
  constructor
  · rintro ⟨_, hsender, _, hzero, _, hsame, _, ⟨-, -, rfl⟩, rfl⟩
    refine ⟨hsender, hzero, hsame, ?_⟩
    cases t.hasRole .minter t.owner <;> rfl
  · rintro ⟨hsender, hzero, hsame, rfl⟩
    refine ⟨(), hsender, (), hzero, (), hsame, _, ⟨hsender, hzero, rfl⟩, ?_⟩
    cases t.hasRole .minter t.owner <;> rfl

end Roles

theorem renounceOwnership_eq_ok [Ownable] {t t' : FluxToken} {sender : Address} :
    t.renounceOwnership sender = .ok t' ↔
      sender = t.owner ∧ t' = { t with owner := Address.zero } := by
  simp only [renounceOwnership, bind_eq_ok, Ownable.renounceOwnership_eq_ok, pure_eq_ok]
  constructor
  · rintro ⟨_, ⟨hsender, rfl⟩, rfl⟩
    exact ⟨hsender, rfl⟩
  · rintro ⟨hsender, rfl⟩
    exact ⟨_, ⟨hsender, rfl⟩, rfl⟩

end FluxToken
