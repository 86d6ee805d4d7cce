-- SUMMARY: The pair factory FluxSwapFactory: pairs, the protocol treasury, and the role that may set it.
import FluxSwap.Contracts.OpenZeppelin
import FluxSwap.Lib.System

/-!
# FluxSwapFactory

The factory keeps the index of the pairs and the treasury of the protocol. Who may set the
treasury is kept twice, in the field `treasurySetter` and as the holder of a role. The address
that `create2` yields is a parameter, zero when the creation fails. Events are left out.
-/

open Exec

/-- The roles of the factory. -/
inductive FactoryRole
  | defaultAdmin
  | treasurySetter
  | other (id : Nat)
  deriving DecidableEq, Repr

instance : RoleNames FactoryRole := ⟨.defaultAdmin⟩

@[simp] theorem FactoryRole.defaultAdmin_eq :
    (RoleNames.defaultAdmin : FactoryRole) = .defaultAdmin := rfl

/-- Storage of the factory. -/
structure FluxSwapFactory where
  treasury       : Address
  treasurySetter : Address
  getPair        : Address → Address → Address
  allPairs       : List Address
  hasRole        : Roles FactoryRole Address

namespace FluxSwapFactory

variable [AccessControl FactoryRole]

/-- `_grantRole`. -/
def grant (f : FluxSwapFactory) (role : FactoryRole) (account : Address) : FluxSwapFactory :=
  { f with hasRole := AccessControl.grant f.hasRole role account }

/-- `_revokeRole`. -/
def revoke (f : FluxSwapFactory) (role : FactoryRole) (account : Address) : FluxSwapFactory :=
  { f with hasRole := AccessControl.revoke f.hasRole role account }

def construct (treasurySetter : Address) : Exec FluxSwapFactory := do
  require (treasurySetter ≠ Address.zero) "FluxSwap: ZERO_ADDRESS"
  let f : FluxSwapFactory := {
    treasury := Address.zero
    treasurySetter := Address.zero
    getPair := fun _ _ => Address.zero
    allPairs := []
    hasRole := fun _ _ => false }
  let f := f.grant .defaultAdmin treasurySetter
  let f := f.grant .treasurySetter treasurySetter
  pure { f with treasurySetter := treasurySetter }

/-- A write to `getPair`. -/
def setPair (f : FluxSwapFactory) (tokenA tokenB pair : Address) : FluxSwapFactory :=
  { f with getPair :=
      Function.update f.getPair tokenA (Function.update (f.getPair tokenA) tokenB pair) }

def createPair (create2 : Address → Address → Address) (tokenA tokenB : Address)
    (f : FluxSwapFactory) : Exec FluxSwapFactory := do
  require (tokenA ≠ tokenB) "FluxSwap: IDENTICAL_ADDRESSES"
  let (token0, token1) := if tokenA < tokenB then (tokenA, tokenB) else (tokenB, tokenA)
  require (token0 ≠ Address.zero) "FluxSwap: ZERO_ADDRESS"
  require (f.getPair token0 token1 = Address.zero) "FluxSwap: PAIR_EXISTS"
  let pair := create2 token0 token1
  require (pair ≠ Address.zero) "FluxSwap: CREATE2_FAILED"
  pure { (f.setPair token0 token1 pair).setPair token1 token0 pair with
    allPairs := f.allPairs ++ [pair] }

def setTreasury (sender treasury : Address) (f : FluxSwapFactory) : Exec FluxSwapFactory := do
  require (f.hasRole .treasurySetter sender) "FluxSwap: FORBIDDEN"
  pure { f with treasury := treasury }

def setTreasurySetter (sender treasurySetter : Address) (f : FluxSwapFactory) :
    Exec FluxSwapFactory := do
  require (treasurySetter ≠ Address.zero) "FluxSwap: ZERO_ADDRESS"
  require (f.hasRole .treasurySetter sender) "FluxSwap: FORBIDDEN"
  require (treasurySetter ≠ f.treasurySetter) "FluxSwap: SAME_TREASURY_SETTER"
  let previousTreasurySetter := f.treasurySetter
  let f := f.grant .defaultAdmin treasurySetter
  let f := f.grant .treasurySetter treasurySetter
  let f := f.revoke .treasurySetter previousTreasurySetter
  let f := f.revoke .defaultAdmin previousTreasurySetter
  pure { f with treasurySetter := treasurySetter }

def grantRole (sender : Address) (role : FactoryRole) (account : Address) (f : FluxSwapFactory) :
    Exec FluxSwapFactory := do
  let hasRole ← AccessControl.grantUnmanagedRole .treasurySetter
    "FluxSwap: ROLE_MANAGED_BY_SETTER" sender role account f.hasRole
  pure { f with hasRole := hasRole }

def revokeRole (sender : Address) (role : FactoryRole) (account : Address) (f : FluxSwapFactory) :
    Exec FluxSwapFactory := do
  let hasRole ← AccessControl.revokeUnmanagedRole .treasurySetter
    "FluxSwap: ROLE_MANAGED_BY_SETTER" sender role account f.hasRole
  pure { f with hasRole := hasRole }

def renounceRole (sender : Address) (role : FactoryRole) (callerConfirmation : Address)
    (f : FluxSwapFactory) : Exec FluxSwapFactory := do
  let hasRole ← AccessControl.renounceUnmanagedRole .treasurySetter
    "FluxSwap: ROLE_MANAGED_BY_SETTER" sender role callerConfirmation f.hasRole
  pure { f with hasRole := hasRole }

inductive Op
  | createPair (tokenA tokenB : Address)
  | setTreasury (sender treasury : Address)
  | setTreasurySetter (sender treasurySetter : Address)
  | grantRole (sender : Address) (role : FactoryRole) (account : Address)
  | revokeRole (sender : Address) (role : FactoryRole) (account : Address)
  | renounceRole (sender : Address) (role : FactoryRole) (callerConfirmation : Address)

def exec (create2 : Address → Address → Address) (f : FluxSwapFactory) :
    Op → Exec FluxSwapFactory
  | .createPair tokenA tokenB => f.createPair create2 tokenA tokenB
  | .setTreasury sender treasury => f.setTreasury sender treasury
  | .setTreasurySetter sender treasurySetter => f.setTreasurySetter sender treasurySetter
  | .grantRole sender role account => f.grantRole sender role account
  | .revokeRole sender role account => f.revokeRole sender role account
  | .renounceRole sender role callerConfirmation => f.renounceRole sender role callerConfirmation

def Deployed (f : FluxSwapFactory) : Prop := ∃ treasurySetter, construct treasurySetter = .ok f

/-- All runs of the factory. -/
def system (create2 : Address → Address → Address) : System FluxSwapFactory Op :=
  .ofCalls Deployed (exec create2)

/-! ## What the calls that write roles do -/

variable {f f' : FluxSwapFactory} {sender treasurySetter account : Address} {role : FactoryRole}

theorem construct_eq_ok : construct treasurySetter = .ok f ↔
    treasurySetter ≠ Address.zero ∧ f = {
      treasury := Address.zero
      treasurySetter := treasurySetter
      getPair := fun _ _ => Address.zero
      allPairs := []
      hasRole := (Roles.write (fun _ _ => false) FactoryRole.defaultAdmin treasurySetter true).write
        .treasurySetter treasurySetter true } := by
  simp only [construct, grant, bind_eq_ok, require_eq_ok, pure_eq_ok, AccessControl.grant_eq]
  constructor
  · rintro ⟨_, hzero, rfl⟩
    exact ⟨hzero, rfl⟩
  · rintro ⟨hzero, rfl⟩
    exact ⟨(), hzero, rfl⟩

theorem setTreasurySetter_eq_ok : f.setTreasurySetter sender treasurySetter = .ok f' ↔
    treasurySetter ≠ Address.zero ∧ f.hasRole .treasurySetter sender = true ∧
      treasurySetter ≠ f.treasurySetter ∧ f' = { f with
        treasurySetter := treasurySetter
        hasRole := (((f.hasRole.write .defaultAdmin treasurySetter true).write .treasurySetter
          treasurySetter true).write .treasurySetter f.treasurySetter false).write .defaultAdmin
            f.treasurySetter false } := by
  simp only [setTreasurySetter, grant, revoke, bind_eq_ok, require_eq_ok, pure_eq_ok,
    AccessControl.grant_eq, AccessControl.revoke_eq]
  constructor
  · rintro ⟨_, hzero, _, hsender, _, hsame, rfl⟩
    exact ⟨hzero, hsender, hsame, rfl⟩
  · rintro ⟨hzero, hsender, hsame, rfl⟩
    exact ⟨(), hzero, (), hsender, (), hsame, rfl⟩

theorem grantRole_eq_ok : f.grantRole sender role account = .ok f' ↔
    f.hasRole .defaultAdmin sender = true ∧ role ≠ .treasurySetter ∧
      f' = { f with hasRole := f.hasRole.write role account true } := by
  simp only [grantRole, bind_eq_ok, AccessControl.grantUnmanagedRole_eq_ok, FactoryRole.defaultAdmin_eq,
    pure_eq_ok]
  constructor
  · rintro ⟨_, ⟨hadmin, hrole, rfl⟩, rfl⟩
    exact ⟨hadmin, hrole, rfl⟩
  · rintro ⟨hadmin, hrole, rfl⟩
    exact ⟨_, ⟨hadmin, hrole, rfl⟩, rfl⟩

theorem revokeRole_eq_ok : f.revokeRole sender role account = .ok f' ↔
    f.hasRole .defaultAdmin sender = true ∧ role ≠ .treasurySetter ∧
      f' = { f with hasRole := f.hasRole.write role account false } := by
  simp only [revokeRole, bind_eq_ok, AccessControl.revokeUnmanagedRole_eq_ok, FactoryRole.defaultAdmin_eq,
    pure_eq_ok]
  constructor
  · rintro ⟨_, ⟨hadmin, hrole, rfl⟩, rfl⟩
    exact ⟨hadmin, hrole, rfl⟩
  · rintro ⟨hadmin, hrole, rfl⟩
    exact ⟨_, ⟨hadmin, hrole, rfl⟩, rfl⟩

theorem renounceRole_eq_ok : f.renounceRole sender role account = .ok f' ↔
    role ≠ .treasurySetter ∧ account = sender ∧
      f' = { f with hasRole := f.hasRole.write role sender false } := by
  simp only [renounceRole, bind_eq_ok, AccessControl.renounceUnmanagedRole_eq_ok,
    pure_eq_ok]
  constructor
  · rintro ⟨_, ⟨hrole, hconfirmed, rfl⟩, rfl⟩
    exact ⟨hrole, hconfirmed, rfl⟩
  · rintro ⟨hrole, hconfirmed, rfl⟩
    exact ⟨_, ⟨hrole, hconfirmed, rfl⟩, rfl⟩

end FluxSwapFactory
