-- SUMMARY: The inherited contracts Ownable, AccessControl and ReentrancyGuard and the library Math: what the contracts rely on, as parameters.
import FluxSwap.Contracts.Basic
import FluxSwap.Lib.Roles

/-!
# Inherited contracts

Owners, roles and the guard against re-entrance are kept by contracts that the repository
inherits and does not contain. Each of them is a parameter here: its functions, and what they
are documented to do, which is all that is used of them. Its storage is the owner, the table of
roles or the flag of the guard. The library `Math` is a parameter in the same way.
`OpenZeppelin` has one implementation of each.
-/

open Exec

/-! ## Ownable -/

/-- The contract `Ownable`. -/
class Ownable where
  /-- The constructor, which takes the first owner. -/
  construct : Address → Exec Address
  onlyOwner : (sender owner : Address) → Exec Unit
  transferOwnership : (sender newOwner owner : Address) → Exec Address
  renounceOwnership : (sender owner : Address) → Exec Address
  construct_eq_ok {initialOwner owner : Address} :
    construct initialOwner = .ok owner ↔ initialOwner ≠ Address.zero ∧ owner = initialOwner
  onlyOwner_eq_ok {sender owner : Address} {u : Unit} :
    onlyOwner sender owner = .ok u ↔ sender = owner
  transferOwnership_eq_ok {sender newOwner owner owner' : Address} :
    transferOwnership sender newOwner owner = .ok owner' ↔
      sender = owner ∧ newOwner ≠ Address.zero ∧ owner' = newOwner
  renounceOwnership_eq_ok {sender owner owner' : Address} :
    renounceOwnership sender owner = .ok owner' ↔ sender = owner ∧ owner' = Address.zero

attribute [simp] Ownable.construct_eq_ok Ownable.onlyOwner_eq_ok Ownable.transferOwnership_eq_ok
  Ownable.renounceOwnership_eq_ok

/-! ## AccessControl -/

/-- The roles of a contract, and `DEFAULT_ADMIN_ROLE` among them, which administers every role. -/
class RoleNames (ρ : Type) where
  defaultAdmin : ρ

/-- The contract `AccessControl`. `grant` and `revoke` are the internal `_grantRole` and
    `_revokeRole`, `onlyRoleAdmin` is the modifier `onlyRole(getRoleAdmin(role))`. -/
class AccessControl (ρ : Type) [DecidableEq ρ] [RoleNames ρ] where
  grant : Roles ρ Address → ρ → Address → Roles ρ Address
  revoke : Roles ρ Address → ρ → Address → Roles ρ Address
  onlyRoleAdmin : Roles ρ Address → ρ → (sender : Address) → Exec Unit
  grantRole : (sender : Address) → ρ → Address → Roles ρ Address → Exec (Roles ρ Address)
  revokeRole : (sender : Address) → ρ → Address → Roles ρ Address → Exec (Roles ρ Address)
  renounceRole : (sender : Address) → ρ → (callerConfirmation : Address) → Roles ρ Address →
    Exec (Roles ρ Address)
  grant_apply (roles : Roles ρ Address) (role : ρ) (account : Address) (role' : ρ)
      (account' : Address) :
    grant roles role account role' account' =
      if role' = role ∧ account' = account then true else roles role' account'
  revoke_apply (roles : Roles ρ Address) (role : ρ) (account : Address) (role' : ρ)
      (account' : Address) :
    revoke roles role account role' account' =
      if role' = role ∧ account' = account then false else roles role' account'
  onlyRoleAdmin_eq_ok {roles : Roles ρ Address} {role : ρ} {sender : Address} {u : Unit} :
    onlyRoleAdmin roles role sender = .ok u ↔ roles RoleNames.defaultAdmin sender = true
  grantRole_eq_ok {sender account : Address} {role : ρ} {roles roles' : Roles ρ Address} :
    grantRole sender role account roles = .ok roles' ↔
      roles RoleNames.defaultAdmin sender = true ∧ roles' = grant roles role account
  revokeRole_eq_ok {sender account : Address} {role : ρ} {roles roles' : Roles ρ Address} :
    revokeRole sender role account roles = .ok roles' ↔
      roles RoleNames.defaultAdmin sender = true ∧ roles' = revoke roles role account
  renounceRole_eq_ok {sender callerConfirmation : Address} {role : ρ}
      {roles roles' : Roles ρ Address} :
    renounceRole sender role callerConfirmation roles = .ok roles' ↔
      callerConfirmation = sender ∧ roles' = revoke roles role sender

attribute [simp] AccessControl.onlyRoleAdmin_eq_ok AccessControl.grantRole_eq_ok
  AccessControl.revokeRole_eq_ok AccessControl.renounceRole_eq_ok

namespace AccessControl

variable {ρ : Type} [DecidableEq ρ] [RoleNames ρ] [AccessControl ρ]

/-- `grantRole` where one role is managed by a setter alone. -/
def grantUnmanagedRole (managed : ρ) (text : String) (sender : Address) (role : ρ)
    (account : Address) (roles : Roles ρ Address) : Exec (Roles ρ Address) := do
  onlyRoleAdmin roles role sender
  require (role ≠ managed) text
  grantRole sender role account roles

/-- `revokeRole` where one role is managed by a setter alone. -/
def revokeUnmanagedRole (managed : ρ) (text : String) (sender : Address) (role : ρ)
    (account : Address) (roles : Roles ρ Address) : Exec (Roles ρ Address) := do
  onlyRoleAdmin roles role sender
  require (role ≠ managed) text
  revokeRole sender role account roles

/-- `renounceRole` where one role is managed by a setter alone. -/
def renounceUnmanagedRole (managed : ρ) (text : String) (sender : Address) (role : ρ)
    (callerConfirmation : Address) (roles : Roles ρ Address) : Exec (Roles ρ Address) := do
  require (role ≠ managed) text
  renounceRole sender role callerConfirmation roles

@[simp] theorem grant_eq (roles : Roles ρ Address) (role : ρ) (account : Address) :
    grant roles role account = roles.write role account true := by
  funext role' account'
  rw [grant_apply, Roles.write_apply]

@[simp] theorem revoke_eq (roles : Roles ρ Address) (role : ρ) (account : Address) :
    revoke roles role account = roles.write role account false := by
  funext role' account'
  rw [revoke_apply, Roles.write_apply]

section Managed

variable {managed role : ρ} {text : String} {sender account : Address}
  {roles roles' : Roles ρ Address}

theorem grantUnmanagedRole_eq_ok :
    grantUnmanagedRole managed text sender role account roles = .ok roles' ↔
      roles RoleNames.defaultAdmin sender = true ∧ role ≠ managed ∧
        roles' = roles.write role account true := by
  simp only [grantUnmanagedRole, bind_eq_ok, onlyRoleAdmin_eq_ok, require_eq_ok, grantRole_eq_ok,
    grant_eq]
  constructor
  · rintro ⟨_, hadmin, _, hrole, -, rfl⟩
    exact ⟨hadmin, hrole, rfl⟩
  · rintro ⟨hadmin, hrole, rfl⟩
    exact ⟨(), hadmin, (), hrole, hadmin, rfl⟩

theorem revokeUnmanagedRole_eq_ok :
    revokeUnmanagedRole managed text sender role account roles = .ok roles' ↔
      roles RoleNames.defaultAdmin sender = true ∧ role ≠ managed ∧
        roles' = roles.write role account false := by
  simp only [revokeUnmanagedRole, bind_eq_ok, onlyRoleAdmin_eq_ok, require_eq_ok,
    revokeRole_eq_ok, revoke_eq]
  constructor
  · rintro ⟨_, hadmin, _, hrole, -, rfl⟩
    exact ⟨hadmin, hrole, rfl⟩
  · rintro ⟨hadmin, hrole, rfl⟩
    exact ⟨(), hadmin, (), hrole, hadmin, rfl⟩

theorem renounceUnmanagedRole_eq_ok :
    renounceUnmanagedRole managed text sender role account roles = .ok roles' ↔
      role ≠ managed ∧ account = sender ∧ roles' = roles.write role sender false := by
  simp only [renounceUnmanagedRole, bind_eq_ok, require_eq_ok, renounceRole_eq_ok, revoke_eq,
    exists_and_left, exists_const]

end Managed

end AccessControl

/-! ## ReentrancyGuard and Math -/

/-- The contract `ReentrancyGuard`: the two halves of its modifier. -/
class ReentrancyGuard where
  nonReentrantBefore : (entered : Bool) → Exec Bool
  nonReentrantAfter : (entered : Bool) → Bool
  nonReentrantBefore_eq_ok {entered entered' : Bool} :
    nonReentrantBefore entered = .ok entered' ↔ entered = false ∧ entered' = true
  nonReentrantAfter_eq (entered : Bool) : nonReentrantAfter entered = false

/-- The library `Math`: the product is exact, the quotient has to fit. -/
class OZMath where
  mulDiv : (x y denominator : Nat) → Exec Nat
  mulDiv_eq_ok {x y denominator quotient : Nat} :
    mulDiv x y denominator = .ok quotient ↔
      denominator ≠ 0 ∧ x * y / denominator ≤ Uint256.max ∧ x * y / denominator = quotient

/-! ## One implementation -/

namespace OpenZeppelin

scoped instance ownable : Ownable where
  construct initialOwner := do
    require (initialOwner ≠ Address.zero) "OwnableInvalidOwner"
    pure initialOwner
  onlyOwner sender owner := require (sender = owner) "OwnableUnauthorizedAccount"
  transferOwnership sender newOwner owner := do
    require (sender = owner) "OwnableUnauthorizedAccount"
    require (newOwner ≠ Address.zero) "OwnableInvalidOwner"
    pure newOwner
  renounceOwnership sender owner := do
    require (sender = owner) "OwnableUnauthorizedAccount"
    pure Address.zero
  construct_eq_ok := require_bind_eq_ok.trans (and_congr_right' (pure_eq_ok.trans eq_comm))
  onlyOwner_eq_ok := require_eq_ok
  transferOwnership_eq_ok := require_bind_eq_ok.trans (and_congr_right'
    (require_bind_eq_ok.trans (and_congr_right' (pure_eq_ok.trans eq_comm))))
  renounceOwnership_eq_ok := require_bind_eq_ok.trans (and_congr_right' (pure_eq_ok.trans eq_comm))

scoped instance accessControl {ρ : Type} [DecidableEq ρ] [RoleNames ρ] : AccessControl ρ where
  grant roles role account := roles.write role account true
  revoke roles role account := roles.write role account false
  onlyRoleAdmin roles _ sender :=
    require (roles RoleNames.defaultAdmin sender) "AccessControlUnauthorizedAccount"
  grantRole sender role account roles := do
    require (roles RoleNames.defaultAdmin sender) "AccessControlUnauthorizedAccount"
    pure (roles.write role account true)
  revokeRole sender role account roles := do
    require (roles RoleNames.defaultAdmin sender) "AccessControlUnauthorizedAccount"
    pure (roles.write role account false)
  renounceRole sender role callerConfirmation roles := do
    require (callerConfirmation = sender) "AccessControlBadConfirmation"
    pure (roles.write role sender false)
  grant_apply roles role account := roles.write_apply role account true
  revoke_apply roles role account := roles.write_apply role account false
  onlyRoleAdmin_eq_ok := require_eq_ok
  grantRole_eq_ok := require_bind_eq_ok.trans (and_congr_right' (pure_eq_ok.trans eq_comm))
  revokeRole_eq_ok := require_bind_eq_ok.trans (and_congr_right' (pure_eq_ok.trans eq_comm))
  renounceRole_eq_ok := require_bind_eq_ok.trans (and_congr_right' (pure_eq_ok.trans eq_comm))

scoped instance reentrancyGuard : ReentrancyGuard where
  nonReentrantBefore entered := do
    require (entered = false) "ReentrancyGuardReentrantCall"
    pure true
  nonReentrantAfter _ := false
  nonReentrantBefore_eq_ok := require_bind_eq_ok.trans (and_congr_right' (pure_eq_ok.trans eq_comm))
  nonReentrantAfter_eq _ := rfl

def mulDiv (x y denominator : Nat) : Exec Nat := do
  let quotient ← Uint256.div (x * y) denominator
  if quotient ≤ Uint256.max then .ok quotient else .error (.panic .overflow)

theorem mulDiv_eq_ok {x y denominator quotient : Nat} :
    mulDiv x y denominator = .ok quotient ↔
      denominator ≠ 0 ∧ x * y / denominator ≤ Uint256.max ∧ x * y / denominator = quotient := by
  simp only [mulDiv, bind_eq_ok, Uint256.div_eq_ok]
  constructor
  · rintro ⟨_, ⟨hne, rfl⟩, h⟩
    split at h
    · exact ⟨hne, ‹_›, Except.ok.inj h⟩
    · cases h
  · rintro ⟨hne, hfits, rfl⟩
    exact ⟨_, ⟨hne, rfl⟩, if_pos hfits⟩

scoped instance math : OZMath where
  mulDiv := mulDiv
  mulDiv_eq_ok := mulDiv_eq_ok

end OpenZeppelin
