-- SUMMARY: Owner, operator and roles as FluxMultiPoolManager, FluxBuybackExecutor and FluxRevenueDistributor keep them.
import FluxSwap.Contracts.OpenZeppelin
import FluxSwap.Lib.System

/-!
# Owners, operators and roles

Three contracts are `Ownable` and have `AccessControl`, and add an operator that is kept
twice: in a field and as the holder of a role. Their code for it is the same up to the name
in the error texts, which is the parameter `contract`. The owner field is `Ownable`'s own,
and `renounceOwnership` is inherited as it is.
-/

open Exec

/-- The roles of the access control. -/
inductive Role
  | defaultAdmin
  | pauser
  | operator
  | other (id : Nat)
  deriving DecidableEq, Repr

instance : RoleNames Role := ⟨.defaultAdmin⟩

@[simp] theorem Role.defaultAdmin_eq : (RoleNames.defaultAdmin : Role) = .defaultAdmin := rfl

/-- The owner, the field `operator` and the role table of a contract. -/
structure Access where
  owner    : Address
  operator : Address
  hasRole  : Roles Role Address

namespace Access

variable [Ownable] [AccessControl Role]

/-- `_grantRole`. -/
def grant (a : Access) (role : Role) (account : Address) : Access :=
  { a with hasRole := AccessControl.grant a.hasRole role account }

/-- `_revokeRole`. -/
def revoke (a : Access) (role : Role) (account : Address) : Access :=
  { a with hasRole := AccessControl.revoke a.hasRole role account }

def onlyOwner (a : Access) (sender : Address) : Exec Unit := Ownable.onlyOwner sender a.owner

/-- The modifier `onlyOperatorOrOwner`. -/
def onlyOperatorOrOwner (contract : String) (a : Access) (sender : Address) : Exec Unit :=
  require (a.hasRole .operator sender ∨ sender = a.owner) (contract ++ ": FORBIDDEN")

/-- What else goes with the ownership: the roles of the owner, and the operator's place. -/
def handOver (previousOwner newOwner : Address) (a : Access) : Access :=
  let a := a.grant .defaultAdmin newOwner
  let a := a.grant .pauser newOwner
  let a := a.revoke .pauser previousOwner
  let a := a.revoke .defaultAdmin previousOwner
  let a := if a.hasRole .operator previousOwner then a.revoke .operator previousOwner else a
  if a.operator = previousOwner then { a with operator := Address.zero } else a

section EntryPoints

variable (contract : String)

/-- What the constructors do with the owner and the operator. -/
def construct (owner operator : Address) : Exec Access := do
  let initialOwner ← Ownable.construct owner
  require (operator ≠ Address.zero) (contract ++ ": ZERO_ADDRESS")
  let a : Access := { owner := initialOwner, operator := operator, hasRole := fun _ _ => false }
  let a := a.grant .defaultAdmin owner
  let a := a.grant .pauser owner
  pure (a.grant .operator operator)

def setOperator (sender newOperator : Address) (a : Access) : Exec Access := do
  a.onlyOwner sender
  require (newOperator ≠ Address.zero) (contract ++ ": ZERO_ADDRESS")
  require (newOperator ≠ a.operator) (contract ++ ": SAME_OPERATOR")
  pure { (a.grant .operator newOperator).revoke .operator a.operator with operator := newOperator }

def transferOwnership (sender newOwner : Address) (a : Access) : Exec Access := do
  a.onlyOwner sender
  require (newOwner ≠ Address.zero) (contract ++ ": ZERO_ADDRESS")
  let previousOwner := a.owner
  let owner ← Ownable.transferOwnership sender newOwner a.owner
  let a := { a with owner := owner }
  if newOwner ≠ previousOwner then pure (a.handOver previousOwner newOwner) else pure a

/-- `renounceOwnership`, as it is inherited. -/
def renounceOwnership (sender : Address) (a : Access) : Exec Access := do
  let owner ← Ownable.renounceOwnership sender a.owner
  pure { a with owner := owner }

def grantRole (sender : Address) (role : Role) (account : Address) (a : Access) : Exec Access := do
  let hasRole ← AccessControl.grantUnmanagedRole .operator
    (contract ++ ": ROLE_MANAGED_BY_SET_OPERATOR") sender role account a.hasRole
  pure { a with hasRole := hasRole }

def revokeRole (sender : Address) (role : Role) (account : Address) (a : Access) : Exec Access := do
  let hasRole ← AccessControl.revokeUnmanagedRole .operator
    (contract ++ ": ROLE_MANAGED_BY_SET_OPERATOR") sender role account a.hasRole
  pure { a with hasRole := hasRole }

def renounceRole (sender : Address) (role : Role) (callerConfirmation : Address) (a : Access) :
    Exec Access := do
  let hasRole ← AccessControl.renounceUnmanagedRole .operator
    (contract ++ ": ROLE_MANAGED_BY_SET_OPERATOR") sender role callerConfirmation a.hasRole
  pure { a with hasRole := hasRole }

end EntryPoints

inductive Op
  | setOperator (sender newOperator : Address)
  | transferOwnership (sender newOwner : Address)
  | renounceOwnership (sender : Address)
  | grantRole (sender : Address) (role : Role) (account : Address)
  | revokeRole (sender : Address) (role : Role) (account : Address)
  | renounceRole (sender : Address) (role : Role) (callerConfirmation : Address)

def exec (contract : String) (a : Access) : Op → Exec Access
  | .setOperator sender newOperator => a.setOperator contract sender newOperator
  | .transferOwnership sender newOwner => a.transferOwnership contract sender newOwner
  | .renounceOwnership sender => a.renounceOwnership sender
  | .grantRole sender role account => a.grantRole contract sender role account
  | .revokeRole sender role account => a.revokeRole contract sender role account
  | .renounceRole sender role callerConfirmation =>
    a.renounceRole contract sender role callerConfirmation

def Deployed (contract : String) (a : Access) : Prop :=
  ∃ owner operator, construct contract owner operator = .ok a

/-- All runs of the access control of a contract. -/
def system (contract : String) : System Access Op := .ofCalls (Deployed contract) (exec contract)

end Access

/-! ## What a call does -/

namespace Access

variable {a a' : Access} {contract : String} {sender newOperator newOwner account : Address}
  {role : Role}

section Ownable

variable [Ownable]

@[simp] theorem onlyOwner_eq_ok {u : Unit} : a.onlyOwner sender = .ok u ↔ sender = a.owner :=
  Ownable.onlyOwner_eq_ok

theorem renounceOwnership_eq_ok : a.renounceOwnership sender = .ok a' ↔
    sender = a.owner ∧ a' = { a with owner := Address.zero } := by
  simp only [renounceOwnership, bind_eq_ok, Ownable.renounceOwnership_eq_ok, pure_eq_ok]
  constructor
  · rintro ⟨_, ⟨hsender, rfl⟩, rfl⟩
    exact ⟨hsender, rfl⟩
  · rintro ⟨hsender, rfl⟩
    exact ⟨_, ⟨hsender, rfl⟩, rfl⟩

end Ownable

section AccessControl

variable [AccessControl Role]

theorem grant_eq (a : Access) (role : Role) (account : Address) :
    a.grant role account = { a with hasRole := a.hasRole.write role account true } := by
  rw [grant, AccessControl.grant_eq]

theorem revoke_eq (a : Access) (role : Role) (account : Address) :
    a.revoke role account = { a with hasRole := a.hasRole.write role account false } := by
  rw [revoke, AccessControl.revoke_eq]

/-- Revoking a role from whoever may hold it. -/
theorem revoke_of_hasRole (a : Access) (role : Role) (account : Address) :
    (if a.hasRole role account then a.revoke role account else a) =
      { a with hasRole := a.hasRole.write role account false } := by
  split
  · exact revoke_eq a role account
  · rename_i hnone
    rw [Roles.write_self (Bool.eq_false_iff.mpr hnone)]

/-- The roles that are handed over, and the one that is taken away. -/
def handedOver (roles : Roles Role Address) (previousOwner newOwner : Address) :
    Roles Role Address :=
  ((((roles.write .defaultAdmin newOwner true).write .pauser newOwner true).write .pauser
    previousOwner false).write .defaultAdmin previousOwner false).write .operator previousOwner
      false

theorem handOver_eq (a : Access) (previousOwner newOwner : Address) :
    a.handOver previousOwner newOwner = { a with
      operator := if a.operator = previousOwner then Address.zero else a.operator
      hasRole := handedOver a.hasRole previousOwner newOwner } := by
  unfold handOver
  dsimp only
  rw [revoke_of_hasRole, revoke_eq, revoke_eq, grant_eq, grant_eq]
  dsimp only
  split <;> rfl

theorem grantRole_eq_ok : a.grantRole contract sender role account = .ok a' ↔
    a.hasRole .defaultAdmin sender = true ∧ role ≠ .operator ∧
      a' = { a with hasRole := a.hasRole.write role account true } := by
  simp only [grantRole, bind_eq_ok, AccessControl.grantUnmanagedRole_eq_ok, Role.defaultAdmin_eq,
    pure_eq_ok]
  constructor
  · rintro ⟨_, ⟨hadmin, hrole, rfl⟩, rfl⟩
    exact ⟨hadmin, hrole, rfl⟩
  · rintro ⟨hadmin, hrole, rfl⟩
    exact ⟨_, ⟨hadmin, hrole, rfl⟩, rfl⟩

theorem revokeRole_eq_ok : a.revokeRole contract sender role account = .ok a' ↔
    a.hasRole .defaultAdmin sender = true ∧ role ≠ .operator ∧
      a' = { a with hasRole := a.hasRole.write role account false } := by
  simp only [revokeRole, bind_eq_ok, AccessControl.revokeUnmanagedRole_eq_ok, Role.defaultAdmin_eq,
    pure_eq_ok]
  constructor
  · rintro ⟨_, ⟨hadmin, hrole, rfl⟩, rfl⟩
    exact ⟨hadmin, hrole, rfl⟩
  · rintro ⟨hadmin, hrole, rfl⟩
    exact ⟨_, ⟨hadmin, hrole, rfl⟩, rfl⟩

theorem renounceRole_eq_ok : a.renounceRole contract sender role account = .ok a' ↔
    role ≠ .operator ∧ account = sender ∧
      a' = { a with hasRole := a.hasRole.write role sender false } := by
  simp only [renounceRole, bind_eq_ok, AccessControl.renounceUnmanagedRole_eq_ok,
    pure_eq_ok]
  constructor
  · rintro ⟨_, ⟨hrole, hconfirmed, rfl⟩, rfl⟩
    exact ⟨hrole, hconfirmed, rfl⟩
  · rintro ⟨hrole, hconfirmed, rfl⟩
    exact ⟨_, ⟨hrole, hconfirmed, rfl⟩, rfl⟩

end AccessControl

variable [Ownable] [AccessControl Role]

theorem construct_eq_ok {owner operator : Address} :
    construct contract owner operator = .ok a ↔
      owner ≠ Address.zero ∧ operator ≠ Address.zero ∧
        a = ⟨owner, operator, ((Roles.write (fun _ _ => false) Role.defaultAdmin owner true).write
          .pauser owner true).write .operator operator true⟩ := by
  simp only [construct, bind_eq_ok, Ownable.construct_eq_ok, require_eq_ok, pure_eq_ok, grant_eq]
  constructor
  · rintro ⟨_, ⟨howner, rfl⟩, _, hoperator, rfl⟩
    exact ⟨howner, hoperator, rfl⟩
  · rintro ⟨howner, hoperator, rfl⟩
    exact ⟨_, ⟨howner, rfl⟩, (), hoperator, rfl⟩

theorem setOperator_eq_ok : a.setOperator contract sender newOperator = .ok a' ↔
    sender = a.owner ∧ newOperator ≠ Address.zero ∧ newOperator ≠ a.operator ∧
      a' = { a with
        operator := newOperator
        hasRole := (a.hasRole.write .operator newOperator true).write .operator a.operator
          false } := by
  simp only [setOperator, bind_eq_ok, onlyOwner_eq_ok, require_eq_ok, pure_eq_ok, grant_eq,
    revoke_eq]
  constructor
  · rintro ⟨_, hsender, _, hzero, _, hsame, rfl⟩
    exact ⟨hsender, hzero, hsame, rfl⟩
  · rintro ⟨hsender, hzero, hsame, rfl⟩
    exact ⟨(), hsender, (), hzero, (), hsame, rfl⟩

theorem transferOwnership_eq_ok : a.transferOwnership contract sender newOwner = .ok a' ↔
    sender = a.owner ∧ newOwner ≠ Address.zero ∧
      a' = if newOwner = a.owner then a else {
        owner := newOwner
        operator := if a.operator = a.owner then Address.zero else a.operator
        hasRole := handedOver a.hasRole a.owner newOwner } := by
  simp only [transferOwnership, bind_eq_ok, onlyOwner_eq_ok, require_eq_ok,
    Ownable.transferOwnership_eq_ok, handOver_eq]
  by_cases hnew : newOwner = a.owner
  · subst hnew
    simp only [ne_eq, not_true_eq_false, if_false, if_true, pure_eq_ok]
    constructor
    · rintro ⟨_, hsender, _, hzero, _, ⟨-, -, rfl⟩, rfl⟩
      exact ⟨hsender, hzero, rfl⟩
    · rintro ⟨hsender, hzero, rfl⟩
      exact ⟨(), hsender, (), hzero, _, ⟨hsender, hzero, rfl⟩, rfl⟩
  · simp only [ne_eq, hnew, not_false_eq_true, if_true, if_false, pure_eq_ok]
    constructor
    · rintro ⟨_, hsender, _, hzero, _, ⟨-, -, rfl⟩, rfl⟩
      exact ⟨hsender, hzero, rfl⟩
    · rintro ⟨hsender, hzero, rfl⟩
      exact ⟨(), hsender, (), hzero, _, ⟨hsender, hzero, rfl⟩, rfl⟩

end Access
