-- SUMMARY: The roles of a former owner: transferOwnership takes them away, the inherited renounceOwnership leaves them.
import FluxSwap.Access.Operator

/-!
# Ownership and roles

`transferOwnership` hands the roles of the owner over together with the ownership.
`renounceOwnership` is inherited and writes the owner field alone, so an owner who renounces
keeps every role that is not given up before.
-/

open Exec

/-! ## One call -/

namespace Access

variable {a a' : Access} {contract : String} {x : Address} {op : Op}

/-- The account holds none of the roles that come with ownership. -/
def Stripped (a : Access) (x : Address) : Prop :=
  a.hasRole .defaultAdmin x = false ∧ a.hasRole .pauser x = false ∧ a.hasRole .operator x = false

/-- An owner renounces only after giving up the roles. -/
def RenouncesStripped (a : Access) : Op → Prop
  | .renounceOwnership _ => a.Stripped a.owner
  | _ => True

/-- A call that can give one of the roles to the account: the ownership or the operator's place
is handed to it, or another account grants it a role. -/
def Op.Regrants (x : Address) : Op → Prop
  | .setOperator _ newOperator => newOperator = x
  | .transferOwnership _ newOwner => newOwner = x
  | .grantRole sender _ account => account = x ∧ sender ≠ x
  | .renounceOwnership _ | .revokeRole .. | .renounceRole .. => False

/-- An explicit `grantRole`, `revokeRole` or `renounceRole`. -/
def Op.ChangesRole : Op → Prop
  | .grantRole .. | .revokeRole .. | .renounceRole .. => True
  | _ => False

theorem Stripped.write_of_ne {account : Address} (h : a.Stripped x) (hne : x ≠ account)
    (role : Role) (granted : Bool) :
    Stripped { a with hasRole := a.hasRole.write role account granted } x := by
  simp only [Stripped, Roles.write_apply, hne, and_false, if_false]
  exact h

theorem Stripped.revoke (h : a.Stripped x) (role : Role) (account : Address) :
    Stripped { a with hasRole := a.hasRole.write role account false } x := by
  obtain ⟨hadmin, hpauser, hoperator⟩ := h
  simp only [Stripped, Roles.write_apply, hadmin, hpauser, hoperator, ite_self, and_self]

/-- The roles of another account are handed over to a third one. -/
theorem Stripped.handedOver {previousOwner newOwner : Address} (h : a.Stripped x)
    (hne : x ≠ newOwner) :
    Stripped { a with hasRole := handedOver a.hasRole previousOwner newOwner } x :=
  ((((h.write_of_ne hne .defaultAdmin true).write_of_ne hne .pauser true).revoke .pauser
    previousOwner).revoke .defaultAdmin previousOwner).revoke .operator previousOwner

section Calls

variable [Ownable] [AccessControl Role]

/-- The owner that is replaced keeps none of the roles. -/
theorem transferOwnership_stripped {sender newOwner : Address} (hne : newOwner ≠ a.owner)
    (h : a.transferOwnership contract sender newOwner = .ok a') : a'.Stripped a.owner := by
  obtain ⟨-, -, rfl⟩ := transferOwnership_eq_ok.mp h
  rw [if_neg hne]
  simp [Stripped, handedOver, Roles.write_apply]

/-- An account without the roles gets none of them back by itself. -/
theorem exec_stripped (hstripped : a.Stripped x) (hop : ¬op.Regrants x)
    (h : a.exec contract op = .ok a') : a'.Stripped x := by
  cases op with
  | setOperator sender newOperator =>
    obtain ⟨-, -, -, rfl⟩ := setOperator_eq_ok.mp h
    exact (hstripped.write_of_ne (Ne.symm hop) .operator true).revoke .operator a.operator
  | transferOwnership sender newOwner =>
    obtain ⟨-, -, rfl⟩ := transferOwnership_eq_ok.mp h
    split
    · exact hstripped
    · exact hstripped.handedOver (Ne.symm hop)
  | renounceOwnership sender =>
    obtain ⟨-, rfl⟩ := renounceOwnership_eq_ok.mp h
    exact hstripped
  | grantRole sender role account =>
    obtain ⟨hadmin, -, rfl⟩ := grantRole_eq_ok.mp h
    have hsender : sender ≠ x := by
      rintro rfl
      rw [hstripped.1] at hadmin
      cases hadmin
    exact hstripped.write_of_ne (fun haccount => hop ⟨haccount.symm, hsender⟩) role true
  | revokeRole sender role account =>
    obtain ⟨-, -, rfl⟩ := revokeRole_eq_ok.mp h
    exact hstripped.revoke role account
  | renounceRole sender role callerConfirmation =>
    obtain ⟨-, -, rfl⟩ := renounceRole_eq_ok.mp h
    exact hstripped.revoke role sender

/-- An account that stops being the owner is left without the roles. -/
theorem exec_owner_stripped (hok : a.RenouncesStripped op) (h : a.exec contract op = .ok a')
    (howner : a'.owner ≠ a.owner) : a'.Stripped a.owner := by
  cases op with
  | transferOwnership sender newOwner =>
    refine transferOwnership_stripped ?_ h
    intro hsame
    obtain ⟨-, -, rfl⟩ := transferOwnership_eq_ok.mp h
    rw [if_pos hsame] at howner
    exact howner rfl
  | renounceOwnership sender =>
    obtain ⟨-, rfl⟩ := renounceOwnership_eq_ok.mp h
    exact hok
  | setOperator sender newOperator =>
    obtain ⟨-, -, -, rfl⟩ := setOperator_eq_ok.mp h
    exact absurd rfl howner
  | grantRole sender role account =>
    obtain ⟨-, -, rfl⟩ := grantRole_eq_ok.mp h
    exact absurd rfl howner
  | revokeRole sender role account =>
    obtain ⟨-, -, rfl⟩ := revokeRole_eq_ok.mp h
    exact absurd rfl howner
  | renounceRole sender role callerConfirmation =>
    obtain ⟨-, -, rfl⟩ := renounceRole_eq_ok.mp h
    exact absurd rfl howner

/-- An owner who renounces with a role keeps it. -/
theorem renouncesStripped_of_stripped (h : a.exec contract op = .ok a')
    (hstripped : a'.Stripped a.owner) : a.RenouncesStripped op := by
  cases op with
  | renounceOwnership sender =>
    obtain ⟨-, rfl⟩ := renounceOwnership_eq_ok.mp h
    exact hstripped
  | _ => trivial

end Calls

/-! ## Runs without explicit role calls -/

/-- The owner is the only administrator. -/
structure OwnerAdministers (a : Access) : Prop where
  nonzero : a.owner ≠ Address.zero
  held    : a.hasRole.Held .defaultAdmin (some a.owner)

section Calls

variable [Ownable] [AccessControl Role]

theorem Deployed.ownerAdministers (h : a.Deployed contract) : a.OwnerAdministers := by
  obtain ⟨owner, operator, hconstruct⟩ := h
  obtain ⟨hne, -, rfl⟩ := construct_eq_ok.mp hconstruct
  refine ⟨hne, ?_⟩
  intro y
  simp [Roles.write_apply, eq_comm]

theorem transferOwnership_ownerAdministers {sender newOwner : Address} (hown : a.OwnerAdministers)
    (h : a.transferOwnership contract sender newOwner = .ok a') : a'.OwnerAdministers := by
  obtain ⟨-, hzero, rfl⟩ := transferOwnership_eq_ok.mp h
  split
  · exact hown
  · rename_i hnew
    refine ⟨hzero, ?_⟩
    -- the writes to the role itself are the hand-over, with other roles written in between
    intro y
    have hprevious : ∀ x, some a.owner = some x → x = a.owner :=
      fun _ hx => (Option.some.inj hx).symm
    have hhanded := hown.held.handOver hprevious hnew y
    rw [← hhanded]
    simp [handedOver, Roles.write_apply]

theorem exec_ownerAdministers (hown : a.OwnerAdministers) (hok : a.RenouncesStripped op)
    (hroles : ¬op.ChangesRole) (h : a.exec contract op = .ok a') : a'.OwnerAdministers := by
  cases op with
  | setOperator sender newOperator =>
    obtain ⟨-, -, -, rfl⟩ := setOperator_eq_ok.mp h
    exact ⟨hown.nonzero, (hown.held.write_of_ne (by decide) true).write_of_ne (by decide) false⟩
  | transferOwnership sender newOwner => exact transferOwnership_ownerAdministers hown h
  | renounceOwnership sender =>
    -- an owner who administers has not given the roles up
    have hadmin := (hown.held a.owner).mpr rfl
    rw [hok.1] at hadmin
    cases hadmin
  | grantRole sender role account => exact absurd trivial hroles
  | revokeRole sender role account => exact absurd trivial hroles
  | renounceRole sender role callerConfirmation => exact absurd trivial hroles

end Calls

/-! ## The three contracts -/

section Contracts

variable {σ ε : Type} (S : System σ ε) (access : σ → Access) (part : ε → Option Op)

/-- Ownership takes its roles along exactly when `ok` holds of the call that ends it: the account
that was owner holds none of them until it is given one again. And as long as every call meets
`ok` and no role is changed explicitly, the owner is the only administrator. -/
def RolesLeaveWith (ok : Access → Op → Prop) : Prop :=
  (∀ s e s', S.Reachable s → S.step s e s' → (access s').owner ≠ (access s).owner →
    ((∀ op, part e = some op → ok (access s) op) ↔
      ∀ t, S.LeadsTo (fun _ e => ∀ op, part e = some op → ¬op.Regrants (access s).owner) s' t →
        (access t).Stripped (access s).owner)) ∧
  (∀ s, S.ReachableWith
      (fun s e => ∀ op, part e = some op → ok (access s) op ∧ ¬op.ChangesRole) s →
    ∀ x, (access s).hasRole .defaultAdmin x = true ↔
      x = (access s).owner ∧ (access s).owner ≠ Address.zero)

variable {S access part}

theorem rolesLeaveWith_of_follows [Ownable] [AccessControl Role]
    (hinit : ∀ s, S.init s → (access s).Deployed contract)
    (hfollows : ∀ s e s', S.step s e s' → Follows contract (access s) (access s') (part e)) :
    RolesLeaveWith S access part RenouncesStripped := by
  constructor
  · intro s e s' _ hstep howner
    have hfollow := hfollows s e s' hstep
    constructor
    · intro hok t hlater
      have hstripped : (access s').Stripped (access s).owner := by
        rcases hfollow.step RenouncesStripped hok with hsame | ⟨op, hop, hexec⟩
        · rw [hsame] at howner
          exact absurd rfl howner
        · exact exec_owner_stripped hop hexec howner
      refine hlater.preserves (I := fun t => (access t).Stripped (access s).owner) hstripped ?_
      intro t e t' ht hregrants hstep'
      rcases (hfollows t e t' hstep').step (fun _ op => ¬op.Regrants (access s).owner)
        hregrants with hsame | ⟨op, hop, hexec⟩
      · rw [hsame]
        exact ht
      · exact exec_stripped ht hop hexec
    · intro hleft op hop
      rw [hop] at hfollow
      exact renouncesStripped_of_stripped hfollow (hleft s' (.init rfl))
  · intro s h y
    have hown : (access s).OwnerAdministers := by
      refine h.invariant (I := fun s => (access s).OwnerAdministers)
        (fun s hs => (hinit s hs).ownerAdministers) ?_
      intro t e t' ht hok hstep
      rcases (hfollows t e t' hstep).step (fun a op => a.RenouncesStripped op ∧ ¬op.ChangesRole)
        hok with hsame | ⟨op, ⟨hrenounce, hroles⟩, hexec⟩
      · rw [hsame]
        exact ht
      · exact exec_ownerAdministers ht hrenounce hroles hexec
    rw [hown.held y, Option.some.injEq, eq_comm]
    exact ⟨fun hy => ⟨hy, hown.nonzero⟩, fun hy => hy.1⟩

end Contracts

/-- In the three contracts the roles leave with the ownership exactly when an owner who renounces
has given them up before. -/
theorem roles_leave_with_ownership [Ownable] [AccessControl Role] {ω : Type}
    (surroundings : BuybackSurroundings ω) (environment : RevenueSurroundings ω) :
    RolesLeaveWith MultiPoolManager.constructed MultiPoolManager.access
      MultiPoolManager.Op.access RenouncesStripped ∧
    RolesLeaveWith (BuybackExecutor.system surroundings) (fun s => s.1.access)
      BuybackExecutor.Op.access RenouncesStripped ∧
    RolesLeaveWith (RevenueDistributor.system environment) (fun s => s.1.access)
      RevenueDistributor.Op.access RenouncesStripped := by
  refine ⟨?_, ?_, ?_⟩
  · exact rolesLeaveWith_of_follows (fun _ hinit => hinit.2)
      fun _ _ _ => MultiPoolManager.exec_follows
  · exact rolesLeaveWith_of_follows (fun _ hinit => hinit.access)
      fun _ _ _ => BuybackExecutor.exec_follows
  · exact rolesLeaveWith_of_follows (fun _ hinit => hinit.access)
      fun _ _ _ => RevenueDistributor.exec_follows

open OpenZeppelin Example MultiPoolManager.Example in
/-- The owner of a new manager hands it over to its operator. -/
theorem roles_leave_with_ownership_transferred :
    ∃ m, MultiPoolManager.exec start (.administer (.transferOwnership admin distributor)) = .ok m ∧
      m.access.owner = distributor ∧
      ∀ t, MultiPoolManager.constructed.LeadsTo
          (fun _ e => ∀ op, e.access = some op → ¬op.Regrants admin) m t →
        t.access.Stripped admin := by
  have hsummary : (MultiPoolManager.exec start
      (.administer (.transferOwnership admin distributor))).toOption.map (fun m => m.access.owner) =
        some distributor := by decide +kernel
  obtain ⟨m, hok, howner⟩ := Option.map_eq_some_iff.mp hsummary
  have hexec := toOption_eq_some.mp hok
  have hleave := (roles_leave_with_ownership alone onItsOwn).1.1 start _ m (.init start_deployed)
    hexec (by rw [howner]; decide)
  refine ⟨m, hexec, howner, hleave.mp ?_⟩
  rintro op ⟨rfl⟩
  trivial

open OpenZeppelin Example MultiPoolManager.Example in
/-- A deployed manager whose owner renounces: nobody owns it, and the former owner administers. -/
theorem renounced_owner_administers :
    MultiPoolManager.constructed.Reachable start ∧
    (∃ m, MultiPoolManager.exec start (.administer (.renounceOwnership admin)) = .ok m ∧
      m.access.owner = Address.zero ∧ m.access.hasRole .defaultAdmin admin = true ∧
      m.access.hasRole .pauser admin = true) ∧
    ¬RolesLeaveWith MultiPoolManager.constructed MultiPoolManager.access
      MultiPoolManager.Op.access fun _ _ => True := by
  have hreach : MultiPoolManager.constructed.Reachable start := .init start_deployed
  have hrenounced : MultiPoolManager.exec start (.administer (.renounceOwnership admin)) =
      .ok { start with access := { start.access with owner := Address.zero } } := rfl
  refine ⟨hreach, ⟨_, hrenounced, rfl, rfl, rfl⟩, ?_⟩
  intro hleave
  have hadmin := ((hleave.1 start _ _ hreach hrenounced (by decide)).mp (fun _ _ => trivial) _
    (.init rfl)).1
  exact absurd hadmin (by decide)

end Access
