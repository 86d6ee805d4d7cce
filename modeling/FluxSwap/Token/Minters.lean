-- SUMMARY: Who may mint FluxToken: the roles move with the ownership, and a former owner is powerless until somebody else favours it.
import FluxSwap.Token.Supply

/-!
# Owners and minters of FluxToken

`transferOwnership` moves the administration to the new owner, and the minter role with it if
the former owner had it. An account without the ownership and the two roles can give itself
none of them.
-/

open Exec

namespace FluxToken

variable {t t' : FluxToken} {x : Sender} {op : Op}

/-- The account is not the owner and holds neither role. -/
structure Stripped (t : FluxToken) (x : Sender) : Prop where
  admin : t.hasRole .defaultAdmin x = false
  minter : t.hasRole .minter x = false
  owner : t.owner ≠ x

/-- A call that gives the ownership or a role to the account. -/
def Op.Favours (x : Sender) : Op → Prop
  | .setMinter _ minter allowed => minter = x ∧ allowed = true
  | .transferOwnership _ newOwner => newOwner = x
  | .grantRole _ role account => (role = .defaultAdmin ∨ role = .minter) ∧ account = x
  | _ => False

/-- A call of the account that needs the ownership or a role. -/
def Op.Governs (x : Sender) : Op → Prop
  | .mint sender _ _ | .setMinter sender _ _ | .transferOwnership sender _ |
    .renounceOwnership sender | .grantRole sender _ _ | .revokeRole sender _ _ => sender = x
  | _ => False

/-- The calls that set roles one by one, or leave the token without an owner. -/
def Op.Detaches : Op → Prop
  | .renounceOwnership _ | .grantRole .. | .revokeRole .. | .renounceRole .. => True
  | _ => False

/-- The administrator is the owner. -/
def OwnerAdministers (t : FluxToken) : Prop :=
  ∀ a, t.hasRole .defaultAdmin a = true ↔ a = t.owner

/-! ## Without the roles -/

theorem Stripped.write (h : t.Stripped x) {role : TokenRole} {account : Address} {granted : Bool}
    (hother : (role = .defaultAdmin ∨ role = .minter) → account = x → granted = false) :
    Stripped { t with hasRole := t.hasRole.write role account granted } x where
  admin := by
    simp only [Roles.write_apply]
    split
    · rename_i heq
      exact hother (.inl heq.1.symm) heq.2.symm
    · exact h.admin
  minter := by
    simp only [Roles.write_apply]
    split
    · rename_i heq
      exact hother (.inr heq.1.symm) heq.2.symm
    · exact h.minter
  owner := h.owner

/-- The ownership and the roles go from one account to another, neither of them to this one. -/
theorem Stripped.handedOver {previousOwner newOwner : Address} (h : t.Stripped x)
    (hnew : newOwner ≠ x) :
    Stripped { t with
      owner := newOwner, hasRole := handedOver t.hasRole previousOwner newOwner } x := by
  have hmoved : Stripped { t with owner := newOwner } x := ⟨h.admin, h.minter, hnew⟩
  have hgranted : ∀ {u : FluxToken} (role : TokenRole), u.Stripped x →
      Stripped { u with hasRole := u.hasRole.write role newOwner true } x :=
    fun role hu => hu.write fun _ haccount => absurd haccount hnew
  have hrevoked : ∀ {u : FluxToken} (role : TokenRole), u.Stripped x →
      Stripped { u with hasRole := u.hasRole.write role previousOwner false } x :=
    fun role hu => hu.write fun _ _ => rfl
  unfold FluxToken.handedOver
  split
  · exact hrevoked .minter (hrevoked .defaultAdmin
      (hgranted .minter (hgranted .defaultAdmin hmoved)))
  · exact hrevoked .defaultAdmin (hgranted .defaultAdmin hmoved)

/-- What the calls on balances and allowances leave alone. -/
structure SameRoles (t t' : FluxToken) : Prop where
  owner : t'.owner = t.owner
  hasRole : t'.hasRole = t.hasRole

theorem Stripped.sameRoles (h : t.Stripped x) (hsame : SameRoles t t') : t'.Stripped x where
  admin := by rw [hsame.hasRole]; exact h.admin
  minter := by rw [hsame.hasRole]; exact h.minter
  owner := by rw [hsame.owner]; exact h.owner

theorem onERC20_sameRoles {call : ERC20Storage → Exec ERC20Storage}
    (h : t.onERC20 call = .ok t') : SameRoles t t' := by
  obtain ⟨s, -, rfl⟩ := onERC20_eq_ok.mp h
  exact ⟨rfl, rfl⟩

/-- The calls that set neither the owner nor a role. -/
def Op.SetsNoRole : Op → Prop
  | .transfer .. | .approve .. | .transferFrom .. | .burn .. | .burnFrom .. | .mint .. => True
  | _ => False

section Calls

variable [ERC20] [Ownable] [AccessControl TokenRole]

theorem exec_sameRoles (h : t.exec op = .ok t') (hop : op.SetsNoRole) : SameRoles t t' := by
  cases op with
  | transfer | approve | transferFrom | burn | burnFrom => exact onERC20_sameRoles h
  | mint sender dst amount =>
    simp only [exec, mint, bind_eq_ok] at h
    obtain ⟨_, -, _, -, _, -, _, -, hmint⟩ := h
    exact onERC20_sameRoles hmint
  | setMinter | transferOwnership | renounceOwnership | grantRole | revokeRole | renounceRole =>
    exact hop.elim

/-- The step lemma: an account without ownership and roles gets none by a call that does not
    favour it. -/
theorem exec_stripped (hs : t.Stripped x) (hop : ¬op.Favours x) (h : t.exec op = .ok t') :
    t'.Stripped x := by
  cases op with
  | setMinter sender minter allowed =>
    obtain ⟨-, -, rfl⟩ := setMinter_eq_ok.mp h
    refine hs.write fun _ haccount => ?_
    cases allowed with
    | true => exact absurd ⟨haccount, rfl⟩ hop
    | false => rfl
  | transferOwnership sender newOwner =>
    obtain ⟨-, -, -, rfl⟩ := transferOwnership_eq_ok.mp h
    exact hs.handedOver hop
  | renounceOwnership sender =>
    obtain ⟨-, rfl⟩ := renounceOwnership_eq_ok.mp h
    exact ⟨hs.admin, hs.minter, x.2.symm⟩
  | grantRole sender role account =>
    obtain ⟨-, rfl⟩ := grantRole_eq_ok.mp h
    exact hs.write fun hrole haccount => absurd ⟨hrole, haccount⟩ hop
  | revokeRole sender role account =>
    obtain ⟨-, rfl⟩ := revokeRole_eq_ok.mp h
    exact hs.write fun _ _ => rfl
  | renounceRole sender role callerConfirmation =>
    obtain ⟨-, rfl⟩ := renounceRole_eq_ok.mp h
    exact hs.write fun _ _ => rfl
  | transfer | approve | transferFrom | burn | burnFrom | mint =>
    exact hs.sameRoles (exec_sameRoles h trivial)

/-- Such an account can neither mint nor govern. -/
theorem Stripped.powerless (hs : t.Stripped x) (hop : op.Governs x) : t.exec op ≠ .ok t' := by
  intro h
  cases op with
  | mint sender dst amount =>
    obtain rfl : sender = x := hop
    simp only [exec, mint, bind_eq_ok, require_eq_ok, hs.minter] at h
    obtain ⟨_, hminter, -⟩ := h
    cases hminter
  | setMinter sender minter allowed =>
    obtain rfl : sender = x := hop
    exact hs.owner (setMinter_eq_ok.mp h).1.symm
  | transferOwnership sender newOwner =>
    obtain rfl : sender = x := hop
    exact hs.owner (transferOwnership_eq_ok.mp h).1.symm
  | renounceOwnership sender =>
    obtain rfl : sender = x := hop
    exact hs.owner (renounceOwnership_eq_ok.mp h).1.symm
  | grantRole sender role account =>
    obtain rfl : sender = x := hop
    have hadmin := (grantRole_eq_ok.mp h).1
    rw [hs.admin] at hadmin
    cases hadmin
  | revokeRole sender role account =>
    obtain rfl : sender = x := hop
    have hadmin := (revokeRole_eq_ok.mp h).1
    rw [hs.admin] at hadmin
    cases hadmin
  | transfer | approve | transferFrom | burn | burnFrom | renounceRole => exact hop

end Calls

/-- The former owner keeps nothing. -/
theorem transferOwnership_stripped [Ownable] [AccessControl TokenRole] {newOwner : Address}
    (h : t.transferOwnership x newOwner = .ok t') : t'.Stripped x := by
  obtain ⟨hsender, -, hne, rfl⟩ := transferOwnership_eq_ok.mp h
  rw [← hsender] at hne ⊢
  unfold handedOver
  cases hminter : t.hasRole .minter x with
  | true => exact ⟨by simp [Roles.write_apply], by simp [Roles.write_apply], hne⟩
  | false => exact ⟨by simp [Roles.write_apply], by simp [Roles.write_apply, hminter], hne⟩

/-! ## The administrator -/

section Administrator

variable [ERC20] [Ownable] [AccessControl TokenRole]

theorem Deployed.ownerAdministers (h : t.Deployed) : t.OwnerAdministers := by
  obtain ⟨args, hconstruct⟩ := h
  obtain ⟨howner, hroles, -⟩ := construct_ok hconstruct
  intro a
  rw [howner, hroles]
  simp [Roles.write_apply]

/-- The step lemma: without explicit role calls the administration moves with the ownership. -/
theorem exec_ownerAdministers (ht : t.OwnerAdministers) (hop : ¬op.Detaches)
    (h : t.exec op = .ok t') : t'.OwnerAdministers := by
  cases op with
  | setMinter sender minter allowed =>
    obtain ⟨-, -, rfl⟩ := setMinter_eq_ok.mp h
    intro a
    simpa using ht a
  | transferOwnership sender newOwner =>
    obtain ⟨-, -, hne, rfl⟩ := transferOwnership_eq_ok.mp h
    intro a
    have hadmin : handedOver t.hasRole t.owner newOwner .defaultAdmin a =
        if a = t.owner then false else if a = newOwner then true else t.hasRole .defaultAdmin a := by
      unfold handedOver
      split <;> simp [Roles.write_apply]
    dsimp only
    rw [hadmin]
    split
    · rename_i hold
      subst hold
      simpa using Ne.symm hne
    · rename_i hold
      split
      · simpa
      · rename_i hnew
        have hnone := (ht a).not.mpr hold
        simp [hnone, hnew]
  | renounceOwnership | grantRole | revokeRole | renounceRole => exact absurd trivial hop
  | transfer | approve | transferFrom | burn | burnFrom | mint =>
    have hsame := exec_sameRoles h trivial
    intro a
    rw [hsame.owner, hsame.hasRole]
    exact ht a

end Administrator

/-- In every run without explicit role calls and without a renounced ownership the administrator
    is the owner. After any `transferOwnership` the former owner can neither mint nor govern the
    token in any later state of any run in which nobody favours it again. -/
theorem roles_follow_ownership [ERC20] [Ownable] [AccessControl TokenRole] :
    (∀ t, system.ReachableWith (fun _ op => ¬op.Detaches) t → t.OwnerAdministers) ∧
    ∀ (x : Sender) (newOwner : Address) (t t₁ t₂ : FluxToken),
      t.transferOwnership x newOwner = .ok t₁ →
      system.LeadsTo (fun _ op => ¬op.Favours x) t₁ t₂ →
      ∀ op, op.Governs x → ∀ t₃, t₂.exec op ≠ .ok t₃ := by
  constructor
  · intro t h
    refine System.ReachableWith.invariant (I := OwnerAdministers) ?_ ?_ h
    · exact fun t hinit => Deployed.ownerAdministers hinit
    · exact fun s op s' hs hop hexec => exec_ownerAdministers hs hop hexec
  · intro x newOwner t t₁ t₂ htransfer hlater op hop t₃
    have hstripped : t₂.Stripped x :=
      System.LeadsTo.preserves (I := fun t => t.Stripped x) hlater
        (transferOwnership_stripped htransfer)
        fun s op s' hs hop hexec => exec_stripped hs hop hexec
    exact hstripped.powerless hop

open OpenZeppelin Example in
theorem roles_follow_ownership_bob :
    ∃ t t₁, system.ReachableWith (fun _ op => ¬op.Detaches) t ∧ t.OwnerAdministers ∧
      t.transferOwnership alice bob = .ok t₁ ∧ t₁.owner = bob ∧
      ∀ t₃, t₁.exec (.mint alice alice 1) ≠ .ok t₃ := by
  have hrun : ((construct genesis).toOption.bind fun t =>
      ((t.transferOwnership alice bob).toOption.map fun t₁ => (t, t₁))).map
        (fun r => r.2.owner) = some bob.val := by
    decide +kernel
  obtain ⟨⟨t, t₁⟩, hopened, howner⟩ := Option.map_eq_some_iff.mp hrun
  obtain ⟨t₀, hconstruct, htransfer⟩ := Option.bind_eq_some_iff.mp hopened
  obtain ⟨t₂, hok, hpair⟩ := Option.map_eq_some_iff.mp htransfer
  obtain ⟨rfl, rfl⟩ := Prod.mk.inj hpair
  have hdeployed : t₀.Deployed := ⟨genesis, toOption_eq_some.mp hconstruct⟩
  have hstep : t₀.transferOwnership alice bob = .ok t₂ := toOption_eq_some.mp hok
  have hreach : system.ReachableWith (fun _ op => ¬op.Detaches) t₀ := .init hdeployed
  exact ⟨t₀, t₂, hreach, roles_follow_ownership.1 t₀ hreach, hstep, howner,
    roles_follow_ownership.2 alice bob t₀ t₂ t₂ hstep (.init rfl) (.mint alice alice 1) rfl⟩

end FluxToken
