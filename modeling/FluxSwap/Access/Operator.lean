-- SUMMARY: The operator field names the only holder of the operator role, and the factory's setter field the only holder of its role.
import FluxSwap.Access.Model
import FluxSwap.Amm.Factory
import FluxSwap.Manager.Accounting
import FluxSwap.Revenue.Executor
import FluxSwap.Revenue.Distributor

/-!
# Operators

A permission that is kept in a field and in a role table is in step when the role has
exactly the holder that the field names. The entry points that write either of the two
write both. The three contracts with an operator reach their access control through the
entry points of `Access` alone, so what holds of its runs holds of theirs.
-/

open Exec

/-! ## Runs of the access control -/

namespace Access

variable {a a' : Access} {contract : String}

/-- The operator that the field names. -/
def operatorHolder (a : Access) : Option Address :=
  if a.operator = Address.zero then none else some a.operator

theorem operatorHolder_eq_some {x : Address} (h : a.operatorHolder = some x) : x = a.operator := by
  unfold operatorHolder at h
  split at h
  · cases h
  · exact (Option.some.inj h).symm

/-- The role of the operator is held by the operator alone. -/
def OperatorHeld (a : Access) : Prop := a.hasRole.Held .operator a.operatorHolder

theorem OperatorHeld.iff (h : a.OperatorHeld) (x : Address) :
    a.hasRole .operator x = true ↔ x = a.operator ∧ a.operator ≠ Address.zero := by
  rw [h x]
  unfold operatorHolder
  split
  · simp [‹a.operator = Address.zero›]
  · simp [‹a.operator ≠ Address.zero›, eq_comm]

section Runs

variable [Ownable] [AccessControl Role]

theorem Deployed.operatorHeld (h : a.Deployed contract) : a.OperatorHeld := by
  obtain ⟨owner, operator, hconstruct⟩ := h
  obtain ⟨-, hne, rfl⟩ := construct_eq_ok.mp hconstruct
  intro x
  simp [Roles.write_apply, operatorHolder, hne, eq_comm]

theorem setOperator_operatorHeld {sender newOperator : Address} (hheld : a.OperatorHeld)
    (h : a.setOperator contract sender newOperator = .ok a') : a'.OperatorHeld := by
  obtain ⟨-, hzero, hsame, rfl⟩ := setOperator_eq_ok.mp h
  unfold OperatorHeld operatorHolder
  rw [if_neg hzero]
  exact Roles.Held.handOver hheld (fun _ => operatorHolder_eq_some) hsame

theorem transferOwnership_operatorHeld {sender newOwner : Address} (hheld : a.OperatorHeld)
    (h : a.transferOwnership contract sender newOwner = .ok a') : a'.OperatorHeld := by
  obtain ⟨-, -, rfl⟩ := transferOwnership_eq_ok.mp h
  split
  · exact hheld
  · have hothers : ((((a.hasRole.write .defaultAdmin newOwner true).write .pauser newOwner
        true).write .pauser a.owner false).write .defaultAdmin a.owner false).Held .operator
          a.operatorHolder :=
      (((hheld.write_of_ne (by decide) true).write_of_ne (by decide) true).write_of_ne
        (by decide) false).write_of_ne (by decide) false
    have hrevoked := hothers.revoke a.owner
    unfold OperatorHeld operatorHolder handedOver
    by_cases hoperator : a.operator = a.owner
    · -- the previous owner was the operator, or there was none
      have hnone : (if a.operatorHolder = some a.owner then none else a.operatorHolder) = none := by
        unfold operatorHolder
        rw [hoperator]
        split <;> simp
      rw [hnone] at hrevoked
      simp only [if_pos hoperator, if_true]
      exact hrevoked
    · have hother : a.operatorHolder ≠ some a.owner :=
        fun hsome => hoperator (operatorHolder_eq_some hsome).symm
      rw [if_neg hother] at hrevoked
      simp only [if_neg hoperator]
      exact hrevoked

theorem exec_operatorHeld {op : Op} (hheld : a.OperatorHeld) (h : a.exec contract op = .ok a') :
    a'.OperatorHeld := by
  cases op with
  | setOperator sender newOperator => exact setOperator_operatorHeld hheld h
  | transferOwnership sender newOwner => exact transferOwnership_operatorHeld hheld h
  | renounceOwnership sender =>
    obtain ⟨-, rfl⟩ := renounceOwnership_eq_ok.mp h
    exact hheld
  | grantRole sender role account =>
    obtain ⟨-, hrole, rfl⟩ := grantRole_eq_ok.mp h
    exact Roles.Held.write_of_ne hheld hrole.symm true
  | revokeRole sender role account =>
    obtain ⟨-, hrole, rfl⟩ := revokeRole_eq_ok.mp h
    exact Roles.Held.write_of_ne hheld hrole.symm false
  | renounceRole sender role callerConfirmation =>
    obtain ⟨hrole, -, rfl⟩ := renounceRole_eq_ok.mp h
    exact Roles.Held.write_of_ne hheld hrole.symm false

theorem operatorHeld_of_reachable (h : (system contract).Reachable a) : a.OperatorHeld :=
  h.invariant (fun _ => Deployed.operatorHeld) fun _ _ _ => exec_operatorHeld

end Runs

end Access

/-! ## The three contracts -/

section Follows

variable [Ownable] [AccessControl Role]

/-- A step of a contract, seen from its access control: nothing, or one of its entry points. -/
def Access.Follows (contract : String) (a a' : Access) (op : Option Access.Op) : Prop :=
  match op with
  | none => a' = a
  | some op => a.exec contract op = .ok a'

theorem Access.Follows.step {contract : String} {a a' : Access} {op : Option Access.Op}
    (h : Access.Follows contract a a' op) (ok : Access → Access.Op → Prop)
    (hok : ∀ d, op = some d → ok a d) :
    a' = a ∨ ∃ d, ok a d ∧ (Access.system contract).step a d a' := by
  cases op with
  | none => exact .inl h
  | some d => exact .inr ⟨d, hok d rfl, h⟩

/-- A run of a contract is a run of its access control. -/
theorem Access.reachable_of_follows {σ ε : Type} {S : System σ ε} {contract : String} {s : σ}
    (h : S.Reachable s) (access : σ → Access) (part : ε → Option Access.Op)
    (hinit : ∀ s, S.init s → (access s).Deployed contract)
    (hfollows : ∀ s e s', S.step s e s' → Access.Follows contract (access s) (access s') (part e)) :
    (Access.system contract).Reachable (access s) := by
  refine h.simulated access hinit ?_
  intro s e s' hs
  rcases (hfollows s e s' hs).step (fun _ _ => True) (fun _ _ => trivial) with
    hsame | ⟨d, -, hs'⟩
  · exact .inl hsame
  · exact .inr ⟨d, hs'⟩

end Follows

namespace MultiPoolManager

variable {m m' : MultiPoolManager}

theorem accruePool_access {pid reward : Nat} (h : m.accruePool pid = .ok (m', reward)) :
    m'.access = m.access := by
  obtain ⟨info, -, -, rfl⟩ := accruePool_cases h
  rfl

/-- The calls of the manager that write its access control. -/
def Op.access : Op → Option Access.Op
  | .administer op => some op
  | _ => none

theorem exec_follows [Ownable] [AccessControl Role] {op : Op} (h : m.exec op = .ok m') :
    Access.Follows contract m.access m'.access op.access := by
  cases op with
  | addPool sender pool allocPoint active =>
    simp only [exec, addPool, bind_eq_ok, pure_eq_ok] at h
    obtain ⟨_, -, _, -, _, -, _, -, _, -, rfl⟩ := h
    rfl
  | deactivatePool sender pool =>
    simp only [exec, deactivatePool, bind_eq_ok] at h
    obtain ⟨_, -, pid, -, ⟨m₁, reward⟩, haccrue, info, -, h⟩ := h
    have haccess := accruePool_access haccrue
    split at h
    · simp only [bind_eq_ok, pure_eq_ok] at h
      obtain ⟨_, -, rfl⟩ := h
      exact haccess
    · obtain rfl := pure_eq_ok.mp h
      exact haccess
  | setPool sender pid allocPoint active =>
    simp only [exec, setPool, bind_eq_ok, pure_eq_ok] at h
    obtain ⟨_, -, _, -, ⟨m₁, reward⟩, haccrue, _, -, _, -, _, -, _, -, rfl⟩ := h
    have haccess := accruePool_access haccrue
    exact haccess
  | distributeRewards answer sender totalReward =>
    simp only [exec, distributeRewards, bind_eq_ok, pure_eq_ok] at h
    obtain ⟨_, -, _, -, _, -, _, -, _, -, _, -, _, -, _, -, _, -, _, -, _, -, _, -, _, -, rfl⟩ := h
    rfl
  | claimPoolRewards sender pool =>
    simp only [exec, claimPoolRewards, bind_eq_ok, pure_eq_ok] at h
    obtain ⟨⟨m₂, reward⟩, ⟨pid, -, _, -, ⟨m₁, accrued⟩, haccrue, h⟩, rfl⟩ := h
    have haccess := accruePool_access haccrue
    split at h
    · obtain ⟨rfl, -⟩ := Prod.mk.inj (pure_eq_ok.mp h)
      exact haccess
    · simp only [bind_eq_ok, pure_eq_ok] at h
      obtain ⟨_, -, _, -, _, -, h⟩ := h
      obtain ⟨rfl, -⟩ := Prod.mk.inj h
      exact haccess
  | recoverToken sender token dst amount =>
    simp only [exec, recoverToken, bind_eq_ok, pure_eq_ok] at h
    obtain ⟨_, -, _, -, _, -, _, -, _, -, rfl⟩ := h
    rfl
  | setTreasury sender newTreasury =>
    simp only [exec, setTreasury, bind_eq_ok, pure_eq_ok] at h
    obtain ⟨_, -, _, -, rfl⟩ := h
    rfl
  | setPoolFactory sender newPoolFactory =>
    simp only [exec, setPoolFactory, bind_eq_ok, pure_eq_ok] at h
    obtain ⟨_, -, _, -, rfl⟩ := h
    rfl
  | pause sender =>
    simp only [exec, pause, bind_eq_ok, pure_eq_ok] at h
    obtain ⟨_, -, _, -, rfl⟩ := h
    rfl
  | unpause sender =>
    simp only [exec, unpause, bind_eq_ok, pure_eq_ok] at h
    obtain ⟨_, -, _, -, rfl⟩ := h
    rfl
  | administer op =>
    simp only [exec, administer, bind_eq_ok, pure_eq_ok] at h
    obtain ⟨access, haccess, rfl⟩ := h
    exact haccess
  | tokenTransfer token sender dst amount =>
    simp only [exec, bind_eq_ok, pure_eq_ok] at h
    obtain ⟨_, -, _, -, rfl⟩ := h
    rfl
  | tokenTransferFrom token sender src dst amount =>
    simp only [exec, bind_eq_ok, pure_eq_ok] at h
    obtain ⟨_, -, _, -, rfl⟩ := h
    rfl
  | tokenApprove token sender spender amount =>
    simp only [exec, bind_eq_ok, pure_eq_ok] at h
    obtain ⟨_, -, rfl⟩ := h
    rfl

end MultiPoolManager

namespace BuybackExecutor

variable {ω : Type} {env : BuybackSurroundings ω} {s s' : BuybackExecutor × ω}

/-- The calls of the executor that write its access control. -/
def Op.access : Op ω → Option Access.Op
  | .administer op => some op
  | _ => none

theorem exec_follows [Ownable] [AccessControl Role] {op : Op ω} (h : exec env s op = .ok s') :
    Access.Follows contract s.1.access s'.1.access op.access := by
  cases op with
  | administer op =>
    simp only [exec, administer, bind_eq_ok, pure_eq_ok] at h
    obtain ⟨_, ⟨access, haccess, rfl⟩, rfl⟩ := h
    exact haccess
  | setTreasury sender newTreasury =>
    simp only [exec, setTreasury, bind_eq_ok, pure_eq_ok] at h
    obtain ⟨_, ⟨_, -, _, -, rfl⟩, rfl⟩ := h
    rfl
  | setDefaultRecipient sender newDefaultRecipient =>
    simp only [exec, setDefaultRecipient, bind_eq_ok, pure_eq_ok] at h
    obtain ⟨_, ⟨_, -, _, -, _, -, rfl⟩, rfl⟩ := h
    rfl
  | pause sender =>
    simp only [exec, pause, bind_eq_ok, pure_eq_ok] at h
    obtain ⟨_, ⟨_, -, _, -, rfl⟩, rfl⟩ := h
    rfl
  | unpause sender =>
    simp only [exec, unpause, bind_eq_ok, pure_eq_ok] at h
    obtain ⟨_, ⟨_, -, _, -, rfl⟩, rfl⟩ := h
    rfl
  | executeBuyback sender spendToken amountIn amountOutMin path recipient deadline =>
    simp only [exec, bind_eq_ok, pure_eq_ok] at h
    obtain ⟨_, -, rfl⟩ := h
    rfl
  | recoverToken sender token dst amount =>
    simp only [exec, bind_eq_ok, pure_eq_ok] at h
    obtain ⟨_, -, rfl⟩ := h
    rfl
  | others w =>
    obtain rfl := pure_eq_ok.mp h
    rfl

end BuybackExecutor

namespace RevenueDistributor

variable {ω : Type} {env : RevenueSurroundings ω} {s s' : RevenueDistributor × ω}

/-- The calls of the distributor that write its access control. -/
def Op.access : Op ω → Option Access.Op
  | .administer op => some op
  | _ => none

theorem exec_follows [Ownable] [AccessControl Role] {op : Op ω} (h : exec env s op = .ok s') :
    Access.Follows contract s.1.access s'.1.access op.access := by
  cases op with
  | administer op =>
    simp only [exec, administer, bind_eq_ok, pure_eq_ok] at h
    obtain ⟨_, ⟨access, haccess, rfl⟩, rfl⟩ := h
    exact haccess
  | setBuybackExecutor sender newBuybackExecutor =>
    simp only [exec, setBuybackExecutor, bind_eq_ok, pure_eq_ok] at h
    obtain ⟨_, ⟨_, -, _, -, _, -, _, -, _, -, _, -, _, -, _, -, rfl⟩, rfl⟩ := h
    rfl
  | setManager sender newManager =>
    simp only [exec, setManager, bind_eq_ok, pure_eq_ok] at h
    obtain ⟨_, ⟨_, -, _, -, _, -, _, -, _, -, _, -, _, -, _, -, rfl⟩, rfl⟩ := h
    rfl
  | setRevenueConfiguration sender newBuybackBps newBurnBps =>
    simp only [exec, setRevenueConfiguration, bind_eq_ok, pure_eq_ok] at h
    obtain ⟨_, ⟨_, -, _, -, _, -, rfl⟩, rfl⟩ := h
    rfl
  | pause sender =>
    simp only [exec, pause, bind_eq_ok, pure_eq_ok] at h
    obtain ⟨_, ⟨_, -, _, -, rfl⟩, rfl⟩ := h
    rfl
  | unpause sender =>
    simp only [exec, unpause, bind_eq_ok, pure_eq_ok] at h
    obtain ⟨_, ⟨_, -, _, -, rfl⟩, rfl⟩ := h
    rfl
  | executeBuybackAndDistribute sender spendToken revenueAmount amountOutMin path deadline =>
    simp only [exec, bind_eq_ok, pure_eq_ok] at h
    obtain ⟨_, -, rfl⟩ := h
    rfl
  | distributeTreasuryRewards sender amount =>
    simp only [exec, bind_eq_ok, pure_eq_ok] at h
    obtain ⟨_, -, rfl⟩ := h
    rfl
  | recoverToken sender token dst amount =>
    simp only [exec, bind_eq_ok, pure_eq_ok] at h
    obtain ⟨_, -, rfl⟩ := h
    rfl
  | others w =>
    obtain rfl := pure_eq_ok.mp h
    rfl

end RevenueDistributor

/-! ## The factory -/

namespace FluxSwapFactory

variable [AccessControl FactoryRole] {create2 : Address → Address → Address}
  {f f' : FluxSwapFactory}

/-- The role that may set the treasury is held by the setter alone. -/
def SetterHeld (f : FluxSwapFactory) : Prop :=
  f.hasRole.Held .treasurySetter (some f.treasurySetter)

theorem Deployed.setterHeld (h : f.Deployed) : f.SetterHeld := by
  obtain ⟨treasurySetter, hconstruct⟩ := h
  obtain ⟨-, rfl⟩ := construct_eq_ok.mp hconstruct
  intro x
  simp [Roles.write_apply, eq_comm]

theorem setTreasurySetter_setterHeld {sender treasurySetter : Address} (hheld : f.SetterHeld)
    (h : f.setTreasurySetter sender treasurySetter = .ok f') : f'.SetterHeld := by
  obtain ⟨-, -, hsame, rfl⟩ := setTreasurySetter_eq_ok.mp h
  have hadmin : Roles.Held (f.hasRole.write .defaultAdmin treasurySetter true) .treasurySetter
      (some f.treasurySetter) := Roles.Held.write_of_ne hheld (by decide) true
  have hprevious : ∀ x, some f.treasurySetter = some x → x = f.treasurySetter :=
    fun _ hx => (Option.some.inj hx).symm
  exact (hadmin.handOver hprevious hsame).write_of_ne (by decide) false

theorem exec_setterHeld {op : Op} (hheld : f.SetterHeld) (h : exec create2 f op = .ok f') :
    f'.SetterHeld := by
  cases op with
  | createPair tokenA tokenB =>
    simp only [exec, createPair, bind_eq_ok, pure_eq_ok] at h
    obtain ⟨_, -, _, -, _, -, _, -, rfl⟩ := h
    exact hheld
  | setTreasury sender treasury =>
    simp only [exec, setTreasury, bind_eq_ok, pure_eq_ok] at h
    obtain ⟨_, -, rfl⟩ := h
    exact hheld
  | setTreasurySetter sender treasurySetter => exact setTreasurySetter_setterHeld hheld h
  | grantRole sender role account =>
    obtain ⟨-, hrole, rfl⟩ := grantRole_eq_ok.mp h
    exact hheld.write_of_ne hrole.symm true
  | revokeRole sender role account =>
    obtain ⟨-, hrole, rfl⟩ := revokeRole_eq_ok.mp h
    exact hheld.write_of_ne hrole.symm false
  | renounceRole sender role callerConfirmation =>
    obtain ⟨hrole, -, rfl⟩ := renounceRole_eq_ok.mp h
    exact hheld.write_of_ne hrole.symm false

theorem setterHeld_of_reachable (h : (system create2).Reachable f) : f.SetterHeld :=
  h.invariant (fun _ => Deployed.setterHeld) fun _ _ _ => exec_setterHeld

end FluxSwapFactory

/-! ## Role and field agree -/

namespace Access

/-- In every run of the three contracts the operator role is held by the operator alone, and
by nobody when the operator is zero; in every run of the factory the role that sets the
treasury is held by the setter alone. -/
theorem roles_agree_with_fields [Ownable] [AccessControl Role] [AccessControl FactoryRole]
    {ω : Type} (surroundings : BuybackSurroundings ω)
    (environment : RevenueSurroundings ω) (create2 : Address → Address → Address) :
    (∀ m, MultiPoolManager.constructed.Reachable m →
      ∀ x, m.access.hasRole .operator x = true ↔
        x = m.access.operator ∧ m.access.operator ≠ Address.zero) ∧
    (∀ s, (BuybackExecutor.system surroundings).Reachable s → ∀ x,
      s.1.access.hasRole .operator x = true ↔
        x = s.1.access.operator ∧ s.1.access.operator ≠ Address.zero) ∧
    (∀ s, (RevenueDistributor.system environment).Reachable s → ∀ x,
      s.1.access.hasRole .operator x = true ↔
        x = s.1.access.operator ∧ s.1.access.operator ≠ Address.zero) ∧
    (∀ f, (FluxSwapFactory.system create2).Reachable f →
      ∀ x, f.hasRole .treasurySetter x = true ↔ x = f.treasurySetter) := by
  refine ⟨?_, ?_, ?_, ?_⟩
  · intro m h
    have hreach := reachable_of_follows h MultiPoolManager.access MultiPoolManager.Op.access
      (fun _ hinit => hinit.2) (fun _ _ _ => MultiPoolManager.exec_follows)
    exact (operatorHeld_of_reachable hreach).iff
  · intro s h
    have hreach := reachable_of_follows h (fun s => s.1.access) BuybackExecutor.Op.access
      (fun _ hinit => hinit.access) (fun _ _ _ => BuybackExecutor.exec_follows)
    exact (operatorHeld_of_reachable hreach).iff
  · intro s h
    have hreach := reachable_of_follows h (fun s => s.1.access) RevenueDistributor.Op.access
      (fun _ hinit => hinit.access) (fun _ _ _ => RevenueDistributor.exec_follows)
    exact (operatorHeld_of_reachable hreach).iff
  · intro f h x
    rw [FluxSwapFactory.setterHeld_of_reachable h x, Option.some.injEq, eq_comm]

namespace Example

/-- An executor with nothing around it. -/
def alone : BuybackSurroundings Unit where
  paused _ _ := false
  pullApprovedToken _ _ _ _ _ := .error (.message "no such function")
  approve _ _ _ _ _ := none
  swapExactTokensForTokens _ _ _ _ _ _ _ _ := .error (.message "no such function")
  transfer _ _ _ _ _ := .error (.message "no such function")

/-- A distributor with nothing around it. -/
def onItsOwn : RevenueSurroundings Unit where
  rewardToken _ _ := .error (.message "no such function")
  managerTreasury _ _ := .error (.message "no such function")
  buyToken _ _ := .error (.message "no such function")
  executorTreasury _ _ := .error (.message "no such function")
  executeBuyback _ _ _ _ _ _ _ _ _ := .error (.message "no such function")
  burnApprovedToken _ _ _ _ _ := .error (.message "no such function")
  distributeRewards _ _ _ _ := .error (.message "no such function")
  transfer _ _ _ _ _ := .error (.message "no such function")

open OpenZeppelin MultiPoolManager.Example in
theorem start_deployed : start.Initial ∧ start.access.Deployed MultiPoolManager.contract :=
  ⟨start_initial, admin, distributor, construct_eq_ok.mpr ⟨by decide, by decide, rfl⟩⟩

end Example

open OpenZeppelin Example MultiPoolManager.Example in
/-- The owner hands the manager over to the operator, who hands it over in turn: the place of
    the operator is free then. -/
theorem roles_agree_with_fields_handed_over :
    ∃ m, MultiPoolManager.constructed.Reachable m ∧ m.access.owner = firstPool ∧
      ∀ x, m.access.hasRole .operator x = false := by
  have hrun : (System.runWith MultiPoolManager.exec (fun _ _ => True) start
      [.administer (.transferOwnership admin distributor),
        .administer (.transferOwnership distributor firstPool)]).map
          (fun m => (m.access.owner, m.access.operator)) = some (firstPool, Address.zero) := by
    decide +kernel
  obtain ⟨m, hm, hsummary⟩ := Option.map_eq_some_iff.mp hrun
  obtain ⟨howner, hoperator⟩ := Prod.mk.inj hsummary
  have hreach : MultiPoolManager.constructed.Reachable m :=
    System.reachableWith_of_runWith (.init start_deployed) hm
  refine ⟨m, hreach, howner, ?_⟩
  intro x
  have hagree := (roles_agree_with_fields alone onItsOwn fun _ _ => Address.zero).1 m hreach x
  rw [Bool.eq_false_iff]
  exact fun hheld => (hagree.mp hheld).2 hoperator

end Access
