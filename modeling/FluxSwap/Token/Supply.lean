-- SUMMARY: The supply of FluxToken: it is the sum of the balances, stays below the cap, and grows only by what minters mint.
import FluxSwap.Token.FluxToken

/-!
# The supply of FluxToken

The balances add up to the supply, the supply is at most the cap, and the cap fits into 256
bits; this is where the inherited functions are exact, and they keep it. The accounting over
runs follows: what the constructor issued and minters have minted, less what was burned.
-/

open Exec

namespace FluxToken

variable {t t' : FluxToken}

/-! ## Accounting -/

/-- What a call adds to the supply. -/
def Op.minted : Op → Nat
  | .mint _ _ amount => amount
  | _ => 0

/-- What a call takes from the supply. -/
def Op.burned : Op → Nat
  | .burn _ value | .burnFrom _ _ value => value
  | _ => 0

/-- What one call does to the supply. -/
structure Accounted (s s' : ERC20Storage) (minted burned : Nat) : Prop where
  backed : s'.Backed
  cap : s'.cap = s.cap
  totalSupply : s'.totalSupply + burned = s.totalSupply + minted

theorem accounted_refl {s : ERC20Storage} (hb : s.Backed) : Accounted s s 0 0 := ⟨hb, rfl, rfl⟩

/-- An inherited call of the token. -/
theorem onERC20_accounted {call : ERC20Storage → Exec ERC20Storage} {minted burned : Nat}
    (hcall : ∀ s', call t.toERC20Storage = .ok s' → Accounted t.toERC20Storage s' minted burned)
    (h : t.onERC20 call = .ok t') :
    Accounted t.toERC20Storage t'.toERC20Storage minted burned := by
  obtain ⟨s', hok, rfl⟩ := onERC20_eq_ok.mp h
  exact hcall s' hok

section Inherited

variable [ERC20] {s s' : ERC20Storage} {sender : Sender} {src dst account : Address} {value : Nat}

theorem mint_accounted (hb : s.Backed) (h : ERC20.mint dst value s = .ok s') :
    Accounted s s' value 0 := by
  obtain ⟨hcap, rfl⟩ := ERC20.mint_ok hb h
  exact ⟨hb.issued hcap dst, rfl, rfl⟩

theorem transfer_accounted (hb : s.Backed) (h : ERC20.transfer sender dst value s = .ok s') :
    Accounted s s' 0 0 := by
  obtain ⟨hle, rfl⟩ := ERC20.transfer_ok hb h
  exact ⟨hb.moved hle dst, rfl, rfl⟩

theorem approve_accounted (hb : s.Backed) (h : ERC20.approve sender dst value s = .ok s') :
    Accounted s s' 0 0 := by
  obtain rfl := ERC20.approve_ok h
  exact ⟨hb.approved sender dst value, rfl, rfl⟩

theorem transferFrom_accounted (hb : s.Backed)
    (h : ERC20.transferFrom sender src dst value s = .ok s') : Accounted s s' 0 0 := by
  obtain ⟨hle, rfl⟩ := ERC20.transferFrom_ok hb h
  have hspent := hb.spent src sender value
  refine ⟨hspent.moved (by simpa using hle) dst, ?_, ?_⟩
  · simp [ERC20Storage.moved]
  · simp [ERC20Storage.moved]

theorem burn_accounted (hb : s.Backed) (h : ERC20.burn sender value s = .ok s') :
    Accounted s s' 0 value := by
  obtain ⟨hle, rfl⟩ := ERC20.burn_ok hb h
  exact ⟨hb.redeemed hle, rfl, Nat.sub_add_cancel (hle.trans (hb.balance_le sender))⟩

theorem burnFrom_accounted (hb : s.Backed)
    (h : ERC20.burnFrom sender account value s = .ok s') : Accounted s s' 0 value := by
  obtain ⟨hle, rfl⟩ := ERC20.burnFrom_ok hb h
  have hspent := hb.spent account sender value
  refine ⟨hspent.redeemed (by simpa using hle), ?_, ?_⟩
  · simp [ERC20Storage.redeemed]
  · simpa [ERC20Storage.redeemed] using Nat.sub_add_cancel (hle.trans (hb.balance_le account))

end Inherited

section Runs

variable [ERC20] [Ownable] [AccessControl TokenRole]

/-- The step lemma. -/
theorem exec_accounted (hb : t.Backed) {op : Op} (h : t.exec op = .ok t') :
    Accounted t.toERC20Storage t'.toERC20Storage op.minted op.burned := by
  cases op with
  | transfer sender dst value => exact onERC20_accounted (fun _ => transfer_accounted hb) h
  | approve sender spender value => exact onERC20_accounted (fun _ => approve_accounted hb) h
  | transferFrom sender src dst value =>
    exact onERC20_accounted (fun _ => transferFrom_accounted hb) h
  | burn sender value => exact onERC20_accounted (fun _ => burn_accounted hb) h
  | burnFrom sender account value => exact onERC20_accounted (fun _ => burnFrom_accounted hb) h
  | mint sender dst amount =>
    simp only [exec, mint, bind_eq_ok] at h
    obtain ⟨_, -, _, -, _, -, _, -, hmint⟩ := h
    exact onERC20_accounted (fun _ => mint_accounted hb) hmint
  | setMinter sender minter allowed =>
    obtain ⟨-, -, rfl⟩ := setMinter_eq_ok.mp h
    exact accounted_refl hb
  | transferOwnership sender newOwner =>
    obtain ⟨-, -, -, rfl⟩ := transferOwnership_eq_ok.mp h
    exact accounted_refl hb
  | renounceOwnership sender =>
    obtain ⟨-, rfl⟩ := renounceOwnership_eq_ok.mp h
    exact accounted_refl hb
  | grantRole sender role account =>
    obtain ⟨-, rfl⟩ := grantRole_eq_ok.mp h
    exact accounted_refl hb
  | revokeRole sender role account =>
    obtain ⟨-, rfl⟩ := revokeRole_eq_ok.mp h
    exact accounted_refl hb
  | renounceRole sender role callerConfirmation =>
    obtain ⟨-, rfl⟩ := renounceRole_eq_ok.mp h
    exact accounted_refl hb

/-- The constructor grants its roles and issues the initial supply. -/
theorem construct_ok {args : Arguments} (h : construct args = .ok t) :
    t.owner = args.owner ∧
      t.hasRole = (Roles.write (fun _ _ => false) TokenRole.defaultAdmin args.owner true).write
        .minter args.owner true ∧
      (args.initialSupply = 0 ∧ t.toERC20Storage = .empty args.cap ∨
        ERC20.mint args.initialRecipient args.initialSupply (.empty args.cap) =
          .ok t.toERC20Storage) := by
  simp only [construct, grant, bind_eq_ok, Ownable.construct_eq_ok, AccessControl.grant_eq] at h
  obtain ⟨s, hs, _, ⟨-, rfl⟩, _, -, _, -, _, -, _, -, h⟩ := h
  obtain rfl := ERC20.construct_ok hs
  split at h
  · obtain ⟨s', hmint, rfl⟩ := onERC20_eq_ok.mp h
    exact ⟨rfl, rfl, .inr hmint⟩
  · rename_i hnothing
    obtain rfl := pure_eq_ok.mp h
    exact ⟨rfl, rfl, .inl ⟨Nat.eq_zero_of_not_pos hnothing, rfl⟩⟩

/-- The constructor begins the accounts. -/
theorem construct_accounted {args : Arguments} (h : construct args = .ok t) :
    Accounted (.empty args.cap) t.toERC20Storage args.initialSupply 0 := by
  have hempty := ERC20Storage.Backed.empty args.cap_le
  obtain ⟨-, -, ⟨hnothing, hsame⟩ | hmint⟩ := construct_ok h
  · rw [hsame, hnothing]
    exact accounted_refl hempty
  · exact mint_accounted hempty hmint

/-- All runs of a token from its constructor, with the calls made so far. -/
def history (args : Arguments) : System (FluxToken × System.History FluxToken Op) Op :=
  .ofCallsLogged (fun t => construct args = .ok t) exec

def minted (log : System.History FluxToken Op) : Nat := (log.map fun entry => entry.2.minted).sum

def burned (log : System.History FluxToken Op) : Nat := (log.map fun entry => entry.2.burned).sum

/-- In every run the balances add up to the supply, which is at most the cap of the constructor
    and is what the constructor issued, plus what was minted, less what was burned; and every
    mint was called by an account that held the minter role at that time. -/
theorem supply_accounted {args : Arguments} {log : System.History FluxToken Op}
    (h : (history args).Reachable (t, log)) :
    ∑ a, t.balanceOf a = t.totalSupply ∧ t.totalSupply ≤ args.cap ∧
    t.totalSupply + burned log = args.initialSupply + minted log ∧
    ∀ later x sender dst amount before, log = later ++ (x, .mint sender dst amount) :: before →
      x.hasRole .minter sender = true := by
  have hkept : t.Backed ∧ t.cap = args.cap ∧
      t.totalSupply + burned log = args.initialSupply + minted log := by
    refine System.ReachableWith.invariant_logged (I := fun t log => t.Backed ∧ t.cap = args.cap ∧
      t.totalSupply + burned log = args.initialSupply + minted log) ?_ ?_ h
    · intro t hinit
      have hbegun := construct_accounted hinit
      exact ⟨hbegun.backed, hbegun.cap, hbegun.totalSupply.trans (Nat.add_comm 0 _)⟩
    · rintro s log op s' ⟨hb, hcap, hsum⟩ - hexec
      have hstep := exec_accounted hb hexec
      refine ⟨hstep.backed, hstep.cap.trans hcap, ?_⟩
      have htotal := hstep.totalSupply
      simp only [minted, burned, List.map_cons, List.sum_cons] at hsum ⊢
      omega
  obtain ⟨hb, hcap, hsum⟩ := hkept
  refine ⟨hb.supply, hcap ▸ hb.capped, hsum, ?_⟩
  intro later x sender dst amount before hsplit
  obtain ⟨-, -, t₁, hmint⟩ := System.ReachableWith.earlier h hsplit
  simp only [exec, mint, bind_eq_ok, require_eq_ok] at hmint
  exact hmint.choose_spec.1

end Runs

namespace Example

theorem alice_ne_zero : (1 : Address) ≠ Address.zero := by decide
theorem bob_ne_zero : (2 : Address) ≠ Address.zero := by decide

def alice : Sender := ⟨1, alice_ne_zero⟩
def bob : Sender := ⟨2, bob_ne_zero⟩

/-- Alice owns the token and holds its first 600 units. -/
def genesis : Arguments where
  name := "Flux Token"
  symbol := "FLUX"
  owner := alice
  initialRecipient := alice
  initialSupply := 600
  cap := 1000
  cap_le := by decide

/-- Alice lets Bob mint, he does, and both burn. -/
def mintAndBurn : List Op :=
  [.setMinter alice bob true, .mint bob bob 300, .burn alice 100, .approve bob alice 50,
    .burnFrom alice bob 50, .transfer bob alice 200]

end Example

open OpenZeppelin Example in
theorem supply_accounted_mintAndBurn :
    ∃ t log, (history genesis).Reachable (t, log) ∧ minted log = 300 ∧ burned log = 150 ∧
      ∑ a, t.balanceOf a = t.totalSupply ∧ t.totalSupply = 750 := by
  have hrun : ((construct genesis).toOption.bind fun t =>
      System.runWith (System.logged exec) (fun _ _ => True) (t, []) mintAndBurn).map
        (fun r => (r.1.totalSupply, minted r.2, burned r.2)) = some (750, 300, 150) := by
    decide +kernel
  obtain ⟨⟨t, log⟩, hopened, hsummary⟩ := Option.map_eq_some_iff.mp hrun
  obtain ⟨t₀, hconstruct, hs⟩ := Option.bind_eq_some_iff.mp hopened
  have hreach : (history genesis).Reachable (t, log) :=
    System.reachableWith_of_runWith (.init ⟨toOption_eq_some.mp hconstruct, rfl⟩) hs
  simp only [Prod.mk.injEq] at hsummary
  obtain ⟨htotal, hminted, hburned⟩ := hsummary
  exact ⟨t, log, hreach, hminted, hburned, (supply_accounted hreach).1, htotal⟩

end FluxToken
