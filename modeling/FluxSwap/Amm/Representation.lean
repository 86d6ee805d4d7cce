-- SUMMARY: The representation invariant of a pair over every run, and which calls can divide by zero.
import FluxSwap.Amm.ShareValue

/-!
# The representation of a pair

The supply is the sum of the LP balances, its minimum is locked, the reserves are
covered and, once there is LP, positive. A pair is locked only inside its own swap, so
between transactions all of this holds of every pair. The positive reserves and the
locked minimum are what keeps `mint` and `burn` from dividing by zero.
-/

open Exec

namespace FluxSwapPair

variable {c c' : Chain} {pair sender dst : Address} {p p' : Pair}

/-- Runs of complete transactions; a flash swap with its callback is one of them. -/
def transactions : System Chain Op := .ofCalls Initial fun c op => exec op c

/-- What a pair's storage says about its balances. -/
structure Represents (c : Chain) (pair : Address) (p : Pair) : Prop where
  supply : ∑ a, c.tokens.balanceOf pair a = p.totalSupply
  covered : p.unlocked = 1 → p.reserve0 ≤ c.tokens.balanceOf p.token0 pair ∧
    p.reserve1 ≤ c.tokens.balanceOf p.token1 pair
  fits : p.reserve0 ≤ 2 ^ 112 - 1 ∧ p.reserve1 ≤ 2 ^ 112 - 1
  minimum : 0 < p.totalSupply → MINIMUM_LIQUIDITY ≤ c.tokens.balanceOf pair Address.zero
  positive : 0 < p.totalSupply → 0 < p.reserve0 ∧ 0 < p.reserve1

/-! ## Positive reserves and open locks -/

/-- Every pair with LP has positive reserves. -/
def Funded (c : Chain) : Prop :=
  ∀ pair p, c.pairs pair = some p → 0 < p.totalSupply → 0 < p.reserve0 ∧ 0 < p.reserve1

/-- Every pair is open. -/
def AllOpen (c : Chain) : Prop := ∀ pair p, c.pairs pair = some p → p.unlocked = 1

theorem Keeps.before (h : Keeps c c') (hp' : c'.pairs pair = some p') :
    ∃ p, c.pairs pair = some p ∧ Advance c c' pair p p' := by
  cases hp : c.pairs pair with
  | none =>
    rw [h.absent pair hp] at hp'
    cases hp'
  | some p =>
    obtain ⟨q, hq, hadvance⟩ := h.advance pair p hp
    obtain rfl := Option.some.inj (hq.symm.trans hp')
    exact ⟨p, rfl, hadvance⟩

theorem Keeps.funded (h : Keeps c c') (hfunded : Funded c) : Funded c' := by
  intro pair p' hp' hpos
  obtain ⟨p, hp, hadvance⟩ := h.before hp'
  rcases Nat.eq_zero_or_pos p.totalSupply with hzero | hsome
  · exact hadvance.opens hzero hpos
  · exact hadvance.value.positive hsome (hfunded pair p hp hsome)

theorem Keeps.allOpen (h : Keeps c c') (hopen : AllOpen c) : AllOpen c' := by
  intro pair p' hp'
  obtain ⟨p, hp, hadvance⟩ := h.before hp'
  rw [hadvance.unlocked]
  exact hopen pair p hp

theorem reachable_funded (h : system.Reachable c) : Funded c := by
  have hboth : Sound c ∧ Funded c := by
    refine System.Reachable.invariant (I := fun c => Sound c ∧ Funded c) ?_ ?_ h
    · intro c hinit
      refine ⟨fun pair p hp => (hinit pair p hp).sound, ?_⟩
      intro pair p hp hpos
      rw [(hinit pair p hp).totalSupply] at hpos
      exact absurd hpos (lt_irrefl 0)
    · intro c m c' hc hstep
      obtain ⟨hs, hfunded⟩ := hc
      cases m with
      | op op =>
        have hkeeps := exec_keeps op c c' hs hstep
        exact ⟨hkeeps.sound, hkeeps.funded hfunded⟩
      | enter pair amount0Out amount1Out dst =>
        obtain ⟨p, hp, -, hframe, hp', hsound⟩ := enterSwap_spec hs hstep
        refine ⟨hsound, ?_⟩
        intro q r hr hpos
        by_cases hq : q = pair
        · subst hq
          obtain rfl := Option.some.inj (hp'.symm.trans hr)
          exact hfunded q p hp hpos
        · rw [hframe.pairs q hq] at hr
          exact hfunded q r hr hpos
  exact hboth.2

theorem reachable_represents (h : system.Reachable c) (hp : c.pairs pair = some p) :
    Represents c pair p := by
  have hsound := reachable_sound h pair p hp
  exact ⟨hsound.supply, hsound.backed, hsound.fits, hsound.minimum, reachable_funded h pair p hp⟩

theorem transactions_reachable (h : transactions.Reachable c) : system.Reachable c ∧ AllOpen c := by
  induction h with
  | init hinit => exact ⟨.init hinit, fun pair p hp => (hinit pair p hp).unlocked⟩
  | @step c c' op _ _ hstep ih =>
    have hkeeps := exec_keeps op c c' (reachable_sound ih.1) hstep
    have hmove : move c (.op op) = .ok c' := hstep
    exact ⟨.step ih.1 trivial hmove, hkeeps.allOpen ih.2⟩

/-! ## Divisions -/

/-- A division by zero. -/
def DividesByZero (r : Revert) : Prop := r = .panic .divisionByZero

theorem not_dividesByZero_message (text : String) : ¬ DividesByZero (.message text) := nofun

theorem div_avoids {a b : Nat} (h : b ≠ 0) : (Uint256.div a b).Avoids DividesByZero :=
  .of_ok (Uint256.div_eq_ok.mpr ⟨h, rfl⟩)

theorem add_avoids_div (a b : Nat) : (Uint256.add a b).Avoids DividesByZero :=
  Uint256.add_avoids nofun

theorem mul_avoids_div (a b : Nat) : (Uint256.mul a b).Avoids DividesByZero :=
  Uint256.mul_avoids nofun

theorem sub_avoids_div (a b : Nat) : (Uint256.sub a b).Avoids DividesByZero := by
  intro r hr
  unfold Uint256.sub at hr
  split at hr
  · cases hr
  · cases hr
    nofun

/-- The loop divides by `x`, which stays positive. -/
theorem sqrtLoop_avoids {y : Nat} (hy : 1 < y) (rounds z x : Nat) (hx : 0 < x) :
    (Math.sqrtLoop y rounds z x).Avoids DividesByZero := by
  induction rounds generalizing z x with
  | zero => exact .pure
  | succ rounds ih =>
    unfold Math.sqrtLoop
    refine .ite (fun _ => ?_) fun _ => .pure
    refine (div_avoids (by omega)).bind ?_
    intro quotient hquotient
    refine (add_avoids_div _ _).bind ?_
    intro sum hsum
    obtain ⟨-, rfl⟩ := Uint256.div_eq_ok.mp hquotient
    obtain ⟨-, rfl⟩ := Uint256.add_eq_ok.mp hsum
    refine ih x _ ?_
    -- y / x + x is at least 2
    rcases Nat.lt_or_ge x 2 with hsmall | hlarge
    · have hone : x = 1 := by omega
      subst hone
      rw [Nat.div_one]
      omega
    · have hnonneg := Nat.zero_le (y / x)
      omega

theorem sqrt_avoids (y : Nat) : (Math.sqrt y).Avoids DividesByZero := by
  unfold Math.sqrt
  refine .ite (fun hlarge => ?_) fun _ => .ite (fun _ => .pure) fun _ => .pure
  refine (add_avoids_div _ _).bind ?_
  intro x hx
  obtain ⟨-, rfl⟩ := Uint256.add_eq_ok.mp hx
  exact sqrtLoop_avoids (by omega) _ _ _ (by omega)

theorem pairAt_avoids (c : Chain) (pair : Address) : (c.pairAt pair).Avoids DividesByZero := by
  intro r hr
  unfold Chain.pairAt at hr
  split at hr
  · cases hr
  · cases hr
    nofun

theorem lpMint_avoids (c : Chain) (pair dst : Address) (value : Nat) :
    (FluxSwapERC20.mint c pair dst value).Avoids DividesByZero := by
  unfold FluxSwapERC20.mint
  refine (pairAt_avoids _ _).bind ?_
  intro p _
  exact (add_avoids_div _ _).bind fun _ _ => .pure

theorem lpBurn_avoids (c : Chain) (pair src : Address) (value : Nat) :
    (FluxSwapERC20.burn c pair src value).Avoids DividesByZero := by
  unfold FluxSwapERC20.burn
  refine (Avoids.require not_dividesByZero_message).bind ?_
  intro _ _
  refine (pairAt_avoids _ _).bind ?_
  intro p _
  refine (sub_avoids_div _ _).bind ?_
  intro _ _
  exact (sub_avoids_div _ _).bind fun _ _ => .pure

theorem accumulate_avoids (p : Pair) (reserve0 reserve1 timeElapsed : Nat) :
    (accumulate p reserve0 reserve1 timeElapsed).Avoids DividesByZero := by
  unfold accumulate
  refine .ite (fun _ => ?_) fun _ => .pure
  refine (mul_avoids_div _ _).bind ?_
  intro _ _
  refine (add_avoids_div _ _).bind ?_
  intro _ _
  refine (mul_avoids_div _ _).bind ?_
  intro _ _
  exact (add_avoids_div _ _).bind fun _ _ => .pure

theorem update_avoids (c : Chain) (pair : Address) (balance0 balance1 reserve0 reserve1 : Nat) :
    (update c pair balance0 balance1 reserve0 reserve1).Avoids DividesByZero := by
  unfold update
  refine (Avoids.require not_dividesByZero_message).bind ?_
  intro _ _
  refine (pairAt_avoids _ _).bind ?_
  intro p _
  refine (sub_avoids_div _ _).bind ?_
  intro _ _
  exact (accumulate_avoids _ _ _ _).bind fun _ _ => .pure

theorem safeTransfer_avoids_div (c : Chain) (pair token dst : Address) (value : Nat) :
    (safeTransfer c pair token dst value).Avoids DividesByZero := by
  intro r hr
  unfold safeTransfer at hr
  split at hr
  · cases hr
  · cases hr
    exact not_dividesByZero_message _

/-- The body of a locked call starts from the storage of the open pair. -/
theorem lock_avoids {α : Type} {body : Chain → Exec (Chain × α)}
    (h : ∀ p, c.pairs pair = some p →
      (body (c.setPair pair { p with unlocked := 0 })).Avoids DividesByZero) :
    (lock pair body c).Avoids DividesByZero := by
  unfold lock
  refine (pairAt_avoids _ _).bind ?_
  intro p hp
  refine (Avoids.require not_dividesByZero_message).bind ?_
  intro _ _
  refine (h p (Chain.pairAt_eq_ok.mp hp)).bind ?_
  intro r _
  exact (pairAt_avoids _ _).bind fun _ _ => .pure

theorem mintedLiquidity_avoids {amount0 amount1 : Nat}
    (hpositive : 0 < p.totalSupply → 0 < p.reserve0 ∧ 0 < p.reserve1) :
    (mintedLiquidity c pair p amount0 amount1).Avoids DividesByZero := by
  unfold mintedLiquidity
  refine .ite (fun _ => ?_) fun hsupply => ?_
  · refine (mul_avoids_div _ _).bind ?_
    intro product _
    refine (sqrt_avoids _).bind ?_
    intro root _
    refine (sub_avoids_div _ _).bind ?_
    intro liquidity _
    exact (lpMint_avoids _ _ _ _).bind fun _ _ => .pure
  · obtain ⟨h0, h1⟩ := hpositive (Nat.pos_of_ne_zero hsupply)
    refine (mul_avoids_div _ _).bind ?_
    intro _ _
    refine (div_avoids (by omega)).bind ?_
    intro _ _
    refine (mul_avoids_div _ _).bind ?_
    intro _ _
    exact (div_avoids (by omega)).bind fun _ _ => .pure

theorem mint_avoids (hpositive : ∀ p, c.pairs pair = some p → 0 < p.totalSupply →
      0 < p.reserve0 ∧ 0 < p.reserve1) (sender dst : Address) :
    (mint pair sender dst c).Avoids DividesByZero := by
  refine lock_avoids ?_
  intro p hp
  refine (pairAt_avoids _ _).bind ?_
  intro q hq
  simp only [Chain.pairAt_eq_ok, Chain.setPair_pairs, Function.update_self,
    Option.some.injEq] at hq
  subst hq
  refine (sub_avoids_div _ _).bind ?_
  intro _ _
  refine (sub_avoids_div _ _).bind ?_
  intro _ _
  refine (mintedLiquidity_avoids (hpositive p hp)).bind ?_
  intro r _
  refine (Avoids.require not_dividesByZero_message).bind ?_
  intro _ _
  refine (lpMint_avoids _ _ _ _).bind ?_
  intro _ _
  exact (update_avoids _ _ _ _ _ _).bind fun _ _ => .pure

theorem burn_avoids (hsupply : ∀ p, c.pairs pair = some p → 0 < p.totalSupply)
    (sender dst : Address) : (burn pair sender dst c).Avoids DividesByZero := by
  refine lock_avoids ?_
  intro p hp
  have hpos := hsupply p hp
  refine (pairAt_avoids _ _).bind ?_
  intro q hq
  simp only [Chain.pairAt_eq_ok, Chain.setPair_pairs, Function.update_self,
    Option.some.injEq] at hq
  subst hq
  refine (mul_avoids_div _ _).bind ?_
  intro _ _
  refine (div_avoids (Nat.ne_of_gt hpos)).bind ?_
  intro _ _
  refine (mul_avoids_div _ _).bind ?_
  intro _ _
  refine (div_avoids (Nat.ne_of_gt hpos)).bind ?_
  intro _ _
  refine (Avoids.require not_dividesByZero_message).bind ?_
  intro _ _
  refine (lpBurn_avoids _ _ _ _).bind ?_
  intro _ _
  refine (safeTransfer_avoids_div _ _ _ _ _).bind ?_
  intro _ _
  refine (safeTransfer_avoids_div _ _ _ _ _).bind ?_
  intro _ _
  exact (update_avoids _ _ _ _ _ _).bind fun _ _ => .pure

/-! ## Every run -/

/-- What further transactions leave of a pair that has LP. -/
theorem stays_funded {ops : List Op} (h : system.Reachable c) (hp : c.pairs pair = some p)
    (hpos : 0 < p.totalSupply) (hrun : execAll ops c = .ok c') :
    ∃ p', c'.pairs pair = some p' ∧ MINIMUM_LIQUIDITY ≤ p'.totalSupply ∧
      0 < p'.reserve0 ∧ 0 < p'.reserve1 := by
  have hkeeps := execAll_keeps ops c c' (reachable_sound h) hrun
  obtain ⟨p', hp', hadvance⟩ := hkeeps.advance pair p hp
  have hsound' := hkeeps.sound pair p' hp'
  obtain ⟨hpos', -⟩ := hadvance.value hpos
  refine ⟨p', hp', ?_, hadvance.value.positive hpos (reachable_funded h pair p hp hpos)⟩
  rw [← hsound'.supply]
  exact (hsound'.minimum hpos').trans
    (Finset.single_le_sum (f := c'.tokens.balanceOf pair) (fun _ _ => Nat.zero_le _)
      (Finset.mem_univ Address.zero))

/-- In every state of every run, also inside callbacks, a pair's storage represents its
    balances; between transactions every pair is open, so its reserves are covered. `mint`
    never divides by zero, `burn` does not once there is LP, and no transactions empty a
    pair that has LP. -/
theorem pair_represented (h : system.Reachable c) (hp : c.pairs pair = some p) :
    Represents c pair p ∧
      (transactions.Reachable c → p.unlocked = 1) ∧
      (∀ sender dst, (mint pair sender dst c).Avoids DividesByZero) ∧
      (0 < p.totalSupply → ∀ sender dst, (burn pair sender dst c).Avoids DividesByZero) ∧
      (0 < p.totalSupply → ∀ ops c', execAll ops c = .ok c' →
        ∃ p', c'.pairs pair = some p' ∧ MINIMUM_LIQUIDITY ≤ p'.totalSupply ∧
          0 < p'.reserve0 ∧ 0 < p'.reserve1) := by
  refine ⟨reachable_represents h hp, ?_, ?_, ?_, ?_⟩
  · intro hrun
    exact (transactions_reachable hrun).2 pair p hp
  · exact mint_avoids fun q hq => reachable_funded h pair q hq
  · intro hpos
    refine burn_avoids ?_
    intro q hq
    obtain rfl := Option.some.inj (hp.symm.trans hq)
    exact hpos
  · intro hpos ops c' hrun
    exact stays_funded h hp hpos hrun

open Example in
theorem pair_represented_deposited :
    ∃ c p, system.Reachable c ∧ c.pairs Example.pair = some p ∧ p.totalSupply = 2 * 10 ^ 6 ∧
      0 < p.reserve0 ∧ 0 < p.reserve1 := by
  have hrun : ((System.runWith move (fun _ _ => True) start deposit).bind fun c =>
      (c.pairs Example.pair).map Pair.totalSupply) = some (2 * 10 ^ 6) := by
    decide +kernel
  obtain ⟨c, hc, hsupply⟩ := Option.bind_eq_some_iff.mp hrun
  obtain ⟨p, hp, hT⟩ := Option.map_eq_some_iff.mp hsupply
  have hreach : system.Reachable c := System.reachableWith_of_runWith (.init start_initial) hc
  have hpositive := (pair_represented hreach hp).1.positive (by rw [hT]; decide)
  exact ⟨c, p, hreach, hp, hT, hpositive⟩

open Example in
/-- On a pair without LP, `burn` divides by the supply. -/
theorem burn_divides_by_zero :
    transactions.Reachable start ∧
      burn Example.pair alice alice start = .error (.panic .divisionByZero) := by
  refine ⟨.init start_initial, ?_⟩
  have hfails : (match burn Example.pair alice alice start with
    | .ok _ => none
    | .error r => some r) = some (.panic .divisionByZero) := by decide +kernel
  cases hrun : burn Example.pair alice alice start with
  | ok r =>
    rw [hrun] at hfails
    cases hfails
  | error r =>
    rw [hrun, Option.some.injEq] at hfails
    rw [hfails]

end FluxSwapPair
