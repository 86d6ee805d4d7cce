-- SUMMARY: getAmountIn and getAmountOut are inverse up to the last unit, for one pair and along a path.
import FluxSwap.Amm.Quotes
import Mathlib.Order.Bounds.Basic

/-!
# Inverse quotes

`getAmountOut` is the greatest output that is `Quoted` for an input, so an input reaches
an output exactly when the two are `Quoted`. `getAmountIn` is the quotient rounded down plus
one: the least such input, or one more when the quotient is exact. Along a path every hop of
`getAmountsOut` starts with at least the input that `getAmountsIn` has found for it.
-/

open Exec

namespace FluxSwapRouter

variable {reserveIn reserveOut : Nat}

/-! ## One hop -/

/-- Every intermediate value of `getAmountOut` fits into 256 bits. -/
structure OutFits (amountIn reserveIn reserveOut : Nat) : Prop where
  amountInWithFee : amountIn * (FEE_BPS_BASE - TOTAL_SWAP_FEE_BPS) ≤ Uint256.max
  numerator : amountIn * (FEE_BPS_BASE - TOTAL_SWAP_FEE_BPS) * reserveOut ≤ Uint256.max
  scaled : reserveIn * FEE_BPS_BASE ≤ Uint256.max
  denominator : reserveIn * FEE_BPS_BASE + amountIn * (FEE_BPS_BASE - TOTAL_SWAP_FEE_BPS) ≤
    Uint256.max

theorem OutFits.mono {x x' : Nat} (h : OutFits x' reserveIn reserveOut) (hle : x ≤ x') :
    OutFits x reserveIn reserveOut := by
  have hfee := Nat.mul_le_mul_right (FEE_BPS_BASE - TOTAL_SWAP_FEE_BPS) hle
  exact
    { amountInWithFee := hfee.trans h.amountInWithFee
      numerator := (Nat.mul_le_mul_right reserveOut hfee).trans h.numerator
      scaled := h.scaled
      denominator := (Nat.add_le_add_left hfee _).trans h.denominator }

theorem getAmountOut_eq_ok {x z : Nat} :
    getAmountOut x reserveIn reserveOut = .ok z ↔
      0 < x ∧ (0 < reserveIn ∧ 0 < reserveOut) ∧ OutFits x reserveIn reserveOut ∧
        x * (FEE_BPS_BASE - TOTAL_SWAP_FEE_BPS) * reserveOut /
          (reserveIn * FEE_BPS_BASE + x * (FEE_BPS_BASE - TOTAL_SWAP_FEE_BPS)) = z := by
  simp only [getAmountOut, bind_eq_ok, require_eq_ok, Uint256.mul_eq_ok, Uint256.add_eq_ok,
    Uint256.div_eq_ok]
  constructor
  · rintro ⟨_, hpos, _, hreserves, _, ⟨hwithFee, rfl⟩, _, ⟨hnumerator, rfl⟩, _, ⟨hscaled, rfl⟩, _,
      ⟨hdenominator, rfl⟩, -, hz⟩
    exact ⟨hpos, hreserves, ⟨hwithFee, hnumerator, hscaled, hdenominator⟩, hz⟩
  · rintro ⟨hpos, hreserves, hfits, hz⟩
    have hnonzero : reserveIn * FEE_BPS_BASE + x * (FEE_BPS_BASE - TOTAL_SWAP_FEE_BPS) ≠ 0 := by
      have hscaled : 0 < reserveIn * FEE_BPS_BASE := Nat.mul_pos hreserves.1 (by decide)
      omega
    exact ⟨(), hpos, (), hreserves, _, ⟨hfits.amountInWithFee, rfl⟩, _, ⟨hfits.numerator, rfl⟩, _,
      ⟨hfits.scaled, rfl⟩, _, ⟨hfits.denominator, rfl⟩, hnonzero, hz⟩

/-- More input keeps a quote. -/
theorem Quoted.mono {x x' y : Nat} (h : Quoted reserveIn reserveOut x y) (hle : x ≤ x') :
    Quoted reserveIn reserveOut x' y where
  out := h.out
  fair := h.fair.trans (Nat.mul_le_mul_right _ (Nat.mul_le_mul_left _ hle))

/-- `getAmountOut` reaches exactly the outputs that are quoted for its input. -/
theorem le_getAmountOut_iff {x y z : Nat} (h : getAmountOut x reserveIn reserveOut = .ok z) :
    y ≤ z ↔ Quoted reserveIn reserveOut x y := by
  obtain ⟨-, ⟨hin, hout⟩, -, rfl⟩ := getAmountOut_eq_ok.mp h
  have hfee : FEE_BPS_BASE - TOTAL_SWAP_FEE_BPS = 9970 := rfl
  have hscaled : 0 < reserveIn * FEE_BPS_BASE := Nat.mul_pos hin (by decide)
  rw [hfee, Nat.le_div_iff_mul_le (by omega), Nat.mul_add]
  have hsplit : ∀ left, reserveOut = y + left →
      x * 9970 * reserveOut = y * (x * 9970) + 9970 * x * left := by
    rintro left rfl
    ring
  have hscale : y * (reserveIn * FEE_BPS_BASE) = reserveIn * y * FEE_BPS_BASE := by ring
  constructor
  · intro hle
    have hlt : y < reserveOut := by
      by_contra hge
      have hmul : reserveOut * (x * 9970) ≤ y * (x * 9970) := Nat.mul_le_mul_right _ (by omega)
      have hpositive : 0 < y * (reserveIn * FEE_BPS_BASE) := Nat.mul_pos (by omega) hscaled
      have hcomm : reserveOut * (x * 9970) = x * 9970 * reserveOut := Nat.mul_comm _ _
      omega
    have hleft := hsplit (reserveOut - y) (by omega)
    exact ⟨hlt, by omega⟩
  · intro hquoted
    have hfair := hquoted.fair
    have hleft := hsplit (reserveOut - y) (by have := hquoted.out; omega)
    omega

theorem getAmountOut_lt {x z : Nat} (h : getAmountOut x reserveIn reserveOut = .ok z) :
    z < reserveOut := ((le_getAmountOut_iff h).mp le_rfl).out

theorem getAmountOut_mono {x x' z z' : Nat} (h : getAmountOut x reserveIn reserveOut = .ok z)
    (h' : getAmountOut x' reserveIn reserveOut = .ok z') (hle : x ≤ x') : z ≤ z' :=
  (le_getAmountOut_iff h').mpr (((le_getAmountOut_iff h).mp le_rfl).mono hle)

/-- The only failure of `getAmountOut` on positive arguments is an overflow. -/
theorem getAmountOut_overflow {x : Nat} (hx : 0 < x) (hin : 0 < reserveIn)
    (hout : 0 < reserveOut) {r : Revert} (h : getAmountOut x reserveIn reserveOut = .error r) :
    r = .panic .overflow := by
  have havoids : (getAmountOut x reserveIn reserveOut).Avoids (· ≠ .panic .overflow) := by
    unfold getAmountOut
    rw [Exec.require, if_pos hx, ok_bind, Exec.require, if_pos ⟨hin, hout⟩, ok_bind]
    refine (Uint256.mul_avoids fun h => (h rfl).elim).bind fun _ _ => ?_
    refine (Uint256.mul_avoids fun h => (h rfl).elim).bind fun _ _ => ?_
    refine (Uint256.mul_avoids fun h => (h rfl).elim).bind fun _ hscaled => ?_
    refine (Uint256.add_avoids fun h => (h rfl).elim).bind fun _ hdenominator => ?_
    refine .of_ok (Uint256.div_eq_ok.mpr ⟨?_, rfl⟩)
    have hpositive : 0 < reserveIn * FEE_BPS_BASE := Nat.mul_pos hin (by decide)
    rw [Uint256.mul_eq_ok] at hscaled
    rw [Uint256.add_eq_ok] at hdenominator
    omega
  exact Classical.not_not.mp (havoids r h)

/-- What `getAmountIn` computes. -/
theorem getAmountIn_spec {x y : Nat} (h : getAmountIn y reserveIn reserveOut = .ok x) :
    0 < y ∧ (0 < reserveIn ∧ 0 < reserveOut) ∧ y < reserveOut ∧
      x = reserveIn * y * FEE_BPS_BASE / ((reserveOut - y) * 9970) + 1 := by
  have hquoted := getAmountIn_quoted h
  simp only [getAmountIn, bind_eq_ok, require_eq_ok, Uint256.mul_eq_ok, Uint256.add_eq_ok,
    Uint256.sub_eq_ok, Uint256.div_eq_ok] at h
  obtain ⟨_, hpos, _, hreserves, _, ⟨-, rfl⟩, _, ⟨-, rfl⟩, _, ⟨-, rfl⟩, _, ⟨-, rfl⟩, _, ⟨-, rfl⟩,
    -, rfl⟩ := h
  exact ⟨hpos, hreserves, hquoted.out, rfl⟩

theorem getAmountIn_pos {x y : Nat} (h : getAmountIn y reserveIn reserveOut = .ok x) : 0 < x := by
  rw [(getAmountIn_spec h).2.2.2]
  exact Nat.succ_pos _

/-- The only failure of `getAmountIn` below the reserve is an overflow. -/
theorem getAmountIn_overflow {y : Nat} (hy : 0 < y) (hin : 0 < reserveIn) (hlt : y < reserveOut)
    {r : Revert} (h : getAmountIn y reserveIn reserveOut = .error r) : r = .panic .overflow := by
  have havoids : (getAmountIn y reserveIn reserveOut).Avoids (· ≠ .panic .overflow) := by
    unfold getAmountIn
    rw [Exec.require, if_pos hy, ok_bind, Exec.require, if_pos ⟨hin, by omega⟩, ok_bind]
    refine (Uint256.mul_avoids fun h => (h rfl).elim).bind fun _ _ => ?_
    refine (Uint256.mul_avoids fun h => (h rfl).elim).bind fun _ _ => ?_
    refine (Uint256.sub_avoids hlt.le).bind fun _ hleft => ?_
    refine (Uint256.mul_avoids fun h => (h rfl).elim).bind fun _ hdenominator => ?_
    refine Avoids.bind ?_ fun _ _ => Uint256.add_avoids fun h => (h rfl).elim
    refine .of_ok (Uint256.div_eq_ok.mpr ⟨?_, rfl⟩)
    have hfee : FEE_BPS_BASE - TOTAL_SWAP_FEE_BPS = 9970 := rfl
    rw [Uint256.sub_eq_ok] at hleft
    rw [Uint256.mul_eq_ok, hfee] at hdenominator
    omega
  exact Classical.not_not.mp (havoids r h)

/-- The inputs whose `getAmountOut` is at least `y`. -/
def reaching (reserveIn reserveOut y : Nat) : Set Nat :=
  { a | ∃ z, getAmountOut a reserveIn reserveOut = .ok z ∧ y ≤ z }

/-- Up to an input that does not overflow, an input reaches an output from the exact quotient on. -/
theorem mem_reaching_iff {a x y : Nat} (hin : 0 < reserveIn) (hy : 0 < y) (hlt : y < reserveOut)
    (hfits : OutFits x reserveIn reserveOut) (hle : a ≤ x) :
    a ∈ reaching reserveIn reserveOut y ↔
      reserveIn * y * FEE_BPS_BASE ≤ a * ((reserveOut - y) * 9970) := by
  have hcomm : 9970 * a * (reserveOut - y) = a * ((reserveOut - y) * 9970) := by ring
  constructor
  · rintro ⟨z, hz, hreach⟩
    rw [← hcomm]
    exact ((le_getAmountOut_iff hz).mp hreach).fair
  · intro hfair
    have hpos : 0 < a := by
      have hscaled : 0 < reserveIn * y * FEE_BPS_BASE :=
        Nat.mul_pos (Nat.mul_pos hin hy) (by decide)
      exact Nat.pos_of_mul_pos_right (hscaled.trans_le hfair)
    have hok := getAmountOut_eq_ok.mpr ⟨hpos, ⟨hin, by omega⟩, hfits.mono hle, rfl⟩
    exact ⟨_, hok, (le_getAmountOut_iff hok).mpr ⟨hlt, hcomm ▸ hfair⟩⟩

/-- The least input for an output: `getAmountIn`, or one less when its quotient is exact. -/
theorem isLeast_reaching {x y z : Nat} (h : getAmountIn y reserveIn reserveOut = .ok x)
    (h' : getAmountOut x reserveIn reserveOut = .ok z) :
    IsLeast (reaching reserveIn reserveOut y)
      (if (reserveOut - y) * 9970 ∣ reserveIn * y * FEE_BPS_BASE then x - 1 else x) := by
  obtain ⟨hy, ⟨hin, -⟩, hlt, hx⟩ := getAmountIn_spec h
  obtain ⟨-, -, hfits, -⟩ := getAmountOut_eq_ok.mp h'
  have hmem : ∀ a ≤ x, a ∈ reaching reserveIn reserveOut y ↔
      reserveIn * y * FEE_BPS_BASE ≤ a * ((reserveOut - y) * 9970) :=
    fun a hle => mem_reaching_iff hin hy hlt hfits hle
  have hd : 0 < (reserveOut - y) * 9970 := Nat.mul_pos (by omega) (by decide)
  generalize reserveIn * y * FEE_BPS_BASE = n at hx hmem ⊢
  generalize (reserveOut - y) * 9970 = d at hx hmem hd ⊢
  have hquotient : x - 1 = n / d := by rw [hx, Nat.add_sub_cancel]
  have hmod := Nat.div_add_mod n d
  have hbelow := Nat.mod_lt n hd
  have hnext : (n / d + 1) * d = d * (n / d) + d := by ring
  split
  · rename_i hdvd
    rw [hquotient]
    -- the quotient is exact, so the rounding up adds one too many
    have hexact : n / d * d = n := Nat.div_mul_cancel hdvd
    refine ⟨(hmem _ (by omega)).mpr hexact.ge, fun a ha => ?_⟩
    by_contra hless
    rw [hmem a (by omega)] at ha
    have hmul := Nat.mul_lt_mul_of_pos_right (Nat.lt_of_not_le hless) hd
    omega
  · rename_i hdvd
    -- a rest is left, so one less falls short
    have hrest : 0 < n % d := Nat.pos_of_ne_zero fun hzero => hdvd (Nat.dvd_of_mod_eq_zero hzero)
    refine ⟨(hmem _ le_rfl).mpr ?_, fun a ha => ?_⟩
    · rw [hx]
      omega
    · by_contra hless
      rw [hmem a (by omega)] at ha
      have hmul : a * d ≤ n / d * d := Nat.mul_le_mul_right d (by omega)
      have hcomm : n / d * d = d * (n / d) := Nat.mul_comm _ _
      omega

/-! ## Paths -/

variable {c : Chain}

/-- The quote of an input overflows, or its amounts are at or above `ins` at every position. -/
def AtOrAbove (ins : List Nat) : Exec (List Nat) → Prop
  | .ok outs => List.Forall₂ (· ≤ ·) ins outs
  | .error r => r = .panic .overflow

theorem AtOrAbove.bind_cons {x a : Nat} {ins : List Nat} {r : Exec (List Nat)} (hle : x ≤ a)
    (h : AtOrAbove ins r) : AtOrAbove (x :: ins) (do
      let amounts ← r
      pure (a :: amounts)) := by
  cases r with
  | error e => exact h
  | ok outs => exact .cons hle h

/-- From at least the amount that the path asks for, no hop falls below it. -/
theorem amountsOutFrom_atOrAbove {path : List Address} {y a : Nat} {ins : List Nat}
    (h : amountsInFrom c y path = .ok ins) (ha : ins.headD 0 ≤ a) :
    AtOrAbove ins (amountsOutFrom c a path) := by
  induction path generalizing a ins with
  | nil =>
    obtain rfl := pure_eq_ok.mp h
    exact .cons ha .nil
  | cons input rest ih =>
    cases rest with
    | nil =>
      obtain rfl := pure_eq_ok.mp h
      exact .cons ha .nil
    | cons output rest =>
      simp only [amountsInFrom, bind_eq_ok, pure_eq_ok] at h
      obtain ⟨tail, htail, ⟨reserveIn, reserveOut⟩, hreserves, x, hin, rfl⟩ := h
      obtain ⟨-, ⟨hreserveIn, hreserveOut⟩, -⟩ := getAmountIn_spec hin
      have hle : x ≤ a := ha
      have hpos : 0 < a := (getAmountIn_pos hin).trans_le hle
      simp only [amountsOutFrom, hreserves, ok_bind]
      cases hout : getAmountOut a reserveIn reserveOut with
      | error r => exact getAmountOut_overflow hpos hreserveIn hreserveOut hout
      | ok z =>
        -- what is paid here covers the quote, so the next hop starts high enough
        have hnext : tail.headD 0 ≤ z :=
          (le_getAmountOut_iff hout).mpr ((getAmountIn_quoted hin).mono hle)
        exact (ih htail hnext).bind_cons hle

theorem amountsInFrom_getLast {path : List Address} {y : Nat} {ins : List Nat}
    (h : amountsInFrom c y path = .ok ins) : ins.getLast? = some y := by
  induction path generalizing ins with
  | nil =>
    obtain rfl := pure_eq_ok.mp h
    rfl
  | cons input rest ih =>
    cases rest with
    | nil =>
      obtain rfl := pure_eq_ok.mp h
      rfl
    | cons output rest =>
      simp only [amountsInFrom, bind_eq_ok, pure_eq_ok] at h
      obtain ⟨tail, htail, _, -, x, -, rfl⟩ := h
      rw [List.getLast?_cons, ih htail, Option.getD_some]

theorem getLast_of_forall₂ {ins outs : List Nat} {y : Nat} (h : List.Forall₂ (· ≤ ·) ins outs)
    (hlast : ins.getLast? = some y) : ∃ z, outs.getLast? = some z ∧ y ≤ z := by
  induction h with
  | nil => cases hlast
  | @cons x a ins outs hle hrest ih =>
    cases hrest with
    | nil =>
      cases hlast
      exact ⟨a, rfl, hle⟩
    | cons hle' hrest' =>
      obtain ⟨z, hz, hyz⟩ := ih hlast
      exact ⟨z, hz, hyz⟩

/-- One hop: `getAmountIn` asks for enough, and for the least input or exactly one more when
    its quotient is exact; `getAmountOut` is monotone and stays below the reserve. Along a path
    the quote of the first amount of `getAmountsIn` is nowhere below `getAmountsIn`. Neither
    function fails on positive amounts below the reserve except by an overflow. -/
theorem quotes_inverse :
    (∀ reserveIn reserveOut y x z, getAmountIn y reserveIn reserveOut = .ok x →
      getAmountOut x reserveIn reserveOut = .ok z →
      y ≤ z ∧ 0 < x ∧ IsLeast (reaching reserveIn reserveOut y)
        (if (reserveOut - y) * 9970 ∣ reserveIn * y * 10000 then x - 1 else x)) ∧
    (∀ reserveIn reserveOut x x' z z', getAmountOut x reserveIn reserveOut = .ok z →
      getAmountOut x' reserveIn reserveOut = .ok z' → x ≤ x' → z ≤ z' ∧ z' < reserveOut) ∧
    (∀ reserveIn reserveOut y r, 0 < reserveIn → 0 < y → y < reserveOut →
      (getAmountIn y reserveIn reserveOut = .error r → r = .panic .overflow) ∧
      ∀ x, 0 < x → getAmountOut x reserveIn reserveOut = .error r → r = .panic .overflow) ∧
    ∀ (c : Chain) path y ins, getAmountsIn c y path = .ok ins →
      ∃ x, ins.head? = some x ∧
        (∀ outs, getAmountsOut c x path = .ok outs →
          List.Forall₂ (· ≤ ·) ins outs ∧ ∃ z, outs.getLast? = some z ∧ y ≤ z) ∧
        ∀ r, getAmountsOut c x path = .error r → r = .panic .overflow := by
  refine ⟨?_, ?_, ?_, ?_⟩
  · intro reserveIn reserveOut y x z hin hout
    exact ⟨(le_getAmountOut_iff hout).mpr (getAmountIn_quoted hin), getAmountIn_pos hin,
      isLeast_reaching hin hout⟩
  · intro reserveIn reserveOut x x' z z' hz hz' hle
    exact ⟨getAmountOut_mono hz hz' hle, getAmountOut_lt hz'⟩
  · intro reserveIn reserveOut y r hreserveIn hy hlt
    exact ⟨getAmountIn_overflow hy hreserveIn hlt,
      fun x hx => getAmountOut_overflow hx hreserveIn (by omega)⟩
  · intro c path y ins h
    simp only [getAmountsIn, bind_eq_ok, require_eq_ok] at h
    obtain ⟨_, hlength, hins⟩ := h
    have hne := (amountsInFrom_quoted (List.ne_nil_of_length_pos (by omega)) hins).1
    obtain ⟨x, tail, rfl⟩ := List.exists_cons_of_ne_nil hne
    -- the quote forwards from its own input stays at or above it, hop by hop
    have habove := amountsOutFrom_atOrAbove (a := x) hins le_rfl
    have hquote : getAmountsOut c x path = amountsOutFrom c x path := by
      rw [getAmountsOut, Exec.require, if_pos hlength, ok_bind]
    refine ⟨x, rfl, ?_, ?_⟩
    · intro outs houts
      rw [← hquote, houts] at habove
      exact ⟨habove, getLast_of_forall₂ habove (amountsInFrom_getLast hins)⟩
    · intro r hr
      rw [← hquote, hr] at habove
      exact habove

open Example in
theorem quotes_inverse_paid :
    getAmountsIn paid 39486 path = .ok [10000, 39486] ∧
      getAmountsOut paid 10000 path = .ok [10000, 39486] ∧
      39486 ≤ 39486 ∧ IsLeast (reaching 1000000 4000000 39486) 10000 ∧
      List.Forall₂ (· ≤ ·) [10000, 39486] [10000, 39486] := by
  have hin : getAmountIn 39486 1000000 4000000 = .ok 10000 := by decide +kernel
  have hout : getAmountOut 10000 1000000 4000000 = .ok 39486 := by decide +kernel
  have hins : getAmountsIn paid 39486 path = .ok [10000, 39486] := by decide +kernel
  have houts : getAmountsOut paid 10000 path = .ok [10000, 39486] := by decide +kernel
  obtain ⟨hreach, -, hleast⟩ := quotes_inverse.1 _ _ _ _ _ hin hout
  rw [if_neg (by decide)] at hleast
  obtain ⟨x, hx, hpath, -⟩ := quotes_inverse.2.2.2 _ _ _ _ hins
  cases hx
  exact ⟨hins, houts, hreach, hleast, (hpath _ houts).1⟩

end FluxSwapRouter
