-- SUMMARY: The trigger test against the exact price: exact but for a band of quotes that the first rounding loses.
import FluxSwap.Settlement.Nonces
import FluxSwap.Lib.Rounding
import Mathlib.Tactic.Positivity
import Mathlib.Tactic.Ring
import Mathlib.Tactic.NormNum

/-!
# The trigger price

The front end computes the trigger with one rounded division. The settlement rounds the
quote twice, first to the decimals of the input token and then to the price scale, so a
quote is measured against the required amount rounded up. Between the two lie the quotes
that reach the signed price and are turned down.
-/

open Exec

/-- `calculateTriggerPriceX18` of the front end, on its unbounded integers. -/
def calculateTriggerPriceX18 (amountIn minAmountOut : Int) (inputDecimals outputDecimals : Nat) :
    Int :=
  if amountIn ≤ 0 ∨ minAmountOut ≤ 0 then 0
  else (minAmountOut * 10 ^ inputDecimals * 10 ^ 18).tdiv (amountIn * 10 ^ outputDecimals)

namespace FluxSignedOrderSettlement

variable {ω : Type} {d : Deployment ω} {s : State ω}

/-- The true price is at least the trigger. -/
def Reaches (dIn dOut amountIn amountOut triggerPriceX18 : Nat) : Prop :=
  triggerPriceX18 * amountIn * 10 ^ dOut ≤ amountOut * 10 ^ dIn * 10 ^ 18

/-- The true price is at least the trigger, but the output in the decimals of the input
    token is below the required amount rounded up to them. -/
def LostToRounding (dIn dOut amountIn amountOut triggerPriceX18 : Nat) : Prop :=
  Reaches dIn dOut amountIn amountOut triggerPriceX18 ∧
    amountOut * 10 ^ dIn < triggerPriceX18 * amountIn ⌈/⌉ 10 ^ 18 * 10 ^ dOut

/-- The decimals of the two tokens of an order. -/
structure Decimals (d : Deployment ω) (s : State ω) (inputToken outputToken : Address)
    (dIn dOut : Nat) : Prop where
  input : d.decimals s inputToken = .ok dIn
  output : d.decimals s (normalizeOutputToken d outputToken) = .ok dOut
  input_le : dIn ≤ 77
  output_le : dOut ≤ 77

/-! ## What the contract compares -/

theorem decimalScale_eq_ok {token : Address} {decimals : Nat}
    (h : d.decimals s token = .ok decimals) (hle : decimals ≤ 77) :
    decimalScale d s token = .ok (10 ^ decimals) := by
  rw [decimalScale, h, ok_bind, Exec.require, if_pos hle]
  rfl

section Quotes

variable {inputToken outputToken : Address} {dIn dOut amountIn amountOut trigger : Nat}

/-- Neither rounded quotient overflows. -/
structure QuoteFits (dIn dOut amountIn amountOut : Nat) : Prop where
  positive : 0 < amountIn
  normalized : amountOut * 10 ^ dIn / 10 ^ dOut ≤ Uint256.max
  price : amountOut * 10 ^ dIn / 10 ^ dOut * 10 ^ 18 / amountIn ≤ Uint256.max

theorem meetsTrigger_eq_ok (hdecimals : Decimals d s inputToken outputToken dIn dOut) {b : Bool} :
    meetsTrigger d s inputToken outputToken amountIn amountOut trigger = .ok b ↔
      QuoteFits dIn dOut amountIn amountOut ∧
        b = decide (trigger ≤ amountOut * 10 ^ dIn / 10 ^ dOut * 10 ^ 18 / amountIn) := by
  simp only [meetsTrigger, quotePriceX18, decimalScale_eq_ok hdecimals.input hdecimals.input_le,
    decimalScale_eq_ok hdecimals.output hdecimals.output_le, ok_bind, bind_eq_ok,
    d.math.mulDiv_eq_ok,    pure_eq_ok, PRICE_SCALE]
  constructor
  · rintro ⟨_, ⟨_, ⟨-, hnormalized, rfl⟩, hpos, hprice, rfl⟩, rfl⟩
    exact ⟨⟨Nat.pos_of_ne_zero hpos, hnormalized, hprice⟩, rfl⟩
  · rintro ⟨hfits, rfl⟩
    have hscale : 10 ^ dOut ≠ 0 := by positivity
    exact ⟨_, ⟨_, ⟨hscale, hfits.normalized, rfl⟩, hfits.positive.ne', hfits.price, rfl⟩, rfl⟩

/-- The trigger test compares with the required amount rounded up. -/
theorem meetsTrigger_iff (hdecimals : Decimals d s inputToken outputToken dIn dOut) {b : Bool}
    (h : meetsTrigger d s inputToken outputToken amountIn amountOut trigger = .ok b) :
    b = true ↔ trigger * amountIn ⌈/⌉ 10 ^ 18 * 10 ^ dOut ≤ amountOut * 10 ^ dIn := by
  obtain ⟨hfits, rfl⟩ := (meetsTrigger_eq_ok hdecimals).mp h
  rw [decide_eq_true_iff]
  exact Rounding.le_div_mul_div_iff (by positivity) (by positivity) hfits.positive

/-- A quote that passes the test has the signed price. -/
theorem Reaches.of_rounded
    (h : trigger * amountIn ⌈/⌉ 10 ^ 18 * 10 ^ dOut ≤ amountOut * 10 ^ dIn) :
    Reaches dIn dOut amountIn amountOut trigger := by
  have hceil : trigger * amountIn ≤ 10 ^ 18 * (trigger * amountIn ⌈/⌉ 10 ^ 18) :=
    le_smul_ceilDiv (Nat.pow_pos (by decide))
  calc trigger * amountIn * 10 ^ dOut
      ≤ 10 ^ 18 * (trigger * amountIn ⌈/⌉ 10 ^ 18) * 10 ^ dOut := Nat.mul_le_mul_right _ hceil
    _ = trigger * amountIn ⌈/⌉ 10 ^ 18 * 10 ^ dOut * 10 ^ 18 := by ring
    _ ≤ amountOut * 10 ^ dIn * 10 ^ 18 := Nat.mul_le_mul_right _ h

theorem meetsTrigger_exact (hdecimals : Decimals d s inputToken outputToken dIn dOut) {b : Bool}
    (h : meetsTrigger d s inputToken outputToken amountIn amountOut trigger = .ok b) :
    (b = true ↔ Reaches dIn dOut amountIn amountOut trigger) ↔
      ¬ LostToRounding dIn dOut amountIn amountOut trigger := by
  rw [meetsTrigger_iff hdecimals h]
  unfold LostToRounding
  rw [not_and, not_lt]
  constructor
  · intro hexact hreaches
    exact hexact.mpr hreaches
  · intro hkept
    exact ⟨.of_rounded, hkept⟩

/-! ## Triggers of the front end -/

/-- The signed minimum has the price of its own trigger. -/
theorem reaches_of_calculated {minAmountOut : Nat}
    (h : (trigger : Int) = calculateTriggerPriceX18 amountIn minAmountOut dIn dOut) :
    Reaches dIn dOut amountIn minAmountOut trigger := by
  unfold calculateTriggerPriceX18 at h
  unfold Reaches
  split at h
  · have hzero : trigger = 0 := by omega
    simp [hzero]
  · have hquotient : trigger = minAmountOut * 10 ^ dIn * 10 ^ 18 / (amountIn * 10 ^ dOut) := by
      have hnonneg : (0 : Int) ≤ minAmountOut * 10 ^ dIn * 10 ^ 18 := by positivity
      rw [Int.tdiv_eq_ediv_of_nonneg hnonneg] at h
      exact_mod_cast h
    rw [hquotient, Nat.mul_assoc]
    exact Nat.div_mul_le_self _ _

/-- Every quote of at least the minimum meets the trigger of the front end unless the minimum
    itself is lost to rounding. -/
theorem meetsTrigger_of_calculated (hdecimals : Decimals d s inputToken outputToken dIn dOut)
    {minAmountOut : Nat}
    (htrigger : (trigger : Int) = calculateTriggerPriceX18 amountIn minAmountOut dIn dOut)
    (hfits : QuoteFits dIn dOut amountIn minAmountOut) :
    (∀ amountOut b, minAmountOut ≤ amountOut →
      meetsTrigger d s inputToken outputToken amountIn amountOut trigger = .ok b → b = true) ↔
      ¬ LostToRounding dIn dOut amountIn minAmountOut trigger := by
  unfold LostToRounding
  rw [not_and, not_lt]
  constructor
  · intro hall _
    have hmin : meetsTrigger d s inputToken outputToken amountIn minAmountOut trigger = .ok _ :=
      (meetsTrigger_eq_ok hdecimals).mpr ⟨hfits, rfl⟩
    exact (meetsTrigger_iff hdecimals hmin).mp (hall _ _ le_rfl hmin)
  · intro hkept amountOut b hle h
    rw [meetsTrigger_iff hdecimals h]
    exact (hkept (reaches_of_calculated htrigger)).trans (Nat.mul_le_mul_right _ hle)

/-- The trigger test is exact for a quote if and only if the quote is not lost to rounding;
    and for a trigger of the front end every quote of at least the minimum meets it if and only
    if the minimum is not lost to rounding. -/
theorem trigger_exact_iff (hdecimals : Decimals d s inputToken outputToken dIn dOut) :
    (∀ b, meetsTrigger d s inputToken outputToken amountIn amountOut trigger = .ok b →
      ((b = true ↔ Reaches dIn dOut amountIn amountOut trigger) ↔
        ¬ LostToRounding dIn dOut amountIn amountOut trigger)) ∧
    ∀ minAmountOut : Nat,
      (trigger : Int) = calculateTriggerPriceX18 amountIn minAmountOut dIn dOut →
      QuoteFits dIn dOut amountIn minAmountOut →
      ((∀ amountOut b, minAmountOut ≤ amountOut →
          meetsTrigger d s inputToken outputToken amountIn amountOut trigger = .ok b → b = true) ↔
        ¬ LostToRounding dIn dOut amountIn minAmountOut trigger) :=
  ⟨fun _ h => meetsTrigger_exact hdecimals h,
    fun _ htrigger hfits => meetsTrigger_of_calculated hdecimals htrigger hfits⟩

end Quotes

/-! ## Six decimals against eighteen -/

namespace Example

/-- Token 30 has 6 decimals, every other token has 18. -/
def mixed : Deployment Unit :=
  { quiet with decimals := fun _ token => .ok (if token = 30 then 6 else 18) }

theorem mixed_decimals : Decimals mixed start 30 31 6 18 :=
  ⟨rfl, rfl, by decide, by decide⟩

/-- One unit of token 30 for 0.000500000000000001 of token 31. -/
def minAmountOut : Nat := 500000000000001

theorem minAmountOut_trigger : (minAmountOut : Int) =
    calculateTriggerPriceX18 (1000000 : Nat) minAmountOut 6 18 := by decide +kernel

theorem minAmountOut_fits : QuoteFits 6 18 1000000 minAmountOut :=
  ⟨by decide, by decide +kernel, by decide +kernel⟩

end Example

open Example in
/-- A limit at exactly its own minimum is turned down. -/
theorem limit_turned_down :
    (minAmountOut : Int) = calculateTriggerPriceX18 (1000000 : Nat) minAmountOut 6 18 ∧
      Reaches 6 18 1000000 minAmountOut minAmountOut ∧
      meetsTrigger mixed start 30 31 1000000 minAmountOut minAmountOut = .ok false :=
  ⟨minAmountOut_trigger, reaches_of_calculated minAmountOut_trigger, by decide +kernel⟩

open Example in
theorem trigger_exact_iff_mixed :
    LostToRounding 6 18 1000000 minAmountOut minAmountOut ∧
      ¬ (∀ amountOut b, minAmountOut ≤ amountOut →
        meetsTrigger mixed start 30 31 1000000 amountOut minAmountOut = .ok b → b = true) := by
  have hlost : LostToRounding 6 18 1000000 minAmountOut minAmountOut :=
    ⟨reaches_of_calculated minAmountOut_trigger, by decide +kernel⟩
  refine ⟨hlost, fun hall => ?_⟩
  have hexact := @trigger_exact_iff Unit mixed start 30 31 6 18 1000000 0 minAmountOut mixed_decimals
  exact (hexact.2 _ minAmountOut_trigger minAmountOut_fits).mp hall hlost

end FluxSignedOrderSettlement
