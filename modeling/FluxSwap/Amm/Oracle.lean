-- SUMMARY: The price accumulators of a pair: what every update adds over every run, and exactly when an update reverts.
import FluxSwap.Amm.PlainSwap
import FluxSwap.Amm.ShareValue
import Mathlib.Data.Nat.ModEq

/-!
# The price accumulators

The scheme counts seconds modulo `2 ^ 32` and sums prices modulo `2 ^ 256`. The code
subtracts and adds with checks, so it follows the scheme only while nothing wraps. Every
update that succeeds adds what the scheme says, in every run and inside every callback. The
`Sync` events of a pair tell its updates apart: there is one for each.
-/

open Exec

namespace FluxSwapPair

variable {c c' : Chain} {self sender dst : Address} {p p' : Pair}

/-! ## The scheme -/

/-- The seconds since the last update, modulo `2 ^ 32`. -/
def elapsed (timestamp : Nat) (p : Pair) : Nat :=
  (((timestamp : Int) - p.blockTimestampLast) % 2 ^ 32).toNat

/-- The UQ112x112 price of one reserve in the other; without reserves there is no price. -/
def price (reserve other : Nat) : Nat :=
  if reserve ≠ 0 ∧ other ≠ 0 then UQ112x112.uqdiv (UQ112x112.encode other) reserve else 0

/-- What the scheme does at an update: each accumulator moves on by the price of the old reserves
    times the elapsed seconds, and the balances are the new reserves. -/
structure Accumulates (timestamp balance0 balance1 : Nat) (p p' : Pair) : Prop where
  reserve0 : p'.reserve0 = balance0
  reserve1 : p'.reserve1 = balance1
  clock : p'.blockTimestampLast = timestamp % 2 ^ 32
  price0 : p'.price0CumulativeLast ≡
    p.price0CumulativeLast + price p.reserve0 p.reserve1 * elapsed timestamp p [MOD 2 ^ 256]
  price1 : p'.price1CumulativeLast ≡
    p.price1CumulativeLast + price p.reserve1 p.reserve0 * elapsed timestamp p [MOD 2 ^ 256]

/-- Reserves, clock and accumulators stay as they are. -/
structure SameOracle (p p' : Pair) : Prop where
  reserve0 : p'.reserve0 = p.reserve0
  reserve1 : p'.reserve1 = p.reserve1
  clock : p'.blockTimestampLast = p.blockTimestampLast
  price0 : p'.price0CumulativeLast = p.price0CumulativeLast
  price1 : p'.price1CumulativeLast = p.price1CumulativeLast

theorem SameOracle.refl (p : Pair) : SameOracle p p := ⟨rfl, rfl, rfl, rfl, rfl⟩

theorem SameOracle.trans {p'' : Pair} (h : SameOracle p p') (h' : SameOracle p' p'') :
    SameOracle p p'' :=
  ⟨h'.reserve0.trans h.reserve0, h'.reserve1.trans h.reserve1, h'.clock.trans h.clock,
    h'.price0.trans h.price0, h'.price1.trans h.price1⟩

/-- A pair's storage from one time to another, with the reserves that its updates set one after
    the other. Every update finds the reserves and the clock of the one before it. -/
inductive Follows : Nat → Pair → List (Nat × Nat) → Nat → Pair → Prop
  | still {timestamp timestamp' : Nat} {p p' : Pair} (hle : timestamp ≤ timestamp')
      (hsame : SameOracle p p') : Follows timestamp p [] timestamp' p'
  | update {timestamp now timestamp' balance0 balance1 : Nat} {reserves : List (Nat × Nat)}
      {p q q' p' : Pair} (hbefore : Follows timestamp p reserves now q)
      (hupdate : Accumulates now balance0 balance1 q q') (hle : now ≤ timestamp')
      (hsame : SameOracle q' p') :
      Follows timestamp p (reserves ++ [(balance0, balance1)]) timestamp' p'

theorem Follows.trans {timestamp now timestamp' : Nat} {reserves reserves' : List (Nat × Nat)}
    {p'' : Pair} (h : Follows timestamp p reserves now p')
    (h' : Follows now p' reserves' timestamp' p'') :
    Follows timestamp p (reserves ++ reserves') timestamp' p'' := by
  induction h' with
  | still hle hsame =>
    rw [List.append_nil]
    cases h with
    | still hle₀ hsame₀ => exact .still (hle₀.trans hle) (hsame₀.trans hsame)
    | update hbefore hupdate hle₀ hsame₀ =>
      exact .update hbefore hupdate (hle₀.trans hle) (hsame₀.trans hsame)
  | update _ hupdate hle hsame ih =>
    rw [← List.append_assoc]
    exact .update (ih h) hupdate hle hsame

/-! ## One update -/

/-- The code's subtraction and additions do not wrap at `timestamp`. -/
structure Timely (timestamp : Nat) (p : Pair) : Prop where
  forward : p.blockTimestampLast ≤ timestamp % 2 ^ 32
  runs : p.reserve0 ≠ 0 → p.reserve1 ≠ 0 → ClockRuns timestamp p.reserve0 p.reserve1 p

instance (timestamp reserve0 reserve1 : Nat) (p : Pair) :
    Decidable (ClockRuns timestamp reserve0 reserve1 p) :=
  decidable_of_iff (p.blockTimestampLast ≤ timestamp % 2 ^ 32 ∧ _)
    ⟨fun h => ⟨h.1, h.2⟩, fun h => ⟨h.forward, h.room⟩⟩

instance (timestamp : Nat) (p : Pair) : Decidable (Timely timestamp p) :=
  decidable_of_iff (p.blockTimestampLast ≤ timestamp % 2 ^ 32 ∧ _)
    ⟨fun h => ⟨h.1, h.2⟩, fun h => ⟨h.forward, h.runs⟩⟩

theorem elapsed_of_forward {timestamp : Nat} (h : p.blockTimestampLast ≤ timestamp % 2 ^ 32) :
    elapsed timestamp p = timestamp % 2 ^ 32 - p.blockTimestampLast := by
  unfold elapsed
  omega

theorem accumulate_eq_ok {timeElapsed : Nat}
    (h : accumulate p p.reserve0 p.reserve1 timeElapsed = .ok p') :
    p'.price0CumulativeLast =
        p.price0CumulativeLast + price p.reserve0 p.reserve1 * timeElapsed ∧
      p'.price1CumulativeLast =
        p.price1CumulativeLast + price p.reserve1 p.reserve0 * timeElapsed := by
  unfold accumulate at h
  split at h
  · rename_i hpositive
    obtain ⟨-, h0, h1⟩ := hpositive
    simp only [bind_eq_ok, Uint256.mul_eq_ok, Uint256.add_eq_ok, pure_eq_ok] at h
    obtain ⟨_, ⟨-, rfl⟩, _, ⟨-, rfl⟩, _, ⟨-, rfl⟩, _, ⟨-, rfl⟩, rfl⟩ := h
    refine ⟨?_, ?_⟩
    · simp only [price, if_pos (⟨h0, h1⟩ : p.reserve0 ≠ 0 ∧ p.reserve1 ≠ 0)]
    · simp only [price, if_pos (⟨h1, h0⟩ : p.reserve1 ≠ 0 ∧ p.reserve0 ≠ 0)]
  · rename_i hnothing
    obtain rfl := pure_eq_ok.mp h
    have hzero : ∀ r s, (0 < timeElapsed → ¬(r ≠ 0 ∧ s ≠ 0)) → price r s * timeElapsed = 0 := by
      intro r s hr
      rcases Nat.eq_zero_or_pos timeElapsed with hstill | hpos
      · rw [hstill, Nat.mul_zero]
      · rw [price, if_neg (hr hpos), Nat.zero_mul]
    refine ⟨?_, ?_⟩
    · rw [hzero _ _ fun hpos h => hnothing ⟨hpos, h.1, h.2⟩, Nat.add_zero]
    · rw [hzero _ _ fun hpos h => hnothing ⟨hpos, h.2, h.1⟩, Nat.add_zero]

/-- The accumulation goes through exactly if it has room where there is a price. -/
theorem accumulate_isOk {timeElapsed : Nat} :
    (∃ p', accumulate p p.reserve0 p.reserve1 timeElapsed = .ok p') ↔
      (p.reserve0 ≠ 0 → p.reserve1 ≠ 0 → 0 < timeElapsed →
        p.price0CumulativeLast + UQ112x112.uqdiv (UQ112x112.encode p.reserve1) p.reserve0 *
          timeElapsed ≤ Uint256.max ∧
        p.price1CumulativeLast + UQ112x112.uqdiv (UQ112x112.encode p.reserve0) p.reserve1 *
          timeElapsed ≤ Uint256.max) := by
  by_cases hprice : p.reserve0 ≠ 0 ∧ p.reserve1 ≠ 0
  · rw [accumulate_isOk_iff hprice.1 hprice.2]
    exact ⟨fun h _ _ => h, fun h => h hprice.1 hprice.2⟩
  · constructor
    · exact fun _ h0 h1 => absurd ⟨h0, h1⟩ hprice
    · intro _
      refine ⟨p, ?_⟩
      unfold accumulate
      rw [if_neg fun h => hprice h.2]
      rfl

/-- An update that succeeds, with the reserves that the pair has, adds what the scheme says. -/
theorem update_accumulates {balance0 balance1 reserve0 reserve1 : Nat}
    (hp : c.pairs self = some p) (hr0 : p.reserve0 = reserve0) (hr1 : p.reserve1 = reserve1)
    (h : update c self balance0 balance1 reserve0 reserve1 = .ok c') :
    ∃ p', c' = (c.setPair self p').emit (.sync self balance0 balance1) ∧
      Timely c.timestamp p ∧ Accumulates c.timestamp balance0 balance1 p p' := by
  simp only [update, bind_eq_ok, require_eq_ok, Chain.pairAt_eq_ok, hp, Option.some.injEq,
    Uint256.sub_eq_ok, pure_eq_ok] at h
  obtain ⟨_, -, _, rfl, _, ⟨hforward, rfl⟩, p₁, haccumulate, rfl⟩ := h
  rw [← hr0, ← hr1] at haccumulate
  obtain ⟨hprice0, hprice1⟩ := accumulate_eq_ok haccumulate
  have hroom := accumulate_isOk.mp ⟨p₁, haccumulate⟩
  have htimely : Timely c.timestamp p :=
    ⟨hforward, fun h0 h1 => ⟨hforward, fun hlt => hroom h0 h1 (by omega)⟩⟩
  refine ⟨_, rfl, htimely, rfl, rfl, rfl, ?_, ?_⟩
  · rw [elapsed_of_forward hforward]
    exact congrArg (· % 2 ^ 256) hprice0
  · rw [elapsed_of_forward hforward]
    exact congrArg (· % 2 ^ 256) hprice1

/-- `_update` neither reverts nor departs from the scheme. -/
def UpdatesExactly (c : Chain) (self : Address) (p : Pair) (balance0 balance1 : Nat) : Prop :=
  ∃ c' p', update c self balance0 balance1 p.reserve0 p.reserve1 = .ok c' ∧
    c'.pairs self = some p' ∧ Accumulates c.timestamp balance0 balance1 p p'

theorem updatesExactly_iff {balance0 balance1 : Nat} (hp : c.pairs self = some p)
    (hfits : balance0 ≤ maxUint112 ∧ balance1 ≤ maxUint112) :
    UpdatesExactly c self p balance0 balance1 ↔ Timely c.timestamp p := by
  constructor
  · rintro ⟨c', p', hupdate, -, -⟩
    obtain ⟨_, -, htimely, -⟩ := update_accumulates hp rfl rfl hupdate
    exact htimely
  · intro htimely
    have haccumulate : ∃ p₁, accumulate p p.reserve0 p.reserve1
        (c.timestamp % 2 ^ 32 - p.blockTimestampLast) = .ok p₁ :=
      accumulate_isOk.mpr fun h0 h1 hpos => (htimely.runs h0 h1).room (by omega)
    obtain ⟨p₁, haccumulate⟩ := haccumulate
    have hupdate : ∃ c', update c self balance0 balance1 p.reserve0 p.reserve1 = .ok c' := by
      simp only [update, bind_eq_ok, require_eq_ok, Chain.pairAt_eq_ok, hp, Option.some.injEq,
        Uint256.sub_eq_ok, pure_eq_ok]
      exact ⟨_, (), hfits, p, rfl, _, ⟨htimely.forward, rfl⟩, p₁, haccumulate, rfl⟩
    obtain ⟨c', hupdate⟩ := hupdate
    obtain ⟨p', rfl, -, haccumulates⟩ := update_accumulates hp rfl rfl hupdate
    exact ⟨_, p', hupdate, by simp, haccumulates⟩

/-! ## Steps -/

/-- The reserves in the `Sync` events of a pair. -/
def syncsOf (pair : Address) (logs : List Log) : List (Nat × Nat) :=
  logs.filterMap fun
    | .sync self reserve0 reserve1 => if self = pair then some (reserve0, reserve1) else none
    | _ => none

@[simp] theorem syncsOf_append (pair : Address) (logs logs' : List Log) :
    syncsOf pair (logs ++ logs') = syncsOf pair logs ++ syncsOf pair logs' :=
  List.filterMap_append

@[simp] theorem syncsOf_sync (pair : Address) (reserve0 reserve1 : Nat) :
    syncsOf pair [.sync pair reserve0 reserve1] = [(reserve0, reserve1)] := by
  simp [syncsOf]

@[simp] theorem syncsOf_sync_of_ne {pair : Address} (h : self ≠ pair) (reserve0 reserve1 : Nat) :
    syncsOf pair [.sync self reserve0 reserve1] = [] := by
  simp [syncsOf, h]

/-- No oracle of any pair changes, and no pair says so. -/
structure Steady (c c' : Chain) : Prop where
  oracle : ∀ pair p, c.pairs pair = some p → ∃ p', c'.pairs pair = some p' ∧ SameOracle p p'
  syncs : ∀ pair, syncsOf pair c'.logs = syncsOf pair c.logs
  clock : c.timestamp ≤ c'.timestamp

/-- Every oracle follows the scheme, with one update for each `Sync` event; `acts` is a pair
    that is updated at least once. -/
def Ticks (acts : Option Address) (c c' : Chain) : Prop :=
  ∀ pair p, c.pairs pair = some p → ∃ p' reserves, c'.pairs pair = some p' ∧
    syncsOf pair c'.logs = syncsOf pair c.logs ++ reserves ∧
    Follows c.timestamp p reserves c'.timestamp p' ∧ (acts = some pair → reserves ≠ [])

/-- The reserves of a pair are its balances. -/
def AtBalances (c : Chain) (pair : Address) : Prop :=
  ∀ p, c.pairs pair = some p → p.reserve0 = c.tokens.balanceOf p.token0 pair ∧
    p.reserve1 = c.tokens.balanceOf p.token1 pair

theorem Steady.refl (c : Chain) : Steady c c := ⟨fun _ p hp => ⟨p, hp, .refl p⟩, fun _ => rfl, le_rfl⟩

theorem Steady.trans {c'' : Chain} (h : Steady c c') (h' : Steady c' c'') : Steady c c'' where
  oracle pair p hp := by
    obtain ⟨p', hp', hsame⟩ := h.oracle pair p hp
    obtain ⟨p'', hp'', hsame'⟩ := h'.oracle pair p' hp'
    exact ⟨p'', hp'', hsame.trans hsame'⟩
  syncs pair := (h'.syncs pair).trans (h.syncs pair)
  clock := h.clock.trans h'.clock

theorem Steady.ticks (h : Steady c c') : Ticks none c c' := by
  intro pair p hp
  obtain ⟨p', hp', hsame⟩ := h.oracle pair p hp
  refine ⟨p', [], hp', by rw [h.syncs, List.append_nil], .still h.clock hsame, fun hnone => ?_⟩
  cases hnone

/-- One after the other; a pair that either of them updates is updated. -/
theorem Ticks.trans {c'' : Chain} {acts acts' acts'' : Option Address} (h : Ticks acts c c')
    (h' : Ticks acts' c' c'') (hacts : acts'' = acts ∨ acts'' = acts') : Ticks acts'' c c'' := by
  intro pair p hp
  obtain ⟨p', reserves, hp', hsyncs, hfollows, hacted⟩ := h pair p hp
  obtain ⟨p'', reserves', hp'', hsyncs', hfollows', hacted'⟩ := h' pair p' hp'
  refine ⟨p'', reserves ++ reserves', hp'', ?_, hfollows.trans hfollows', ?_⟩
  · rw [hsyncs', hsyncs, List.append_assoc]
  · intro hpair
    rcases hacts with rfl | rfl
    · exact List.append_ne_nil_of_left_ne_nil (hacted hpair) _
    · exact List.append_ne_nil_of_right_ne_nil _ (hacted' hpair)

theorem Steady.trans_ticks {c'' : Chain} {acts : Option Address} (h : Steady c c')
    (h' : Ticks acts c' c'') : Ticks acts c c'' := h.ticks.trans h' (.inr rfl)

theorem Ticks.trans_steady {c'' : Chain} {acts : Option Address} (h : Ticks acts c c')
    (h' : Steady c' c'') : Ticks acts c c'' := h.trans h'.ticks (.inl rfl)

theorem setPair_steady (p' : Pair) (hp : c.pairs self = some p) (h : SameOracle p p') :
    Steady c (c.setPair self p') where
  oracle pair q hq := by
    by_cases hself : pair = self
    · subst hself
      obtain rfl := Option.some.inj (hp.symm.trans hq)
      exact ⟨p', by simp, h⟩
    · exact ⟨q, by simp [hself, hq], .refl q⟩
  syncs _ := rfl
  clock := le_rfl

/-- Any event but a `Sync`. -/
theorem emit_steady (c : Chain) {log : Log} (hlog : ∀ pair, syncsOf pair [log] = []) :
    Steady c (c.emit log) where
  oracle _ p hp := ⟨p, hp, .refl p⟩
  syncs pair := by
    rw [Chain.emit, syncsOf_append, hlog, List.append_nil]
  clock := le_rfl

theorem tokens_steady (c : Chain) (tokens : Tokens) : Steady c { c with tokens := tokens } :=
  ⟨fun _ p hp => ⟨p, hp, .refl p⟩, fun _ => rfl, le_rfl⟩

theorem moved_steady (c : Chain) (token src dst : Address) (value : Nat) :
    Steady c (c.moved token src dst value) where
  oracle _ p hp := ⟨p, hp, .refl p⟩
  syncs pair := by
    unfold Chain.moved
    cases c.pairs token with
    | none => rfl
    | some p => simp [syncsOf]
  clock := le_rfl

/-! ## Tokens -/

theorem lpMint_steady {value : Nat} (h : FluxSwapERC20.mint c self dst value = .ok c') :
    Steady c c' := by
  simp only [FluxSwapERC20.mint, bind_eq_ok, Chain.pairAt_eq_ok, pure_eq_ok] at h
  obtain ⟨p, hp, total, -, rfl⟩ := h
  exact ((setPair_steady { p with totalSupply := total } hp ⟨rfl, rfl, rfl, rfl, rfl⟩).trans
    (tokens_steady _ _)).trans (emit_steady _ fun _ => rfl)

theorem lpBurn_steady {value : Nat} (h : FluxSwapERC20.burn c self dst value = .ok c') :
    Steady c c' := by
  simp only [FluxSwapERC20.burn, bind_eq_ok, Chain.pairAt_eq_ok, pure_eq_ok] at h
  obtain ⟨_, -, p, hp, _, -, total, -, rfl⟩ := h
  have hpair := setPair_steady { p with totalSupply := total } hp ⟨rfl, rfl, rfl, rfl, rfl⟩
  exact (hpair.trans (tokens_steady _ _)).trans (emit_steady _ fun _ => rfl)

theorem lpApprove_steady {spender : Address} {value : Nat}
    (h : FluxSwapERC20.approve c self sender spender value = .ok c') : Steady c c' := by
  simp only [FluxSwapERC20.approve, bind_eq_ok, pure_eq_ok] at h
  obtain ⟨_, -, _, -, rfl⟩ := h
  exact (tokens_steady c _).trans (emit_steady _ fun _ => rfl)

theorem safeTransfer_steady {token : Address} {value : Nat}
    (h : safeTransfer c self token dst value = .ok c') : Steady c c' := by
  obtain ⟨-, rfl⟩ := Chain.transfer_eq_some.mp (safeTransfer_eq_ok.mp h)
  exact moved_steady c token self dst value

theorem sendPositive_steady {token : Address} {value : Nat}
    (h : sendPositive c self token dst value = .ok c') : Steady c c' := by
  unfold sendPositive at h
  split at h
  · exact safeTransfer_steady h
  · obtain rfl := pure_eq_ok.mp h
    exact .refl c

theorem sendOutputs_steady {amount0Out amount1Out : Nat}
    (h : sendOutputs c self p amount0Out amount1Out dst = .ok c') : Steady c c' := by
  simp only [sendOutputs, bind_eq_ok] at h
  obtain ⟨_, -, _, -, _, -, c₁, hpay0, hpay1⟩ := h
  exact (sendPositive_steady hpay0).trans (sendPositive_steady hpay1)

theorem payProtocolFee_steady {amount0In amount1In balance0 balance1 balance0' balance1' fee : Nat}
    (h : payProtocolFee c self p amount0In amount1In balance0 balance1 =
      .ok (c', balance0', balance1', fee)) : Steady c c' := by
  unfold payProtocolFee at h
  split at h
  · simp only [bind_eq_ok, pure_eq_ok, Prod.mk.injEq] at h
    obtain ⟨_, -, _, -, c₁, hpay0, c₂, hpay1, _, -, _, -, rfl, -⟩ := h
    have hpaid := (sendPositive_steady hpay0).trans (sendPositive_steady hpay1)
    split
    · exact hpaid.trans (emit_steady _ fun _ => rfl)
    · exact hpaid
  · simp only [pure_eq_ok, Prod.mk.injEq] at h
    obtain ⟨rfl, -⟩ := h
    exact .refl c

theorem callTransfer_steady {token : Address} {value : Nat}
    (h : callTransfer c token sender dst value = .ok c') : Steady c c' := by
  simp only [callTransfer, bind_eq_ok] at h
  obtain ⟨_, -, h⟩ := h
  split at h
  · rename_i c₁ hmove
    obtain rfl := pure_eq_ok.mp h
    obtain ⟨-, rfl⟩ := Chain.transfer_eq_some.mp hmove
    exact moved_steady c token sender dst value
  · cases h

theorem lpTransferFrom_steady {src : Address} {value : Nat}
    (h : FluxSwapERC20.transferFrom c self sender src dst value = .ok c') : Steady c c' := by
  simp only [FluxSwapERC20.transferFrom, FluxSwapERC20.transfer, bind_eq_ok, pure_eq_ok] at h
  obtain ⟨c₁, hspend, _, -, _, -, _, -, rfl⟩ := h
  have hspent : Steady c c₁ := by
    obtain ⟨-, rfl⟩ | ⟨-, _, -, rfl⟩ := Chain.spendAllowance_cases hspend
    · exact .refl _
    · exact (tokens_steady c _).trans (emit_steady _ fun _ => rfl)
  exact (hspent.trans (tokens_steady c₁ _)).trans (emit_steady _ fun _ => rfl)

theorem callTransferFrom_steady {token src : Address} {value : Nat}
    (h : callTransferFrom c token sender src dst value = .ok c') : Steady c c' := by
  simp only [callTransferFrom, bind_eq_ok] at h
  obtain ⟨_, -, h⟩ := h
  split at h
  · rename_i c₁ hmove
    obtain rfl := pure_eq_ok.mp h
    rcases Chain.transferFrom_cases hmove with ⟨-, hrun⟩ | ⟨-, tokens, -, rfl⟩
    · exact lpTransferFrom_steady hrun
    · exact tokens_steady c tokens
  · cases h

theorem callApprove_steady {token spender : Address} {value : Nat}
    (h : callApprove c token sender spender value = .ok c') : Steady c c' := by
  simp only [callApprove, bind_eq_ok] at h
  obtain ⟨_, -, h⟩ := h
  split at h
  · exact lpApprove_steady h
  · obtain rfl := pure_eq_ok.mp h
    exact tokens_steady c _

theorem callPermit_steady {owner spender recovered : Address} {value deadline : Nat}
    (h : callPermit c self owner spender value deadline recovered = .ok c') : Steady c c' := by
  simp only [callPermit, FluxSwapERC20.permit, bind_eq_ok, Chain.pairAt_eq_ok] at h
  obtain ⟨_, -, _, -, p, hp, nonce, -, _, -, happrove⟩ := h
  have hpair := setPair_steady { p with nonces := Function.update p.nonces owner nonce } hp
    ⟨rfl, rfl, rfl, rfl, rfl⟩
  exact hpair.trans (lpApprove_steady happrove)

/-! ## The functions of a pair -/

/-- An update with the reserves that the pair has. -/
theorem update_ticks {balance0 balance1 reserve0 reserve1 : Nat} (hp : c.pairs self = some p)
    (hr0 : p.reserve0 = reserve0) (hr1 : p.reserve1 = reserve1)
    (h : update c self balance0 balance1 reserve0 reserve1 = .ok c') :
    Ticks (some self) c c' := by
  obtain ⟨p', rfl, -, haccumulates⟩ := update_accumulates hp hr0 hr1 h
  intro pair r hr
  by_cases hself : pair = self
  · subst hself
    obtain rfl := Option.some.inj (hp.symm.trans hr)
    refine ⟨p', [(balance0, balance1)], by simp, ?_, ?_, fun _ => List.cons_ne_nil _ _⟩
    · rw [Chain.emit, syncsOf_append, syncsOf_sync]
      rfl
    · exact .update (.still le_rfl (.refl p)) haccumulates le_rfl (.refl p')
  · refine ⟨r, [], by simp [hself, hr], ?_, .still le_rfl (.refl r), fun heq => ?_⟩
    · rw [Chain.emit, syncsOf_append, syncsOf_sync_of_ne (Ne.symm hself)]
      rfl
    · exact absurd (Option.some.inj heq).symm hself

/-- An update with the balances. -/
theorem update_atBalances {balance0 balance1 reserve0 reserve1 : Nat}
    (hp : c.pairs self = some p) (h0 : balance0 = c.tokens.balanceOf p.token0 self)
    (h1 : balance1 = c.tokens.balanceOf p.token1 self)
    (h : update c self balance0 balance1 reserve0 reserve1 = .ok c') : AtBalances c' self := by
  obtain ⟨q, p', hq, hp', hshares, hr0, hr1, -, -, htokens⟩ := update_spec h
  obtain rfl := Option.some.inj (hp.symm.trans hq)
  intro r hr
  obtain rfl := Option.some.inj (hp'.symm.trans hr)
  rw [hr0, hr1, htokens, hshares.token0, hshares.token1]
  exact ⟨h0, h1⟩

theorem AtBalances.emit (h : AtBalances c self) (log : Log) : AtBalances (c.emit log) self := h

theorem AtBalances.setUnlocked (hp : c.pairs self = some p) (h : AtBalances c self)
    (unlocked : Nat) : AtBalances (c.setPair self { p with unlocked := unlocked }) self := by
  intro q hq
  simp only [Chain.setPair_pairs, Function.update_self, Option.some.injEq] at hq
  subst hq
  exact h p hp

/-- The two changes of the lock leave the oracles alone. -/
theorem lock_ticks {α : Type} {body : Chain → Exec (Chain × α)} {result : α}
    {acts : Option Address} (hs : Sound c)
    (hbody : ∀ c₀ p₀ c₁, c₀.pairs self = some p₀ → SharesSound c₀ self p₀ →
      body c₀ = .ok (c₁, result) →
      Ticks acts c₀ c₁ ∧ (acts = some self → c₁.treasury ≠ self → AtBalances c₁ self))
    (h : lock self body c = .ok (c', result)) :
    Ticks acts c c' ∧ (acts = some self → c'.treasury ≠ self → AtBalances c' self) := by
  obtain ⟨p, c₁, p₁, hp, -, hrun, hp₁, rfl⟩ := lock_spec h
  have hlock := setPair_steady { p with unlocked := 0 } hp ⟨rfl, rfl, rfl, rfl, rfl⟩
  have hunlock := setPair_steady { p₁ with unlocked := 1 } hp₁ ⟨rfl, rfl, rfl, rfl, rfl⟩
  have hshares := (hs self p hp).toSharesSound
  obtain ⟨hticks, hat⟩ := hbody (c.setPair self { p with unlocked := 0 })
    { p with unlocked := 0 } c₁ (by simp)
    ⟨hshares.address, hshares.tokens_ne, hshares.token0_ne, hshares.token1_ne, hshares.allowance,
      hshares.supply, hshares.minimum⟩ hrun
  exact ⟨(hlock.trans_ticks hticks).trans_steady hunlock,
    fun hacts htreasury => (hat hacts htreasury).setUnlocked hp₁ 1⟩

theorem mintedLiquidity_steady {amount0 amount1 liquidity : Nat}
    (h : mintedLiquidity c self p amount0 amount1 = .ok (c', liquidity)) : Steady c c' := by
  rcases mintedLiquidity_cases h with ⟨-, hminimum, -⟩ | ⟨-, rfl, -⟩
  · exact lpMint_steady hminimum
  · exact .refl _

theorem mint_ticks {liquidity : Nat} (hs : Sound c)
    (h : mint self sender dst c = .ok (c', liquidity)) :
    Ticks (some self) c c' ∧
      (some self = some self → c'.treasury ≠ self → AtBalances c' self) := by
  refine lock_ticks hs (fun c₀ p c₁ hp hshares hbody => ?_) h
  simp only [bind_eq_ok, Chain.pairAt_eq_ok, hp, Option.some.injEq, require_eq_ok, pure_eq_ok,
    Prod.mk.injEq] at hbody
  obtain ⟨_, rfl, _, -, _, -, ⟨c₂, L⟩, hliquidity, _, hpos, c₃, hmint, c₄, hupdate, rfl, -⟩ := hbody
  have hsteady := (mintedLiquidity_steady hliquidity).trans (lpMint_steady hmint)
  obtain ⟨q, hq, hsame⟩ := hsteady.oracle self p hp
  obtain ⟨total, hissued, -⟩ := issue_spec hp hshares hliquidity hpos hmint
  refine ⟨(hsteady.trans_ticks (update_ticks hq hsame.reserve0 hsame.reserve1 hupdate)).trans_steady
    (emit_steady _ fun _ => rfl), fun _ _ => ?_⟩
  -- the new LP is no balance of the two tokens
  exact (update_atBalances hissued.storage (hissued.held _ hshares.token0_ne).symm
    (hissued.held _ hshares.token1_ne).symm hupdate).emit _

theorem burn_ticks {amounts : Nat × Nat} (hs : Sound c)
    (h : burn self sender dst c = .ok (c', amounts)) :
    Ticks (some self) c c' ∧
      (some self = some self → c'.treasury ≠ self → AtBalances c' self) := by
  refine lock_ticks hs (fun c₀ p c₁ hp hshares hbody => ?_) h
  simp only [bind_eq_ok, Chain.pairAt_eq_ok, hp, Option.some.injEq, pure_eq_ok,
    Prod.mk.injEq] at hbody
  obtain ⟨_, rfl, _, -, _, -, _, -, _, -, _, -, c₂, hburn, c₃, hpay0, c₄, hpay1, c₅, hupdate, rfl,
    -⟩ := hbody
  have hsteady := ((lpBurn_steady hburn).trans (safeTransfer_steady hpay0)).trans
    (safeTransfer_steady hpay1)
  obtain ⟨q, hq, hsame⟩ := hsteady.oracle self p hp
  obtain ⟨p₂, hp₂, -, -, -, hburned, -⟩ := lpBurn_spec hburn
  obtain rfl := Option.some.inj (hp.symm.trans hp₂)
  rw [← (safeTransfer_paid hpay0).storage, ← (safeTransfer_paid hpay1).storage] at hburned
  refine ⟨(hsteady.trans_ticks (update_ticks hq hsame.reserve0 hsame.reserve1 hupdate)).trans_steady
    (emit_steady _ fun _ => rfl), fun _ _ => ?_⟩
  exact (update_atBalances hburned rfl rfl hupdate).emit _

theorem skim_ticks (hs : Sound c) (h : skim self dst c = .ok (c', ())) : Ticks none c c' := by
  refine (lock_ticks hs (fun c₀ p c₁ hp _ hbody => ⟨?_, fun hnone => by cases hnone⟩) h).1
  simp only [bind_eq_ok, pure_eq_ok, Prod.mk.injEq, and_true] at hbody
  obtain ⟨_, -, _, -, c₂, hpay0, _, -, c₃, hpay1, rfl⟩ := hbody
  exact ((safeTransfer_steady hpay0).trans (safeTransfer_steady hpay1)).ticks

theorem sync_ticks (hs : Sound c) (h : sync self c = .ok (c', ())) :
    Ticks (some self) c c' ∧
      (some self = some self → c'.treasury ≠ self → AtBalances c' self) := by
  refine lock_ticks hs (fun c₀ p c₁ hp _ hbody => ?_) h
  simp only [bind_eq_ok, Chain.pairAt_eq_ok, hp, Option.some.injEq, pure_eq_ok, Prod.mk.injEq,
    and_true] at hbody
  obtain ⟨_, rfl, c₂, hupdate, rfl⟩ := hbody
  exact ⟨update_ticks hp rfl rfl hupdate, fun _ _ => update_atBalances hp rfl rfl hupdate⟩

/-- The balances that `payProtocolFee` returns, if the fee does not come back to the pair. -/
theorem payProtocolFee_balances {amount0In amount1In balance0' balance1' fee : Nat}
    (hne : p.token0 ≠ p.token1) (htreasury : c.treasury ≠ self)
    (h : payProtocolFee c self p amount0In amount1In (c.tokens.balanceOf p.token0 self)
      (c.tokens.balanceOf p.token1 self) = .ok (c', balance0', balance1', fee)) :
    balance0' = c'.tokens.balanceOf p.token0 self ∧
      balance1' = c'.tokens.balanceOf p.token1 self := by
  obtain ⟨h0, h1, -, htokens, -, -⟩ := payProtocolFee_effect h
  rw [h0, h1, htokens, feesPaid]
  simp [Ledger.balanceOf_move, hne, hne.symm, htreasury.symm]

/-- The last part of a swap, with the reserves that the pair has. -/
theorem takeInputs_ticks {amount0Out amount1Out : Nat} {q : Pair} (hq : c.pairs self = some q)
    (hr0 : q.reserve0 = p.reserve0) (hr1 : q.reserve1 = p.reserve1) (h0 : q.token0 = p.token0)
    (h1 : q.token1 = p.token1)
    (hne : p.token0 ≠ p.token1)
    (h : takeInputs c self sender p amount0Out amount1Out dst = .ok c') :
    Ticks (some self) c c' ∧ (c'.treasury ≠ self → AtBalances c' self) := by
  simp only [takeInputs, bind_eq_ok, pure_eq_ok] at h
  obtain ⟨_, -, ⟨c₁, balance0, balance1, fee⟩, hfee, _, -, c₂, hupdate, rfl⟩ := h
  obtain ⟨-, -, -, -, hpairs, henv⟩ := payProtocolFee_effect hfee
  obtain ⟨_, _, -, -, -, -, -, -, hframe, -⟩ := update_spec hupdate
  have hq₁ : c₁.pairs self = some q := by rw [hpairs, hq]
  refine ⟨((payProtocolFee_steady hfee).trans_ticks (update_ticks hq₁ hr0 hr1 hupdate)).trans_steady
    (emit_steady _ fun _ => rfl), fun htreasury => ?_⟩
  rw [Chain.emit, hframe.env.treasury, henv.treasury] at htreasury
  obtain ⟨hb0, hb1⟩ := payProtocolFee_balances hne htreasury hfee
  rw [← h0] at hb0
  rw [← h1] at hb1
  exact (update_atBalances hq₁ hb0 hb1 hupdate).emit _

/-- A swap, if its callback follows the scheme. -/
theorem swap_ticks {amount0Out amount1Out : Nat} {callback : Chain → Exec Chain} (hs : Sound c)
    (hkeeps : ∀ c₁ c₂, Sound c₁ → callback c₁ = .ok c₂ → Keeps c₁ c₂)
    (hcallback : ∀ c₁ c₂, Sound c₁ → callback c₁ = .ok c₂ → Ticks none c₁ c₂)
    (h : swap self sender amount0Out amount1Out dst callback c = .ok (c', ())) :
    Ticks (some self) c c' ∧
      (some self = some self → c'.treasury ≠ self → AtBalances c' self) := by
  obtain ⟨p, c₃, p₃, hp, hopen, hbody, hp₃, rfl⟩ := lock_spec h
  simp only [bind_eq_ok, Chain.pairAt_eq_ok, Chain.setPair_pairs, Function.update_self,
    Option.some.injEq, pure_eq_ok, Prod.mk.injEq, and_true] at hbody
  obtain ⟨_, rfl, c₁, hsend, c₂, hrun, c₃', htake, rfl⟩ := hbody
  have henter : enterSwap c self amount0Out amount1Out dst = .ok c₁ := by
    simp only [enterSwap, bind_eq_ok, Chain.pairAt_eq_ok, require_eq_ok]
    exact ⟨p, hp, (), hopen, hsend⟩
  obtain ⟨q, hq, -, -, hp₁, hsound₁⟩ := enterSwap_spec hs henter
  obtain rfl := Option.some.inj (hp.symm.trans hq)
  have hlocked := (setPair_steady { p with unlocked := 0 } hp ⟨rfl, rfl, rfl, rfl, rfl⟩).trans
    (sendOutputs_steady hsend)
  have hunlock := setPair_steady { p₃ with unlocked := 1 } hp₃ ⟨rfl, rfl, rfl, rfl, rfl⟩
  -- the callback finds the pair locked, so the reserves are still those that were read
  obtain ⟨p₂, hp₂, hadvance⟩ := (hkeeps c₁ c₂ hsound₁ hrun).advance self _ hp₁
  obtain ⟨hr0, hr1, -⟩ := hadvance.frozen Nat.zero_ne_one
  obtain ⟨hticks, hat⟩ := takeInputs_ticks hp₂ hr0 hr1 hadvance.token0 hadvance.token1
    (hs self p hp).tokens_ne htake
  exact ⟨((hlocked.trans_ticks (hcallback c₁ c₂ hsound₁ hrun)).trans hticks (.inr rfl)).trans_steady
    hunlock, fun _ htreasury => (hat htreasury).setUnlocked hp₃ 1⟩

/-! ## Every transaction -/

/-- The pair that a transaction updates, if it is an operation of a pair. -/
def Op.updates : Op → Option Address
  | .mint pair _ _ => some pair
  | .burn pair _ _ => some pair
  | .swap pair _ _ _ _ _ => some pair
  | .sync pair => some pair
  | .skim _ _ => none
  | .transfer _ _ _ _ => none
  | .transferFrom _ _ _ _ _ => none
  | .approve _ _ _ _ => none
  | .permit _ _ _ _ _ _ => none
  | .setTreasury _ => none
  | .advanceTime _ => none

theorem advanceTime_steady (c : Chain) (seconds : Nat) :
    Steady c { c with timestamp := c.timestamp + seconds } :=
  ⟨fun _ p hp => ⟨p, hp, .refl p⟩, fun _ => rfl, Nat.le_add_right _ _⟩

theorem setTreasury_steady (c : Chain) (treasury : Address) :
    Steady c { c with treasury := treasury } :=
  ⟨fun _ p hp => ⟨p, hp, .refl p⟩, fun _ => rfl, le_rfl⟩

/-- A steady transaction updates nothing, so there is nothing to say about its balances. -/
theorem Steady.exec_ticks (h : Steady c c') :
    Ticks none c c' ∧ ∀ pair, none = some pair → c'.treasury ≠ pair → AtBalances c' pair :=
  ⟨h.ticks, fun _ hnone => by cases hnone⟩

/-- What is known of the pair itself is known of the pair that the transaction updates. -/
theorem ticks_self (h : Ticks (some self) c c' ∧
      (some self = some self → c'.treasury ≠ self → AtBalances c' self)) :
    Ticks (some self) c c' ∧
      ∀ pair, some self = some pair → c'.treasury ≠ pair → AtBalances c' pair := by
  refine ⟨h.1, fun pair hpair => ?_⟩
  obtain rfl := Option.some.inj hpair
  exact h.2 rfl

mutual

/-- A transaction, with all the callbacks in it, moves every oracle by the scheme. -/
theorem exec_ticks : (op : Op) → (c c' : Chain) → Sound c → exec op c = .ok c' →
    Ticks op.updates c c' ∧
      ∀ pair, op.updates = some pair → c'.treasury ≠ pair → AtBalances c' pair
  | .mint pair sender dst, c, c', hs, h => by
    simp only [exec, bind_eq_ok, pure_eq_ok] at h
    obtain ⟨⟨c₁, liquidity⟩, hrun, rfl⟩ := h
    exact ticks_self (mint_ticks hs hrun)
  | .burn pair sender dst, c, c', hs, h => by
    simp only [exec, bind_eq_ok, pure_eq_ok] at h
    obtain ⟨⟨c₁, amounts⟩, hrun, rfl⟩ := h
    exact ticks_self (burn_ticks hs hrun)
  | .swap pair sender amount0Out amount1Out dst callback, c, c', hs, h => by
    simp only [exec, bind_eq_ok, pure_eq_ok] at h
    obtain ⟨⟨c₁, u⟩, hrun, rfl⟩ := h
    exact ticks_self (swap_ticks hs (fun c₁ c₂ => execAll_keeps callback c₁ c₂)
      (fun c₁ c₂ => execAll_ticks callback c₁ c₂) hrun)
  | .skim pair dst, c, c', hs, h => by
    simp only [exec, bind_eq_ok, pure_eq_ok] at h
    obtain ⟨⟨c₁, u⟩, hrun, rfl⟩ := h
    exact ⟨skim_ticks hs hrun, fun _ hnone => by cases hnone⟩
  | .sync pair, c, c', hs, h => by
    simp only [exec, bind_eq_ok, pure_eq_ok] at h
    obtain ⟨⟨c₁, u⟩, hrun, rfl⟩ := h
    exact ticks_self (sync_ticks hs hrun)
  | .transfer token sender dst value, c, c', hs, h => by
    rw [exec] at h
    exact (callTransfer_steady h).exec_ticks
  | .transferFrom token sender src dst value, c, c', hs, h => by
    rw [exec] at h
    exact (callTransferFrom_steady h).exec_ticks
  | .approve token sender spender value, c, c', hs, h => by
    rw [exec] at h
    exact (callApprove_steady h).exec_ticks
  | .permit pair owner spender value deadline recovered, c, c', hs, h => by
    rw [exec] at h
    exact (callPermit_steady h).exec_ticks
  | .setTreasury treasury, c, c', hs, h => by
    rw [exec] at h
    obtain rfl := pure_eq_ok.mp h
    exact (setTreasury_steady c treasury).exec_ticks
  | .advanceTime seconds, c, c', hs, h => by
    rw [exec] at h
    obtain rfl := pure_eq_ok.mp h
    exact (advanceTime_steady c seconds).exec_ticks

theorem execAll_ticks : (ops : List Op) → (c c' : Chain) → Sound c → execAll ops c = .ok c' →
    Ticks none c c'
  | [], c, c', hs, h => by
    rw [execAll] at h
    obtain rfl := pure_eq_ok.mp h
    exact (Steady.refl c).ticks
  | op :: ops, c, c', hs, h => by
    rw [execAll] at h
    obtain ⟨c₁, hop, hops⟩ := bind_eq_ok.mp h
    have hsound := (exec_keeps op c c₁ hs hop).sound
    exact (exec_ticks op c c₁ hs hop).1.trans (execAll_ticks ops c₁ c' hsound hops) (.inr rfl)

end

/-- In every state of every run, also inside callbacks: an update with balances that fit goes
    through and adds what the scheme says exactly if neither the 32-bit clock nor an accumulator
    would wrap. In every sequence of transactions that succeeds each update, told apart by its
    `Sync`, finds the reserves of the one before it and adds what the scheme says at the chain's
    time; `mint`, `burn`, `swap` and `sync` update their pair, to its balances unless the fee
    goes to the pair itself. -/
theorem oracle_exact_iff (hreach : system.Reachable c) {pair : Address}
    (hp : c.pairs pair = some p) :
    (∀ balance0 balance1, balance0 ≤ maxUint112 ∧ balance1 ≤ maxUint112 →
      (UpdatesExactly c pair p balance0 balance1 ↔ Timely c.timestamp p)) ∧
    (∀ ops c', execAll ops c = .ok c' → ∃ p' reserves, c'.pairs pair = some p' ∧
      syncsOf pair c'.logs = syncsOf pair c.logs ++ reserves ∧
      Follows c.timestamp p reserves c'.timestamp p') ∧
    ∀ op c', exec op c = .ok c' → op.updates = some pair →
      syncsOf pair c'.logs ≠ syncsOf pair c.logs ∧ (c'.treasury ≠ pair → AtBalances c' pair) := by
  have hs := reachable_sound hreach
  refine ⟨fun _ _ hfits => updatesExactly_iff hp hfits, fun ops c' hops => ?_,
    fun op c' hop hupdates => ?_⟩
  · obtain ⟨p', reserves, hp', hsyncs, hfollows, -⟩ := execAll_ticks ops c c' hs hops pair p hp
    exact ⟨p', reserves, hp', hsyncs, hfollows⟩
  · obtain ⟨hticks, hat⟩ := exec_ticks op c c' hs hop
    obtain ⟨p', reserves, -, hsyncs, -, hne⟩ := hticks pair p hp
    refine ⟨fun hsame => hne hupdates ?_, hat pair hupdates⟩
    rw [hsyncs] at hsame
    exact List.append_right_eq_self.mp hsame

namespace Example

/-- A deposit at second 100, and then nothing for a while. -/
def idle (seconds : Nat) : List Move := deposit ++ [.op (.advanceTime seconds)]

/-- The time, the reserves, and whether nothing would wrap and `sync` goes through. -/
def clocks (c : Chain) : Option (Nat × Nat × Nat × Bool × Bool) :=
  (c.pairs pair).map fun p =>
    (c.timestamp, p.reserve0, p.reserve1, decide (Timely c.timestamp p),
      (exec (.sync pair) c).toOption.isSome)

theorem idle_reaches (seconds : Nat) {timestamp reserve0 reserve1 : Nat} {timely syncs : Bool}
    (h : (System.runWith move (fun _ _ => True) start (idle seconds)).bind clocks =
      some (timestamp, reserve0, reserve1, timely, syncs)) :
    ∃ c p, system.Reachable c ∧ c.pairs pair = some p ∧ c.timestamp = timestamp ∧
      p.reserve0 = reserve0 ∧ p.reserve1 = reserve1 ∧ decide (Timely c.timestamp p) = timely ∧
      (exec (.sync pair) c).toOption.isSome = syncs := by
  obtain ⟨c, hc, hclocks⟩ := Option.bind_eq_some_iff.mp h
  obtain ⟨p, hp, heq⟩ := Option.map_eq_some_iff.mp hclocks
  simp only [Prod.mk.injEq] at heq
  obtain ⟨htimestamp, h0, h1, htimely, hsync⟩ := heq
  exact ⟨c, p, System.reachableWith_of_runWith (.init start_initial) hc, hp, htimestamp, h0, h1,
    htimely, hsync⟩

end Example

open Example in
theorem oracle_exact_iff_idle :
    ∃ c p, system.Reachable c ∧ c.pairs pair = some p ∧ c.timestamp = 160 ∧
      p.reserve0 = 10 ^ 6 ∧ UpdatesExactly c pair p (10 ^ 6) (4 * 10 ^ 6) := by
  have hrun : (System.runWith move (fun _ _ => True) start (idle 60)).bind clocks =
      some (160, 10 ^ 6, 4 * 10 ^ 6, true, true) := by
    decide +kernel
  obtain ⟨c, p, hreach, hp, htimestamp, h0, -, htimely, -⟩ := idle_reaches 60 hrun
  refine ⟨c, p, hreach, hp, htimestamp, h0, ?_⟩
  apply ((oracle_exact_iff hreach hp).1 (10 ^ 6) (4 * 10 ^ 6) (by decide)).mpr
  exact of_decide_eq_true htimely

open Example in
/-- Second `2 ^ 32` is second zero of the 32-bit clock: the pair cannot even be synced. -/
theorem oracle_stops_at_wrap :
    ∃ c p, system.Reachable c ∧ c.pairs pair = some p ∧ c.timestamp = 2 ^ 32 ∧
      (p.reserve0 ≤ maxUint112 ∧ p.reserve1 ≤ maxUint112) ∧
      ¬UpdatesExactly c pair p p.reserve0 p.reserve1 ∧
      (exec (.sync pair) c).toOption.isSome = false := by
  have hrun : (System.runWith move (fun _ _ => True) start (idle (2 ^ 32 - 100))).bind clocks =
      some (2 ^ 32, 10 ^ 6, 4 * 10 ^ 6, false, false) := by
    decide +kernel
  obtain ⟨c, p, hreach, hp, htimestamp, h0, h1, htimely, hsync⟩ :=
    idle_reaches (2 ^ 32 - 100) hrun
  have hfits : p.reserve0 ≤ maxUint112 ∧ p.reserve1 ≤ maxUint112 := by
    rw [h0, h1]
    decide
  refine ⟨c, p, hreach, hp, htimestamp, hfits, ?_, hsync⟩
  intro hexact
  exact of_decide_eq_false htimely ((updatesExactly_iff hp hfits).mp hexact)

end FluxSwapPair
