-- SUMMARY: What each step of a pair leaves alone, and the storage invariant of every pair over every run.
import FluxSwap.Amm.PairRun
import Mathlib.Tactic.Ring

/-!
# Soundness of the pairs

A call of one pair moves only what that pair holds: every other pair keeps its
storage and loses nothing. This frame, proved once for each building block, gives
the invariant of all pairs; what remains for each entry point is its own pair.
-/

open Exec

namespace FluxSwapPair

variable {c c' : Chain} {self : Address} {p p' : Pair}

/-! ## The frame of a pair's actions -/

/-- What no action of a pair touches. -/
structure SameEnv (c c' : Chain) : Prop where
  getPair : c'.getPair = c.getPair
  treasury : c'.treasury = c.treasury
  timestamp : c'.timestamp = c.timestamp
  eth : c'.eth = c.eth
  refuses : c'.tokens.refuses = c.tokens.refuses

theorem SameEnv.refl (c : Chain) : SameEnv c c := ⟨rfl, rfl, rfl, rfl, rfl⟩

theorem SameEnv.trans {c'' : Chain} (h : SameEnv c c') (h' : SameEnv c' c'') : SameEnv c c'' :=
  ⟨h'.getPair.trans h.getPair, h'.treasury.trans h.treasury, h'.timestamp.trans h.timestamp,
    h'.eth.trans h.eth, h'.refuses.trans h.refuses⟩

/-- From `c` to `c'` only one pair acted: it spends its own balances and issues its
    own LP. -/
structure Frame (pair : Address) (c c' : Chain) : Prop where
  pairs : ∀ q, q ≠ pair → c'.pairs q = c.pairs q
  balance : ∀ t a, a ≠ pair → c.tokens.balanceOf t a ≤ c'.tokens.balanceOf t a
  supply : ∀ t, t ≠ pair → ∑ a, c'.tokens.balanceOf t a = ∑ a, c.tokens.balanceOf t a
  allowance : c'.tokens.allowance = c.tokens.allowance
  env : SameEnv c c'

theorem Frame.refl (self : Address) (c : Chain) : Frame self c c where
  pairs _ _ := rfl
  balance _ _ _ := le_rfl
  supply _ _ := rfl
  allowance := rfl
  env := ⟨rfl, rfl, rfl, rfl, rfl⟩

theorem Frame.trans {c'' : Chain} (h : Frame self c c') (h' : Frame self c' c'') :
    Frame self c c'' where
  pairs q hq := (h'.pairs q hq).trans (h.pairs q hq)
  balance t a ha := (h.balance t a ha).trans (h'.balance t a ha)
  supply t ht := (h'.supply t ht).trans (h.supply t ht)
  allowance := h'.allowance.trans h.allowance
  env := h.env.trans h'.env

theorem Frame.setPair (c : Chain) (self : Address) (p : Pair) : Frame self c (c.setPair self p) where
  pairs q hq := by simp [hq]
  balance _ _ _ := le_rfl
  supply _ _ := rfl
  allowance := rfl
  env := ⟨rfl, rfl, rfl, rfl, rfl⟩

theorem Frame.emit (c : Chain) (self : Address) (log : Log) : Frame self c (c.emit log) where
  pairs _ _ := rfl
  balance _ _ _ := le_rfl
  supply _ _ := rfl
  allowance := rfl
  env := ⟨rfl, rfl, rfl, rfl, rfl⟩

/-! ## Payments -/

/-- The pair paid `value` of `token`, perhaps to itself. -/
structure Paid (pair token : Address) (value : Nat) (c c' : Chain) : Prop extends
    Frame pair c c' where
  storage : c'.pairs = c.pairs
  total : ∀ t, ∑ a, c'.tokens.balanceOf t a = ∑ a, c.tokens.balanceOf t a
  other : ∀ t, t ≠ token → c'.tokens.balanceOf t pair = c.tokens.balanceOf t pair
  left : c.tokens.balanceOf token pair ≤ c'.tokens.balanceOf token pair + value

theorem safeTransfer_eq_ok {token dst : Address} {value : Nat} :
    safeTransfer c self token dst value = .ok c' ↔ c.transfer token self dst value = some c' := by
  unfold safeTransfer
  split <;> simp_all

theorem safeTransfer_paid {token dst : Address} {value : Nat}
    (h : safeTransfer c self token dst value = .ok c') : Paid self token value c c' := by
  obtain ⟨⟨hle, -⟩, rfl⟩ := Chain.transfer_eq_some.mp (safeTransfer_eq_ok.mp h)
  have hsum := fun t => c.tokens.sum_balanceOf_move token self dst value hle t
  refine
    { pairs := fun _ _ => rfl
      balance := fun t a ha => c.tokens.balanceOf_le_move token self dst value ha t
      supply := fun t _ => hsum t
      allowance := rfl
      env := ⟨rfl, rfl, rfl, rfl, rfl⟩
      storage := rfl
      total := hsum
      other := fun t ht => c.tokens.balanceOf_move_of_token_ne token self dst value ht self
      left := ?_ }
  simp only [Chain.moved_tokens, Ledger.balanceOf_move, if_true]
  omega

theorem sendPositive_paid {token dst : Address} {value : Nat}
    (h : sendPositive c self token dst value = .ok c') : Paid self token value c c' := by
  unfold sendPositive at h
  split at h
  · exact safeTransfer_paid h
  · obtain rfl := pure_eq_ok.mp h
    exact ⟨.refl _ _, rfl, fun _ => rfl, fun _ _ => rfl, Nat.le_add_right _ _⟩

/-! ## The LP supply -/

/-- `_mint` raises the supply and one LP balance. -/
theorem lpMint_spec {dst : Address} {value : Nat} (h : FluxSwapERC20.mint c self dst value = .ok c') :
    ∃ p, c.pairs self = some p ∧ p.totalSupply + value ≤ Uint256.max ∧ Frame self c c' ∧
      c'.pairs self = some { p with totalSupply := p.totalSupply + value } ∧
      c'.tokens = c.tokens.credit self dst value := by
  simp only [FluxSwapERC20.mint, bind_eq_ok, Chain.pairAt_eq_ok, Uint256.add_eq_ok, pure_eq_ok] at h
  obtain ⟨p, hp, _, ⟨hmax, rfl⟩, rfl⟩ := h
  refine ⟨p, hp, hmax, ⟨?_, ?_, ?_, rfl, ⟨rfl, rfl, rfl, rfl, rfl⟩⟩, ?_, rfl⟩
  · intro q hq
    simp [hq]
  · exact fun t a _ => c.tokens.balanceOf_le_credit self dst value t a
  · intro t ht
    simp [ht]
  · simp

/-- `_burn` of the pair's own LP lowers the supply and the pair's LP balance. -/
theorem lpBurn_spec {value : Nat} (h : FluxSwapERC20.burn c self self value = .ok c') :
    ∃ p, c.pairs self = some p ∧ value ≤ c.tokens.balanceOf self self ∧ value ≤ p.totalSupply ∧
      Frame self c c' ∧ c'.pairs self = some { p with totalSupply := p.totalSupply - value } ∧
      c'.tokens = c.tokens.debit self self value := by
  simp only [FluxSwapERC20.burn, bind_eq_ok, require_eq_ok, Chain.pairAt_eq_ok, Uint256.sub_eq_ok,
    pure_eq_ok] at h
  obtain ⟨_, -, p, hp, _, ⟨hle, -⟩, _, ⟨hle', rfl⟩, rfl⟩ := h
  refine ⟨p, hp, hle, hle', ⟨?_, ?_, ?_, rfl, ⟨rfl, rfl, rfl, rfl, rfl⟩⟩, ?_, rfl⟩
  · intro q hq
    simp [hq]
  · intro t a ha
    simp [ha]
  · intro t ht
    simp [ht]
  · simp

/-! ## The update of the reserves -/

/-- The fields that neither the clock nor the accumulators touch. -/
structure SameShares (p p' : Pair) : Prop where
  token0 : p'.token0 = p.token0
  token1 : p'.token1 = p.token1
  unlocked : p'.unlocked = p.unlocked
  totalSupply : p'.totalSupply = p.totalSupply

theorem accumulate_sameShares {reserve0 reserve1 timeElapsed : Nat}
    (h : accumulate p reserve0 reserve1 timeElapsed = .ok p') : SameShares p p' := by
  unfold accumulate at h
  split at h
  · simp only [bind_eq_ok, Uint256.mul_eq_ok, Uint256.add_eq_ok, pure_eq_ok] at h
    obtain ⟨_, -, _, -, _, -, _, -, rfl⟩ := h
    exact ⟨rfl, rfl, rfl, rfl⟩
  · obtain rfl := pure_eq_ok.mp h
    exact ⟨rfl, rfl, rfl, rfl⟩

theorem update_spec {balance0 balance1 reserve0 reserve1 : Nat}
    (h : update c self balance0 balance1 reserve0 reserve1 = .ok c') :
    ∃ p p', c.pairs self = some p ∧ c'.pairs self = some p' ∧ SameShares p p' ∧
      p'.reserve0 = balance0 ∧ p'.reserve1 = balance1 ∧
      (balance0 ≤ maxUint112 ∧ balance1 ≤ maxUint112) ∧
      Frame self c c' ∧ c'.tokens = c.tokens := by
  simp only [update, bind_eq_ok, require_eq_ok, Chain.pairAt_eq_ok, pure_eq_ok] at h
  obtain ⟨_, hfits, p, hp, _, -, p₁, haccumulate, rfl⟩ := h
  have hsame := accumulate_sameShares haccumulate
  refine ⟨p, { p₁ with
      reserve0 := balance0
      reserve1 := balance1
      blockTimestampLast := c.timestamp % 2 ^ 32 }, hp, by simp, ⟨hsame.token0, hsame.token1, hsame.unlocked, hsame.totalSupply⟩,
    rfl, rfl, hfits, ?_, rfl⟩
  exact (Frame.setPair c self _).trans (.emit _ self _)

/-- `lock` frames its body: the pair is open before and after, locked in between. -/
theorem lock_spec {α : Type} {body : Chain → Exec (Chain × α)} {result : α}
    (h : lock self body c = .ok (c', result)) :
    ∃ p c₁ p₁, c.pairs self = some p ∧ p.unlocked = 1 ∧
      body (c.setPair self { p with unlocked := 0 }) = .ok (c₁, result) ∧
      c₁.pairs self = some p₁ ∧ c' = c₁.setPair self { p₁ with unlocked := 1 } := by
  simp only [lock, bind_eq_ok, require_eq_ok, Chain.pairAt_eq_ok, pure_eq_ok, Prod.mk.injEq] at h
  obtain ⟨p, hp, _, hopen, ⟨c₁, r⟩, hbody, p₁, hp₁, rfl, rfl⟩ := h
  exact ⟨p, c₁, p₁, hp, hopen, hbody, hp₁, rfl⟩

/-! ## The invariant -/

/-- The LP of a pair adds up to its supply, of which the minimum is locked, and the
    pair never approved anyone. -/
structure SharesSound (c : Chain) (pair : Address) (p : Pair) : Prop where
  address : pair ≠ Address.zero
  tokens_ne : p.token0 ≠ p.token1
  token0_ne : p.token0 ≠ pair
  token1_ne : p.token1 ≠ pair
  allowance : ∀ t s, c.tokens.allowance t pair s = 0
  supply : ∑ a, c.tokens.balanceOf pair a = p.totalSupply
  minimum : 0 < p.totalSupply → MINIMUM_LIQUIDITY ≤ c.tokens.balanceOf pair Address.zero

/-- A pair's storage agrees with its balances. While the pair is locked its
    balances may be behind its reserves. -/
structure PairSound (c : Chain) (pair : Address) (p : Pair) : Prop extends
    SharesSound c pair p where
  fits : p.reserve0 ≤ maxUint112 ∧ p.reserve1 ≤ maxUint112
  backed : p.unlocked = 1 → p.reserve0 ≤ c.tokens.balanceOf p.token0 pair ∧
    p.reserve1 ≤ c.tokens.balanceOf p.token1 pair

def Sound (c : Chain) : Prop := ∀ pair p, c.pairs pair = some p → PairSound c pair p

theorem Fresh.sound {pair : Address} (h : Fresh c pair p) : PairSound c pair p where
  address := h.address
  tokens_ne := h.tokens_ne
  token0_ne := h.token0_ne
  token1_ne := h.token1_ne
  allowance := h.allowance
  supply := by simp [h.shares, h.totalSupply]
  minimum := by simp [h.totalSupply]
  fits := by simp [h.reserve0, h.reserve1]
  backed _ := by simp [h.reserve0, h.reserve1]

/-- A payment by the pair leaves its LP alone. -/
theorem SharesSound.paid {token : Address} {value : Nat} (h : SharesSound c self p)
    (hpaid : Paid self token value c c') : SharesSound c' self p where
  address := h.address
  tokens_ne := h.tokens_ne
  token0_ne := h.token0_ne
  token1_ne := h.token1_ne
  allowance t s := by rw [hpaid.allowance]; exact h.allowance t s
  supply := by rw [hpaid.total]; exact h.supply
  minimum hpos := (h.minimum hpos).trans (hpaid.balance _ _ h.address.symm)

/-- What another pair does leaves a pair sound. -/
theorem PairSound.frame {pair : Address} (hp : PairSound c pair p) (hne : pair ≠ self)
    (hself : self ≠ Address.zero) (hf : Frame self c c') : PairSound c' pair p where
  address := hp.address
  tokens_ne := hp.tokens_ne
  token0_ne := hp.token0_ne
  token1_ne := hp.token1_ne
  allowance t s := by rw [hf.allowance]; exact hp.allowance t s
  supply := by rw [hf.supply pair hne]; exact hp.supply
  minimum h := (hp.minimum h).trans (hf.balance pair _ hself.symm)
  fits := hp.fits
  backed h :=
    ⟨(hp.backed h).1.trans (hf.balance _ _ hne), (hp.backed h).2.trans (hf.balance _ _ hne)⟩

/-! ## The value of a share -/

/-- From `p` to `p'` no LP share lost value: the reserves' product grew at least
    with the square of the supply. Once there is supply, it stays. -/
def KeepsValue (p p' : Pair) : Prop :=
  0 < p.totalSupply → 0 < p'.totalSupply ∧
    p.reserve0 * p.reserve1 * p'.totalSupply ^ 2 ≤ p'.reserve0 * p'.reserve1 * p.totalSupply ^ 2

theorem KeepsValue.of_eq (h0 : p'.reserve0 = p.reserve0) (h1 : p'.reserve1 = p.reserve1)
    (ht : p'.totalSupply = p.totalSupply) : KeepsValue p p' := by
  intro hpos
  rw [h0, h1, ht]
  exact ⟨hpos, le_rfl⟩

theorem KeepsValue.trans {p'' : Pair} (h : KeepsValue p p') (h' : KeepsValue p' p'') :
    KeepsValue p p'' := by
  intro hpos
  obtain ⟨hpos', hle⟩ := h hpos
  obtain ⟨hpos'', hle'⟩ := h' hpos'
  refine ⟨hpos'', ?_⟩
  have hsq : 0 < p'.totalSupply ^ 2 := Nat.pow_pos hpos'
  refine Nat.le_of_mul_le_mul_right ?_ hsq
  calc p.reserve0 * p.reserve1 * p''.totalSupply ^ 2 * p'.totalSupply ^ 2
      = p.reserve0 * p.reserve1 * p'.totalSupply ^ 2 * p''.totalSupply ^ 2 := by ring
    _ ≤ p'.reserve0 * p'.reserve1 * p.totalSupply ^ 2 * p''.totalSupply ^ 2 :=
        Nat.mul_le_mul_right _ hle
    _ = p'.reserve0 * p'.reserve1 * p''.totalSupply ^ 2 * p.totalSupply ^ 2 := by ring
    _ ≤ p''.reserve0 * p''.reserve1 * p'.totalSupply ^ 2 * p.totalSupply ^ 2 :=
        Nat.mul_le_mul_right _ hle'
    _ = p''.reserve0 * p''.reserve1 * p.totalSupply ^ 2 * p'.totalSupply ^ 2 := by ring

/-- It is enough that each reserve keeps its part per share. -/
theorem KeepsValue.of_each (hpos : 0 < p.totalSupply → 0 < p'.totalSupply)
    (h0 : p.reserve0 * p'.totalSupply ≤ p'.reserve0 * p.totalSupply)
    (h1 : p.reserve1 * p'.totalSupply ≤ p'.reserve1 * p.totalSupply) : KeepsValue p p' := by
  intro ht
  refine ⟨hpos ht, ?_⟩
  calc p.reserve0 * p.reserve1 * p'.totalSupply ^ 2
      = p.reserve0 * p'.totalSupply * (p.reserve1 * p'.totalSupply) := by ring
    _ ≤ p'.reserve0 * p.totalSupply * (p'.reserve1 * p.totalSupply) := Nat.mul_le_mul h0 h1
    _ = p'.reserve0 * p'.reserve1 * p.totalSupply ^ 2 := by ring

/-- A pair that gets its first LP has positive reserves. -/
def OpensFunded (p p' : Pair) : Prop :=
  p.totalSupply = 0 → 0 < p'.totalSupply → 0 < p'.reserve0 ∧ 0 < p'.reserve1

theorem OpensFunded.of_eq (h : p'.totalSupply = p.totalSupply) : OpensFunded p p' := by
  intro hzero hpos
  omega

/-- Reserves that were positive stay positive while no share loses value. -/
theorem KeepsValue.positive (h : KeepsValue p p') (hpos : 0 < p.totalSupply)
    (hreserves : 0 < p.reserve0 ∧ 0 < p.reserve1) : 0 < p'.reserve0 ∧ 0 < p'.reserve1 := by
  obtain ⟨hpos', hvalue⟩ := h hpos
  have hproduct : 0 < p'.reserve0 * p'.reserve1 * p.totalSupply ^ 2 :=
    (Nat.mul_pos (Nat.mul_pos hreserves.1 hreserves.2) (Nat.pow_pos hpos')).trans_le hvalue
  have hreserves' := Nat.pos_of_mul_pos_right hproduct
  exact ⟨Nat.pos_of_mul_pos_right hreserves', Nat.pos_of_mul_pos_left hreserves'⟩

theorem OpensFunded.trans {p'' : Pair} (h : OpensFunded p p') (hvalue : KeepsValue p' p'')
    (h' : OpensFunded p' p'') : OpensFunded p p'' := by
  intro hzero hpos
  rcases Nat.eq_zero_or_pos p'.totalSupply with hmid | hmid
  · exact h' hmid hpos
  · exact hvalue.positive hmid (h hzero hmid)

/-- What a step does to one pair. A locked pair is frozen: it loses nothing and
    its storage stays, up to the nonces of its LP token. -/
structure Advance (c c' : Chain) (pair : Address) (p p' : Pair) : Prop where
  token0 : p'.token0 = p.token0
  token1 : p'.token1 = p.token1
  unlocked : p'.unlocked = p.unlocked
  value : KeepsValue p p'
  opens : OpensFunded p p'
  frozen : p.unlocked ≠ 1 → p'.reserve0 = p.reserve0 ∧ p'.reserve1 = p.reserve1 ∧
    p'.totalSupply = p.totalSupply ∧
    ∀ t, c.tokens.balanceOf t pair ≤ c'.tokens.balanceOf t pair

theorem Advance.of_frame {pair : Address} (hne : pair ≠ self) (hf : Frame self c c') :
    Advance c c' pair p p where
  token0 := rfl
  token1 := rfl
  unlocked := rfl
  value := .of_eq rfl rfl rfl
  opens := .of_eq rfl
  frozen _ := ⟨rfl, rfl, rfl, fun t => hf.balance t pair hne⟩

theorem Advance.trans {c'' : Chain} {pair : Address} {p'' : Pair} (h : Advance c c' pair p p')
    (h' : Advance c' c'' pair p' p'') : Advance c c'' pair p p'' where
  token0 := h'.token0.trans h.token0
  token1 := h'.token1.trans h.token1
  unlocked := h'.unlocked.trans h.unlocked
  value := h.value.trans h'.value
  opens := h.opens.trans h'.value h'.opens
  frozen hlocked := by
    obtain ⟨h0, h1, ht, hb⟩ := h.frozen hlocked
    obtain ⟨h0', h1', ht', hb'⟩ := h'.frozen (by rw [h.unlocked]; exact hlocked)
    exact ⟨h0'.trans h0, h1'.trans h1, ht'.trans ht, fun t => (hb t).trans (hb' t)⟩

/-- What a step does to all pairs. -/
structure Keeps (c c' : Chain) : Prop where
  sound : Sound c'
  advance : ∀ pair p, c.pairs pair = some p →
    ∃ p', c'.pairs pair = some p' ∧ Advance c c' pair p p'
  absent : ∀ pair, c.pairs pair = none → c'.pairs pair = none

theorem Keeps.trans {c'' : Chain} (h : Keeps c c') (h' : Keeps c' c'') : Keeps c c'' where
  sound := h'.sound
  advance pair p hp := by
    obtain ⟨p', hp', hadv⟩ := h.advance pair p hp
    obtain ⟨p'', hp'', hadv'⟩ := h'.advance pair p' hp'
    exact ⟨p'', hp'', hadv.trans hadv'⟩
  absent pair hp := h'.absent pair (h.absent pair hp)

theorem Keeps.refl (hs : Sound c) : Keeps c c where
  sound := hs
  advance _ p hp :=
    ⟨p, hp, rfl, rfl, rfl, .of_eq rfl rfl rfl, .of_eq rfl,
      fun _ => ⟨rfl, rfl, rfl, fun _ => le_rfl⟩⟩
  absent _ hp := hp

/-- One pair acts, any step is taken, and the pair acts again: what is left to show
    is about that pair alone. -/
theorem Keeps.enclose {c₁ c₂ : Chain} (hin : Frame self c c₁) (hmid : Keeps c₁ c₂)
    (hout : Frame self c₂ c') (hp : c.pairs self = some p) (hp' : c'.pairs self = some p')
    (hsound : PairSound c' self p') (hadv : Advance c c' self p p') : Keeps c c' := by
  refine ⟨fun pair q hq => ?_, fun pair q hq => ?_, fun pair hnone => ?_⟩
  · by_cases hne : pair = self
    · subst hne
      obtain rfl := Option.some.inj (hp'.symm.trans hq)
      exact hsound
    · rw [hout.pairs pair hne] at hq
      exact (hmid.sound pair q hq).frame hne hsound.address hout
  · by_cases hne : pair = self
    · subst hne
      obtain rfl := Option.some.inj (hp.symm.trans hq)
      exact ⟨p', hp', hadv⟩
    · rw [← hin.pairs pair hne] at hq
      obtain ⟨q', hq', hmidadv⟩ := hmid.advance pair q hq
      refine ⟨q', by rw [hout.pairs pair hne]; exact hq', ?_⟩
      exact (Advance.of_frame hne hin).trans (hmidadv.trans (.of_frame hne hout))
  · have hne : pair ≠ self := by
      rintro rfl
      rw [hp] at hnone
      cases hnone
    rw [hout.pairs pair hne]
    exact hmid.absent pair (by rw [hin.pairs pair hne]; exact hnone)

/-- One pair acted and is sound afterwards. -/
structure Acts (pair : Address) (c c' : Chain) : Prop where
  frame : Frame pair c c'
  own : ∃ p p', c.pairs pair = some p ∧ c'.pairs pair = some p' ∧ PairSound c' pair p' ∧
    Advance c c' pair p p'

theorem Acts.keeps (hs : Sound c) (h : Acts self c c') : Keeps c c' := by
  obtain ⟨p, p', hp, hp', hsound, hadv⟩ := h.own
  exact .enclose (.refl _ _) (.refl hs) h.frame hp hp' hsound hadv

/-! ## Locked bodies -/

/-- A sound pair whose balances cover its reserves, locked or not. -/
structure Settled (c : Chain) (pair : Address) (p : Pair) : Prop extends PairSound c pair p where
  covered : p.reserve0 ≤ c.tokens.balanceOf p.token0 pair ∧
    p.reserve1 ≤ c.tokens.balanceOf p.token1 pair

theorem Settled.setUnlocked {pair : Address} (h : Settled c pair p) (unlocked : Nat) :
    Settled (c.setPair pair { p with unlocked := unlocked }) pair { p with unlocked := unlocked } where
  address := h.address
  tokens_ne := h.tokens_ne
  token0_ne := h.token0_ne
  token1_ne := h.token1_ne
  allowance := h.allowance
  supply := h.supply
  minimum := h.minimum
  fits := h.fits
  backed _ := h.covered
  covered := h.covered

/-- `_update` settles a pair at balances that it holds. -/
theorem update_settled {balance0 balance1 reserve0 reserve1 : Nat} (hp : c.pairs self = some p)
    (hshares : SharesSound c self p) (hle0 : balance0 ≤ c.tokens.balanceOf p.token0 self)
    (hle1 : balance1 ≤ c.tokens.balanceOf p.token1 self)
    (h : update c self balance0 balance1 reserve0 reserve1 = .ok c') :
    ∃ p', c'.pairs self = some p' ∧ Settled c' self p' ∧ SameShares p p' ∧
      p'.reserve0 = balance0 ∧ p'.reserve1 = balance1 ∧ Frame self c c' := by
  obtain ⟨q, p', hq, hp', hsame, hr0, hr1, hfits, hframe, htokens⟩ := update_spec h
  obtain rfl := Option.some.inj (hp.symm.trans hq)
  have hcovered : p'.reserve0 ≤ c'.tokens.balanceOf p'.token0 self ∧
      p'.reserve1 ≤ c'.tokens.balanceOf p'.token1 self := by
    rw [hsame.token0, hsame.token1, hr0, hr1, htokens]
    exact ⟨hle0, hle1⟩
  refine ⟨p', hp', ?_, hsame, hr0, hr1, hframe⟩
  exact {
    address := hshares.address
    tokens_ne := by rw [hsame.token0, hsame.token1]; exact hshares.tokens_ne
    token0_ne := by rw [hsame.token0]; exact hshares.token0_ne
    token1_ne := by rw [hsame.token1]; exact hshares.token1_ne
    allowance := by rw [htokens]; exact hshares.allowance
    supply := by rw [htokens, hsame.totalSupply]; exact hshares.supply
    minimum := by rw [htokens, hsame.totalSupply]; exact hshares.minimum
    fits := by rw [hr0, hr1]; exact hfits
    backed := fun _ => hcovered
    covered := hcovered }

theorem Settled.emit {pair : Address} (h : Settled c pair p) (log : Log) :
    Settled (c.emit log) pair p where
  address := h.address
  tokens_ne := h.tokens_ne
  token0_ne := h.token0_ne
  token1_ne := h.token1_ne
  allowance := h.allowance
  supply := h.supply
  minimum := h.minimum
  fits := h.fits
  backed := h.backed
  covered := h.covered

/-- What the body of an entry point does to its own pair. -/
structure Body (pair : Address) (c c' : Chain) (p p' : Pair) : Prop where
  frame : Frame pair c c'
  storage : c'.pairs pair = some p'
  settled : Settled c' pair p'
  token0 : p'.token0 = p.token0
  token1 : p'.token1 = p.token1
  value : KeepsValue p p'
  opens : OpensFunded p p'

/-- An entry point acts as its body does, between the two changes of the lock. -/
theorem lock_acts {α : Type} {body : Chain → Exec (Chain × α)} {result : α} (hs : Sound c)
    (hbody : ∀ c₀ p₀ c₁, c₀.pairs self = some p₀ → Settled c₀ self p₀ →
      body c₀ = .ok (c₁, result) → ∃ p₁, Body self c₀ c₁ p₀ p₁)
    (h : lock self body c = .ok (c', result)) : Acts self c c' := by
  obtain ⟨p, c₁, p₁, hp, hopen, hrun, hp₁, rfl⟩ := lock_spec h
  have hsettled : Settled c self p := ⟨hs self p hp, (hs self p hp).backed hopen⟩
  obtain ⟨q, hq⟩ := hbody _ _ c₁ (by simp) (hsettled.setUnlocked 0) hrun
  obtain rfl := Option.some.inj (hp₁.symm.trans hq.storage)
  refine ⟨(Frame.setPair _ _ _).trans (hq.frame.trans (.setPair _ _ _)), p,
    { p₁ with unlocked := 1 }, hp, by simp, (hq.settled.setUnlocked 1).toPairSound, ?_⟩
  exact ⟨hq.token0, hq.token1, hopen.symm, hq.value, hq.opens, fun hlocked => absurd hopen hlocked⟩

end FluxSwapPair
