-- SUMMARY: Removing liquidity through the router: the LP is burned, the two parts of the pair's balances go to the receiver, nobody else gains or loses, and nothing stays with the router.
import FluxSwap.Amm.Provision
import FluxSwap.Amm.RoundTrip

/-!
# Removing liquidity

`removeLiquidity` sends the caller's LP to the pair and burns what the pair then holds of it;
`removeLiquidityETH` lets the pair pay the router, which passes the token on and unwraps the
WETH. Both exist with a permit for the LP before. The pair burns its own LP too, so LP that
somebody has sent to the pair is redeemed by the next caller.
-/

open Exec

namespace FluxSwapRouter

/-! ## The entry points -/

structure RemoveLiquidityParams where
  tokenA     : Address
  tokenB     : Address
  liquidity  : Nat
  amountAMin : Nat
  amountBMin : Nat
  dst        : Address

structure RemoveLiquidityETHParams where
  token          : Address
  liquidity      : Nat
  amountTokenMin : Nat
  amountETHMin   : Nat
  dst            : Address

/-- The signature of a removal with a permit; `recovered` is what `ECDSA.recover` returns. -/
structure LiquidityPermit where
  approveMax : Bool
  recovered  : Address

/-- `_removeLiquidity`. -/
def RemoveLiquidityParams.run (params : RemoveLiquidityParams) (router sender : Address)
    (c : Chain) : Exec (Chain × Nat × Nat) := do
  let pair := c.getPair params.tokenA params.tokenB
  let c ← safeTransferFrom router pair sender pair params.liquidity c
  let (c, amount0, amount1) ← FluxSwapPair.burn pair router params.dst c
  let (token0, _) ← sortTokens params.tokenA params.tokenB
  let (amountA, amountB) :=
    if params.tokenA = token0 then (amount0, amount1) else (amount1, amount0)
  require (params.amountAMin ≤ amountA) "FluxSwapRouter: INSUFFICIENT_A_AMOUNT"
  require (params.amountBMin ≤ amountB) "FluxSwapRouter: INSUFFICIENT_B_AMOUNT"
  pure (c, amountA, amountB)

def removeLiquidity (router sender : Address) (params : RemoveLiquidityParams) (deadline : Nat)
    (c : Chain) : Exec (Chain × Nat × Nat) := do
  ensure c deadline
  params.run router sender c

/-- `TransferHelper.safeTransfer`, called by the router. -/
def safeTransfer (router token dst : Address) (value : Nat) (c : Chain) : Exec Chain :=
  match c.transfer token router dst value with
  | some c' => .ok c'
  | none => .error (.message "TransferHelper: TRANSFER_FAILED")

/-- What `_removeLiquidityETH` asks of `_removeLiquidity`. -/
def RemoveLiquidityETHParams.inTokens (params : RemoveLiquidityETHParams) (router WETH : Address) :
    RemoveLiquidityParams where
  tokenA := params.token
  tokenB := WETH
  liquidity := params.liquidity
  amountAMin := params.amountTokenMin
  amountBMin := params.amountETHMin
  dst := router

/-- `_removeLiquidityETH`. -/
def RemoveLiquidityETHParams.run (params : RemoveLiquidityETHParams) (receive : Receivers)
    (router WETH sender : Address) (c : Chain) : Exec (Chain × Nat × Nat) := do
  let (c, amountToken, amountETH) ← (params.inTokens router WETH).run router sender c
  let c ← safeTransfer router params.token params.dst amountToken c
  let c ← Weth.withdraw receive WETH router amountETH c
  let c ← Chain.sendETH receive router params.dst amountETH c
  pure (c, amountToken, amountETH)

def removeLiquidityETH (receive : Receivers) (router WETH sender : Address)
    (params : RemoveLiquidityETHParams) (deadline : Nat) (c : Chain) :
    Exec (Chain × Nat × Nat) := do
  ensure c deadline
  params.run receive router WETH sender c

/-- `_permitLiquidity`. -/
def permitLiquidity (router sender tokenA tokenB : Address) (liquidity deadline : Nat)
    (permit : LiquidityPermit) (c : Chain) : Exec Chain := do
  let pair := c.getPair tokenA tokenB
  let value := if permit.approveMax then Uint256.max else liquidity
  FluxSwapERC20.permit c pair sender router value deadline permit.recovered

def removeLiquidityWithPermit (router sender : Address) (params : RemoveLiquidityParams)
    (permit : LiquidityPermit) (deadline : Nat) (c : Chain) : Exec (Chain × Nat × Nat) := do
  ensure c deadline
  let c ← permitLiquidity router sender params.tokenA params.tokenB params.liquidity deadline permit c
  params.run router sender c

def removeLiquidityETHWithPermit (receive : Receivers) (router WETH sender : Address)
    (params : RemoveLiquidityETHParams) (permit : LiquidityPermit) (deadline : Nat) (c : Chain) :
    Exec (Chain × Nat × Nat) := do
  ensure c deadline
  let c ← permitLiquidity router sender params.token WETH params.liquidity deadline permit c
  params.run receive router WETH sender c

/-- A call that removes liquidity, with a permit or without. -/
inductive Removal
  | tokens (params : RemoveLiquidityParams) (permit : Option LiquidityPermit)
  | withETH (params : RemoveLiquidityETHParams) (permit : Option LiquidityPermit)

namespace Removal

def run (k : Site) (sender : Address) (deadline : Nat) (c : Chain) :
    Removal → Exec (Chain × Nat × Nat)
  | .tokens params none => removeLiquidity k.router sender params deadline c
  | .tokens params (some permit) =>
    removeLiquidityWithPermit k.router sender params permit deadline c
  | .withETH params none =>
    removeLiquidityETH k.receiveETH k.router k.WETH sender params deadline c
  | .withETH params (some permit) =>
    removeLiquidityETHWithPermit k.receiveETH k.router k.WETH sender params permit deadline c

def tokenA : Removal → Address
  | .tokens params _ => params.tokenA
  | .withETH params _ => params.token

def tokenB (k : Site) : Removal → Address
  | .tokens params _ => params.tokenB
  | .withETH _ _ => k.WETH

def liquidity : Removal → Nat
  | .tokens params _ => params.liquidity
  | .withETH params _ => params.liquidity

def dst : Removal → Address
  | .tokens params _ => params.dst
  | .withETH params _ => params.dst

/-- What the receiver gets for the second token. -/
def gotB : Removal → Asset
  | .tokens params _ => .token params.tokenB
  | .withETH _ _ => .eth

/-- Each amount is at least its minimum. -/
def Bounded (x y : Nat) : Removal → Prop
  | .tokens params _ => params.amountAMin ≤ x ∧ params.amountBMin ≤ y
  | .withETH params _ => params.amountTokenMin ≤ x ∧ params.amountETHMin ≤ y

/-- The ETH that the receiver is sent last. -/
def handsOver (y : Nat) : Removal → Option (Address × Nat)
  | .tokens _ _ => none
  | .withETH params _ => some (params.dst, y)

end Removal

/-! ## The burn -/

section

variable {c c' : Chain} {k : Site} {sender pair : Address} {p : Pair}

/-- `burn` of a pair, for all the LP that the pair holds: the payments, the supply and the
    reserves. -/
theorem burn_effect {dst : Address} {x0 x1 : Nat} (hp : c.pairs pair = some p)
    (h : FluxSwapPair.burn pair sender dst c = .ok (c', x0, x1)) :
    c'.eth = c.eth ∧
    (∀ t a, c'.tokens.balanceOf t a +
        (if t = pair ∧ a = pair then c.tokens.balanceOf pair pair else 0) +
        (if t = p.token0 ∧ a = pair then x0 else 0) +
        (if t = p.token1 ∧ a = pair then x1 else 0) =
      c.tokens.balanceOf t a + (if t = p.token0 ∧ a = dst then x0 else 0) +
        if t = p.token1 ∧ a = dst then x1 else 0) ∧
    ∃ p', FluxSwapPair.Balanced c' pair p' ∧
      p'.totalSupply + c.tokens.balanceOf pair pair = p.totalSupply := by
  obtain ⟨q, c₁, p₁, hq, -, hbody, hp₁, rfl⟩ := FluxSwapPair.lock_spec h
  obtain rfl := Option.some.inj (hp.symm.trans hq)
  simp only [bind_eq_ok, Chain.pairAt_eq_ok, Chain.setPair_pairs, Function.update_self,
    Option.some.injEq, pure_eq_ok, Prod.mk.injEq] at hbody
  obtain ⟨_, rfl, _, -, y0, -, _, -, y1, -, _, -, c₂, hburn, c₃, hpay0, c₄, hpay1, c₅, hupdate, rfl,
    rfl, rfl⟩ := hbody
  obtain ⟨q, hq, hown, hsupply, hframe₂, hp₂, htokens₂⟩ := FluxSwapPair.lpBurn_spec hburn
  obtain rfl : ({ p with unlocked := 0 } : Pair) = q := by
    simpa using hq
  obtain ⟨⟨hle0, -⟩, rfl⟩ := Chain.transfer_eq_some.mp (FluxSwapPair.safeTransfer_eq_ok.mp hpay0)
  obtain ⟨⟨hle1, -⟩, rfl⟩ := Chain.transfer_eq_some.mp (FluxSwapPair.safeTransfer_eq_ok.mp hpay1)
  obtain ⟨p₄, p₅, hp₄, hp₅, hsame, hr0, hr1, -, hframe, htokens₅⟩ := FluxSwapPair.update_spec hupdate
  obtain rfl := Option.some.inj (hp₁.symm.trans hp₅)
  obtain rfl := Option.some.inj (hp₂.symm.trans hp₄)
  -- the LP is burned, then each token is paid
  have hburned := c.tokens.balanceOf_debit_add pair pair (c.tokens.balanceOf pair pair) le_rfl
  have hpaid0 := c₂.tokens.balanceOf_move_add p.token0 pair dst y0 hle0
  have hpaid1 := (c₂.tokens.move p.token0 pair dst y0).balanceOf_move_add p.token1 pair dst y1 hle1
  have htokens : c₅.tokens = (c₂.tokens.move p.token0 pair dst y0).move p.token1 pair dst y1 :=
    htokens₅
  have hlp : c₂.tokens.balanceOf = (c.tokens.debit pair pair (c.tokens.balanceOf pair pair)).balanceOf :=
    congrArg _ htokens₂
  refine ⟨hframe.env.eth.trans hframe₂.env.eth, fun t a => ?_, { p₁ with unlocked := 1 },
    ⟨by simp, ?_, ?_⟩, ?_⟩
  · have h0 := hpaid0 t a
    have h1 := hpaid1 t a
    have hb := hburned t a
    rw [← hlp] at hb
    simp only [Chain.setPair_tokens, Chain.emit_tokens, htokens]
    omega
  · show c₅.tokens.balanceOf p₁.token0 pair = p₁.reserve0
    rw [hsame.token0, hr0, htokens₅]
  · show c₅.tokens.balanceOf p₁.token1 pair = p₁.reserve1
    rw [hsame.token1, hr1, htokens₅]
  · show p₁.totalSupply + _ = _
    rw [hsame.totalSupply]
    exact Nat.sub_add_cancel hsupply

/-- What `_removeLiquidity` redeems: the caller's LP and what the pair holds of its own. -/
def burnt (c : Chain) (pair : Address) (liquidity : Nat) : Nat :=
  c.tokens.balanceOf pair pair + liquidity

/-- A part of what the pair holds of a token, rounded down. -/
def part (c : Chain) (pair : Address) (p : Pair) (liquidity : Nat) (token : Address) : Nat :=
  burnt c pair liquidity * c.tokens.balanceOf token pair / p.totalSupply

/-- The pair burned the LP of the caller and its own, and paid the two amounts. -/
structure Redeemed (tokenA tokenB sender dst pair : Address) (liquidity x y : Nat) (p : Pair)
    (c c' : Chain) : Prop where
  eth : c'.eth = c.eth
  enough : liquidity ≤ c.tokens.balanceOf pair sender
  balances : ∀ t a, c'.tokens.balanceOf t a +
      (if t = pair ∧ a = sender then liquidity else 0) +
      (if t = pair ∧ a = pair then c.tokens.balanceOf pair pair else 0) +
      (if t = tokenA ∧ a = pair then x else 0) + (if t = tokenB ∧ a = pair then y else 0) =
    c.tokens.balanceOf t a + (if t = tokenA ∧ a = dst then x else 0) +
      if t = tokenB ∧ a = dst then y else 0
  storage : ∃ p', FluxSwapPair.Balanced c' pair p' ∧
    p'.totalSupply + burnt c pair liquidity = p.totalSupply

theorem removeLiquidity_redeems {params : RemoveLiquidityParams} {router : Address} {x y : Nat}
    (hpair : PairOf c params.tokenA params.tokenB p)
    (hdistinct : FluxSwapPair.Distinct (c.getPair params.tokenA params.tokenB) p)
    (hsender : sender ≠ c.getPair params.tokenA params.tokenB)
    (h : params.run router sender c = .ok (c', x, y)) :
    (params.amountAMin ≤ x ∧ params.amountBMin ≤ y) ∧
    x = part c (c.getPair params.tokenA params.tokenB) p params.liquidity params.tokenA ∧
    y = part c (c.getPair params.tokenA params.tokenB) p params.liquidity params.tokenB ∧
    Redeemed params.tokenA params.tokenB sender params.dst
      (c.getPair params.tokenA params.tokenB) params.liquidity x y p c c' := by
  generalize hpairEq : c.getPair params.tokenA params.tokenB = pair at hdistinct hsender ⊢
  simp only [RemoveLiquidityParams.run, bind_eq_ok, require_eq_ok, pure_eq_ok, Prod.mk.injEq,
    hpairEq] at h
  obtain ⟨c₁, hpay, ⟨c₂, x0, x1⟩, hburn, ⟨token0, _⟩, hsort, _, hminA, _, hminB, rfl, hx, hy⟩ := h
  dsimp only at hburn hx hy hminA hminB
  have hquiet := Chain.transferFrom_quiet (safeTransferFrom_eq_ok.mp hpay)
  have hmoved := Chain.transferFrom_spec (safeTransferFrom_eq_ok.mp hpay)
  obtain ⟨heth₁, -, hadd⟩ := safeTransferFrom_adds hpay
  have hp : c.pairs pair = some p := hpairEq ▸ hpair.storage
  have hp₁ : c₁.pairs pair = some p := by
    rw [hquiet.pairs]
    exact hp
  -- the LP that the pair holds when it burns, and the two tokens, which it holds as before
  have hown : c₁.tokens.balanceOf pair pair = burnt c pair params.liquidity := by
    have hlp := hadd pair pair
    simp only [true_and, hsender.symm, if_true, if_false] at hlp
    exact hlp
  have hheld : ∀ t, t ≠ pair → c₁.tokens.balanceOf t pair = c.tokens.balanceOf t pair := by
    intro t ht
    have hother := hadd t pair
    simpa [ht] using hother
  obtain ⟨heth₂, hbalances, p', hbalanced, hsupply⟩ := burn_effect hp₁ hburn
  obtain ⟨hx0, hx1⟩ := FluxSwapPair.burn_amounts hp₁ hburn
  rw [hown, hheld _ hdistinct.token0_ne] at hx0
  rw [hown, hheld _ hdistinct.token1_ne] at hx1
  rw [hown] at hbalances hsupply
  have htoken0 : token0 = if params.tokenA < params.tokenB then params.tokenA else params.tokenB := by
    simp only [sortTokens, bind_eq_ok, pure_eq_ok, Prod.mk.injEq] at hsort
    obtain ⟨_, -, _, -, rfl, -⟩ := hsort
    split <;> rfl
  have hne : params.tokenA ≠ params.tokenB := by
    simp only [sortTokens, bind_eq_ok, require_eq_ok] at hsort
    exact hsort.choose_spec.1
  have hsorted := hpair.sorted
  have heffect : ∀ t a, c₂.tokens.balanceOf t a +
      (if t = pair ∧ a = sender then params.liquidity else 0) +
      (if t = pair ∧ a = pair then c.tokens.balanceOf pair pair else 0) +
      (if t = p.token0 ∧ a = pair then x0 else 0) + (if t = p.token1 ∧ a = pair then x1 else 0) =
    c.tokens.balanceOf t a + (if t = p.token0 ∧ a = params.dst then x0 else 0) +
      if t = p.token1 ∧ a = params.dst then x1 else 0 := by
    intro t a
    have hfirst := hadd t a
    have hsecond := hbalances t a
    unfold burnt at hsecond
    by_cases hlp : t = pair ∧ a = pair
    · simp only [hlp, and_self, if_true] at hfirst hsecond ⊢
      omega
    · simp only [hlp, if_false] at hfirst hsecond ⊢
      omega
  by_cases hlt : params.tokenA < params.tokenB
  · rw [if_pos hlt] at htoken0 hsorted
    obtain ⟨h0, h1⟩ := Prod.mk.inj hsorted
    rw [if_pos htoken0.symm] at hx hy hminA hminB
    obtain ⟨rfl, rfl⟩ : x0 = x ∧ x1 = y := ⟨hx, hy⟩
    rw [h0, h1] at heffect
    refine ⟨⟨hminA, hminB⟩, ?_, ?_, heth₂.trans heth₁, hmoved.enough, heffect, p', hbalanced, hsupply⟩
    · rw [hx0, h0, part]
    · rw [hx1, h1, part]
  · rw [if_neg hlt] at htoken0 hsorted
    obtain ⟨h0, h1⟩ := Prod.mk.inj hsorted
    have hother : params.tokenA ≠ token0 := fun h => hne (h.trans htoken0)
    rw [if_neg hother] at hx hy hminA hminB
    obtain ⟨rfl, rfl⟩ : x1 = x ∧ x0 = y := ⟨hx, hy⟩
    rw [h0, h1] at heffect
    refine ⟨⟨hminA, hminB⟩, ?_, ?_, heth₂.trans heth₁, hmoved.enough, fun t a => ?_, p', hbalanced,
      hsupply⟩
    · rw [hx1, h1, part]
    · rw [hx0, h0, part]
    · have hpaid := heffect t a
      dsimp only
      omega

/-! ## The calls -/

/-- The router is neither WETH nor the pair, the caller is neither the router nor the pair, and
    ETH is sent neither to WETH nor to the pair. -/
structure Remover (k : Site) (call : Removal) (sender pair : Address) : Prop where
  router_weth : k.router ≠ k.WETH
  router_pair : k.router ≠ pair
  sender_router : sender ≠ k.router
  sender_pair : sender ≠ pair
  dst_weth : call.gotB = .eth → call.dst ≠ k.WETH
  dst_pair : call.gotB = .eth → call.dst ≠ pair

/-- Of every asset: the caller paid the LP, the pair paid its own LP and the two amounts, the
    receiver got these; nobody else, apart from WETH with the ETH behind it, gained or lost
    anything. -/
def Removed (k : Site) (call : Removal) (pair sender : Address) (x y : Nat) (c c' : Chain) : Prop :=
  ∀ asset a, (asset = .eth → a ≠ k.WETH) →
    c'.holding a asset +
        (if asset = .token pair ∧ a = sender then call.liquidity else 0) +
        (if asset = .token pair ∧ a = pair then c.tokens.balanceOf pair pair else 0) +
        (if asset = .token call.tokenA ∧ a = pair then x else 0) +
        (if asset = .token (call.tokenB k) ∧ a = pair then y else 0) =
      c.holding a asset + (if asset = .token call.tokenA ∧ a = call.dst then x else 0) +
        if asset = call.gotB ∧ a = call.dst then y else 0

theorem safeTransfer_eq_some {router token dst : Address} {value : Nat} :
    safeTransfer router token dst value c = .ok c' ↔ c.transfer token router dst value = some c' := by
  unfold safeTransfer
  split <;> simp_all

/-- The end of `_removeLiquidityETH`: what the pair paid to the router goes on to the receiver. -/
theorem Redeemed.unwrapped {params : RemoveLiquidityETHParams} {permit : Option LiquidityPermit}
    {x y : Nat} {c₁ c₂ c₃ : Chain}
    (h : Redeemed params.token k.WETH sender k.router pair params.liquidity x y p c c₁)
    (hremover : Remover k (.withETH params permit) sender pair)
    (hpay : safeTransfer k.router params.token params.dst x c₁ = .ok c₂)
    (hwithdraw : Weth.withdraw k.receiveETH k.WETH k.router y c₂ = .ok c₃)
    (hsend : Chain.sendETH k.receiveETH k.router params.dst y c₃ = .ok c') :
    ∃ c₄, c₄.pairs = c₁.pairs ∧ Removed k (.withETH params permit) pair sender x y c c₄ ∧
      k.receivers k.router params.dst y c₄ = .ok c' := by
  obtain ⟨⟨henough, -⟩, rfl⟩ := Chain.transfer_eq_some.mp (safeTransfer_eq_some.mp hpay)
  simp only [Weth.withdraw, bind_eq_ok, require_eq_ok] at hwithdraw
  obtain ⟨_, hdrawn, hwithdraw⟩ := hwithdraw
  obtain ⟨hbacked, rfl⟩ := sendETH_router hremover.router_weth hwithdraw
  have hweth : params.dst ≠ k.WETH := hremover.dst_weth rfl
  -- the router does not take ETH from itself
  have hrouter : params.dst ≠ k.router := by
    intro heq
    obtain ⟨-, hreceive⟩ := Chain.sendETH_eq_ok.mp hsend
    simp only [Site.receiveETH, if_neg hweth, if_pos heq, receive, bind_eq_ok,
      require_eq_ok] at hreceive
    exact hremover.router_weth hreceive.choose_spec.1
  obtain ⟨hheld, hreceive⟩ := sendETH_other hweth hrouter hsend
  refine ⟨_, ?_, ?_, hreceive⟩
  · rfl
  · intro asset a hnotWeth
    cases asset with
    | eth =>
      have hfirst : _ + _ = c₁.eth a + _ := Chain.moveETH_add k.router hbacked a
      have hsecond := Chain.moveETH_add params.dst hheld a
      rw [if_neg (hnotWeth rfl), h.eth] at hfirst
      simp only [Chain.holding, Removal.gotB, Removal.dst, reduceCtorEq, false_and, if_false,
        true_and, Nat.add_zero]
      omega
    | token t =>
      have hgot := h.balances t a
      have hpaid := c₁.tokens.balanceOf_move_add params.token k.router params.dst x henough t a
      have hdebit := (c₁.tokens.move params.token k.router params.dst x).balanceOf_debit_add k.WETH
        k.router y hdrawn t a
      simp only [Chain.holding, Removal.gotB, Removal.dst, Removal.tokenA, Removal.tokenB,
        Removal.liquidity, Asset.token.injEq, reduceCtorEq, false_and, if_false, Nat.add_zero]
      show ((c₁.tokens.move params.token k.router params.dst x).debit k.WETH k.router y).balanceOf t a
        + _ + _ + _ + _ = _
      omega

/-! ## The permit before a call -/

/-- A permit of a pair's LP: of the pair only the nonces change, and no balance. -/
structure Permitted (pair : Address) (c c' : Chain) : Prop where
  eth : c'.eth = c.eth
  getPair : c'.getPair = c.getPair
  balanceOf : c'.tokens.balanceOf = c.tokens.balanceOf
  storage : ∀ p, c.pairs pair = some p →
    ∃ nonces, c'.pairs pair = some { p with nonces := nonces }

theorem Permitted.refl (pair : Address) (c : Chain) : Permitted pair c c :=
  ⟨rfl, rfl, rfl, fun p hp => ⟨p.nonces, hp⟩⟩

theorem permitLiquidity_permits {router tokenA tokenB : Address} {liquidity deadline : Nat}
    {permit : LiquidityPermit}
    (h : permitLiquidity router sender tokenA tokenB liquidity deadline permit c = .ok c') :
    Permitted (c.getPair tokenA tokenB) c c' := by
  simp only [permitLiquidity, FluxSwapERC20.permit, bind_eq_ok, Chain.pairAt_eq_ok] at h
  obtain ⟨_, -, p, hp, nonce, -, _, -, happrove⟩ := h
  simp only [FluxSwapERC20.approve, bind_eq_ok, pure_eq_ok] at happrove
  obtain ⟨_, -, _, -, rfl⟩ := happrove
  refine ⟨rfl, rfl, rfl, fun q hq => ?_⟩
  obtain rfl := Option.some.inj (hp.symm.trans hq)
  refine ⟨Function.update p.nonces sender nonce, ?_⟩
  show Function.update c.pairs _ _ _ = _
  rw [Function.update_self]

theorem tokens_run {params : RemoveLiquidityParams} {permit : Option LiquidityPermit}
    {deadline : Nat} {r : Chain × Nat × Nat}
    (h : (Removal.tokens params permit).run k sender deadline c = .ok r) :
    ∃ c₀, Permitted (c.getPair params.tokenA params.tokenB) c c₀ ∧
      params.run k.router sender c₀ = .ok r := by
  cases permit with
  | none =>
    obtain ⟨_, -, hrun⟩ := bind_eq_ok.mp h
    exact ⟨c, .refl _ c, hrun⟩
  | some permit =>
    obtain ⟨_, -, h⟩ := bind_eq_ok.mp h
    obtain ⟨c₀, hpermit, hrun⟩ := bind_eq_ok.mp h
    exact ⟨c₀, permitLiquidity_permits hpermit, hrun⟩

theorem withETH_run {params : RemoveLiquidityETHParams} {permit : Option LiquidityPermit}
    {deadline : Nat} {r : Chain × Nat × Nat}
    (h : (Removal.withETH params permit).run k sender deadline c = .ok r) :
    ∃ c₀, Permitted (c.getPair params.token k.WETH) c c₀ ∧
      params.run k.receiveETH k.router k.WETH sender c₀ = .ok r := by
  cases permit with
  | none =>
    obtain ⟨_, -, hrun⟩ := bind_eq_ok.mp h
    exact ⟨c, .refl _ c, hrun⟩
  | some permit =>
    obtain ⟨_, -, h⟩ := bind_eq_ok.mp h
    obtain ⟨c₀, hpermit, hrun⟩ := bind_eq_ok.mp h
    exact ⟨c₀, permitLiquidity_permits hpermit, hrun⟩

/-- `_removeLiquidity` after a permit, compared with the state before it. -/
theorem Permitted.redeems {c₀ : Chain} {params : RemoveLiquidityParams} {router : Address}
    {x y : Nat} (hpermit : Permitted (c.getPair params.tokenA params.tokenB) c c₀)
    (hpair : PairOf c params.tokenA params.tokenB p)
    (hdistinct : FluxSwapPair.Distinct (c.getPair params.tokenA params.tokenB) p)
    (hsender : sender ≠ c.getPair params.tokenA params.tokenB)
    (h : params.run router sender c₀ = .ok (c', x, y)) :
    (params.amountAMin ≤ x ∧ params.amountBMin ≤ y) ∧
    x = part c (c.getPair params.tokenA params.tokenB) p params.liquidity params.tokenA ∧
    y = part c (c.getPair params.tokenA params.tokenB) p params.liquidity params.tokenB ∧
    Redeemed params.tokenA params.tokenB sender params.dst
      (c.getPair params.tokenA params.tokenB) params.liquidity x y p c c' := by
  obtain ⟨nonces, hstorage⟩ := hpermit.storage p hpair.storage
  -- the permit changes allowances and nonces only, which no amount depends on
  have hpair₀ : PairOf c₀ params.tokenA params.tokenB { p with nonces := nonces } :=
    ⟨by rw [hpermit.getPair]; exact hstorage, hpair.sorted⟩
  have hdistinct₀ : FluxSwapPair.Distinct (c₀.getPair params.tokenA params.tokenB)
      { p with nonces := nonces } := by
    rw [hpermit.getPair]
    exact ⟨hdistinct.tokens_ne, hdistinct.token0_ne, hdistinct.token1_ne⟩
  have hsender₀ : sender ≠ c₀.getPair params.tokenA params.tokenB := by
    rw [hpermit.getPair]
    exact hsender
  obtain ⟨hbounds, hx, hy, hredeemed⟩ := removeLiquidity_redeems hpair₀ hdistinct₀ hsender₀ h
  rw [hpermit.getPair] at hx hy hredeemed
  have hburnt : ∀ liquidity, burnt c₀ (c.getPair params.tokenA params.tokenB) liquidity =
      burnt c (c.getPair params.tokenA params.tokenB) liquidity := by
    intro liquidity
    rw [burnt, burnt, hpermit.balanceOf]
  obtain ⟨p', hbalanced, hsupply⟩ := hredeemed.storage
  refine ⟨hbounds, ?_, ?_, hredeemed.eth.trans hpermit.eth, ?_, ?_, p', hbalanced, ?_⟩
  · rw [hx, part, part, hburnt, hpermit.balanceOf]
  · rw [hy, part, part, hburnt, hpermit.balanceOf]
  · rw [← hpermit.balanceOf]
    exact hredeemed.enough
  · intro t a
    have hmoved := hredeemed.balances t a
    rw [hpermit.balanceOf] at hmoved
    exact hmoved
  · rw [← hburnt]
    exact hsupply

/-! ## The result -/

theorem Redeemed.removed {params : RemoveLiquidityParams} {permit : Option LiquidityPermit}
    {x y : Nat} (h : Redeemed params.tokenA params.tokenB sender params.dst pair params.liquidity
      x y p c c') :
    Removed k (.tokens params permit) pair sender x y c c' := by
  intro asset a _
  cases asset with
  | eth => simp [Chain.holding, Removal.gotB, h.eth]
  | token t =>
    have hmoved := h.balances t a
    simp only [Chain.holding, Removal.gotB, Removal.dst, Removal.tokenA, Removal.tokenB,
      Removal.liquidity, Asset.token.injEq]
    exact hmoved

/-- What the router has, unless it is the receiver, is what it had. -/
theorem Removed.of_router {call : Removal} {x y : Nat}
    (h : Removed k call pair sender x y c c') (hremover : Remover k call sender pair)
    (hdst : call.dst ≠ k.router) (asset : Asset) :
    c'.holding k.router asset = c.holding k.router asset := by
  have hrouter := h asset k.router fun _ => hremover.router_weth
  simpa [hremover.router_pair, hremover.sender_router.symm, hdst.symm] using hrouter

/-- The way of the assets from the router to the receiver does not touch the pair. -/
theorem Redeemed.balanced {params : RemoveLiquidityETHParams} {permit : Option LiquidityPermit}
    {x y : Nat} {c₁ c₂ : Chain} {p' : Pair}
    (h : Redeemed params.token k.WETH sender k.router pair params.liquidity x y p c c₁)
    (hremoved : Removed k (.withETH params permit) pair sender x y c c₂)
    (hremover : Remover k (.withETH params permit) sender pair) (hpairs : c₂.pairs = c₁.pairs)
    (hbalanced : FluxSwapPair.Balanced c₁ pair p') : FluxSwapPair.Balanced c₂ pair p' := by
  have hdst : pair ≠ params.dst := (hremover.dst_pair rfl).symm
  have hsame : ∀ t, c₂.tokens.balanceOf t pair = c₁.tokens.balanceOf t pair := by
    intro t
    have hbefore := h.balances t pair
    have hafter := hremoved (.token t) pair (by simp)
    simp only [Chain.holding, Removal.gotB, Removal.dst, Removal.tokenA, Removal.tokenB,
      Removal.liquidity, Asset.token.injEq, reduceCtorEq, if_false, and_true, hdst,
      hremover.router_pair.symm, and_false, Nat.add_zero] at hbefore hafter
    omega
  refine ⟨by rw [hpairs]; exact hbalanced.storage, ?_, ?_⟩
  · rw [hsame]
    exact hbalanced.balance0
  · rw [hsame]
    exact hbalanced.balance1

/-- Every successful call that removes liquidity, with a permit or without, in every state that
    a run of the pairs can reach: the two amounts are the parts, rounded down, that the LP of
    the caller and of the pair itself has of the pair's balances; they are at least the minimums;
    the supply falls by that LP and the reserves are what the pair then holds; the receiver gets
    the amounts, the caller pays the LP, nobody else gains or loses anything and nothing stays
    with the router. Of the code of other accounts only that of the receiver of the ETH runs,
    and it runs last. -/
theorem liquidity_removed {call : Removal} {deadline x y : Nat}
    (hreachable : FluxSwapPair.system.Reachable c)
    (hpair : PairOf c call.tokenA (call.tokenB k) p)
    (hremover : Remover k call sender (c.getPair call.tokenA (call.tokenB k)))
    (h : call.run k sender deadline c = .ok (c', x, y)) :
    call.Bounded x y ∧
    x = part c (c.getPair call.tokenA (call.tokenB k)) p call.liquidity call.tokenA ∧
    y = part c (c.getPair call.tokenA (call.tokenB k)) p call.liquidity (call.tokenB k) ∧
    ∃ c₁, (∃ p', FluxSwapPair.Balanced c₁ (c.getPair call.tokenA (call.tokenB k)) p' ∧
        p'.totalSupply + burnt c (c.getPair call.tokenA (call.tokenB k)) call.liquidity =
          p.totalSupply) ∧
      Removed k call (c.getPair call.tokenA (call.tokenB k)) sender x y c c₁ ∧
      (call.dst ≠ k.router →
        ∀ asset, c₁.holding k.router asset = c.holding k.router asset) ∧
      HandedOver k (call.handsOver y) c₁ c' := by
  have hsound := FluxSwapPair.reachable_sound hreachable _ p hpair.storage
  have hdistinct : FluxSwapPair.Distinct (c.getPair call.tokenA (call.tokenB k)) p :=
    ⟨hsound.tokens_ne, hsound.token0_ne, hsound.token1_ne⟩
  cases call with
  | tokens params permit =>
    obtain ⟨c₀, hpermit, hrun⟩ := tokens_run h
    obtain ⟨hbounds, hx, hy, hredeemed⟩ :=
      hpermit.redeems hpair hdistinct hremover.sender_pair hrun
    have hremoved : Removed k (.tokens params permit) _ sender x y c c' := hredeemed.removed
    exact ⟨hbounds, hx, hy, c', hredeemed.storage, hremoved, hremoved.of_router hremover, rfl⟩
  | withETH params permit =>
    obtain ⟨c₀, hpermit, hrun⟩ := withETH_run h
    simp only [RemoveLiquidityETHParams.run, bind_eq_ok, pure_eq_ok, Prod.mk.injEq] at hrun
    obtain ⟨⟨c₁, x', y'⟩, htokens, c₂, hpay, c₃, hwithdraw, c₄, hsend, rfl, rfl, rfl⟩ := hrun
    dsimp only at hpay hwithdraw hsend
    obtain ⟨hbounds, hx, hy, hredeemed⟩ := @Permitted.redeems _ _ _ _ _ (params.inTokens k.router k.WETH) _ _ _
      hpermit hpair hdistinct hremover.sender_pair htokens
    obtain ⟨p', hbalanced, hsupply⟩ := hredeemed.storage
    obtain ⟨c₅, hpairs, hremoved, hover⟩ :=
      Redeemed.unwrapped hredeemed hremover hpay hwithdraw hsend
    exact ⟨hbounds, hx, hy, c₅,
      ⟨p', hredeemed.balanced hremoved hremover hpairs hbalanced, hsupply⟩, hremoved,
      hremoved.of_router hremover, hover⟩

end

namespace Withdrawal

open FluxSwapPair.Example

/-- Everybody accepts ETH; the second token of the pair is WETH. -/
def site : Site where
  router := 11
  WETH := token1
  receivers _ _ _ c := pure c

def carol : Address := 6

/-- The fresh pair, with ETH behind the WETH. -/
def opening : Chain := { start with eth := fun a => if a = site.WETH then 10 ^ 10 else 0 }

/-- Alice makes the first deposit, of 4000 LP, and sends 1000 LP to the pair. -/
def moves : List FluxSwapPair.Move :=
  [.op (.transfer token0 alice pair 2000), .op (.transfer token1 alice pair 8000),
    .op (.mint pair alice alice), .op (.transfer pair alice pair 1000)]

/-- Alice removes 1000 LP for Carol, with a permit. -/
def call : Removal := .withETH ⟨token0, 1000, 900, 3900, carol⟩ (some ⟨false, alice⟩)

theorem opening_initial : FluxSwapPair.Initial opening := by
  intro a p hp
  obtain ⟨haddress, hne, h0, h1, hr0, hr1, hlock, hsupply, hshares, hallowance⟩ :=
    start_initial a p hp
  exact ⟨haddress, hne, h0, h1, hr0, hr1, hlock, hsupply, hshares, hallowance⟩

/-- The pair's tokens, and what the call returns. -/
def received (c : Chain) : Option (Address × (Address × Address) × Nat × Nat) :=
  match c.pairs pair, call.run site alice 200 c with
  | some p, .ok r => some (c.getPair token0 token1, (p.token0, p.token1), r.2)
  | _, _ => none

end Withdrawal

open FluxSwapPair.Example Withdrawal in
theorem liquidity_removed_withPermit :
    ∃ c c', FluxSwapPair.system.Reachable c ∧
      call.run site alice 200 c = .ok (c', 1000, 4000) ∧ call.Bounded 1000 4000 ∧
      c'.eth carol = c.eth carol + 4000 ∧
      c'.tokens.balanceOf token0 carol = c.tokens.balanceOf token0 carol + 1000 ∧
      c'.tokens.balanceOf pair alice + 1000 = c.tokens.balanceOf pair alice := by
  have hrun : (System.runWith FluxSwapPair.move (fun _ _ => True) opening moves).bind received =
      some (pair, (token0, token1), 1000, 4000) := by
    decide +kernel
  obtain ⟨c, hc, hreceived⟩ := Option.bind_eq_some_iff.mp hrun
  have hreach : FluxSwapPair.system.Reachable c :=
    System.reachableWith_of_runWith (.init opening_initial) hc
  unfold received at hreceived
  split at hreceived
  · rename_i p r hp hcall
    obtain ⟨c', x, y⟩ := r
    simp only [Option.some.injEq, Prod.mk.injEq] at hreceived
    obtain ⟨hgetPair, htokens, rfl, rfl⟩ := hreceived
    have hlisted : c.getPair call.tokenA (call.tokenB site) = pair := hgetPair
    have hpair : PairOf c call.tokenA (call.tokenB site) p := by
      refine ⟨by rw [hlisted]; exact hp, ?_⟩
      rw [Prod.mk.injEq]
      exact htokens
    have hremover : Remover site call alice (c.getPair call.tokenA (call.tokenB site)) := by
      rw [hlisted]
      exact ⟨by decide, by decide, by decide, by decide, fun _ => by decide, fun _ => by decide⟩
    obtain ⟨hbounded, -, -, c₁, -, hremoved, -, hover⟩ :=
      liquidity_removed hreach hpair hremover hcall
    rw [hlisted] at hremoved
    -- everybody accepts ETH, so the state handed over is the last one
    obtain rfl : c' = c₁ := (pure_eq_ok.mp hover).symm
    refine ⟨c, c', hreach, hcall, hbounded, ?_, ?_, ?_⟩
    · exact hremoved .eth carol fun _ => by decide
    · exact hremoved (.token token0) carol (by simp)
    · exact hremoved (.token pair) alice (by simp)
  · cases hreceived

end FluxSwapRouter
