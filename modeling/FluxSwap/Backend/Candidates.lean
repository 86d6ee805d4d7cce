-- SUMMARY: The candidate paths of GetBestRoute: exactly the direct path and those through one intermediate token, each once.
import FluxSwap.Lib.Selection
import FluxSwap.Backend.Creation

/-!
# Candidate paths

The router graph is stored as one list of neighbours for every token. `buildCandidateTokens`
reads the list of the first token and those of its neighbours. Tokens are texts in normal
form; the lists may hold them in any case and order, and more than once.
-/

namespace Backend

open Text Selection

/-! ## The router graph -/

/-- What the `Get` of a chain and a token answers: a list of neighbours, a text that is no list,
    or nothing, because nothing is stored there or because the `Get` fails. -/
structure RouterGraph where
  stored : Int → Text → Option (Except String (List Text))

/-- `GetTokenNeighbors`. Without an answer there are no neighbours. -/
def RouterGraph.getTokenNeighbors (graph : RouterGraph) (chainID : Int) (token : Text) :
    Except String (List Text) :=
  (graph.stored chainID (normalizeAddress token)).getD (.ok [])

/-- The list of a token names the other one. A blank entry names no token. -/
def RouterGraph.Edge (graph : RouterGraph) (chainID : Int) (token neighbor : Text) : Prop :=
  neighbor ≠ [] ∧ ∃ neighbors, graph.getTokenNeighbors chainID token = .ok neighbors ∧
    ∃ entry ∈ neighbors, normalizeAddress entry = neighbor

/-! ## The tokens of a request -/

/-- The texts of go-ethereum for addresses, in both directions. -/
structure RouteCommon extends Common where
  addressHex : Address → Text

structure RouteRequestTokens where
  requestedTokenIn  : Text
  requestedTokenOut : Text
  executionTokenIn  : Text
  executionTokenOut : Text
  nativeTokenIn     : Bool
  nativeTokenOut    : Bool

def isNativeRouteToken (common : RouteCommon) (token : Text) : Bool :=
  decide (common.hexToAddress (normalizeAddress token) = Address.zero)

def resolveRouteRequestTokens (common : RouteCommon) (tokenIn tokenOut : Text)
    (wethAddress : Address) : Except String RouteRequestTokens :=
  let weth := normalizeAddress (common.addressHex wethAddress)
  if weth = [] ∨ weth = normalizeAddress (common.addressHex Address.zero) then
    .error "weth address is not available"
  else
    let requestedTokenIn := normalizeAddress tokenIn
    let requestedTokenOut := normalizeAddress tokenOut
    let nativeTokenIn := isNativeRouteToken common requestedTokenIn
    let nativeTokenOut := isNativeRouteToken common requestedTokenOut
    .ok { requestedTokenIn, requestedTokenOut
          executionTokenIn := if nativeTokenIn then weth else requestedTokenIn
          executionTokenOut := if nativeTokenOut then weth else requestedTokenOut
          nativeTokenIn, nativeTokenOut }

/-! ## Candidates -/

def containsAddress (items : List Text) (target : Text) : Bool :=
  items.any fun item => decide (normalizeAddress item = target)

/-- `strings.Join(path, "->")`. -/
def pathKey (path : List Text) : Text := List.intercalate ['-', '>'] path

def dedupePaths (paths : List (List Text)) : List (List Text) := dedupeFrom pathKey [] paths

/-- The loop over the neighbours of `tokenIn`. -/
def pathsThrough (graph : RouterGraph) (chainID : Int) (tokenIn tokenOut : Text) :
    List Text → Except String (List (List Text))
  | [] => .ok []
  | neighbor :: rest => do
    let mid := normalizeAddress neighbor
    if mid = [] ∨ mid = tokenOut ∨ mid = tokenIn then
      pathsThrough graph chainID tokenIn tokenOut rest
    else
      let midNeighbors ← graph.getTokenNeighbors chainID mid
      let paths ← pathsThrough graph chainID tokenIn tokenOut rest
      return if containsAddress midNeighbors tokenOut then [tokenIn, mid, tokenOut] :: paths
        else paths

def buildCandidateTokens (graph : RouterGraph) (chainID : Int) (tokenIn tokenOut : Text)
    (maxHops : Nat) : Except String (List (List Text)) := do
  let neighbors ← graph.getTokenNeighbors chainID tokenIn
  let direct := if containsAddress neighbors tokenOut then [[tokenIn, tokenOut]] else []
  if maxHops = 0 then return direct
  else
    let paths ← pathsThrough graph chainID tokenIn tokenOut neighbors
    return dedupePaths (direct ++ paths)

/-! ## Which candidates there are -/

section Paths

variable {graph : RouterGraph} {chainID : Int} {tokenIn tokenOut : Text}

theorem containsAddress_eq_true {items : List Text} {target : Text} :
    containsAddress items target = true ↔ ∃ item ∈ items, normalizeAddress item = target := by
  simp only [containsAddress, List.any_eq_true, decide_eq_true_eq]

theorem edge_iff {neighbors : List Text} {token neighbor : Text}
    (h : graph.getTokenNeighbors chainID token = .ok neighbors) (hne : neighbor ≠ []) :
    graph.Edge chainID token neighbor ↔ containsAddress neighbors neighbor = true := by
  rw [containsAddress_eq_true]
  constructor
  · rintro ⟨-, neighbors', hneighbors', hentry⟩
    obtain rfl := Except.ok.inj (h.symm.trans hneighbors')
    exact hentry
  · exact fun hentry => ⟨hne, neighbors, h, hentry⟩

/-- A token between the two ends. -/
def IsMid (graph : RouterGraph) (chainID : Int) (tokenIn tokenOut mid : Text) : Prop :=
  mid ≠ tokenIn ∧ mid ≠ tokenOut ∧ graph.Edge chainID tokenIn mid ∧
    graph.Edge chainID mid tokenOut

/-- The direct path, or one through one intermediate token. -/
def IsCandidate (graph : RouterGraph) (chainID : Int) (tokenIn tokenOut : Text)
    (path : List Text) : Prop :=
  (graph.Edge chainID tokenIn tokenOut ∧ path = [tokenIn, tokenOut]) ∨
    ∃ mid, IsMid graph chainID tokenIn tokenOut mid ∧ path = [tokenIn, mid, tokenOut]

/-- The loop finds the intermediate tokens among the entries that it goes through. -/
theorem mem_pathsThrough (hout : tokenOut ≠ []) {entries : List Text} {paths : List (List Text)}
    (h : pathsThrough graph chainID tokenIn tokenOut entries = .ok paths) (path : List Text) :
    path ∈ paths ↔ ∃ mid, (mid ≠ [] ∧ mid ≠ tokenIn ∧ mid ≠ tokenOut ∧
      (∃ entry ∈ entries, normalizeAddress entry = mid) ∧ graph.Edge chainID mid tokenOut) ∧
      path = [tokenIn, mid, tokenOut] := by
  induction entries generalizing paths with
  | nil =>
    obtain rfl := Except.ok.inj h
    simp
  | cons entry rest ih =>
    unfold pathsThrough at h
    -- a neighbour that is blank or one of the two tokens gives no path
    by_cases hskip : normalizeAddress entry = [] ∨ normalizeAddress entry = tokenOut ∨
        normalizeAddress entry = tokenIn
    · rw [if_pos hskip] at h
      rw [ih h]
      refine exists_congr fun mid => and_congr_left fun _ => ?_
      constructor
      · rintro ⟨hne, hin, hmid, ⟨entry', hentry', hsame⟩, hedge⟩
        exact ⟨hne, hin, hmid, ⟨entry', List.mem_cons_of_mem _ hentry', hsame⟩, hedge⟩
      · rintro ⟨hne, hin, hmid, ⟨entry', hentry', hsame⟩, hedge⟩
        rcases List.mem_cons.mp hentry' with rfl | hentry'
        · rw [hsame] at hskip
          exact (hskip.elim hne fun hskip => hskip.elim hmid hin).elim
        · exact ⟨hne, hin, hmid, ⟨entry', hentry', hsame⟩, hedge⟩
    · rw [if_neg hskip] at h
      obtain ⟨midNeighbors, hneighbors, h⟩ := except_bind_eq_ok.mp h
      obtain ⟨paths', hpaths', h⟩ := except_bind_eq_ok.mp h
      have hedge := edge_iff hneighbors hout
      simp only [not_or] at hskip
      have hsplit : path ∈ paths ↔ (graph.Edge chainID (normalizeAddress entry) tokenOut ∧
          path = [tokenIn, normalizeAddress entry, tokenOut]) ∨ path ∈ paths' := by
        rw [← Except.ok.inj h, hedge]
        split
        · rename_i hcontains
          simp [hcontains]
        · rename_i hcontains
          simp [hcontains]
      rw [hsplit, ih hpaths']
      constructor
      · rintro (⟨hout', rfl⟩ | ⟨mid, ⟨hne, hin, hmid, ⟨entry', hentry', hsame⟩, hout'⟩, rfl⟩)
        · exact ⟨_, ⟨hskip.1, hskip.2.2, hskip.2.1, ⟨entry, List.mem_cons_self, rfl⟩, hout'⟩, rfl⟩
        · exact ⟨mid, ⟨hne, hin, hmid, ⟨entry', List.mem_cons_of_mem _ hentry', hsame⟩, hout'⟩,
            rfl⟩
      · rintro ⟨mid, ⟨hne, hin, hmid, ⟨entry', hentry', rfl⟩, hout'⟩, rfl⟩
        rcases List.mem_cons.mp hentry' with rfl | hentry'
        · exact .inl ⟨hout', rfl⟩
        · exact .inr ⟨_, ⟨hne, hin, hmid, ⟨entry', hentry', rfl⟩, hout'⟩, rfl⟩

/-- The key of a path between two tokens determines it. -/
theorem eq_of_pathKey {path path' : List Text}
    (h : path = [tokenIn, tokenOut] ∨ ∃ mid, mid ≠ [] ∧ path = [tokenIn, mid, tokenOut])
    (h' : path' = [tokenIn, tokenOut] ∨ ∃ mid, mid ≠ [] ∧ path' = [tokenIn, mid, tokenOut])
    (hkey : pathKey path = pathKey path') : path = path' := by
  have hdirect : pathKey [tokenIn, tokenOut] = tokenIn ++ (['-', '>'] ++ tokenOut) := by
    simp [pathKey, List.intercalate]
  have hthrough : ∀ mid, pathKey [tokenIn, mid, tokenOut] =
      tokenIn ++ (['-', '>'] ++ (mid ++ (['-', '>'] ++ tokenOut))) := by
    simp [pathKey, List.intercalate]
  have hlength := congrArg List.length hkey
  rcases h with rfl | ⟨mid, -, rfl⟩ <;> rcases h' with rfl | ⟨mid', -, rfl⟩
  · rfl
  · rw [hdirect, hthrough] at hlength
    simp only [List.length_append, List.length_cons, List.length_nil] at hlength
    omega
  · rw [hdirect, hthrough] at hlength
    simp only [List.length_append, List.length_cons, List.length_nil] at hlength
    omega
  · rw [hthrough, hthrough] at hkey
    have hmid := List.append_cancel_left (List.append_cancel_left hkey)
    rw [List.append_cancel_right hmid]

/-- The candidates are the direct path and the paths through one intermediate token, each
    of them once. -/
theorem buildCandidateTokens_eq_ok (hout : tokenOut ≠ []) {paths : List (List Text)}
    (h : buildCandidateTokens graph chainID tokenIn tokenOut 1 = .ok paths) :
    paths.Nodup ∧ ∀ path, path ∈ paths ↔ IsCandidate graph chainID tokenIn tokenOut path := by
  unfold buildCandidateTokens at h
  obtain ⟨neighbors, hneighbors, h⟩ := except_bind_eq_ok.mp h
  dsimp only at h
  rw [if_neg one_ne_zero] at h
  obtain ⟨through, hthrough, h⟩ := except_bind_eq_ok.mp h
  obtain rfl := Except.ok.inj h
  have hedge := edge_iff hneighbors hout
  have hmem : ∀ path, path ∈ (if containsAddress neighbors tokenOut then [[tokenIn, tokenOut]]
      else []) ++ through ↔ IsCandidate graph chainID tokenIn tokenOut path := by
    intro path
    rw [List.mem_append, mem_pathsThrough hout hthrough, IsCandidate, hedge]
    refine or_congr ?_ (exists_congr fun mid => and_congr_left fun _ => ?_)
    · split
      · rename_i hcontains
        simp [hcontains]
      · rename_i hcontains
        simp [hcontains]
    · constructor
      · rintro ⟨hne, hin, hmid, hentry, hout'⟩
        exact ⟨hin, hmid, ⟨hne, neighbors, hneighbors, hentry⟩, hout'⟩
      · rintro ⟨hin, hmid, hfirst, hout'⟩
        exact ⟨hfirst.1, hin, hmid,
          containsAddress_eq_true.mp ((edge_iff hneighbors hfirst.1).mp hfirst), hout'⟩
  -- paths of these two shapes are the same if their keys are
  have hshape : ∀ path, IsCandidate graph chainID tokenIn tokenOut path →
      path = [tokenIn, tokenOut] ∨ ∃ mid, mid ≠ [] ∧ path = [tokenIn, mid, tokenOut] := by
    rintro path (⟨-, rfl⟩ | ⟨mid, hmid, rfl⟩)
    · exact .inl rfl
    · exact .inr ⟨mid, hmid.2.2.1.1, rfl⟩
  constructor
  · exact List.Nodup.of_map pathKey (nodup_map_dedupeFrom pathKey [] _)
  · intro path
    unfold dedupePaths
    rw [mem_dedupeFrom, hmem]
    · exact and_iff_left List.not_mem_nil
    · intro x hx y hy
      exact eq_of_pathKey (hshape x ((hmem x).mp hx)) (hshape y ((hmem y).mp hy))

end Paths

end Backend
