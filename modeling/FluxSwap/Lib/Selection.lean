-- SUMMARY: Lists without repeated keys, the row of a key, and the first element of a stable sort.
import Mathlib.Data.List.Sort

/-!
# Selection

A list of candidates is freed of those whose key has come before, sorted by a rank, and its
first element taken. The keys decide what is kept; the first element of the sorted list has
the least rank, whatever the order of the candidates was.
-/

namespace Selection

/-! ## Keys -/

section Keys

variable {α κ : Type*} [DecidableEq κ] {key : α → κ} {seen : List κ} {xs : List α} {x : α}

/-- The elements whose key is not in `seen` and has not come before. -/
def dedupeFrom (key : α → κ) (seen : List κ) : List α → List α
  | [] => []
  | x :: xs =>
    if key x ∈ seen then dedupeFrom key seen xs
    else x :: dedupeFrom key (key x :: seen) xs

theorem mem_of_mem_dedupeFrom (h : x ∈ dedupeFrom key seen xs) : x ∈ xs ∧ key x ∉ seen := by
  induction xs generalizing seen with
  | nil => cases h
  | cons y ys ih =>
    unfold dedupeFrom at h
    split at h
    · exact ⟨List.mem_cons_of_mem y (ih h).1, (ih h).2⟩
    · rename_i hfresh
      rcases List.mem_cons.mp h with rfl | h
      · exact ⟨List.mem_cons_self, hfresh⟩
      · exact ⟨List.mem_cons_of_mem y (ih h).1, fun hx => (ih h).2 (List.mem_cons_of_mem _ hx)⟩

theorem key_mem_dedupeFrom (hx : x ∈ xs) (hseen : key x ∉ seen) :
    ∃ y ∈ dedupeFrom key seen xs, key y = key x := by
  induction xs generalizing seen with
  | nil => cases hx
  | cons y ys ih =>
    unfold dedupeFrom
    by_cases hy : key y ∈ seen
    · rw [if_pos hy]
      rcases List.mem_cons.mp hx with rfl | hx
      · exact absurd hy hseen
      · exact ih hx hseen
    · rw [if_neg hy]
      by_cases hsame : key x = key y
      · exact ⟨y, List.mem_cons_self, hsame.symm⟩
      · rcases List.mem_cons.mp hx with rfl | hx
        · exact absurd rfl hsame
        · have hseen' : key x ∉ key y :: seen := fun h => (List.mem_cons.mp h).elim hsame hseen
          obtain ⟨z, hz, hkey⟩ := ih hx hseen'
          exact ⟨z, List.mem_cons_of_mem y hz, hkey⟩

/-- Where a key determines the element, nothing is lost. -/
theorem mem_dedupeFrom (hkey : ∀ x ∈ xs, ∀ y ∈ xs, key x = key y → x = y) :
    x ∈ dedupeFrom key seen xs ↔ x ∈ xs ∧ key x ∉ seen := by
  refine ⟨mem_of_mem_dedupeFrom, fun ⟨hx, hseen⟩ => ?_⟩
  obtain ⟨y, hy, hsame⟩ := key_mem_dedupeFrom hx hseen
  rw [← hkey y (mem_of_mem_dedupeFrom hy).1 x hx hsame]
  exact hy

theorem nodup_map_dedupeFrom (key : α → κ) (seen : List κ) (xs : List α) :
    ((dedupeFrom key seen xs).map key).Nodup := by
  induction xs generalizing seen with
  | nil => exact List.nodup_nil
  | cons x xs ih =>
    unfold dedupeFrom
    split
    · exact ih seen
    · rw [List.map_cons, List.nodup_cons]
      refine ⟨?_, ih _⟩
      intro hmem
      obtain ⟨y, hy, hsame⟩ := List.mem_map.mp hmem
      exact (mem_of_mem_dedupeFrom hy).2 (hsame ▸ List.mem_cons_self)

end Keys

/-! ## Rows -/

section Rows

variable {α κ : Type*} [DecidableEq κ] {key : α → κ} {xs : List α} {x : α}

/-- The row of a key, where no two rows have the same. -/
theorem find?_of_mem (hnodup : (xs.map key).Nodup) (hx : x ∈ xs) :
    xs.find? (fun y => key y = key x) = some x := by
  obtain ⟨y, hy⟩ : ∃ y, xs.find? (fun y => key y = key x) = some y :=
    Option.isSome_iff_exists.mp (List.find?_isSome.mpr ⟨x, hx, by simp⟩)
  have hkey : key y = key x := by simpa using List.find?_some hy
  rw [hy, List.inj_on_of_nodup_map hnodup (List.mem_of_find?_eq_some hy) hx hkey]

theorem filter_of_mem (hnodup : (xs.map key).Nodup) (hx : x ∈ xs) :
    xs.filter (fun y => key y = key x) = [x] := by
  induction xs with
  | nil => cases hx
  | cons y ys ih =>
    obtain ⟨hfresh, hnodup⟩ := List.nodup_cons.mp hnodup
    rcases List.mem_cons.mp hx with rfl | hx
    · have hothers : ys.filter (fun y => key y = key x) = [] := by
        rw [List.filter_eq_nil_iff]
        intro z hz hkey
        exact hfresh (of_decide_eq_true hkey ▸ List.mem_map_of_mem hz)
      rw [List.filter_cons, if_pos (decide_eq_true rfl), hothers]
    · have hne : key y ≠ key x := fun hkey => hfresh (hkey ▸ List.mem_map_of_mem hx)
      rw [List.filter_cons, if_neg (fun h => hne (of_decide_eq_true h)), ih hnodup hx]

end Rows

/-! ## Ranks -/

section Ranks

variable {α β : Type*} {less : α → α → Bool} {xs : List α} {x : α}

/-- A stable sort by a strict order of the elements. -/
def stableSort (less : α → α → Bool) (xs : List α) : List α := xs.mergeSort fun a b => !less b a

theorem mem_stableSort : x ∈ stableSort less xs ↔ x ∈ xs := List.mem_mergeSort

/-- The sort puts the ranks in order. -/
theorem pairwise_stableSort [LinearOrder β] {rank : α → β}
    (hless : ∀ a b, less a b = true ↔ rank a < rank b) (xs : List α) :
    (stableSort less xs).Pairwise fun a b => rank a ≤ rank b := by
  have hle : ∀ a b, (!less b a) = true ↔ rank a ≤ rank b := by
    intro a b
    rw [Bool.not_eq_true', ← Bool.not_eq_true, hless, not_lt]
  have hsorted : (stableSort less xs).Pairwise fun a b => (!less b a) = true := by
    refine List.pairwise_mergeSort ?_ ?_ xs
    · intro a b c hab hbc
      exact (hle a c).mpr (((hle a b).mp hab).trans ((hle b c).mp hbc))
    · intro a b
      rw [Bool.or_eq_true, hle, hle]
      exact le_total (rank a) (rank b)
  exact hsorted.imp fun h => (hle _ _).mp h

/-- The first element after the sort has the least rank. -/
theorem head_stableSort [LinearOrder β] {rank : α → β}
    (hless : ∀ a b, less a b = true ↔ rank a < rank b)
    (hx : (stableSort less xs).head? = some x) : x ∈ xs ∧ ∀ y ∈ xs, rank x ≤ rank y := by
  have hsorted := pairwise_stableSort hless xs
  obtain ⟨rest, hrest⟩ := List.head?_eq_some_iff.mp hx
  rw [hrest, List.pairwise_cons] at hsorted
  constructor
  · apply mem_stableSort.mp
    rw [hrest]
    exact List.mem_cons_self
  · intro y hy
    have hy' : y ∈ stableSort less xs := mem_stableSort.mpr hy
    rw [hrest] at hy'
    rcases List.mem_cons.mp hy' with rfl | hy
    · exact le_rfl
    · exact hsorted.1 y hy

end Ranks

end Selection
