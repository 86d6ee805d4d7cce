-- SUMMARY: Paging through rows by a key: pages that start below the last key of the page before cut the sorted rows.
import FluxSwap.Lib.Selection
import Mathlib.Order.MinMax

/-!
# Keyset pagination

Rows with distinct keys are listed from the largest key down, a page at a time. A page starts
below a cursor, the last key of the page before. Rows that arrive above the cursor do not
disturb the rest of the list.
-/

namespace Keyset

open Selection

variable {α κ : Type*} {key : α → κ} {rows rows' xs : List α}

/-- No two rows have the same key. -/
def Distinct (key : α → κ) (rows : List α) : Prop := (rows.map key).Nodup

theorem Distinct.perm (h : Distinct key rows) (hperm : rows.Perm rows') : Distinct key rows' :=
  (hperm.map key).nodup_iff.mp h

theorem Distinct.sublist (h : Distinct key rows) (hsub : rows'.Sublist rows) :
    Distinct key rows' :=
  List.Nodup.sublist (hsub.map key) h

variable [LinearOrder κ]

/-- The rows from the largest key down. -/
def descending (key : α → κ) (rows : List α) : List α :=
  stableSort (fun a b => decide (key b < key a)) rows

/-- The rows are in order, and no two have the same key. -/
def Falling (key : α → κ) (xs : List α) : Prop := xs.Pairwise fun a b => key b < key a

theorem descending_perm (key : α → κ) (rows : List α) : (descending key rows).Perm rows :=
  List.mergeSort_perm _ _

theorem mem_descending {x : α} : x ∈ descending key rows ↔ x ∈ rows :=
  (descending_perm key rows).mem_iff

theorem length_descending (key : α → κ) (rows : List α) :
    (descending key rows).length = rows.length :=
  (descending_perm key rows).length_eq

theorem falling_descending (h : Distinct key rows) : Falling key (descending key rows) := by
  have hsorted : (descending key rows).Pairwise fun a b => OrderDual.toDual (key a) ≤
      OrderDual.toDual (key b) := by
    refine pairwise_stableSort (fun a b => ?_) rows
    rw [decide_eq_true_eq, OrderDual.toDual_lt_toDual]
  have hdistinct : (descending key rows).Pairwise fun a b => key a ≠ key b :=
    List.pairwise_map.mp (h.perm (descending_perm key rows).symm)
  exact (hsorted.and hdistinct).imp fun ⟨hle, hne⟩ => lt_of_le_of_ne hle hne.symm

/-- Two lists of the same rows in order are the same. -/
theorem Falling.eq_of_perm (h : Falling key xs) (h' : Falling key rows) (hperm : xs.Perm rows) :
    xs = rows :=
  hperm.eq_of_pairwise (fun _ _ _ _ hab hba => absurd hab (lt_asymm hba)) h h'

theorem descending_congr (h : Distinct key rows) (hperm : rows.Perm rows') :
    descending key rows = descending key rows' :=
  (falling_descending h).eq_of_perm (falling_descending (h.perm hperm))
    ((descending_perm key rows).trans (hperm.trans (descending_perm key rows').symm))

theorem descending_filter (p : α → Bool) (h : Distinct key rows) :
    descending key (rows.filter p) = (descending key rows).filter p :=
  (falling_descending (h.sublist List.filter_sublist)).eq_of_perm
    ((falling_descending h).sublist List.filter_sublist)
    ((descending_perm key _).trans ((descending_perm key rows).filter p).symm)

/-! ## Pages -/

/-- The row is below the cursor, if there is one. -/
def below (key : α → κ) (cursor : Option κ) (row : α) : Bool :=
  cursor.all fun c => decide (key row < c)

/-- The rows below a cursor, from the largest key down. -/
def rest (key : α → κ) (cursor : Option κ) (rows : List α) : List α :=
  descending key (rows.filter (below key cursor))

theorem rest_none (key : α → κ) (rows : List α) : rest key none rows = descending key rows := by
  have hall : rows.filter (below key none) = rows := List.filter_eq_self.mpr fun _ _ => rfl
  rw [rest, hall]

/-- Below the last row of the first ones there are the others. -/
theorem filter_below_last {last : α} {limit : Nat} (h : Falling key xs)
    (hlast : (xs.take limit).getLast? = some last) :
    xs.filter (below key (some (key last))) = xs.drop limit := by
  obtain ⟨firsts, hfirsts⟩ := List.getLast?_eq_some_iff.mp hlast
  have hsplit : xs = firsts ++ last :: xs.drop limit := by
    conv_lhs => rw [← List.take_append_drop limit xs, hfirsts]
    rw [List.append_assoc]
    rfl
  generalize xs.drop limit = others at hsplit ⊢
  subst hsplit
  obtain ⟨-, hothers, habove⟩ := List.pairwise_append.mp h
  rw [List.pairwise_cons] at hothers
  have hnone : firsts.filter (below key (some (key last))) = [] := by
    rw [List.filter_eq_nil_iff]
    intro a ha
    have hlt := habove a ha last List.mem_cons_self
    simp only [below, Option.all_some, decide_eq_true_eq, not_lt]
    exact hlt.le
  have hall : others.filter (below key (some (key last))) = others := by
    rw [List.filter_eq_self]
    intro a ha
    exact decide_eq_true (hothers.1 a ha)
  have hself : below key (some (key last)) last = false := decide_eq_false (lt_irrefl _)
  rw [List.filter_append, hnone, List.filter_cons_of_neg (by rw [hself]; decide), hall,
    List.nil_append]

/-- A page later, and with more rows above its last one, what is left is the rest of the rest. -/
theorem rest_next {cursor : Option κ} {inserted : List α} {last : α} {limit : Nat}
    (hdistinct : Distinct key rows') (hrows : rows'.Perm (inserted ++ rows))
    (hlast : ((rest key cursor rows).take limit).getLast? = some last)
    (habove : ∀ row ∈ inserted, key last < key row) :
    rest key (some (key last)) rows' = (rest key cursor rows).drop limit := by
  have hdistinctAll := hdistinct.perm hrows
  have hdistinctRows := hdistinctAll.sublist (List.sublist_append_right inserted rows)
  have hmem : last ∈ rows.filter (below key cursor) :=
    mem_descending.mp (List.mem_of_mem_take (List.mem_of_getLast? hlast))
  have hcursor := (List.mem_filter.mp hmem).2
  -- what is below the last row is below the cursor
  have hbelow : ∀ row, below key (some (key last)) row = true → below key cursor row = true := by
    intro row hrow
    cases cursor with
    | none => rfl
    | some c => exact decide_eq_true ((of_decide_eq_true hrow).trans (of_decide_eq_true hcursor))
  have hnew : inserted.filter (below key (some (key last))) = [] := by
    rw [List.filter_eq_nil_iff]
    intro row hrow
    have hlt := habove row hrow
    simp only [below, Option.all_some, decide_eq_true_eq, not_lt]
    exact hlt.le
  have hfilter : (rows.filter (below key cursor)).filter (below key (some (key last))) =
      rows.filter (below key (some (key last))) := by
    rw [List.filter_filter]
    refine List.filter_congr fun row _ => ?_
    cases hrow : below key (some (key last)) row with
    | false => rfl
    | true => rw [hbelow row hrow]; rfl
  calc rest key (some (key last)) rows'
      = descending key ((inserted ++ rows).filter (below key (some (key last)))) :=
        descending_congr (hdistinct.sublist List.filter_sublist) (hrows.filter _)
    _ = descending key ((rows.filter (below key cursor)).filter (below key (some (key last)))) := by
        rw [List.filter_append, hnew, List.nil_append, hfilter]
    _ = (rest key cursor rows).filter (below key (some (key last))) :=
        descending_filter _ (hdistinctRows.sublist List.filter_sublist)
    _ = (rest key cursor rows).drop limit :=
        filter_below_last (falling_descending (hdistinctRows.sublist List.filter_sublist)) hlast

/-- How many pages there are: at least one. -/
def pageCount (n limit : Nat) : Nat := max 1 ((n + limit - 1) / limit)

/-- After `pages` full pages a page is the last one exactly if it is the last of the count. -/
theorem lt_pageCount_iff {n limit pages : Nat} (hlimit : 0 < limit) :
    pages + 1 < pageCount n limit ↔ limit < n - pages * limit := by
  unfold pageCount
  rw [lt_max_iff, Nat.lt_div_iff_mul_lt hlimit, Nat.add_mul]
  omega

end Keyset
