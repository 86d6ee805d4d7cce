-- SUMMARY: Listing the orders of a maker page by page: the cursor's text, and that following it finds every order once.
import FluxSwap.Lib.Base64
import FluxSwap.Lib.Keyset
import FluxSwap.Lib.Rfc3339

/-!
# ListByMaker

The orders of a maker are listed from the newest down, a page at a time. The cursor that a page
ends with is a text of the time and the id of its last order; the next page starts below it.
Of a row only the columns that are filtered and sorted by are of interest here. The columns of
the runtime table are read afterwards, for the rows of the page.
-/

namespace Backend

open Text Keyset

/-! ## The cursor -/

/-- `[]byte(s)`; the texts of cursors are ASCII. -/
def textBytes (s : Text) : List UInt8 := s.map fun c => c.toNat.toUInt8

/-- `string(bytes)`, one character for each byte. Only ASCII characters are compared. -/
def bytesText (bytes : List UInt8) : Text := bytes.map fun b => Char.ofNat b.toNat

/-- `strconv.ParseUint(s, 10, 64)`. -/
def parseUint64 (s : Text) : Option (Fin (2 ^ 64)) :=
  if h : isDecimal s = true ∧ decimal s < 2 ^ 64 then some ⟨decimal s, h.2⟩ else none

def encodeOrderListCursor (createdAt : Time) (id : Fin (2 ^ 64)) : Text :=
  Base64.encode (textBytes (Rfc3339.format createdAt ++ '|' :: Nat.toDigits 10 id))

/-- `none` is `ErrInvalidOrderListCursor`. -/
def decodeOrderListCursor (cursor : Text) : Option (Time × Fin (2 ^ 64)) := do
  let raw ← Base64.decode (trimSpace cursor)
  match (bytesText raw).splitOn '|' with
  | [createdAt, id] =>
    let createdAt ← Rfc3339.parse createdAt
    let id ← parseUint64 id
    return (createdAt, id)
  | _ => none

/-! ## The query -/

/-- A row of `orders`. -/
structure OrderRow where
  id                : Fin (2 ^ 64)
  chainId           : Int
  settlementAddress : Text
  maker             : Text
  status            : Text
  createdAt         : Time

structure ListOrdersByMakerParams where
  chainId           : Int
  settlementAddress : Text
  maker             : Text
  statuses          : List Text
  limit             : Int
  cursor            : Text

structure ListOrdersByMakerResult where
  orders     : List OrderRow
  nextCursor : Text
  hasMore    : Bool

/-- `created_at DESC, id DESC`. -/
def OrderRow.key (row : OrderRow) : Time ×ₗ Fin (2 ^ 64) := toLex (row.createdAt, row.id)

namespace ListOrdersByMakerParams

/-- The limit of a page: 20 unless it is positive, and at most 100. -/
def pageLimit (params : ListOrdersByMakerParams) : Nat :=
  if params.limit ≤ 0 then 20 else if 100 < params.limit then 100 else params.limit.toNat

def normalizedStatuses (params : ListOrdersByMakerParams) : List Text :=
  params.statuses.filterMap fun status =>
    let trimmed := trimSpace status
    if trimmed = [] then none else some (toLower trimmed)

/-- The filters besides the cursor. -/
def selects (params : ListOrdersByMakerParams) (row : OrderRow) : Bool :=
  decide (row.chainId = params.chainId) && decide (row.maker = normalize params.maker) &&
    (decide (normalize params.settlementAddress = []) ||
      decide (row.settlementAddress = normalize params.settlementAddress)) &&
    (decide (params.normalizedStatuses = []) || decide (row.status ∈ params.normalizedStatuses))

end ListOrdersByMakerParams

/-- `(created_at < ?) OR (created_at = ? AND id < ?)`. -/
def OrderRow.isBelow (row : OrderRow) (cursor : Time × Fin (2 ^ 64)) : Bool :=
  decide (row.createdAt < cursor.1) ||
    (decide (row.createdAt = cursor.1) && decide (row.id < cursor.2))

/-- `none` is `ErrInvalidOrderListCursor`. -/
def listByMaker (table : List OrderRow) (params : ListOrdersByMakerParams) :
    Option ListOrdersByMakerResult := do
  let limit := params.pageLimit
  let query := table.filter params.selects
  let query ←
    if trimSpace params.cursor ≠ [] then do
      let cursor ← decodeOrderListCursor params.cursor
      pure (query.filter fun row => row.isBelow cursor)
    else pure query
  let orders := (descending OrderRow.key query).take (limit + 1)
  let hasMore := decide (limit < orders.length)
  let orders := if hasMore then orders.take limit else orders
  return {
    orders
    nextCursor := match hasMore, orders.getLast? with
      | true, some last => encodeOrderListCursor last.createdAt last.id
      | _, _ => []
    hasMore }

/-! ## The cursor is read back -/

/-- A year of four digits, as RFC 3339 has it. -/
def HasFourDigits (t : Time) : Prop := 0 ≤ t.date.year ∧ t.date.year ≤ 9999

instance (t : Time) : Decidable (HasFourDigits t) := inferInstanceAs (Decidable (_ ∧ _))

theorem bytesText_textBytes {s : Text} (h : ∀ c ∈ s, c.toNat < 256) :
    bytesText (textBytes s) = s := by
  unfold bytesText textBytes
  rw [List.map_map]
  conv_rhs => rw [← List.map_id s]
  refine List.map_congr_left fun c hc => ?_
  have hbyte : c.toNat.toUInt8.toNat = c.toNat := Nat.mod_eq_of_lt (h c hc)
  simp only [Function.comp_apply, hbyte, Char.ofNat_toNat, id_eq]

theorem parseUint64_toDigits (id : Fin (2 ^ 64)) : parseUint64 (Nat.toDigits 10 id) = some id := by
  have hvalue := decimal_toDigits id
  unfold parseUint64
  rw [dif_pos ⟨isDecimal_toDigits id, by rw [hvalue]; exact id.isLt⟩]
  exact congrArg some (Fin.ext hvalue)

/-- The cursor of an order is read back. -/
theorem decode_encodeOrderListCursor {createdAt : Time} (hyear : HasFourDigits createdAt)
    (id : Fin (2 ^ 64)) :
    decodeOrderListCursor (encodeOrderListCursor createdAt id) = some (createdAt, id) := by
  have hdigits : ∀ c ∈ Nat.toDigits 10 id, c.isDigit = true := fun c hc =>
    isDigit_of_isDecimal (isDecimal_toDigits id) hc
  have hascii : ∀ c ∈ Rfc3339.format createdAt ++ '|' :: Nat.toDigits 10 id, c.toNat < 256 := by
    simp only [List.mem_append, List.mem_cons]
    rintro c (hformat | rfl | hid)
    · exact Rfc3339.toNat_lt_of_mem_format hformat
    · decide
    · exact toNat_lt_of_isDigit (hdigits c hid)
  have htime : '|' ∉ Rfc3339.format createdAt := fun hbar => by
    cases Rfc3339.isNotation_of_mem_format hbar
  have hid : '|' ∉ Nat.toDigits 10 id := fun hbar => by cases hdigits _ hbar
  have hparts : (Rfc3339.format createdAt ++ '|' :: Nat.toDigits 10 id).splitOn '|' =
      [Rfc3339.format createdAt, Nat.toDigits 10 id] := by
    rw [List.splitOn_append_cons_self_of_not_mem htime, List.splitOn_eq_singleton hid]
  unfold decodeOrderListCursor encodeOrderListCursor
  simp only [Base64.trimSpace_encode, Base64.decode_encode, Option.bind_eq_bind, Option.bind_some,
    bytesText_textBytes hascii, hparts, Rfc3339.parse_format hyear, parseUint64_toDigits]
  rfl

theorem encodeOrderListCursor_ne_nil (createdAt : Time) (id : Fin (2 ^ 64)) :
    trimSpace (encodeOrderListCursor createdAt id) ≠ [] := by
  rw [encodeOrderListCursor, Base64.trimSpace_encode]
  apply Base64.encode_ne_nil
  simp [textBytes]

/-- What the text of a cursor says: nothing, or a key. -/
inductive Reads : Text → Option (Time ×ₗ Fin (2 ^ 64)) → Prop
  | blank {cursor : Text} : trimSpace cursor = [] → Reads cursor none
  | below {cursor : Text} {createdAt : Time} {id : Fin (2 ^ 64)} : trimSpace cursor ≠ [] →
      decodeOrderListCursor cursor = some (createdAt, id) → Reads cursor (some (toLex (createdAt, id)))

theorem reads_encode {row : OrderRow} (hyear : HasFourDigits row.createdAt) :
    Reads (encodeOrderListCursor row.createdAt row.id) (some row.key) :=
  .below (encodeOrderListCursor_ne_nil _ _) (decode_encodeOrderListCursor hyear row.id)

/-! ## One page -/

theorem OrderRow.isBelow_eq (row : OrderRow) (createdAt : Time) (id : Fin (2 ^ 64)) :
    row.isBelow (createdAt, id) = below OrderRow.key (some (toLex (createdAt, id))) row := by
  simp only [isBelow, below, Option.all_some, OrderRow.key, Prod.Lex.toLex_lt_toLex,
    Bool.decide_or, Bool.decide_and]

/-- The page of these rows, of which there may be more than it holds. -/
def pageOf (limit : Nat) (rest : List OrderRow) : ListOrdersByMakerResult where
  orders := rest.take limit
  nextCursor := match decide (limit < rest.length), (rest.take limit).getLast? with
    | true, some last => encodeOrderListCursor last.createdAt last.id
    | _, _ => []
  hasMore := decide (limit < rest.length)

/-- A request reads its cursor and answers with the page below it. -/
theorem listByMaker_eq {table : List OrderRow} {params : ListOrdersByMakerParams}
    {cursor : Option (Time ×ₗ Fin (2 ^ 64))} (h : Reads params.cursor cursor) :
    listByMaker table params =
      some (pageOf params.pageLimit (rest OrderRow.key cursor (table.filter params.selects))) := by
  have hlook : ∀ rows : List OrderRow,
      (let orders := rows.take (params.pageLimit + 1)
       let hasMore := decide (params.pageLimit < orders.length)
       let orders := if hasMore then orders.take params.pageLimit else orders
       (⟨orders, match hasMore, orders.getLast? with
          | true, some last => encodeOrderListCursor last.createdAt last.id
          | _, _ => [], hasMore⟩ : ListOrdersByMakerResult)) = pageOf params.pageLimit rows := by
    intro rows
    have hmore : (params.pageLimit < (rows.take (params.pageLimit + 1)).length) ↔
        params.pageLimit < rows.length := by
      rw [List.length_take]
      omega
    have horders : (if params.pageLimit < rows.length then
        (rows.take (params.pageLimit + 1)).take params.pageLimit
        else rows.take (params.pageLimit + 1)) = rows.take params.pageLimit := by
      split
      · rw [List.take_take, Nat.min_eq_left (Nat.le_succ _)]
      · rw [List.take_of_length_le (by omega), List.take_of_length_le (by omega)]
    simp only [hmore, decide_eq_true_eq, horders]
    rfl
  unfold listByMaker
  cases h with
  | blank hblank =>
    rw [if_neg (not_not.mpr hblank), rest_none]
    exact congrArg some (hlook _)
  | @below createdAt id hne hdecode =>
    have hfilter : (fun row : OrderRow => row.isBelow (createdAt, id)) =
        below OrderRow.key (some (toLex (createdAt, id))) :=
      funext fun row => row.isBelow_eq createdAt id
    rw [if_pos hne, hdecode, rest, ← hfilter]
    exact congrArg some (hlook _)

/-! ## Following the cursor -/

/-- A table with its primary key, and times that a cursor can say. -/
structure Stored (table : List OrderRow) : Prop where
  ids : Distinct OrderRow.id table
  years : ∀ row ∈ table, HasFourDigits row.createdAt

/-- Between two requests orders are added. Those that the request selects have a larger key than
    the last order that was listed. -/
structure Added (params : ListOrdersByMakerParams) (orders table table' : List OrderRow) : Prop where
  stored : Stored table'
  rows : ∃ inserted, table'.Perm (inserted ++ table) ∧
    ∀ row ∈ inserted, params.selects row = true → ∀ last ∈ orders.getLast?, last.key < row.key

/-- The requests of a client from a table on: the table now, the pages so far, all of which said
    that there is more, and the cursor of the next request. -/
inductive Following (params : ListOrdersByMakerParams) (start : List OrderRow) :
    List OrderRow → List (List OrderRow) → Text → Prop
  | start : Following params start start [] []
  | next {table table' : List OrderRow} {pages : List (List OrderRow)} {cursor : Text}
      {result : ListOrdersByMakerResult} : Following params start table pages cursor →
      listByMaker table { params with cursor := cursor } = some result → result.hasMore = true →
      Added params result.orders table table' →
      Following params start table' (pages ++ [result.orders]) result.nextCursor

/-- Exactly the selected orders of a table, each once, from the newest down. -/
structure ListsAll (params : ListOrdersByMakerParams) (table orders : List OrderRow) : Prop where
  falling : Falling OrderRow.key orders
  complete : ∀ row, row ∈ orders ↔ row ∈ table ∧ params.selects row = true

theorem Stored.distinct {table : List OrderRow} (h : Stored table) (p : OrderRow → Bool) :
    Distinct OrderRow.key (table.filter p) := by
  refine Distinct.sublist ?_ List.filter_sublist
  have hids : (table.map OrderRow.id).Nodup := h.ids
  exact List.Nodup.of_map (fun k => (ofLex k).2) (by rwa [List.map_map])

theorem listsAll_descending {params : ListOrdersByMakerParams} {table : List OrderRow}
    (h : Stored table) :
    ListsAll params table (descending OrderRow.key (table.filter params.selects)) :=
  ⟨falling_descending (h.distinct _), fun row => by rw [mem_descending, List.mem_filter]⟩

theorem pageLimit_pos (params : ListOrdersByMakerParams) : 0 < params.pageLimit := by
  unfold ListOrdersByMakerParams.pageLimit
  split_ifs <;> omega

/-- What holds before each request: the pages so far are the first orders of the table at the
    start, and the cursor leaves the others. -/
structure Progress (params : ListOrdersByMakerParams) (table₀ table : List OrderRow)
    (pages : List (List OrderRow)) (cursor : Text) : Prop where
  stored : Stored table
  remains : ∃ key, Reads cursor key ∧
    rest OrderRow.key key (table.filter params.selects) =
      (descending OrderRow.key (table₀.filter params.selects)).drop
        (pages.length * params.pageLimit)
  listed : pages.flatten = (descending OrderRow.key (table₀.filter params.selects)).take
    (pages.length * params.pageLimit)
  count : pages.length < pageCount (table₀.filter params.selects).length params.pageLimit

variable {params : ListOrdersByMakerParams} {table₀ table table' : List OrderRow}
  {pages : List (List OrderRow)} {cursor : Text}

theorem Progress.start (h : Stored table₀) : Progress params table₀ table₀ [] [] := by
  refine ⟨h, ⟨none, .blank rfl, ?_⟩, ?_, ?_⟩
  · rw [rest_none, List.length_nil, Nat.zero_mul, List.drop_zero]
  · rw [List.length_nil, Nat.zero_mul, List.take_zero, List.flatten_nil]
  · exact Nat.lt_of_lt_of_le Nat.zero_lt_one (Nat.le_max_left _ _)

/-- The next request answers with a page of the orders that remain. -/
theorem Progress.answer (h : Progress params table₀ table pages cursor) :
    listByMaker table { params with cursor := cursor } =
      some (pageOf params.pageLimit
        ((descending OrderRow.key (table₀.filter params.selects)).drop
          (pages.length * params.pageLimit))) := by
  obtain ⟨key, hreads, hrest⟩ := h.remains
  have hanswer := @listByMaker_eq table { params with cursor := cursor } _ hreads
  rw [hanswer]
  exact congrArg (fun rows => some (pageOf params.pageLimit rows)) hrest

theorem Progress.next (h : Progress params table₀ table pages cursor)
    {result : ListOrdersByMakerResult}
    (hlist : listByMaker table { params with cursor := cursor } = some result)
    (hmore : result.hasMore = true) (hadded : Added params result.orders table table') :
    Progress params table₀ table' (pages ++ [result.orders]) result.nextCursor := by
  have hresult := Option.some.inj (hlist.symm.trans h.answer)
  obtain ⟨key, -, hrest⟩ := h.remains
  obtain ⟨inserted, hrows, habove⟩ := hadded.rows
  rw [← hrest] at hresult
  have hlong : params.pageLimit <
      (rest OrderRow.key key (table.filter params.selects)).length := by
    rw [hresult] at hmore
    exact of_decide_eq_true hmore
  have horders : result.orders =
      (rest OrderRow.key key (table.filter params.selects)).take params.pageLimit := by
    rw [hresult]
    rfl
  -- a page that says there is more is full
  have hfull : result.orders ≠ [] := by
    rw [← List.length_pos_iff, horders, List.length_take]
    have hpos := pageLimit_pos params
    omega
  obtain ⟨last, hlast⟩ : ∃ last, result.orders.getLast? = some last :=
    ⟨_, List.getLast?_eq_some_getLast hfull⟩
  have hmem : last ∈ table.filter params.selects := by
    have hin := List.mem_of_getLast? hlast
    rw [horders] at hin
    exact (List.mem_filter.mp (mem_descending.mp (List.mem_of_mem_take hin))).1
  have hcursor : result.nextCursor = encodeOrderListCursor last.createdAt last.id := by
    rw [horders] at hlast
    rw [hresult]
    simp only [pageOf, decide_eq_true hlong, hlast]
  have hlength : (pages ++ [result.orders]).length * params.pageLimit =
      pages.length * params.pageLimit + params.pageLimit := by
    rw [List.length_append, List.length_singleton, Nat.succ_mul]
  have hselected : (table'.filter params.selects).Perm
      (inserted.filter params.selects ++ table.filter params.selects) := by
    rw [← List.filter_append]
    exact hrows.filter _
  refine ⟨hadded.stored, ⟨some last.key, ?_, ?_⟩, ?_, ?_⟩
  · rw [hcursor]
    exact reads_encode (h.stored.years last (List.mem_filter.mp hmem).1)
  · rw [hlength, ← List.drop_drop, ← hrest]
    refine rest_next (hadded.stored.distinct _) hselected (by rwa [horders] at hlast) ?_
    intro row hrow
    exact habove row (List.mem_filter.mp hrow).1 (List.mem_filter.mp hrow).2 last hlast
  · rw [hlength, List.take_add, List.flatten_append, h.listed, ← hrest, ← horders]
    simp
  · rw [List.length_append, List.length_singleton, lt_pageCount_iff (pageLimit_pos params)]
    rw [hrest, List.length_drop, length_descending] at hlong
    exact hlong

theorem Following.progress (hstored : Stored table₀)
    (h : Following params table₀ table pages cursor) :
    Progress params table₀ table pages cursor := by
  induction h with
  | start => exact .start hstored
  | next _ hlist hmore hadded ih => exact ih.next hlist hmore hadded

/-- The cursor of every order with a year of four digits is read back. Whatever selected orders
    are added above the last one listed, every request succeeds, the one that says there is no
    more is the last of the count, and then exactly the orders selected at the first request have
    been listed, each once, from the newest down. -/
theorem listByMaker_pages :
    (∀ createdAt id, HasFourDigits createdAt →
      decodeOrderListCursor (encodeOrderListCursor createdAt id) = some (createdAt, id)) ∧
    ∀ params table₀, Stored table₀ → ∀ table pages cursor,
      Following params table₀ table pages cursor → ∃ result,
        listByMaker table { params with cursor := cursor } = some result ∧
        (result.hasMore = true ↔ pages.length + 1 <
          pageCount (table₀.filter params.selects).length params.pageLimit) ∧
        (result.hasMore = false →
          pages.length + 1 = pageCount (table₀.filter params.selects).length params.pageLimit ∧
          ListsAll params table₀ (pages ++ [result.orders]).flatten) := by
  refine ⟨fun createdAt id hyear => decode_encodeOrderListCursor hyear id, ?_⟩
  intro params table₀ hstored table pages cursor hfollowing
  have hprogress := hfollowing.progress hstored
  have hmore : params.pageLimit < ((descending OrderRow.key (table₀.filter params.selects)).drop
      (pages.length * params.pageLimit)).length ↔ pages.length + 1 <
        pageCount (table₀.filter params.selects).length params.pageLimit := by
    rw [lt_pageCount_iff (pageLimit_pos params), List.length_drop, length_descending]
  refine ⟨_, hprogress.answer, ?_, ?_⟩
  · rw [← hmore]
    exact decide_eq_true_iff
  · intro hlast
    have hshort := of_decide_eq_false hlast
    have hcount := hprogress.count
    refine ⟨?_, ?_⟩
    · rw [hmore] at hshort
      omega
    · have hall : (pages ++ [(pageOf params.pageLimit
          ((descending OrderRow.key (table₀.filter params.selects)).drop
            (pages.length * params.pageLimit))).orders]).flatten =
          descending OrderRow.key (table₀.filter params.selects) := by
        rw [List.flatten_append, hprogress.listed, List.flatten_singleton]
        simp only [pageOf, List.take_of_length_le (Nat.le_of_not_lt hshort), List.take_append_drop]
      rw [hall]
      exact listsAll_descending hstored

end Backend

namespace Backend

open Keyset

/-! ## Three orders, two of them at the same time -/

namespace ListingExample

def noon : Time := ⟨⟨2024, 2, 29, by decide, by decide⟩, 12, 0, 0, 0, by decide, by decide, by decide,
  by decide⟩

def newYear (year : Int) : Time :=
  ⟨⟨year, 1, 1, by decide, ⟨le_rfl, daysIn_pos 1 year⟩⟩, 0, 0, 0, 0, by decide, by decide, by decide,
    by decide⟩

def row (id : Fin (2 ^ 64)) (createdAt : Time) : OrderRow where
  id := id
  chainId := 31337
  settlementAddress := []
  maker := ['0', 'x', 'a']
  status := []
  createdAt := createdAt

def orders : List OrderRow := [row 1 noon, row 2 noon, row 3 (newYear 2025)]

def params : ListOrdersByMakerParams where
  chainId := 31337
  settlementAddress := []
  maker := [' ', '0', 'X', 'A']
  statuses := [[' ']]
  limit := 2
  cursor := []

theorem orders_stored : Stored orders := by
  have hids : (orders.map OrderRow.id).Nodup := by decide
  refine ⟨hids, ?_⟩
  intro r hr
  simp only [orders, List.mem_cons, List.not_mem_nil, or_false] at hr
  rcases hr with rfl | rfl | rfl <;> decide

end ListingExample

open ListingExample in
theorem listByMaker_pages_two : ∃ first second cursor,
    listByMaker orders params = some first ∧ first.hasMore = true ∧
      Following params orders orders [first.orders] cursor ∧
      listByMaker orders { params with cursor := cursor } = some second ∧ second.hasMore = false ∧
      ListsAll params orders ([first.orders] ++ [second.orders]).flatten := by
  have hcount : pageCount (orders.filter params.selects).length params.pageLimit = 2 := by
    decide +kernel
  obtain ⟨first, hfirst, hmore, -⟩ :=
    listByMaker_pages.2 params orders orders_stored orders [] [] .start
  rw [hcount] at hmore
  have hmore := hmore.mpr (by decide)
  have hadded : Added params first.orders orders orders :=
    ⟨orders_stored, [], List.Perm.refl _, nofun⟩
  have hfollowing := Following.next .start hfirst hmore hadded
  obtain ⟨second, hsecond, hlast, hall⟩ :=
    listByMaker_pages.2 params orders orders_stored orders _ _ hfollowing
  have hend : second.hasMore = false := by
    rw [← Bool.not_eq_true, hlast, hcount]
    exact lt_irrefl 2
  exact ⟨first, second, _, hfirst, hmore, hfollowing, hsecond, hend, (hall hend).2⟩

open ListingExample in
/-- From the year 10000 on the cursor is not read back. -/
theorem not_decode_encode_tenThousand : ¬ ∀ (createdAt : Time) (id : Fin (2 ^ 64)),
    decodeOrderListCursor (encodeOrderListCursor createdAt id) = some (createdAt, id) := by
  intro h
  have hnone : decodeOrderListCursor (encodeOrderListCursor (newYear 10000) 1) = none := by
    decide +kernel
  rw [h] at hnone
  cases hnone

end Backend
