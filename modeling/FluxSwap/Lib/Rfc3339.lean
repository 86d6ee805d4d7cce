-- SUMMARY: Points in time as dates and times of day in UTC, their order, and the notation of RFC 3339 with nanoseconds.
import FluxSwap.Lib.Text
import Mathlib.Data.Prod.Lex
import Mathlib.Order.Basic

/-!
# Times and their notation

A point in time is a date and a time of day in UTC, down to the nanosecond. There are no leap
seconds. A time is written with four digits for the year, without the zeros at the end of its
fraction, and with `Z` for UTC. Reading a time is more liberal: a fraction of any length, an
hour of one digit, and an offset from UTC.
-/

/-! ## Dates and times -/

def isLeap (year : Int) : Bool :=
  decide (year % 4 = 0) && (decide (year % 100 ≠ 0) || decide (year % 400 = 0))

def daysIn (month : Nat) (year : Int) : Nat :=
  if month = 2 then if isLeap year then 29 else 28
  else if month ∈ [4, 6, 9, 11] then 30
  else 31

/-- A day of the calendar. -/
structure Date where
  year  : Int
  month : Nat
  day   : Nat
  month_valid : 1 ≤ month ∧ month ≤ 12
  day_valid : 1 ≤ day ∧ day ≤ daysIn month year
  deriving DecidableEq

/-- A point in time. -/
structure Time where
  date       : Date
  hour       : Nat
  minute     : Nat
  second     : Nat
  nanosecond : Nat
  hour_valid : hour < 24
  minute_valid : minute < 60
  second_valid : second < 60
  nanosecond_valid : nanosecond < 10 ^ 9
  deriving DecidableEq

theorem daysIn_pos (month : Nat) (year : Int) : 1 ≤ daysIn month year := by
  unfold daysIn
  split_ifs <;> omega

namespace Date

def next (d : Date) : Date :=
  if h : d.day < daysIn d.month d.year then
    { d with day := d.day + 1, day_valid := ⟨by omega, h⟩ }
  else if h : d.month < 12 then
    { d with
      month := d.month + 1
      day := 1
      month_valid := ⟨by omega, h⟩
      day_valid := ⟨le_rfl, daysIn_pos _ _⟩ }
  else ⟨d.year + 1, 1, 1, by omega, le_rfl, daysIn_pos _ _⟩

def previous (d : Date) : Date :=
  if h : 1 < d.day then
    { d with
      day := d.day - 1
      day_valid := ⟨by omega, (Nat.sub_le _ _).trans d.day_valid.2⟩ }
  else if h : 1 < d.month then
    { d with
      month := d.month - 1
      day := daysIn (d.month - 1) d.year
      month_valid := ⟨by omega, (Nat.sub_le _ _).trans d.month_valid.2⟩
      day_valid := ⟨daysIn_pos _ _, le_rfl⟩ }
  else ⟨d.year - 1, 12, 31, by omega, by omega, le_rfl⟩

/-- The date some days later. -/
def addDays (d : Date) : Int → Date
  | .ofNat n => next^[n] d
  | .negSucc n => previous^[n + 1] d

end Date

namespace Time

def addMinutes (t : Time) (minutes : Int) : Time :=
  let total := (t.hour * 60 + t.minute : Nat) + minutes
  let minuteOfDay := (total % 1440).toNat
  { t with
    date := t.date.addDays (total / 1440)
    hour := minuteOfDay / 60
    minute := minuteOfDay % 60
    hour_valid := by omega
    minute_valid := Nat.mod_lt _ (by decide) }

/-- Times are compared field by field. -/
def rank (t : Time) : Int ×ₗ Nat ×ₗ Nat ×ₗ Nat ×ₗ Nat ×ₗ Nat ×ₗ Nat :=
  toLex (t.date.year, toLex (t.date.month, toLex (t.date.day, toLex (t.hour, toLex (t.minute,
    toLex (t.second, t.nanosecond))))))

theorem rank_injective : Function.Injective rank := by
  rintro ⟨⟨y, mo, d, _, _⟩, h, mi, s, n, _, _, _, _⟩ ⟨⟨y', mo', d', _, _⟩, h', mi', s', n', _, _, _, _⟩ heq
  simp only [rank, EmbeddingLike.apply_eq_iff_eq, Prod.mk.injEq] at heq
  obtain ⟨rfl, rfl, rfl, rfl, rfl, rfl, rfl⟩ := heq
  rfl

instance : LinearOrder Time := LinearOrder.lift' rank rank_injective

end Time

namespace Rfc3339

open Text

/-! ## Writing -/

/-- `appendInt`: at least `width` digits, filled up with zeros. -/
def padded (width n : Nat) : Text := (Nat.toDigits 10 n).leftpad width '0'

def appendYear : Int → Text
  | .ofNat n => padded 4 n
  | .negSucc n => '-' :: padded 4 (n + 1)

/-- `appendNano`: nothing for whole seconds, otherwise nine digits less the zeros at the end. -/
def appendNano (nanosecond : Nat) : Text :=
  if nanosecond = 0 then []
  else '.' :: (padded 9 nanosecond).rdropWhile fun c => decide (c = '0')

/-- `t.UTC().Format(time.RFC3339Nano)`. -/
def format (t : Time) : Text :=
  appendYear t.date.year ++ '-' :: padded 2 t.date.month ++ '-' :: padded 2 t.date.day ++
    'T' :: padded 2 t.hour ++ ':' :: padded 2 t.minute ++ ':' :: padded 2 t.second ++
    appendNano t.nanosecond ++ ['Z']

/-! ## Reading -/

/-- Exactly `k` decimal digits at the start of a text. -/
def digits (k : Nat) (s : Text) : Option (Nat × Text) :=
  if (s.take k).length = k ∧ (s.take k).all Char.isDigit then
    some (decimal (s.take k), s.drop k)
  else none

/-- `getnum` without a fixed width: one or two digits. -/
def oneOrTwoDigits (s : Text) : Option (Nat × Text) := (digits 2 s).or (digits 1 s)

/-- One character that the layout asks for. -/
def skip (c : Char) : Text → Option Text
  | [] => none
  | c' :: s => if c' = c then some s else none

/-- The fraction of a second, if there is one: a point or a comma and digits, of which nine
    count. -/
def fraction : Text → Nat × Text
  | c :: s =>
    let ds := s.takeWhile Char.isDigit
    if (c = '.' ∨ c = ',') ∧ ds ≠ [] then
      (decimal (ds.take 9) * 10 ^ (9 - (ds.take 9).length), s.drop ds.length)
    else (0, c :: s)
  | [] => (0, [])

/-- The zone: `Z`, or an offset in minutes. -/
def zone (s : Text) : Option (Int × Text) :=
  match s with
  | [] => none
  | 'Z' :: s => some (0, s)
  | sign :: s => do
    let (hours, s) ← digits 2 s
    let s ← skip ':' s
    let (minutes, s) ← digits 2 s
    if 24 < hours ∨ 60 < minutes then none
    else if sign = '+' then some (hours * 60 + minutes, s)
    else if sign = '-' then some (-(hours * 60 + minutes), s)
    else none

/-- The date with these numbers, if there is one. -/
def date (year month day : Nat) : Option Date :=
  if h : (1 ≤ month ∧ month ≤ 12) ∧ 1 ≤ day ∧ day ≤ daysIn month year then
    some ⟨year, month, day, h.1, h.2⟩
  else none

def time (date : Date) (hour minute second nanosecond : Nat) : Option Time :=
  if h : hour < 24 ∧ minute < 60 ∧ second < 60 ∧ nanosecond < 10 ^ 9 then
    some ⟨date, hour, minute, second, nanosecond, h.1, h.2.1, h.2.2.1, h.2.2.2⟩
  else none

/-- Year, month and day, up to the `T`. -/
def readDate (s : Text) : Option ((Nat × Nat × Nat) × Text) := do
  let (year, s) ← digits 4 s
  let s ← skip '-' s
  let (month, s) ← digits 2 s
  let s ← skip '-' s
  let (day, s) ← digits 2 s
  let s ← skip 'T' s
  return ((year, month, day), s)

/-- Hour, minute and second. -/
def readClock (s : Text) : Option ((Nat × Nat × Nat) × Text) := do
  let (hour, s) ← oneOrTwoDigits s
  let s ← skip ':' s
  let (minute, s) ← digits 2 s
  let s ← skip ':' s
  let (second, s) ← digits 2 s
  return ((hour, minute, second), s)

/-- `time.Parse(time.RFC3339Nano, s)`, in UTC. -/
def parse (s : Text) : Option Time := do
  let ((year, month, day), s) ← readDate s
  let ((hour, minute, second), s) ← readClock s
  let (nanosecond, s) := fraction s
  let (offset, s) ← zone s
  if s ≠ [] then none
  else
    let date ← date year month day
    let t ← time date hour minute second nanosecond
    return t.addMinutes (-offset)

/-! ## Digits -/

theorem isDigit_of_mem_padded {width n : Nat} {c : Char} (h : c ∈ padded width n) :
    c.isDigit = true := by
  unfold padded List.leftpad at h
  rcases List.mem_append.mp h with hzero | hdigit
  · obtain rfl := List.eq_of_mem_replicate hzero
    rfl
  · exact isDigit_of_isDecimal (isDecimal_toDigits n) hdigit

theorem length_padded {width n : Nat} (hwidth : 0 < width) (h : n < 10 ^ width) :
    (padded width n).length = width := by
  have hle := (Nat.length_toDigits_le_iff (b := 10) (by decide) hwidth).mpr h
  rw [padded, List.length_leftpad]
  omega

theorem decimal_padded (width n : Nat) : decimal (padded width n) = n := by
  unfold padded List.leftpad decimal
  rw [Nat.ofDigitChars_append, Nat.ofDigitChars_replicate_zero, Nat.mul_zero,
    Nat.ofDigitChars_ten_toDigits]

/-- Zeros at the end multiply by powers of ten. -/
theorem decimal_append_zeros (s : Text) (k : Nat) :
    decimal (s ++ List.replicate k '0') = decimal s * 10 ^ k := by
  unfold decimal
  rw [Nat.ofDigitChars_append, Nat.ofDigitChars_replicate_zero, Nat.mul_comm]

theorem digits_append {k : Nat} {s : Text} (rest : Text) (hlength : s.length = k)
    (hdigits : ∀ c ∈ s, c.isDigit = true) : digits k (s ++ rest) = some (decimal s, rest) := by
  subst hlength
  unfold digits
  rw [List.take_left, List.drop_left]
  exact if_pos ⟨rfl, List.all_eq_true.mpr hdigits⟩

theorem digits_padded {width n : Nat} (rest : Text) (hwidth : 0 < width) (h : n < 10 ^ width) :
    digits width (padded width n ++ rest) = some (n, rest) := by
  rw [digits_append rest (length_padded hwidth h) fun _ => isDigit_of_mem_padded, decimal_padded]

theorem oneOrTwoDigits_padded {n : Nat} (rest : Text) (h : n < 10 ^ 2) :
    oneOrTwoDigits (padded 2 n ++ rest) = some (n, rest) := by
  rw [oneOrTwoDigits, digits_padded rest (by decide) h]
  rfl

@[simp] theorem skip_self (c : Char) (s : Text) : skip c (c :: s) = some s := if_pos rfl

/-! ## Fractions -/

/-- A text is what is left without the zeros at its end, and then these zeros. -/
theorem rdropWhile_zeros (s : Text) :
    ∃ k, s = s.rdropWhile (fun c => decide (c = '0')) ++ List.replicate k '0' := by
  induction s using List.reverseRecOn with
  | nil => exact ⟨0, rfl⟩
  | append_singleton s c ih =>
    by_cases hc : c = '0'
    · subst hc
      obtain ⟨k, hk⟩ := ih
      refine ⟨k + 1, ?_⟩
      rw [List.rdropWhile_concat_pos _ _ _ (by decide), List.replicate_succ', ← List.append_assoc,
        ← hk]
    · refine ⟨0, ?_⟩
      rw [List.rdropWhile_concat_neg _ _ _ (by simpa using hc)]
      exact (List.append_nil _).symm

theorem takeWhile_digits {s : Text} (rest : Text) (h : ∀ c ∈ s, c.isDigit = true)
    (hrest : rest.head?.all (fun c => !c.isDigit) = true) :
    (s ++ rest).takeWhile Char.isDigit = s := by
  rw [List.takeWhile_append_of_pos h]
  cases rest with
  | nil => simp
  | cons c rest =>
    simp only [List.head?_cons, Option.all_some, Bool.not_eq_true'] at hrest
    simp [hrest]

/-- The fraction is read back: the digits that were left out are zeros. -/
theorem fraction_appendNano {n : Nat} (h : n < 10 ^ 9) :
    fraction (appendNano n ++ ['Z']) = (n, ['Z']) := by
  unfold appendNano
  split
  · rename_i hzero
    subst hzero
    rfl
  rename_i hpos
  obtain ⟨k, hk⟩ := rdropWhile_zeros (padded 9 n)
  generalize (padded 9 n).rdropWhile (fun c => decide (c = '0')) = kept at hk ⊢
  have hlength := length_padded (by decide) h
  rw [hk, List.length_append, List.length_replicate] at hlength
  have hdigits : ∀ c ∈ kept, c.isDigit = true := fun c hc =>
    isDigit_of_mem_padded (by rw [hk]; exact List.mem_append_left _ hc)
  have hvalue : decimal kept * 10 ^ k = n := by
    rw [← decimal_append_zeros, ← hk, decimal_padded]
  have hne : kept ≠ [] := by
    rintro rfl
    exact hpos (by rw [← hvalue]; exact Nat.zero_mul _)
  have htake : kept.take 9 = kept := List.take_of_length_le (by omega)
  have hmissing : 9 - kept.length = k := by omega
  simp only [List.cons_append, fraction, takeWhile_digits ['Z'] hdigits rfl]
  rw [if_pos ⟨.inl trivial, hne⟩, htake, hmissing, hvalue, List.drop_left]

/-! ## The characters of a notation -/

/-- A digit or one of the separators. -/
def isNotation (c : Char) : Bool := c.isDigit || decide (c ∈ ['-', 'T', ':', '.', 'Z'])

theorem isNotation_of_mem_padded {width n : Nat} {c : Char} (h : c ∈ padded width n) :
    isNotation c = true := by
  rw [isNotation, isDigit_of_mem_padded h]
  rfl

theorem isNotation_of_mem_appendYear {year : Int} {c : Char} (h : c ∈ appendYear year) :
    isNotation c = true := by
  cases year with
  | ofNat n => exact isNotation_of_mem_padded h
  | negSucc n =>
    rcases List.mem_cons.mp h with rfl | h
    · rfl
    · exact isNotation_of_mem_padded h

theorem isNotation_of_mem_appendNano {n : Nat} {c : Char} (h : c ∈ appendNano n) :
    isNotation c = true := by
  unfold appendNano at h
  split at h
  · cases h
  · rcases List.mem_cons.mp h with rfl | h
    · rfl
    · exact isNotation_of_mem_padded ((List.rdropWhile_prefix _ _).subset h)

theorem isNotation_of_mem_format {t : Time} {c : Char} (h : c ∈ format t) :
    isNotation c = true := by
  simp only [format, List.mem_append, List.mem_cons, List.not_mem_nil, or_false] at h
  rcases h with ((((((h | rfl | h) | rfl | h) | rfl | h) | rfl | h) | rfl | h) | h) | rfl
  · exact isNotation_of_mem_appendYear h
  · rfl
  · exact isNotation_of_mem_padded h
  · rfl
  · exact isNotation_of_mem_padded h
  · rfl
  · exact isNotation_of_mem_padded h
  · rfl
  · exact isNotation_of_mem_padded h
  · rfl
  · exact isNotation_of_mem_padded h
  · exact isNotation_of_mem_appendNano h
  · rfl

theorem toNat_lt_of_mem_format {t : Time} {c : Char} (h : c ∈ format t) : c.toNat < 256 := by
  have hnotation := isNotation_of_mem_format h
  simp only [isNotation, Bool.or_eq_true, decide_eq_true_eq] at hnotation
  rcases hnotation with hdigit | hseparator
  · exact toNat_lt_of_isDigit hdigit
  · have hall : (['-', 'T', ':', '.', 'Z'].all fun c => c.toNat < 256) = true := by decide
    exact of_decide_eq_true (List.all_eq_true.mp hall c hseparator)

/-! ## Round trip -/

theorem date_eq {d : Date} {year : Nat} (hyear : d.year = year) :
    date year d.month d.day = some d := by
  obtain ⟨y, month, day, hmonth, hday⟩ := d
  subst hyear
  exact dif_pos ⟨hmonth, hday⟩

theorem time_eq (t : Time) : time t.date t.hour t.minute t.second t.nanosecond = some t :=
  dif_pos ⟨t.hour_valid, t.minute_valid, t.second_valid, t.nanosecond_valid⟩

theorem addMinutes_zero (t : Time) : t.addMinutes 0 = t := by
  obtain ⟨d, hour, minute, second, nanosecond, hhour, hminute, hsecond, hnanosecond⟩ := t
  have hday : ((hour * 60 + minute : Nat) + 0 : Int) / 1440 = 0 := by omega
  have hrest : (((hour * 60 + minute : Nat) + 0 : Int) % 1440).toNat = hour * 60 + minute := by omega
  simp only [Time.addMinutes, hday, hrest, Time.mk.injEq, and_true]
  exact ⟨rfl, by omega, by omega⟩

theorem readDate_padded {year month day : Nat} (rest : Text) (hyear : year < 10 ^ 4)
    (hmonth : month < 10 ^ 2) (hday : day < 10 ^ 2) :
    readDate (padded 4 year ++ '-' :: padded 2 month ++ '-' :: padded 2 day ++ 'T' :: rest) =
      some ((year, month, day), rest) := by
  simp only [List.append_assoc, List.cons_append, readDate, digits_padded _ (by decide) hyear,
    digits_padded _ (by decide) hmonth, digits_padded _ (by decide) hday, skip_self,
    Option.bind_eq_bind, Option.bind_some]
  rfl

theorem readClock_padded {hour minute second : Nat} (rest : Text) (hhour : hour < 10 ^ 2)
    (hminute : minute < 10 ^ 2) (hsecond : second < 10 ^ 2) :
    readClock (padded 2 hour ++ ':' :: padded 2 minute ++ ':' :: padded 2 second ++ rest) =
      some ((hour, minute, second), rest) := by
  simp only [List.append_assoc, List.cons_append, readClock, oneOrTwoDigits_padded _ hhour,
    digits_padded _ (by decide) hminute, digits_padded _ (by decide) hsecond, skip_self,
    Option.bind_eq_bind, Option.bind_some]
  rfl

theorem daysIn_le (month : Nat) (year : Int) : daysIn month year ≤ 31 := by
  unfold daysIn
  split_ifs <;> omega

/-- A time of the years with four digits is read back from its notation. -/
theorem parse_format {t : Time} (hyear : 0 ≤ t.date.year ∧ t.date.year ≤ 9999) :
    parse (format t) = some t := by
  obtain ⟨year, hyear', hbound⟩ : ∃ year : Nat, t.date.year = year ∧ year < 10 ^ 4 :=
    ⟨t.date.year.toNat, by omega, by omega⟩
  have hmonth : t.date.month < 10 ^ 2 := t.date.month_valid.2.trans_lt (by decide)
  have hday : t.date.day < 10 ^ 2 :=
    (t.date.day_valid.2.trans (daysIn_le _ _)).trans_lt (by decide)
  have hhour : t.hour < 10 ^ 2 := t.hour_valid.trans (by decide)
  have hminute : t.minute < 10 ^ 2 := t.minute_valid.trans (by decide)
  have hsecond : t.second < 10 ^ 2 := t.second_valid.trans (by decide)
  have hdate := readDate_padded (padded 2 t.hour ++ ':' :: padded 2 t.minute ++
    ':' :: padded 2 t.second ++ (appendNano t.nanosecond ++ ['Z'])) hbound hmonth hday
  have hclock := readClock_padded (appendNano t.nanosecond ++ ['Z']) hhour hminute hsecond
  have hformat : format t = padded 4 year ++ '-' :: padded 2 t.date.month ++
      '-' :: padded 2 t.date.day ++ 'T' :: (padded 2 t.hour ++ ':' :: padded 2 t.minute ++
      ':' :: padded 2 t.second ++ (appendNano t.nanosecond ++ ['Z'])) := by
    have happend : appendYear t.date.year = padded 4 year := by rw [hyear']; rfl
    simp only [format, happend, List.append_assoc, List.cons_append]
  have hzone : zone ['Z'] = some (0, []) := rfl
  unfold parse
  rw [hformat, hdate]
  simp only [Option.bind_eq_bind, Option.bind_some, hclock, fraction_appendNano t.nanosecond_valid,
    hzone, date_eq hyear', time_eq, neg_zero, addMinutes_zero]
  rfl

end Rfc3339
