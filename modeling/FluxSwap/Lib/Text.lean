-- SUMMARY: Texts: white space, letter case, and the numbers that decimal and hexadecimal digits denote.
import Mathlib.Data.List.DropRight
import Mathlib.Data.Nat.Digits.Defs
import Mathlib.Tactic.SplitIfs

/-!
# Texts

Texts are trimmed, brought to lower case and read as numbers. All this is done one
character at a time, so a text is the list of its characters.
-/

/-- A text: its characters. -/
abbrev Text : Type := List Char

instance Text.lawfulBEq : LawfulBEq Text := inferInstance

namespace Text

/-! ## Normal forms -/

/-- The property `White_Space` of a character. -/
def isSpace (c : Char) : Bool :=
  decide ((0x9 ≤ c.toNat ∧ c.toNat ≤ 0xd) ∨ (0x2000 ≤ c.toNat ∧ c.toNat ≤ 0x200a) ∨
    c.toNat ∈ [0x20, 0x85, 0xa0, 0x1680, 0x2028, 0x2029, 0x202f, 0x205f, 0x3000])

def trimSpace (s : Text) : Text := (s.dropWhile isSpace).rdropWhile isSpace

/-- Letters outside ASCII are left as they are. -/
def toLower (s : Text) : Text := s.map Char.toLower

def normalize (s : Text) : Text := toLower (trimSpace s)

theorem trimSpace_of_forall {s : Text} (h : ∀ c ∈ s, isSpace c = false) : trimSpace s = s := by
  unfold trimSpace
  rw [List.dropWhile_eq_self_iff.mpr, List.rdropWhile_eq_self_iff.mpr]
  · intro hne
    simp [h _ (List.getLast_mem hne)]
  · intro hlength
    simp [h _ (List.getElem_mem hlength)]

theorem char_toLower_toLower (c : Char) : c.toLower.toLower = c.toLower := by
  unfold Char.toLower
  split
  · rename_i hupper
    rw [dif_neg]
    have hlow := hupper.1
    have hhigh := hupper.2
    simp only [ge_iff_le, UInt32.le_iff_toNat_le] at hlow hhigh ⊢
    intro hagain
    have hsum := hagain.2
    simp at hsum hlow hhigh
    omega
  · rfl

theorem toLower_toLower (s : Text) : toLower (toLower s) = toLower s := by
  unfold toLower
  rw [List.map_map]
  exact List.map_congr_left fun c _ => char_toLower_toLower c

theorem isSpace_toLower (c : Char) : isSpace c.toLower = isSpace c := by
  by_cases hupper : 65 ≤ c.toNat ∧ c.toNat ≤ 90
  · have hsum : c.toLower.toNat = c.toNat + 32 := by
      have hcondition : 'A'.val ≤ c.val ∧ c.val ≤ 'Z'.val := hupper
      unfold Char.toLower
      rw [dif_pos hcondition]
      change (c.val.toNat + 32) % 2 ^ 32 = c.toNat + 32
      exact Nat.mod_eq_of_lt (by change c.toNat + 32 < _; omega)
    unfold isSpace
    rw [hsum]
    simp only [List.mem_cons, List.not_mem_nil, or_false]
    exact decide_eq_decide.mpr (by omega)
  · have hsame : c.toLower = c := dif_neg fun hcondition => hupper hcondition
    rw [hsame]

theorem trimSpace_toLower (s : Text) : trimSpace (toLower s) = toLower (trimSpace s) := by
  have hspace : isSpace ∘ Char.toLower = isSpace := funext isSpace_toLower
  unfold trimSpace toLower List.rdropWhile
  rw [List.dropWhile_map, hspace, ← List.map_reverse, List.dropWhile_map, hspace, List.map_reverse]

theorem trimSpace_trimSpace (s : Text) : trimSpace (trimSpace s) = trimSpace s := by
  have hfirst : (trimSpace s).dropWhile isSpace = trimSpace s := by
    rw [List.dropWhile_eq_self_iff]
    intro hlength
    obtain ⟨rest, hrest⟩ := List.rdropWhile_prefix isSpace (s.dropWhile isSpace)
    have hne : s.dropWhile isSpace ≠ [] := by
      intro hnil
      unfold trimSpace at hlength
      rw [hnil] at hlength
      exact absurd hlength (by simp)
    have hhead : (trimSpace s)[0] = (s.dropWhile isSpace).head hne := by
      have hget : (trimSpace s ++ rest)[0]? = (s.dropWhile isSpace)[0]? := congrArg (·[0]?) hrest
      rw [List.getElem?_append_left hlength, List.getElem?_eq_getElem hlength,
        ← List.head?_eq_getElem?, List.head?_eq_some_head hne] at hget
      exact Option.some.inj hget
    rw [hhead]
    exact fun hspace => absurd hspace (by simpa using List.head_dropWhile_not isSpace hne)
  conv_lhs => rw [trimSpace, hfirst]
  exact List.rdropWhile_idempotent isSpace _

/-- A text is normalized once and for all. -/
theorem normalize_normalize (s : Text) : normalize (normalize s) = normalize s := by
  unfold normalize
  rw [trimSpace_toLower, trimSpace_trimSpace, toLower_toLower]

theorem toLower_mem_normalize {s : Text} {c : Char} (h : c ∈ normalize s) : c.toLower = c := by
  unfold normalize toLower at h
  rw [List.mem_map] at h
  obtain ⟨c', -, rfl⟩ := h
  exact char_toLower_toLower c'

/-! ## Decimal digits -/

/-- Decimal digits, and at least one. -/
def isDecimal (s : Text) : Bool := !s.isEmpty && s.all Char.isDigit

/-- The number that decimal digits denote. -/
def decimal (s : Text) : Nat := Nat.ofDigitChars 10 s 0

/-- An integer in decimal notation, with or without a sign. -/
def parseInt (s : Text) : Option Int :=
  match s with
  | '-' :: cs => if isDecimal cs then some (-(decimal cs : Int)) else none
  | '+' :: cs => if isDecimal cs then some (decimal cs) else none
  | cs => if isDecimal cs then some (decimal cs) else none

/-- The decimal notation of an integer. -/
def formatInt : Int → Text
  | .ofNat n => Nat.toDigits 10 n
  | .negSucc n => '-' :: Nat.toDigits 10 (n + 1)

theorem isDigit_of_isDecimal {s : Text} (h : isDecimal s = true) {c : Char} (hc : c ∈ s) :
    c.isDigit = true := by
  simp only [isDecimal, Bool.and_eq_true, List.all_eq_true] at h
  exact h.2 c hc

theorem toNat_lt_of_isDigit {c : Char} (h : c.isDigit = true) : c.toNat < 256 := by
  simp only [Char.isDigit, Bool.and_eq_true, decide_eq_true_eq, ge_iff_le,
    UInt32.le_iff_toNat_le] at h
  have hhigh : c.toNat ≤ 57 := h.2
  omega

theorem isSpace_of_isDigit {c : Char} (h : c.isDigit = true) : isSpace c = false := by
  simp only [Char.isDigit, Bool.and_eq_true, decide_eq_true_eq, ge_iff_le,
    UInt32.le_iff_toNat_le] at h
  have hlow : 48 ≤ c.toNat := h.1
  have hhigh : c.toNat ≤ 57 := h.2
  simp only [isSpace, decide_eq_false_iff_not, List.mem_cons, List.not_mem_nil, or_false]
  omega

theorem trimSpace_of_isDecimal {s : Text} (h : isDecimal s = true) : trimSpace s = s :=
  trimSpace_of_forall fun _ hc => isSpace_of_isDigit (isDigit_of_isDecimal h hc)

theorem parseInt_of_isDecimal {s : Text} (h : isDecimal s = true) :
    parseInt s = some (decimal s : Int) := by
  unfold parseInt
  split
  · have hminus := isDigit_of_isDecimal h (c := '-') List.mem_cons_self
    cases hminus
  · have hplus := isDigit_of_isDecimal h (c := '+') List.mem_cons_self
    cases hplus
  · exact if_pos h

theorem isDecimal_toDigits (n : Nat) : isDecimal (Nat.toDigits 10 n) = true := by
  simp only [isDecimal, Bool.and_eq_true, Bool.not_eq_true', List.isEmpty_eq_false_iff,
    List.all_eq_true]
  exact ⟨Nat.toDigits_ne_nil, fun c hc => Nat.isDigit_of_mem_toDigits (by decide) (by decide) hc⟩

theorem decimal_toDigits (n : Nat) : decimal (Nat.toDigits 10 n) = n :=
  Nat.ofDigitChars_ten_toDigits

theorem trimSpace_formatInt (n : Int) : trimSpace (formatInt n) = formatInt n := by
  have hdigits : ∀ k : Nat, ∀ c ∈ Nat.toDigits 10 k, isSpace c = false := fun k c hc =>
    isSpace_of_isDigit (isDigit_of_isDecimal (isDecimal_toDigits k) hc)
  apply trimSpace_of_forall
  cases n with
  | ofNat k => exact hdigits k
  | negSucc k =>
    intro c hc
    rcases List.mem_cons.mp hc with rfl | hc
    · decide
    · exact hdigits _ c hc

theorem formatInt_ne_nil (n : Int) : formatInt n ≠ [] := by
  cases n with
  | ofNat k => exact Nat.toDigits_ne_nil
  | negSucc k => exact List.cons_ne_nil _ _

/-- An integer is read back from its notation. -/
theorem parseInt_formatInt (n : Int) : parseInt (formatInt n) = some n := by
  cases n with
  | ofNat k =>
    change parseInt (Nat.toDigits 10 k) = _
    rw [parseInt_of_isDecimal (isDecimal_toDigits k), decimal_toDigits]
    rfl
  | negSucc k =>
    change (if isDecimal (Nat.toDigits 10 (k + 1)) then
      some (-(decimal (Nat.toDigits 10 (k + 1)) : Int)) else none) = _
    rw [if_pos (isDecimal_toDigits _), decimal_toDigits]
    rfl

/-! ## Hexadecimal digits -/

/-- The value of a hexadecimal digit of either case. -/
def hexDigit (c : Char) : Nat :=
  if c.toNat ≤ 57 then c.toNat - 48 else if c.toNat ≤ 70 then c.toNat - 55 else c.toNat - 87

/-- The number that hexadecimal digits denote. -/
def hexadecimal (s : Text) : Nat := Nat.ofDigits 16 (s.reverse.map hexDigit)

/-- The prefix `0x` and then `k` hexadecimal digits. -/
def isHex (k : Nat) (s : Text) : Bool :=
  match s with
  | '0' :: 'x' :: cs => decide (cs.length = k) && cs.all Char.isHexDigit
  | _ => false

/-- The digits behind the prefix. -/
def hexDigits (s : Text) : Text := s.drop 2

theorem eq_of_isHex {k : Nat} {s : Text} (h : isHex k s = true) :
    s = '0' :: 'x' :: hexDigits s ∧ (hexDigits s).length = k ∧
      ∀ c ∈ hexDigits s, c.isHexDigit = true := by
  unfold isHex at h
  split at h
  · simp only [Bool.and_eq_true, decide_eq_true_eq, List.all_eq_true] at h
    exact ⟨rfl, h⟩
  · cases h

/-- A hexadecimal digit is in one of three ranges. -/
theorem toNat_of_isHexDigit {c : Char} (h : c.isHexDigit = true) :
    (48 ≤ c.toNat ∧ c.toNat ≤ 57) ∨ (97 ≤ c.toNat ∧ c.toNat ≤ 102) ∨
      (65 ≤ c.toNat ∧ c.toNat ≤ 70) := by
  simp only [Char.isHexDigit, Char.isDigit, Bool.or_eq_true, Bool.and_eq_true, decide_eq_true_eq,
    ge_iff_le, UInt32.le_iff_toNat_le] at h
  rcases h with (h | h) | h
  · exact .inl h
  · exact .inr (.inl h)
  · exact .inr (.inr h)

theorem hexDigit_lt {c : Char} (h : c.isHexDigit = true) : hexDigit c < 16 := by
  have hrange := toNat_of_isHexDigit h
  unfold hexDigit
  split_ifs <;> omega

theorem isSpace_of_isHexDigit {c : Char} (h : c.isHexDigit = true) : isSpace c = false := by
  have hrange := toNat_of_isHexDigit h
  simp only [isSpace, decide_eq_false_iff_not, List.mem_cons, List.not_mem_nil, or_false]
  omega

theorem isSpace_of_isHex {k : Nat} {s : Text} (h : isHex k s = true) :
    ∀ c ∈ s, isSpace c = false := by
  obtain ⟨hs, -, hdigits⟩ := eq_of_isHex h
  rw [hs]
  simp only [List.forall_mem_cons]
  exact ⟨by decide, by decide, fun c hc => isSpace_of_isHexDigit (hdigits c hc)⟩

/-- The characters of a normalized text that are hexadecimal digits. -/
def IsLowerHex (c : Char) : Prop := c.isHexDigit = true ∧ c.toLower = c

theorem IsLowerHex.toNat {c : Char} (h : IsLowerHex c) :
    (48 ≤ c.toNat ∧ c.toNat ≤ 57) ∨ (97 ≤ c.toNat ∧ c.toNat ≤ 102) := by
  obtain ⟨hhex, hlower⟩ := h
  rcases toNat_of_isHexDigit hhex with hdigit | hsmall | hcapital
  · exact .inl hdigit
  · exact .inr hsmall
  · have hupper : c.val ≥ 'A'.val ∧ c.val ≤ 'Z'.val := by
      simp only [ge_iff_le, UInt32.le_iff_toNat_le]
      exact ⟨hcapital.1, hcapital.2.trans (by decide)⟩
    have hval := congrArg (fun ch : Char => ch.toNat) hlower
    unfold Char.toLower at hval
    rw [dif_pos hupper] at hval
    change (c.val + 32).toNat = c.val.toNat at hval
    change 65 ≤ c.val.toNat ∧ c.val.toNat ≤ 70 at hcapital
    rw [UInt32.toNat_add] at hval
    have : (32 : UInt32).toNat = 32 := rfl
    omega

theorem IsLowerHex.eq_of_hexDigit {c c' : Char} (h : IsLowerHex c) (h' : IsLowerHex c')
    (hdigit : hexDigit c = hexDigit c') : c = c' := by
  have hrange := h.toNat
  have hrange' := h'.toNat
  unfold hexDigit at hdigit
  apply Char.toNat_inj.mp
  split_ifs at hdigit <;> omega

/-- Digits of one case determine the text that has a given length and value. -/
theorem hexadecimal_injective {cs cs' : Text} (hlength : cs.length = cs'.length)
    (h : ∀ c ∈ cs, IsLowerHex c) (h' : ∀ c ∈ cs', IsLowerHex c)
    (hvalue : hexadecimal cs = hexadecimal cs') : cs = cs' := by
  have hdigits : cs.reverse.map hexDigit = cs'.reverse.map hexDigit := by
    refine Nat.ofDigits_inj_of_len_eq (by decide) (by simp [hlength]) ?_ ?_ hvalue
    · intro d hd
      obtain ⟨c, hc, rfl⟩ := List.mem_map.mp hd
      exact hexDigit_lt (h c (List.mem_reverse.mp hc)).1
    · intro d hd
      obtain ⟨c, hc, rfl⟩ := List.mem_map.mp hd
      exact hexDigit_lt (h' c (List.mem_reverse.mp hc)).1
  have hmap : cs.map hexDigit = cs'.map hexDigit := by
    rwa [List.map_reverse, List.map_reverse, List.reverse_inj] at hdigits
  refine List.ext_getElem hlength fun i hi hi' => ?_
  refine (h _ (List.getElem_mem hi)).eq_of_hexDigit (h' _ (List.getElem_mem hi')) ?_
  have hdigit := List.getElem_of_eq hmap (by rwa [List.length_map] : i < (cs.map hexDigit).length)
  rwa [List.getElem_map, List.getElem_map] at hdigit

/-- The last `k` hexadecimal digits of a number, in lower case. -/
def lowerHexDigits : Nat → Nat → Text
  | 0, _ => []
  | k + 1, n => lowerHexDigits k (n / 16) ++ [Nat.digitChar (n % 16)]

/-- A number of at most `k` digits with the prefix `0x`. -/
def lowerHex (k n : Nat) : Text := '0' :: 'x' :: lowerHexDigits k n

theorem length_lowerHexDigits (k n : Nat) : (lowerHexDigits k n).length = k := by
  induction k generalizing n with
  | zero => rfl
  | succ k ih => rw [lowerHexDigits, List.length_append, ih, List.length_singleton]

theorem isHexDigit_of_mem_lowerHexDigits {k n : Nat} {c : Char} (h : c ∈ lowerHexDigits k n) :
    c.isHexDigit = true := by
  induction k generalizing n with
  | zero => cases h
  | succ k ih =>
    rcases List.mem_append.mp h with h | h
    · exact ih h
    · obtain rfl := List.mem_singleton.mp h
      exact (by decide : ∀ d < 16, (Nat.digitChar d).isHexDigit = true) _ (Nat.mod_lt _ (by decide))

theorem hexadecimal_lowerHexDigits (k n : Nat) : hexadecimal (lowerHexDigits k n) = n % 16 ^ k := by
  induction k generalizing n with
  | zero => rw [pow_zero, Nat.mod_one]; rfl
  | succ k ih =>
    have hdigit : hexDigit (Nat.digitChar (n % 16)) = n % 16 :=
      (by decide : ∀ d < 16, hexDigit (Nat.digitChar d) = d) _ (Nat.mod_lt _ (by decide))
    unfold hexadecimal at ih ⊢
    rw [lowerHexDigits, List.reverse_append, List.reverse_singleton, List.singleton_append,
      List.map_cons, Nat.ofDigits_cons, hdigit, ih, pow_succ', Nat.mod_mul]

theorem hexadecimal_lt {cs : Text} (h : ∀ c ∈ cs, c.isHexDigit = true) :
    hexadecimal cs < 16 ^ cs.length := by
  have hlt := Nat.ofDigits_lt_base_pow_length (b := 16) (l := cs.reverse.map hexDigit) (by decide)
    (by
      intro d hd
      obtain ⟨c, hc, rfl⟩ := List.mem_map.mp hd
      exact hexDigit_lt (h c (List.mem_reverse.mp hc)))
  rwa [List.length_map, List.length_reverse] at hlt

end Text
