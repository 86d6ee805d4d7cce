-- SUMMARY: Base64 with the URL alphabet and no padding; an encoding is decoded to the bytes it was made of.
import FluxSwap.Lib.Text

/-!
# Base64

Three bytes are four digits of six bits. Without padding the last group is shorter: two
digits for one byte, three for two. Line breaks in an encoding are skipped, and the bits of
the last digit that no byte needs are not looked at.
-/

namespace Base64

/-- The digits of six bits that bytes are cut into. -/
def sextets : List UInt8 → List Nat
  | b₀ :: b₁ :: b₂ :: rest =>
    b₀.toNat / 4 :: (b₀.toNat % 4 * 16 + b₁.toNat / 16) ::
      (b₁.toNat % 16 * 4 + b₂.toNat / 64) :: b₂.toNat % 64 :: sextets rest
  | [b₀, b₁] =>
    [b₀.toNat / 4, b₀.toNat % 4 * 16 + b₁.toNat / 16, b₁.toNat % 16 * 4]
  | [b₀] => [b₀.toNat / 4, b₀.toNat % 4 * 16]
  | [] => []

/-- The bytes of digits of six bits; a single digit is no byte. -/
def octets : List Nat → Option (List UInt8)
  | v₀ :: v₁ :: v₂ :: v₃ :: rest =>
    (octets rest).map fun bytes =>
      .ofNat (v₀ * 4 + v₁ / 16) :: .ofNat (v₁ % 16 * 16 + v₂ / 4) :: .ofNat (v₂ % 4 * 64 + v₃) ::
        bytes
  | [v₀, v₁, v₂] => some [.ofNat (v₀ * 4 + v₁ / 16), .ofNat (v₁ % 16 * 16 + v₂ / 4)]
  | [v₀, v₁] => some [.ofNat (v₀ * 4 + v₁ / 16)]
  | [_] => none
  | [] => some []

/-- The character of a digit. -/
def character (n : Nat) : Char :=
  if n < 26 then Char.ofNat (n + 65)
  else if n < 52 then Char.ofNat (n + 71)
  else if n < 62 then Char.ofNat (n - 4)
  else if n = 62 then '-'
  else '_'

/-- The digit of a character. -/
def value (c : Char) : Option Nat :=
  if 65 ≤ c.toNat ∧ c.toNat ≤ 90 then some (c.toNat - 65)
  else if 97 ≤ c.toNat ∧ c.toNat ≤ 122 then some (c.toNat - 71)
  else if 48 ≤ c.toNat ∧ c.toNat ≤ 57 then some (c.toNat + 4)
  else if c = '-' then some 62
  else if c = '_' then some 63
  else none

def isLineBreak (c : Char) : Bool := decide (c = '\r') || decide (c = '\n')

/-- `base64.RawURLEncoding.EncodeToString`. -/
def encode (bytes : List UInt8) : Text := (sextets bytes).map character

/-- `base64.RawURLEncoding.DecodeString`. -/
def decode (s : Text) : Option (List UInt8) :=
  ((s.filter fun c => !isLineBreak c).mapM value).bind octets

/-! ## Round trip -/

theorem value_character : ∀ n < 64, value (character n) = some n := by decide

theorem isSpace_character : ∀ n < 64, Text.isSpace (character n) = false := by decide

theorem isLineBreak_character : ∀ n < 64, isLineBreak (character n) = false := by decide

theorem sextets_lt (bytes : List UInt8) : ∀ n ∈ sextets bytes, n < 64 := by
  induction bytes using sextets.induct with
  | case1 b₀ b₁ b₂ rest ih =>
    have h₀ := b₀.toNat_lt
    have h₁ := b₁.toNat_lt
    have h₂ := b₂.toNat_lt
    simp only [sextets, List.forall_mem_cons]
    exact ⟨by omega, by omega, by omega, by omega, ih⟩
  | case2 b₀ b₁ =>
    have h₀ := b₀.toNat_lt
    have h₁ := b₁.toNat_lt
    simp only [sextets, List.forall_mem_cons]
    exact ⟨by omega, by omega, by omega, nofun⟩
  | case3 b₀ =>
    have h₀ := b₀.toNat_lt
    simp only [sextets, List.forall_mem_cons]
    exact ⟨by omega, by omega, nofun⟩
  | case4 => nofun

/-- A byte that is put together from its bits again. -/
theorem ofNat_eq {b : UInt8} {n : Nat} (h : n = b.toNat) : UInt8.ofNat n = b := by
  rw [h, UInt8.ofNat_toNat]

theorem octets_sextets (bytes : List UInt8) : octets (sextets bytes) = some bytes := by
  induction bytes using sextets.induct with
  | case1 b₀ b₁ b₂ rest ih =>
    have h₀ := b₀.toNat_lt
    have h₁ := b₁.toNat_lt
    have h₂ := b₂.toNat_lt
    simp only [sextets, octets, ih, Option.map_some]
    rw [ofNat_eq (b := b₀) (by omega), ofNat_eq (b := b₁) (by omega), ofNat_eq (b := b₂) (by omega)]
  | case2 b₀ b₁ =>
    have h₀ := b₀.toNat_lt
    have h₁ := b₁.toNat_lt
    simp only [sextets, octets]
    rw [ofNat_eq (b := b₀) (by omega), ofNat_eq (b := b₁) (by omega)]
  | case3 b₀ =>
    have h₀ := b₀.toNat_lt
    simp only [sextets, octets]
    rw [ofNat_eq (b := b₀) (by omega)]
  | case4 => rfl

theorem mapM_value_character {ns : List Nat} (h : ∀ n ∈ ns, n < 64) :
    (ns.map character).mapM value = some ns := by
  induction ns with
  | nil => rfl
  | cons n ns ih =>
    rw [List.forall_mem_cons] at h
    rw [List.map_cons, List.mapM_cons, value_character n h.1, ih h.2]
    rfl

/-- Decoding undoes encoding. -/
theorem decode_encode (bytes : List UInt8) : decode (encode bytes) = some bytes := by
  have hkept : (encode bytes).filter (fun c => !isLineBreak c) = encode bytes := by
    rw [List.filter_eq_self]
    intro c hc
    obtain ⟨n, hn, rfl⟩ := List.mem_map.mp hc
    rw [isLineBreak_character n (sextets_lt bytes n hn)]
    rfl
  rw [decode, hkept, encode, mapM_value_character (sextets_lt bytes), Option.bind_some,
    octets_sextets]

/-- An encoding has no white space. -/
theorem trimSpace_encode (bytes : List UInt8) : Text.trimSpace (encode bytes) = encode bytes := by
  apply Text.trimSpace_of_forall
  intro c hc
  obtain ⟨n, hn, rfl⟩ := List.mem_map.mp hc
  exact isSpace_character n (sextets_lt bytes n hn)

theorem encode_ne_nil {bytes : List UInt8} (h : bytes ≠ []) : encode bytes ≠ [] := by
  intro hnil
  have hsextets := List.map_eq_nil_iff.mp hnil
  have hoctets := octets_sextets bytes
  rw [hsextets] at hoctets
  exact h (Option.some.inj hoctets).symm

end Base64
