-- SUMMARY: Byte strings that the contracts hash: ABI words, packed strings, 256-bit hashes.
import Mathlib.Tactic.Ring
import FluxSwap.Contracts.Basic

/-!
# ABI encoding

Hashes are 256-bit values. A static value is encoded as one word of 32 bytes, the
most significant byte first; `abi.encode` of static values is the sequence of their
words. Keccak itself is a parameter wherever it is used.
-/

abbrev Bytes : Type := List UInt8

/-- `bytes32`. -/
abbrev Bytes32 : Type := Fin (2 ^ 256)

instance Bytes32.neZero : NeZero (2 ^ 256) := inferInstance

namespace Abi

/-- One word: the 32 bytes of a value below `2 ^ 256`. -/
def word (n : Nat) : Bytes := (List.range 32).map fun i => (n / 256 ^ (31 - i)).toUInt8

/-- `abi.encode` of static values, and `abi.encodePacked` of 32-byte values. -/
def words (ns : List Nat) : Bytes := ns.flatMap word

/-- The value of some bytes, the most significant byte first: `SetBytes` of a big integer. -/
def setBytes (bytes : Bytes) : Nat := bytes.foldl (fun value byte => value * 256 + byte.toNat) 0

/-- The bytes of a string literal; the sources use ASCII only. -/
def ascii (text : String) : Bytes := text.toList.map fun ch => ch.toNat.toUInt8

/-- Bytes filled up with zeros to whole words. -/
def padded (bytes : Bytes) : Bytes :=
  bytes ++ List.replicate ((32 - bytes.length % 32) % 32) 0

/-- `abi.encode` of a string literal and static values: where the string starts, the
    values, then the string's length and its bytes. -/
def encodeTagged (tag : String) (args : List Nat) : Bytes :=
  words (32 * (args.length + 1) :: args) ++ (word tag.length ++ padded (ascii tag))

@[simp] theorem length_word (n : Nat) : (word n).length = 32 := by
  simp [word]

theorem setBytes_cons (b : UInt8) (bytes : Bytes) :
    setBytes (b :: bytes) = b.toNat * 256 ^ bytes.length + setBytes bytes := by
  have hfold : ∀ (bytes : Bytes) (n : Nat),
      bytes.foldl (fun value byte => value * 256 + byte.toNat) n =
        n * 256 ^ bytes.length + setBytes bytes := by
    intro bytes
    induction bytes with
    | nil => intro n; simp [setBytes]
    | cons b bytes ih =>
      intro n
      unfold setBytes
      rw [List.foldl_cons, List.foldl_cons, ih, ih, List.length_cons, pow_succ]
      ring
  unfold setBytes
  rw [List.foldl_cons, hfold]
  simp [setBytes]

/-- The value of the last `k` bytes of a number, the most significant first. -/
theorem setBytes_digits (k n : Nat) :
    setBytes ((List.range k).map fun i => (n / 256 ^ (k - 1 - i)).toUInt8) = n % 256 ^ k := by
  induction k with
  | zero => rw [pow_zero, Nat.mod_one]; rfl
  | succ k ih =>
    have htail : (List.range k).map ((fun i => (n / 256 ^ (k + 1 - 1 - i)).toUInt8) ∘ Nat.succ) =
        (List.range k).map fun i => (n / 256 ^ (k - 1 - i)).toUInt8 := by
      refine List.map_congr_left fun i hi => ?_
      have hpower : k + 1 - 1 - i.succ = k - 1 - i := by omega
      rw [Function.comp_apply, hpower]
    rw [List.range_succ_eq_map, List.map_cons, List.map_map, htail, setBytes_cons, ih,
      List.length_map, List.length_range, Nat.mod_pow_succ, Nat.add_comm, Nat.mul_comm]
    rfl

theorem setBytes_word {n : Nat} (h : n < 2 ^ 256) : setBytes (word n) = n := by
  have hdigits := setBytes_digits 32 n
  rw [Nat.mod_eq_of_lt (h.trans_le (by decide))] at hdigits
  exact hdigits

/-- A word determines its value. -/
theorem word_injective {n m : Nat} (hn : n < 2 ^ 256) (hm : m < 2 ^ 256) (h : word n = word m) :
    n = m := by
  rw [← setBytes_word hn, h, setBytes_word hm]

theorem words_cons (n : Nat) (ns : List Nat) : words (n :: ns) = word n ++ words ns := rfl

/-- A sequence of words determines its values and where it ends. -/
theorem words_append_injective {ns : List Nat} :
    ∀ {ms : List Nat} {u v : Bytes}, ns.length = ms.length → (∀ n ∈ ns, n < 2 ^ 256) →
      (∀ m ∈ ms, m < 2 ^ 256) → words ns ++ u = words ms ++ v → ns = ms ∧ u = v := by
  induction ns with
  | nil =>
    intro ms u v hlength _ _ h
    cases ms with
    | nil => exact ⟨rfl, h⟩
    | cons m ms => cases hlength
  | cons n ns ih =>
    intro ms u v hlength hns hms h
    cases ms with
    | nil => cases hlength
    | cons m ms =>
      rw [words_cons, words_cons, List.append_assoc, List.append_assoc] at h
      obtain ⟨hword, hrest⟩ := List.append_inj h (by rw [length_word, length_word])
      have hnm := word_injective (hns n List.mem_cons_self) (hms m List.mem_cons_self) hword
      obtain ⟨hvalues, huv⟩ := ih (Nat.succ.inj hlength)
        (fun x hx => hns x (List.mem_cons_of_mem n hx))
        (fun x hx => hms x (List.mem_cons_of_mem m hx)) hrest
      exact ⟨by rw [hnm, hvalues], huv⟩

theorem length_words (ns : List Nat) : (words ns).length = 32 * ns.length := by
  induction ns with
  | nil => rfl
  | cons n ns ih =>
    rw [words_cons, List.length_append, length_word, ih, List.length_cons]
    omega

/-- The words from a position on. -/
theorem drop_words (ns : List Nat) (i : Nat) : (words ns).drop (32 * i) = words (ns.drop i) := by
  induction i generalizing ns with
  | zero => rfl
  | succ i ih =>
    cases ns with
    | nil => simp [words]
    | cons n ns =>
      have hsplit : 32 * (i + 1) = (word n).length + 32 * i := by rw [length_word]; omega
      rw [words_cons, hsplit, List.drop_length_add_append, ih, List.drop_succ_cons]

/-- The first of some words. -/
theorem take_words_cons (n : Nat) (ns : List Nat) : (words (n :: ns)).take 32 = word n := by
  rw [words_cons, List.take_left' (length_word n)]

/-- The value of the word at a position of some words. -/
theorem setBytes_words {ns : List Nat} {n : Nat} {i : Nat} (hn : ns[i]? = some n)
    (hlt : n < 2 ^ 256) : setBytes (((words ns).drop (32 * i)).take 32) = n := by
  obtain ⟨hi, rfl⟩ := List.getElem?_eq_some_iff.mp hn
  rw [drop_words, List.drop_eq_getElem_cons hi, take_words_cons, setBytes_word hlt]

/-- A sequence of words determines its values, however many they are. -/
theorem words_injective {ns ms : List Nat} (hns : ∀ n ∈ ns, n < 2 ^ 256)
    (hms : ∀ m ∈ ms, m < 2 ^ 256) (h : words ns = words ms) : ns = ms := by
  have hlength : ns.length = ms.length := by
    have hbytes := congrArg List.length h
    rw [length_words, length_words] at hbytes
    exact Nat.eq_of_mul_eq_mul_left (by decide) hbytes
  refine (words_append_injective (u := []) (v := []) hlength hns hms ?_).1
  rw [h]

/-- The encoding of a tag and values determines the values and the encoding of the tag. -/
theorem encodeTagged_injective {tag tag' : String} {args args' : List Nat}
    (hargs : ∀ n ∈ args, n < 2 ^ 256) (hargs' : ∀ n ∈ args', n < 2 ^ 256)
    (hshort : args.length < 2 ^ 250) (hshort' : args'.length < 2 ^ 250)
    (h : encodeTagged tag args = encodeTagged tag' args') :
    args = args' ∧
      word tag.length ++ padded (ascii tag) = word tag'.length ++ padded (ascii tag') := by
  unfold encodeTagged at h
  -- the position of the string says how many values there are
  have hfirst : args.length = args'.length := by
    rw [words_cons, words_cons, List.append_assoc, List.append_assoc] at h
    have hword := (List.append_inj h (by rw [length_word, length_word])).1
    have hstart := word_injective (by omega) (by omega) hword
    omega
  rw [hfirst] at h
  obtain ⟨hvalues, htag⟩ := words_append_injective (by simpa using hfirst)
    (by simpa using ⟨by omega, hargs⟩) (by simpa using ⟨by omega, hargs'⟩) h
  exact ⟨(List.cons.inj hvalues).2, htag⟩

end Abi
