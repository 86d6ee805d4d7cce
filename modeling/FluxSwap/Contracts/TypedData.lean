-- SUMMARY: Typed structured data as EIP-712 hashes it, for structs whose members are atomic values or strings.
import FluxSwap.Contracts.Abi

/-!
# Typed structured data

A struct is hashed as the hash of its type's text followed by one word for each member; a
string stands for its hash. What is signed is the hash of two fixed bytes, of the hash of
the domain and of the hash of the message.
-/

namespace TypedData

/-! ## Structs -/

/-- A member of a struct type. -/
structure Member where
  name : String
  type : String

structure StructType where
  name    : String
  members : List Member

inductive Value
  | address (value : Address)
  | uint256 (value : Nat)
  | bytes32 (value : Bytes32)
  | string (value : String)

/-- An object: its members by name. -/
abbrev Object := List (String × Value)

/-- `encodeType`. -/
def StructType.encodeType (t : StructType) : String :=
  t.name ++ "(" ++ String.intercalate "," (t.members.map fun m => m.type ++ " " ++ m.name) ++ ")"

def Value.type : Value → String
  | .address _ => "address"
  | .uint256 _ => "uint256"
  | .bytes32 _ => "bytes32"
  | .string _ => "string"

/-- The value fits into one word and is not a string. -/
def Value.IsWord : Value → Prop
  | .uint256 value => value < 2 ^ 256
  | .address _ | .bytes32 _ => True
  | .string _ => False

section Hashing

variable (keccak256 : Bytes → Bytes32)

/-- The word of a value. -/
def Value.word : Value → Nat
  | .address value => value
  | .uint256 value => value
  | .bytes32 value => value
  | .string value => keccak256 (Abi.ascii value)

/-- The word of a member of an object, if the object has a value of its type. -/
def Member.word (data : Object) (m : Member) : Option Nat :=
  match data.lookup m.name with
  | some value => if value.type = m.type then some (value.word keccak256) else none
  | none => none

/-- The hash of the type's text followed by `encodeData`. -/
def StructType.encode (t : StructType) (data : Object) : Option Bytes :=
  (t.members.mapM (Member.word keccak256 data)).map fun values =>
    Abi.words (keccak256 (Abi.ascii t.encodeType) :: values)

/-- `hashStruct`. -/
def StructType.hash (t : StructType) (data : Object) : Option Bytes32 :=
  (t.encode keccak256 data).map keccak256

/-- The bytes whose hash is signed. -/
def signingBytes (domainSeparator structHash : Bytes32) : Bytes :=
  [0x19, 0x01] ++ Abi.words [domainSeparator, structHash]

end Hashing

/-! ## Domains -/

/-- A domain without salt. -/
structure Domain where
  name              : String
  version           : String
  chainId           : Nat
  verifyingContract : Address

def Domain.structType : StructType where
  name := "EIP712Domain"
  members := [⟨"name", "string"⟩, ⟨"version", "string"⟩, ⟨"chainId", "uint256"⟩,
    ⟨"verifyingContract", "address"⟩]

def Domain.toObject (domain : Domain) : Object :=
  [("name", .string domain.name), ("version", .string domain.version),
    ("chainId", .uint256 domain.chainId), ("verifyingContract", .address domain.verifyingContract)]

end TypedData

/-- A message of a struct type under a domain. -/
structure TypedData where
  domain      : TypedData.Domain
  primaryType : TypedData.StructType
  message     : TypedData.Object

/-- The numbers fit into words, and the message has no strings. -/
def TypedData.Fits (data : TypedData) : Prop :=
  data.domain.chainId < 2 ^ 256 ∧ ∀ member ∈ data.message, member.2.IsWord

/-- The hash that is signed. -/
def TypedData.digest (keccak256 : Bytes → Bytes32) (data : TypedData) : Option Bytes32 := do
  let domainSeparator ← Domain.structType.hash keccak256 data.domain.toObject
  let structHash ← data.primaryType.hash keccak256 data.message
  pure (keccak256 (signingBytes domainSeparator structHash))

namespace TypedData

/-! ## Bytes -/

variable {keccak256 : Bytes → Bytes32}

theorem Domain.encode_toObject (domain : Domain) :
    Domain.structType.encode keccak256 domain.toObject = some (Abi.words
      [keccak256 (Abi.ascii
          "EIP712Domain(string name,string version,uint256 chainId,address verifyingContract)"),
        keccak256 (Abi.ascii domain.name), keccak256 (Abi.ascii domain.version), domain.chainId,
        domain.verifyingContract]) := by
  have htype : Domain.structType.encodeType =
      "EIP712Domain(string name,string version,uint256 chainId,address verifyingContract)" := rfl
  rw [← htype]
  rfl

theorem digest_eq {data : TypedData} {domainBytes structBytes : Bytes}
    (hdomain : Domain.structType.encode keccak256 data.domain.toObject = some domainBytes)
    (hstruct : data.primaryType.encode keccak256 data.message = some structBytes) :
    data.digest keccak256 =
      some (keccak256 (signingBytes (keccak256 domainBytes) (keccak256 structBytes))) := by
  unfold TypedData.digest StructType.hash
  rw [hdomain, hstruct]
  rfl

/-- The bytes that are signed determine both hashes. -/
theorem signingBytes_injective {domainSeparator structHash domainSeparator' structHash' : Bytes32}
    (h : signingBytes domainSeparator structHash = signingBytes domainSeparator' structHash') :
    domainSeparator = domainSeparator' ∧ structHash = structHash' := by
  have hwords := List.append_cancel_left h
  have hvalues := Abi.words_injective (by simp) (by simp) hwords
  simp only [List.cons.injEq, Fin.val_inj, and_true] at hvalues
  exact hvalues

end TypedData
