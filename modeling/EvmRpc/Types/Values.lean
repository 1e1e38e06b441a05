import EvmRpc.Library.Equality
import EvmRpc.Library.Positional

/-! Values shared by the Candid and the JSON types: byte arrays of a fixed size,
naturals of 256 bits and floating point numbers. -/
namespace EvmRpc
open Library

abbrev Bytes (n : ℕ) := {bytes : List UInt8 // bytes.length = n}

instance (n : ℕ) : Inhabited (Bytes n) := ⟨⟨List.replicate n 0,List.length_replicate⟩⟩

/-- A hex string of the Candid interface wrapping `α`. -/
structure HexString (α : Type) where
  data : α
  deriving DecidableEq, Repr

structure Byte where
  intoByte : UInt8
  deriving DecidableEq, Repr, Inhabited

abbrev HexByte := HexString Byte
abbrev Hex20 := HexString (Bytes 20)
abbrev Hex32 := HexString (Bytes 32)
abbrev Hex256 := HexString (Bytes 256)
abbrev Hex := HexString (List UInt8)

/-- A binary floating point number of 64 bits, given by its representation. -/
structure F64 where
  bits : BitVec 64
  deriving DecidableEq, Repr

namespace F64

def isNaN (x : F64) : Bool := (x.bits &&& 0x7ff0000000000000#64) == 0x7ff0000000000000#64 &&
  (x.bits &&& 0x000fffffffffffff#64) != 0

def isZero (x : F64) : Bool := (x.bits &&& 0x7fffffffffffffff#64) == 0

-- not a number differs from itself, and the two zeros are equal
instance : BEq F64 where
  beq x y := !x.isNaN && !y.isNaN && (x.bits == y.bits || (x.isZero && y.isZero))

private theorem beq_iff {x y : F64} : (x == y) = true ↔
    (x.isNaN = false ∧ y.isNaN = false) ∧ (x.bits = y.bits ∨ (x.isZero = true ∧ y.isZero = true)) := by
  change (!x.isNaN && !y.isNaN && (x.bits == y.bits || (x.isZero && y.isZero))) = true ↔ _
  simp

private theorem isZero_congr {x y : F64} (same : x.bits = y.bits) : x.isZero = y.isZero := by
  unfold isZero
  rw [same]

instance : PartialEquivBEq F64 where
  symm := by
    intro x y same
    rw [beq_iff] at same ⊢
    obtain ⟨⟨hx,hy⟩,equal⟩ := same
    exact ⟨⟨hy,hx⟩,equal.imp Eq.symm And.symm⟩
  trans := by
    intro x y z first second
    rw [beq_iff] at first second ⊢
    obtain ⟨⟨hx,_⟩,left⟩ := first
    obtain ⟨⟨_,hz⟩,right⟩ := second
    refine ⟨⟨hx,hz⟩,?_⟩
    rcases left with equal | ⟨zero,zero'⟩
    · rw [equal,isZero_congr equal]
      exact right
    · rcases right with equal' | ⟨_,last⟩
      · exact .inr ⟨zero,(isZero_congr equal').symm.trans zero'⟩
      · exact .inr ⟨zero,last⟩

end F64

structure Nat256 where
  value : ℕ
  bound : value < 2^256
  deriving DecidableEq, Repr

namespace Nat256

instance : Inhabited Nat256 := ⟨⟨0,by decide⟩⟩

theorem ext {a b : Nat256} (same : a.value = b.value) : a = b := by
  cases a; cases b
  simpa using same

-- the length of the shortest little-endian representation is compared
def tryFrom (value : ℕ) : Except String Nat256 :=
  if fits : (Positional.shortest value).length > 32 then .error "Nat does not fit in a U256"
  else .ok ⟨value,(Positional.length_shortest_le (by omega : 0 < 32)).mp (Nat.le_of_not_lt fits)⟩

theorem tryFrom_of_lt {value : ℕ} (fits : value < 2^256) : tryFrom value = .ok ⟨value,fits⟩ := by
  have short : (Positional.shortest value).length ≤ 32 :=
    (Positional.length_shortest_le (by omega)).mpr fits
  simp [tryFrom,Nat.not_lt.mpr short]

/-- The assertion that the shortest representation has at most 32 bytes holds by
the bound. -/
def intoBeBytes (n : Nat256) : Bytes 32 :=
  let valueBytes := Positional.shortest n.value
  ⟨List.replicate (32-valueBytes.length) 0 ++ valueBytes,by
    have short : valueBytes.length ≤ 32 := (Positional.length_shortest_le (by omega)).mpr n.bound
    simp only [List.length_append,List.length_replicate]
    omega⟩

/-- The conversion that the source expects to succeed never fails. -/
def fromBeBytes (bytes : Bytes 32) : Nat256 :=
  ⟨Positional.ofBigEndian bytes.1,by
    have below := Positional.ofBigEndian_lt bytes.1
    rwa [bytes.2] at below⟩

theorem fromBeBytes_injective : Function.Injective fromBeBytes := by
  intro a b same
  have values : Positional.ofBigEndian a.1 = Positional.ofBigEndian b.1 := congrArg Nat256.value same
  exact Subtype.ext (Positional.ofBigEndian_injective (a.2.trans b.2.symm) values)

theorem fromBeBytes_intoBeBytes (n : Nat256) : fromBeBytes n.intoBeBytes = n := by
  apply ext
  change Positional.ofBigEndian (List.replicate _ 0 ++ Positional.shortest n.value) = n.value
  rw [Positional.ofBigEndian_zeros,Positional.ofBigEndian_shortest]

theorem intoBeBytes_fromBeBytes (bytes : Bytes 32) : (fromBeBytes bytes).intoBeBytes = bytes :=
  fromBeBytes_injective (fromBeBytes_intoBeBytes _)

def ofUInt8 (value : UInt8) : Nat256 := ⟨value.toNat,lt_trans value.toNat_lt (by decide)⟩

end Nat256
end EvmRpc
