import EvmRpc.Types.Values

/-! Amounts of 256 bits tagged with their unit. -/
namespace EvmRpc
open Library

structure Amount (Unit : Type) where
  inner : BitVec 256

namespace Amount
variable {Unit : Type}

-- the unit is only a tag and needs no equality of its own
instance : DecidableEq (Amount Unit) := fun a b =>
  decidable_of_iff (a.inner = b.inner) (by cases a; cases b; simp)

instance : Inhabited (Amount Unit) := ⟨⟨0⟩⟩

def toBeBytes (amount : Amount Unit) : Bytes 32 :=
  ⟨Positional.bigEndian 32 amount.inner.toNat,Positional.length_bigEndian amount.inner.isLt⟩

def fromBeBytes (bytes : Bytes 32) : Amount Unit := ⟨BitVec.ofNat 256 (Positional.ofBigEndian bytes.1)⟩

def toNat256 (amount : Amount Unit) : Nat256 := Nat256.fromBeBytes amount.toBeBytes

def ofNat256 (value : Nat256) : Amount Unit := fromBeBytes value.intoBeBytes

@[simp] theorem toNat256_value (amount : Amount Unit) : amount.toNat256.value = amount.inner.toNat :=
  Positional.ofBigEndian_bigEndian 32 amount.inner.toNat

@[simp] theorem toNat256_ofNat256 (value : Nat256) : (ofNat256 value : Amount Unit).toNat256 = value := by
  have kept : Positional.ofBigEndian value.intoBeBytes.1 = value.value :=
    congrArg Nat256.value (Nat256.fromBeBytes_intoBeBytes value)
  apply Nat256.ext
  rw [toNat256_value,ofNat256,fromBeBytes,BitVec.toNat_ofNat,kept,Nat.mod_eq_of_lt value.bound]

theorem toNat256_injective : Function.Injective (toNat256 : Amount Unit → Nat256) := by
  intro a b same
  have values : a.inner.toNat = b.inner.toNat := by
    rw [← toNat256_value,← toNat256_value,same]
  cases a; cases b
  simpa using BitVec.eq_of_toNat_eq values

end Amount

inductive WeiTag
inductive WeiPerGasUnit
inductive TransactionCountTag
inductive TransactionNonceTag
inductive TransactionIndexTag
inductive BlockNumberTag
inductive GasUnit
inductive EthLogIndexTag
inductive DifficultyTag
inductive BlockNonceTag
inductive NumBlocksTag
inductive NumBytesTag
inductive TimestampTag
inductive ChainIdTag

abbrev Wei := Amount WeiTag
abbrev WeiPerGas := Amount WeiPerGasUnit
abbrev TransactionCount := Amount TransactionCountTag
abbrev TransactionNonce := Amount TransactionNonceTag
abbrev TransactionIndex := Amount TransactionIndexTag
abbrev BlockNumber := Amount BlockNumberTag
abbrev GasAmount := Amount GasUnit
abbrev LogIndex := Amount EthLogIndexTag
abbrev Difficulty := Amount DifficultyTag
abbrev BlockNonce := Amount BlockNonceTag
abbrev NumBlocks := Amount NumBlocksTag
abbrev NumBytes := Amount NumBytesTag
abbrev BlockTimestamp := Amount TimestampTag
abbrev ChainId := Amount ChainIdTag

end EvmRpc
