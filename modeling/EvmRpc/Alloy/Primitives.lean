import EvmRpc.Library.Conversion
import EvmRpc.Types.Response
import EvmRpc.Types.Result

/-! Types of the `alloy` crates that replies of the Candid interface are converted to,
and how the values in them are converted. -/
namespace EvmRpc.Alloy
open Library Candid

abbrev Address := Bytes 20
abbrev B64 := Bytes 8
abbrev B256 := Bytes 32
abbrev Bloom := Bytes 256
abbrev U256 := BitVec 256

inductive TxType where
  | legacy | eip2930 | eip1559 | eip4844 | eip7702
  deriving DecidableEq, Repr

def TxType.toByte : TxType → UInt8
  | .legacy => 0
  | .eip2930 => 1
  | .eip1559 => 2
  | .eip4844 => 3
  | .eip7702 => 4

structure LogData where
  topics : List B256
  data : List UInt8
  deriving DecidableEq

structure Log where
  address : Address
  data : LogData
  blockHash : Option B256
  blockNumber : Option UInt64
  blockTimestamp : Option UInt64
  transactionHash : Option B256
  transactionIndex : Option UInt64
  logIndex : Option UInt64
  removed : Bool
  deriving DecidableEq

inductive Eip658Value where
  | eip658 (success : Bool)
  | postState (root : B256)
  deriving DecidableEq

structure Receipt where
  status : Eip658Value
  cumulativeGasUsed : UInt64
  logs : List Log
  deriving DecidableEq

structure ReceiptWithBloom where
  receipt : Receipt
  logsBloom : Bloom
  deriving DecidableEq

inductive ReceiptEnvelope where
  | legacy (receipt : ReceiptWithBloom)
  | eip2930 (receipt : ReceiptWithBloom)
  | eip1559 (receipt : ReceiptWithBloom)
  | eip4844 (receipt : ReceiptWithBloom)
  | eip7702 (receipt : ReceiptWithBloom)
  deriving DecidableEq

namespace ReceiptEnvelope

def txType : ReceiptEnvelope → TxType
  | .legacy _ => .legacy
  | .eip2930 _ => .eip2930
  | .eip1559 _ => .eip1559
  | .eip4844 _ => .eip4844
  | .eip7702 _ => .eip7702

def asReceiptWithBloom : ReceiptEnvelope → ReceiptWithBloom
  | .legacy receipt => receipt
  | .eip2930 receipt => receipt
  | .eip1559 receipt => receipt
  | .eip4844 receipt => receipt
  | .eip7702 receipt => receipt

end ReceiptEnvelope

structure TransactionReceipt where
  inner : ReceiptEnvelope
  transactionHash : B256
  transactionIndex : Option UInt64
  blockHash : Option B256
  blockNumber : Option UInt64
  gasUsed : UInt64
  effectiveGasPrice : U128
  blobGasUsed : Option UInt64
  blobGasPrice : Option U128
  sender : Address
  receiver : Option Address
  contractAddress : Option Address
  deriving DecidableEq

structure ConsensusHeader where
  parentHash : B256
  ommersHash : B256
  beneficiary : Address
  stateRoot : B256
  transactionsRoot : B256
  receiptsRoot : B256
  logsBloom : Bloom
  difficulty : U256
  number : UInt64
  gasLimit : UInt64
  gasUsed : UInt64
  timestamp : UInt64
  extraData : List UInt8
  mixHash : B256
  nonce : B64
  baseFeePerGas : Option UInt64
  withdrawalsRoot : Option B256
  blobGasUsed : Option UInt64
  excessBlobGas : Option UInt64
  parentBeaconBlockRoot : Option B256
  requestsHash : Option B256
  deriving DecidableEq

structure Header where
  hash : B256
  inner : ConsensusHeader
  totalDifficulty : Option U256
  size : Option U256
  deriving DecidableEq

/-- A block without withdrawals, whose transactions are given by their hashes. -/
structure Block where
  header : Header
  uncles : List B256
  transactions : List B256
  deriving DecidableEq

structure FeeHistory where
  baseFeePerGas : List U128
  gasUsedRatio : List F64
  baseFeePerBlobGas : List U128
  blobGasUsedRatio : List F64
  oldestBlock : UInt64
  reward : Option (List (List U128))
  deriving BEq

/-- What the crates compute, and the texts of their errors: that of a natural which is out
of the range of an integer type and that of a byte which is no transaction type. -/
structure Crate where
  logData : List B256 → List UInt8 → Option LogData
  txType : UInt8 → Except String TxType
  fromTyped : TxType → ReceiptWithBloom → ReceiptEnvelope
  outOfRange : ℕ → String

namespace Crate

/-- Up to four topics are valid, and the transaction types are numbered from zero. -/
structure Lawful (crate : Crate) : Prop where
  logData_short : ∀ topics data, topics.length ≤ 4 → crate.logData topics data = some ⟨topics,data⟩
  logData_long : ∀ topics data, 4 < topics.length → crate.logData topics data = none
  txType_small : ∀ byte ≤ 4, ∃ txType, crate.txType byte = .ok txType ∧ txType.toByte = byte
  fromTyped_txType : ∀ txType receipt, (crate.fromTyped txType receipt).txType = txType
  fromTyped_receipt : ∀ txType receipt, (crate.fromTyped txType receipt).asReceiptWithBloom = receipt

def reference : Crate where
  logData topics data := if topics.length ≤ 4 then some ⟨topics,data⟩ else none
  txType
    | 0 => .ok .legacy
    | 1 => .ok .eip2930
    | 2 => .ok .eip1559
    | 3 => .ok .eip4844
    | 4 => .ok .eip7702
    | byte => .error (toString byte.toNat)
  fromTyped
    | .legacy,receipt => .legacy receipt
    | .eip2930,receipt => .eip2930 receipt
    | .eip1559,receipt => .eip1559 receipt
    | .eip4844,receipt => .eip4844 receipt
    | .eip7702,receipt => .eip7702 receipt
  outOfRange value := "TryFromBigIntError(" ++ toString value ++ ")"

theorem reference_lawful : reference.Lawful where
  logData_short topics data short := if_pos short
  logData_long topics data long := if_neg (Nat.not_le.mpr long)
  txType_small byte small := by
    have cases : byte = 0 ∨ byte = 1 ∨ byte = 2 ∨ byte = 3 ∨ byte = 4 := by
      have bound : byte.toNat ≤ 4 := small
      have value : byte.toNat = 0 ∨ byte.toNat = 1 ∨ byte.toNat = 2 ∨ byte.toNat = 3 ∨ byte.toNat = 4 := by omega
      simp only [← UInt8.toNat_inj]
      exact value
    rcases cases with rfl | rfl | rfl | rfl | rfl
    all_goals exact ⟨_,rfl,rfl⟩
  fromTyped_txType txType receipt := by cases txType <;> rfl
  fromTyped_receipt txType receipt := by cases txType <;> rfl

end Crate

/-- `U256::from`, by way of the 32 bytes of the natural. -/
def U256.ofNat256 (value : Nat256) : U256 := BitVec.ofNat 256 (Positional.ofBigEndian value.intoBeBytes.1)

@[simp] theorem U256.toNat_ofNat256 (value : Nat256) : (U256.ofNat256 value).toNat = value.value := by
  have same : Positional.ofBigEndian value.intoBeBytes.1 = value.value :=
    congrArg Nat256.value (Nat256.fromBeBytes_intoBeBytes value)
  rw [U256.ofNat256,same,BitVec.toNat_ofNat,Nat.mod_eq_of_lt value.bound]

theorem U256.ofNat256_eq_zero {value : Nat256} : U256.ofNat256 value = 0 ↔ value.value = 0 := by
  rw [← BitVec.toNat_inj,U256.toNat_ofNat256]
  rfl

/-- An integer type to which naturals are narrowed. -/
structure Unsigned (τ : Type) where
  typeName : String
  tryFrom : ℕ → Option τ

def u64 : Unsigned UInt64 := ⟨"u64",fun value => if value < 2^64 then some (UInt64.ofNat value) else none⟩

def u128 : Unsigned U128 := ⟨"u128",fun value => if fits : value < 2^128 then some ⟨value,fits⟩ else none⟩

section Conversion
variable (crate : Crate)

def tryFromNat256 {τ : Type} (type : Unsigned τ) (value : Nat256) (fieldName : String) : RpcResult τ :=
  match type.tryFrom value.value with
  | some converted => .ok converted
  | none => .error (.validationError (.custom ("Failed to convert field `" ++ fieldName ++ "` to `" ++
      type.typeName ++ "`: " ++ crate.outOfRange value.value)))

def B64.ofUInt64 (value : UInt64) : B64 :=
  ⟨Positional.bigEndian 8 value.toNat,Positional.length_bigEndian (by simpa using value.toNat_lt)⟩

/-- `TryFrom<Nat256> for B64`, whose error names no field. -/
def B64.tryFrom (value : Nat256) : RpcResult B64 :=
  match u64.tryFrom value.value with
  | some converted => .ok (B64.ofUInt64 converted)
  | none => .error (.validationError (.custom (crate.outOfRange value.value)))

variable {crate}

theorem u64_of_lt {value : ℕ} (fits : value < 2^64) : u64.tryFrom value = some (UInt64.ofNat value) := if_pos fits

theorem u128_of_lt {value : ℕ} (fits : value < 2^128) : u128.tryFrom value = some ⟨value,fits⟩ := dif_pos fits

theorem tryFromNat256_u64 {value : Nat256} (fits : value.value < 2^64) (fieldName : String) :
    tryFromNat256 crate u64 value fieldName = .ok (UInt64.ofNat value.value) := by
  rw [tryFromNat256,u64_of_lt fits]

theorem tryFromNat256_u128 {value : Nat256} (fits : value.value < 2^128) (fieldName : String) :
    tryFromNat256 crate u128 value fieldName = .ok ⟨value.value,fits⟩ := by
  rw [tryFromNat256,u128_of_lt fits]

theorem u64_of_not_lt {value : ℕ} (large : ¬ value < 2^64) : u64.tryFrom value = none := if_neg large

theorem u128_of_not_lt {value : ℕ} (large : ¬ value < 2^128) : u128.tryFrom value = none := dif_neg large

def IsValidation (error : RpcError) : Prop := ∃ invalid, error = .validationError invalid

theorem tryFromNat256_failsOnly {τ : Type} (type : Unsigned τ) (value : Nat256) (fieldName : String) :
    FailsOnly IsValidation (tryFromNat256 crate type value fieldName) := by
  intro error failed
  unfold tryFromNat256 at failed
  split at failed
  · cases failed
  · cases failed
    exact ⟨_,rfl⟩

theorem tryFromNat256_u64_exact (fieldName : String) :
    Exact (fun value => tryFromNat256 crate u64 value fieldName) (fun value => value.value < 2^64)
      (fun value converted => converted.toNat = value.value) IsValidation := by
  refine .of_ok ?_ ?_ (fun value => tryFromNat256_failsOnly u64 value fieldName)
  · exact fun value fits => ⟨_,tryFromNat256_u64 fits fieldName,UInt64.toNat_ofNat_of_lt' fits⟩
  · intro value converted done
    by_contra large
    simp only [tryFromNat256,u64_of_not_lt large] at done
    cases done

theorem tryFromNat256_u128_exact (fieldName : String) :
    Exact (fun value => tryFromNat256 crate u128 value fieldName) (fun value => value.value < 2^128)
      (fun value converted => converted.val = value.value) IsValidation := by
  refine .of_ok ?_ ?_ (fun value => tryFromNat256_failsOnly u128 value fieldName)
  · exact fun value fits => ⟨_,tryFromNat256_u128 fits fieldName,rfl⟩
  · intro value converted done
    by_contra large
    simp only [tryFromNat256,u128_of_not_lt large] at done
    cases done

theorem B64.tryFrom_of_lt {value : Nat256} (fits : value.value < 2^64) :
    B64.tryFrom crate value = .ok (B64.ofUInt64 (UInt64.ofNat value.value)) := by
  rw [B64.tryFrom,u64_of_lt fits]

theorem B64.ofBigEndian_ofUInt64 (value : UInt64) : Positional.ofBigEndian (B64.ofUInt64 value).1 = value.toNat :=
  Positional.ofBigEndian_bigEndian 8 value.toNat

end Conversion
end EvmRpc.Alloy
