import EvmRpc.RpcClient.Responses
import EvmRpc.Types.Response

/-! Conversion of decoded results to Candid replies. -/
namespace EvmRpc
open Library

def Json.BytesArray.toHex {n : ℕ} (array : Json.BytesArray n) : HexString (Bytes n) := ⟨array.intoBytes⟩
def Json.Address.toHex (address : Json.Address) : Hex20 := ⟨address.intoBytes⟩

def fromLogEntry (value : Json.LogEntry) : Candid.LogEntry where
  address := value.address.toHex
  topics := value.topics.map Json.BytesArray.toHex
  data := ⟨value.data.bytes⟩
  blockHash := value.blockHash.map Json.BytesArray.toHex
  blockNumber := value.blockNumber.map Amount.toNat256
  transactionHash := value.transactionHash.map Json.BytesArray.toHex
  transactionIndex := value.transactionIndex.map Amount.toNat256
  logIndex := value.logIndex.map Amount.toNat256
  removed := value.removed

def fromLogEntries (value : List Json.LogEntry) : List Candid.LogEntry := value.map fromLogEntry

def fromFeeHistory (value : Json.FeeHistory) : Candid.FeeHistory where
  oldestBlock := value.oldestBlock.toNat256
  baseFeePerGas := value.baseFeePerGas.map Amount.toNat256
  gasUsedRatio := value.gasUsedRatio
  reward := value.reward.map (List.map Amount.toNat256)

def fromTransactionStatus : Json.TransactionStatus → Nat256
  | .success => .ofUInt8 1
  | .failure => .ofUInt8 0

def fromTransactionReceipt (value : Json.TransactionReceipt) : Candid.TransactionReceipt where
  blockHash := value.blockHash.toHex
  blockNumber := value.blockNumber.toNat256
  effectiveGasPrice := value.effectiveGasPrice.toNat256
  gasUsed := value.gasUsed.toNat256
  cumulativeGasUsed := value.cumulativeGasUsed.toNat256
  status := value.status.map fromTransactionStatus
  root := value.root.map Json.BytesArray.toHex
  transactionHash := value.transactionHash.toHex
  contractAddress := value.contractAddress.map Json.Address.toHex
  sender := value.sender.toHex
  logs := fromLogEntries value.logs
  logsBloom := value.logsBloom.toHex
  receiver := value.receiver.map Json.Address.toHex
  transactionIndex := value.transactionIndex.toNat256
  txType := ⟨⟨value.txType.intoByte⟩⟩

def fromBlock (value : Json.Block) : Candid.Block where
  baseFeePerGas := value.baseFeePerGas.map Amount.toNat256
  number := value.number.toNat256
  difficulty := value.difficulty.map Amount.toNat256
  extraData := ⟨value.extraData.bytes⟩
  gasLimit := value.gasLimit.toNat256
  gasUsed := value.gasUsed.toNat256
  hash := value.hash.toHex
  logsBloom := value.logsBloom.toHex
  miner := value.miner.toHex
  mixHash := value.mixHash.toHex
  nonce := value.nonce.toNat256
  parentHash := value.parentHash.toHex
  receiptsRoot := value.receiptsRoot.toHex
  sha3Uncles := value.sha3Uncles.toHex
  size := value.size.toNat256
  stateRoot := value.stateRoot.toHex
  timestamp := value.timestamp.toNat256
  -- providers no longer agree on this member, so it is always left out
  totalDifficulty := none
  transactions := value.transactions.map Json.BytesArray.toHex
  transactionsRoot := value.transactionsRoot.map Json.BytesArray.toHex
  uncles := value.uncles.map Json.BytesArray.toHex

def fromSendRawTransactionResult (transactionHash : Option Hex32) :
    Json.SendRawTransactionResult → Candid.SendRawTransactionStatus
  | .ok => .ok transactionHash
  | .insufficientFunds => .insufficientFunds
  | .nonceTooLow => .nonceTooLow
  | .nonceTooHigh => .nonceTooHigh

def fromData (value : Json.Data) : Hex := ⟨value.bytes⟩

section Injective

@[simp] private theorem toHex_inj {n : ℕ} {a b : Json.BytesArray n} : a.toHex = b.toHex ↔ a = b := by
  cases a; cases b
  simp [Json.BytesArray.toHex]

@[simp] private theorem address_inj {a b : Json.Address} : a.toHex = b.toHex ↔ a = b := by
  cases a; cases b
  simp [Json.Address.toHex]

@[simp] private theorem toNat256_inj {U : Type} {a b : Amount U} : a.toNat256 = b.toNat256 ↔ a = b :=
  Amount.toNat256_injective.eq_iff

@[simp] private theorem data_inj {a b : Json.Data} : a.bytes = b.bytes ↔ a = b := by
  cases a; cases b
  simp

@[simp] private theorem byte_inj {a b : Json.JsonByte} : a.intoByte = b.intoByte ↔ a = b := by
  obtain ⟨⟨a⟩⟩ := a
  obtain ⟨⟨b⟩⟩ := b
  simp [Json.JsonByte.intoByte]

@[simp] private theorem status_inj {a b : Json.TransactionStatus} :
    fromTransactionStatus a = fromTransactionStatus b ↔ a = b := by
  cases a <;> cases b <;> decide

private theorem option_map_inj {α β : Type} {f : α → β} (injective : Function.Injective f)
    {a b : Option α} : a.map f = b.map f ↔ a = b := (Option.map_injective injective).eq_iff

private theorem list_map_inj {α β : Type} {f : α → β} (injective : Function.Injective f)
    {a b : List α} : a.map f = b.map f ↔ a = b := (List.map_injective_iff.mpr injective).eq_iff

private theorem toHex_injective {n : ℕ} : Function.Injective (Json.BytesArray.toHex (n := n)) :=
  fun _ _ => toHex_inj.mp

private theorem address_injective : Function.Injective Json.Address.toHex := fun _ _ => address_inj.mp

private theorem status_injective : Function.Injective fromTransactionStatus := fun _ _ => status_inj.mp

theorem fromLogEntry_injective : Function.Injective fromLogEntry := by
  intro a b same
  obtain ⟨address,topics,data,number,hash,index,block,position,removed⟩ := a
  obtain ⟨address',topics',data',number',hash',index',block',position',removed'⟩ := b
  simpa [fromLogEntry,list_map_inj toHex_injective,option_map_inj toHex_injective,
    option_map_inj Amount.toNat256_injective,and_assoc,and_comm,and_left_comm] using same

theorem fromLogEntries_injective : Function.Injective fromLogEntries :=
  List.map_injective_iff.mpr fromLogEntry_injective

theorem fromTransactionReceipt_injective : Function.Injective fromTransactionReceipt := by
  intro a b same
  obtain ⟨⟩ := a
  obtain ⟨⟩ := b
  simp only [fromTransactionReceipt,Candid.TransactionReceipt.mk.injEq,toHex_inj,address_inj,toNat256_inj,
    HexString.mk.injEq,Byte.mk.injEq,byte_inj,option_map_inj toHex_injective,option_map_inj address_injective,
    option_map_inj status_injective,fromLogEntries_injective.eq_iff] at same
  simp only [Json.TransactionReceipt.mk.injEq]
  tauto

theorem fromBlock_injective : Function.Injective fromBlock := by
  intro a b same
  obtain ⟨⟩ := a
  obtain ⟨⟩ := b
  simp only [fromBlock,Candid.Block.mk.injEq,toHex_inj,address_inj,toNat256_inj,HexString.mk.injEq,data_inj,
    option_map_inj toHex_injective,option_map_inj Amount.toNat256_injective,list_map_inj toHex_injective] at same
  simp only [Json.Block.mk.injEq]
  tauto

theorem fromSendRawTransactionResult_injective (transactionHash : Option Hex32) :
    Function.Injective (fromSendRawTransactionResult transactionHash) := by
  intro a b same
  cases a <;> cases b <;> simp_all [fromSendRawTransactionResult]

theorem fromData_injective : Function.Injective fromData := by
  intro a b same
  simpa [fromData] using same

/-- Ratios are passed on as they are, so two histories convert to equal replies
exactly when they are equal, including how floating point numbers compare. -/
theorem fromFeeHistory_beq (a b : Json.FeeHistory) : (fromFeeHistory a == fromFeeHistory b) = (a == b) := by
  rw [Bool.eq_iff_iff,Candid.FeeHistory.beq_iff,Json.FeeHistory.beq_iff]
  simp [fromFeeHistory,list_map_inj Amount.toNat256_injective,
    list_map_inj (List.map_injective_iff.mpr Amount.toNat256_injective)]

end Injective
end EvmRpc
