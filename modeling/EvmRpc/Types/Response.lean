import EvmRpc.Types.Values

/-! Replies of the Candid interface. -/
namespace EvmRpc.Candid

structure FeeHistory where
  oldestBlock : Nat256
  baseFeePerGas : List Nat256
  gasUsedRatio : List F64
  reward : List (List Nat256)
  deriving BEq

structure LogEntry where
  address : Hex20
  topics : List Hex32
  data : Hex
  blockNumber : Option Nat256
  transactionHash : Option Hex32
  transactionIndex : Option Nat256
  blockHash : Option Hex32
  logIndex : Option Nat256
  removed : Bool
  deriving DecidableEq

structure TransactionReceipt where
  blockHash : Hex32
  blockNumber : Nat256
  effectiveGasPrice : Nat256
  gasUsed : Nat256
  cumulativeGasUsed : Nat256
  status : Option Nat256
  root : Option Hex32
  transactionHash : Hex32
  contractAddress : Option Hex20
  sender : Hex20
  logs : List LogEntry
  logsBloom : Hex256
  receiver : Option Hex20
  transactionIndex : Nat256
  txType : HexByte
  deriving DecidableEq

structure Block where
  baseFeePerGas : Option Nat256
  number : Nat256
  difficulty : Option Nat256
  extraData : Hex
  gasLimit : Nat256
  gasUsed : Nat256
  hash : Hex32
  logsBloom : Hex256
  miner : Hex20
  mixHash : Hex32
  nonce : Nat256
  parentHash : Hex32
  receiptsRoot : Hex32
  sha3Uncles : Hex32
  size : Nat256
  stateRoot : Hex32
  timestamp : Nat256
  totalDifficulty : Option Nat256
  transactions : List Hex32
  transactionsRoot : Option Hex32
  uncles : List Hex32
  deriving DecidableEq

inductive SendRawTransactionStatus where
  | ok (hash : Option Hex32)
  | insufficientFunds
  | nonceTooLow
  | nonceTooHigh
  deriving DecidableEq

-- the derived equality of a record that holds floating point numbers
theorem FeeHistory.beq_iff (a b : FeeHistory) : (a == b) = true ↔
    a.oldestBlock = b.oldestBlock ∧ a.baseFeePerGas = b.baseFeePerGas ∧
      (a.gasUsedRatio == b.gasUsedRatio) = true ∧ a.reward = b.reward := by
  obtain ⟨oldest,base,ratio,reward⟩ := a
  obtain ⟨oldest',base',ratio',reward'⟩ := b
  change (oldest == oldest' && (base == base' && (ratio == ratio' && reward == reward'))) = true ↔ _
  simp

instance : PartialEquivBEq FeeHistory where
  symm := by
    intro a b same
    rw [FeeHistory.beq_iff] at same ⊢
    obtain ⟨oldest,base,ratio,reward⟩ := same
    exact ⟨oldest.symm,base.symm,BEq.symm ratio,reward.symm⟩
  trans := by
    intro a b c first second
    rw [FeeHistory.beq_iff] at first second ⊢
    obtain ⟨oldest,base,ratio,reward⟩ := first
    obtain ⟨oldest',base',ratio',reward'⟩ := second
    exact ⟨oldest.trans oldest',base.trans base',BEq.trans ratio ratio',reward.trans reward'⟩

end EvmRpc.Candid
