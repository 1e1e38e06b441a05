import EvmRpc.RpcClient.Numeric

/-! Results of the JSON-RPC methods as the canister keeps them after decoding. -/
namespace EvmRpc.Json

/-- The byte arrays of the JSON types, shown in hexadecimal. -/
structure BytesArray (n : ℕ) where
  intoBytes : Bytes n
  deriving DecidableEq, Inhabited

abbrev FixedSizeData := BytesArray 32
abbrev Hash := BytesArray 32
abbrev LogsBloom := BytesArray 256
abbrev StorageKey := BytesArray 32

structure Address where
  intoBytes : Bytes 20
  deriving DecidableEq, Inhabited

structure JsonByte where
  inner : Byte
  deriving DecidableEq, Inhabited

def JsonByte.intoByte (byte : JsonByte) : UInt8 := byte.inner.intoByte

structure Data where
  bytes : List UInt8
  deriving DecidableEq, Inhabited

inductive TransactionStatus where
  | success
  | failure
  deriving DecidableEq, Inhabited

structure LogEntry where
  address : Address
  topics : List FixedSizeData
  data : Data
  blockNumber : Option BlockNumber
  transactionHash : Option Hash
  transactionIndex : Option TransactionIndex
  blockHash : Option Hash
  logIndex : Option LogIndex
  removed : Bool
  deriving DecidableEq, Inhabited

structure TransactionReceipt where
  blockHash : Hash
  blockNumber : BlockNumber
  effectiveGasPrice : WeiPerGas
  cumulativeGasUsed : GasAmount
  gasUsed : GasAmount
  status : Option TransactionStatus
  root : Option Hash
  transactionHash : Hash
  contractAddress : Option Address
  sender : Address
  logs : List LogEntry
  logsBloom : LogsBloom
  receiver : Option Address
  transactionIndex : TransactionIndex
  txType : JsonByte
  deriving DecidableEq, Inhabited

structure Block where
  baseFeePerGas : Option Wei
  number : BlockNumber
  difficulty : Option Difficulty
  extraData : Data
  gasLimit : GasAmount
  gasUsed : GasAmount
  hash : Hash
  logsBloom : LogsBloom
  miner : Address
  mixHash : Hash
  nonce : BlockNonce
  parentHash : Hash
  receiptsRoot : Hash
  sha3Uncles : Hash
  size : NumBytes
  stateRoot : Hash
  timestamp : BlockTimestamp
  transactions : List Hash
  transactionsRoot : Option Hash
  uncles : List Hash
  deriving DecidableEq, Inhabited

structure FeeHistory where
  oldestBlock : BlockNumber
  baseFeePerGas : List WeiPerGas
  gasUsedRatio : List F64
  reward : List (List WeiPerGas)
  deriving BEq, Inhabited

inductive SendRawTransactionResult where
  | ok
  | insufficientFunds
  | nonceTooLow
  | nonceTooHigh
  deriving DecidableEq, Inhabited

theorem FeeHistory.beq_iff (a b : FeeHistory) : (a == b) = true ↔
    a.oldestBlock = b.oldestBlock ∧ a.baseFeePerGas = b.baseFeePerGas ∧
      (a.gasUsedRatio == b.gasUsedRatio) = true ∧ a.reward = b.reward := by
  obtain ⟨oldest,base,ratio,reward⟩ := a
  obtain ⟨oldest',base',ratio',reward'⟩ := b
  change (oldest == oldest' && (base == base' && (ratio == ratio' && reward == reward'))) = true ↔ _
  simp

end EvmRpc.Json
