import EvmRpc.Types.Values

/-! Arguments of the Candid interface. -/
namespace EvmRpc.Candid

inductive BlockTag where
  | latest | finalized | safe | earliest | pending
  | number (n : Nat256)
  deriving DecidableEq

instance : Inhabited BlockTag := ⟨.latest⟩

structure GetLogsArgs where
  fromBlock : Option BlockTag
  toBlock : Option BlockTag
  addresses : List Hex20
  topics : Option (List (List Hex32))
  deriving DecidableEq

structure FeeHistoryArgs where
  blockCount : Nat256
  newestBlock : BlockTag
  rewardPercentiles : Option (List UInt8)
  deriving DecidableEq

structure GetTransactionCountArgs where
  address : Hex20
  block : BlockTag
  deriving DecidableEq

structure AccessListEntry where
  address : Hex20
  storageKeys : List Hex32
  deriving DecidableEq

structure AccessList where
  entries : List AccessListEntry
  deriving DecidableEq

/-- The members `to` and `from` are those of the receiver and the sender. -/
structure TransactionRequest where
  txType : Option HexByte
  nonce : Option Nat256
  receiver : Option Hex20
  sender : Option Hex20
  gas : Option Nat256
  value : Option Nat256
  input : Option Hex
  gasPrice : Option Nat256
  maxPriorityFeePerGas : Option Nat256
  maxFeePerGas : Option Nat256
  maxFeePerBlobGas : Option Nat256
  accessList : Option AccessList
  blobVersionedHashes : Option (List Hex32)
  blobs : Option (List Hex)
  chainId : Option Nat256
  deriving DecidableEq

structure CallArgs where
  transaction : TransactionRequest
  block : Option BlockTag
  deriving DecidableEq

end EvmRpc.Candid
