import EvmRpc.CandidRpc.Client
import EvmRpc.CandidRpc.Requests
import EvmRpc.RpcClient.Arguments
import EvmRpc.Types.HexStrings

/-! The arguments of all methods, and what a provider reads of them: the same arguments, with the
defaults filled in. -/
namespace EvmRpc
open Library WireText

def intoFeeHistoryParams (value : Candid.FeeHistoryArgs) : Json.FeeHistoryParams where
  blockCount := Amount.ofNat256 value.blockCount
  highestBlock := intoBlockSpec value.newestBlock
  rewardPercentiles := value.rewardPercentiles.getD []

def intoGetTransactionCountParams (value : Candid.GetTransactionCountArgs) : Json.GetTransactionCountParams where
  address := ⟨value.address.data⟩
  block := intoBlockSpec value.block

namespace RpcMethod

/-- The arguments that an endpoint takes, after the source and the configuration. -/
def Args : RpcMethod → Type
  | .ethCall => Candid.CallArgs
  | .ethFeeHistory => Candid.FeeHistoryArgs
  | .ethGetLogs => Candid.GetLogsArgs
  | .ethGetBlockByNumber => Candid.BlockTag
  | .ethGetTransactionCount => Candid.GetTransactionCountArgs
  | .ethGetTransactionReceipt => Hex32
  | .ethSendRawTransaction => Hex

/-- The parameters that a method sends for its arguments. -/
def params (wire : WireText) (hex : HexCrate) : (method : RpcMethod) → method.Args → Json
  | .ethCall,args => wire.ethCallParams.encode (intoEthCallParams args)
  | .ethFeeHistory,args => wire.feeHistoryParams.encode (intoFeeHistoryParams args)
  | .ethGetLogs,args => (only wire.getLogsParam).encode (intoGetLogsParam args)
  | .ethGetBlockByNumber,block => wire.getBlockByNumberParams.encode ⟨intoBlockSpec block,false⟩
  | .ethGetTransactionCount,args => wire.getTransactionCountParams.encode (intoGetTransactionCountParams args)
  | .ethGetTransactionReceipt,hash => (only (wire.bytesArray 32)).encode (intoHash hash)
  | .ethSendRawTransaction,raw => .array [.string (HexString.toString hex (vecData hex) raw)]

/-- The same arguments with every default written out. -/
def normalized : (method : RpcMethod) → method.Args → method.Args
  | .ethCall,args => show Candid.CallArgs from {args with block := some (args.block.getD default)}
  | .ethFeeHistory,args =>
    show Candid.FeeHistoryArgs from {args with rewardPercentiles := some (args.rewardPercentiles.getD [])}
  | .ethGetLogs,args => show Candid.GetLogsArgs from {args with
      fromBlock := some (args.fromBlock.getD default)
      toBlock := some (args.toBlock.getD default)
      topics := some (args.topics.getD [])}
  | _,args => args

theorem params_normalized (wire : WireText) (hex : HexCrate) (method : RpcMethod) (args : method.Args) :
    method.params wire hex (method.normalized args) = method.params wire hex args := by
  cases method with
  | ethGetLogs =>
    obtain ⟨fromBlock,toBlock,addresses,topics⟩ := args
    cases fromBlock <;> cases toBlock <;> rfl
  | _ => rfl

end RpcMethod

section Reading

def fromBlockSpec : Json.BlockSpec → Candid.BlockTag
  | .number number => .number number.toNat256
  | .tag .latest => .latest
  | .tag .safe => .safe
  | .tag .finalized => .finalized
  | .tag .earliest => .earliest
  | .tag .pending => .pending

def fromTransactionRequest (request : Json.TransactionRequest) : Candid.TransactionRequest where
  txType := request.txType.map (fun t => ⟨t.inner⟩)
  nonce := request.nonce.map Amount.toNat256
  receiver := request.receiver.map (fun address => ⟨address.intoBytes⟩)
  sender := request.sender.map (fun address => ⟨address.intoBytes⟩)
  gas := request.gas.map Amount.toNat256
  value := request.value.map Amount.toNat256
  input := request.input.map (fun data => ⟨data.bytes⟩)
  gasPrice := request.gasPrice.map Amount.toNat256
  maxPriorityFeePerGas := request.maxPriorityFeePerGas.map Amount.toNat256
  maxFeePerGas := request.maxFeePerGas.map Amount.toNat256
  maxFeePerBlobGas := request.maxFeePerBlobGas.map Amount.toNat256
  accessList := request.accessList.map (fun list =>
    ⟨list.items.map (fun item => ⟨⟨item.address.intoBytes⟩,item.storageKeys.map (fun key => ⟨key.intoBytes⟩)⟩)⟩)
  blobVersionedHashes := request.blobVersionedHashes.map (List.map (fun hash => ⟨hash.intoBytes⟩))
  blobs := request.blobs.map (List.map (fun data => ⟨data.bytes⟩))
  chainId := request.chainId.map Amount.toNat256

def fromEthCallParams (params : Json.EthCallParams) : Candid.CallArgs :=
  ⟨fromTransactionRequest params.transaction,some (fromBlockSpec params.block)⟩

def fromFeeHistoryParams (params : Json.FeeHistoryParams) : Candid.FeeHistoryArgs :=
  ⟨params.blockCount.toNat256,fromBlockSpec params.highestBlock,some params.rewardPercentiles⟩

def fromGetLogsParam (param : Json.GetLogsParam) : Candid.GetLogsArgs where
  fromBlock := some (fromBlockSpec param.fromBlock)
  toBlock := some (fromBlockSpec param.toBlock)
  addresses := param.address.map (fun address => ⟨address.intoBytes⟩)
  topics := some (param.topics.map (List.map (fun topic => ⟨topic.intoBytes⟩)))

def fromGetTransactionCountParams (params : Json.GetTransactionCountParams) : Candid.GetTransactionCountArgs :=
  ⟨⟨params.address.intoBytes⟩,fromBlockSpec params.block⟩

/-- What a provider reads of the parameters of a method, in the terms of its arguments. -/
def RpcMethod.readArgs (wire : WireText) (hex : HexCrate) : (method : RpcMethod) → Json → Option method.Args
  | .ethCall,json => (wire.ethCallParams.decode json).map fromEthCallParams
  | .ethFeeHistory,json => (wire.feeHistoryParams.decode json).map fromFeeHistoryParams
  | .ethGetLogs,json => ((only wire.getLogsParam).decode json).map fromGetLogsParam
  | .ethGetBlockByNumber,json => (wire.getBlockByNumberParams.decode json).bind (fun params =>
      if params.includeFullTransactions then none else some (fromBlockSpec params.block))
  | .ethGetTransactionCount,json => (wire.getTransactionCountParams.decode json).map fromGetTransactionCountParams
  | .ethGetTransactionReceipt,json => ((only (wire.bytesArray 32)).decode json).map (fun hash => (⟨hash.intoBytes⟩ : Hex32))
  | .ethSendRawTransaction,.array [.string text] =>
      match Hex.fromStr hex text with
      | .done (.ok raw) => some raw
      | _ => none
  | .ethSendRawTransaction,_ => none

@[simp] theorem fromBlockSpec_intoBlockSpec (tag : Candid.BlockTag) : fromBlockSpec (intoBlockSpec tag) = tag := by
  cases tag with
  | number n => exact congrArg Candid.BlockTag.number (Amount.toNat256_ofNat256 n)
  | _ => rfl

@[simp] theorem fromTransactionRequest_into (request : Candid.TransactionRequest) :
    fromTransactionRequest (intoTransactionRequest request) = request := by
  simp [fromTransactionRequest,intoTransactionRequest,mapAccessList,intoHash,intoData,Function.comp_def]

theorem fromEthCallParams_into (args : Candid.CallArgs) :
    fromEthCallParams (intoEthCallParams args) = RpcMethod.normalized .ethCall args := by
  simp only [fromEthCallParams,intoEthCallParams,fromTransactionRequest_into,fromBlockSpec_intoBlockSpec]
  rfl

theorem fromFeeHistoryParams_into (args : Candid.FeeHistoryArgs) :
    fromFeeHistoryParams (intoFeeHistoryParams args) = RpcMethod.normalized .ethFeeHistory args := by
  simp only [fromFeeHistoryParams,intoFeeHistoryParams,Amount.toNat256_ofNat256,fromBlockSpec_intoBlockSpec]
  rfl

theorem fromGetLogsParam_into (args : Candid.GetLogsArgs) :
    fromGetLogsParam (intoGetLogsParam args) = RpcMethod.normalized .ethGetLogs args := by
  have block (given : Option Candid.BlockTag) : fromBlockSpec ((given.map intoBlockSpec).getD default) =
      given.getD default := by
    cases given with
    | none => rfl
    | some tag => exact fromBlockSpec_intoBlockSpec tag
  have addresses : (args.addresses.map (fun address => (⟨address.data⟩ : Json.Address))).map
      (fun address => (⟨address.intoBytes⟩ : Hex20)) = args.addresses := by simp [Function.comp_def]
  have topics (given : List (List Hex32)) : (given.map (List.map (fun t => (⟨t.data⟩ : Json.FixedSizeData)))).map
      (List.map (fun topic => (⟨topic.intoBytes⟩ : Hex32))) = given := by simp [Function.comp_def]
  simp only [fromGetLogsParam,intoGetLogsParam,block,addresses,topics]
  rfl

theorem fromGetTransactionCountParams_into (args : Candid.GetTransactionCountArgs) :
    fromGetTransactionCountParams (intoGetTransactionCountParams args) = args := by
  simp only [fromGetTransactionCountParams,intoGetTransactionCountParams,fromBlockSpec_intoBlockSpec]

end Reading

section Faithful
variable {wire : WireText} {hex : HexCrate}

/-- A provider reads the arguments of the caller, whatever the method. -/
theorem RpcMethod.readArgs_params (lawful : wire.Lawful) (words : wire.WordsAreNoNumbers) (lawful' : hex.Lawful)
    (method : RpcMethod) (args : method.Args) :
    method.readArgs wire hex (method.params wire hex args) = some (method.normalized args) := by
  cases method with
  | ethCall =>
    have decoded := ethCallParams_stable lawful words (intoEthCallParams args) trivial
    exact (congrArg (Option.map fromEthCallParams) decoded).trans (congrArg some (fromEthCallParams_into args))
  | ethFeeHistory =>
    have decoded := feeHistoryParams_stable lawful words (intoFeeHistoryParams args) trivial
    exact (congrArg (Option.map fromFeeHistoryParams) decoded).trans (congrArg some (fromFeeHistoryParams_into args))
  | ethGetLogs =>
    have decoded := only_stable (getLogsParam_stable lawful words) (intoGetLogsParam args) trivial
    exact (congrArg (Option.map fromGetLogsParam) decoded).trans (congrArg some (fromGetLogsParam_into args))
  | ethGetBlockByNumber =>
    have decoded := getBlockByNumberParams_stable lawful words ⟨intoBlockSpec args,false⟩ trivial
    refine (congrArg (fun params : Option Json.GetBlockByNumberParams => params.bind (fun params =>
      if params.includeFullTransactions then none else some (fromBlockSpec params.block))) decoded).trans ?_
    exact congrArg some (fromBlockSpec_intoBlockSpec args)
  | ethGetTransactionCount =>
    have decoded := getTransactionCountParams_stable lawful words (intoGetTransactionCountParams args) trivial
    exact (congrArg (Option.map fromGetTransactionCountParams) decoded).trans
      (congrArg some (fromGetTransactionCountParams_into args))
  | ethGetTransactionReceipt =>
    have decoded := only_stable (bytesArray_stable lawful 32) (intoHash args) trivial
    exact congrArg (Option.map (fun hash => (⟨hash.intoBytes⟩ : Hex32))) decoded
  | ethSendRawTransaction =>
    have shown := (HexString.parsesHex lawful' (vecData_lawful lawful')).parse_display args
    simp only [readArgs,params,Hex.fromStr,shown]
    rfl

/-- Arguments are sent alike exactly when they are the same up to defaults. -/
theorem RpcMethod.params_eq_iff (lawful : wire.Lawful) (words : wire.WordsAreNoNumbers) (lawful' : hex.Lawful)
    (method : RpcMethod) (a b : method.Args) :
    method.params wire hex a = method.params wire hex b ↔ method.normalized a = method.normalized b := by
  constructor
  · intro written
    have first := method.readArgs_params lawful words lawful' a
    rw [written,method.readArgs_params lawful words lawful' b] at first
    exact (Option.some.inj first).symm
  · intro same
    rw [← params_normalized,same,params_normalized]

end Faithful
end EvmRpc
