import EvmRpc.CandidRpc.Arguments
import EvmRpc.Canister.GetLogs
import EvmRpc.Canister.Questions

/-! The endpoints for the methods: from the arguments of a caller to what each of the providers is
asked, whenever and however often. -/
namespace EvmRpc
open Library WireText

/-- Crates that the endpoints use for the arguments: `hex`, how `candid` shows a natural, and the hash
of a transaction that `ethers_core` decodes. -/
structure EndpointCrates where
  hex : HexCrate
  display : ℕ → String
  transactionHash : List UInt8 → Option Hex32

/-- No transaction can be decoded. -/
def EndpointCrates.reference : EndpointCrates := ⟨.reference,toString,fun _ => none⟩

/-- The configuration that an endpoint takes. -/
def RpcMethod.Config : RpcMethod → Type
  | .ethGetLogs => GetLogsRpcConfig
  | _ => RpcConfig

/-- The part of a configuration that the client is made from. -/
def RpcMethod.rpcConfig : (method : RpcMethod) → Option method.Config → Option RpcConfig
  | .ethGetLogs,config => some (GetLogsRpcConfig.toRpcConfig (config.getD (default : GetLogsRpcConfig)))
  | .ethCall,config => config
  | .ethFeeHistory,config => config
  | .ethGetBlockByNumber,config => config
  | .ethGetTransactionCount,config => config
  | .ethGetTransactionReceipt,config => config
  | .ethSendRawTransaction,config => config

section Endpoints
variable (wire : WireText) (crates : EndpointCrates) (source : RpcServices)

def getTransactionHash (rawSignedTransactionHex : Hex) : Option Hex32 := crates.transactionHash rawSignedTransactionHex.data

/-- What endpoints have in common that refuse no arguments. -/
def askEndpoint (method : RpcMethod) (config : Option RpcConfig) (transactionHash : Option Hex32) (args : method.Args)
    (available : U128) : Message :=
  .ethCall source config method transactionHash (.ok (method.params wire crates.hex args)) available

/-- The hash that a call keeps for its answer. -/
def RpcMethod.transactionHash : (method : RpcMethod) → method.Args → Option Hex32
  | .ethSendRawTransaction,rawSignedTransactionHex => getTransactionHash crates rawSignedTransactionHex
  | _,_ => none

def ethGetBlockByNumber (config : Option RpcConfig) (block : Candid.BlockTag) (available : U128) : Message :=
  askEndpoint wire crates source .ethGetBlockByNumber config none block available

def ethGetTransactionReceipt (config : Option RpcConfig) (txHash : Hex32) (available : U128) : Message :=
  askEndpoint wire crates source .ethGetTransactionReceipt config none txHash available

def ethGetTransactionCount (config : Option RpcConfig) (args : Candid.GetTransactionCountArgs) (available : U128) : Message :=
  askEndpoint wire crates source .ethGetTransactionCount config none args available

def ethFeeHistory (config : Option RpcConfig) (args : Candid.FeeHistoryArgs) (available : U128) : Message :=
  askEndpoint wire crates source .ethFeeHistory config none args available

def ethSendRawTransaction (config : Option RpcConfig) (rawSignedTransactionHex : Hex) (available : U128) : Message :=
  askEndpoint wire crates source .ethSendRawTransaction config (getTransactionHash crates rawSignedTransactionHex)
    rawSignedTransactionHex available

def ethCall (config : Option RpcConfig) (args : Candid.CallArgs) (available : U128) : Message :=
  askEndpoint wire crates source .ethCall config none args available

/-- The endpoint of a method, as the message that the canister then takes. -/
def endpoint : (method : RpcMethod) → Option method.Config → method.Args → U128 → Outcome Message
  | .ethGetLogs,config,args,available => ethGetLogs wire crates.display source config args available
  | .ethGetBlockByNumber,config,block,available => .done (ethGetBlockByNumber wire crates source config block available)
  | .ethGetTransactionReceipt,config,hash,available =>
    .done (ethGetTransactionReceipt wire crates source config hash available)
  | .ethGetTransactionCount,config,args,available =>
    .done (ethGetTransactionCount wire crates source config args available)
  | .ethFeeHistory,config,args,available => .done (ethFeeHistory wire crates source config args available)
  | .ethSendRawTransaction,config,raw,available => .done (ethSendRawTransaction wire crates source config raw available)
  | .ethCall,config,args,available => .done (ethCall wire crates source config args available)

variable {wire} {crates} {source}

theorem ethGetLogs_cases (display : ℕ → String) (config : Option GetLogsRpcConfig) (args : Candid.GetLogsArgs)
    (available : U128) : ∃ params, ethGetLogs wire display source config args available =
        .done (.ethCall source (some (config.getD default).toRpcConfig) .ethGetLogs none params available) ∧
      ∀ given, params = .ok given → given = (only wire.getLogsParam).encode (intoGetLogsParam args) := by
  obtain checked | ⟨_,_,_,_,checked⟩ :=
    checkedGetLogsParam_cases display args (config.getD default).maxBlockRangeOrDefault
  · refine ⟨.ok ((only wire.getLogsParam).encode (intoGetLogsParam args)),?_,fun _ same => (Except.ok.inj same).symm⟩
    simp only [ethGetLogs,checked,Outcome.done_bind]
    rfl
  · simp only [ethGetLogs,checked,Outcome.done_bind]
    refine ⟨_,rfl,?_⟩
    intro given impossible
    cases impossible

/-- An endpoint never traps. Its message names the source and the configuration, and has the parameters
for the arguments unless it refuses them. -/
theorem endpoint_cases (method : RpcMethod) (config : Option method.Config) (args : method.Args) (available : U128) :
    ∃ params, endpoint wire crates source method config args available =
        .done (.ethCall source (method.rpcConfig config) method (method.transactionHash crates args) params available) ∧
      ∀ given, params = .ok given → given = method.params wire crates.hex args := by
  cases method with
  | ethGetLogs => exact ethGetLogs_cases crates.display config args available
  | _ => exact ⟨_,rfl,fun _ same => (Except.ok.inj same).symm⟩

end Endpoints

section Runs
variable {M : Type}

/-- In every run, all attempts of a call that an endpoint has opened are for its method, and every
provider reads the arguments of the caller from their bodies, with the defaults filled in. -/
theorem calls_ask_for_their_arguments (platform : Platform M) (crates : EndpointCrates)
    (lawful : platform.crates.text.Lawful) (words : platform.crates.text.WordsAreNoNumbers)
    (lawful' : crates.hex.Lawful) (memory : Memory M) (past later : List Event) {event : Event} {id : ℕ}
    {source : RpcServices} {method : RpcMethod} {config : Option method.Config} {args : method.Args} {available : U128}
    (sent : endpoint platform.crates.text crates source method config args available = .done event.message)
    (opens : (Runs.run (Canister.step platform) (.initial platform memory) past).Opens platform id event) :
    let begun := Runs.run (Canister.step platform) (.initial platform memory) past
    ∀ started, .began started ∈ Runs.deliveries (Canister.step platform) (Canister.journalFor platform id) begun
        (event::later) → started.request.body.method = method.name ∧ ∃ params,
          started.request.body.params = some params ∧
          method.readArgs platform.crates.text crates.hex params = some (method.normalized args) := by
  intro begun started inside
  obtain ⟨params,made,plain⟩ := @endpoint_cases platform.crates.text crates source method config args available
  have waits : begun.Waits platform := Canister.run_waits platform memory past
  obtain ⟨given,client,usage,rfl,_,asked⟩ := waits.asked later (Outcome.done.inj (sent.symm.trans made)) opens
  obtain rfl := plain given rfl
  obtain ⟨service,_,own⟩ := asked started inside
  refine ⟨congrArg JsonRpcRequest.method own.body,_,congrArg JsonRpcRequest.params own.body,?_⟩
  exact method.readArgs_params lawful words lawful' args

/-- Logs of a hundred blocks, which need not name the topics. -/
def logsCall : Event :=
  ⟨1,.ethCall (.ethMainnet none) (some default) .ethGetLogs none
    (.ok (RpcMethod.ethGetLogs.params .reference .reference
      (⟨some (.number ⟨100,by decide⟩),some (.number ⟨199,by decide⟩),[],none⟩ : Candid.GetLogsArgs))) 0⟩

private theorem opens_logsCall :
    (Runs.run (Canister.step .reference) (.initial .reference demo) []).Opens .reference 0 logsCall := by
  decide +kernel

theorem calls_ask_for_their_arguments_for_logs :
    (Runs.run (Canister.step .reference) (.initial .reference demo) []).Opens .reference 0 logsCall ∧
    ∀ started, .began started ∈ Runs.deliveries (Canister.step .reference) (Canister.journalFor .reference 0)
      (.initial .reference demo) [logsCall,mainnetReply] →
      started.request.body.method = "eth_getLogs" ∧ ∃ params, started.request.body.params = some params ∧
        RpcMethod.ethGetLogs.readArgs .reference .reference params =
          some (⟨some (.number ⟨100,by decide⟩),some (.number ⟨199,by decide⟩),[],some []⟩ : Candid.GetLogsArgs) := by
  refine ⟨opens_logsCall,?_⟩
  exact @calls_ask_for_their_arguments _ .reference .reference WireText.reference_lawful WireText.reference_wordsAreNoNumbers
    HexCrate.reference_lawful demo [] [mainnetReply] logsCall 0 (.ethMainnet none) .ethGetLogs none
    (⟨some (.number ⟨100,by decide⟩),some (.number ⟨199,by decide⟩),[],none⟩ : Candid.GetLogsArgs) 0 rfl opens_logsCall

end Runs
end EvmRpc
