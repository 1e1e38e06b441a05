import EvmRpc.CandidRpc.Arguments
import EvmRpc.Canister.Endpoints
import EvmRpc.Alloy.Requests
import EvmRpc.Library.Writes

/-! The client with which other canisters call this one: how it is configured and how a request is put
together, one step after another. -/
namespace EvmRpc.Client
open Library

inductive EvmRpcEndpoint where
  | call | feeHistory | getBlockByNumber | getLogs | getTransactionCount | getTransactionReceipt | sendRawTransaction
  deriving DecidableEq, Repr

namespace EvmRpcEndpoint

/-- The name of the method of the canister. -/
def rpcMethod : EvmRpcEndpoint → String
  | .call => "eth_call"
  | .feeHistory => "eth_feeHistory"
  | .getBlockByNumber => "eth_getBlockByNumber"
  | .getLogs => "eth_getLogs"
  | .getTransactionCount => "eth_getTransactionCount"
  | .getTransactionReceipt => "eth_getTransactionReceipt"
  | .sendRawTransaction => "eth_sendRawTransaction"

/-- The method whose types a request for the endpoint has. -/
def method : EvmRpcEndpoint → RpcMethod
  | .call => .ethCall
  | .feeHistory => .ethFeeHistory
  | .getBlockByNumber => .ethGetBlockByNumber
  | .getLogs => .ethGetLogs
  | .getTransactionCount => .ethGetTransactionCount
  | .getTransactionReceipt => .ethGetTransactionReceipt
  | .sendRawTransaction => .ethSendRawTransaction

theorem rpcMethod_eq (endpoint : EvmRpcEndpoint) : endpoint.rpcMethod = endpoint.method.name := by
  cases endpoint <;> rfl

end EvmRpcEndpoint

section Configuration

structure ClientConfig (R : Type) where
  runtime : R
  evmRpcCanister : Principal
  rpcConfig : Option RpcConfig
  rpcServices : RpcServices

structure ClientBuilder (R : Type) where
  config : ClientConfig R

structure EvmRpcClient (R : Type) where
  config : ClientConfig R

/-- The canister that is run under the control of the network. -/
def EVM_RPC_CANISTER : Principal := ⟨[0,0,0,0,2,48,0,204,1,1]⟩

namespace ClientBuilder
variable {R S : Type}

def new (runtime : R) (evmRpcCanister : Principal) : ClientBuilder R := ⟨⟨runtime,evmRpcCanister,none,.ethMainnet none⟩⟩

def withRuntime (otherRuntime : R → S) (builder : ClientBuilder R) : ClientBuilder S :=
  ⟨⟨otherRuntime builder.config.runtime,builder.config.evmRpcCanister,builder.config.rpcConfig,builder.config.rpcServices⟩⟩

def withRpcSources (rpcServices : RpcServices) (builder : ClientBuilder R) : ClientBuilder R :=
  ⟨{builder.config with rpcServices := rpcServices}⟩

def withRpcConfig (rpcConfig : RpcConfig) (builder : ClientBuilder R) : ClientBuilder R :=
  ⟨{builder.config with rpcConfig := some rpcConfig}⟩

def withConsensusStrategy (consensusStrategy : ConsensusStrategy) (builder : ClientBuilder R) : ClientBuilder R :=
  ⟨{builder.config with
    rpcConfig := some {builder.config.rpcConfig.getD default with responseConsensus := some consensusStrategy}}⟩

def withResponseSizeEstimate (responseSizeEstimate : UInt64) (builder : ClientBuilder R) : ClientBuilder R :=
  ⟨{builder.config with
    rpcConfig := some {builder.config.rpcConfig.getD default with responseSizeEstimate := some responseSizeEstimate}}⟩

def build (builder : ClientBuilder R) : EvmRpcClient R := ⟨builder.config⟩

end ClientBuilder

/-- A step of a builder. -/
inductive ClientStep (R : Type) where
  | withRuntime (otherRuntime : R → R)
  | withRpcSources (rpcServices : RpcServices)
  | withRpcConfig (rpcConfig : RpcConfig)
  | withConsensusStrategy (consensusStrategy : ConsensusStrategy)
  | withResponseSizeEstimate (responseSizeEstimate : UInt64)

namespace ClientStep
variable {R : Type}

def apply (builder : ClientBuilder R) : ClientStep R → ClientBuilder R
  | .withRuntime otherRuntime => builder.withRuntime otherRuntime
  | .withRpcSources rpcServices => builder.withRpcSources rpcServices
  | .withRpcConfig rpcConfig => builder.withRpcConfig rpcConfig
  | .withConsensusStrategy consensusStrategy => builder.withConsensusStrategy consensusStrategy
  | .withResponseSizeEstimate responseSizeEstimate => builder.withResponseSizeEstimate responseSizeEstimate

def rpcServices? : ClientStep R → Option RpcServices
  | .withRpcSources rpcServices => some rpcServices
  | _ => none

/-- The consensus strategy that a step sets, possibly to none. -/
def responseConsensus? : ClientStep R → Option (Option ConsensusStrategy)
  | .withRpcConfig rpcConfig => some rpcConfig.responseConsensus
  | .withConsensusStrategy consensusStrategy => some (some consensusStrategy)
  | _ => none

def responseSizeEstimate? : ClientStep R → Option (Option UInt64)
  | .withRpcConfig rpcConfig => some rpcConfig.responseSizeEstimate
  | .withResponseSizeEstimate responseSizeEstimate => some (some responseSizeEstimate)
  | _ => none

end ClientStep

end Configuration

/-- `Config::from` for the configuration that an endpoint takes. -/
def configFrom : (method : RpcMethod) → RpcConfig → method.Config
  | .ethGetLogs,config => (⟨config.responseSizeEstimate,config.responseConsensus,none⟩ : GetLogsRpcConfig)
  | .ethCall,config => config
  | .ethFeeHistory,config => config
  | .ethGetBlockByNumber,config => config
  | .ethGetTransactionCount,config => config
  | .ethGetTransactionReceipt,config => config
  | .ethSendRawTransaction,config => config

/-- A request, whose types follow from its endpoint. -/
structure Request (endpoint : EvmRpcEndpoint) where
  rpcServices : RpcServices
  rpcConfig : Option endpoint.method.Config
  params : endpoint.method.Args
  cycles : U128

structure RequestBuilder (R : Type) (endpoint : EvmRpcEndpoint) where
  client : EvmRpcClient R
  request : Request endpoint

namespace RequestBuilder
variable {R : Type} {endpoint : EvmRpcEndpoint}

def new (client : EvmRpcClient R) (endpoint : EvmRpcEndpoint) (params : endpoint.method.Args) (cycles : U128) :
    RequestBuilder R endpoint where
  client := client
  request := {
    rpcServices := client.config.rpcServices
    rpcConfig := client.config.rpcConfig.map (configFrom endpoint.method)
    params := params
    cycles := cycles }

def withCycles (cycles : U128) (builder : RequestBuilder R endpoint) : RequestBuilder R endpoint :=
  {builder with request := {builder.request with cycles := cycles}}

def withParams (params : endpoint.method.Args) (builder : RequestBuilder R endpoint) : RequestBuilder R endpoint :=
  {builder with request := {builder.request with params := params}}

def modifyParams (mutator : endpoint.method.Args → endpoint.method.Args) (builder : RequestBuilder R endpoint) :
    RequestBuilder R endpoint :=
  {builder with request := {builder.request with params := mutator builder.request.params}}

def withRpcConfig (rpcConfig : endpoint.method.Config) (builder : RequestBuilder R endpoint) : RequestBuilder R endpoint :=
  {builder with request := {builder.request with rpcConfig := some rpcConfig}}

def withMaxBlockRange (maxBlockRange : UInt32) (builder : RequestBuilder R .getLogs) : RequestBuilder R .getLogs :=
  {builder with request := {builder.request with
    rpcConfig := show Option GetLogsRpcConfig from
      some {Option.getD builder.request.rpcConfig (default : GetLogsRpcConfig) with maxBlockRange := some maxBlockRange}}}

end RequestBuilder

section Parameters
variable {R : Type}

def CallRequestBuilder.withBlock (block : Candid.BlockTag) : RequestBuilder R .call → RequestBuilder R .call :=
  RequestBuilder.modifyParams (fun params : Candid.CallArgs => {params with block := some block})

def FeeHistoryRequestBuilder.withBlockCount (blockCount : Nat256) :
    RequestBuilder R .feeHistory → RequestBuilder R .feeHistory :=
  RequestBuilder.modifyParams (fun params : Candid.FeeHistoryArgs => {params with blockCount := blockCount})

def FeeHistoryRequestBuilder.withNewestBlock (newestBlock : Candid.BlockTag) :
    RequestBuilder R .feeHistory → RequestBuilder R .feeHistory :=
  RequestBuilder.modifyParams (fun params : Candid.FeeHistoryArgs => {params with newestBlock := newestBlock})

def FeeHistoryRequestBuilder.withRewardPercentiles (rewardPercentiles : List UInt8) :
    RequestBuilder R .feeHistory → RequestBuilder R .feeHistory :=
  RequestBuilder.modifyParams (fun params : Candid.FeeHistoryArgs =>
    {params with rewardPercentiles := some rewardPercentiles})

def GetLogsRequestBuilder.withFromBlock (fromBlock : Candid.BlockTag) : RequestBuilder R .getLogs → RequestBuilder R .getLogs :=
  RequestBuilder.modifyParams (fun params : Candid.GetLogsArgs => {params with fromBlock := some fromBlock})

def GetLogsRequestBuilder.withToBlock (toBlock : Candid.BlockTag) : RequestBuilder R .getLogs → RequestBuilder R .getLogs :=
  RequestBuilder.modifyParams (fun params : Candid.GetLogsArgs => {params with toBlock := some toBlock})

def GetLogsRequestBuilder.withAddresses (addresses : List Hex20) : RequestBuilder R .getLogs → RequestBuilder R .getLogs :=
  RequestBuilder.modifyParams (fun params : Candid.GetLogsArgs => {params with addresses := addresses})

def GetLogsRequestBuilder.withTopics (topics : List (List Hex32)) : RequestBuilder R .getLogs → RequestBuilder R .getLogs :=
  RequestBuilder.modifyParams (fun params : Candid.GetLogsArgs => {params with topics := some topics})

def GetTransactionCountRequestBuilder.withAddress (address : Hex20) :
    RequestBuilder R .getTransactionCount → RequestBuilder R .getTransactionCount :=
  RequestBuilder.modifyParams (fun params : Candid.GetTransactionCountArgs => {params with address := address})

def GetTransactionCountRequestBuilder.withBlock (block : Candid.BlockTag) :
    RequestBuilder R .getTransactionCount → RequestBuilder R .getTransactionCount :=
  RequestBuilder.modifyParams (fun params : Candid.GetTransactionCountArgs => {params with block := block})

end Parameters

namespace EvmRpcClient
variable {R : Type} (client : EvmRpcClient R)

/-- `call`, which panics for a request that cannot be converted. -/
def call (debug : RpcError → String) (params : RpcResult Candid.CallArgs) : Outcome (RequestBuilder R .call) :=
  match params with
  | .ok params => .done (.new client .call params 10000000000)
  | .error e => .trap ("Invalid transaction request: " ++ debug e)

def getBlockByNumber (params : Candid.BlockTag) : RequestBuilder R .getBlockByNumber :=
  .new client .getBlockByNumber params 10000000000

def feeHistory (params : Candid.FeeHistoryArgs) : RequestBuilder R .feeHistory := .new client .feeHistory params 10000000000

def getLogs (params : Candid.GetLogsArgs) : RequestBuilder R .getLogs := .new client .getLogs params 10000000000

def getTransactionCount (params : Candid.GetTransactionCountArgs) : RequestBuilder R .getTransactionCount :=
  .new client .getTransactionCount params 10000000000

def getTransactionReceipt (params : Hex32) : RequestBuilder R .getTransactionReceipt :=
  .new client .getTransactionReceipt params 10000000000

def sendRawTransaction (params : Hex) : RequestBuilder R .sendRawTransaction :=
  .new client .sendRawTransaction params 10000000000

end EvmRpcClient

/-- The builders that a client hands out for parameters. -/
inductive Begun {R : Type} (client : EvmRpcClient R) :
    (endpoint : EvmRpcEndpoint) → endpoint.method.Args → RequestBuilder R endpoint → Prop
  | call {debug : RpcError → String} {params : Candid.CallArgs} {builder : RequestBuilder R .call}
      (begun : client.call debug (.ok params) = .done builder) : Begun client .call params builder
  | getBlockByNumber (params : Candid.BlockTag) : Begun client .getBlockByNumber params (client.getBlockByNumber params)
  | feeHistory (params : Candid.FeeHistoryArgs) : Begun client .feeHistory params (client.feeHistory params)
  | getLogs (params : Candid.GetLogsArgs) : Begun client .getLogs params (client.getLogs params)
  | getTransactionCount (params : Candid.GetTransactionCountArgs) :
      Begun client .getTransactionCount params (client.getTransactionCount params)
  | getTransactionReceipt (params : Hex32) : Begun client .getTransactionReceipt params (client.getTransactionReceipt params)
  | sendRawTransaction (params : Hex) : Begun client .sendRawTransaction params (client.sendRawTransaction params)

theorem Begun.eq_new {R : Type} {client : EvmRpcClient R} {endpoint : EvmRpcEndpoint} {params : endpoint.method.Args}
    {builder : RequestBuilder R endpoint} (begun : Begun client endpoint params builder) :
    builder = .new client endpoint params 10000000000 := by
  cases begun with
  | call begun =>
    cases begun
    rfl
  | _ => rfl

/-- A step of a request, those for single parameters being modifications. -/
inductive RequestStep : EvmRpcEndpoint → Type
  | withCycles {endpoint : EvmRpcEndpoint} (cycles : U128) : RequestStep endpoint
  | withParams {endpoint : EvmRpcEndpoint} (params : endpoint.method.Args) : RequestStep endpoint
  | modifyParams {endpoint : EvmRpcEndpoint} (mutator : endpoint.method.Args → endpoint.method.Args) : RequestStep endpoint
  | withRpcConfig {endpoint : EvmRpcEndpoint} (rpcConfig : endpoint.method.Config) : RequestStep endpoint
  | withMaxBlockRange (maxBlockRange : UInt32) : RequestStep .getLogs

/-- What the client of the canister is configured with, defaults included. -/
def settings (method : RpcMethod) (config : Option method.Config) : RpcConfig := (method.rpcConfig config).getD default

/-- The limit on block ranges that logs are asked for with. -/
def maxBlockRange : (endpoint : EvmRpcEndpoint) → Option endpoint.method.Config → Option UInt32
  | .getLogs,config => Option.bind config GetLogsRpcConfig.maxBlockRange
  | _,_ => none

namespace RequestStep
variable {R : Type} {endpoint : EvmRpcEndpoint}

def apply (builder : RequestBuilder R endpoint) : RequestStep endpoint → RequestBuilder R endpoint
  | .withCycles cycles => builder.withCycles cycles
  | .withParams params => builder.withParams params
  | .modifyParams mutator => builder.modifyParams mutator
  | .withRpcConfig rpcConfig => builder.withRpcConfig rpcConfig
  | .withMaxBlockRange maxBlockRange => builder.withMaxBlockRange maxBlockRange

def cycles? : RequestStep endpoint → Option U128
  | .withCycles cycles => some cycles
  | _ => none

def changed (params : endpoint.method.Args) : RequestStep endpoint → endpoint.method.Args
  | .withParams params => params
  | .modifyParams mutator => mutator params
  | _ => params

def responseConsensus? : RequestStep endpoint → Option (Option ConsensusStrategy)
  | .withRpcConfig rpcConfig => some (settings endpoint.method (some rpcConfig)).responseConsensus
  | _ => none

def responseSizeEstimate? : RequestStep endpoint → Option (Option UInt64)
  | .withRpcConfig rpcConfig => some (settings endpoint.method (some rpcConfig)).responseSizeEstimate
  | _ => none

def maxBlockRange? : RequestStep endpoint → Option (Option UInt32)
  | .withRpcConfig rpcConfig => some (maxBlockRange endpoint (some rpcConfig))
  | .withMaxBlockRange maxBlockRange => some (some maxBlockRange)
  | _ => none

end RequestStep

/-- The methods of builders that set a single parameter. -/
inductive SetsParameter {R : Type} :
    (endpoint : EvmRpcEndpoint) → (RequestBuilder R endpoint → RequestBuilder R endpoint) → Prop
  | callBlock (block : Candid.BlockTag) : SetsParameter .call (CallRequestBuilder.withBlock block)
  | blockCount (blockCount : Nat256) : SetsParameter .feeHistory (FeeHistoryRequestBuilder.withBlockCount blockCount)
  | newestBlock (newestBlock : Candid.BlockTag) :
      SetsParameter .feeHistory (FeeHistoryRequestBuilder.withNewestBlock newestBlock)
  | rewardPercentiles (rewardPercentiles : List UInt8) :
      SetsParameter .feeHistory (FeeHistoryRequestBuilder.withRewardPercentiles rewardPercentiles)
  | fromBlock (fromBlock : Candid.BlockTag) : SetsParameter .getLogs (GetLogsRequestBuilder.withFromBlock fromBlock)
  | toBlock (toBlock : Candid.BlockTag) : SetsParameter .getLogs (GetLogsRequestBuilder.withToBlock toBlock)
  | addresses (addresses : List Hex20) : SetsParameter .getLogs (GetLogsRequestBuilder.withAddresses addresses)
  | topics (topics : List (List Hex32)) : SetsParameter .getLogs (GetLogsRequestBuilder.withTopics topics)
  | address (address : Hex20) :
      SetsParameter .getTransactionCount (GetTransactionCountRequestBuilder.withAddress address)
  | block (block : Candid.BlockTag) : SetsParameter .getTransactionCount (GetTransactionCountRequestBuilder.withBlock block)

/-- A method for a single parameter is a step of the request that modifies its parameters. -/
theorem SetsParameter.modifies {R : Type} {endpoint : EvmRpcEndpoint}
    {set : RequestBuilder R endpoint → RequestBuilder R endpoint} (sets : SetsParameter endpoint set) :
    ∃ mutator, ∀ builder, set builder = RequestStep.apply builder (.modifyParams mutator) := by
  obtain ⟨mutator,rfl⟩ : ∃ mutator, set = RequestBuilder.modifyParams mutator := by
    cases sets <;> exact ⟨_,rfl⟩
  exact ⟨mutator,fun _ => rfl⟩

section Settings
open Library.Writes
variable {R : Type} {endpoint : EvmRpcEndpoint}

@[simp] theorem settings_configFrom (method : RpcMethod) (config : RpcConfig) :
    settings method (some (configFrom method config)) = config := by
  cases method <;> rfl

@[simp] theorem settings_none (method : RpcMethod) : settings method none = default := by
  cases method <;> rfl

theorem settings_map_configFrom (method : RpcMethod) (config : Option RpcConfig) :
    settings method (config.map (configFrom method)) = config.getD default := by
  cases config with
  | none => exact settings_none method
  | some config => exact settings_configFrom method config

theorem maxBlockRange_configFrom (config : Option RpcConfig) :
    maxBlockRange endpoint (config.map (configFrom endpoint.method)) = none := by
  cases endpoint <;> cases config <;> rfl

theorem settings_withMaxBlockRange (builder : RequestBuilder R .getLogs) (range : UInt32) :
    settings .ethGetLogs (builder.withMaxBlockRange range).request.rpcConfig = settings .ethGetLogs builder.request.rpcConfig := by
  simp only [RequestBuilder.withMaxBlockRange]
  cases builder.request.rpcConfig <;> rfl

theorem ClientStep.overwrites_rpcServices :
    Overwrites apply (fun builder : ClientBuilder R => builder.config.rpcServices) rpcServices? := by
  intro builder step
  cases step <;> rfl

theorem ClientStep.overwrites_responseConsensus :
    Overwrites apply (fun builder : ClientBuilder R => (builder.config.rpcConfig.getD default).responseConsensus)
      responseConsensus? := by
  intro builder step
  cases step <;> rfl

theorem ClientStep.overwrites_responseSizeEstimate :
    Overwrites apply (fun builder : ClientBuilder R => (builder.config.rpcConfig.getD default).responseSizeEstimate)
      responseSizeEstimate? := by
  intro builder step
  cases step <;> rfl

theorem ClientStep.untouched_evmRpcCanister :
    Untouched apply (fun builder : ClientBuilder R => builder.config.evmRpcCanister) := by
  intro builder step
  cases step <;> rfl

theorem RequestStep.overwrites_cycles :
    Overwrites apply (fun builder : RequestBuilder R endpoint => builder.request.cycles) cycles? := by
  intro builder step
  cases step <;> rfl

theorem RequestStep.overwrites_responseConsensus :
    Overwrites apply (fun builder : RequestBuilder R endpoint =>
      (settings endpoint.method builder.request.rpcConfig).responseConsensus) responseConsensus? := by
  intro builder step
  cases step with
  | withMaxBlockRange range => exact congrArg RpcConfig.responseConsensus (settings_withMaxBlockRange builder range)
  | _ => rfl

theorem RequestStep.overwrites_responseSizeEstimate :
    Overwrites apply (fun builder : RequestBuilder R endpoint =>
      (settings endpoint.method builder.request.rpcConfig).responseSizeEstimate) responseSizeEstimate? := by
  intro builder step
  cases step with
  | withMaxBlockRange range => exact congrArg RpcConfig.responseSizeEstimate (settings_withMaxBlockRange builder range)
  | _ => rfl

theorem RequestStep.overwrites_maxBlockRange :
    Overwrites apply (fun builder : RequestBuilder R endpoint => maxBlockRange endpoint builder.request.rpcConfig)
      maxBlockRange? := by
  intro builder step
  cases step <;> rfl

theorem RequestStep.changed_params (builder : RequestBuilder R endpoint) (step : RequestStep endpoint) :
    (step.apply builder).request.params = step.changed builder.request.params := by
  cases step <;> rfl

theorem RequestStep.untouched_evmRpcCanister :
    Untouched apply (fun builder : RequestBuilder R endpoint => builder.client.config.evmRpcCanister) := by
  intro builder step
  cases step <;> rfl

theorem RequestStep.untouched_rpcServices :
    Untouched apply (fun builder : RequestBuilder R endpoint => builder.request.rpcServices) := by
  intro builder step
  cases step <;> rfl

/-- Whatever the steps by which a client and then a request are put together: the request goes to the
canister that the client was made for, to the providers that were named last, with the amount of cycles
that was set last. Its parameters have gone through all of the changes in order. A setting is the one that
the request has set last, or else the client, a whole configuration being a setting of all. -/
theorem requests_say_what_was_last_set (runtime : R) (evmRpcCanister : Principal) (clientSteps : List (ClientStep R))
    {params : endpoint.method.Args} {builder : RequestBuilder R endpoint}
    (begun : Begun (clientSteps.foldl ClientStep.apply (.new runtime evmRpcCanister)).build endpoint params builder)
    (steps : List (RequestStep endpoint)) :
    let sent := steps.foldl RequestStep.apply builder
    let set := settings endpoint.method sent.request.rpcConfig
    sent.client.config.evmRpcCanister = evmRpcCanister ∧
    sent.request.rpcServices = (last ClientStep.rpcServices? clientSteps).getD (.ethMainnet none) ∧
    sent.request.params = steps.foldl RequestStep.changed params ∧
    sent.request.cycles = (last RequestStep.cycles? steps).getD 10000000000 ∧
    set.responseConsensus =
      (last RequestStep.responseConsensus? steps).getD ((last ClientStep.responseConsensus? clientSteps).getD none) ∧
    set.responseSizeEstimate =
      (last RequestStep.responseSizeEstimate? steps).getD ((last ClientStep.responseSizeEstimate? clientSteps).getD none) ∧
    maxBlockRange endpoint sent.request.rpcConfig = (last RequestStep.maxBlockRange? steps).getD none := by
  obtain rfl := begun.eq_new
  refine ⟨?_,?_,?_,?_,?_,?_,?_⟩
  · exact (RequestStep.untouched_evmRpcCanister.fold _ steps).trans (ClientStep.untouched_evmRpcCanister.fold _ clientSteps)
  · exact (RequestStep.untouched_rpcServices.fold _ steps).trans (ClientStep.overwrites_rpcServices.fold _ clientSteps)
  · exact (List.foldl_hom (fun builder : RequestBuilder R endpoint => builder.request.params)
      (fun builder step => (RequestStep.changed_params builder step).symm)).symm
  · exact RequestStep.overwrites_cycles.fold _ steps
  · rw [RequestStep.overwrites_responseConsensus.fold]
    apply congrArg
    rw [RequestBuilder.new,settings_map_configFrom]
    exact ClientStep.overwrites_responseConsensus.fold _ clientSteps
  · rw [RequestStep.overwrites_responseSizeEstimate.fold]
    apply congrArg
    rw [RequestBuilder.new,settings_map_configFrom]
    exact ClientStep.overwrites_responseSizeEstimate.fold _ clientSteps
  · rw [RequestStep.overwrites_maxBlockRange.fold]
    apply congrArg
    exact maxBlockRange_configFrom _

/-- A limit on block ranges goes with the configuration that replaces the one it was set in, and so does the
strategy of the client. -/
theorem requests_say_what_was_last_set_for_logs :
    let client := ((ClientBuilder.new () EVM_RPC_CANISTER).withConsensusStrategy (.threshold (some 3) 2)).build
    let sent := (((client.getLogs ⟨none,none,[],none⟩).withMaxBlockRange 200).withRpcConfig
      (configFrom EvmRpcEndpoint.getLogs.method ⟨some 500,none⟩)).withCycles 7
    sent.request.cycles = 7 ∧ (settings .ethGetLogs sent.request.rpcConfig).responseConsensus = none ∧
      (settings .ethGetLogs sent.request.rpcConfig).responseSizeEstimate = some 500 ∧
      maxBlockRange .getLogs sent.request.rpcConfig = none := by
  obtain ⟨_,_,_,cycles,consensus,estimate,range⟩ := requests_say_what_was_last_set () EVM_RPC_CANISTER
    [.withConsensusStrategy (.threshold (some 3) 2)] (.getLogs ⟨none,none,[],none⟩)
    [.withMaxBlockRange 200,.withRpcConfig (configFrom EvmRpcEndpoint.getLogs.method ⟨some 500,none⟩),.withCycles 7]
  exact ⟨cycles,consensus,estimate,range⟩

end Settings
end EvmRpc.Client
