import EvmRpc.Canister.Calls

/-! What can be seen of the canister from outside of its outcalls: answers to messages
and queries, entries of the log, charges and metrics. -/
namespace EvmRpc
open Library

/-- What a caller is answered, as soon as it is known. The answer of `request` is the
response as a text. -/
inductive Answer where
  | eth (method : RpcMethod) (answer : MultiRpcResult method.CandidType)
  | request (answer : RpcResult (List UInt8))
  | updateApiKeys

inductive ResponseBody where
  | eth (method : RpcMethod) (id : Id) (result : Except ServerError method.JsonType)
  | request (id : Id) (result : Except ServerError Json)

/-- An entry of the log, with all that its line is formatted from. -/
inductive LogEntry where
  | sent (requestId : Id) (host : MetricRpcHost) (body : JsonRpcRequest)
  | received (requestId : Id) (status : UInt16) (body : ResponseBody)
  | icError (requestId : Id) (error : IcError)
  | unsuccessful (requestId : Id) (status : UInt16) (body : String)
  | invalid (requestId : Id) (error : HttpClientError)
  | unexpected (message : String)
  | updating (caller : Principal) (providers : List ProviderId)

structure Observation where
  answers : List Answer
  logged : List LogEntry
  charged : List U128

def HttpClientError.logged (canhttp : Canhttp) (data : MetricData) (error : HttpClientError) : List LogEntry :=
  match error with
  | .icError refused => if canhttp.tooLarge refused then [] else [.icError data.requestId refused]
  | .unsuccessfulHttpResponse status body => [.unsuccessful data.requestId status (canhttp.fromUtf8Lossy body)]
  | .invalidJsonResponse _ _ _ => [.invalid data.requestId error]
  | .invalidJsonResponseId _ _ _ => [.invalid data.requestId error]
  | .notHandledError message => [.unexpected message]
  | .cyclesAccountingError _ _ => []

/-- What an attempt logs, given the response that ends it if it succeeds. -/
def AttemptEvent.logged (canhttp : Canhttp) (body : Option ResponseBody) : AttemptEvent → List LogEntry
  | .began started => [.sent started.data.requestId started.data.host started.request.body]
  | .ended data (.ok status) => (body.map (.received data.requestId status)).toList
  | .ended data (.error error) => error.logged canhttp data

def AttemptEvent.charged : AttemptEvent → Option U128
  | .began started => started.sent.toOption.map Charged.charged
  | .ended _ _ => none

structure Candid.Provider where
  providerId : ProviderId
  chainId : UInt64
  access : RpcAccess
  serviceAlias : Option RpcService

def intoProvider (provider : Provider) : Candid.Provider :=
  ⟨provider.providerId,provider.chainId,provider.access,provider.serviceAlias.map SupportedRpcService.toRpcService⟩

def getProviders : List Candid.Provider := PROVIDERS.map intoProvider

/-- The entries of a hash map, here in the order of the table. -/
def getServiceProviderMap : List (RpcService × ProviderId) :=
  (PROVIDERS.filterMap Provider.serviceAlias).dedup.filterMap (fun service =>
    (serviceProviderMap service).map (fun id => (service.toRpcService,id)))

inductive Query where
  | requestCost (service : RpcService) (jsonRpcPayload : String) (maxResponseBytes : UInt64)
  | getProviders
  | getServiceProviderMap
  | getNodesInSubnet
  | getMetrics

inductive QueryAnswer where
  | cost (answer : RpcResult U128)
  | providers (answer : List Candid.Provider)
  | serviceProviderMap (answer : List (RpcService × ProviderId))
  | nodes (answer : UInt32)
  | metrics (answer : Metrics)

/-- A message to the canister or its upgrade, after which nothing waits any more. -/
inductive Action where
  | message (event : Event)
  | upgrade (args : InstallArgs)

namespace Canister

section Observations
variable {M : Type} (platform : Platform M) (canister : Canister M)

def decoded (id : ℕ) (reply : Except IcError HttpResponse) : Option ResponseBody :=
  match canister.calls id,reply with
  | some (.eth method _),.ok response =>
    (platform.crates.rpc.response (method.format platform.crates.text) response.body).map
      (fun (id,result) => .eth method id result)
  | some (.request _),.ok response =>
    (platform.crates.rpc.response .value response.body).map (fun (id,result) => .request id result)
  | _,_ => none

/-- The answer of an endpoint that gives up before its first outcall. -/
def refused (now : Timestamp) (source : RpcServices) (config : Option RpcConfig) (method : RpcMethod)
    (params : Except ValidationError Json) : List Answer :=
  match EthRpcClient.new platform.timed source config now canister.memory.okResultsTimestamps,params with
  | .done (.error error,_),_ => [.eth method (.consistent (.error (.providerError error)))]
  | .done (.ok _,_),.error error => [.eth method (.consistent (.error (.validationError error)))]
  | _,_ => []

/-- What `request` answers without waiting for a reply. -/
def requestFailed (service : RpcService) (jsonRpcPayload : String) (maxResponseBytes : UInt64) (available : U128) :
    List Answer :=
  match request platform.regex platform.http platform.canhttp canister.memory service jsonRpcPayload maxResponseBytes
    available with
  | .done (.error error,_) => [.request (.error error)]
  | .done (.ok started,_) =>
    match started.sent with
    | .ok _ => []
    | .error error => [.request (.error (error.toRpcError platform.canhttp))]
  | .trap _ => []

def requestAnswered (id : ℕ) (reply : Except IcError HttpResponse) : List Answer :=
  match canister.calls id with
  | some (.request started) =>
    match receive platform.canhttp platform.crates.rpc .value started.data.requestId reply with
    | .error error => [.request (.error (error.toRpcError platform.canhttp))]
    | .ok _ => (reply.toOption.bind (fun response => platform.crates.rpc.response .value response.body)).toList.map
        (fun (id,result) => .request (.ok (platform.crates.rpc.writeResponse .value id result)))
  | _ => []

/-- What the message itself is answered, beside the calls that it completes. -/
def answered (event : Event) : List Answer :=
  match event.message with
  | .ethCall source config method _ params _ => canister.refused platform event.time source config method params
  | .ethReply _ _ _ => []
  | .request service jsonRpcPayload maxResponseBytes available =>
    canister.requestFailed platform service jsonRpcPayload maxResponseBytes available
  | .requestReply id reply => canister.requestAnswered platform id reply
  | .updateApiKeys _ _ _ => [.updateApiKeys]

/-- The entries that one message adds to the log of the canister. -/
def loggedBy (message : Message) (events : List AttemptEvent) : List LogEntry :=
  match message with
  | .ethReply id _ reply => events.flatMap (AttemptEvent.logged platform.canhttp (canister.decoded platform id reply))
  | .requestReply id reply => events.flatMap (AttemptEvent.logged platform.canhttp (canister.decoded platform id reply))
  | .updateApiKeys caller _ apiKeys => [.updating caller (apiKeys.map Prod.fst)]
  | _ => events.flatMap (AttemptEvent.logged platform.canhttp none)

def query : Query → Outcome QueryAnswer
  | .requestCost service jsonRpcPayload maxResponseBytes => .cost <$> requestCost platform.regex platform.http
      platform.canhttp canister.memory service jsonRpcPayload maxResponseBytes
  | .getProviders => .done (.providers getProviders)
  | .getServiceProviderMap => .done (.serviceProviderMap getServiceProviderMap)
  | .getNodesInSubnet => .done (.nodes canister.memory.numSubnetNodes)
  | .getMetrics => .done (.metrics canister.memory.metrics)

def act (action : Action) : Outcome (Canister M) :=
  match action with
  | .message event => canister.step platform event
  | .upgrade args => do
    let memory ← postUpgrade platform.regex args (canister.memory.upgraded platform.timed)
    .done {canister with memory := memory, calls := fun _ => none}

/-- Everything that an action shows outside of the outcalls: answers, new entries of the
log and charges, or the message of a trap. -/
def observed (action : Action) : Outcome Observation := do
  let next ← canister.act platform action
  let events := next.journal.drop canister.journal.length
  let completed := next.completed.drop canister.completed.length
  match action with
  | .message event => .done {
      answers := canister.answered platform event ++
        completed.map (fun completion => .eth completion.method completion.answer)
      logged := canister.loggedBy platform event.message events
      charged := events.filterMap AttemptEvent.charged}
  | .upgrade _ => .done ⟨[],[],[]⟩

end Observations

end Canister
end EvmRpc
