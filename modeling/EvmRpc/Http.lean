import EvmRpc.External.HttpReference
import EvmRpc.Memory

/-! The HTTP client of the canister: its layers around one outcall, the price that a
caller pays for it, and the endpoints `request` and `requestCost`. -/
namespace EvmRpc
open Library

def CONTENT_TYPE_VALUE : String := "application/json"
def COLLATERAL_CYCLES_PER_NODE : U128 := 10000000

namespace U128

def MAX : U128 := Fin.last _

def saturatingAdd (a b : U128) : U128 := if sum : a.1+b.1 < 2^128 then ⟨a.1+b.1,sum⟩ else MAX

def saturatingMul (a b : U128) : U128 := if product : a.1*b.1 < 2^128 then ⟨a.1*b.1,product⟩ else MAX

theorem le_saturatingAdd (a b : U128) : a ≤ a.saturatingAdd b := by
  unfold saturatingAdd
  split
  · exact Fin.mk_le_mk.mpr (Nat.le_add_right a.1 b.1)
  · exact Fin.le_last a

theorem le_saturatingAdd_right (a b : U128) : b ≤ a.saturatingAdd b := by
  unfold saturatingAdd
  split
  · exact Fin.mk_le_mk.mpr (Nat.le_add_left b.1 a.1)
  · exact Fin.le_last b

end U128

inductive HttpClientError where
  | icError (error : IcError)
  | notHandledError (message : String)
  | cyclesAccountingError (expected received : U128)
  | unsuccessfulHttpResponse (status : UInt16) (body : List UInt8)
  | invalidJsonResponse (status : UInt16) (body parsingError : String)
  | invalidJsonResponseId (status : UInt16) (requestId responseId : Id)
  deriving DecidableEq, Repr

namespace HttpClientError

def toRpcError (canhttp : Canhttp) : HttpClientError → RpcError
  | .icError error => .httpOutcallError (.icError (.ofRejectCode error.code) error.message)
  | .notHandledError message => .validationError (.custom message)
  | .cyclesAccountingError expected received => .providerError (.tooFewCycles expected received)
  | .invalidJsonResponse status body parsingError =>
    .httpOutcallError (.invalidHttpJsonRpcResponse status body (some parsingError))
  | .unsuccessfulHttpResponse status body =>
    .httpOutcallError (.invalidHttpJsonRpcResponse status (canhttp.fromUtf8Lossy body) none)
  | .invalidJsonResponseId status requestId responseId =>
    .validationError (.custom (canhttp.inconsistentId status requestId responseId))

def isResponseTooLarge (canhttp : Canhttp) : HttpClientError → Bool
  | .icError error => canhttp.tooLarge error
  | _ => false

end HttpClientError

structure ChargingPolicyWithCollateral where
  chargeUser : Bool
  collateralCycles : U128
  deriving DecidableEq, Repr

namespace ChargingPolicyWithCollateral

def new (numNodesInSubnet : UInt32) (chargeUser : Bool) (collateralCyclesPerNode : U128) :
    ChargingPolicyWithCollateral :=
  ⟨chargeUser,collateralCyclesPerNode.saturatingMul (Fin.ofNat _ numNodesInSubnet.toNat)⟩

def default {M : Type} (memory : Memory M) : ChargingPolicyWithCollateral :=
  new memory.numSubnetNodes (!memory.isDemoActive) COLLATERAL_CYCLES_PER_NODE

def cyclesToCharge (policy : ChargingPolicyWithCollateral) (attachedCycles : U128) : U128 :=
  if policy.chargeUser then attachedCycles.saturatingAdd policy.collateralCycles else 0

end ChargingPolicyWithCollateral

/-- The layer of `canhttp` that charges the caller, with what it read when the
client was made. -/
structure CyclesAccounting where
  nodes : UInt32
  policy : ChargingPolicyWithCollateral

/-- An outcall with the cycles attached to it and those taken from the caller. -/
structure Charged where
  request : IcHttpRequest
  attached : U128
  charged : U128
  deriving DecidableEq, Repr

namespace CyclesAccounting

def ofMemory {M : Type} (memory : Memory M) : CyclesAccounting := ⟨memory.numSubnetNodes,.default memory⟩

def convert (canhttp : Canhttp) (accounting : CyclesAccounting) (available : U128) (request : IcHttpRequest) :
    Except HttpClientError Charged :=
  let attached := canhttp.costOfHttpRequest accounting.nodes request
  let charged := accounting.policy.cyclesToCharge attached
  if charged > 0 ∧ available < charged then .error (.cyclesAccountingError charged available)
  else .ok ⟨request,attached,charged⟩

end CyclesAccounting

structure MetricData where
  method : MetricRpcMethod
  host : MetricRpcHost
  requestId : Id
  deriving DecidableEq, Repr

/-- An attempt after the layers of the client: the request with its identifier, and
the outcall that was made unless a layer failed. -/
structure Started where
  data : MetricData
  request : HttpJsonRpcRequest
  sent : Except HttpClientError Charged

section Client
variable {M : Type} (regex : Regex) (http : HttpCrate) (canhttp : Canhttp)

/-- `ResolvedRpcService::post` with the key store and the override of the memory. -/
def ResolvedRpcService.post (memory : Memory M) (service : ResolvedRpcService) : Outcome (RpcResult Builder) := do
  match ← service.apiWithOverride regex memory.getApiKey memory.overrideProvider with
  | .error error => .done (.error error)
  | .ok target => .done (.ok ((target.headers.getD []).foldl (Builder.header http) (Builder.post http target.url)))

def jsonRpcRequestArg (memory : Memory M) (service : ResolvedRpcService) (jsonRpcPayload : String)
    (maxResponseBytes : UInt64) : Outcome (RpcResult HttpJsonRpcRequest) :=
  match canhttp.parseRequest jsonRpcPayload with
  | .error e => .done (.error (.validationError (.custom ("Invalid JSON RPC request: " ++ e))))
  | .ok body => do
    match ← service.post regex http memory with
    | .error error => .done (.error error)
    | .ok builder =>
      match ((builder.maxResponseBytes maxResponseBytes).transformContext ⟨"__transform_json_rpc",[]⟩).body body with
      | .ok request => .done (.ok request)
      | .error e => .done (.error (.validationError (.custom ("Invalid request: " ++ e))))

def serviceRequestBuilder (request : HttpJsonRpcRequest) : Except HttpClientError IcHttpRequest :=
  let headers := insertHeader ⟨"content-type",CONTENT_TYPE_VALUE⟩ request.parts.headers
  match canhttp.encodeRequest request.body with
  | .error e => .error (.notHandledError e)
  | .ok body =>
    match convertRequest http ⟨{request.parts with headers := headers},body⟩ with
    | .error e => .error (.notHandledError e)
    | .ok converted => .ok converted

def generateRequestId (request : HttpJsonRpcRequest) (memory : Memory M) : HttpJsonRpcRequest × Memory M :=
  let (id,memory) := memory.nextRequestId
  (⟨request.parts,{request.body with id := .number id}⟩,memory)

def onRequest (method : MetricRpcMethod) (request : HttpJsonRpcRequest) (memory : Memory M) :
    Outcome (MetricData × Memory M) := do
  let host ← Outcome.ofOption "called `Option::unwrap()` on a `None` value" request.parts.uri.host
  let requests := addMetricEntry memory.metrics.requests (method,⟨host⟩) 1
  .done (⟨method,⟨host⟩,request.body.id⟩,{memory with metrics := {memory.metrics with requests := requests}})

/-- One pass through the layers of `http_client` down to the outcall. Only a client
that retries gives each attempt a new identifier, and a null one is never sent. -/
def startAttempt (accounting : CyclesAccounting) (method : MetricRpcMethod) (retry : Bool) (available : U128)
    (request : HttpJsonRpcRequest) (memory : Memory M) : Outcome (Started × Memory M) := do
  let (request,memory) := if retry then generateRequestId request memory else (request,memory)
  let (data,memory) ← onRequest method request memory
  canhttp.createJsonRpcIdFilter request.body.id
  let sent := match serviceRequestBuilder http canhttp request with
    | .error error => .error error
    | .ok converted => accounting.convert canhttp available converted
  .done (⟨data,request,sent⟩,memory)

section Responses
variable {α : Type}

def receive (rpc : JsonRpcWire) (format : Json.Format α) (requestId : Id) (reply : Except IcError HttpResponse) :
    Except HttpClientError (UInt16 × Except ServerError α) :=
  match reply with
  | .error error => .error (.icError error)
  | .ok response =>
    match canhttp.convertResponse response with
    | .error e => .error (.notHandledError e)
    | .ok status =>
      if ¬ (200 ≤ status ∧ status < 300) then .error (.unsuccessfulHttpResponse status response.body)
      else
        match rpc.response format response.body with
        | none =>
          .error (.invalidJsonResponse status (canhttp.fromUtf8Lossy response.body) (canhttp.parsingError response.body))
        | some (id,result) =>
          let serverError := match result with
            | .ok _ => none
            | .error error => some error
          if canhttp.consistentId requestId id serverError then .ok (status,result)
          else .error (.invalidJsonResponseId status requestId id)

def observeResponse (data : MetricData) (status : UInt16) (metrics : Metrics) : Metrics :=
  {metrics with responses :=
    addMetricEntry metrics.responses (data.method,data.host,⟨toString status.toNat⟩) 1}

def onError (data : MetricData) (metrics : Metrics) : HttpClientError → Metrics
  | .icError error =>
    if canhttp.tooLarge error then
      {metrics with errMaxResponseSizeExceeded :=
        addMetricEntry metrics.errMaxResponseSizeExceeded (data.method,data.host) 1}
    else
      {metrics with errHttpOutcall :=
        addMetricEntry metrics.errHttpOutcall (data.method,data.host,.ofRejectCode error.code) 1}
  | .unsuccessfulHttpResponse status _ => observeResponse data status metrics
  | .invalidJsonResponse status _ _ => observeResponse data status metrics
  | .invalidJsonResponseId status _ _ => observeResponse data status metrics
  | .notHandledError _ => metrics
  | .cyclesAccountingError _ _ => metrics

def observe (data : MetricData) (outcome : Except HttpClientError (UInt16 × Except ServerError α)) (memory : Memory M) :
    Memory M :=
  {memory with metrics := match outcome with
    | .ok (status,_) => observeResponse data status memory.metrics
    | .error error => onError canhttp data memory.metrics error}

/-- The request that the retry layer sends after an outcome, if it retries. -/
def retried (request : HttpJsonRpcRequest) (outcome : Except HttpClientError α) : Option HttpJsonRpcRequest :=
  match outcome with
  | .ok _ => none
  | .error error =>
    if error.isResponseTooLarge canhttp then
      (canhttp.doubled request.parts.maxResponseBytes).map (fun bytes =>
        {request with parts := {request.parts with maxResponseBytes := some bytes}})
    else none

def intoResult (outcome : Except HttpClientError (UInt16 × Except ServerError α)) : RpcResult α :=
  match outcome with
  | .ok (_,.ok value) => .ok value
  | .ok (_,.error error) => .error (.jsonRpcError ⟨error.code,error.message⟩)
  | .error error => .error (error.toRpcError canhttp)

end Responses

/-- The endpoint `request` up to its outcall. -/
def request (memory : Memory M) (service : RpcService) (jsonRpcPayload : String) (maxResponseBytes : UInt64)
    (available : U128) : Outcome (RpcResult Started × Memory M) :=
  match resolveRpcService service with
  | .error error => .done (.error (.providerError error),memory)
  | .ok resolved => do
    match ← jsonRpcRequestArg regex http canhttp memory resolved jsonRpcPayload maxResponseBytes with
    | .error error => .done (.error error,memory)
    | .ok request => do
      let (started,memory) ← startAttempt http canhttp (.ofMemory memory) ⟨"request"⟩ false available request memory
      .done (.ok started,memory)

def requestCost (memory : Memory M) (service : RpcService) (jsonRpcPayload : String) (maxResponseBytes : UInt64) :
    Outcome (RpcResult U128) :=
  if memory.isDemoActive then .done (.ok 0)
  else
    match resolveRpcService service with
    | .error error => .done (.error (.providerError error))
    | .ok resolved => do
      match ← jsonRpcRequestArg regex http canhttp memory resolved jsonRpcPayload maxResponseBytes with
      | .error error => .done (.error error)
      | .ok request => do
        let converted ← Outcome.expect "Error: invalid request" (serviceRequestBuilder http canhttp request)
        let cyclesToAttach := canhttp.costOfHttpRequest memory.numSubnetNodes converted
        .done (.ok ((ChargingPolicyWithCollateral.default memory).cyclesToCharge cyclesToAttach))

end Client

section Attempts
variable {M : Type} {http : HttpCrate} {canhttp : Canhttp} {memory after : Memory M} {accounting : CyclesAccounting}
  {method : MetricRpcMethod} {retry : Bool} {available : U128} {request : HttpJsonRpcRequest} {started : Started}

/-- The request of an attempt, with an identifier of its own if the client retries. -/
def numbered (retry : Bool) (counter : UInt64) (request : HttpJsonRpcRequest) : HttpJsonRpcRequest :=
  if retry then ⟨request.parts,{request.body with id := .number counter}⟩ else request

/-- The attempt that is started for a host, from the counter of identifiers. -/
def attempted (http : HttpCrate) (canhttp : Canhttp) (accounting : CyclesAccounting) (method : MetricRpcMethod)
    (retry : Bool) (available : U128) (counter : UInt64) (host : String) (request : HttpJsonRpcRequest) : Started :=
  let request := numbered retry counter request
  ⟨⟨method,⟨host⟩,request.body.id⟩,request,match serviceRequestBuilder http canhttp request with
    | .error error => .error error
    | .ok converted => accounting.convert canhttp available converted⟩

def Memory.requested (method : MetricRpcMethod) (retry : Bool) (host : String) (memory : Memory M) : Memory M :=
  {memory with
    metrics := {memory.metrics with requests := addMetricEntry memory.metrics.requests (method,⟨host⟩) 1}
    httpRequestCounter := if retry then memory.httpRequestCounter+1 else memory.httpRequestCounter}

private theorem onRequest_of_host {host : String} (named : request.parts.uri.host = some host) :
    onRequest method request memory = .done (⟨method,⟨host⟩,request.body.id⟩,{memory with metrics :=
      {memory.metrics with requests := addMetricEntry memory.metrics.requests (method,⟨host⟩) 1}}) := by
  rw [onRequest,named]
  rfl

private theorem onRequest_hostless (hostless : request.parts.uri.host = none) :
    onRequest method request memory = .trap "called `Option::unwrap()` on a `None` value" := by
  rw [onRequest,hostless]
  rfl

/-- A client that retries sends no null identifier. -/
theorem numbered_identified (counter : UInt64) (request : HttpJsonRpcRequest) :
    (numbered true counter request).body.id ≠ .null := nofun

/-- An attempt for a host is made unless its identifier is refused. -/
theorem startAttempt_eq {host : String} (named : request.parts.uri.host = some host) :
    startAttempt http canhttp accounting method retry available request memory = (do
      canhttp.createJsonRpcIdFilter (numbered retry memory.httpRequestCounter request).body.id
      .done (attempted http canhttp accounting method retry available memory.httpRequestCounter host request,
        memory.requested method retry host)) := by
  cases retry with
  | false =>
    simp only [startAttempt,Bool.false_eq_true,if_false,onRequest_of_host named,Outcome.done_bind]
    rfl
  | true =>
    have observed := @onRequest_of_host _ (generateRequestId request memory).2 method
      (generateRequestId request memory).1 host named
    simp only [startAttempt,if_true,observed,Outcome.done_bind]
    rfl

theorem startAttempt_of_host {host : String} (named : request.parts.uri.host = some host)
    (identified : (numbered retry memory.httpRequestCounter request).body.id ≠ .null) :
    startAttempt http canhttp accounting method retry available request memory =
      .done (attempted http canhttp accounting method retry available memory.httpRequestCounter host request,
        memory.requested method retry host) := by
  rw [startAttempt_eq named,(canhttp.createJsonRpcIdFilter_eq_done _).mpr identified]
  rfl

theorem startAttempt_hostless (hostless : request.parts.uri.host = none) :
    startAttempt http canhttp accounting method retry available request memory =
      .trap "called `Option::unwrap()` on a `None` value" := by
  cases retry with
  | false =>
    have aborted := @onRequest_hostless _ memory method request hostless
    simp only [startAttempt,Bool.false_eq_true,if_false,aborted,Outcome.trap_bind]
  | true =>
    have aborted := @onRequest_hostless _ (generateRequestId request memory).2 method
      (generateRequestId request memory).1 hostless
    simp only [startAttempt,if_true,aborted,Outcome.trap_bind]

theorem startAttempt_eq_done
    (begun : startAttempt http canhttp accounting method retry available request memory = .done (started,after)) :
    ∃ host, request.parts.uri.host = some host ∧
      started = attempted http canhttp accounting method retry available memory.httpRequestCounter host request ∧
      after = memory.requested method retry host := by
  cases named : request.parts.uri.host with
  | none => cases begun.symm.trans (startAttempt_hostless named)
  | some host =>
    rw [startAttempt_eq named] at begun
    obtain ⟨_,_,same⟩ := Outcome.bind_eq_done.mp begun
    cases same
    exact ⟨host,rfl,rfl,rfl⟩

/-- The request of an attempt that is made has an identifier. -/
theorem startAttempt_identified
    (begun : startAttempt http canhttp accounting method retry available request memory = .done (started,after)) :
    started.request.body.id ≠ .null := by
  obtain ⟨host,named,rfl,_⟩ := startAttempt_eq_done begun
  rw [startAttempt_eq named] at begun
  obtain ⟨_,filtered,_⟩ := Outcome.bind_eq_done.mp begun
  exact (canhttp.createJsonRpcIdFilter_eq_done _).mp filtered

theorem requested_counted (method : MetricRpcMethod) (retry : Bool) (host : String) (memory : Memory M) :
    memory.Counted (memory.requested method retry host) := ⟨_,_,rfl⟩

/-- The endpoint is refused and leaves no trace, or it starts one attempt. -/
theorem request_cases {regex : Regex} {service : RpcService} {jsonRpcPayload : String} {maxResponseBytes : UInt64}
    {result : RpcResult Started}
    (begun : EvmRpc.request regex http canhttp memory service jsonRpcPayload maxResponseBytes available =
      .done (result,after)) :
    (∃ error, result = .error error ∧ after = memory) ∨
    ∃ host request, result = .ok (attempted http canhttp (.ofMemory memory) ⟨"request"⟩ false available
        memory.httpRequestCounter host request) ∧ after = memory.requested ⟨"request"⟩ false host := by
  unfold EvmRpc.request at begun
  split at begun
  · cases begun
    exact .inl ⟨_,rfl,rfl⟩
  · obtain ⟨arg,_,begun⟩ := Outcome.bind_eq_done.mp begun
    cases arg with
    | error error =>
      cases begun
      exact .inl ⟨error,rfl,rfl⟩
    | ok request =>
      obtain ⟨⟨started,middle⟩,first,same⟩ := Outcome.bind_eq_done.mp begun
      cases same
      obtain ⟨host,_,rfl,rfl⟩ := startAttempt_eq_done first
      exact .inr ⟨host,request,rfl,rfl⟩

theorem observe_counted {α : Type} (data : MetricData) (outcome : Except HttpClientError (UInt16 × Except ServerError α))
    (memory : Memory M) : memory.Counted (observe canhttp data outcome memory) := ⟨_,memory.httpRequestCounter,rfl⟩

theorem retried_uri {α : Type} {next : HttpJsonRpcRequest} {outcome : Except HttpClientError α}
    (again : retried canhttp request outcome = some next) : next.parts.uri = request.parts.uri := by
  unfold retried at again
  split at again
  · cases again
  · split at again
    · obtain ⟨bytes,_,rfl⟩ := Option.map_eq_some_iff.mp again
      rfl
    · cases again

/-- Accepted is only a response whose identifier passes the filter. -/
theorem receive_eq_ok {α : Type} {rpc : JsonRpcWire} {format : Json.Format α} {requestId : Id}
    {reply : Except IcError HttpResponse} {received : UInt16 × Except ServerError α}
    (ok : receive canhttp rpc format requestId reply = .ok received) :
    ∃ response id result error, reply = .ok response ∧ rpc.response format response.body = some (id,result) ∧
      canhttp.consistentId requestId id error = true := by
  unfold receive at ok
  split at ok
  · cases ok
  · rename_i response
    split at ok
    · cases ok
    · split at ok
      · cases ok
      · split at ok
        · cases ok
        · rename_i id result read
          cases result
          all_goals
            simp only at ok
            split at ok
            · rename_i accepted
              exact ⟨response,id,_,_,rfl,read,accepted⟩
            · cases ok

end Attempts

section Pricing
variable {M : Type} {regex : Regex} {http : HttpCrate} {canhttp : Canhttp} {memory after : Memory M}
  {service : RpcService} {jsonRpcPayload : String} {maxResponseBytes : UInt64} {available : U128}
  {method : MetricRpcMethod} {started : Started}

/-- An attempt without an identifier of its own sends the request it was given. -/
theorem startAttempt_once {accounting : CyclesAccounting} {request : HttpJsonRpcRequest}
    (begun : startAttempt http canhttp accounting method false available request memory = .done (started,after)) :
    started.request = request ∧ started.sent = (match serviceRequestBuilder http canhttp request with
      | .error error => .error error
      | .ok converted => accounting.convert canhttp available converted) := by
  obtain ⟨host,_,rfl,_⟩ := startAttempt_eq_done begun
  exact ⟨rfl,rfl⟩

theorem request_eq_ok
    (begun : request regex http canhttp memory service jsonRpcPayload maxResponseBytes available =
      .done (.ok started,after)) :
    ∃ resolved, resolveRpcService service = .ok resolved ∧
      jsonRpcRequestArg regex http canhttp memory resolved jsonRpcPayload maxResponseBytes =
        .done (.ok started.request) ∧
      started.sent = (match serviceRequestBuilder http canhttp started.request with
        | .error error => .error error
        | .ok converted => (CyclesAccounting.ofMemory memory).convert canhttp available converted) := by
  unfold request at begun
  split at begun
  · cases begun
  · rename_i resolved resolves
    obtain ⟨arg,built,begun⟩ := Outcome.bind_eq_done.mp begun
    cases arg with
    | error error => cases begun
    | ok request =>
      obtain ⟨⟨attempt,memory'⟩,begun,same⟩ := Outcome.bind_eq_done.mp begun
      cases same
      obtain ⟨rfl,sent⟩ := startAttempt_once begun
      exact ⟨resolved,resolves,built,sent⟩

/-- Outside of demo mode the quote is the policy applied to the price of the same
request. -/
theorem requestCost_eq_ok {quote : U128} (live : memory.isDemoActive = false)
    (quoted : requestCost regex http canhttp memory service jsonRpcPayload maxResponseBytes = .done (.ok quote)) :
    ∃ resolved request converted, resolveRpcService service = .ok resolved ∧
      jsonRpcRequestArg regex http canhttp memory resolved jsonRpcPayload maxResponseBytes = .done (.ok request) ∧
      serviceRequestBuilder http canhttp request = .ok converted ∧
      quote = (ChargingPolicyWithCollateral.default memory).cyclesToCharge
        (canhttp.costOfHttpRequest memory.numSubnetNodes converted) := by
  unfold requestCost at quoted
  rw [if_neg (by simp [live])] at quoted
  split at quoted
  · cases quoted
  · rename_i resolved resolves
    obtain ⟨arg,built,quoted⟩ := Outcome.bind_eq_done.mp quoted
    cases arg with
    | error error => cases quoted
    | ok request =>
      obtain ⟨converted,expected,quoted⟩ := Outcome.bind_eq_done.mp quoted
      have converts := Outcome.expect_eq_done.mp expected
      simp only [Outcome.done.injEq,Except.ok.injEq] at quoted
      exact ⟨resolved,request,converted,resolves,built,converts,quoted.symm⟩

/-- A request that is accounted for is charged what `requestCost` quotes for it. -/
theorem charge_eq_quote {quote : U128} {converted : IcHttpRequest}
    (quoted : requestCost regex http canhttp memory service jsonRpcPayload maxResponseBytes = .done (.ok quote))
    (begun : request regex http canhttp memory service jsonRpcPayload maxResponseBytes available =
      .done (.ok started,after))
    (converts : serviceRequestBuilder http canhttp started.request = .ok converted) :
    (CyclesAccounting.ofMemory memory).policy.cyclesToCharge
      (canhttp.costOfHttpRequest (CyclesAccounting.ofMemory memory).nodes converted) = quote := by
  cases demo : memory.isDemoActive with
  | true =>
    simp only [requestCost,demo,if_true,Outcome.done.injEq,Except.ok.injEq] at quoted
    subst quote
    simp [CyclesAccounting.ofMemory,ChargingPolicyWithCollateral.default,ChargingPolicyWithCollateral.new,
      ChargingPolicyWithCollateral.cyclesToCharge,demo]
  | false =>
    obtain ⟨resolved,resolves,built,_⟩ := request_eq_ok begun
    obtain ⟨resolved',request,converted',resolves',built',converts',rfl⟩ := requestCost_eq_ok demo quoted
    obtain rfl : resolved = resolved' := by simpa [resolves] using resolves'
    obtain rfl : started.request = request := by simpa [built] using built'
    obtain rfl : converted = converted' := by simpa [converts] using converts'
    rfl

theorem attached_le_charge (live : memory.isDemoActive = false) (attached : U128) :
    attached ≤ (ChargingPolicyWithCollateral.default memory).cyclesToCharge attached := by
  have charges : (ChargingPolicyWithCollateral.default memory).chargeUser = true := by
    simp [ChargingPolicyWithCollateral.default,ChargingPolicyWithCollateral.new,live]
  rw [ChargingPolicyWithCollateral.cyclesToCharge,if_pos charges]
  exact U128.le_saturatingAdd attached _

theorem collateral_le_charge (live : memory.isDemoActive = false) (attached : U128) :
    (ChargingPolicyWithCollateral.default memory).collateralCycles ≤
      (ChargingPolicyWithCollateral.default memory).cyclesToCharge attached := by
  have charges : (ChargingPolicyWithCollateral.default memory).chargeUser = true := by
    simp [ChargingPolicyWithCollateral.default,ChargingPolicyWithCollateral.new,live]
  rw [ChargingPolicyWithCollateral.cyclesToCharge,if_pos charges]
  exact U128.le_saturatingAdd_right attached _

/-- The quote is the charge, which covers what is attached to the outcall, and a
caller who attaches less is told the quote. -/
theorem quote_is_charged {quote : U128} {converted : IcHttpRequest}
    (quoted : requestCost regex http canhttp memory service jsonRpcPayload maxResponseBytes = .done (.ok quote))
    (begun : request regex http canhttp memory service jsonRpcPayload maxResponseBytes available =
      .done (.ok started,after))
    (converts : serviceRequestBuilder http canhttp started.request = .ok converted) :
    (quote ≤ available → ∃ attached, started.sent = .ok ⟨converted,attached,quote⟩ ∧
      (memory.isDemoActive = false → attached ≤ quote)) ∧
    (available < quote → ∃ error, started.sent = .error error ∧
      error.toRpcError canhttp = .providerError (.tooFewCycles quote available)) := by
  obtain ⟨_,_,_,sent⟩ := request_eq_ok begun
  have charge := charge_eq_quote quoted begun converts
  rw [converts] at sent
  simp only [CyclesAccounting.convert,charge] at sent
  constructor
  · intro enough
    rw [if_neg (fun short => absurd enough (not_le.mpr short.2))] at sent
    refine ⟨_,sent,fun live => ?_⟩
    rw [← charge]
    exact attached_le_charge live _
  · intro short
    rw [if_pos ⟨lt_of_le_of_lt (Fin.zero_le _) short,short⟩] at sent
    exact ⟨_,sent,rfl⟩

def gasPrice : HttpJsonRpcRequest :=
  ⟨⟨⟨"https://rpc.test",some "rpc.test"⟩,[],some 1000,some ⟨"__transform_json_rpc",[]⟩⟩,⟨.number 1,"eth_gasPrice",none⟩⟩

theorem jsonRpcRequestArg_gasPrice (original : memory.overrideProvider = .default) (regex : Regex) :
    jsonRpcRequestArg regex .reference .reference memory (.api ⟨"https://rpc.test",none⟩) gasPrice.body.text 1000 =
      .done (.ok gasPrice) := by
  unfold jsonRpcRequestArg
  rw [Canhttp.parseRequest_text]
  have uri : HttpCrate.reference.parseUri "https://rpc.test" = .ok ⟨"https://rpc.test",some "rpc.test"⟩ := by
    simp [HttpCrate.reference,HttpCrate.isVisible,HttpCrate.hostOf,HttpCrate.afterScheme]
  simp only [ResolvedRpcService.post,ResolvedRpcService.apiWithOverride,ResolvedRpcService.initialApi,
    OverrideProvider.apply,original,OverrideProvider.default,Outcome.done_bind,Builder.post,uri]
  rfl

theorem serviceRequestBuilder_gasPrice : ∃ converted,
    serviceRequestBuilder .reference .reference gasPrice = .ok converted := by
  have value : HttpCrate.reference.toStr CONTENT_TYPE_VALUE = .ok CONTENT_TYPE_VALUE := by
    simp [HttpCrate.reference,HttpCrate.isVisible,CONTENT_TYPE_VALUE]
  simp [serviceRequestBuilder,insertHeader,gasPrice,convertRequest,value,Canhttp.reference,bind,Except.bind,pure,
    Except.pure]

theorem request_gasPrice (original : memory.overrideProvider = .default) (regex : Regex) (available : U128) :
    request regex .reference .reference memory (.custom ⟨"https://rpc.test",none⟩) gasPrice.body.text 1000 available =
      .done (.ok (attempted .reference .reference (.ofMemory memory) ⟨"request"⟩ false available 0 "rpc.test" gasPrice),
        memory.requested ⟨"request"⟩ false "rpc.test") := by
  have identified (counter : UInt64) : (numbered false counter gasPrice).body.id ≠ .null := Id.noConfusion
  unfold request
  simp only [resolveRpcService,jsonRpcRequestArg_gasPrice original regex,Outcome.done_bind]
  rw [@startAttempt_of_host _ _ _ _ _ _ _ _ gasPrice "rpc.test" rfl (identified _)]
  rfl

/-- Who attaches as much as there can be pays the quote, and who attaches nothing is told it. -/
theorem quote_is_charged_for_gasPrice : ∃ quote converted,
    requestCost ⟨Except.error⟩ .reference .reference (.fresh ReferenceTimedMap.reference)
      (.custom ⟨"https://rpc.test",none⟩) gasPrice.body.text 1000 = .done (.ok quote) ∧
    (∃ started after attached, request ⟨Except.error⟩ .reference .reference (.fresh ReferenceTimedMap.reference)
        (.custom ⟨"https://rpc.test",none⟩) gasPrice.body.text 1000 U128.MAX = .done (.ok started,after) ∧
      started.sent = .ok ⟨converted,attached,quote⟩ ∧ attached ≤ quote) ∧
    ∃ started after error, request ⟨Except.error⟩ .reference .reference (.fresh ReferenceTimedMap.reference)
        (.custom ⟨"https://rpc.test",none⟩) gasPrice.body.text 1000 0 = .done (.ok started,after) ∧
      started.sent = .error error ∧
      error.toRpcError Canhttp.reference = .providerError (.tooFewCycles quote 0) := by
  let memory : Memory (ReferenceTimedMap SupportedRpcService) := .fresh ReferenceTimedMap.reference
  have built := jsonRpcRequestArg_gasPrice (rfl : memory.overrideProvider = _) ⟨Except.error⟩
  obtain ⟨converted,converts⟩ := serviceRequestBuilder_gasPrice
  let quote := (ChargingPolicyWithCollateral.default memory).cyclesToCharge
    (Canhttp.reference.costOfHttpRequest memory.numSubnetNodes converted)
  have quoted : requestCost ⟨Except.error⟩ .reference .reference memory (.custom ⟨"https://rpc.test",none⟩)
      gasPrice.body.text 1000 = .done (.ok quote) := by
    unfold requestCost
    rw [if_neg (by simp [memory,Memory.fresh])]
    simp only [resolveRpcService,memory,built,Outcome.done_bind,converts]
    rfl
  have collateral : (ChargingPolicyWithCollateral.default memory).collateralCycles ≤ quote :=
    collateral_le_charge rfl _
  have positive : 0 < quote := lt_of_lt_of_le (by decide) collateral
  have paid := request_gasPrice (rfl : memory.overrideProvider = _) ⟨Except.error⟩ U128.MAX
  have unpaid := request_gasPrice (rfl : memory.overrideProvider = _) ⟨Except.error⟩ 0
  obtain ⟨attached,sent,covered⟩ := (quote_is_charged quoted paid converts).1 (Fin.le_last quote)
  obtain ⟨error,failed,told⟩ := (quote_is_charged quoted unpaid converts).2 positive
  exact ⟨quote,converted,quoted,⟨_,_,attached,paid,sent,covered rfl⟩,_,_,error,unpaid,failed,told⟩

end Pricing
end EvmRpc
