import EvmRpc.Http
import EvmRpc.RpcClient.Cleanup

/-! One call to all providers of a client: a request for each of them, and the
attempts that are started at once. -/
namespace EvmRpc
open Library

def HEADER_SIZE_LIMIT : UInt64 := 2*1024
def HTTP_MAX_SIZE : UInt64 := 2000000
def MAX_PAYLOAD_SIZE : UInt64 := HTTP_MAX_SIZE-HEADER_SIZE_LIMIT

structure ResponseSizeEstimate where
  get : UInt64
  positive : get > 0
  bounded : get ≤ MAX_PAYLOAD_SIZE

def ResponseSizeEstimate.new (numBytes : UInt64) : Outcome ResponseSizeEstimate :=
  if positive : numBytes > 0 then
    if bounded : numBytes ≤ MAX_PAYLOAD_SIZE then .done ⟨numBytes,positive,bounded⟩
    else .trap "assertion failed: num_bytes <= MAX_PAYLOAD_SIZE"
  else .trap "assertion failed: num_bytes > 0"

namespace EthRpcClient

/-- The size that each method expects of a response. -/
def expectedSize (client : EthRpcClient) : RpcMethod → UInt64
  | .ethGetLogs => 1024+HEADER_SIZE_LIMIT
  | .ethGetBlockByNumber => (if client.chain = .SEPOLIA then 12*1024 else 24*1024)+HEADER_SIZE_LIMIT
  | .ethGetTransactionReceipt => 700+HEADER_SIZE_LIMIT
  | .ethFeeHistory => 512+HEADER_SIZE_LIMIT
  | .ethSendRawTransaction => 256+HEADER_SIZE_LIMIT
  | .ethGetTransactionCount => 50+HEADER_SIZE_LIMIT
  | .ethCall => 256+HEADER_SIZE_LIMIT

def responseSizeEstimate (client : EthRpcClient) (estimate : UInt64) : Outcome ResponseSizeEstimate :=
  ResponseSizeEstimate.new (client.config.responseSizeEstimate.getD estimate)

end EthRpcClient

/-- Everything outside of the canister's own code that its calls use. -/
structure Platform (M : Type) where
  timed : TimedSizedMap SupportedRpcService M
  regex : Regex
  url : Url
  http : HttpCrate
  canhttp : Canhttp
  crates : Crates
  minicbor : Minicbor
  reduce : (method : RpcMethod) → Reduce RpcService method.JsonType RpcError

/-- Crates that handle plain inputs, where a pattern stands for itself. -/
def Platform.reference : Platform (ReferenceTimedMap SupportedRpcService) where
  timed := ReferenceTimedMap.reference
  regex := ⟨fun pattern => .ok (fun text replacement => Text.replace pattern replacement text)⟩
  url := ⟨fun text => some ((HttpCrate.hostOf text.toList).map .domain)⟩
  http := .reference
  canhttp := .reference
  crates := .reference
  minicbor := .reference
  reduce _ := .reference

/-- The text of a response that says seven, and a platform that reads it. -/
def sevenResponse (id : String) : List UInt8 :=
  Text.utf8 ("\x7b\"jsonrpc\":\"2.0\",\"id\":" ++ id ++ ",\"result\":\"0x7\"\x7d")

def sevenPlatform : Platform (ReferenceTimedMap SupportedRpcService) :=
  {Platform.reference with crates := {Platform.reference.crates with rpc := {JsonRpcWire.reference with
    read := fun body => ([("0",0),("1",1)].find? (fun entry => sevenResponse entry.1 = body)).map
      (fun entry => (.number entry.2,.ok (.string "0x7")))}}}

/-- What is seen of attempts where they begin and where they end. -/
inductive AttemptEvent where
  | began (started : Started)
  | ended (data : MetricData) (outcome : Except HttpClientError UInt16)

/-- An attempt in flight, with the request that is tried again if its response is
too large. -/
structure Attempt where
  request : HttpJsonRpcRequest
  started : Started

/-- A call between its messages: the services whose requests could not be built,
those that have not answered yet and those that have. The journal is no state of the
canister: it lists what attempts did. -/
structure EthCall (method : RpcMethod) where
  client : EthRpcClient
  transactionHash : Option Hex32
  accounting : CyclesAccounting
  available : U128
  errors : List (RpcService × RpcError)
  pending : List (RpcService × Attempt)
  settled : List (RpcService × RpcResult method.JsonType)
  journal : List AttemptEvent

namespace EthCall
variable {method : RpcMethod}

def note (event : AttemptEvent) (call : EthCall method) : EthCall method :=
  {call with journal := call.journal ++ [event]}

def settle (service : RpcService) (result : RpcResult method.JsonType) (call : EthCall method) : EthCall method :=
  {call with settled := call.settled ++ [(service,result)]}

def forget (service : RpcService) (call : EthCall method) : EthCall method :=
  {call with pending := call.pending.filter (fun entry => entry.1 ≠ service)}

def failed (call : EthCall method) : List RpcService := call.errors.map Prod.fst

def launched (call : EthCall method) : List RpcService := call.pending.map Prod.fst ++ call.settled.map Prod.fst

@[simp] theorem note_pending (event : AttemptEvent) (call : EthCall method) :
    (call.note event).pending = call.pending := rfl

@[simp] theorem note_settled (event : AttemptEvent) (call : EthCall method) :
    (call.note event).settled = call.settled := rfl

theorem launched_settle (service : RpcService) (result : RpcResult method.JsonType) (call : EthCall method) :
    (call.settle service result).launched.Perm (service::call.launched) := by
  simp only [launched,settle,List.map_append,List.map_cons,List.map_nil]
  rw [← List.append_assoc]
  exact List.perm_append_singleton _ _

theorem launched_forget {call : EthCall method} (distinct : (call.pending.map Prod.fst).Nodup) {service : RpcService}
    (present : service ∈ call.pending.map Prod.fst) : (service::(call.forget service).launched).Perm call.launched := by
  have filtered : (call.forget service).pending.map Prod.fst = (call.pending.map Prod.fst).erase service := by
    rw [distinct.erase_eq_filter,List.filter_map]
    refine congrArg _ (List.filter_congr (fun entry _ => ?_))
    by_cases same : entry.1 = service <;> simp [same]
  rw [launched,filtered]
  exact (List.perm_cons_erase present).symm.append_right _

end EthCall

section Calls
variable {M : Type} (platform : Platform M)

def apiOf (memory : Memory M) (service : RpcService) : Outcome (RpcResult RpcApi) :=
  match resolveRpcService service with
  | .error error => .done (.error (.providerError error))
  | .ok resolved => resolved.apiWithOverride platform.regex memory.getApiKey memory.overrideProvider

def buildRequest (memory : Memory M) (method : RpcMethod) (params : Json) (size : ResponseSizeEstimate)
    (service : RpcService) : Outcome (RpcResult HttpJsonRpcRequest) :=
  match resolveRpcService service with
  | .error error => .done (.error (.providerError error))
  | .ok resolved => do
    match ← resolved.post platform.regex platform.http memory with
    | .error error => .done (.error error)
    | .ok builder => do
      let builder := builder.maxResponseBytes size.get
      let builder := builder.transformContext ⟨"cleanup_response",method.transformOp platform.minicbor⟩
      let request ← Outcome.expect "BUG: invalid request" (builder.body (JsonRpcRequest.new method.name params))
      .done (.ok request)

variable {method : RpcMethod}

/-- One attempt for a service. It settles at once if a layer of the client fails. -/
def launch (service : RpcService) (request : HttpJsonRpcRequest) (call : EthCall method) (memory : Memory M) :
    Outcome (EthCall method × Memory M) := do
  let (started,memory) ← startAttempt platform.http platform.canhttp call.accounting method.toMetric true
    call.available request memory
  let call := call.note (.began started)
  match started.sent with
  | .ok charged =>
    .done ({call with
      available := call.available-charged.charged
      pending := call.pending ++ [(service,⟨request,started⟩)]},memory)
  | .error error =>
    let outcome : Except HttpClientError (UInt16 × Except ServerError method.JsonType) := .error error
    .done ((call.note (.ended started.data (.error error))).settle service (intoResult platform.canhttp outcome),
      observe platform.canhttp started.data outcome memory)

def launchAll (requests : List (RpcService × HttpJsonRpcRequest)) (call : EthCall method) (memory : Memory M) :
    Outcome (EthCall method × Memory M) :=
  requests.foldlM (fun (call,memory) (service,request) => launch platform service request call memory) (call,memory)

/-- `parallel_call` up to its first wait. -/
def parallelCall (client : EthRpcClient) (method : RpcMethod) (transactionHash : Option Hex32) (params : Json)
    (size : ResponseSizeEstimate) (available : U128) (memory : Memory M) : Outcome (EthCall method × Memory M) := do
  let requests ← MultiResults.collect (buildRequest platform memory method params size)
    client.providers.services.elements .empty
  launchAll platform requests.okResults ⟨client,transactionHash,.ofMemory memory,available,requests.errors,[],[],[]⟩
    memory

def replyOutcome (method : RpcMethod) (attempt : Attempt) (reply : Except IcError HttpResponse) :
    Except HttpClientError (UInt16 × Except ServerError method.JsonType) :=
  receive platform.canhttp platform.crates.rpc (method.format platform.crates.text) attempt.started.data.requestId reply

def afterAttempt (service : RpcService) (attempt : Attempt) (reply : Except IcError HttpResponse)
    (call : EthCall method) (memory : Memory M) : EthCall method × Memory M :=
  let outcome := replyOutcome platform method attempt reply
  ((call.forget service).note (.ended attempt.started.data (outcome.map Prod.fst)),
    observe platform.canhttp attempt.started.data outcome memory)

def receiveReply (service : RpcService) (reply : Except IcError HttpResponse) (call : EthCall method)
    (memory : Memory M) : Outcome (EthCall method × Memory M) :=
  match call.pending.find? (fun entry => entry.1 = service) with
  | none => .done (call,memory)
  | some (_,attempt) =>
    let outcome := receive platform.canhttp platform.crates.rpc (method.format platform.crates.text)
      attempt.started.data.requestId reply
    let memory := observe platform.canhttp attempt.started.data outcome memory
    let call := (call.forget service).note (.ended attempt.started.data (outcome.map Prod.fst))
    match retried platform.canhttp attempt.request outcome with
    | some request => launch platform service request call memory
    | none => .done (call.settle service (intoResult platform.canhttp outcome),memory)

/-- The services whose success is recorded, each once. -/
def recordedServices (results : CallResults method) : List SupportedRpcService :=
  (results.okResults.map Prod.fst).filterMap SupportedRpcService.ofRpcService

def recordOkResults (now : Timestamp) (services : List SupportedRpcService) (memory : Memory M) : Memory M :=
  services.foldl (fun memory service => memory.recordOkResult platform.timed now service) memory

/-- `parallel_call` after the last reply. -/
def collectResults (now : Timestamp) (call : EthCall method) (memory : Memory M) :
    Outcome (CallResults method × Memory M) := do
  let results ← MultiResults.insertAll call.settled .empty
  let results ← MultiResults.insertAll (call.errors.map (fun (service,error) => (service,.error error))) results
  let memory := recordOkResults platform now (recordedServices results) memory
  if results.len = call.client.providers.services.card then .done (results,memory)
  else .trap "BUG: expected 1 result per provider"

end Calls

section Steps
variable {M : Type} {platform : Platform M} {method : RpcMethod} {service : RpcService} {request : HttpJsonRpcRequest}
  {requests : List (RpcService × HttpJsonRpcRequest)} {call next : EthCall method} {memory after : Memory M}

theorem launch_cases (launched : launch platform service request call memory = .done (next,after)) :
    ∃ started middle, startAttempt platform.http platform.canhttp call.accounting method.toMetric true call.available
        request memory = .done (started,middle) ∧
      ((∃ charged, started.sent = .ok charged ∧ after = middle ∧ next = {call.note (.began started) with
          available := call.available-charged.charged
          pending := call.pending ++ [(service,⟨request,started⟩)]}) ∨
        ∃ error, started.sent = .error error ∧
          after = observe platform.canhttp (α := method.JsonType) started.data (.error error) middle ∧
          next = ((call.note (.began started)).note (.ended started.data (.error error))).settle service
            (intoResult platform.canhttp (.error error))) := by
  obtain ⟨⟨started,middle⟩,begun,launched⟩ := Outcome.bind_eq_done.mp launched
  refine ⟨started,middle,begun,?_⟩
  cases sent : started.sent with
  | ok charged =>
    simp only [sent,Outcome.done.injEq,Prod.mk.injEq] at launched
    exact .inl ⟨charged,rfl,launched.2.symm,launched.1.symm⟩
  | error error =>
    simp only [sent,Outcome.done.injEq,Prod.mk.injEq] at launched
    exact .inr ⟨error,rfl,launched.2.symm,launched.1.symm⟩

theorem recordOkResults_eq (now : Timestamp) (services : List SupportedRpcService) (memory : Memory M) :
    ∃ usage, recordOkResults platform now services memory = {memory with okResultsTimestamps := usage} := by
  induction services generalizing memory with
  | nil => exact ⟨memory.okResultsTimestamps,rfl⟩
  | cons service services ih =>
    obtain ⟨usage,recorded⟩ := ih (memory.recordOkResult platform.timed now service)
    exact ⟨usage,recorded⟩

/-- The end of a call writes nothing but the usage record. -/
theorem collectResults_eq {now : Timestamp} {results : CallResults method}
    (collected : collectResults platform now call memory = .done (results,after)) :
    ∃ usage, after = {memory with okResultsTimestamps := usage} := by
  obtain ⟨settled,_,collected⟩ := Outcome.bind_eq_done.mp collected
  obtain ⟨all,_,collected⟩ := Outcome.bind_eq_done.mp collected
  simp only at collected
  split at collected
  · cases collected
    exact recordOkResults_eq now _ memory
  · cases collected

theorem receiveReply_of_absent (absent : service ∉ call.pending.map Prod.fst) (reply : Except IcError HttpResponse)
    (memory : Memory M) : receiveReply platform service reply call memory = .done (call,memory) := by
  have none : call.pending.find? (fun entry => entry.1 = service) = none := by
    rw [List.find?_eq_none]
    intro entry inside named
    exact absent (List.mem_map.mpr ⟨entry,inside,of_decide_eq_true named⟩)
  rw [receiveReply,none]

theorem receiveReply_of_pending (distinct : (call.pending.map Prod.fst).Nodup) {attempt : Attempt}
    (waiting : (service,attempt) ∈ call.pending) (reply : Except IcError HttpResponse) (memory : Memory M) :
    receiveReply platform service reply call memory =
      let ended := afterAttempt platform service attempt reply call memory
      match retried platform.canhttp attempt.request (replyOutcome platform method attempt reply) with
      | some request => launch platform service request ended.1 ended.2
      | none => .done (ended.1.settle service
          (intoResult platform.canhttp (replyOutcome platform method attempt reply)),ended.2) := by
  have found : call.pending.find? (fun entry => entry.1 = service) = some (service,attempt) := by
    cases search : call.pending.find? (fun entry => entry.1 = service) with
    | none => simpa using List.find?_eq_none.mp search _ waiting
    | some entry =>
      have named : entry.1 = service := by simpa using List.find?_some search
      rw [List.inj_on_of_nodup_map distinct (List.mem_of_find?_eq_some search) waiting named]
  rw [receiveReply,found]
  rfl

/-- The same call with other services in flight or settled. -/
structure EthCall.Extends (call next : EthCall method) : Prop where
  client : next.client = call.client
  transactionHash : next.transactionHash = call.transactionHash
  errors : next.errors = call.errors

theorem EthCall.Extends.trans {middle : EthCall method} (first : call.Extends middle) (second : middle.Extends next) :
    call.Extends next :=
  ⟨second.client.trans first.client,second.transactionHash.trans first.transactionHash,
    second.errors.trans first.errors⟩

/-- A service that has the same attempt in flight and the same result. -/
def EthCall.SameFor (service : RpcService) (call next : EthCall method) : Prop :=
  (∀ attempt, (service,attempt) ∈ next.pending ↔ (service,attempt) ∈ call.pending) ∧
  ∀ result, (service,result) ∈ next.settled ↔ (service,result) ∈ call.settled

theorem EthCall.SameFor.trans {middle : EthCall method} (first : call.SameFor service middle)
    (second : middle.SameFor service next) : call.SameFor service next :=
  ⟨fun attempt => (second.1 attempt).trans (first.1 attempt),fun result => (second.2 result).trans (first.2 result)⟩

theorem EthCall.SameFor.symm (same : call.SameFor service next) : next.SameFor service call :=
  ⟨fun attempt => (same.1 attempt).symm,fun result => (same.2 result).symm⟩

theorem EthCall.sameFor_settle (service : RpcService) (result : RpcResult method.JsonType) (call : EthCall method)
    (other : RpcService) (apart : other ≠ service) : call.SameFor other (call.settle service result) :=
  ⟨fun _ => Iff.rfl,fun given => by simp [settle,apart]⟩

theorem EthCall.sameFor_forget (service : RpcService) (call : EthCall method) (other : RpcService)
    (apart : other ≠ service) : call.SameFor other (call.forget service) :=
  ⟨fun attempt => by simp [forget,apart],fun _ => Iff.rfl⟩

/-- Attempts in flight were made for a uri with a host. -/
def EthCall.Hosted (call : EthCall method) : Prop :=
  ∀ entry ∈ call.pending, ∃ host, entry.2.request.parts.uri.host = some host

/-- One attempt adds its service to those launched and leaves the others alone. -/
structure Launched (service : RpcService) (call next : EthCall method) (memory after : Memory M) : Prop where
  extension : call.Extends next
  names : next.launched.Perm (service::call.launched)
  hosted : call.Hosted → next.Hosted
  others : ∀ other, other ≠ service → call.SameFor other next
  counted : memory.Counted after

theorem launch_eq_done (launched : launch platform service request call memory = .done (next,after)) :
    (∃ host, request.parts.uri.host = some host) ∧ Launched service call next memory after := by
  obtain ⟨started,middle,begun,⟨charged,_,rfl,rfl⟩ | ⟨error,_,rfl,rfl⟩⟩ := launch_cases launched
  · obtain ⟨host,named,_,rfl⟩ := startAttempt_eq_done begun
    refine ⟨⟨host,named⟩,⟨rfl,rfl,rfl⟩,?_,?_,fun other apart => ⟨fun attempt => by simp [apart],fun _ => Iff.rfl⟩,
      requested_counted _ _ _ _⟩
    · simp only [EthCall.launched,List.map_append,List.map_cons,List.map_nil,List.append_assoc]
      exact List.perm_middle
    · intro before entry inside
      rcases List.mem_append.mp inside with earlier | last
      · exact before entry earlier
      · obtain rfl := List.mem_singleton.mp last
        exact ⟨host,named⟩
  · obtain ⟨host,named,_,rfl⟩ := startAttempt_eq_done begun
    exact ⟨⟨host,named⟩,⟨rfl,rfl,rfl⟩,EthCall.launched_settle _ _ _,id,EthCall.sameFor_settle _ _ _,
      (requested_counted _ _ _ _).trans (observe_counted _ _ _)⟩

theorem launch_of_host {host : String} (named : request.parts.uri.host = some host) (platform : Platform M)
    (service : RpcService) (call : EthCall method) (memory : Memory M) :
    ∃ next after, launch platform service request call memory = .done (next,after) := by
  unfold launch
  rw [startAttempt_of_host named (numbered_identified _ _)]
  simp only [Outcome.done_bind]
  split
  · exact ⟨_,_,rfl⟩
  · exact ⟨_,_,rfl⟩

theorem launchAll_eq_done (launched : launchAll platform requests call memory = .done (next,after)) :
    (∀ entry ∈ requests, ∃ host, entry.2.parts.uri.host = some host) ∧ call.Extends next ∧
      next.launched.Perm (requests.map Prod.fst ++ call.launched) ∧ (call.Hosted → next.Hosted) ∧
      memory.Counted after := by
  induction requests generalizing call memory with
  | nil =>
    cases launched
    exact ⟨by simp,⟨rfl,rfl,rfl⟩,List.Perm.refl _,id,.refl _⟩
  | cons entry requests ih =>
    rw [launchAll,List.foldlM_cons] at launched
    obtain ⟨⟨middle,between⟩,first,launched⟩ := Outcome.bind_eq_done.mp launched
    obtain ⟨hosted,step⟩ := launch_eq_done first
    obtain ⟨others,extension,names,stays,counted⟩ := ih launched
    refine ⟨?_,step.extension.trans extension,?_,stays ∘ step.hosted,step.counted.trans counted⟩
    · intro other inside
      rcases List.mem_cons.mp inside with rfl | later
      · exact hosted
      · exact others other later
    · exact (names.trans (step.names.append_left _)).trans List.perm_middle

theorem launchAll_of_host (hosted : ∀ entry ∈ requests, ∃ host, entry.2.parts.uri.host = some host) :
    ∃ next after, launchAll platform requests call memory = .done (next,after) := by
  induction requests generalizing call memory with
  | nil => exact ⟨call,memory,rfl⟩
  | cons entry requests ih =>
    obtain ⟨host,named⟩ := hosted entry (by simp)
    obtain ⟨middle,between,first⟩ := launch_of_host named platform entry.1 call memory
    obtain ⟨next,after,rest⟩ := @ih middle between (fun other inside => hosted other (by simp [inside]))
    refine ⟨next,after,?_⟩
    rw [launchAll,List.foldlM_cons]
    exact Outcome.bind_eq_done.mpr ⟨(middle,between),first,rest⟩

/-- Every service of the client is in one place of a call. -/
structure EthCall.WellFormed (call : EthCall method) : Prop where
  places : (call.failed ++ call.launched).Perm call.client.providers.services.elements
  hosted : call.Hosted

theorem EthCall.WellFormed.distinct (wellFormed : call.WellFormed) : (call.failed ++ call.launched).Nodup :=
  wellFormed.places.nodup_iff.mpr call.client.providers.services.nodup

theorem EthCall.WellFormed.pending (wellFormed : call.WellFormed) : (call.pending.map Prod.fst).Nodup :=
  (List.nodup_append.mp (List.nodup_append.mp wellFormed.distinct).2.1).1

/-- A reply moves its own service and no other, and never traps. -/
theorem receiveReply_step (wellFormed : call.WellFormed) (service : RpcService) (reply : Except IcError HttpResponse)
    (memory : Memory M) : ∃ next after, receiveReply platform service reply call memory = .done (next,after) ∧
      call.Extends next ∧ next.WellFormed ∧ (∀ other, other ≠ service → call.SameFor other next) ∧
      memory.Counted after := by
  by_cases present : service ∈ call.pending.map Prod.fst
  · obtain ⟨attempt,inside⟩ : ∃ attempt, (service,attempt) ∈ call.pending := by simpa using present
    have names := EthCall.launched_forget wellFormed.pending present
    have hosted : (call.forget service).Hosted :=
      fun entry kept => wellFormed.hosted entry (List.mem_of_mem_filter kept)
    rw [receiveReply_of_pending wellFormed.pending inside]
    simp only
    split
    · rename_i request again
      obtain ⟨host,shown⟩ := wellFormed.hosted _ inside
      rw [← retried_uri again] at shown
      obtain ⟨next,after,launched⟩ := launch_of_host shown platform service
        (afterAttempt platform service attempt reply call memory).1
        (afterAttempt platform service attempt reply call memory).2
      obtain ⟨_,step⟩ := launch_eq_done launched
      have failed : next.failed = call.failed := congrArg (List.map Prod.fst) step.extension.errors
      refine ⟨next,after,launched,⟨step.extension.client,step.extension.transactionHash,step.extension.errors⟩,
        ⟨?_,step.hosted hosted⟩,fun other apart => (EthCall.sameFor_forget _ _ other apart).trans (step.others other apart),
        (observe_counted _ _ _).trans step.counted⟩
      rw [failed,step.extension.client]
      exact ((step.names.trans names).append_left _).trans wellFormed.places
    · have same := (EthCall.launched_settle service
        (intoResult platform.canhttp (replyOutcome platform method attempt reply)) _).trans names
      exact ⟨_,_,rfl,⟨rfl,rfl,rfl⟩,⟨(same.append_left _).trans wellFormed.places,hosted⟩,
        fun other apart => (EthCall.sameFor_forget _ _ other apart).trans (EthCall.sameFor_settle _ _ _ other apart),
        observe_counted _ _ _⟩
  · rw [receiveReply_of_absent present]
    exact ⟨call,memory,rfl,⟨rfl,rfl,rfl⟩,wellFormed,fun _ _ => ⟨fun _ => Iff.rfl,fun _ => Iff.rfl⟩,.refl memory⟩

/-- A call that has begun has a request or an error for each service of its client. -/
theorem parallelCall_eq_done {client : EthRpcClient} {transactionHash : Option Hex32} {params : Json}
    {size : ResponseSizeEstimate} {available : U128}
    (begun : parallelCall platform client method transactionHash params size available memory = .done (call,after)) :
    ∃ requests, MultiResults.collect (buildRequest platform memory method params size)
        client.providers.services.elements .empty = .done requests ∧
      (∀ entry ∈ requests.okResults, ∃ host, entry.2.parts.uri.host = some host) ∧
      call.client = client ∧ call.transactionHash = transactionHash ∧ call.errors = requests.errors ∧
      call.launched.Perm (requests.okResults.map Prod.fst) ∧ call.WellFormed ∧ memory.Counted after := by
  obtain ⟨requests,collected,launched⟩ := Outcome.bind_eq_done.mp begun
  obtain ⟨hosts,extension,names,hosted,counted⟩ := launchAll_eq_done launched
  have empty : call.launched.Perm (requests.okResults.map Prod.fst) := by simpa [EthCall.launched] using names
  refine ⟨requests,collected,hosts,extension.client,extension.transactionHash,extension.errors,empty,
    ⟨?_,hosted (by simp [EthCall.Hosted])⟩,counted⟩
  rw [extension.client,EthCall.failed,extension.errors]
  exact (empty.append_left _).trans ((requests.keys_perm).trans (MultiResults.keys_of_collect collected))

/-- Once nothing is in flight there is one result for each service of the client. -/
theorem collectResults_of_wellFormed (wellFormed : call.WellFormed) (complete : call.pending = []) (now : Timestamp)
    (memory : Memory M) : ∃ results, collectResults platform now call memory =
        .done (results,recordOkResults platform now (recordedServices results) memory) ∧
      results.entries.Perm (call.errors.map (fun (service,error) => (service,.error error)) ++ call.settled) ∧
      results.keys.Perm call.client.providers.services.elements := by
  have distinct : (call.failed ++ call.settled.map Prod.fst).Nodup := by
    have places := wellFormed.distinct
    rwa [EthCall.launched,complete,List.map_nil,List.nil_append] at places
  obtain ⟨settled,first⟩ := @MultiResults.insertAll_of_fresh _ _ _ _ call.settled (MultiResults.empty)
    (by simpa [MultiResults.empty,MultiResults.keys] using (List.nodup_append.mp distinct).2.1)
  have settledPerm : settled.entries.Perm call.settled := by
    simpa [MultiResults.empty] using MultiResults.insertAll_perm first
  have failures : (call.errors.map (fun (service,error) => (service,(.error error : RpcResult method.JsonType)))).map
      Prod.fst = call.failed := by simp [EthCall.failed,Function.comp_def]
  obtain ⟨results,second⟩ := @MultiResults.insertAll_of_fresh _ _ _ _
    (call.errors.map (fun (service,error) => (service,(.error error : RpcResult method.JsonType)))) settled (by
      rw [failures]
      exact ((settledPerm.map Prod.fst).append_left _).nodup_iff.mpr distinct)
  have perm := (MultiResults.insertAll_perm second).trans (settledPerm.append_left _)
  have keys : results.keys.Perm call.client.providers.services.elements := by
    have places := wellFormed.places
    rw [EthCall.launched,complete,List.map_nil,List.nil_append,← failures,← List.map_append] at places
    exact (perm.map Prod.fst).trans places
  refine ⟨results,?_,perm,keys⟩
  have size : results.len = call.client.providers.services.card := by
    simpa [MultiResults.keys,MultiResults.len,OrderedSet.card] using keys.length_eq
  unfold collectResults
  rw [first]
  simp only [Outcome.done_bind]
  rw [second]
  simp only [Outcome.done_bind]
  rw [if_pos size]

end Steps
end EvmRpc
