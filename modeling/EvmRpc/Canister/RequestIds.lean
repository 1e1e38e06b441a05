import EvmRpc.Canister.Charges
import EvmRpc.Canister.Inconsistency
import EvmRpc.Library.Conversion

/-! The identifiers of the attempts that eth calls make: one counter numbers them in the
order in which they begin, across all calls, and tells their replies apart. -/
namespace EvmRpc
open Library

/-- Of all clients, only the one of the endpoint `request` sends the identifier of its caller. -/
def MetricData.isEth (data : MetricData) : Bool := data.method ≠ ⟨"request"⟩

def ethAttempts (journal : List AttemptEvent) : List MetricData := (startedAttempts journal).filter MetricData.isEth

/-- The attempts of eth calls are numbered from zero and the counter has the next number. -/
structure Numbered {M : Type} (journal : List AttemptEvent) (memory : Memory M) : Prop where
  ids : (ethAttempts journal).map MetricData.requestId =
    (List.range (ethAttempts journal).length).map (fun n => Id.number (UInt64.ofNat n))
  counter : memory.httpRequestCounter = UInt64.ofNat (ethAttempts journal).length

section Attempts

theorem isEth_toMetric (method : RpcMethod) {data : MetricData} (own : data.method = method.toMetric) :
    data.isEth = true := by
  rw [MetricData.isEth,own]
  cases method <;> rfl

@[simp] theorem ethAttempts_append (journal events : List AttemptEvent) :
    ethAttempts (journal ++ events) = ethAttempts journal ++ ethAttempts events := by
  rw [ethAttempts,startedAttempts,List.filterMap_append,List.filter_append]
  rfl

theorem ethAttempts_cons (event : AttemptEvent) (events : List AttemptEvent) :
    ethAttempts (event::events) = ethAttempts [event] ++ ethAttempts events := ethAttempts_append [event] events

theorem ethAttempts_began {started : Started} (own : started.data.isEth = true) :
    ethAttempts [.began started] = [started.data] := by
  simp [ethAttempts,startedAttempts,AttemptEvent.started,own]

theorem ethAttempts_request {started : Started} (raw : started.data.method = ⟨"request"⟩) :
    ethAttempts [.began started] = [] := by
  simp [ethAttempts,startedAttempts,AttemptEvent.started,MetricData.isEth,raw]

theorem ethAttempts_ended (data : MetricData) (outcome : Except HttpClientError UInt16) :
    ethAttempts [.ended data outcome] = [] := rfl

private theorem number_injOn {bound : ℕ} (small : bound ≤ 2^64) {n m : ℕ} (below : n < bound) (below' : m < bound)
    (same : Id.number (UInt64.ofNat n) = Id.number (UInt64.ofNat m)) : n = m := by
  have numbers := congrArg UInt64.toNat (Id.number.inj same)
  rwa [UInt64.toNat_ofNat_of_lt' (below.trans_le small),UInt64.toNat_ofNat_of_lt' (below'.trans_le small)] at numbers

variable {M : Type} {memory after : Memory M} {journal : List AttemptEvent}

theorem Numbered.nodup (numbered : Numbered journal memory) (few : (ethAttempts journal).length ≤ 2^64) :
    ((ethAttempts journal).map MetricData.requestId).Nodup := by
  rw [numbered.ids]
  apply List.Nodup.map_on _ List.nodup_range
  intro n below m below' same
  exact number_injOn few (List.mem_range.mp below) (List.mem_range.mp below') same

theorem Numbered.silent (numbered : Numbered journal memory) {events : List AttemptEvent}
    (none : ethAttempts events = []) (kept : after.httpRequestCounter = memory.httpRequestCounter) :
    Numbered (journal ++ events) after := by
  have same : ethAttempts (journal ++ events) = ethAttempts journal := by
    rw [ethAttempts_append,none,List.append_nil]
  exact ⟨by rw [same]; exact numbered.ids,by rw [same,kept]; exact numbered.counter⟩

theorem Numbered.observed {α : Type} (numbered : Numbered journal memory) (canhttp : Canhttp) (data : MetricData)
    (outcome : Except HttpClientError (UInt16 × Except ServerError α)) (ended : Except HttpClientError UInt16) :
    Numbered (journal ++ [.ended data ended]) (observe canhttp data outcome memory) :=
  numbered.silent (ethAttempts_ended data ended) rfl

theorem Numbered.withMemory (numbered : Numbered journal memory)
    (kept : after.httpRequestCounter = memory.httpRequestCounter) : Numbered journal after :=
  ⟨numbered.ids,kept.trans numbered.counter⟩

/-- The next attempt takes the next number. -/
theorem Numbered.began (numbered : Numbered journal memory) {http : HttpCrate} {canhttp : Canhttp}
    {accounting : CyclesAccounting} {method : RpcMethod} {available : U128} {host : String}
    {request : HttpJsonRpcRequest} {started : Started} (begun : started = attempted http canhttp accounting
      method.toMetric true available memory.httpRequestCounter host request) :
    Numbered (journal ++ [.began started]) (memory.requested method.toMetric true host) := by
  have own : started.data.isEth = true := isEth_toMetric method (by rw [begun]; rfl)
  have id : started.data.requestId = .number memory.httpRequestCounter := by rw [begun]; rfl
  constructor
  · rw [ethAttempts_append,ethAttempts_began own,List.map_append,numbered.ids,List.length_append,
      List.length_singleton,List.range_succ,List.map_append,List.map_singleton,List.map_singleton,id,numbered.counter]
  · rw [ethAttempts_append,ethAttempts_began own,List.length_append,List.length_singleton]
    change memory.httpRequestCounter+1 = _
    rw [numbered.counter,UInt64.ofNat_add]
    rfl

end Attempts

/-- What is in flight for a call are attempts of an eth method. -/
def EthCall.Labelled {method : RpcMethod} (call : EthCall method) : Prop :=
  ∀ entry ∈ call.pending, entry.2.started.data.isEth = true

section Calls
variable {M : Type} {platform : Platform M} {method : RpcMethod} {service : RpcService} {request : HttpJsonRpcRequest}
  {requests : List (RpcService × HttpJsonRpcRequest)} {call next : EthCall method} {memory after : Memory M}
  {past : List AttemptEvent}

theorem launch_numbered (numbered : Numbered (past ++ call.journal) memory) (labelled : call.Labelled)
    (launched : launch platform service request call memory = .done (next,after)) :
    Numbered (past ++ next.journal) after ∧ next.Labelled := by
  obtain ⟨started,middle,begun,⟨charged,_,rfl,rfl⟩ | ⟨error,_,rfl,rfl⟩⟩ := launch_cases launched
  · obtain ⟨host,_,same,rfl⟩ := startAttempt_eq_done begun
    have later := numbered.began same
    rw [List.append_assoc] at later
    refine ⟨later,?_⟩
    intro entry inside
    rcases List.mem_append.mp inside with earlier | last
    · exact labelled entry earlier
    · obtain rfl := List.mem_singleton.mp last
      exact isEth_toMetric method (by rw [same]; rfl)
  · obtain ⟨host,_,same,rfl⟩ := startAttempt_eq_done begun
    refine ⟨?_,labelled⟩
    have later := @Numbered.observed M _ _ method.JsonType (numbered.began same) platform.canhttp started.data (.error error)
      (.error error)
    rw [List.append_assoc,List.append_assoc] at later
    simpa [EthCall.settle,EthCall.note] using later

theorem launchAll_numbered (numbered : Numbered (past ++ call.journal) memory) (labelled : call.Labelled)
    (launched : launchAll platform requests call memory = .done (next,after)) :
    Numbered (past ++ next.journal) after ∧ next.Labelled := by
  induction requests generalizing call memory with
  | nil =>
    cases launched
    exact ⟨numbered,labelled⟩
  | cons entry requests ih =>
    rw [launchAll,List.foldlM_cons] at launched
    obtain ⟨⟨middle,between⟩,first,rest⟩ := Outcome.bind_eq_done.mp launched
    obtain ⟨counted,kept⟩ := launch_numbered numbered labelled first
    exact ih counted kept rest

theorem EthCall.Labelled.forget (labelled : call.Labelled) (service : RpcService) : (call.forget service).Labelled :=
  fun entry inside => labelled entry (List.mem_filter.mp inside).1

theorem receiveReply_numbered (numbered : Numbered (past ++ call.journal) memory) (labelled : call.Labelled)
    {reply : Except IcError HttpResponse}
    (received : receiveReply platform service reply call memory = .done (next,after)) :
    Numbered (past ++ next.journal) after ∧ next.Labelled := by
  unfold receiveReply at received
  split at received
  · cases received
    exact ⟨numbered,labelled⟩
  · rename_i attempt waiting
    have ended (outcome : Except HttpClientError (UInt16 × Except ServerError method.JsonType)) :
        Numbered (past ++ ((call.forget service).note (.ended attempt.started.data (outcome.map Prod.fst))).journal)
          (observe platform.canhttp attempt.started.data outcome memory) := by
      have later := numbered.observed platform.canhttp attempt.started.data outcome (outcome.map Prod.fst)
      rwa [List.append_assoc] at later
    simp only at received
    split at received
    · refine launch_numbered (ended _) ?_ received
      exact labelled.forget service
    · cases received
      exact ⟨ended _,labelled.forget service⟩

end Calls

namespace Canister
variable {M : Type}

/-- Every attempt so far has its own number, and open calls have nothing else in flight. -/
structure Identifies (canister : Canister M) : Prop where
  numbered : Numbered canister.journal canister.memory
  opened : ∀ id method call, canister.calls id = some (.eth method call) → call.journal = [] ∧ call.Labelled

section Runs
variable {platform : Platform M} {canister next : Canister M} {now : Timestamp} {event : Event}

theorem Identifies.withCall (identifies : canister.Identifies) {journal : List AttemptEvent} {memory : Memory M}
    (numbered : Numbered journal memory) (id later : ℕ) (opened : Option OpenCall)
    (fine : ∀ method call, opened = some (.eth method call) → call.journal = [] ∧ call.Labelled)
    (completed : List Completion) :
    Identifies ⟨memory,Function.update canister.calls id opened,later,completed,journal⟩ :=
  ⟨numbered,forall_eth_update identifies.opened fine id⟩

theorem proceed_identifies (identifies : canister.Identifies) {id later : ℕ} {method : RpcMethod}
    {call : EthCall method} {memory : Memory M} (numbered : Numbered (canister.journal ++ call.journal) memory)
    (labelled : call.Labelled)
    (proceeded : proceed platform now id call memory {canister with nextCall := later} = .done next) :
    next.Identifies := by
  unfold proceed at proceeded
  simp only at proceeded
  split at proceeded
  · obtain ⟨⟨results,after⟩,collected,proceeded⟩ := Outcome.bind_eq_done.mp proceeded
    cases proceeded
    obtain ⟨usage,rfl⟩ := collectResults_eq collected
    refine identifies.withCall ?_ id later none (by simp) _
    exact numbered.withMemory rfl
  · cases proceeded
    refine identifies.withCall numbered id later _ ?_ _
    intro other found same
    cases same
    exact ⟨rfl,labelled⟩

theorem requestCall_identifies (identifies : canister.Identifies) {service : RpcService} {jsonRpcPayload : String}
    {maxResponseBytes : UInt64} {available : U128}
    (taken : canister.requestCall platform service jsonRpcPayload maxResponseBytes available = .done next) :
    next.Identifies := by
  have numbered := identifies.numbered
  obtain rfl | ⟨host,request,started,begun,⟨charged,_,rfl⟩ | ⟨error,_,rfl⟩⟩ := requestCall_cases taken
  · exact identifies
  · have raw : started.data.method = ⟨"request"⟩ := by rw [begun]; rfl
    refine identifies.withCall ?_ _ _ (some (.request _)) (by simp) _
    exact numbered.silent (ethAttempts_request raw) rfl
  · have raw : started.data.method = ⟨"request"⟩ := by rw [begun]; rfl
    exact ⟨numbered.silent (ethAttempts_append [.began started] _ ▸ by rw [ethAttempts_request raw]; rfl) rfl,
      identifies.opened⟩

/-- A step gives each attempt that it begins the next number. -/
theorem step_identifies (identifies : canister.Identifies) (taken : canister.step platform event = .done next) :
    next.Identifies := by
  have numbered := identifies.numbered
  obtain ⟨time,message⟩ := event
  cases message with
  | ethCall source config method transactionHash params available =>
    obtain ⟨_,usage,_,rfl | ⟨client,params,size,call,memory,_,_,begun,taken⟩⟩ := ethCall_cases taken
    · exact ⟨numbered.withMemory rfl,identifies.opened⟩
    · obtain ⟨requests,_,launched⟩ := Outcome.bind_eq_done.mp begun
      obtain ⟨counted,labelled⟩ := @launchAll_numbered M platform method _ _ _ _ _ canister.journal
        (by rw [List.append_nil]; exact numbered.withMemory rfl) (by simp [EthCall.Labelled]) launched
      exact proceed_identifies identifies counted labelled taken
  | ethReply id service reply =>
    obtain rfl | ⟨method,call,further,memory,found,received,taken⟩ := ethReply_cases taken
    · exact identifies
    · obtain ⟨cleared,labelled⟩ := identifies.opened id method call found
      obtain ⟨counted,kept⟩ := @receiveReply_numbered M platform method _ _ _ _ _ canister.journal
        (by rw [cleared,List.append_nil]; exact numbered) labelled _ received
      exact proceed_identifies identifies counted kept taken
  | request service jsonRpcPayload maxResponseBytes available => exact requestCall_identifies identifies taken
  | requestReply id reply =>
    obtain rfl | ⟨started,_,rfl⟩ := requestReply_cases taken
    · exact identifies
    · exact identifies.withCall (numbered.observed platform.canhttp _ _ _) id _ none (by simp) _
  | updateApiKeys caller isController apiKeys =>
    obtain ⟨memory,updated,taken⟩ := Outcome.bind_eq_done.mp taken
    cases taken
    obtain ⟨_,_,rfl⟩ := updateApiKeys_eq_done.mp updated
    exact ⟨numbered.withMemory rfl,identifies.opened⟩

theorem run_identifies (platform : Platform M) (memory : Memory M) (events : List Event) :
    (Runs.run (step platform) (initial platform memory) events).Identifies := by
  refine Runs.invariant _ Identifies _ ?_ (fun _ _ _ before taken => step_identifies before taken) events
  exact ⟨⟨rfl,rfl⟩,fun id method call found => absurd found (initial_unused platform memory id _)⟩

/-- A message adds to the journal what it has attempts do. -/
theorem step_journal (taken : canister.step platform event = .done next) :
    ∃ events, next.journal = canister.journal ++ events := by
  have nothing : ∃ events, canister.journal = canister.journal ++ events := ⟨[],(List.append_nil _).symm⟩
  obtain ⟨time,message⟩ := event
  cases message with
  | ethCall source config method transactionHash params available =>
    obtain ⟨_,usage,_,rfl | ⟨client,params,size,call,memory,_,_,_,taken⟩⟩ := ethCall_cases taken
    · exact nothing
    · refine ⟨call.journal,?_⟩
      rw [proceed_journal taken]
  | ethReply id service reply =>
    obtain rfl | ⟨method,call,further,memory,_,_,taken⟩ := ethReply_cases taken
    · exact nothing
    · exact ⟨further.journal,proceed_journal taken⟩
  | request service jsonRpcPayload maxResponseBytes available =>
    obtain rfl | ⟨host,request,started,_,⟨charged,_,rfl⟩ | ⟨error,_,rfl⟩⟩ := requestCall_cases taken
    · exact nothing
    · exact ⟨[.began started],rfl⟩
    · exact ⟨[.began started,.ended started.data (.error error)],rfl⟩
  | requestReply id reply =>
    obtain rfl | ⟨started,_,rfl⟩ := requestReply_cases taken
    · exact nothing
    · exact ⟨[.ended started.data _],rfl⟩
  | updateApiKeys caller isController apiKeys =>
    obtain ⟨memory,_,taken⟩ := Outcome.bind_eq_done.mp taken
    cases taken
    exact nothing

theorem run_journal (platform : Platform M) (canister : Canister M) (events : List Event) :
    ∃ more, (Runs.run (step platform) canister events).journal = canister.journal ++ more := by
  apply Runs.invariant (step platform) (fun state => ∃ more, state.journal = canister.journal ++ more)
  · exact ⟨[],(List.append_nil _).symm⟩
  · intro state event next before taken
    obtain ⟨more,written⟩ := before
    obtain ⟨events,added⟩ := step_journal taken
    exact ⟨more ++ events,by rw [added,written,List.append_assoc]⟩

/-- The attempts of a run up to some message are the first ones of the whole run. -/
theorem run_ethAttempts (platform : Platform M) (canister : Canister M) (past later : List Event) :
    ∃ more, ethAttempts (Runs.run (step platform) canister (past ++ later)).journal =
      ethAttempts (Runs.run (step platform) canister past).journal ++ more := by
  rw [Runs.run_append]
  obtain ⟨more,written⟩ := run_journal platform (Runs.run (step platform) canister past) later
  rw [written,ethAttempts_append]
  exact ⟨_,rfl⟩

/-- An attempt in flight for an eth call is one of the attempts begun so far. -/
theorem pending_begun (identifies : canister.Identifies) {canhttp : Canhttp} (balanced : canister.Balanced canhttp)
    {id : ℕ} {method : RpcMethod} {call : EthCall method} (found : canister.calls id = some (.eth method call))
    {service : RpcService} {attempt : Attempt} (waiting : (service,attempt) ∈ call.pending) :
    attempt.started.data ∈ ethAttempts canister.journal := by
  have inFlight : attempt.started.data ∈ canister.flyingFor id := by
    rw [flyingFor,found]
    exact List.mem_map_of_mem waiting
  have used : id < canister.nextCall := by
    by_contra unused
    cases found.symm.trans (balanced.unused id (Nat.not_lt.mp unused))
  have flies : attempt.started.data ∈ canister.flying :=
    List.mem_flatMap.mpr ⟨id,List.mem_range.mpr used,inFlight⟩
  apply List.mem_filter.mpr
  constructor
  · apply balanced.balance.mem_iff.mpr
    exact List.mem_append_right _ flies
  · exact (identifies.opened id method call found).2 _ waiting

end Runs
end Canister

/-- What is assumed of the filter of `canhttp`: it accepts the identifier of the request that
reached it, and the empty one that servers give to requests which they could not read. -/
def Canhttp.FiltersIds (canhttp : Canhttp) : Prop :=
  ∀ requestId id error, canhttp.consistentId requestId id error = true → id = requestId ∨ id = .null

/-- An attempt of which the identifier is in the bytes that are sent, if any are. -/
def Started.SendsId (canhttp : Canhttp) (started : Started) : Prop :=
  started.request.body.id = started.data.requestId ∧
    ∀ charged, started.sent = .ok charged → canhttp.encodeRequest started.request.body = .ok charged.request.body

/-- No reply that carries the identifier of another attempt is accepted for this one. -/
def Attempt.OwnReplies {M : Type} (platform : Platform M) (attempts : List MetricData) (method : RpcMethod)
    (attempt : Attempt) : Prop :=
  ∀ other ∈ attempts, other ≠ attempt.started.data → ∀ response result,
    platform.crates.rpc.read response.body = some (other.requestId,result) →
      ∀ accepted, replyOutcome platform method attempt (.ok response) ≠ .ok accepted

section Replies
variable {M : Type} {platform : Platform M}

theorem serviceRequestBuilder_body {http : HttpCrate} {canhttp : Canhttp} {request : HttpJsonRpcRequest}
    {converted : IcHttpRequest} (built : serviceRequestBuilder http canhttp request = .ok converted) :
    canhttp.encodeRequest request.body = .ok converted.body := by
  unfold serviceRequestBuilder at built
  simp only at built
  split at built
  · cases built
  · rename_i body encoded
    split at built
    · cases built
    · rename_i accepted
      cases built
      obtain ⟨headers,_,same⟩ := ok_of_bind_ok accepted
      cases same
      exact encoded

theorem sendsId_attempted {accounting : CyclesAccounting} {method : MetricRpcMethod} {retry : Bool} {available : U128}
    {counter : UInt64} {host : String} {request : HttpJsonRpcRequest} : (attempted platform.http platform.canhttp
      accounting method retry available counter host request).SendsId platform.canhttp := by
  refine ⟨rfl,fun charged sent => ?_⟩
  rw [sent_attempted] at sent
  split at sent
  · cases sent
  · rename_i converted built
    rw [CyclesAccounting.convert] at sent
    split at sent
    · cases sent
    · cases sent
      exact serviceRequestBuilder_body built

theorem Genuine.sendsId {accounting : CyclesAccounting} {journal : List AttemptEvent}
    (genuine : Genuine platform accounting journal) {started : Started} (begun : .began started ∈ journal) :
    started.SendsId platform.canhttp := by
  obtain ⟨method,retry,available,counter,host,request,rfl⟩ := genuine started begun
  exact sendsId_attempted

theorem replyOutcome_accepts {method : RpcMethod} {attempt : Attempt} {response : HttpResponse}
    {accepted : UInt16 × Except ServerError method.JsonType}
    (ok : replyOutcome platform method attempt (.ok response) = .ok accepted) :
    ∃ id json error, platform.crates.rpc.read response.body = some (id,json) ∧
      platform.canhttp.consistentId attempt.started.data.requestId id error = true := by
  obtain ⟨_,id,result,error,same,decoded,consistent⟩ := receive_eq_ok ok
  cases same
  cases result with
  | ok value =>
    obtain ⟨json,read,_⟩ := JsonRpcWire.read_of_response_ok decoded
    exact ⟨id,_,error,read,consistent⟩
  | error failure => exact ⟨id,_,error,JsonRpcWire.read_of_response_error decoded,consistent⟩

theorem Numbered.requestId_ne_null {journal : List AttemptEvent} {memory : Memory M}
    (numbered : Numbered journal memory) {data : MetricData} (begun : data ∈ ethAttempts journal) :
    data.requestId ≠ .null := by
  have listed := List.mem_map_of_mem (f := MetricData.requestId) begun
  rw [numbered.ids] at listed
  obtain ⟨number,_,same⟩ := List.mem_map.mp listed
  rw [← same]
  exact Id.noConfusion

theorem ownReplies_of_distinct (filters : platform.canhttp.FiltersIds) {attempts : List MetricData}
    (distinct : (attempts.map MetricData.requestId).Nodup) (numbers : ∀ data ∈ attempts, data.requestId ≠ .null)
    {method : RpcMethod} {attempt : Attempt} (begun : attempt.started.data ∈ attempts) :
    attempt.OwnReplies platform attempts method := by
  intro other listed apart response result read accepted ok
  obtain ⟨id,json,error,read',consistent⟩ := replyOutcome_accepts ok
  cases read.symm.trans read'
  rcases filters _ _ _ consistent with same | null
  · exact apart (List.inj_on_of_nodup_map distinct listed begun same)
  · exact numbers other listed null

end Replies

/-- The attempts of the eth calls of a run, in the order in which they begin. -/
def attemptsOf {M : Type} (platform : Platform M) (memory : Memory M) (events : List Event) : List MetricData :=
  ethAttempts (Runs.run (Canister.step platform) (Canister.initial platform memory) events).journal

/-- What identifiers do in a run: no two attempts of eth calls send the same one, so that each
attempt in flight, at any time of the run, gets its own replies only. One that is repeated gets
a new identifier. -/
structure TellsApart {M : Type} (platform : Platform M) (memory : Memory M) (events : List Event) : Prop where
  sent : ∀ started, .began started ∈ (Runs.run (Canister.step platform) (.initial platform memory) events).journal →
    started.SendsId platform.canhttp
  distinct : ((attemptsOf platform memory events).map MetricData.requestId).Nodup
  answered : ∀ (past later : List Event) id method (call : EthCall method) (service : RpcService) (attempt : Attempt),
    events = past ++ later →
    (Runs.run (Canister.step platform) (.initial platform memory) past).calls id = some (.eth method call) →
    (service,attempt) ∈ call.pending → attempt.started.data ∈ attemptsOf platform memory events ∧
      attempt.OwnReplies platform (attemptsOf platform memory events) method
  renewed : ∀ (past later : List Event) (time : Timestamp) id method (call : EthCall method) (service : RpcService)
      (attempt : Attempt) (reply : Except IcError HttpResponse) (request : HttpJsonRpcRequest) (next : Canister M),
    events = past ++ ⟨time,.ethReply id service reply⟩::later →
    (Runs.run (Canister.step platform) (.initial platform memory) past).calls id = some (.eth method call) →
    (service,attempt) ∈ call.pending →
    retried platform.canhttp attempt.request (replyOutcome platform method attempt reply) = some request →
    Canister.step platform (Runs.run (Canister.step platform) (.initial platform memory) past)
      ⟨time,.ethReply id service reply⟩ = .done next →
    ∃ (started : Started) (more : List AttemptEvent),
      next.journal = (Runs.run (Canister.step platform) (.initial platform memory) past).journal ++
        .ended attempt.started.data ((replyOutcome platform method attempt reply).map Prod.fst)::.began started::more ∧
      started.data ∈ attemptsOf platform memory events ∧ started.data.requestId ≠ attempt.started.data.requestId

section Runs
variable {M : Type} {platform : Platform M} {memory : Memory M}

/-- A repeated attempt follows all attempts that were begun before it. -/
theorem attemptsOf_retry {past later : List Event} {time : Timestamp} {id : ℕ} {method : RpcMethod}
    {call : EthCall method} {service : RpcService} {attempt : Attempt} {reply : Except IcError HttpResponse}
    {request : HttpJsonRpcRequest} {next : Canister M}
    (found : (Runs.run (Canister.step platform) (.initial platform memory) past).calls id = some (.eth method call))
    (waiting : (service,attempt) ∈ call.pending)
    (again : retried platform.canhttp attempt.request (replyOutcome platform method attempt reply) = some request)
    (taken : Canister.step platform (Runs.run (Canister.step platform) (.initial platform memory) past)
      ⟨time,.ethReply id service reply⟩ = .done next) :
    ∃ started more rest, next.journal = (Runs.run (Canister.step platform) (.initial platform memory) past).journal ++
        .ended attempt.started.data ((replyOutcome platform method attempt reply).map Prod.fst)::.began started::more ∧
      attemptsOf platform memory (past ++ ⟨time,.ethReply id service reply⟩::later) =
        attemptsOf platform memory past ++ started.data::rest := by
  have balanced := Canister.run_balanced platform memory past
  obtain ⟨started,more,written,own⟩ := balanced.retry_journal found waiting again taken
  have after : Runs.run (Canister.step platform) (.initial platform memory) (past ++ [⟨time,.ethReply id service reply⟩]) =
      next := by
    rw [Runs.run_concat,Runs.advance_done _ taken]
  obtain ⟨rest,whole⟩ := Canister.run_ethAttempts platform (.initial platform memory)
    (past ++ [⟨time,.ethReply id service reply⟩]) later
  rw [after,List.append_assoc,List.singleton_append] at whole
  refine ⟨started,more,ethAttempts more ++ rest,written,?_⟩
  have renewed : ethAttempts (.ended attempt.started.data
      ((replyOutcome platform method attempt reply).map Prod.fst)::.began started::more) =
        started.data::ethAttempts more := by
    rw [ethAttempts_cons,ethAttempts_ended,ethAttempts_cons,ethAttempts_began (isEth_toMetric method own)]
    rfl
  calc attemptsOf platform memory (past ++ ⟨time,.ethReply id service reply⟩::later)
      = ethAttempts next.journal ++ rest := whole
    _ = attemptsOf platform memory past ++ started.data::(ethAttempts more ++ rest) := by
      rw [written,ethAttempts_append,renewed,List.append_assoc,List.cons_append]
      rfl

theorem pending_attemptsOf {past : List Event} {id : ℕ} {method : RpcMethod} {call : EthCall method}
    {service : RpcService} {attempt : Attempt}
    (found : (Runs.run (Canister.step platform) (.initial platform memory) past).calls id = some (.eth method call))
    (waiting : (service,attempt) ∈ call.pending) : attempt.started.data ∈ attemptsOf platform memory past :=
  Canister.pending_begun (Canister.run_identifies platform memory past) (Canister.run_balanced platform memory past)
    found waiting

/-- Whatever calls overlap in a run, however many services they ask and however often they ask
them again, identifiers tell attempts apart until the counter wraps around. -/
theorem request_ids_never_collide {M : Type} (platform : Platform M) (filters : platform.canhttp.FiltersIds)
    (memory : Memory M) (events : List Event) (few : (attemptsOf platform memory events).length < 2^64) :
    TellsApart platform memory events := by
  have numbered := (Canister.run_identifies platform memory events).numbered
  have distinct := numbered.nodup few.le
  constructor
  · intro started inside
    exact (Canister.run_silent platform memory events).unpublished.genuine.sendsId inside
  · exact distinct
  · intro past later id method call service attempt same found waiting
    have own : attempt.started.data ∈ attemptsOf platform memory events := by
      obtain ⟨more,whole⟩ := Canister.run_ethAttempts platform (.initial platform memory) past later
      rw [attemptsOf,same,whole]
      exact List.mem_append_left _ (pending_attemptsOf found waiting)
    exact ⟨own,ownReplies_of_distinct filters distinct (fun data => numbered.requestId_ne_null) own⟩
  · intro past later time id method call service attempt reply request next same found waiting again taken
    obtain ⟨started,more,rest,written,whole⟩ := @attemptsOf_retry _ _ _ _ later _ _ _ _ _ _ _ _ _ found waiting again taken
    have earlier := pending_attemptsOf found waiting
    have split : attemptsOf platform memory events = attemptsOf platform memory past ++ started.data::rest := by
      rw [same,whole]
    refine ⟨started,more,written,?_,?_⟩
    · rw [split]
      exact List.mem_append_right _ List.mem_cons_self
    · change ((attemptsOf platform memory events).map MetricData.requestId).Nodup at distinct
      rw [split,List.map_append] at distinct
      obtain ⟨_,_,apart⟩ := List.nodup_append.mp distinct
      exact (apart _ (List.mem_map_of_mem earlier) _ (List.mem_map_of_mem List.mem_cons_self)).symm

theorem filtersIds_reference : Canhttp.reference.FiltersIds := by
  intro requestId id error consistent
  simp only [Canhttp.reference,Bool.or_eq_true,Bool.and_eq_true,decide_eq_true_eq] at consistent
  rcases consistent with same | ⟨null,_⟩
  · exact .inl same.symm
  · exact .inr null

theorem request_ids_never_collide_for_disagreement : TellsApart .reference demo
    (disagreement (.ethMainnet (some [.publicNode,.llama])) (.ethMainnet .publicNode) (.ethMainnet .llama)) := by
  have two := startedAttempts_of_disagreement
  apply request_ids_never_collide .reference filtersIds_reference
  exact (List.length_filter_le _ _).trans_lt (by rw [two]; norm_num)

end Runs
end EvmRpc
