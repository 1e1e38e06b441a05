import EvmRpc.Canister.Balance
import EvmRpc.RpcClient.Isolation

/-! Under which labels inconsistent answers are counted, and when these are the labels
of requests. -/
namespace EvmRpc
open Library

/-- The labels under which an inconsistent answer of a service is counted. -/
def inconsistentKey (url : Url) (method : RpcMethod) (service : RpcService) :
    Option (MetricRpcMethod × MetricRpcHost) :=
  match resolveRpcService service with
  | .ok (.provider provider) => some (method.toMetric,⟨(provider.hostname url).getD "(unknown)"⟩)
  | _ => none

def inconsistentKeys (url : Url) (method : RpcMethod) (services : List RpcService) :
    List (MetricRpcMethod × MetricRpcHost) := services.filterMap (inconsistentKey url method)

/-- The api that a provider has at present leads to the host that it is known by. -/
def LabelsAgree {M : Type} (platform : Platform M) (memory : Memory M) (service : RpcService) : Prop :=
  ∀ provider, resolveRpcService service = .ok (.provider provider) →
    ∃ api uri, apiOf platform memory service = .done (.ok api) ∧ platform.http.parseUri api.url = .ok uri ∧
      uri.host = some ((provider.hostname platform.url).getD "(unknown)")

section Counting
variable {url : Url} {method : RpcMethod} {metrics : Metrics} {counted : List (MetricRpcMethod × MetricRpcHost)}

theorem countInconsistent_tally (tallied : metrics.inconsistentResponses = Tally.of counted) (service : RpcService) :
    (countInconsistent url method metrics service).inconsistentResponses =
      Tally.of (counted ++ inconsistentKeys url method [service]) := by
  unfold countInconsistent inconsistentKeys
  cases resolved : resolveRpcService service with
  | error error => simp [inconsistentKey,resolved,tallied]
  | ok known =>
    cases known with
    | api api => simp [inconsistentKey,resolved,tallied]
    | provider provider =>
      have own : inconsistentKey url method service =
          some (method.toMetric,⟨(provider.hostname url).getD "(unknown)"⟩) := by simp [inconsistentKey,resolved]
      rw [List.filterMap_cons_some own,List.filterMap_nil,Tally.of_append_singleton,← tallied,← addMetricEntry_one]

theorem foldl_countInconsistent (tallied : metrics.inconsistentResponses = Tally.of counted)
    (services : List RpcService) : (services.foldl (countInconsistent url method) metrics).inconsistentResponses =
      Tally.of (counted ++ inconsistentKeys url method services) := by
  induction services generalizing metrics counted with
  | nil => simpa [inconsistentKeys] using tallied
  | cons service services ih =>
    rw [List.foldl_cons,ih (countInconsistent_tally tallied service),List.append_assoc,inconsistentKeys,inconsistentKeys,
      ← List.filterMap_append]
    rfl

/-- A call counts at most one inconsistent answer for each service that it queried. -/
theorem reply_tally {crate : Reduce RpcService method.JsonType RpcError} (keeps : crate.KeepsResults)
    (tallied : metrics.inconsistentResponses = Tally.of counted) (client : EthRpcClient)
    (transactionHash : Option Hex32) {results : CallResults method}
    (keys : results.keys.Perm client.providers.services.elements) :
    ∃ more, (client.reply crate url transactionHash results metrics).2.inconsistentResponses =
        Tally.of (counted ++ more) ∧
      more.Subperm (inconsistentKeys url method client.providers.services.elements) := by
  simp only [EthRpcClient.reply,processResult]
  cases reduced : client.consensusStrategy.reduce crate results with
  | ok value => exact ⟨[],by simpa using tallied,List.nil_subperm⟩
  | error error =>
    cases error with
    | consistentError error => exact ⟨[],by simpa using tallied,List.nil_subperm⟩
    | inconsistentResults held =>
      have inside : held.entries ⊆ results.entries := by
        cases strategy : client.consensusStrategy with
        | byEquality =>
          rw [strategy] at reduced
          exact keeps.equality results held reduced
        | byThreshold min =>
          rw [strategy] at reduced
          exact keeps.threshold min results held reduced
      obtain ⟨services,perm,listed⟩ : held.keys.Subperm client.providers.services.elements :=
        (held.distinct.subperm (List.map_subset Prod.fst inside)).trans keys.subperm
      exact ⟨_,foldl_countInconsistent tallied held.keys,services.filterMap _,perm.filterMap _,listed.filterMap _⟩

end Counting

section Calls
variable {M : Type} {platform : Platform M} {method : RpcMethod} {service : RpcService} {request : HttpJsonRpcRequest}
  {requests : List (RpcService × HttpJsonRpcRequest)} {call next : EthCall method} {memory after : Memory M}

def requestLabels (method : RpcMethod) (request : HttpJsonRpcRequest) : MetricRpcMethod × MetricRpcHost :=
  (method.toMetric,⟨request.parts.uri.host.getD ""⟩)

theorem launchAll_labels (launched : launchAll platform requests call memory = .done (next,after)) :
    (startedAttempts next.journal).map MetricData.key = (startedAttempts call.journal).map MetricData.key ++
      requests.map (fun entry => requestLabels method entry.2) := by
  induction requests generalizing call memory with
  | nil =>
    cases launched
    simp
  | cons entry requests ih =>
    rw [launchAll,List.foldlM_cons] at launched
    obtain ⟨⟨middle,between⟩,first,rest⟩ := Outcome.bind_eq_done.mp launched
    have one : (startedAttempts middle.journal).map MetricData.key =
        (startedAttempts call.journal).map MetricData.key ++ [requestLabels method entry.2] := by
      obtain ⟨started,_,begun,⟨_,_,_,rfl⟩ | ⟨_,_,_,rfl⟩⟩ := launch_cases first
      all_goals
        obtain ⟨host,named,rfl,_⟩ := startAttempt_eq_done begun
        simp [EthCall.note,EthCall.settle,startedAttempts,AttemptEvent.started,requestLabels,named,attempted,
          MetricData.key]
    rw [ih rest,one,List.map_cons,List.append_assoc,List.singleton_append]

theorem buildRequest_labels {params : Json} {size : ResponseSizeEstimate}
    (agree : LabelsAgree platform memory service) {key : MetricRpcMethod × MetricRpcHost}
    (named : inconsistentKey platform.url method service = some key) {built : RpcResult HttpJsonRpcRequest}
    (made : buildRequest platform memory method params size service = .done built) :
    ∃ request, built = .ok request ∧ requestLabels method request = key := by
  unfold inconsistentKey at named
  split at named
  · rename_i provider resolved
    cases named
    obtain ⟨api,uri,available,parsed,host⟩ := agree provider resolved
    have spec := buildRequest_spec platform memory method params size service
    rw [available] at spec
    simp only at spec
    by_cases accepts : platform.http.Accepts api
    · obtain ⟨request,given,same⟩ := spec.1 accepts
      obtain rfl : built = .ok request := Outcome.done.inj (made.symm.trans given)
      obtain rfl : uri = request.parts.uri := Except.ok.inj (parsed.symm.trans same)
      exact ⟨request,rfl,by rw [requestLabels,host]; rfl⟩
    · obtain ⟨message,trapped⟩ := spec.2 accepts
      cases made.symm.trans trapped
  · cases named

/-- Where labels agree, every inconsistent answer that a call can count has a request. -/
theorem parallelCall_labels {client : EthRpcClient} {transactionHash : Option Hex32} {params : Json}
    {size : ResponseSizeEstimate} {available : U128}
    (begun : parallelCall platform client method transactionHash params size available memory = .done (call,after))
    (agree : ∀ service ∈ client.providers.services.elements, LabelsAgree platform memory service)
    (key : MetricRpcMethod × MetricRpcHost) :
    (inconsistentKeys platform.url method client.providers.services.elements).countP (fun own => own = key) ≤
      attemptsAt key (startedAttempts call.journal) := by
  obtain ⟨requests,collected,launched⟩ := Outcome.bind_eq_done.mp begun
  have labels : (startedAttempts call.journal).map MetricData.key =
      requests.okResults.map (fun entry => requestLabels method entry.2) := by
    simpa [startedAttempts] using launchAll_labels launched
  have counted : attemptsAt key (startedAttempts call.journal) =
      (requests.okResults.filter (fun entry => requestLabels method entry.2 = key)).length := by
    have same := congrArg (List.countP (fun own => decide (own = key))) labels
    rw [List.countP_map,List.countP_map] at same
    rw [← List.countP_eq_length_filter]
    exact same
  have chosen : (inconsistentKeys platform.url method client.providers.services.elements).countP (fun own => own = key) =
      (client.providers.services.elements.filter
        (fun service => inconsistentKey platform.url method service = some key)).length := by
    rw [inconsistentKeys,List.countP_filterMap,← List.countP_eq_length_filter]
    refine List.countP_congr (fun service _ => ?_)
    cases inconsistentKey platform.url method service <;> simp
  rw [counted,chosen,← List.length_map Prod.fst]
  refine (List.Nodup.subperm (client.providers.services.nodup.filter _) ?_).length_le
  intro service inside
  obtain ⟨queried,named⟩ := List.mem_filter.mp inside
  obtain ⟨⟨_,built⟩,listed,rfl⟩ := List.mem_map.mp ((MultiResults.keys_of_collect collected).mem_iff.mpr queried)
  obtain ⟨_,made⟩ := (MultiResults.mem_of_collect collected).mp listed
  obtain ⟨request,rfl,same⟩ := buildRequest_labels (agree _ queried) (of_decide_eq_true named) made
  exact List.mem_map.mpr ⟨_,List.mem_filter.mpr ⟨MultiResults.mem_okResults.mpr listed,by simpa using same⟩,rfl⟩

end Calls

/-- The labels that an open call may still count an inconsistent answer under. -/
def OpenCall.countable (url : Url) : OpenCall → List (MetricRpcMethod × MetricRpcHost)
  | .eth method call => inconsistentKeys url method call.client.providers.services.elements
  | .request _ => []

namespace Canister
variable {M : Type}

def countableFor (url : Url) (canister : Canister M) (id : ℕ) : List (MetricRpcMethod × MetricRpcHost) :=
  ((canister.calls id).map (OpenCall.countable url)).getD []

/-- Each answer that was counted as inconsistent, or still can be, has a request of its own. -/
def Covers (url : Url) (canister : Canister M) (counted : List (MetricRpcMethod × MetricRpcHost)) : Prop :=
  ∀ key, counted.countP (fun own => own = key) +
    ((List.range canister.nextCall).flatMap (canister.countableFor url)).countP (fun own => own = key) ≤
      attemptsAt key (startedAttempts canister.journal)

structure Labelled (platform : Platform M) (canister : Canister M) : Prop where
  balanced : canister.Balanced platform.canhttp
  covered : ∃ counted, canister.memory.metrics.inconsistentResponses = Tally.of counted ∧
    canister.Covers platform.url counted

/-- A call on providers begins with labels that agree. -/
def BeginsLabelled (platform : Platform M) (canister : Canister M) (event : Event) : Prop :=
  match event.message with
  | .ethCall source config _ _ (.ok _) _ => ∀ client usage,
    EthRpcClient.new platform.timed source config event.time canister.memory.okResultsTimestamps =
      .done (.ok client,usage) →
    ∀ service ∈ client.providers.services.elements, LabelsAgree platform canister.memory service
  | _ => True

section Runs
variable {platform : Platform M} {canister next : Canister M} {now : Timestamp} {event : Event}
  {counted : List (MetricRpcMethod × MetricRpcHost)}

theorem Covers.moved {url : Url} (covers : canister.Covers url counted)
    (unused : ∀ id, canister.nextCall ≤ id → canister.calls id = none) {id later : ℕ} (inside : id < later)
    (bound : canister.nextCall ≤ later) {opened : Option OpenCall} {events : List AttemptEvent} {memory : Memory M}
    {more : List (MetricRpcMethod × MetricRpcHost)}
    (moved : ∀ key, more.countP (fun own => own = key) +
        ((opened.map (OpenCall.countable url)).getD []).countP (fun own => own = key) ≤
      (canister.countableFor url id).countP (fun own => own = key) + attemptsAt key (startedAttempts events))
    (completed : List Completion) :
    Covers url ⟨memory,Function.update canister.calls id opened,later,completed,canister.journal ++ events⟩
      (counted ++ more) := by
  obtain ⟨rest,before,after⟩ := gathered_update (OpenCall.countable url) unused inside bound opened
  intro key
  change (counted ++ more).countP _ + ((List.range later).flatMap (fun i =>
    ((Function.update canister.calls id opened i).map (OpenCall.countable url)).getD [])).countP _ ≤
      attemptsAt key (startedAttempts (canister.journal ++ events))
  change ((List.range canister.nextCall).flatMap (canister.countableFor url)).Perm (canister.countableFor url id ++ rest)
    at before
  have first := covers key
  have second := moved key
  rw [before.countP_eq,List.countP_append] at first
  rw [after.countP_eq,List.countP_append,List.countP_append,startedAttempts,attemptsAt,List.filterMap_append,
    List.countP_append]
  simp only [attemptsAt,startedAttempts] at first second
  omega

theorem counted_inconsistentResponses (canhttp : Canhttp) (events : List AttemptEvent) (metrics : Metrics) :
    (events.foldl (AttemptEvent.counted canhttp) metrics).inconsistentResponses = metrics.inconsistentResponses := by
  have one (event : AttemptEvent) (metrics : Metrics) :
      (event.counted canhttp metrics).inconsistentResponses = metrics.inconsistentResponses := by
    cases event with
    | began started => rfl
    | ended data outcome =>
      simp only [AttemptEvent.counted]
      cases OutcomeKey.of canhttp data outcome with
      | none => rfl
      | some key => cases key <;> rfl
  induction events generalizing metrics with
  | nil => rfl
  | cons event events ih => rw [List.foldl_cons,ih,one]

theorem proceed_labelled (keeps : ∀ method, (platform.reduce method).KeepsResults)
    (covers : canister.Covers platform.url counted)
    (unused : ∀ id, canister.nextCall ≤ id → canister.calls id = none) {id later : ℕ} (inside : id < later)
    (bound : canister.nextCall ≤ later) {method : RpcMethod} {call : EthCall method} {memory : Memory M}
    (wellFormed : call.WellFormed) (tallied : memory.metrics.inconsistentResponses = Tally.of counted)
    (covered : ∀ key, (OpenCall.countable platform.url (.eth method call)).countP (fun own => own = key) ≤
      (canister.countableFor platform.url id).countP (fun own => own = key) +
        attemptsAt key (startedAttempts call.journal))
    (proceeded : proceed platform now id call memory {canister with nextCall := later} = .done next) :
    ∃ counted, next.memory.metrics.inconsistentResponses = Tally.of counted ∧ next.Covers platform.url counted := by
  unfold proceed at proceeded
  simp only at proceeded
  split at proceeded
  · rename_i complete
    obtain ⟨results,collected,_,keys⟩ := @collectResults_of_wellFormed _ platform _ _ wellFormed
      (List.isEmpty_iff.mp complete) now memory
    rw [collected] at proceeded
    cases proceeded
    obtain ⟨usage,recorded⟩ := @recordOkResults_eq _ platform now (recordedServices results) memory
    rw [recorded]
    obtain ⟨more,after,few⟩ := reply_tally (keeps method) tallied call.client call.transactionHash keys
    refine ⟨counted ++ more,after,covers.moved unused inside bound (fun key => ?_) _⟩
    exact (few.countP_le _).trans (covered key)
  · cases proceeded
    refine ⟨counted ++ [],by rw [List.append_nil]; exact tallied,covers.moved unused inside bound (fun key => ?_) _⟩
    rw [List.countP_nil,Nat.zero_add]
    exact covered key

theorem ethCall_labelled (keeps : ∀ method, (platform.reduce method).KeepsResults)
    (labelled : canister.Labelled platform) (begins : canister.BeginsLabelled platform event)
    {source : RpcServices} {config : Option RpcConfig} {method : RpcMethod} {transactionHash : Option Hex32}
    {params : Except ValidationError Json} {available : U128}
    (message : event.message = .ethCall source config method transactionHash params available)
    (taken : canister.ethCall platform event.time source config method transactionHash params available = .done next) :
    ∃ counted, next.memory.metrics.inconsistentResponses = Tally.of counted ∧ next.Covers platform.url counted := by
  obtain ⟨counted,tallied,covers⟩ := labelled.covered
  obtain ⟨_,usage,chosen,rfl | ⟨client,params,size,call,memory,rfl,rfl,begun,taken⟩⟩ := ethCall_cases taken
  · exact ⟨counted,tallied,covers⟩
  · simp only [BeginsLabelled,message] at begins
    have agree := begins client usage chosen
    obtain ⟨_,_,_,client_eq,_,_,_,wellFormed,_⟩ := parallelCall_eq_done begun
    have labels := parallelCall_labels begun agree
    obtain ⟨requests,_,launched⟩ := Outcome.bind_eq_done.mp begun
    obtain ⟨events,_,same,_⟩ := launchAll_goesOn launched
    refine proceed_labelled keeps covers labelled.balanced.unused (Nat.lt_succ_self _) (Nat.le_succ _) wellFormed
      ?_ (fun key => ?_) taken
    · rw [same,counted_inconsistentResponses]
      exact tallied
    · rw [OpenCall.countable,client_eq]
      exact (labels key).trans (Nat.le_add_left _ _)

theorem ethReply_labelled (keeps : ∀ method, (platform.reduce method).KeepsResults)
    (labelled : canister.Labelled platform) {id : ℕ} {service : RpcService} {reply : Except IcError HttpResponse}
    (taken : canister.ethReply platform now id service reply = .done next) :
    ∃ counted, next.memory.metrics.inconsistentResponses = Tally.of counted ∧ next.Covers platform.url counted := by
  obtain ⟨counted,tallied,covers⟩ := labelled.covered
  obtain rfl | ⟨method,call,further,memory,found,received,taken⟩ := ethReply_cases taken
  · exact ⟨counted,tallied,covers⟩
  · obtain ⟨_,wellFormed⟩ := labelled.balanced.opened id method call found
    obtain ⟨events,_,same,_⟩ := receiveReply_goesOn wellFormed received
    obtain ⟨_,_,received',extension,kept,_⟩ := @receiveReply_step _ platform _ _ wellFormed service reply canister.memory
    cases received.symm.trans received'
    refine proceed_labelled keeps covers labelled.balanced.unused (labelled.balanced.used found) le_rfl kept ?_
      (fun key => ?_) taken
    · rw [same,counted_inconsistentResponses]
      exact tallied
    · rw [countableFor,found,Option.map_some,Option.getD_some,OpenCall.countable,OpenCall.countable,extension.client]
      exact Nat.le_add_right _ _

theorem requestCall_labelled (labelled : canister.Labelled platform) {service : RpcService}
    {jsonRpcPayload : String} {maxResponseBytes : UInt64} {available : U128}
    (taken : canister.requestCall platform service jsonRpcPayload maxResponseBytes available = .done next) :
    ∃ counted, next.memory.metrics.inconsistentResponses = Tally.of counted ∧ next.Covers platform.url counted := by
  obtain ⟨counted,tallied,covers⟩ := labelled.covered
  obtain rfl | ⟨host,request,started,rfl,⟨charged,_,rfl⟩ | ⟨error,_,rfl⟩⟩ := requestCall_cases taken
  · exact ⟨counted,tallied,covers⟩
  · refine ⟨counted ++ [],?_,covers.moved labelled.balanced.unused (Nat.lt_succ_self _) (Nat.le_succ _)
      (fun key => ?_) _⟩
    · rw [List.append_nil]
      exact tallied
    · simp [OpenCall.countable]
  · refine ⟨counted,?_,fun key => (covers key).trans ?_⟩
    · rw [observe_metrics]
      exact (counted_inconsistentResponses platform.canhttp [.ended _ _] _).trans tallied
    · simp [note,startedAttempts,attemptsAt]

theorem step_labelled (keeps : ∀ method, (platform.reduce method).KeepsResults) (labelled : canister.Labelled platform)
    (begins : canister.BeginsLabelled platform event) (taken : canister.step platform event = .done next) :
    next.Labelled platform := by
  refine ⟨step_balanced labelled.balanced taken,?_⟩
  obtain ⟨counted,tallied,covers⟩ := labelled.covered
  cases message : event.message with
  | ethCall source config method transactionHash params available =>
    simp only [step,message] at taken
    exact ethCall_labelled keeps labelled begins message taken
  | ethReply id service reply =>
    simp only [step,message] at taken
    exact ethReply_labelled keeps labelled taken
  | request service jsonRpcPayload maxResponseBytes available =>
    simp only [step,message] at taken
    exact requestCall_labelled labelled taken
  | requestReply id reply =>
    simp only [step,message] at taken
    obtain rfl | ⟨started,found,rfl⟩ := requestReply_cases taken
    · exact ⟨counted,tallied,covers⟩
    · refine ⟨counted ++ [],?_,covers.moved labelled.balanced.unused (labelled.balanced.used found) le_rfl
        (fun key => ?_) _⟩
      · rw [List.append_nil,observe_metrics]
        exact (counted_inconsistentResponses platform.canhttp [.ended started.data _] _).trans tallied
      · simp
  | updateApiKeys caller isController apiKeys =>
    simp only [step,message] at taken
    obtain ⟨memory,updated,taken⟩ := Outcome.bind_eq_done.mp taken
    cases taken
    obtain ⟨_,_,rfl⟩ := updateApiKeys_eq_done.mp updated
    exact ⟨counted,tallied,covers⟩

theorem run_labelled (keeps : ∀ method, (platform.reduce method).KeepsResults) (memory : Memory M) (events : List Event)
    (begins : ∀ past event rest, events = past ++ event::rest →
      BeginsLabelled platform (Runs.run (step platform) (initial platform memory) past) event) :
    (Runs.run (step platform) (initial platform memory) events).Labelled platform := by
  induction events using List.reverseRecOn with
  | nil => exact ⟨run_balanced platform memory [],[],rfl,fun _ => Nat.zero_le _⟩
  | append_singleton past event ih =>
    have before := ih (fun earlier other rest same => begins earlier other (rest ++ [event]) (by simp [same]))
    rw [Runs.run_concat]
    cases taken : step platform (Runs.run (step platform) (initial platform memory) past) event with
    | done next =>
      rw [Runs.advance_done _ taken]
      exact step_labelled keeps before (begins past event [] rfl) taken
    | trap message =>
      rw [Runs.advance_trap _ taken]
      exact before

end Runs
end Canister

/-- As long as the providers of each call have their own hosts when it begins, inconsistent
answers are counted where requests are. -/
theorem inconsistent_answers_have_requests {M : Type} (platform : Platform M)
    (keeps : ∀ method, (platform.reduce method).KeepsResults) (memory : Memory M) (events : List Event)
    (begins : ∀ past event rest, events = past ++ event::rest → Canister.BeginsLabelled platform
      (Runs.run (Canister.step platform) (Canister.initial platform memory) past) event)
    (key : MetricRpcMethod × MetricRpcHost)
    (small : attemptsAt key (startedAttempts
      (Runs.run (Canister.step platform) (Canister.initial platform memory) events).journal) < 2^64) :
    let metrics := (Runs.run (Canister.step platform) (Canister.initial platform memory) events).memory.metrics
    Tally.count metrics.inconsistentResponses key ≤ Tally.count metrics.requests key := by
  intro metrics
  obtain ⟨balanced,counted,tallied,covers⟩ := Canister.run_labelled keeps memory events begins
  have few := (Nat.le_add_right _ _).trans (covers key)
  change Tally.count (Metrics.inconsistentResponses _) key ≤ _
  rw [tallied,Tally.count_of (few.trans_lt small),(balanced.counters small).started]
  exact few

section Hosts
variable {M : Type} {platform : Platform M}

/-- A request that leaves the canister whatever identifier it gets. -/
private structure Leaves (platform : Platform M) (memory : Memory M) (size : ResponseSizeEstimate) (service : RpcService)
    (request : HttpJsonRpcRequest) : Prop where
  made : buildRequest platform memory .ethCall .null size service = .done (.ok request)
  host : ∃ host, request.parts.uri.host = some host
  accepted : ∀ counter, ∃ converted, serviceRequestBuilder platform.http platform.canhttp
    (numbered true counter request) = .ok converted

private theorem launch_leaves {memory : Memory M} {size : ResponseSizeEstimate} {service : RpcService}
    {request : HttpJsonRpcRequest} (leaves : Leaves platform memory size service request) {call : EthCall .ethCall}
    (free : call.accounting.policy.chargeUser = false) (present : Memory M) :
    ∃ attempt available after, launch platform service request call present =
        .done ({call.note (.began attempt.started) with
          available := available
          pending := call.pending ++ [(service,attempt)]},after) ∧
      ∃ charged, attempt.started.sent = .ok charged := by
  obtain ⟨host,named⟩ := leaves.host
  obtain ⟨converted,accepted⟩ := leaves.accepted present.httpRequestCounter
  let started := attempted platform.http platform.canhttp call.accounting RpcMethod.ethCall.toMetric true
    call.available present.httpRequestCounter host request
  have sent : started.sent = .ok ⟨converted,platform.canhttp.costOfHttpRequest call.accounting.nodes converted,0⟩ := by
    simp [started,attempted,accepted,CyclesAccounting.convert,ChargingPolicyWithCollateral.cyclesToCharge,free]
  refine ⟨⟨request,started⟩,call.available-0,present.requested RpcMethod.ethCall.toMetric true host,?_,_,sent⟩
  refine Outcome.bind_eq_done.mpr ⟨_,startAttempt_of_host named (numbered_identified _ _),?_⟩
  simp only
  split
  · rename_i charged shown
    cases sent.symm.trans shown
    rfl
  · rename_i error shown
    cases sent.symm.trans shown

private theorem ethReply_fails {canister : Canister M} {now : Timestamp} {id : ℕ} {call : EthCall .ethCall}
    (found : canister.calls id = some (.eth .ethCall call)) (distinct : (call.pending.map Prod.fst).Nodup)
    {service : RpcService} {attempt : Attempt} (waiting : (service,attempt) ∈ call.pending) {error : IcError}
    (final : platform.canhttp.tooLarge error = false) :
    canister.ethReply platform now id service (.error error) =
      let ended := afterAttempt platform service attempt (.error error) call canister.memory
      Canister.proceed platform now id
        (ended.1.settle service (.error ((HttpClientError.icError error).toRpcError platform.canhttp))) ended.2
        canister := by
  have none : retried platform.canhttp attempt.request (replyOutcome platform .ethCall attempt (.error error)) = none := by
    simp [retried,replyOutcome,receive,HttpClientError.isResponseTooLarge,final]
  simp only [Canister.ethReply,found,receiveReply_of_pending distinct waiting,none]
  rfl

/-- A call to two services that both fail, each in its own way. -/
def disagreement (source : RpcServices) (first second : RpcService) : List Event :=
  [⟨1,.ethCall source none .ethCall none (.ok .null) 0⟩,⟨2,.ethReply 0 first (.error ⟨.sysTransient,"timeout"⟩)⟩,
    ⟨2,.ethReply 0 second (.error ⟨.canisterReject,"refused"⟩)⟩]

private theorem begun_of_two {memory : Memory M} {client : EthRpcClient} {size : ResponseSizeEstimate}
    {first second : RpcService} (apart : first < second) (two : client.providers.services.elements = [first,second])
    {one other : HttpJsonRpcRequest} (leaves : Leaves platform memory size first one)
    (leaves' : Leaves platform memory size second other) (free : memory.isDemoActive = true) :
    ∃ call after attempt attempt', parallelCall platform client .ethCall none .null size 0 memory = .done (call,after) ∧
      call.pending = [(first,attempt),(second,attempt')] ∧ call.settled = [] ∧ call.errors = [] ∧
      call.client = client ∧ (startedAttempts call.journal).map MetricData.key =
        [requestLabels .ethCall one,requestLabels .ethCall other] ∧
      ∀ started, .began started ∈ call.journal → ∃ charged, started.sent = .ok charged := by
  let requests : MultiResults RpcService HttpJsonRpcRequest RpcError :=
    ⟨[(first,.ok one),(second,.ok other)],by simpa using apart.ne⟩
  have collected : MultiResults.collect (buildRequest platform memory .ethCall .null size)
      client.providers.services.elements .empty = .done requests := by
    rw [two]
    simp [MultiResults.collect,leaves.made,leaves'.made,MultiResults.insertOnce,MultiResults.keys,MultiResults.empty,
      apart.ne',not_le_of_gt apart,requests]
  let call : EthCall .ethCall := ⟨client,none,.ofMemory memory,0,[],[],[],[]⟩
  have charges : (CyclesAccounting.ofMemory memory).policy.chargeUser = false := by
    simp [CyclesAccounting.ofMemory,ChargingPolicyWithCollateral.default,ChargingPolicyWithCollateral.new,free]
  obtain ⟨attempt,available,between,launched,sent⟩ := @launch_leaves _ platform _ _ _ _ leaves call charges memory
  obtain ⟨attempt',available',after,launched',sent'⟩ := @launch_leaves _ platform _ _ _ _ leaves'
    {call.note (.began attempt.started) with available := available, pending := call.pending ++ [(first,attempt)]}
    charges between
  let last : EthCall .ethCall := ⟨client,none,.ofMemory memory,available',[],[(first,attempt),(second,attempt')],[],
    [.began attempt.started,.began attempt'.started]⟩
  have all : launchAll platform requests.okResults call memory = .done (last,after) := by
    change launchAll platform [(first,one),(second,other)] call memory = _
    rw [launchAll,List.foldlM_cons]
    refine Outcome.bind_eq_done.mpr ⟨_,launched,?_⟩
    rw [List.foldlM_cons]
    exact Outcome.bind_eq_done.mpr ⟨_,launched',rfl⟩
  refine ⟨last,after,attempt,attempt',Outcome.bind_eq_done.mpr ⟨requests,collected,all⟩,rfl,rfl,rfl,rfl,?_,?_⟩
  · exact launchAll_labels all
  · intro started inside
    simp only [last,List.mem_cons,AttemptEvent.began.injEq,List.not_mem_nil,or_false] at inside
    rcases inside with rfl | rfl
    · exact sent
    · exact sent'

private theorem collectResults_of_two {first second : RpcService} (apart : first < second) {call : EthCall .ethCall}
    {error error' : RpcError} (errors : call.errors = [])
    (settled : call.settled = [(first,.error error),(second,.error error')])
    (two : call.client.providers.services.elements = [first,second]) (now : Timestamp) (memory : Memory M) :
    ∃ results after, collectResults platform now call memory = .done (results,after) ∧ results.okResults = [] ∧
      results.keys = [first,second] := by
  let results : CallResults .ethCall := ⟨[(first,.error error),(second,.error error')],by simpa using apart.ne⟩
  refine ⟨results,memory,?_,rfl,rfl⟩
  have inserted : MultiResults.insertAll call.settled .empty = .done results := by
    rw [settled]
    simp [MultiResults.insertAll,MultiResults.insertOnce,MultiResults.keys,MultiResults.empty,apart.ne',
      not_le_of_gt apart,results]
  refine Outcome.bind_eq_done.mpr ⟨results,inserted,?_⟩
  rw [errors]
  refine Outcome.bind_eq_done.mpr ⟨results,rfl,?_⟩
  have enough : results.len = call.client.providers.services.card := by rw [OrderedSet.card,two]; rfl
  rw [if_pos enough]
  rfl

private theorem afterAttempt_inconsistentResponses {method : RpcMethod} (service : RpcService) (attempt : Attempt)
    (reply : Except IcError HttpResponse) (call : EthCall method) (memory : Memory M) :
    (afterAttempt platform service attempt reply call memory).2.metrics.inconsistentResponses =
      memory.metrics.inconsistentResponses := by
  simp only [afterAttempt,observe_metrics]
  exact Canister.counted_inconsistentResponses platform.canhttp [.ended _ _] memory.metrics

private theorem proceed_of_pending {method : RpcMethod} {call : EthCall method} (waits : call.pending.isEmpty = false)
    (now : Timestamp) (id : ℕ) (memory : Memory M) (canister : Canister M) :
    Canister.proceed platform now id call memory canister = .done {canister.note call.journal with
      memory := memory
      calls := Function.update canister.calls id (some (.eth method {call with journal := []}))} := by
  rw [Canister.proceed,if_neg (by simp [waits])]
  rfl

private theorem proceed_of_complete {method : RpcMethod} {call : EthCall method} (complete : call.pending.isEmpty = true)
    {now : Timestamp} {memory after : Memory M} {results : CallResults method}
    (collected : collectResults platform now call memory = .done (results,after)) (id : ℕ) (canister : Canister M) :
    ∃ next, Canister.proceed platform now id call memory canister = .done next ∧
      next.journal = canister.journal ++ call.journal ∧ next.memory.metrics =
        (call.client.reply (platform.reduce method) platform.url call.transactionHash results after.metrics).2 := by
  rw [Canister.proceed,if_pos complete,collected]
  exact ⟨_,rfl,rfl,rfl⟩

private theorem begun_disagreement {memory : Memory M} {source : RpcServices} {client : EthRpcClient}
    {usage : SupportedRpcServiceUsage M}
    (chosen : EthRpcClient.new platform.timed source none 1 (.new platform.timed) = .done (.ok client,usage))
    {size : ResponseSizeEstimate} (sized : client.responseSizeEstimate (client.expectedSize .ethCall) = .done size)
    {first second : RpcService} (apart : first < second) (two : client.providers.services.elements = [first,second])
    {one other : HttpJsonRpcRequest} (leaves : Leaves platform memory size first one)
    (leaves' : Leaves platform memory size second other) (free : memory.isDemoActive = true) :
    ∃ opened call attempt attempt', Canister.step platform (Canister.initial platform memory)
        ⟨1,.ethCall source none .ethCall none (.ok .null) 0⟩ = .done opened ∧
      opened.calls 0 = some (.eth .ethCall call) ∧ call = ⟨client,none,call.accounting,call.available,[],
        [(first,attempt),(second,attempt')],[],[]⟩ ∧
      opened.memory.metrics.inconsistentResponses = Tally.of [] ∧
      (startedAttempts opened.journal).map MetricData.key =
        [requestLabels .ethCall one,requestLabels .ethCall other] ∧
      ∀ started, .began started ∈ opened.journal → ∃ charged, started.sent = .ok charged := by
  obtain ⟨call,after,attempt,attempt',begun,pending,settled,errors,client_eq,labels,sent⟩ :=
    @begun_of_two _ platform {memory.upgraded platform.timed with okResultsTimestamps := usage} _ _ _ _ apart two _ _
      ⟨leaves.made,leaves.host,leaves.accepted⟩ ⟨leaves'.made,leaves'.host,leaves'.accepted⟩ free
  obtain ⟨requests,_,launched⟩ := Outcome.bind_eq_done.mp begun
  obtain ⟨events,_,counted,_⟩ := launchAll_goesOn launched
  obtain ⟨_,_,_,_,hash,_⟩ := parallelCall_eq_done begun
  let waiting : EthCall .ethCall := {call with journal := []}
  let opened : Canister M := ⟨after,Function.update (fun _ => none) 0 (some (.eth .ethCall waiting)),1,[],call.journal⟩
  refine ⟨opened,waiting,attempt,attempt',?_,by simp [opened],?_,?_,labels,sent⟩
  · refine Outcome.bind_eq_done.mpr ⟨(.ok client,usage),chosen,?_⟩
    refine Outcome.bind_eq_done.mpr ⟨size,sized,?_⟩
    refine Outcome.bind_eq_done.mpr ⟨_,begun,?_⟩
    exact proceed_of_pending (by rw [pending]; rfl) _ _ _ _
  · simp only [waiting,pending,settled,errors,client_eq,hash]
  · change after.metrics.inconsistentResponses = _
    rw [counted,Canister.counted_inconsistentResponses]
    rfl

/-- The first failure leaves the call open for the other service. -/
private theorem first_failure {canister : Canister M} {call : EthCall .ethCall} {first second : RpcService}
    {attempt attempt' : Attempt} (found : canister.calls 0 = some (.eth .ethCall call))
    (waiting : call = ⟨call.client,none,call.accounting,call.available,[],[(first,attempt),(second,attempt')],[],[]⟩)
    (apart : first < second) {error : IcError} (final : platform.canhttp.tooLarge error = false) (now : Timestamp) :
    ∃ between half outcome, Canister.step platform canister ⟨now,.ethReply 0 first (.error error)⟩ = .done between ∧
      between.calls 0 = some (.eth .ethCall half) ∧
      half = ⟨call.client,none,call.accounting,call.available,[],[(second,attempt')],
        [(first,.error ((HttpClientError.icError error).toRpcError platform.canhttp))],[]⟩ ∧
      between.journal = canister.journal ++ [.ended attempt.started.data outcome] ∧
      between.memory.metrics.inconsistentResponses = canister.memory.metrics.inconsistentResponses := by
  have pending : call.pending = [(first,attempt),(second,attempt')] := congrArg EthCall.pending waiting
  have settled : call.settled = [] := congrArg EthCall.settled waiting
  have errors : call.errors = [] := congrArg EthCall.errors waiting
  have hash : call.transactionHash = none := congrArg EthCall.transactionHash waiting
  have silent : call.journal = [] := congrArg EthCall.journal waiting
  let ended := afterAttempt platform first attempt (.error error) call canister.memory
  let half : EthCall .ethCall :=
    ended.1.settle first (.error ((HttpClientError.icError error).toRpcError platform.canhttp))
  have left : half.pending = [(second,attempt')] := by
    simp [half,ended,afterAttempt,EthCall.settle,EthCall.forget,pending,apart.ne']
  let between : Canister M := {canister.note half.journal with
    memory := ended.2
    calls := Function.update canister.calls 0 (some (.eth .ethCall {half with journal := []}))}
  let outcome := (replyOutcome platform .ethCall attempt (.error error)).map Prod.fst
  refine ⟨between,{half with journal := []},outcome,?_,by simp [between],?_,?_,?_⟩
  · refine (@ethReply_fails _ platform canister now 0 call found ?_ _ attempt ?_ _ final).trans ?_
    · simpa [pending] using apart.ne
    · simp [pending]
    · exact proceed_of_pending (by rw [left]; rfl) _ _ _ _
  · simp [half,ended,afterAttempt,EthCall.settle,EthCall.forget,EthCall.note,pending,settled,errors,hash,apart.ne']
  · have told : half.journal = [.ended attempt.started.data outcome] := congrArg (· ++ _) silent
    change canister.journal ++ half.journal = _
    rw [told]
  · exact afterAttempt_inconsistentResponses first attempt (.error error) call canister.memory

/-- The second one ends it, and an inconsistent answer is counted for each service. -/
private theorem last_failure {canister : Canister M} {call : EthCall .ethCall} {first second : RpcService}
    {attempt : Attempt} {failure : RpcError} (found : canister.calls 0 = some (.eth .ethCall call))
    (waiting : call = ⟨call.client,none,call.accounting,call.available,[],[(second,attempt)],[(first,.error failure)],[]⟩)
    (apart : first < second) (two : call.client.providers.services.elements = [first,second]) {error : IcError}
    (final : platform.canhttp.tooLarge error = false)
    (inconsistent : ∀ results : CallResults .ethCall, results.okResults = [] →
      call.client.consensusStrategy.reduce (platform.reduce .ethCall) results = .error (.inconsistentResults results))
    (uncounted : canister.memory.metrics.inconsistentResponses = Tally.of []) (now : Timestamp) :
    ∃ closed outcome, Canister.step platform canister ⟨now,.ethReply 0 second (.error error)⟩ = .done closed ∧
      closed.journal = canister.journal ++ [.ended attempt.started.data outcome] ∧
      closed.memory.metrics.inconsistentResponses =
        Tally.of (inconsistentKeys platform.url .ethCall [first,second]) := by
  have pending : call.pending = [(second,attempt)] := congrArg EthCall.pending waiting
  have settled : call.settled = [(first,.error failure)] := congrArg EthCall.settled waiting
  have errors : call.errors = [] := congrArg EthCall.errors waiting
  have silent : call.journal = [] := congrArg EthCall.journal waiting
  let ended := afterAttempt platform second attempt (.error error) call canister.memory
  let last : EthCall .ethCall :=
    ended.1.settle second (.error ((HttpClientError.icError error).toRpcError platform.canhttp))
  have complete : last.pending.isEmpty = true := by
    simp [last,ended,afterAttempt,EthCall.settle,EthCall.forget,pending]
  have both : last.settled = [(first,.error failure),
      (second,.error ((HttpClientError.icError error).toRpcError platform.canhttp))] := by
    simp [last,ended,afterAttempt,EthCall.settle,EthCall.forget,EthCall.note,settled]
  obtain ⟨results,recorded,collected,failed,keys⟩ :=
    @collectResults_of_two _ platform _ _ apart last _ _ errors both two now ended.2
  obtain ⟨closed,proceeded,journal,metrics⟩ := @proceed_of_complete _ platform _ _ complete _ _ _ _ collected 0 canister
  let outcome := (replyOutcome platform .ethCall attempt (.error error)).map Prod.fst
  refine ⟨closed,outcome,?_,journal.trans ?_,?_⟩
  · refine (@ethReply_fails _ platform canister now 0 call found ?_ _ attempt ?_ _ final).trans proceeded
    · simp [pending]
    · simp [pending]
  · have told : last.journal = [.ended attempt.started.data outcome] := congrArg (· ++ _) silent
    rw [told]
  · have still : recorded.metrics.inconsistentResponses = Tally.of [] := by
      obtain ⟨usage,rfl⟩ := collectResults_eq collected
      change ended.2.metrics.inconsistentResponses = _
      rw [afterAttempt_inconsistentResponses]
      exact uncounted
    have own : last.client = call.client := rfl
    rw [metrics,EthRpcClient.reply,own,inconsistent results failed,← keys]
    exact foldl_countInconsistent still results.keys

private theorem failed_disagreement {canister : Canister M} {call : EthCall .ethCall} {first second : RpcService}
    {attempt attempt' : Attempt} (found : canister.calls 0 = some (.eth .ethCall call))
    (waiting : call = ⟨call.client,none,call.accounting,call.available,[],[(first,attempt),(second,attempt')],[],[]⟩)
    (apart : first < second) (two : call.client.providers.services.elements = [first,second])
    (final : platform.canhttp.tooLarge ⟨.sysTransient,"timeout"⟩ = false ∧
      platform.canhttp.tooLarge ⟨.canisterReject,"refused"⟩ = false)
    (inconsistent : ∀ results : CallResults .ethCall, results.okResults = [] →
      call.client.consensusStrategy.reduce (platform.reduce .ethCall) results = .error (.inconsistentResults results))
    (uncounted : canister.memory.metrics.inconsistentResponses = Tally.of []) :
    ∃ between closed outcome outcome',
      Canister.step platform canister ⟨2,.ethReply 0 first (.error ⟨.sysTransient,"timeout"⟩)⟩ = .done between ∧
      Canister.step platform between ⟨2,.ethReply 0 second (.error ⟨.canisterReject,"refused"⟩)⟩ = .done closed ∧
      closed.journal = canister.journal ++
        [.ended attempt.started.data outcome,.ended attempt'.started.data outcome'] ∧
      closed.memory.metrics.inconsistentResponses =
        Tally.of (inconsistentKeys platform.url .ethCall [first,second]) := by
  obtain ⟨between,half,outcome,firstStep,opened,rfl,told,same⟩ := first_failure found waiting apart final.1 2
  obtain ⟨closed,outcome',lastStep,written,counted⟩ :=
    last_failure opened rfl apart two final.2 inconsistent (same.trans uncounted) 2
  refine ⟨between,closed,outcome,outcome',firstStep,lastStep,?_,counted⟩
  rw [written,told,List.append_assoc]
  rfl

private theorem run_of_disagreement {memory : Memory M} {source : RpcServices} {client : EthRpcClient}
    {usage : SupportedRpcServiceUsage M}
    (chosen : EthRpcClient.new platform.timed source none 1 (.new platform.timed) = .done (.ok client,usage))
    {size : ResponseSizeEstimate} (sized : client.responseSizeEstimate (client.expectedSize .ethCall) = .done size)
    {first second : RpcService} (apart : first < second) (two : client.providers.services.elements = [first,second])
    {one other : HttpJsonRpcRequest} (leaves : Leaves platform memory size first one)
    (leaves' : Leaves platform memory size second other) (free : memory.isDemoActive = true)
    (final : platform.canhttp.tooLarge ⟨.sysTransient,"timeout"⟩ = false ∧
      platform.canhttp.tooLarge ⟨.canisterReject,"refused"⟩ = false)
    (inconsistent : ∀ results : CallResults .ethCall, results.okResults = [] →
      client.consensusStrategy.reduce (platform.reduce .ethCall) results = .error (.inconsistentResults results)) :
    let canister := Runs.run (Canister.step platform) (Canister.initial platform memory)
      (disagreement source first second)
    (startedAttempts canister.journal).map MetricData.key =
        [requestLabels .ethCall one,requestLabels .ethCall other] ∧
      (∀ started, .began started ∈ canister.journal → ∃ charged, started.sent = .ok charged) ∧
      canister.memory.metrics.inconsistentResponses =
        Tally.of (inconsistentKeys platform.url .ethCall [first,second]) := by
  obtain ⟨opened,call,attempt,attempt',begins,found,waiting,uncounted,labels,sent⟩ :=
    begun_disagreement chosen sized apart two leaves leaves' free
  have own : call.client = client := congrArg EthCall.client waiting
  obtain ⟨between,closed,outcome,outcome',fails,refuses,written,counted⟩ :=
    @failed_disagreement _ platform opened call first second attempt attempt' found (own ▸ waiting) apart (own ▸ two)
      final (own ▸ inconsistent) uncounted
  have run : Runs.run (Canister.step platform) (Canister.initial platform memory)
      (disagreement source first second) = closed := by
    simp only [disagreement,Runs.run,List.foldl_cons,List.foldl_nil,Runs.advance_done _ begins,
      Runs.advance_done _ fails,Runs.advance_done _ refuses]
  rw [run]
  refine ⟨?_,fun started inside => sent started (by simpa [written] using inside),counted⟩
  rw [written,← labels]
  simp [startedAttempts,AttemptEvent.started]

private theorem leaves_of_plain {memory : Memory M} {service : RpcService} {url host : String} {uri : Uri}
    (available : apiOf platform memory service = .done (.ok ⟨url,none⟩))
    (parsed : platform.http.parseUri url = .ok uri) (named : uri.host = some host)
    (encodes : ∀ request, ∃ body, platform.canhttp.encodeRequest request = .ok body)
    (visible : platform.http.toStr CONTENT_TYPE_VALUE = .ok CONTENT_TYPE_VALUE) (size : ResponseSizeEstimate) :
    ∃ request, Leaves platform memory size service request ∧ requestLabels .ethCall request = (⟨"eth_call"⟩,⟨host⟩) := by
  let request : HttpJsonRpcRequest := ⟨⟨uri,[],some size.get,some ⟨"cleanup_response",
    RpcMethod.ethCall.transformOp platform.minicbor⟩⟩,JsonRpcRequest.new "eth_call" .null⟩
  have made : buildRequest platform memory .ethCall .null size service = .done (.ok request) := by
    unfold apiOf at available
    unfold buildRequest
    split at available
    · cases available
    · rename_i resolved resolves
      simp only [ResolvedRpcService.post,available,Outcome.done_bind,Builder.post,parsed]
      rfl
  refine ⟨request,⟨made,⟨host,named⟩,fun counter => ?_⟩,?_⟩
  · obtain ⟨body,encoded⟩ := encodes ⟨.number counter,"eth_call",some .null⟩
    simp [serviceRequestBuilder,JsonRpcRequest.new,encoded,insertHeader,numbered,convertRequest,visible,request,bind,
      Except.bind,pure,Except.pure]
  · simp [requestLabels,request,named]
    rfl

def demo : Memory (ReferenceTimedMap SupportedRpcService) :=
  {Memory.fresh ReferenceTimedMap.reference with isDemoActive := true}

private theorem leaves_reference {service : RpcService} {url host : String} {uri : Uri}
    (available : apiOf .reference demo service = .done (.ok ⟨url,none⟩))
    (parsed : HttpCrate.reference.parseUri url = .ok uri) (named : uri.host = some host) (size : ResponseSizeEstimate) :
    ∃ request, Leaves .reference demo size service request ∧
      requestLabels .ethCall request = (⟨"eth_call"⟩,⟨host⟩) := by
  have visible : HttpCrate.reference.toStr CONTENT_TYPE_VALUE = .ok CONTENT_TYPE_VALUE := by
    simp [HttpCrate.reference,HttpCrate.isVisible,CONTENT_TYPE_VALUE]
  exact @leaves_of_plain _ .reference _ _ _ _ _ available parsed named (fun _ => ⟨_,rfl⟩) visible size

private theorem parseUri_blockPi : HttpCrate.reference.parseUri "https://ethereum.public.blockpi.network/v1/rpc/public" =
    .ok ⟨"https://ethereum.public.blockpi.network/v1/rpc/public",some "ethereum.public.blockpi.network"⟩ := by
  simp [HttpCrate.reference,HttpCrate.isVisible,HttpCrate.hostOf,HttpCrate.afterScheme]

private theorem parseUri_publicNode : HttpCrate.reference.parseUri "https://ethereum-rpc.publicnode.com" =
    .ok ⟨"https://ethereum-rpc.publicnode.com",some "ethereum-rpc.publicnode.com"⟩ := by
  simp [HttpCrate.reference,HttpCrate.isVisible,HttpCrate.hostOf,HttpCrate.afterScheme]

private theorem parseUri_llama : HttpCrate.reference.parseUri "https://eth.llamarpc.com" =
    .ok ⟨"https://eth.llamarpc.com",some "eth.llamarpc.com"⟩ := by
  simp [HttpCrate.reference,HttpCrate.isVisible,HttpCrate.hostOf,HttpCrate.afterScheme]

private theorem inconsistentKey_blockPi : inconsistentKey Platform.reference.url .ethCall (.ethMainnet .blockPi) =
    some (⟨"eth_call"⟩,⟨"ethereum.blockpi.network"⟩) := by
  have resolved : resolveRpcService (.ethMainnet .blockPi) = .ok (.provider ⟨3,ETH_MAINNET_CHAIN_ID,
      .authenticated (.urlParameter "https://ethereum.blockpi.network/v1/rpc/\x7bAPI_KEY\x7d")
        (some "https://ethereum.public.blockpi.network/v1/rpc/public"),some (.ethMainnet .blockPi)⟩) := rfl
  simp only [inconsistentKey,resolved]
  simp [Provider.hostname,hostnameFromUrl,Platform.reference,HttpCrate.hostOf,HttpCrate.afterScheme]
  rfl

private theorem reduce_failed (client : EthRpcClient) (strategy : client.consensusStrategy = .byEquality)
    (results : CallResults .ethCall) (failed : results.okResults = []) :
    client.consensusStrategy.reduce .reference results = .error (.inconsistentResults results) := by
  rw [strategy]
  simp [ReductionStrategy.reduce,Reduce.reference,failed]

private theorem attemptsAt_of_labels {attempts : List MetricData} {labels : List (MetricRpcMethod × MetricRpcHost)}
    (same : attempts.map MetricData.key = labels) (key : MetricRpcMethod × MetricRpcHost) :
    attemptsAt key attempts = labels.countP (fun own => own = key) := by
  rw [← same,List.countP_map]
  rfl

/-- Without a key BlockPi is asked at its public host, and counted under the other one. -/
theorem inconsistent_answer_without_request :
    let canister := Runs.run (Canister.step .reference) (Canister.initial .reference demo)
      (disagreement (.ethMainnet (some [.blockPi,.publicNode])) (.ethMainnet .blockPi) (.ethMainnet .publicNode))
    let key : MetricRpcMethod × MetricRpcHost := (⟨"eth_call"⟩,⟨"ethereum.blockpi.network"⟩)
    (∀ started, .began started ∈ canister.journal → ∃ charged, started.sent = .ok charged) ∧
      ¬ Tally.count canister.memory.metrics.inconsistentResponses key ≤
        Tally.count canister.memory.metrics.requests key := by
  intro canister key
  let client : EthRpcClient := ⟨⟨.MAINNET,.ofList [.ethMainnet .blockPi,.ethMainnet .publicNode],by decide⟩,default⟩
  let size : ResponseSizeEstimate := ⟨2304,by decide,by decide⟩
  obtain ⟨one,leaves,label⟩ := @leaves_reference (.ethMainnet .blockPi) _ _ _ rfl parseUri_blockPi rfl size
  obtain ⟨other,leaves',label'⟩ := @leaves_reference (.ethMainnet .publicNode) _ _ _ rfl parseUri_publicNode rfl size
  have chosen : EthRpcClient.new ReferenceTimedMap.reference (.ethMainnet (some [.blockPi,.publicNode])) none 1
      (.new ReferenceTimedMap.reference) = .done (.ok client,.new ReferenceTimedMap.reference) := rfl
  obtain ⟨labels,sent,tallied⟩ := @run_of_disagreement _ .reference demo _ client _ chosen size rfl _ _ (by decide) rfl
    one other leaves leaves' rfl ⟨rfl,rfl⟩ (reduce_failed client rfl)
  have started : attemptsAt key (startedAttempts canister.journal) = 0 := by
    rw [attemptsAt_of_labels labels,label,label']
    decide
  have small : attemptsAt key (startedAttempts canister.journal) < 2^64 := started ▸ by norm_num
  have requests := ((Canister.run_balanced .reference demo _).counters small).started
  have counted : 0 < (inconsistentKeys Platform.reference.url .ethCall
      [.ethMainnet .blockPi,.ethMainnet .publicNode]).countP (fun own => own = key) := by
    rw [inconsistentKeys,List.filterMap_cons_some inconsistentKey_blockPi,List.countP_cons]
    simp [key]
  have few : (inconsistentKeys Platform.reference.url .ethCall
      [.ethMainnet .blockPi,.ethMainnet .publicNode]).countP (fun own => own = key) < 2^64 :=
    (List.countP_le_length.trans (List.length_filterMap_le _ _)).trans_lt (by norm_num)
  refine ⟨sent,Nat.not_le.mpr ?_⟩
  rw [requests,tallied,Tally.count_of few]
  exact started ▸ counted

private theorem labelsAgree_of_plain {service : RpcService} {provider : Provider} {url host : String} {uri : Uri}
    (resolved : resolveRpcService service = .ok (.provider provider)) (access : provider.access = .unauthenticated url)
    (available : apiOf .reference demo service = .done (.ok ⟨url,none⟩))
    (parsed : HttpCrate.reference.parseUri url = .ok uri) (named : uri.host = some host)
    (known : HttpCrate.hostOf url.toList = some host)
    (plain : host.toList.any (fun c => c == '\x7b' || c == '\x7d') = false) :
    LabelsAgree .reference (Canister.initial .reference demo).memory service := by
  intro other same
  cases resolved.symm.trans same
  have own : provider.hostname Platform.reference.url = some host := by
    simp [Provider.hostname,access,hostnameFromUrl,Platform.reference,known,plain]
  exact ⟨⟨url,none⟩,uri,available,parsed,by rw [own,named]; rfl⟩

/-- PublicNode and Llama are asked once each. -/
theorem startedAttempts_of_disagreement :
    (startedAttempts (Runs.run (Canister.step .reference) (Canister.initial .reference demo)
      (disagreement (.ethMainnet (some [.publicNode,.llama])) (.ethMainnet .publicNode)
        (.ethMainnet .llama))).journal).length = 2 := by
  let client : EthRpcClient := ⟨⟨.MAINNET,.ofList [.ethMainnet .publicNode,.ethMainnet .llama],by decide⟩,default⟩
  let size : ResponseSizeEstimate := ⟨2304,by decide,by decide⟩
  have chosen : EthRpcClient.new ReferenceTimedMap.reference (.ethMainnet (some [.publicNode,.llama])) none 1
      (.new ReferenceTimedMap.reference) = .done (.ok client,.new ReferenceTimedMap.reference) := rfl
  obtain ⟨one,leaves,_⟩ := @leaves_reference (.ethMainnet .publicNode) _ _ _ rfl parseUri_publicNode rfl size
  obtain ⟨other,leaves',_⟩ := @leaves_reference (.ethMainnet .llama) _ _ _ rfl parseUri_llama rfl size
  obtain ⟨labels,_⟩ := @run_of_disagreement _ .reference demo _ client _ chosen size rfl _ _ (by decide) rfl
    one other leaves leaves' rfl ⟨rfl,rfl⟩ (reduce_failed client rfl)
  have two := congrArg List.length labels
  rwa [List.length_map] at two

theorem inconsistent_answers_have_requests_for_publicNode :
    let metrics := (Runs.run (Canister.step .reference) (Canister.initial .reference demo)
      (disagreement (.ethMainnet (some [.publicNode,.llama])) (.ethMainnet .publicNode)
        (.ethMainnet .llama))).memory.metrics
    let key : MetricRpcMethod × MetricRpcHost := (⟨"eth_call"⟩,⟨"eth.llamarpc.com"⟩)
    Tally.count metrics.inconsistentResponses key ≤ Tally.count metrics.requests key := by
  intro metrics key
  let client : EthRpcClient := ⟨⟨.MAINNET,.ofList [.ethMainnet .publicNode,.ethMainnet .llama],by decide⟩,default⟩
  have chosen : EthRpcClient.new ReferenceTimedMap.reference (.ethMainnet (some [.publicNode,.llama])) none 1
      (.new ReferenceTimedMap.reference) = .done (.ok client,.new ReferenceTimedMap.reference) := rfl
  refine inconsistent_answers_have_requests .reference (fun _ => Reduce.reference_keepsResults) demo _ ?_ key ?_
  · intro past event rest same
    cases past with
    | nil =>
      cases same
      intro other usage again service queried
      cases chosen.symm.trans again
      have either : service = .ethMainnet .publicNode ∨ service = .ethMainnet .llama := by
        simpa [client] using queried
      rcases either with rfl | rfl
      · exact labelsAgree_of_plain rfl rfl rfl parseUri_publicNode rfl
          (by simp [HttpCrate.hostOf,HttpCrate.afterScheme]) (by simp)
      · exact labelsAgree_of_plain rfl rfl rfl parseUri_llama rfl
          (by simp [HttpCrate.hostOf,HttpCrate.afterScheme]) (by simp)
    | cons first past =>
      have reply : event ∈ (disagreement (.ethMainnet (some [.publicNode,.llama])) (.ethMainnet .publicNode)
          (.ethMainnet .llama)).tail := by rw [same]; simp
      simp only [disagreement,List.tail_cons,List.mem_cons,List.not_mem_nil,or_false] at reply
      rcases reply with rfl | rfl
      · exact trivial
      · exact trivial
  · have few := startedAttempts_of_disagreement
    exact List.countP_le_length.trans_lt (by rw [few]; norm_num)

end Hosts

end EvmRpc
