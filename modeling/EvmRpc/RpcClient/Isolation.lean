import EvmRpc.Library.Runs
import EvmRpc.RpcClient.ParallelCall

/-! What services with unusable apis do to the calls that name them, on both ways to
an outcall. -/
namespace EvmRpc
open Library

section Paths
variable {M : Type} (platform : Platform M) (memory : Memory M)

def Usable (service : RpcService) : Prop :=
  ∃ api, apiOf platform memory service = .done (.ok api) ∧ platform.http.Accepts api ∧ platform.http.HasHost api

def replyStep {method : RpcMethod} (state : EthCall method × Memory M)
    (event : RpcService × Except IcError HttpResponse) : Outcome (EthCall method × Memory M) :=
  receiveReply platform event.1 event.2 state.1 state.2

def afterReplies {method : RpcMethod} (call : EthCall method) (after : Memory M)
    (past : List (RpcService × Except IcError HttpResponse)) : EthCall method × Memory M :=
  Runs.run (replyStep platform) (call,after) past

/-- The unusable services of a call have failed and all others were launched. No reply
traps or touches another service, and the results are those of each service. -/
structure Isolates {method : RpcMethod} (usable : RpcService → Prop) (call : EthCall method) (after : Memory M) :
    Prop where
  launched : ∀ service ∈ call.client.providers.services.elements, usable service →
    service ∈ call.launched ∧ service ∉ call.failed
  failed : ∀ service ∈ call.client.providers.services.elements, ¬ usable service →
    service ∈ call.failed ∧ service ∉ call.launched
  replies : ∀ past service reply, ∃ next,
    replyStep platform (afterReplies platform call after past) (service,reply) = .done next ∧
      ∀ other, other ≠ service → (afterReplies platform call after past).1.SameFor other next.1
  results : ∀ past now, (afterReplies platform call after past).1.pending = [] →
    ∃ results final, collectResults platform now (afterReplies platform call after past).1
        (afterReplies platform call after past).2 = .done (results,final) ∧
      ∀ service result, (service,result) ∈ results.entries ↔
        (∃ error, (service,error) ∈ call.errors ∧ result = .error error) ∨
        (service,result) ∈ (afterReplies platform call after past).1.settled

def EthPathSafe (client : EthRpcClient) (method : RpcMethod) (transactionHash : Option Hex32) (params : Json)
    (size : ResponseSizeEstimate) (available : U128) : Prop :=
  ∃ call after, parallelCall platform client method transactionHash params size available memory =
    .done (call,after) ∧ call.client = client ∧ Isolates platform (Usable platform memory) call after

/-- `request` comes to an end, with an error for a service that is not usable. -/
def RequestPathSafe (service : RpcService) (jsonRpcPayload : String) (maxResponseBytes : UInt64) (available : U128) :
    Prop :=
  ∃ result after, request platform.regex platform.http platform.canhttp memory service jsonRpcPayload
      maxResponseBytes available = .done (result,after) ∧
    (¬ Usable platform memory service → ∃ error, result = .error error)

/-- The service has no api to offer, or one with a host that the builder accepts. -/
def Deliverable (service : RpcService) : Prop :=
  match apiOf platform memory service with
  | .trap _ => False
  | .done (.error _) => True
  | .done (.ok api) => platform.http.Accepts api ∧ platform.http.HasHost api

/-- The payload is none, or the service has an api to offer or to refuse, and what is sent has a host and an
identifier. -/
def RequestDeliverable (service : RpcService) (jsonRpcPayload : String) : Prop :=
  match platform.canhttp.parseRequest jsonRpcPayload with
  | .error _ => True
  | .ok body =>
    match apiOf platform memory service with
    | .trap _ => False
    | .done (.error _) => True
    | .done (.ok api) => platform.http.Accepts api → platform.http.HasHost api ∧ body.id ≠ .null

end Paths

section Delivery
variable {M : Type} {platform : Platform M} {memory after : Memory M} {method : RpcMethod} {call : EthCall method}

theorem afterReplies_spec (wellFormed : call.WellFormed) (past : List (RpcService × Except IcError HttpResponse)) :
    (afterReplies platform call after past).1.WellFormed ∧
      call.Extends (afterReplies platform call after past).1 := by
  refine Runs.invariant _ (fun (state : EthCall method × Memory M) => state.1.WellFormed ∧ call.Extends state.1) _
    ⟨wellFormed,rfl,rfl,rfl⟩ ?_ past
  intro ⟨current,between⟩ ⟨service,reply⟩ next ⟨before,extension⟩ taken
  obtain ⟨moved,left,received,further,kept,_⟩ := receiveReply_step before service reply between
  obtain rfl : (moved,left) = next := Outcome.done.inj (received.symm.trans taken)
  exact ⟨kept,extension.trans further⟩

/-- A call with nothing in flight has one result for each service: an error that it began
with, or one that is settled. -/
theorem collectResults_entries (wellFormed : call.WellFormed) (past : List (RpcService × Except IcError HttpResponse))
    (complete : (afterReplies platform call after past).1.pending = []) (now : Timestamp) :
    ∃ results final, collectResults platform now (afterReplies platform call after past).1
        (afterReplies platform call after past).2 = .done (results,final) ∧
      results.keys.Perm call.client.providers.services.elements ∧
      ∀ service result, (service,result) ∈ results.entries ↔
        (∃ error, (service,error) ∈ call.errors ∧ result = .error error) ∨
        (service,result) ∈ (afterReplies platform call after past).1.settled := by
  obtain ⟨fine,extension⟩ := @afterReplies_spec _ platform after _ _ wellFormed past
  obtain ⟨results,collected,perm,keys⟩ := @collectResults_of_wellFormed _ platform _ _ fine complete now
    (afterReplies platform call after past).2
  refine ⟨results,_,collected,extension.client ▸ keys,fun service result => ?_⟩
  rw [perm.mem_iff,List.mem_append,extension.errors]
  refine or_congr ?_ Iff.rfl
  simp only [List.mem_map,Prod.exists,Prod.mk.injEq]
  constructor
  · rintro ⟨s,error,inside,rfl,rfl⟩
    exact ⟨error,inside,rfl⟩
  · rintro ⟨error,inside,rfl⟩
    exact ⟨service,error,inside,rfl,rfl⟩

theorem isolates_of_wellFormed {usable : RpcService → Prop} (wellFormed : call.WellFormed)
    (launched : ∀ service ∈ call.client.providers.services.elements, usable service → service ∈ call.launched)
    (failed : ∀ service ∈ call.client.providers.services.elements, ¬ usable service → service ∈ call.failed) :
    Isolates platform usable call after := by
  have apart : ∀ service ∈ call.failed, service ∉ call.launched := fun service first second =>
    (List.nodup_append.mp wellFormed.distinct).2.2 service first service second rfl
  refine ⟨fun service queried can => ⟨launched service queried can,fun fails => apart service fails
    (launched service queried can)⟩,fun service queried cannot => ⟨failed service queried cannot,
    apart service (failed service queried cannot)⟩,?_,?_⟩
  · intro past service reply
    obtain ⟨next,left,received,_,_,others,_⟩ := receiveReply_step (afterReplies_spec wellFormed past).1 service reply
      (afterReplies platform call after past).2
    exact ⟨(next,left),received,others⟩
  · intro past now complete
    obtain ⟨results,final,collected,_,entries⟩ := collectResults_entries wellFormed past complete now
    exact ⟨results,final,collected,entries⟩

/-- A request is built for an api that is accepted, and building it traps for one
that is not. -/
theorem buildRequest_spec (platform : Platform M) (memory : Memory M) (method : RpcMethod) (params : Json)
    (size : ResponseSizeEstimate) (service : RpcService) :
    match apiOf platform memory service with
    | .trap message => buildRequest platform memory method params size service = .trap message
    | .done (.error error) => buildRequest platform memory method params size service = .done (.error error)
    | .done (.ok api) =>
      (platform.http.Accepts api → ∃ request, buildRequest platform memory method params size service =
        .done (.ok request) ∧ platform.http.parseUri api.url = .ok request.parts.uri) ∧
      (¬ platform.http.Accepts api → ∃ message, buildRequest platform memory method params size service =
        .trap message) := by
  unfold apiOf buildRequest
  cases resolveRpcService service with
  | error error => rfl
  | ok resolved =>
    simp only [ResolvedRpcService.post]
    cases resolved.apiWithOverride platform.regex memory.getApiKey memory.overrideProvider with
    | trap message => rfl
    | done answer =>
      cases answer with
      | error error => rfl
      | ok api =>
        simp only [Outcome.done_bind]
        constructor
        · intro accepts
          obtain ⟨request,built⟩ := built_of_accepts accepts size.get
            ⟨"cleanup_response",method.transformOp platform.minicbor⟩ (JsonRpcRequest.new method.name params)
          rw [built]
          exact ⟨request,rfl,(accepts_of_built built).2⟩
        · intro refused
          obtain ⟨e,failed⟩ := error_of_refused refused size.get
            ⟨"cleanup_response",method.transformOp platform.minicbor⟩ (JsonRpcRequest.new method.name params)
          rw [failed]
          exact ⟨_,rfl⟩

/-- On the other way a refused api is an error, but one without a host still traps, and so does a null identifier. -/
theorem request_spec (platform : Platform M) (memory : Memory M) (service : RpcService) (jsonRpcPayload : String)
    (maxResponseBytes : UInt64) (available : U128) :
    let outcome := request platform.regex platform.http platform.canhttp memory service jsonRpcPayload
      maxResponseBytes available
    match platform.canhttp.parseRequest jsonRpcPayload with
    | .error _ => ∃ error, outcome = .done (.error error,memory)
    | .ok body =>
      match apiOf platform memory service with
      | .trap message => outcome = .trap message
      | .done (.error error) => outcome = .done (.error error,memory)
      | .done (.ok api) =>
        (¬ platform.http.Accepts api → ∃ error, outcome = .done (.error error,memory)) ∧
        (platform.http.Accepts api → platform.http.HasHost api → body.id ≠ .null → ∃ result, outcome = .done result) ∧
        (platform.http.Accepts api → ¬ (platform.http.HasHost api ∧ body.id ≠ .null) →
          ∃ message, outcome = .trap message) := by
  unfold apiOf request
  cases resolveRpcService service with
  | error error =>
    cases platform.canhttp.parseRequest jsonRpcPayload with
    | error e => exact ⟨_,rfl⟩
    | ok body => rfl
  | ok resolved =>
    simp only [jsonRpcRequestArg,ResolvedRpcService.post]
    cases platform.canhttp.parseRequest jsonRpcPayload with
    | error e => exact ⟨_,rfl⟩
    | ok body =>
      cases resolved.apiWithOverride platform.regex memory.getApiKey memory.overrideProvider with
      | trap message => rfl
      | done answer =>
        cases answer with
        | error error => rfl
        | ok api =>
          simp only [Outcome.done_bind]
          refine ⟨?_,?_,?_⟩
          · intro refused
            obtain ⟨e,failed⟩ := error_of_refused refused maxResponseBytes ⟨"__transform_json_rpc",[]⟩ body
            rw [failed]
            exact ⟨_,rfl⟩
          · rintro accepts ⟨uri,host,parsed,named⟩ identified
            obtain ⟨request,built⟩ := built_of_accepts accepts maxResponseBytes ⟨"__transform_json_rpc",[]⟩ body
            obtain rfl : uri = request.parts.uri := Except.ok.inj (parsed.symm.trans (accepts_of_built built).2)
            obtain ⟨rfl,_⟩ := parts_of_built built
            rw [built]
            simp only [Outcome.done_bind]
            rw [startAttempt_of_host named (by simpa [numbered] using identified)]
            exact ⟨_,rfl⟩
          · intro accepts undeliverable
            obtain ⟨request,built⟩ := built_of_accepts accepts maxResponseBytes ⟨"__transform_json_rpc",[]⟩ body
            obtain ⟨rfl,_⟩ := parts_of_built built
            rw [built]
            simp only [Outcome.done_bind]
            cases begun : startAttempt platform.http platform.canhttp (.ofMemory memory) ⟨"request"⟩ false available
                request memory with
            | trap message => exact ⟨message,rfl⟩
            | done started =>
              obtain ⟨host,named,_⟩ := startAttempt_eq_done begun
              have identified := (startAttempt_once begun).1 ▸ startAttempt_identified begun
              exact absurd ⟨⟨request.parts.uri,host,(accepts_of_built built).2,named⟩,identified⟩ undeliverable

variable {client : EthRpcClient} {transactionHash : Option Hex32} {params : Json} {size : ResponseSizeEstimate}
  {available : U128}

private theorem deliverable_of_begun {service : RpcService} (queried : service ∈ client.providers.services.elements)
    (begun : parallelCall platform client method transactionHash params size available memory = .done (call,after)) :
    Deliverable platform memory service := by
  obtain ⟨requests,collected,hosts,_⟩ := parallelCall_eq_done begun
  obtain ⟨⟨named,given⟩,inside,rfl⟩ := List.mem_map.mp ((MultiResults.keys_of_collect collected).mem_iff.mpr queried)
  obtain ⟨_,built⟩ := (MultiResults.mem_of_collect collected).mp inside
  have spec := buildRequest_spec platform memory method params size named
  split at spec
  · cases built.symm.trans spec
  · rename_i error resolved
    simp only [Deliverable,resolved]
  · rename_i api resolved
    simp only [Deliverable,resolved]
    by_cases accepts : platform.http.Accepts api
    · obtain ⟨request,made,parsed⟩ := spec.1 accepts
      obtain rfl : given = .ok request := Outcome.done.inj (built.symm.trans made)
      obtain ⟨host,named⟩ := hosts _ (MultiResults.mem_okResults.mpr inside)
      exact ⟨accepts,request.parts.uri,host,parsed,named⟩
    · obtain ⟨message,trapped⟩ := spec.2 accepts
      cases built.symm.trans trapped

theorem buildRequest_of_deliverable {service : RpcService} (fine : Deliverable platform memory service)
    (method : RpcMethod) (params : Json) (size : ResponseSizeEstimate) :
    (¬ Usable platform memory service ∧
      ∃ error, buildRequest platform memory method params size service = .done (.error error)) ∨
    (Usable platform memory service ∧ ∃ request host,
      buildRequest platform memory method params size service = .done (.ok request) ∧
        request.parts.uri.host = some host) := by
  have spec := buildRequest_spec platform memory method params size service
  unfold Deliverable at fine
  split at spec
  · rename_i resolved
    simp [resolved] at fine
  · rename_i error resolved
    refine .inl ⟨?_,error,spec⟩
    rintro ⟨api,other,_⟩
    cases resolved.symm.trans other
  · rename_i api resolved
    simp only [resolved] at fine
    obtain ⟨accepts,uri,host,parsed,named⟩ := fine
    obtain ⟨request,made,parsed'⟩ := spec.1 accepts
    obtain rfl : uri = request.parts.uri := Except.ok.inj (parsed.symm.trans parsed')
    exact .inr ⟨⟨api,resolved,accepts,_,host,parsed,named⟩,request,host,made,named⟩

theorem parallelCall_of_built
    (given : ∀ service ∈ client.providers.services.elements,
      ∃ result, buildRequest platform memory method params size service = .done result)
    (hosted : ∀ service ∈ client.providers.services.elements, ∀ request,
      buildRequest platform memory method params size service = .done (.ok request) →
        ∃ host, request.parts.uri.host = some host) :
    ∃ call after, parallelCall platform client method transactionHash params size available memory =
      .done (call,after) := by
  obtain ⟨requests,collected⟩ := @MultiResults.collect_of_done _ _ _ _ _ _ .empty client.providers.services.nodup
    (by simp [MultiResults.empty,MultiResults.keys]) given
  have hosts : ∀ entry ∈ requests.okResults, ∃ host, entry.2.parts.uri.host = some host := by
    intro entry inside
    obtain ⟨queried,built⟩ := (MultiResults.mem_of_collect collected).mp (MultiResults.mem_okResults.mp inside)
    exact hosted entry.1 queried entry.2 built
  unfold parallelCall
  rw [collected]
  simp only [Outcome.done_bind]
  obtain ⟨call,after,launched⟩ := launchAll_of_host hosts
  exact ⟨call,after,launched⟩

private theorem begins_of_deliverable
    (deliverable : ∀ service ∈ client.providers.services.elements, Deliverable platform memory service) :
    ∃ call after, parallelCall platform client method transactionHash params size available memory =
      .done (call,after) := by
  refine parallelCall_of_built ?_ ?_
  · intro service queried
    obtain ⟨_,_,built⟩ | ⟨_,_,_,built,_⟩ := buildRequest_of_deliverable (deliverable service queried) method params size
    · exact ⟨_,built⟩
    · exact ⟨_,built⟩
  · intro service queried request built
    obtain ⟨_,_,failed⟩ | ⟨_,_,host,made,named⟩ :=
      buildRequest_of_deliverable (deliverable service queried) method params size
    · cases built.symm.trans failed
    · cases built.symm.trans made
      exact ⟨host,named⟩

/-- The way through `parallel_call` is safe for services that are deliverable and no
others: what `expect` and `unwrap` meet on it is decided by each api alone. -/
theorem ethPathSafe_iff : EthPathSafe platform memory client method transactionHash params size available ↔
    ∀ service ∈ client.providers.services.elements, Deliverable platform memory service := by
  constructor
  · rintro ⟨call,after,begun,_⟩ service queried
    exact deliverable_of_begun queried begun
  · intro deliverable
    obtain ⟨call,after,begun⟩ := begins_of_deliverable deliverable
    obtain ⟨requests,collected,_,same,_,errors,names,wellFormed,_⟩ := parallelCall_eq_done begun
    refine ⟨call,after,begun,same,isolates_of_wellFormed wellFormed ?_ ?_⟩
    · intro service queried usable
      rw [same] at queried
      obtain ⟨unusable,_⟩ | ⟨_,_,_,made,_⟩ :=
        buildRequest_of_deliverable (deliverable service queried) method params size
      · exact absurd usable unusable
      · have inside := (MultiResults.mem_of_collect collected).mpr ⟨queried,made⟩
        exact names.mem_iff.mpr (List.mem_map_of_mem (MultiResults.mem_okResults.mpr inside))
    · intro service queried unusable
      rw [same] at queried
      obtain ⟨_,_,made⟩ | ⟨usable,_⟩ :=
        buildRequest_of_deliverable (deliverable service queried) method params size
      · have inside := (MultiResults.mem_of_collect collected).mpr ⟨queried,made⟩
        rw [EthCall.failed,errors]
        exact List.mem_map_of_mem (MultiResults.mem_errors.mpr inside)
      · exact absurd usable unusable

theorem requestPathSafe_iff {service : RpcService} {jsonRpcPayload : String} {maxResponseBytes : UInt64} :
    RequestPathSafe platform memory service jsonRpcPayload maxResponseBytes available ↔
      RequestDeliverable platform memory service jsonRpcPayload := by
  have spec := request_spec platform memory service jsonRpcPayload maxResponseBytes available
  unfold RequestDeliverable RequestPathSafe
  simp only at spec
  cases payload : platform.canhttp.parseRequest jsonRpcPayload with
  | error e =>
    simp only [payload] at spec
    obtain ⟨error,outcome⟩ := spec
    exact ⟨fun _ => trivial,fun _ => ⟨_,_,outcome,fun _ => ⟨error,rfl⟩⟩⟩
  | ok body =>
    simp only [payload] at spec
    cases resolved : apiOf platform memory service with
    | trap message =>
      simp only [resolved] at spec
      simp [spec]
    | done answer =>
      cases answer with
      | error error =>
        simp only [resolved] at spec
        simp [spec]
      | ok api =>
        simp only [resolved] at spec
        obtain ⟨refused,sent,undeliverable⟩ := spec
        constructor
        · rintro ⟨result,after,outcome,_⟩ accepts
          by_contra none
          obtain ⟨message,trapped⟩ := undeliverable accepts none
          cases outcome.symm.trans trapped
        · intro fine
          by_cases accepts : platform.http.Accepts api
          · obtain ⟨hosts,identified⟩ := fine accepts
            obtain ⟨⟨result,after⟩,outcome⟩ := sent accepts hosts identified
            exact ⟨result,after,outcome,fun unusable => absurd ⟨api,resolved,accepts,hosts⟩ unusable⟩
          · obtain ⟨error,outcome⟩ := refused accepts
            exact ⟨_,_,outcome,fun _ => ⟨error,rfl⟩⟩

/-- Both ways to an outcall are safe exactly for the services they can deliver to. -/
theorem pathsSafe_iff_deliverable (platform : Platform M) (memory : Memory M) (client : EthRpcClient)
    (method : RpcMethod) (transactionHash : Option Hex32) (params : Json) (size : ResponseSizeEstimate)
    (available : U128) (service : RpcService) (jsonRpcPayload : String) (maxResponseBytes : UInt64) :
    EthPathSafe platform memory client method transactionHash params size available ∧
      RequestPathSafe platform memory service jsonRpcPayload maxResponseBytes available ↔
    (∀ queried ∈ client.providers.services.elements, Deliverable platform memory queried) ∧
      RequestDeliverable platform memory service jsonRpcPayload :=
  and_congr ethPathSafe_iff requestPathSafe_iff

theorem apiOf_custom (api : RpcApi) :
    apiOf .reference (.fresh ReferenceTimedMap.reference) (.custom api) = .done (.ok api) := rfl

private theorem parseUri_blank : HttpCrate.reference.parseUri "not a url" = .error "invalid uri character" := by
  simp [HttpCrate.reference,HttpCrate.isVisible]

theorem parseUri_path : HttpCrate.reference.parseUri "/rpc" = .ok ⟨"/rpc",none⟩ := by
  simp [HttpCrate.reference,HttpCrate.isVisible,HttpCrate.hostOf]

theorem reference_crates : Platform.reference.http = .reference ∧ Platform.reference.canhttp = .reference :=
  ⟨rfl,rfl⟩

private theorem blank_url_traps (method : RpcMethod) (size : ResponseSizeEstimate) : ¬ EthPathSafe .reference
    (.fresh ReferenceTimedMap.reference) ⟨⟨.MAINNET,.ofList [.custom ⟨"not a url",none⟩],by decide⟩,default⟩ method
    none .null size 0 := by
  rw [ethPathSafe_iff]
  intro deliverable
  have fine := deliverable (.custom ⟨"not a url",none⟩) (OrderedSet.mem_ofList.mpr (List.mem_singleton_self _))
  simp only [Deliverable,apiOf_custom,reference_crates] at fine
  obtain ⟨uri,parsed⟩ := fine.1.url
  rw [parseUri_blank] at parsed
  cases parsed

private theorem path_url_traps {payload : String} {body : JsonRpcRequest}
    (valid : Canhttp.reference.parseRequest payload = .ok body) : ¬ RequestPathSafe .reference
    (.fresh ReferenceTimedMap.reference) (.custom ⟨"/rpc",none⟩) payload 1000 0 := by
  rw [requestPathSafe_iff]
  simp only [RequestDeliverable,apiOf_custom,reference_crates,valid]
  intro hosts
  obtain ⟨⟨uri,host,parsed,named⟩,_⟩ := hosts ⟨⟨_,parseUri_path⟩,by simp⟩
  rw [parseUri_path] at parsed
  cases parsed
  cases named

private theorem null_identifier_traps {payload : String} {body : JsonRpcRequest}
    (valid : Canhttp.reference.parseRequest payload = .ok body) (null : body.id = .null) : ¬ RequestPathSafe .reference
    (.fresh ReferenceTimedMap.reference) (.custom ⟨"https://rpc.test",none⟩) payload 1000 0 := by
  have uri : HttpCrate.reference.parseUri "https://rpc.test" = .ok ⟨"https://rpc.test",some "rpc.test"⟩ := by
    simp [HttpCrate.reference,HttpCrate.isVisible,HttpCrate.hostOf,HttpCrate.afterScheme]
  rw [requestPathSafe_iff]
  simp only [RequestDeliverable,apiOf_custom,reference_crates,valid]
  exact fun identified => (identified ⟨⟨_,uri⟩,by simp⟩).2 null

/-- A url that is none aborts a call to it, and a path or a null identifier aborts a `request`. -/
theorem unusable_urls_trap :
    ¬ EthPathSafe .reference (.fresh ReferenceTimedMap.reference)
        ⟨⟨.MAINNET,.ofList [.custom ⟨"not a url",none⟩],by decide⟩,default⟩ .ethCall none .null
        ⟨2304,by decide,by decide⟩ 0 ∧
      ¬ RequestPathSafe .reference (.fresh ReferenceTimedMap.reference) (.custom ⟨"/rpc",none⟩)
        (JsonRpcRequest.text ⟨.number 1,"eth_gasPrice",none⟩) 1000 0 ∧
      ¬ RequestPathSafe .reference (.fresh ReferenceTimedMap.reference) (.custom ⟨"https://rpc.test",none⟩)
        (JsonRpcRequest.text ⟨.null,"eth_gasPrice",none⟩) 1000 0 :=
  ⟨blank_url_traps .ethCall _,path_url_traps (Canhttp.parseRequest_text _),
    null_identifier_traps (Canhttp.parseRequest_text _) rfl⟩

end Delivery
end EvmRpc
