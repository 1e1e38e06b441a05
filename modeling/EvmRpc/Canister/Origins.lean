import EvmRpc.Canister.Orders
import EvmRpc.Canister.Questions

/-! Where successes come from: a success among the results of a call is what one of its services has
replied to the question of the call. -/
namespace EvmRpc
open Library

/-- A reply gives a value: it belongs to a request that puts the question to the service and has the
identifier of that request. -/
def Gives {M : Type} (platform : Platform M) (memory : Memory M) (method : RpcMethod) (params : Json) (service : RpcService)
    (reply : Except IcError HttpResponse) (value : method.JsonType) : Prop :=
  ∃ request status, Asked platform memory method params service request ∧
    receive platform.canhttp platform.crates.rpc (method.format platform.crates.text) request.body.id reply =
      .ok (status,.ok value)

/-- A call whose successes can be traced to replies. -/
structure EthCall.Traces {M : Type} (platform : Platform M) (memory : Memory M) (params : Json)
    (replies : List (RpcService × Except IcError HttpResponse)) {method : RpcMethod} (call : EthCall method) : Prop where
  pending : ∀ entry ∈ call.pending, Asked platform memory method params entry.1 entry.2.request ∧
    Asked platform memory method params entry.1 entry.2.started.request ∧
    entry.2.started.data.requestId = entry.2.started.request.body.id
  settled : ∀ service value, (service,.ok value) ∈ call.settled →
    ∃ reply, (service,reply) ∈ replies ∧ Gives platform memory method params service reply value

section Sessions
variable {M : Type} {platform : Platform M} {begun memory after : Memory M} {method : RpcMethod} {params : Json}
  {service : RpcService} {reply : Except IcError HttpResponse} {request : HttpJsonRpcRequest}
  {replies more : List (RpcService × Except IcError HttpResponse)} {call next : EthCall method}

theorem EthCall.Traces.mono (traces : call.Traces platform begun params replies) (within : replies ⊆ more) :
    call.Traces platform begun params more := by
  refine ⟨traces.pending,?_⟩
  intro service value inside
  obtain ⟨reply,given,gives⟩ := traces.settled service value inside
  exact ⟨reply,within given,gives⟩

theorem launch_traces (traces : call.Traces platform begun params replies)
    (asked : Asked platform begun method params service request)
    (launched : launch platform service request call memory = .done (next,after)) :
    next.Traces platform begun params replies := by
  obtain ⟨started,middle,attempt,⟨charged,_,_,rfl⟩ | ⟨error,_,_,rfl⟩⟩ := launch_cases launched
  · refine ⟨?_,traces.settled⟩
    intro entry inside
    rcases List.mem_append.mp inside with before | last
    · exact traces.pending entry before
    · obtain rfl := List.mem_singleton.mp last
      obtain ⟨host,_,rfl,_⟩ := startAttempt_eq_done attempt
      exact ⟨asked,asked.numbered _,rfl⟩
  · refine ⟨traces.pending,?_⟩
    intro other value inside
    rcases List.mem_append.mp inside with before | last
    · exact traces.settled other value before
    · -- a layer of the client that fails gives no value
      cases List.mem_singleton.mp last

theorem launchAll_traces {requests : List (RpcService × HttpJsonRpcRequest)}
    (traces : call.Traces platform begun params replies)
    (asked : ∀ entry ∈ requests, Asked platform begun method params entry.1 entry.2)
    (launched : launchAll platform requests call memory = .done (next,after)) :
    next.Traces platform begun params replies := by
  induction requests generalizing call memory with
  | nil =>
    cases launched
    exact traces
  | cons entry requests ih =>
    rw [launchAll,List.foldlM_cons] at launched
    obtain ⟨⟨middle,between⟩,first,rest⟩ := Outcome.bind_eq_done.mp launched
    exact ih (launch_traces traces (asked entry List.mem_cons_self) first)
      (fun other inside => asked other (List.mem_cons_of_mem _ inside)) rest

theorem parallelCall_traces {client : EthRpcClient} {transactionHash : Option Hex32} {size : ResponseSizeEstimate}
    {available : U128} {usage : SupportedRpcServiceUsage M}
    (opened : parallelCall platform client method transactionHash params size available
      {begun with okResultsTimestamps := usage} = .done (call,after)) : call.Traces platform begun params [] := by
  obtain ⟨requests,collected,launched⟩ := Outcome.bind_eq_done.mp opened
  apply launchAll_traces ⟨by simp,by simp⟩ _ launched
  intro entry inside
  obtain ⟨_,built⟩ := (MultiResults.mem_of_collect collected).mp (MultiResults.mem_okResults.mp inside)
  -- no request depends on the usage record
  have own : buildRequest platform begun method params size entry.1 = .done (.ok entry.2) := built
  exact asked_of_built own

/-- A reply that settles a value gives it. -/
theorem gives_of_settled {attempt : Attempt} {value : method.JsonType}
    (asked : Asked platform begun method params service attempt.started.request)
    (own : attempt.started.data.requestId = attempt.started.request.body.id)
    (settled : intoResult platform.canhttp (replyOutcome platform method attempt reply) = .ok value) :
    Gives platform begun method params service reply value := by
  unfold intoResult at settled
  split at settled
  · rename_i status given outcome
    cases settled
    refine ⟨attempt.started.request,status,asked,?_⟩
    rw [← own]
    exact outcome
  · cases settled
  · cases settled

theorem receiveReply_traces (wellFormed : call.WellFormed) (traces : call.Traces platform begun params replies)
    (received : receiveReply platform service reply call memory = .done (next,after)) :
    next.Traces platform begun params (replies ++ [(service,reply)]) := by
  have before := traces.mono (List.subset_append_left replies [(service,reply)])
  by_cases present : service ∈ call.pending.map Prod.fst
  · obtain ⟨attempt,waiting⟩ : ∃ attempt, (service,attempt) ∈ call.pending := by simpa using present
    obtain ⟨asked,asked',own⟩ := traces.pending _ waiting
    have ended : (afterAttempt platform service attempt reply call memory).1.Traces platform begun params
        (replies ++ [(service,reply)]) :=
      ⟨fun entry inside => traces.pending entry (List.mem_of_mem_filter inside),before.settled⟩
    rw [receiveReply_of_pending wellFormed.pending waiting] at received
    simp only at received
    split at received
    · rename_i renewed again
      exact launch_traces ended (asked.retried again) received
    · cases received
      refine ⟨ended.pending,?_⟩
      intro other value inside
      rcases List.mem_append.mp inside with earlier | last
      · exact ended.settled other value earlier
      · obtain ⟨rfl,settled⟩ := Prod.mk.inj (List.mem_singleton.mp last)
        exact ⟨reply,List.mem_append_right _ (List.mem_singleton_self _),gives_of_settled asked' own settled.symm⟩
  · rw [receiveReply_of_absent present] at received
    cases received
    exact before

/-- All successes of a session can be traced to its replies. -/
theorem EthCall.served_traces (wellFormed : call.WellFormed) (traces : call.Traces platform begun params [])
    (session : List (Delivery M)) : (call.served platform session).Traces platform begun params
      (session.map (fun delivery => (delivery.service,delivery.reply))) := by
  induction session using List.reverseRecOn with
  | nil => exact traces
  | append_singleton past delivery ih =>
    obtain ⟨after,received⟩ := @EthCall.served_concat _ platform _ _ wellFormed past delivery
    rw [List.map_append]
    exact receiveReply_traces (EthCall.served_spec wellFormed past).1 ih received

end Sessions

section Support
variable {method : RpcMethod} {β : Type} [BEq β] [PartialEquivBEq β] {convert : method.CandidType → RpcResult β}

/-- How many services the strategy of a client asks for. -/
def EthRpcClient.required (client : EthRpcClient) : ℕ :=
  match client.consensusStrategy with
  | .byEquality => client.providers.services.card
  | .byThreshold min => min.toNat

private theorem enough_of_entries {results : CallResults method} {holds : method.JsonType → Prop}
    {entries : List (RpcService × RpcResult method.JsonType)} (part : entries.Sublist results.entries) {n : ℕ}
    (enough : n ≤ entries.length) (each : ∀ entry ∈ entries, ∃ v, entry.2 = .ok v ∧ holds v) :
    ∃ services : List RpcService, services.Nodup ∧ n ≤ services.length ∧
      ∀ service ∈ services, ∃ v, (service,.ok v) ∈ results.entries ∧ holds v := by
  refine ⟨entries.map Prod.fst,results.distinct.sublist (part.map Prod.fst),by simpa using enough,?_⟩
  intro service inside
  obtain ⟨entry,listed,rfl⟩ := List.mem_map.mp inside
  obtain ⟨v,same,own⟩ := each entry listed
  exact ⟨v,same ▸ part.subset listed,own⟩

/-- A success that is left after a further conversion is backed by as many services as the strategy asks
for, be it that the results were alike before it or only after it. -/
theorem enough_of_success {crate : Reduce RpcService method.JsonType RpcError} (lawful : crate.Lawful)
    (unanimous : crate.Unanimous) (respects : MultiRpcResult.Respects convert) {url : Url} {client : EthRpcClient}
    {transactionHash : Option Hex32} {results : CallResults method} {metrics : Metrics} {value : β}
    (complete : results.entries.length = client.providers.services.card)
    (enough : client.required ≤ client.providers.services.card)
    (success : ((client.reply crate url transactionHash results metrics).1).andThen convert = .consistent (.ok value)) :
    ∃ services : List RpcService, services.Nodup ∧ client.required ≤ services.length ∧ ∀ service ∈ services,
      ∃ v, (service,.ok v) ∈ results.entries ∧ ∃ x, convert (method.convert transactionHash v) = .ok x ∧
        (x == value) = true := by
  have alike {result other : RpcResult method.JsonType} {w : method.JsonType} (same : (result == other) = true)
      (returned : other = .ok w) {y : β} (done : convert (method.convert transactionHash w) = .ok y) :
      ∃ v, result = .ok v ∧ ∃ x, convert (method.convert transactionHash v) = .ok x ∧ (x == y) = true := by
    subst other
    cases result with
    | error error => cases same
    | ok v =>
      have same' : (v == w) = true := same
      rw [← RpcMethod.convert_beq transactionHash] at same'
      exact ⟨v,rfl,respects _ _ _ same' done⟩
  cases reduced : client.consensusStrategy.reduce crate results with
  | ok v =>
    rw [EthRpcClient.reply,reduced] at success
    have done : convert (method.convert transactionHash v) = .ok value := MultiRpcResult.consistent.inj success
    cases strategy : client.consensusStrategy with
    | byEquality =>
      rw [strategy] at reduced
      apply enough_of_entries (List.Sublist.refl _)
      · rw [EthRpcClient.required,strategy]
        exact complete.ge
      · intro entry inside
        exact alike (unanimous.agreed results v reduced entry inside) rfl done
    | byThreshold min =>
      rw [strategy] at reduced
      apply enough_of_entries (List.filter_sublist (p := fun entry => entry.2 == .ok v))
      · rw [EthRpcClient.required,strategy]
        exact lawful.threshold_ok min results v reduced
      · intro entry inside
        exact alike (List.mem_filter.mp inside).2 rfl done
  | error failure =>
    rw [EthRpcClient.reply,reduced] at success
    cases failure with
    | consistentError error => cases success
    | inconsistentResults held =>
      have each := MultiRpcResult.andThen_map_eq_consistent_ok respects success
      apply enough_of_entries (List.Sublist.refl _) (complete ▸ enough)
      intro entry inside
      cases strategy : client.consensusStrategy with
      | byEquality =>
        rw [strategy] at reduced
        obtain kept | ⟨other,kept,same⟩ := unanimous.represented results held reduced entry inside
        · obtain ⟨v,x,returned,own⟩ := each entry kept
          exact ⟨v,returned,x,own⟩
        · obtain ⟨w,y,returned,done,last⟩ := each other kept
          obtain ⟨v,returned',x,done',first⟩ := alike same returned done
          exact ⟨v,returned',x,done',BEq.trans first last⟩
      | byThreshold min =>
        rw [strategy] at reduced
        obtain ⟨v,x,returned,own⟩ :=
          each entry ((lawful.threshold_inconsistent min results held reduced).mem_iff.mpr inside)
        exact ⟨v,returned,x,own⟩

end Support

section Runs
variable {M : Type} {platform : Platform M} {begun : Canister M} {event : Event} {id : ℕ} {source : RpcServices}
  {config : Option RpcConfig} {method : RpcMethod} {transactionHash : Option Hex32} {params : Except ValidationError Json}
  {available : U128}

/-- What an answer to a call is collected from. -/
structure CollectedFrom {M : Type} (platform : Platform M) {method : RpcMethod} (final : EthCall method)
    (completion : Completion) : Prop where
  complete : final.pending = []
  collected : ∃ now before results after metrics, collectResults platform now final before = .done (results,after) ∧
    completion.content = ⟨method,results,
      (final.client.reply (platform.reduce method) platform.url final.transactionHash results metrics).1⟩

/-- A call that ends is closed with its answer, and one that goes on is kept. -/
theorem Canister.proceed_ends {canister next : Canister M} {call : EthCall method} {memory : Memory M} {now : Timestamp}
    (proceeded : Canister.proceed platform now id call memory canister = .done next) :
    (next.calls id = none ∧ ∃ completion, CollectedFrom platform call.silent completion ∧
      next.completed = canister.completed ++ [completion]) ∨
    (next.calls id = some (.eth method call.silent) ∧ next.completed = canister.completed) := by
  obtain ⟨complete,results,after,answer,metrics,collected,replied,rfl⟩ | ⟨_,rfl⟩ := Canister.proceed_cases proceeded
  · refine .inl ⟨Function.update_self _ _ _,⟨now,method,results,answer⟩,⟨complete,now,memory,results,after,after.metrics,
      collected,?_⟩,rfl⟩
    rw [EthCall.silent,replied]
    rfl
  · exact .inr ⟨Function.update_self _ _ _,rfl⟩

/-- From the message on that opens a call, its answer is collected from the session of the replies to it. -/
theorem Canister.Waits.opened_served (waits : begun.Waits platform) (later : List Event)
    (message : event.message = .ethCall source config method transactionHash params available)
    (opens : begun.Opens platform id event) : ∃ given client usage, params = .ok given ∧
      EthRpcClient.new platform.timed source config event.time begun.memory.okResultsTimestamps = .done (.ok client,usage) ∧
      ∃ size call memory session, parallelCall platform client method transactionHash given size available
          {begun.memory with okResultsTimestamps := usage} = .done (call,memory) ∧
        session.map (fun delivery : Delivery M => (delivery.service,delivery.reply)) = repliesTo id later ∧
        ∀ completion ∈ Runs.deliveries (Canister.step platform) (Canister.answers platform id) begun (event::later),
          CollectedFrom platform (call.silent.served platform session) completion := by
  obtain ⟨about,rfl,grown⟩ := opens
  cases taken : begun.step platform event with
  | trap aborted =>
    rw [Runs.advance_trap _ taken] at grown
    omega
  | done next =>
    have waits' : next.Waits platform := Runs.advance_done _ taken ▸ Canister.advance_waits waits event
    rw [Runs.advance_done _ taken] at grown
    rw [Runs.deliveries_cons,Runs.advance_done _ taken]
    have used : begun.nextCall < next.nextCall := by omega
    cases Canister.step_eth waits.balanced taken with
    | silent _ _ refused _ =>
      have still := (refused _ about).1
      omega
    | replied message' _ _ _ => cases message.symm.trans message'
    | @opened _ _ _ _ given _ client usage size call memory message' chosen begun' proceeded =>
      cases message.symm.trans message'
      refine ⟨given,client,usage,rfl,chosen,size,call,memory,
        Runs.deliveries (Canister.step platform) (Canister.delivered begun.nextCall) next later,begun',
        Canister.deliveries_own platform begun.nextCall next later,?_⟩
      intro completion inside
      rw [Canister.answers_of_done taken,if_pos about] at inside
      obtain ⟨closed,last,own,ended⟩ | ⟨found,unended⟩ := Canister.proceed_ends proceeded
      · -- nothing is in flight, and the call ends with the message that opens it
        have quiet := answers_balance waits' used later
        have shut : next.openCount begun.nextCall = 0 := by simp [Canister.openCount,Canister.isOpen,closed]
        rw [shut] at quiet
        rw [List.length_eq_zero_iff.mp (Nat.eq_zero_of_add_eq_zero_right quiet.symm),ended,List.drop_left,List.append_nil,
          List.mem_singleton] at inside
        subst completion
        rw [EthCall.served_of_complete own.complete]
        exact own
      · rw [unended,List.drop_length,List.nil_append] at inside
        obtain ⟨_,none⟩ | ⟨complete,now,before,results,after,metrics,collected,only⟩ :=
          (waits'.servedAlone found later).answer waits'
        · rw [none] at inside
          cases inside
        · refine ⟨complete,now,before,results,after,metrics,collected,List.mem_singleton.mp ?_⟩
          rw [← only]
          exact List.mem_map_of_mem inside

/-- The services that a caller lists can meet the strategy, as the default ones always can. -/
def CanMeet (source : RpcServices) : ConsensusStrategy → Prop
  | .equality => True
  | .threshold _ min => EnoughListed source min

theorem required_le_card {timed : TimedSizedMap SupportedRpcService M} {now : Timestamp}
    {usage after : SupportedRpcServiceUsage M} {client : EthRpcClient}
    (accepted : EthRpcClient.new timed source config now usage = .done (.ok client,after))
    (canMeet : CanMeet source ((config.getD default).responseConsensus.getD default)) :
    client.required ≤ client.providers.services.card := by
  have same : client.consensusStrategy = .ofConsensusStrategy ((config.getD default).responseConsensus.getD default) := by
    rw [EthRpcClient.consensusStrategy,(EthRpcClient.new_eq_ok accepted).1]
  rw [EthRpcClient.required,same]
  cases strategy : (config.getD default).responseConsensus with
  | none => exact le_refl _
  | some chosen =>
    rw [strategy,Option.getD_some] at canMeet
    cases chosen with
    | equality => exact le_refl _
    | threshold total min =>
      obtain ⟨_,enough⟩ | ⟨listed,explicit,card⟩ := EthRpcClient.card_of_threshold accepted strategy
      · exact enough
      · rw [CanMeet,EnoughListed,explicit] at canMeet
        exact card ▸ canMeet

/-- What the answer to a call is made of: one result for each service of the client, the successes among them
being what these services have replied to the question of the call. -/
structure Concluded (platform : Platform M) (memory : Memory M) (client : EthRpcClient) (method : RpcMethod)
    (transactionHash : Option Hex32) (params : Json) (replies : List (RpcService × Except IcError HttpResponse))
    (results : CallResults method) (answer : MultiRpcResult method.CandidType) : Prop where
  keys : results.keys.Perm client.providers.services.elements
  given : ∀ service value, (service,.ok value) ∈ results.entries →
    ∃ reply, (service,reply) ∈ replies ∧ Gives platform memory method params service reply value
  answer : ∃ metrics, (client.reply (platform.reduce method) platform.url transactionHash results metrics).1 = answer

theorem Concluded.card {memory : Memory M} {client : EthRpcClient} {given : Json}
    {replies : List (RpcService × Except IcError HttpResponse)} {results : CallResults method}
    {answer : MultiRpcResult method.CandidType}
    (concluded : Concluded platform memory client method transactionHash given replies results answer) :
    results.entries.length = client.providers.services.card := by
  rw [← List.length_map Prod.fst]
  exact concluded.keys.length_eq

theorem Canister.Waits.concluded (waits : begun.Waits platform) (later : List Event)
    (message : event.message = .ethCall source config method transactionHash params available)
    (opens : begun.Opens platform id event) : ∃ given client usage, params = .ok given ∧
      EthRpcClient.new platform.timed source config event.time begun.memory.okResultsTimestamps = .done (.ok client,usage) ∧
      ∀ time results answer, (⟨time,method,results,answer⟩ : Completion) ∈
          Runs.deliveries (Canister.step platform) (Canister.answers platform id) begun (event::later) →
        Concluded platform begun.memory client method transactionHash given (repliesTo id later) results answer := by
  obtain ⟨given,client,usage,rfl,accepted,size,call,memory,session,opened,replies,ended⟩ :=
    waits.opened_served later message opens
  refine ⟨given,client,usage,rfl,accepted,?_⟩
  intro time results answer inside
  obtain ⟨complete,now,before,results',after,metrics,collected,same⟩ := ended _ inside
  obtain ⟨_,_,_,client_eq,hash_eq,_,_,wellFormed,_⟩ := parallelCall_eq_done opened
  have silent : call.silent.WellFormed := ⟨wellFormed.places,wellFormed.hosted⟩
  obtain ⟨fine,extension⟩ := @EthCall.served_spec _ platform _ _ silent session
  have traces : (call.silent.served platform session).Traces platform begun.memory given (repliesTo id later) := by
    have initial := parallelCall_traces opened
    exact replies ▸ EthCall.served_traces silent ⟨initial.pending,initial.settled⟩ session
  obtain ⟨_,collected',entries,keys⟩ := @collectResults_of_wellFormed _ platform _ _ fine complete now before
  cases collected.symm.trans collected'
  simp only [Completion.content,Sigma.mk.injEq,heq_eq_eq,true_and,Prod.mk.injEq] at same
  obtain ⟨rfl,rfl⟩ := same
  have own : (call.silent.served platform session).client = client := extension.client.trans client_eq
  have hash : (call.silent.served platform session).transactionHash = transactionHash :=
    extension.transactionHash.trans hash_eq
  refine ⟨own ▸ keys,?_,metrics,?_⟩
  · intro service value present
    rcases List.mem_append.mp (entries.mem_iff.mp present) with failed | settled
    · obtain ⟨_,_,impossible⟩ := List.mem_map.mp failed
      cases impossible
    · exact traces.settled service value settled
  · rw [own,hash]

/-- Distinct services of a client, as many as its strategy asks for, that have each replied to the question
of a call with a value of which a condition holds. -/
structure Backed (platform : Platform M) (memory : Memory M) (source : RpcServices) (client : EthRpcClient)
    (method : RpcMethod) (params : Json) (replies : List (RpcService × Except IcError HttpResponse))
    (holds : method.JsonType → Prop) (services : List RpcService) : Prop where
  distinct : services.Nodup
  chosen : services ⊆ client.providers.services.elements
  enough : client.required ≤ services.length
  replied : ∀ service ∈ services, OnChain source service ∧ ∃ reply value, (service,reply) ∈ replies ∧
    Gives platform memory method params service reply value ∧ holds value

theorem Canister.Waits.backed (waits : begun.Waits platform) {made : M → Prop}
    (timed : platform.timed.Lawful SupportedRpcServiceUsage.EXPIRATION SupportedRpcServiceUsage.CAPACITY made)
    (lawful : (platform.reduce method).Lawful) (unanimous : (platform.reduce method).Unanimous) (later : List Event)
    (message : event.message = .ethCall source config method transactionHash params available)
    (opens : begun.Opens platform id event)
    (canMeet : CanMeet source ((config.getD default).responseConsensus.getD default)) :
    ∃ given client usage, params = .ok given ∧
      EthRpcClient.new platform.timed source config event.time begun.memory.okResultsTimestamps = .done (.ok client,usage) ∧
      ∀ (β : Type) [BEq β] [PartialEquivBEq β] (convert : method.CandidType → RpcResult β),
        MultiRpcResult.Respects convert → ∀ time results answer value, (⟨time,method,results,answer⟩ : Completion) ∈
          Runs.deliveries (Canister.step platform) (Canister.answers platform id) begun (event::later) →
        answer.andThen convert = .consistent (.ok value) → ∃ services, Backed platform begun.memory source client method
          given (repliesTo id later) (fun v => ∃ x, convert (method.convert transactionHash v) = .ok x ∧
            (x == value) = true) services := by
  obtain ⟨given,client,usage,rfl,accepted,ended⟩ := waits.concluded later message opens
  refine ⟨given,client,usage,rfl,accepted,?_⟩
  intro β _ _ convert respects time results answer value inside success
  have concluded := ended time results answer inside
  obtain ⟨metrics,rfl⟩ := concluded.answer
  obtain ⟨services,distinct,enough,each⟩ :=
    enough_of_success lawful unanimous respects concluded.card (required_le_card accepted canMeet) success
  have listed : services ⊆ client.providers.services.elements := by
    intro service inside
    obtain ⟨v,present,_⟩ := each service inside
    exact concluded.keys.mem_iff.mp (List.mem_map_of_mem present)
  refine ⟨services,distinct,listed,enough,?_⟩
  intro service inside
  refine ⟨Providers.new_on_chain timed (EthRpcClient.new_eq_ok accepted).2 service (listed inside),?_⟩
  obtain ⟨v,present,own⟩ := each service inside
  obtain ⟨reply,replied,gives⟩ := concluded.given service v present
  exact ⟨reply,v,replied,gives,own⟩

theorem Backed.mono {memory : Memory M} {client : EthRpcClient} {given : Json}
    {replies : List (RpcService × Except IcError HttpResponse)} {holds holds' : method.JsonType → Prop}
    {services : List RpcService} (backed : Backed platform memory source client method given replies holds services)
    (each : ∀ v, holds v → holds' v) : Backed platform memory source client method given replies holds' services := by
  refine ⟨backed.distinct,backed.chosen,backed.enough,?_⟩
  intro service inside
  obtain ⟨onChain,reply,v,replied,gives,own⟩ := backed.replied service inside
  exact ⟨onChain,reply,v,replied,gives,each v own⟩

/-- Two providers of a caller, which have to agree. -/
def pair : RpcServices := .custom 1 [⟨"https://one.test",none⟩,⟨"https://two.test",none⟩]

def pairConfig : RpcConfig := ⟨none,some (.threshold none 2)⟩

end Runs
end EvmRpc
