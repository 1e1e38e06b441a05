import EvmRpc.Canister.Interleaving

/-! What a call asks and whom: through all repetitions and whatever happens meanwhile, each attempt of
a call puts the question of the call to one of its services, in the way that was open to it when the
call was. -/
namespace EvmRpc
open Library

/-- A property of calls that replies keep. -/
structure EthCall.Upheld {M : Type} (platform : Platform M) (holds : ∀ {method : RpcMethod}, EthCall method → Prop) :
    Prop where
  silent : ∀ {method : RpcMethod} (call : EthCall method), holds call → holds call.silent
  replied : ∀ {method : RpcMethod} {call next : EthCall method} {service : RpcService}
    {reply : Except IcError HttpResponse} {memory after : Memory M}, call.WellFormed → holds call →
    receiveReply platform service reply call memory = .done (next,after) → holds next

namespace Canister
variable {M : Type} {platform : Platform M} {holds : ∀ {method : RpcMethod}, EthCall method → Prop}
  {canister next : Canister M} {event : Event} {id : ℕ}

/-- An event that is noted for a call which has the property. -/
def Notes (holds : ∀ {method : RpcMethod}, EthCall method → Prop) (noted : AttemptEvent) : Prop :=
  ∃ method, ∃ call : EthCall method, holds call ∧ noted ∈ call.journal

/-- An answer that is collected from a call which has the property. -/
def Concludes (platform : Platform M) (holds : ∀ {method : RpcMethod}, EthCall method → Prop) (completion : Completion) :
    Prop :=
  ∃ call : EthCall completion.method, holds call ∧ call.WellFormed ∧ call.pending = [] ∧ ∃ memory after : Memory M,
    collectResults platform completion.time call memory = .done (completion.results,after)

/-- All that is open under an identifier, noted for it or answered has the property. -/
structure Keeps (platform : Platform M) (holds : ∀ {method : RpcMethod}, EthCall method → Prop) (id : ℕ)
    (canister : Canister M) (event : Event) (next : Canister M) : Prop where
  opened : ∀ method (call : EthCall method), next.calls id = some (.eth method call) → holds call
  noted : ∀ noted ∈ canister.journalFor platform id event, Notes @holds noted
  answered : ∀ completion ∈ canister.answers platform id event, Concludes platform @holds completion

theorem proceed_keeps (upheld : EthCall.Upheld platform @holds) {method : RpcMethod} {call : EthCall method}
    {later : ℕ} {memory : Memory M} (held : holds call) (wellFormed : call.WellFormed)
    (about : canister.subject event = some id) (taken : canister.step platform event = .done next)
    (proceeded : proceed platform event.time id call memory {canister with nextCall := later} = .done next) :
    canister.Keeps platform @holds id event next := by
  have journal : canister.journalFor platform id event = call.journal := by
    rw [journalFor_of_done taken,if_pos about,proceed_journal proceeded,List.drop_left]
  refine ⟨?_,fun noted inside => ⟨method,call,held,journal ▸ inside⟩,?_⟩
  · obtain ⟨_,_,_,_,_,_,_,rfl⟩ | ⟨_,rfl⟩ := proceed_cases proceeded
    · intro other found same
      simp at same
    · intro other found same
      simp only [Function.update_self] at same
      cases same
      exact upheld.silent call held
  · rw [answers_of_done taken,if_pos about]
    obtain ⟨complete,results,after,answer,metrics,collected,_,rfl⟩ | ⟨_,rfl⟩ := proceed_cases proceeded
    · intro completion inside
      simp only [List.drop_left,List.mem_singleton] at inside
      subst completion
      exact ⟨call,held,wellFormed,complete,memory,after,collected⟩
    · intro completion inside
      simp [note] at inside

theorem advance_keeps (upheld : EthCall.Upheld platform @holds) (waits : canister.Waits platform)
    (begun : id < canister.nextCall) (kept : ∀ method (call : EthCall method),
      canister.calls id = some (.eth method call) → holds call) (event : Event) :
    canister.Keeps platform @holds id event (Runs.advance (step platform) canister event) := by
  have idle {next : Canister M} (journal : canister.journalFor platform id event = [])
      (answers : canister.answers platform id event = [])
      (same : ∀ method (call : EthCall method), next.calls id = some (.eth method call) →
        canister.calls id = some (.eth method call)) : canister.Keeps platform @holds id event next :=
    ⟨fun method call found => kept method call (same method call found),by simp [journal],by simp [answers]⟩
  cases taken : canister.step platform event with
  | trap message =>
    rw [Runs.advance_trap _ taken]
    apply idle (journalFor_of_trap taken) _ (fun _ _ => fun found => found)
    rw [answers,Runs.advance_trap _ taken,List.drop_length,ite_self]
  | done next =>
    rw [Runs.advance_done _ taken]
    by_cases about : canister.subject event = some id
    · cases step_eth waits.balanced taken with
      | silent answered _ refused calls =>
        apply idle _ _ (fun method call => (calls id method call).mp)
        · rw [journalFor_of_done taken,if_pos about,(refused id about).2,List.drop_length]
        · rw [answers_of_done taken,if_pos about,answered,List.drop_length]
      | opened message _ _ _ =>
        rw [subject,message] at about
        exact absurd (Option.some.inj about) (Nat.ne_of_gt begun)
      | @replied named _ _ _ _ _ _ message found received proceeded =>
        obtain rfl : named = id := by
          rw [subject,message] at about
          exact Option.some.inj about
        have held := kept _ _ found
        have wellFormed := (waits.balanced.opened _ _ _ found).2
        obtain ⟨_,_,received',_,further,_⟩ := @receiveReply_step _ platform _ _ wellFormed _ _ canister.memory
        cases received.symm.trans received'
        exact @proceed_keeps _ _ _ _ _ _ _ upheld _ _ canister.nextCall _ (upheld.replied wellFormed held received)
          further about taken proceeded
    · apply idle
      · rw [journalFor_of_done taken,if_neg about]
      · rw [answers_of_done taken,if_neg about]
      · exact fun method call => (step_other waits.balanced begun about taken call).mp

/-- What replies keep holds of all that a run notes for a call and answers it with. -/
theorem run_keeps (upheld : EthCall.Upheld platform @holds) (waits : canister.Waits platform)
    (begun : id < canister.nextCall) (kept : ∀ method (call : EthCall method),
      canister.calls id = some (.eth method call) → holds call) (events : List Event) :
    (∀ noted ∈ Runs.deliveries (step platform) (journalFor platform id) canister events, Notes @holds noted) ∧
      ∀ completion ∈ Runs.deliveries (step platform) (answers platform id) canister events,
        Concludes platform @holds completion := by
  induction events generalizing canister with
  | nil => exact ⟨fun _ inside => absurd inside List.not_mem_nil,fun _ inside => absurd inside List.not_mem_nil⟩
  | cons event events ih =>
    have first := advance_keeps upheld waits begun kept event
    obtain ⟨notes,answers⟩ := ih (advance_waits waits event) (begun.trans_le (advance_nextCall waits event)) first.opened
    constructor
    · intro noted inside
      rcases List.mem_append.mp inside with now | later
      · exact first.noted noted now
      · exact notes noted later
    · intro completion inside
      rcases List.mem_append.mp inside with now | later
      · exact first.answered completion now
      · exact answers completion later

/-- A message that opens a call has a client and arguments for it, and an estimate of the responses. -/
theorem ethCall_opens {now : Timestamp} {source : RpcServices} {config : Option RpcConfig} {method : RpcMethod}
    {transactionHash : Option Hex32} {params : Except ValidationError Json} {available : U128}
    (taken : canister.ethCall platform now source config method transactionHash params available = .done next)
    (grown : canister.nextCall < next.nextCall) : ∃ given client usage size call memory, params = .ok given ∧
      EthRpcClient.new platform.timed source config now canister.memory.okResultsTimestamps = .done (.ok client,usage) ∧
      client.responseSizeEstimate (client.expectedSize method) = .done size ∧
      parallelCall platform client method transactionHash given size available
        {canister.memory with okResultsTimestamps := usage} = .done (call,memory) ∧
      proceed platform now canister.nextCall call memory {canister with nextCall := canister.nextCall+1} = .done next := by
  obtain ⟨⟨client,usage⟩,chosen,taken⟩ := Outcome.bind_eq_done.mp taken
  cases client with
  | error error =>
    cases taken
    exact absurd grown (lt_irrefl _)
  | ok client =>
    cases params with
    | error error =>
      cases taken
      exact absurd grown (lt_irrefl _)
    | ok given =>
      obtain ⟨size,sized,taken⟩ := Outcome.bind_eq_done.mp taken
      obtain ⟨⟨call,memory⟩,begun,proceeded⟩ := Outcome.bind_eq_done.mp taken
      exact ⟨given,client,usage,size,call,memory,rfl,chosen,sized,begun,proceeded⟩

/-- The same from the message on that opens the call. -/
theorem opened_keeps (upheld : EthCall.Upheld platform @holds) (waits : canister.Waits platform)
    (opens : canister.Opens platform id event) {source : RpcServices} {config : Option RpcConfig} {method : RpcMethod}
    {transactionHash : Option Hex32} {params : Except ValidationError Json} {available : U128}
    (message : event.message = .ethCall source config method transactionHash params available)
    (start : ∀ given client usage size (call : EthCall method) memory, params = .ok given →
      EthRpcClient.new platform.timed source config event.time canister.memory.okResultsTimestamps =
        .done (.ok client,usage) →
      client.responseSizeEstimate (client.expectedSize method) = .done size →
      parallelCall platform client method transactionHash given size available
        {canister.memory with okResultsTimestamps := usage} = .done (call,memory) → holds call) (later : List Event) :
    (∀ noted ∈ Runs.deliveries (step platform) (journalFor platform id) canister (event::later), Notes @holds noted) ∧
      ∀ completion ∈ Runs.deliveries (step platform) (answers platform id) canister (event::later),
        Concludes platform @holds completion := by
  obtain ⟨about,rfl,grown⟩ := opens
  have first : canister.Keeps platform @holds canister.nextCall event (Runs.advance (step platform) canister event) := by
    cases taken : canister.step platform event with
    | trap aborted =>
      rw [Runs.advance_trap _ taken] at grown
      omega
    | done next =>
      rw [Runs.advance_done _ taken] at grown ⊢
      have own : canister.ethCall platform event.time source config method transactionHash params available = .done next := by
        rw [← taken,step,message]
      obtain ⟨_,_,_,_,_,_,same,chosen,sized,begun,proceeded⟩ := ethCall_opens own (by omega)
      exact proceed_keeps upheld (start _ _ _ _ _ _ same chosen sized begun)
        (parallelCall_eq_done begun).choose_spec.2.2.2.2.2.2.1 about taken proceeded
  have used : canister.nextCall < (Runs.advance (step platform) canister event).nextCall := by omega
  obtain ⟨notes,answers⟩ := run_keeps upheld (advance_waits waits event) used first.opened later
  constructor
  · intro noted inside
    rcases List.mem_append.mp inside with now | after
    · exact first.noted noted now
    · exact notes noted after
  · intro completion inside
    rcases List.mem_append.mp inside with now | after
    · exact first.answered completion now
    · exact answers completion after

theorem opens_client (opens : canister.Opens platform id event) {source : RpcServices}
    {config : Option RpcConfig} {method : RpcMethod} {transactionHash : Option Hex32} {params : Except ValidationError Json}
    {available : U128} (message : event.message = .ethCall source config method transactionHash params available) :
    ∃ given client usage size, params = .ok given ∧
      EthRpcClient.new platform.timed source config event.time canister.memory.okResultsTimestamps =
        .done (.ok client,usage) ∧
      client.responseSizeEstimate (client.expectedSize method) = .done size := by
  obtain ⟨about,rfl,grown⟩ := opens
  cases taken : canister.step platform event with
  | trap aborted =>
    rw [Runs.advance_trap _ taken] at grown
    omega
  | done next =>
    rw [Runs.advance_done _ taken] at grown
    have own : canister.ethCall platform event.time source config method transactionHash params available = .done next := by
      rw [← taken,step,message]
    obtain ⟨given,client,usage,size,_,_,same,chosen,sized,_⟩ := ethCall_opens own (by omega)
    exact ⟨given,client,usage,size,same,chosen,sized⟩

end Canister

/-- A request that puts the question of a call to a service: it is the one that was built for the
service when the call was opened, but for the limit of its response and its identifier. -/
structure Asked {M : Type} (platform : Platform M) (memory : Memory M) (method : RpcMethod) (params : Json)
    (service : RpcService) (request : HttpJsonRpcRequest) : Prop where
  parts : ∃ size original, buildRequest platform memory method params size service = .done (.ok original) ∧
    request.parts = {original.parts with maxResponseBytes := request.parts.maxResponseBytes}
  body : request.body = ⟨request.body.id,method.name,some params⟩

/-- A call whose attempts all put the same question to services of its client. -/
structure EthCall.Asks {M : Type} (platform : Platform M) (memory : Memory M) (client : EthRpcClient) (method : RpcMethod)
    (params : Json) {kind : RpcMethod} (call : EthCall kind) : Prop where
  method_eq : kind = method
  client_eq : call.client = client
  pending : ∀ entry ∈ call.pending, Asked platform memory method params entry.1 entry.2.request
  journal : ∀ started, .began started ∈ call.journal →
    ∃ service ∈ client.providers.services.elements, Asked platform memory method params service started.request

section Questions
variable {M : Type} {platform : Platform M} {begun memory after : Memory M} {client : EthRpcClient} {method own : RpcMethod}
  {params : Json} {service : RpcService} {request : HttpJsonRpcRequest} {call next : EthCall own}

theorem asked_of_built {size : ResponseSizeEstimate}
    (built : buildRequest platform memory method params size service = .done (.ok request)) :
    Asked platform memory method params service request := by
  refine ⟨⟨size,request,built,rfl⟩,?_⟩
  unfold buildRequest at built
  split at built
  · cases built
  · obtain ⟨answer,_,built⟩ := Outcome.bind_eq_done.mp built
    cases answer with
    | error error => cases built
    | ok builder =>
      obtain ⟨made,expected,same⟩ := Outcome.bind_eq_done.mp built
      cases same
      cases builder with
      | error message => cases expected
      | ok parts =>
        cases expected
        rfl

theorem Asked.numbered (asked : Asked platform memory method params service request) (counter : UInt64) :
    Asked platform memory method params service (numbered true counter request) := by
  refine ⟨asked.parts,?_⟩
  rw [EvmRpc.numbered,if_pos rfl]
  exact congrArg (fun body : JsonRpcRequest => JsonRpcRequest.mk (.number counter) body.method body.params) asked.body

theorem Asked.retried {α : Type} {renewed : HttpJsonRpcRequest} {outcome : Except HttpClientError α}
    (asked : Asked platform memory method params service request)
    (again : retried platform.canhttp request outcome = some renewed) :
    Asked platform memory method params service renewed := by
  unfold EvmRpc.retried at again
  split at again
  · cases again
  · split at again
    · obtain ⟨bytes,_,rfl⟩ := Option.map_eq_some_iff.mp again
      obtain ⟨⟨size,original,built,same⟩,body⟩ := asked
      refine ⟨⟨size,original,built,?_⟩,body⟩
      rw [same]
    · cases again

theorem launch_asks (asks : call.Asks platform begun client method params)
    (queried : service ∈ client.providers.services.elements) (asked : Asked platform begun method params service request)
    (launched : launch platform service request call memory = .done (next,after)) :
    next.Asks platform begun client method params := by
  have first (started : Started) (middle : Memory M) (attempt : startAttempt platform.http platform.canhttp call.accounting
      own.toMetric true call.available request memory = .done (started,middle)) :
      Asked platform begun method params service started.request := by
    obtain ⟨host,_,rfl,_⟩ := startAttempt_eq_done attempt
    exact asked.numbered _
  obtain ⟨started,middle,attempt,⟨charged,_,_,rfl⟩ | ⟨error,_,_,rfl⟩⟩ := launch_cases launched
  · refine ⟨asks.method_eq,asks.client_eq,?_,?_⟩
    · intro entry inside
      rcases List.mem_append.mp inside with before | last
      · exact asks.pending entry before
      · obtain rfl := List.mem_singleton.mp last
        exact asked
    · intro other inside
      rcases List.mem_append.mp inside with before | last
      · exact asks.journal other before
      · cases List.mem_singleton.mp last
        exact ⟨service,queried,first _ _ attempt⟩
  · refine ⟨asks.method_eq,asks.client_eq,asks.pending,?_⟩
    intro other inside
    have listed : AttemptEvent.began other ∈ call.journal ∨ other = started := by
      simpa [EthCall.note,EthCall.settle] using inside
    rcases listed with before | rfl
    · exact asks.journal other before
    · exact ⟨service,queried,first _ _ attempt⟩

theorem launchAll_asks {requests : List (RpcService × HttpJsonRpcRequest)}
    (asks : call.Asks platform begun client method params)
    (asked : ∀ entry ∈ requests, entry.1 ∈ client.providers.services.elements ∧
      Asked platform begun method params entry.1 entry.2)
    (launched : launchAll platform requests call memory = .done (next,after)) :
    next.Asks platform begun client method params := by
  induction requests generalizing call memory with
  | nil =>
    cases launched
    exact asks
  | cons entry requests ih =>
    rw [launchAll,List.foldlM_cons] at launched
    obtain ⟨⟨middle,between⟩,first,rest⟩ := Outcome.bind_eq_done.mp launched
    obtain ⟨queried,own⟩ := asked entry List.mem_cons_self
    exact ih (launch_asks asks queried own first) (fun other inside => asked other (List.mem_cons_of_mem _ inside)) rest

theorem parallelCall_asks {call : EthCall method} {transactionHash : Option Hex32} {size : ResponseSizeEstimate}
    {available : U128} {usage : SupportedRpcServiceUsage M}
    (opened : parallelCall platform client method transactionHash params size available
      {begun with okResultsTimestamps := usage} = .done (call,after)) : call.Asks platform begun client method params := by
  obtain ⟨requests,collected,launched⟩ := Outcome.bind_eq_done.mp opened
  apply launchAll_asks _ _ launched
  · exact ⟨rfl,rfl,by simp,by simp⟩
  · intro entry inside
    obtain ⟨queried,built⟩ := (MultiResults.mem_of_collect collected).mp (MultiResults.mem_okResults.mp inside)
    -- no request depends on the usage record
    have own : buildRequest platform begun method params size entry.1 = .done (.ok entry.2) := built
    exact ⟨queried,asked_of_built own⟩

theorem asks_upheld (platform : Platform M) (begun : Memory M) (client : EthRpcClient) (method : RpcMethod)
    (params : Json) : EthCall.Upheld platform (fun call => call.Asks platform begun client method params) := by
  refine ⟨?_,?_⟩
  · intro own call asks
    exact ⟨asks.method_eq,asks.client_eq,asks.pending,by simp [EthCall.silent]⟩
  · intro own call next service reply memory after wellFormed asks received
    by_cases present : service ∈ call.pending.map Prod.fst
    · obtain ⟨attempt,waiting⟩ : ∃ attempt, (service,attempt) ∈ call.pending := by simpa using present
      have queried : service ∈ client.providers.services.elements := by
        rw [← asks.client_eq,← wellFormed.places.mem_iff]
        exact List.mem_append_right _ (List.mem_append_left _ present)
      have ended : (afterAttempt platform service attempt reply call memory).1.Asks platform begun client method params := by
        refine ⟨asks.method_eq,asks.client_eq,fun entry inside => asks.pending entry (List.mem_of_mem_filter inside),?_⟩
        intro started inside
        refine asks.journal started ?_
        simpa [afterAttempt,EthCall.note,EthCall.forget] using inside
      rw [receiveReply_of_pending wellFormed.pending waiting] at received
      simp only at received
      split at received
      · rename_i renewed again
        exact launch_asks ended queried ((asks.pending _ waiting).retried again) received
      · cases received
        exact ⟨ended.method_eq,ended.client_eq,ended.pending,ended.journal⟩
    · rw [receiveReply_of_absent present] at received
      cases received
      exact asks

end Questions

/-- A service of the chain that a source names: one of the listed apis, or a provider of the table with
the identifier of the chain. -/
def OnChain (source : RpcServices) (service : RpcService) : Prop :=
  match source with
  | .custom _ services => ∃ api ∈ services, service = .custom api
  | source => ∃ provider ∈ PROVIDERS, resolveRpcService service = .ok (.provider provider) ∧
    provider.chainId = (supportedProviders source).1.chainId

section Chains
variable {M : Type} {timed : TimedSizedMap SupportedRpcService M} {made : M → Prop} {source : RpcServices}
  {strategy : ConsensusStrategy} {now : Timestamp} {usage after : SupportedRpcServiceUsage M}

/-- Every entry of the table is on the chain of its alias. -/
theorem chainId_of_alias {provider : Provider} (inside : provider ∈ PROVIDERS) {service : SupportedRpcService}
    (named : provider.serviceAlias = some service) : getKnownChainId service.toRpcService = some provider.chainId := by
  have each : ∀ provider ∈ PROVIDERS, provider.serviceAlias.all (fun service =>
      getKnownChainId service.toRpcService = some provider.chainId) := by decide
  have own := each provider inside
  rw [named] at own
  exact of_decide_eq_true own

theorem resolves_on_chain (service : SupportedRpcService) {chain : UInt64}
    (known : getKnownChainId service.toRpcService = some chain) : ∃ provider ∈ PROVIDERS,
      resolveRpcService service.toRpcService = .ok (.provider provider) ∧ provider.chainId = chain := by
  obtain ⟨provider,found,inside,named⟩ := SupportedRpcService.lookup_total service
  refine ⟨provider,inside,?_,Option.some.inj ((chainId_of_alias inside named).symm.trans known)⟩
  cases service with
  | ethMainnet service => exact congrArg (Except.map ResolvedRpcService.provider) found
  | ethSepolia service => exact congrArg (Except.map ResolvedRpcService.provider) found
  | arbitrumOne service => exact congrArg (Except.map ResolvedRpcService.provider) found
  | baseMainnet service => exact congrArg (Except.map ResolvedRpcService.provider) found
  | optimismMainnet service => exact congrArg (Except.map ResolvedRpcService.provider) found

theorem supported_on_chain {service : SupportedRpcService} (inside : service ∈ (supportedProviders source).2) :
    getKnownChainId service.toRpcService = some (supportedProviders source).1.chainId := by
  have each (services : List SupportedRpcService) (chain : UInt64)
      (all : services.all (fun service => getKnownChainId service.toRpcService = some chain) = true)
      (listed : service ∈ services) : getKnownChainId service.toRpcService = some chain :=
    of_decide_eq_true (List.all_eq_true.mp all service listed)
  cases source with
  | custom chainId services => cases inside
  | ethMainnet services => exact each SupportedRpcService.eth_mainnet EthereumNetwork.MAINNET.chainId (by decide) inside
  | ethSepolia services => exact each SupportedRpcService.eth_sepolia EthereumNetwork.SEPOLIA.chainId (by decide) inside
  | arbitrumOne services => exact each SupportedRpcService.arbitrum_one EthereumNetwork.ARBITRUM.chainId (by decide) inside
  | baseMainnet services => exact each SupportedRpcService.base_mainnet EthereumNetwork.BASE.chainId (by decide) inside
  | optimismMainnet services => exact each SupportedRpcService.optimism_mainnet EthereumNetwork.OPTIMISM.chainId (by decide) inside

/-- What a caller lists for a chain is on it. -/
theorem listed_on_chain {listed : List RpcService} (explicit : userDefinedProviders source = some listed)
    {service : RpcService} (inside : service ∈ listed) : OnChain source service := by
  have known {α : Type} {services : Option (List α)} {named : α → SupportedRpcService}
      (given : services.map (List.map (fun own => (named own).toRpcService)) = some listed) {chain : UInt64}
      (same : ∀ own, getKnownChainId (named own).toRpcService = some chain) :
      ∃ provider ∈ PROVIDERS, resolveRpcService service = .ok (.provider provider) ∧ provider.chainId = chain := by
    obtain ⟨own,_,rfl⟩ := Option.map_eq_some_iff.mp given
    obtain ⟨alias',_,rfl⟩ := List.mem_map.mp inside
    exact resolves_on_chain (named alias') (same alias')
  cases source with
  | custom chainId services =>
    cases explicit
    obtain ⟨api,present,rfl⟩ := List.mem_map.mp inside
    exact ⟨api,present,rfl⟩
  | ethMainnet services => exact @known _ _ .ethMainnet explicit _ (fun _ => rfl)
  | ethSepolia services => exact @known _ _ .ethSepolia explicit _ (fun _ => rfl)
  | arbitrumOne services => exact @known _ _ .arbitrumOne explicit _ (fun _ => rfl)
  | baseMainnet services => exact @known _ _ .baseMainnet explicit _ (fun _ => rfl)
  | optimismMainnet services => exact @known _ _ .optimismMainnet explicit _ (fun _ => rfl)

theorem default_on_chain {service : SupportedRpcService} (inside : service ∈ (supportedProviders source).2) :
    OnChain source service.toRpcService := by
  have own := resolves_on_chain service (supported_on_chain inside)
  cases source with
  | custom chainId services => cases inside
  | _ => exact own

/-- All services that are chosen for a source are on its chain. -/
theorem Providers.new_on_chain
    (lawful : timed.Lawful SupportedRpcServiceUsage.EXPIRATION SupportedRpcServiceUsage.CAPACITY made)
    {providers : Providers} (accepted : Providers.new timed source strategy now usage = .done (.ok providers,after)) :
    ∀ service ∈ providers.services.elements, OnChain source service := by
  intro service inside
  obtain ⟨_,chosen⟩ := Providers.new_eq_ok accepted
  cases explicit : userDefinedProviders source with
  | none =>
    rw [explicit] at chosen
    obtain ⟨own,supported,rfl⟩ := chooseProviders_default lawful chosen service inside
    exact default_on_chain supported
  | some listed =>
    rw [explicit] at chosen
    rw [chooseProviders_listed chosen,OrderedSet.mem_ofList] at inside
    exact listed_on_chain explicit inside

end Chains

section Runs
variable {M : Type}

/-- The attempts of a call from the message on that opens it. -/
theorem Canister.Waits.asked {platform : Platform M} {begun : Canister M} (waits : begun.Waits platform) (later : List Event)
    {event : Event} {id : ℕ} {source : RpcServices} {config : Option RpcConfig} {method : RpcMethod}
    {transactionHash : Option Hex32} {params : Except ValidationError Json} {available : U128}
    (message : event.message = .ethCall source config method transactionHash params available)
    (opens : begun.Opens platform id event) : ∃ given client usage, params = .ok given ∧
      EthRpcClient.new platform.timed source config event.time begun.memory.okResultsTimestamps = .done (.ok client,usage) ∧
      ∀ started, .began started ∈ Runs.deliveries (Canister.step platform) (Canister.journalFor platform id) begun
        (event::later) → ∃ service ∈ client.providers.services.elements,
          Asked platform begun.memory method given service started.request := by
  obtain ⟨given,client,usage,_,rfl,chosen,_⟩ := Canister.opens_client opens message
  refine ⟨given,client,usage,rfl,chosen,?_⟩
  intro started inside
  have kept := Canister.opened_keeps (asks_upheld platform begun.memory client method given) waits opens message
  obtain ⟨own,call,asks,listed⟩ := (kept (fun other accepted left size call memory same chosen' _ begun' => by
    cases same
    cases chosen.symm.trans chosen'
    exact parallelCall_asks begun') later).1 _ inside
  exact asks.journal started listed

/-- In every run, all attempts of a call, repeated ones included, put the question with which it was
opened to services that its client has chosen, with the keys and the override of that time. -/
theorem calls_ask_one_question (platform : Platform M) (memory : Memory M) (past later : List Event) {event : Event}
    {id : ℕ} {source : RpcServices} {config : Option RpcConfig} {method : RpcMethod} {transactionHash : Option Hex32}
    {params : Except ValidationError Json} {available : U128}
    (message : event.message = .ethCall source config method transactionHash params available)
    (opens : (Runs.run (Canister.step platform) (.initial platform memory) past).Opens platform id event) :
    let begun := Runs.run (Canister.step platform) (.initial platform memory) past
    ∃ given client usage, params = .ok given ∧
      EthRpcClient.new platform.timed source config event.time begun.memory.okResultsTimestamps = .done (.ok client,usage) ∧
      ∀ started, .began started ∈ Runs.deliveries (Canister.step platform) (Canister.journalFor platform id) begun
        (event::later) → ∃ service ∈ client.providers.services.elements,
          Asked platform begun.memory method given service started.request :=
  (Canister.run_waits platform memory past).asked later message opens

/-- A reply that is too large. -/
def mainnetReply : Event := ⟨2,.ethReply 0 (.ethMainnet .publicNode) (.error ⟨.sysFatal,"size"⟩)⟩

private theorem opens_mainnetCall :
    (Runs.run (Canister.step .reference) (.initial .reference demo) []).Opens .reference 0 mainnetCall := by
  decide +kernel

theorem calls_ask_one_question_for_mainnet : ∃ given client usage,
    (.ok .null : Except ValidationError Json) = .ok given ∧
    EthRpcClient.new ReferenceTimedMap.reference (.ethMainnet none) none 1
      (Canister.initial .reference demo).memory.okResultsTimestamps = .done (.ok client,usage) ∧
    ∀ started, .began started ∈ Runs.deliveries (Canister.step .reference) (Canister.journalFor .reference 0)
      (.initial .reference demo) [mainnetCall,mainnetReply] → ∃ service ∈ client.providers.services.elements,
        Asked .reference (Canister.initial .reference demo).memory .ethCall given service started.request :=
  @calls_ask_one_question _ .reference demo [] [mainnetReply] mainnetCall _ _ _ _ _ _ _ rfl opens_mainnetCall

/-- A call whose client has services on the chain of a source. -/
def EthCall.StaysOn (source : RpcServices) {kind : RpcMethod} (call : EthCall kind) : Prop :=
  ∀ service ∈ call.client.providers.services.elements, OnChain source service

theorem staysOn_upheld (platform : Platform M) (source : RpcServices) :
    EthCall.Upheld platform (fun call => call.StaysOn source) := by
  refine ⟨fun _ stays => stays,?_⟩
  intro method call next service reply memory after wellFormed stays received
  obtain ⟨_,_,received',extension,_⟩ := @receiveReply_step _ platform _ _ wellFormed service reply memory
  cases received.symm.trans received'
  rw [EthCall.StaysOn,extension.client]
  exact stays

/-- In every run, the answer to a call is made of results of services on the chain that its message
names, and of no other, whatever calls for other chains overlap with it. -/
theorem answers_stay_on_chain (platform : Platform M) {made : M → Prop}
    (lawful : platform.timed.Lawful SupportedRpcServiceUsage.EXPIRATION SupportedRpcServiceUsage.CAPACITY made)
    (memory : Memory M) (past later : List Event) {event : Event} {id : ℕ} {source : RpcServices}
    {config : Option RpcConfig} {method : RpcMethod} {transactionHash : Option Hex32} {params : Except ValidationError Json}
    {available : U128} (message : event.message = .ethCall source config method transactionHash params available)
    (opens : (Runs.run (Canister.step platform) (.initial platform memory) past).Opens platform id event) :
    ∀ completion ∈ Runs.deliveries (Canister.step platform) (Canister.answers platform id)
      (Runs.run (Canister.step platform) (.initial platform memory) past) (event::later),
        ∀ service ∈ completion.results.keys, OnChain source service := by
  intro completion inside service listed
  have waits := Canister.run_waits platform memory past
  have kept := Canister.opened_keeps (staysOn_upheld platform source) waits opens message
  obtain ⟨call,stays,wellFormed,complete,before,after,collected⟩ :=
    (kept (fun given client usage size call left same chosen _ begun => by
      rw [EthCall.StaysOn,(parallelCall_eq_done begun).choose_spec.2.2.1]
      exact Providers.new_on_chain lawful (EthRpcClient.new_eq_ok chosen).2) later).2 completion inside
  obtain ⟨results,collected',_,keys⟩ := collectResults_of_wellFormed wellFormed complete completion.time before
  cases collected.symm.trans collected'
  exact stays service (keys.mem_iff.mp listed)

theorem answers_stay_on_chain_for_mainnet :
    (Runs.run (Canister.step .reference) (.initial .reference demo) []).Opens .reference 0 mainnetCall ∧
    ∀ completion ∈ Runs.deliveries (Canister.step .reference) (Canister.answers .reference 0)
      (Runs.run (Canister.step .reference) (.initial .reference demo) []) [mainnetCall,mainnetReply],
      ∀ service ∈ completion.results.keys, OnChain (.ethMainnet none) service := by
  refine ⟨opens_mainnetCall,?_⟩
  apply answers_stay_on_chain .reference (ReferenceTimedMap.reference_lawful _ _) demo [] [mainnetReply] rfl
  exact opens_mainnetCall

end Runs
end EvmRpc
