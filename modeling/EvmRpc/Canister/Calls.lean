import EvmRpc.Canister.Configuration
import EvmRpc.RpcClient.ParallelCall
import EvmRpc.RpcClient.Ranking

/-! The canister between two upgrades: calls that are in flight at the same time, the
replies that they wait for and changes of the API keys, each a message of its own. -/
namespace EvmRpc
open Library

inductive OpenCall where
  | eth (method : RpcMethod) (call : EthCall method)
  | request (started : Started)

/-- A call that has ended, with the results that its answer was made of. -/
structure Completion where
  time : Timestamp
  method : RpcMethod
  results : CallResults method
  answer : MultiRpcResult method.CandidType

/-- `completed` and `journal` are no state of the canister: they list what has happened. -/
structure Canister (M : Type) where
  memory : Memory M
  calls : ℕ → Option OpenCall
  nextCall : ℕ
  completed : List Completion
  journal : List AttemptEvent

/-- `params` are the arguments of a method as they are sent, or the error with which
they are refused. -/
inductive Message where
  | ethCall (source : RpcServices) (config : Option RpcConfig) (method : RpcMethod)
      (transactionHash : Option Hex32) (params : Except ValidationError Json) (available : U128)
  | ethReply (id : ℕ) (service : RpcService) (reply : Except IcError HttpResponse)
  | request (service : RpcService) (jsonRpcPayload : String) (maxResponseBytes : UInt64) (available : U128)
  | requestReply (id : ℕ) (reply : Except IcError HttpResponse)
  | updateApiKeys (caller : Principal) (isController : Bool) (apiKeys : List (ProviderId × Option String))

structure Event where
  time : Timestamp
  message : Message

namespace Canister
variable {M : Type} (platform : Platform M)

def initial (memory : Memory M) : Canister M := ⟨memory.upgraded platform.timed,fun _ => none,0,[],[]⟩

theorem initial_unused (memory : Memory M) (id : ℕ) (opened : OpenCall) :
    (initial platform memory).calls id ≠ some opened := by
  have unused : (initial platform memory).calls id = none := rfl
  simp [unused]

/-- What holds of all open eth calls still does when one of them is replaced. -/
theorem forall_eth_update {calls : ℕ → Option OpenCall} {holds : (method : RpcMethod) → EthCall method → Prop}
    (each : ∀ id method call, calls id = some (.eth method call) → holds method call) {opened : Option OpenCall}
    (fine : ∀ method call, opened = some (.eth method call) → holds method call) (slot : ℕ) :
    ∀ id method call, Function.update calls slot opened id = some (.eth method call) → holds method call := by
  intro id method call found
  by_cases same : id = slot
  · subst id
    rw [Function.update_self] at found
    exact fine method call found
  · rw [Function.update_of_ne same] at found
    exact each id method call found

def note (events : List AttemptEvent) (canister : Canister M) : Canister M :=
  {canister with journal := canister.journal ++ events}

/-- A call stays open until nothing is in flight for it, and ends with its answer. -/
def proceed {method : RpcMethod} (now : Timestamp) (id : ℕ) (call : EthCall method) (memory : Memory M)
    (canister : Canister M) : Outcome (Canister M) :=
  let canister := canister.note call.journal
  if call.pending.isEmpty then do
    let (results,memory) ← collectResults platform now call memory
    let (answer,metrics) :=
      call.client.reply (platform.reduce method) platform.url call.transactionHash results memory.metrics
    .done {canister with
      memory := {memory with metrics := metrics}
      calls := Function.update canister.calls id none
      completed := canister.completed ++ [⟨now,method,results,answer⟩]}
  else
    .done {canister with
      memory := memory
      calls := Function.update canister.calls id (some (.eth method {call with journal := []}))}

def ethCall (now : Timestamp) (source : RpcServices) (config : Option RpcConfig) (method : RpcMethod)
    (transactionHash : Option Hex32) (params : Except ValidationError Json) (available : U128)
    (canister : Canister M) : Outcome (Canister M) := do
  let (client,usage) ← EthRpcClient.new platform.timed source config now canister.memory.okResultsTimestamps
  let memory := {canister.memory with okResultsTimestamps := usage}
  match client,params with
  | .ok client,.ok params => do
    let size ← client.responseSizeEstimate (client.expectedSize method)
    let (call,memory) ← parallelCall platform client method transactionHash params size available memory
    proceed platform now canister.nextCall call memory {canister with nextCall := canister.nextCall+1}
  | _,_ => .done {canister with memory := memory}

def ethReply (now : Timestamp) (id : ℕ) (service : RpcService) (reply : Except IcError HttpResponse)
    (canister : Canister M) : Outcome (Canister M) :=
  match canister.calls id with
  | some (.eth _ call) => do
    let (call,memory) ← receiveReply platform service reply call canister.memory
    proceed platform now id call memory canister
  | _ => .done canister

def requestCall (service : RpcService) (jsonRpcPayload : String) (maxResponseBytes : UInt64) (available : U128)
    (canister : Canister M) : Outcome (Canister M) := do
  let (result,memory) ← request platform.regex platform.http platform.canhttp canister.memory service jsonRpcPayload
    maxResponseBytes available
  match result with
  | .error _ => .done {canister with memory := memory}
  | .ok started =>
    let canister := canister.note [.began started]
    match started.sent with
    | .ok _ => .done {canister with
        memory := memory
        calls := Function.update canister.calls canister.nextCall (some (.request started))
        nextCall := canister.nextCall+1}
    | .error error =>
      let outcome : Except HttpClientError (UInt16 × Except ServerError Json) := .error error
      .done {canister.note [.ended started.data (.error error)] with
        memory := observe platform.canhttp started.data outcome memory}

def requestReply (id : ℕ) (reply : Except IcError HttpResponse) (canister : Canister M) : Outcome (Canister M) :=
  match canister.calls id with
  | some (.request started) =>
    let outcome := receive platform.canhttp platform.crates.rpc .value started.data.requestId reply
    .done {canister.note [.ended started.data (outcome.map Prod.fst)] with
      memory := observe platform.canhttp started.data outcome canister.memory
      calls := Function.update canister.calls id none}
  | _ => .done canister

def step (canister : Canister M) (event : Event) : Outcome (Canister M) :=
  match event.message with
  | .ethCall source config method transactionHash params available =>
    canister.ethCall platform event.time source config method transactionHash params available
  | .ethReply id service reply => canister.ethReply platform event.time id service reply
  | .request service jsonRpcPayload maxResponseBytes available =>
    canister.requestCall platform service jsonRpcPayload maxResponseBytes available
  | .requestReply id reply => canister.requestReply platform id reply
  | .updateApiKeys caller isController apiKeys => do
    let memory ← updateApiKeys caller isController apiKeys canister.memory
    .done {canister with memory := memory}

section Cases
variable {M : Type} {platform : Platform M} {canister next : Canister M} {now : Timestamp}

theorem ethCall_cases {source : RpcServices} {config : Option RpcConfig} {method : RpcMethod}
    {transactionHash : Option Hex32} {params : Except ValidationError Json} {available : U128}
    (taken : canister.ethCall platform now source config method transactionHash params available = .done next) :
    ∃ client usage, EthRpcClient.new platform.timed source config now canister.memory.okResultsTimestamps =
        .done (client,usage) ∧
      (next = {canister with memory := {canister.memory with okResultsTimestamps := usage}} ∨
        ∃ accepted given size call memory, client = .ok accepted ∧ params = .ok given ∧
          parallelCall platform accepted method transactionHash given size available
            {canister.memory with okResultsTimestamps := usage} = .done (call,memory) ∧
          proceed platform now canister.nextCall call memory {canister with nextCall := canister.nextCall+1} =
            .done next) := by
  obtain ⟨⟨client,usage⟩,chosen,taken⟩ := Outcome.bind_eq_done.mp taken
  refine ⟨client,usage,chosen,?_⟩
  cases client with
  | error error =>
    cases taken
    exact .inl rfl
  | ok client =>
    cases params with
    | error error =>
      cases taken
      exact .inl rfl
    | ok params =>
      obtain ⟨size,_,taken⟩ := Outcome.bind_eq_done.mp taken
      obtain ⟨⟨call,memory⟩,begun,taken⟩ := Outcome.bind_eq_done.mp taken
      exact .inr ⟨client,params,size,call,memory,rfl,rfl,begun,taken⟩

theorem ethReply_cases {id : ℕ} {service : RpcService} {reply : Except IcError HttpResponse}
    (taken : canister.ethReply platform now id service reply = .done next) :
    next = canister ∨ ∃ method call further memory, canister.calls id = some (.eth method call) ∧
      receiveReply platform service reply call canister.memory = .done (further,memory) ∧
      proceed platform now id further memory canister = .done next := by
  unfold ethReply at taken
  split at taken
  · rename_i method call found
    obtain ⟨⟨further,memory⟩,received,taken⟩ := Outcome.bind_eq_done.mp taken
    exact .inr ⟨method,call,further,memory,found,received,taken⟩
  · cases taken
    exact .inl rfl

/-- A request is refused, waits for its reply or failed in a layer of the client. -/
theorem requestCall_cases {service : RpcService} {jsonRpcPayload : String} {maxResponseBytes : UInt64} {available : U128}
    (taken : canister.requestCall platform service jsonRpcPayload maxResponseBytes available = .done next) :
    next = canister ∨ ∃ host request started, started = attempted platform.http platform.canhttp
        (.ofMemory canister.memory) ⟨"request"⟩ false available canister.memory.httpRequestCounter host request ∧
      ((∃ charged, started.sent = .ok charged ∧ next = {canister.note [.began started] with
          memory := canister.memory.requested ⟨"request"⟩ false host
          calls := Function.update canister.calls canister.nextCall (some (.request started))
          nextCall := canister.nextCall+1}) ∨
        ∃ error, started.sent = .error error ∧
          next = {canister.note [.began started,.ended started.data (.error error)] with
            memory := observe platform.canhttp (α := Json) started.data (.error error)
              (canister.memory.requested ⟨"request"⟩ false host)}) := by
  obtain ⟨⟨result,memory⟩,begun,taken⟩ := Outcome.bind_eq_done.mp taken
  obtain ⟨error,rfl,rfl⟩ | ⟨host,request,rfl,rfl⟩ := request_cases begun
  · cases taken
    exact .inl rfl
  · refine .inr ⟨host,request,_,rfl,?_⟩
    generalize attempted platform.http platform.canhttp (.ofMemory canister.memory) ⟨"request"⟩ false available
      canister.memory.httpRequestCounter host request = started at taken ⊢
    cases sent : started.sent with
    | ok charged =>
      simp only [sent,Outcome.done.injEq] at taken
      exact .inl ⟨charged,rfl,taken.symm⟩
    | error error =>
      simp only [sent,Outcome.done.injEq] at taken
      refine .inr ⟨error,rfl,?_⟩
      rw [← taken]
      simp [note]

theorem requestCall_of_sent {service : RpcService} {jsonRpcPayload : String} {maxResponseBytes : UInt64} {available : U128}
    {started : Started} {memory : Memory M}
    (begun : request platform.regex platform.http platform.canhttp canister.memory service jsonRpcPayload maxResponseBytes
      available = .done (.ok started,memory)) {charged : Charged} (sent : started.sent = .ok charged) :
    canister.requestCall platform service jsonRpcPayload maxResponseBytes available =
      .done {canister.note [.began started] with
        memory := memory
        calls := Function.update canister.calls canister.nextCall (some (.request started))
        nextCall := canister.nextCall+1} := by
  unfold requestCall
  simp only [begun,Outcome.done_bind,sent]
  rfl

theorem requestReply_of_waiting {id : ℕ} {started : Started} (waits : canister.calls id = some (.request started))
    (reply : Except IcError HttpResponse) : canister.requestReply platform id reply =
      let outcome := receive platform.canhttp platform.crates.rpc .value started.data.requestId reply
      .done {canister.note [.ended started.data (outcome.map Prod.fst)] with
        memory := observe platform.canhttp started.data outcome canister.memory
        calls := Function.update canister.calls id none} := by
  simp only [requestReply,waits]

theorem requestReply_cases {id : ℕ} {reply : Except IcError HttpResponse}
    (taken : canister.requestReply platform id reply = .done next) :
    next = canister ∨ ∃ started, canister.calls id = some (.request started) ∧
      let outcome := receive platform.canhttp platform.crates.rpc .value started.data.requestId reply
      next = {canister.note [.ended started.data (outcome.map Prod.fst)] with
        memory := observe platform.canhttp started.data outcome canister.memory
        calls := Function.update canister.calls id none} := by
  unfold requestReply at taken
  split at taken
  · rename_i started found
    cases taken
    exact .inr ⟨started,found,rfl⟩
  · cases taken
    exact .inl rfl

end Cases

end Canister

/-- What is recorded for the results of a call: each supported service that succeeded,
once, and no other. -/
def RecordsSuccesses {method : RpcMethod} (results : CallResults method) : Prop :=
  (recordedServices results).Nodup ∧ ∀ supported, supported ∈ recordedServices results ↔
    ∃ value, (supported.toRpcService,.ok value) ∈ results.entries

section Records
variable {M : Type} {platform : Platform M} {made : M → Prop} {memory after : Memory M} {now : Timestamp}
  {history : List (SupportedRpcService × Timestamp)}

theorem recordsSuccesses_of_named {method : RpcMethod} {results : CallResults method} {client : EthRpcClient}
    (named : client.Named) (keys : results.keys.Perm client.providers.services.elements) :
    RecordsSuccesses results := by
  have named' : ∀ service ∈ results.okResults.map Prod.fst, ∀ supported,
      SupportedRpcService.ofRpcService service = some supported → service = supported.toRpcService := by
    intro service inside
    obtain ⟨⟨_,value⟩,listed,rfl⟩ := List.mem_map.mp inside
    exact named _ (keys.mem_iff.mp (List.mem_map_of_mem (MultiResults.mem_okResults.mp listed)))
  have distinct : (results.okResults.map Prod.fst).Nodup :=
    (List.nodup_append.mp (results.keys_perm.nodup_iff.mpr results.distinct)).2.1
  constructor
  · refine List.pairwise_filterMap.mpr (distinct.imp_of_mem ?_)
    intro first second here there apart supported one other two same
    refine apart ?_
    rw [named' first here supported one,named' second there other two,same]
  · intro supported
    constructor
    · intro inside
      obtain ⟨service,listed,name⟩ := List.mem_filterMap.mp inside
      obtain rfl := named' service listed supported name
      obtain ⟨⟨_,value⟩,success,same⟩ := List.mem_map.mp listed
      cases same
      exact ⟨value,MultiResults.mem_okResults.mp success⟩
    · rintro ⟨value,success⟩
      exact List.mem_filterMap.mpr ⟨supported.toRpcService,
        List.mem_map_of_mem (MultiResults.mem_okResults.mpr success),SupportedRpcService.ofRpcService_toRpcService _⟩

theorem recordOkResults_tracks
    (lawful : platform.timed.Lawful SupportedRpcServiceUsage.EXPIRATION SupportedRpcServiceUsage.CAPACITY made)
    (tracks : UsageTracks platform.timed made memory.okResultsTimestamps history now)
    (services : List SupportedRpcService) :
    UsageTracks platform.timed made (recordOkResults platform now services memory).okResultsTimestamps
      (history ++ services.map (fun service => (service,now))) now := by
  induction services generalizing memory history with
  | nil => simpa [recordOkResults] using tracks
  | cons service services ih =>
    have recorded : UsageTracks platform.timed made
        (memory.recordOkResult platform.timed now service).okResultsTimestamps (history ++ [(service,now)]) now :=
      tracks.insertEvict lawful service
    have rest := ih recorded
    rw [List.append_assoc,List.singleton_append] at rest
    exact rest

end Records

namespace Canister

def history (completed : List Completion) : List (SupportedRpcService × Timestamp) :=
  completed.flatMap (fun completion => (recordedServices completion.results).map (fun service => (service,completion.time)))

section Runs
variable {M : Type} {platform : Platform M} {made : M → Prop} {canister next : Canister M} {now : Timestamp}
  {event : Event}

/-- Open calls are well formed, completed ones recorded their successes, and the usage
record is what the history of these successes makes of it. -/
structure Sound (platform : Platform M) (made : M → Prop) (now : Timestamp) (canister : Canister M) : Prop where
  opened : ∀ id method call, canister.calls id = some (.eth method call) → call.WellFormed ∧ call.client.Named
  recorded : ∀ completion ∈ canister.completed, RecordsSuccesses completion.results
  tracks : UsageTracks platform.timed made canister.memory.okResultsTimestamps (history canister.completed) now

theorem Sound.later {later : Timestamp} (sound : canister.Sound platform made now) (le : now ≤ later) :
    canister.Sound platform made later := ⟨sound.opened,sound.recorded,sound.tracks.later le⟩

theorem Sound.withMemory {memory : Memory M} (sound : canister.Sound platform made now)
    (usage : memory.okResultsTimestamps = canister.memory.okResultsTimestamps) :
    {canister with memory := memory}.Sound platform made now :=
  ⟨sound.opened,sound.recorded,by
    rw [usage]
    exact sound.tracks⟩

theorem Sound.withCall (sound : canister.Sound platform made now) (id : ℕ) (opened : Option OpenCall)
    (fine : ∀ method call, opened = some (.eth method call) → call.WellFormed ∧ call.client.Named) :
    {canister with calls := Function.update canister.calls id opened}.Sound platform made now :=
  ⟨forall_eth_update sound.opened fine id,sound.recorded,sound.tracks⟩

theorem Sound.withJournal (sound : canister.Sound platform made now) (events : List AttemptEvent) :
    (canister.note events).Sound platform made now := ⟨sound.opened,sound.recorded,sound.tracks⟩

/-- A call that goes on or ends leaves a sound canister and never traps. -/
theorem proceed_sound
    (lawful : platform.timed.Lawful SupportedRpcServiceUsage.EXPIRATION SupportedRpcServiceUsage.CAPACITY made)
    {method : RpcMethod} {call : EthCall method} {memory : Memory M} (id : ℕ)
    (sound : canister.Sound platform made now) (usage : memory.okResultsTimestamps = canister.memory.okResultsTimestamps)
    (wellFormed : call.WellFormed) (named : call.client.Named) :
    ∃ next, proceed platform now id call memory canister = .done next ∧ next.Sound platform made now := by
  unfold proceed
  by_cases complete : call.pending = []
  · obtain ⟨results,collected,_,keys⟩ := @collectResults_of_wellFormed _ platform _ _ wellFormed complete now memory
    have records := recordsSuccesses_of_named named keys
    have tracks := recordOkResults_tracks lawful (usage ▸ sound.tracks) (recordedServices results)
    rw [if_pos (by simp [complete]),collected]
    refine ⟨_,rfl,(sound.withCall id none (by simp)).opened,?_,?_⟩
    · intro completion inside
      rcases List.mem_append.mp inside with before | last
      · exact sound.recorded completion before
      · obtain rfl := List.mem_singleton.mp last
        exact records
    · simpa [history,note] using tracks
  · rw [if_neg (by simpa using complete)]
    refine ⟨_,rfl,((sound.withJournal call.journal).withMemory usage).withCall id _ ?_⟩
    intro other found same
    cases same
    exact ⟨⟨wellFormed.places,wellFormed.hosted⟩,named⟩

theorem ethCall_sound
    (lawful : platform.timed.Lawful SupportedRpcServiceUsage.EXPIRATION SupportedRpcServiceUsage.CAPACITY made)
    (sound : canister.Sound platform made now) {source : RpcServices} {config : Option RpcConfig} {method : RpcMethod}
    {transactionHash : Option Hex32} {params : Except ValidationError Json} {available : U128}
    (taken : canister.ethCall platform now source config method transactionHash params available = .done next) :
    next.Sound platform made now := by
  obtain ⟨client,usage,chosen,cases⟩ := ethCall_cases taken
  have tracks : UsageTracks platform.timed made usage (history canister.completed) now := by
    rcases EthRpcClient.new_usage chosen with rfl | rfl
    · exact sound.tracks
    · exact sound.tracks.evictExpired lawful _
  have evicted : Sound platform made now
      {canister with memory := {canister.memory with okResultsTimestamps := usage}} :=
    ⟨sound.opened,sound.recorded,tracks⟩
  obtain rfl | ⟨client,params,size,call,memory,rfl,rfl,begun,taken⟩ := cases
  · exact evicted
  · obtain ⟨_,_,_,client_eq,_,_,_,wellFormed,counted⟩ := parallelCall_eq_done begun
    have named : call.client.Named := client_eq ▸ EthRpcClient.new_named lawful chosen
    have opened : Sound platform made now {canister with
        memory := {canister.memory with okResultsTimestamps := usage}
        nextCall := canister.nextCall+1} := ⟨evicted.opened,evicted.recorded,evicted.tracks⟩
    obtain ⟨last,proceeded,fine⟩ := proceed_sound lawful canister.nextCall opened counted.usage wellFormed named
    -- what `proceed` leaves does not depend on the memory it is given beside the call's own
    have same : last = next := Outcome.done.inj (proceeded.symm.trans taken)
    exact same ▸ fine

theorem ethReply_sound
    (lawful : platform.timed.Lawful SupportedRpcServiceUsage.EXPIRATION SupportedRpcServiceUsage.CAPACITY made)
    (sound : canister.Sound platform made now) {id : ℕ} {service : RpcService} {reply : Except IcError HttpResponse}
    (taken : canister.ethReply platform now id service reply = .done next) : next.Sound platform made now := by
  obtain rfl | ⟨method,call,further,memory,found,received,taken⟩ := ethReply_cases taken
  · exact sound
  · obtain ⟨wellFormed,named⟩ := sound.opened id method call found
    obtain ⟨moved,after,received',extension,kept,_,counted⟩ :=
      @receiveReply_step _ platform _ _ wellFormed service reply canister.memory
    cases received.symm.trans received'
    obtain ⟨last,proceeded,fine⟩ := proceed_sound lawful id sound counted.usage kept (extension.client ▸ named)
    exact Outcome.done.inj (proceeded.symm.trans taken) ▸ fine

theorem requestCall_sound (sound : canister.Sound platform made now) {service : RpcService} {jsonRpcPayload : String}
    {maxResponseBytes : UInt64} {available : U128}
    (taken : canister.requestCall platform service jsonRpcPayload maxResponseBytes available = .done next) :
    next.Sound platform made now := by
  obtain rfl | ⟨host,request,started,_,⟨charged,_,rfl⟩ | ⟨error,_,rfl⟩⟩ := requestCall_cases taken
  · exact sound
  · have opened := sound.withCall canister.nextCall (some (.request started)) (by simp)
    exact ⟨opened.opened,opened.recorded,opened.tracks⟩
  · exact ⟨sound.opened,sound.recorded,sound.tracks⟩

theorem step_sound
    (lawful : platform.timed.Lawful SupportedRpcServiceUsage.EXPIRATION SupportedRpcServiceUsage.CAPACITY made)
    (sound : canister.Sound platform made event.time) (taken : canister.step platform event = .done next) :
    next.Sound platform made event.time := by
  obtain ⟨time,message⟩ := event
  cases message with
  | ethCall source config method transactionHash params available => exact ethCall_sound lawful sound taken
  | ethReply id service reply => exact ethReply_sound lawful sound taken
  | request service jsonRpcPayload maxResponseBytes available => exact requestCall_sound sound taken
  | requestReply id reply =>
    obtain rfl | ⟨started,_,rfl⟩ := requestReply_cases taken
    · exact sound
    · have closed := sound.withCall id none (by simp)
      exact ⟨closed.opened,closed.recorded,closed.tracks⟩
  | updateApiKeys caller isController apiKeys =>
    obtain ⟨memory,updated,taken⟩ := Outcome.bind_eq_done.mp taken
    cases taken
    obtain ⟨_,_,rfl⟩ := updateApiKeys_eq_done.mp updated
    exact sound.withMemory rfl

/-- After messages in the order of time the canister is sound at any later time. -/
theorem run_sound
    (lawful : platform.timed.Lawful SupportedRpcServiceUsage.EXPIRATION SupportedRpcServiceUsage.CAPACITY made)
    (memory : Memory M) (events : List Event) (ordered : (events.map Event.time).Pairwise (· ≤ ·)) (now : Timestamp)
    (past : ∀ event ∈ events, event.time ≤ now) :
    (Runs.run (step platform) (initial platform memory) events).Sound platform made now := by
  let holds (past : List Event) (canister : Canister M) : Prop := (past.map Event.time).Pairwise (· ≤ ·) →
    ∀ now, (∀ event ∈ past, event.time ≤ now) → canister.Sound platform made now
  have before (past : List Event) (event : Event) (ordered : ((past ++ [event]).map Event.time).Pairwise (· ≤ ·)) :
      (past.map Event.time).Pairwise (· ≤ ·) ∧ ∀ earlier ∈ past, earlier.time ≤ event.time := by
    rw [List.map_append,List.pairwise_append] at ordered
    exact ⟨ordered.1,fun earlier inside => ordered.2.2 _ (List.mem_map_of_mem inside) _ (by simp)⟩
  refine Runs.history (step platform) holds (initial platform memory) ?_ ?_ ?_ events ordered now past
  · intro _ now _
    exact ⟨fun id method call found => absurd found (initial_unused platform memory id _),
      fun completion inside => absurd inside List.not_mem_nil,.new lawful now⟩
  · intro past canister event next earlier taken ordered now bounded
    obtain ⟨sorted,early⟩ := before past event ordered
    exact (step_sound lawful (earlier sorted event.time early) taken).later (bounded event (by simp))
  · intro past canister event message earlier _ ordered now bounded
    exact earlier (before past event ordered).1 now (fun other inside => bounded other (by simp [inside]))

end Runs

/-- The completed calls not older than twenty minutes in which a service succeeded. -/
def successes {M : Type} (canister : Canister M) (now : Timestamp) (service : SupportedRpcService) : ℕ :=
  (canister.completed.filter (fun completion =>
    completion.results.okResults.any (fun entry => entry.1 = service.toRpcService) &&
      decide (now.toNat ≤ completion.time.toNat+SupportedRpcServiceUsage.EXPIRATION))).length

section Selection
variable {M : Type} {platform : Platform M} {made : M → Prop} {canister : Canister M} {now : Timestamp}

private theorem timesOf_records {services : List SupportedRpcService} (distinct : services.Nodup) (t : Timestamp)
    (service : SupportedRpcService) : TimedSizedMap.timesOf (services.map (fun other => (other,t))) service =
      if service ∈ services then [t] else [] := by
  have times : TimedSizedMap.timesOf (services.map (fun other => (other,t))) service =
      (services.filter (fun other => decide (other = service))).map (fun _ => t) := by
    simp [TimedSizedMap.timesOf,List.filter_map,Function.comp_def]
  rw [times,List.map_const',← List.countP_eq_length_filter]
  have once : services.countP (fun other => decide (other = service)) = services.count service :=
    List.countP_congr (by simp)
  rw [once,distinct.count]
  split <;> rfl

private theorem timesOf_append (first second : List (SupportedRpcService × Timestamp)) (service : SupportedRpcService) :
    TimedSizedMap.timesOf (first ++ second) service =
      TimedSizedMap.timesOf first service ++ TimedSizedMap.timesOf second service := by
  simp [TimedSizedMap.timesOf]

private theorem length_alive_history {completed : List Completion}
    (recorded : ∀ completion ∈ completed, RecordsSuccesses completion.results) (now : Timestamp)
    (service : SupportedRpcService) :
    (TimedSizedMap.alive SupportedRpcServiceUsage.EXPIRATION now
      (TimedSizedMap.timesOf (history completed) service)).length =
    (completed.filter (fun completion =>
      completion.results.okResults.any (fun entry => entry.1 = service.toRpcService) &&
        decide (now.toNat ≤ completion.time.toNat+SupportedRpcServiceUsage.EXPIRATION))).length := by
  induction completed with
  | nil => rfl
  | cons completion completed ih =>
    obtain ⟨distinct,own⟩ := recorded completion (by simp)
    have rest := ih (fun other inside => recorded other (by simp [inside]))
    have succeeded : completion.results.okResults.any (fun entry => entry.1 = service.toRpcService) = true ↔
        service ∈ recordedServices completion.results := by
      rw [own,List.any_eq_true]
      constructor
      · rintro ⟨⟨other,value⟩,inside,same⟩
        obtain rfl := of_decide_eq_true same
        exact ⟨value,MultiResults.mem_okResults.mp inside⟩
      · rintro ⟨value,inside⟩
        exact ⟨_,MultiResults.mem_okResults.mpr inside,by simp⟩
    have split : history (completion::completed) =
        (recordedServices completion.results).map (fun other => (other,completion.time)) ++ history completed := rfl
    rw [split,timesOf_append,timesOf_records distinct,TimedSizedMap.alive,List.filter_append,List.length_append,
      List.filter_cons]
    unfold TimedSizedMap.alive at rest
    rw [rest]
    by_cases success : service ∈ recordedServices completion.results
    · rw [succeeded.mpr success,if_pos success]
      by_cases fresh : now.toNat ≤ completion.time.toNat+SupportedRpcServiceUsage.EXPIRATION
      · simp [fresh,Nat.add_comm 1]
      · simp [fresh]
    · have failed : completion.results.okResults.any (fun entry => entry.1 = service.toRpcService) = false :=
        Bool.eq_false_iff.mpr (fun won => success (succeeded.mp won))
      simp [failed,success]

/-- In any order of calls and replies, default services are the first ones of the
supported list stably sorted by their recent successes, and every completed call
counts once for each supported service that succeeded in it. -/
theorem defaults_reflect_history
    (lawful : platform.timed.Lawful SupportedRpcServiceUsage.EXPIRATION SupportedRpcServiceUsage.CAPACITY made)
    (memory : Memory M) (events : List Event) (ordered : (events.map Event.time).Pairwise (· ≤ ·)) (now : Timestamp)
    (past : ∀ event ∈ events, event.time ≤ now) (source : RpcServices) (default : userDefinedProviders source = none)
    (strategy : ConsensusStrategy) (count : ℕ) (asks : DefaultCount source strategy count) :
    let canister := Runs.run (step platform) (initial platform memory) events
    let ranked := StableSort.sort (fun service =>
      OrderDual.toDual (min SupportedRpcServiceUsage.CAPACITY (canister.successes now service)))
      (supportedProviders source).2
    (bestRanked ranked count).card = count ∧
    (∃ nonempty after, Providers.new platform.timed source strategy now canister.memory.okResultsTimestamps =
      .done (.ok ⟨(supportedProviders source).1,bestRanked ranked count,nonempty⟩,after)) ∧
    ∀ completion ∈ canister.completed, RecordsSuccesses completion.results := by
  intro canister ranked
  have sound : canister.Sound platform made now := run_sound lawful memory events ordered now past
  have order : (rankProviders platform.timed (supportedProviders source).2 now
      canister.memory.okResultsTimestamps).1 = ranked := by
    rw [rankProviders_eq_sort lawful sound.tracks (UInt64.le_refl now)]
    refine StableSort.sort_congr (fun service _ => ?_)
    rw [recordedSuccesses,length_alive_history sound.recorded]
    rfl
  have spec := Providers.new_default lawful default asks now canister.memory.okResultsTimestamps
  simp only [order] at spec
  obtain ⟨card,nonempty,chosen⟩ := spec
  exact ⟨card,⟨nonempty,_,chosen⟩,sound.recorded⟩

/-- A call to a service that is not among the first three, which succeeds. -/
def llamaRun : List Event :=
  [⟨1,.ethCall (.ethMainnet (some [.llama])) none .ethGetTransactionCount none (.ok .null) U128.MAX⟩,
    ⟨2,.ethReply 0 (.ethMainnet .llama) (.ok ⟨200,[],sevenResponse "0"⟩)⟩]

theorem defaults_reflect_history_for_mainnet :
    let canister := Runs.run (step sevenPlatform) (initial sevenPlatform (.fresh ReferenceTimedMap.reference)) llamaRun
    let ranked := StableSort.sort (fun service =>
      OrderDual.toDual (min SupportedRpcServiceUsage.CAPACITY (canister.successes 3 service)))
      (supportedProviders (.ethMainnet none)).2
    ranked.take 3 = [.ethMainnet .llama,.ethMainnet .blockPi,.ethMainnet .ankr] ∧
    (bestRanked ranked 3).card = 3 ∧
    (∃ nonempty after, Providers.new ReferenceTimedMap.reference (.ethMainnet none) .equality 3
        canister.memory.okResultsTimestamps =
      .done (.ok ⟨(supportedProviders (.ethMainnet none)).1,bestRanked ranked 3,nonempty⟩,after)) ∧
    ∀ completion ∈ canister.completed, RecordsSuccesses completion.results := by
  intro canister ranked
  have risen : ranked.take 3 = [.ethMainnet .llama,.ethMainnet .blockPi,.ethMainnet .ankr] := by decide +kernel
  exact ⟨risen,@defaults_reflect_history _ sevenPlatform _ (ReferenceTimedMap.reference_lawful _ _)
    (.fresh ReferenceTimedMap.reference) llamaRun (by decide) 3 (by decide) (.ethMainnet none) rfl .equality 3 rfl⟩

end Selection
end Canister
end EvmRpc
