import EvmRpc.Canister.Balance

/-! The cycles that attempts take from their callers, beside the counter that should show them. -/
namespace EvmRpc
open Library

def Started.accepted (started : Started) : ℕ := ((started.sent.toOption.map Charged.charged).getD 0).val

def AttemptEvent.acceptedAt (key : MetricRpcMethod × MetricRpcHost) : AttemptEvent → ℕ
  | .began started => if started.data.key = key then started.accepted else 0
  | .ended _ _ => 0

/-- What the attempts of a method to a host took from their callers. -/
def acceptedAt (key : MetricRpcMethod × MetricRpcHost) (journal : List AttemptEvent) : ℕ :=
  (journal.map (AttemptEvent.acceptedAt key)).sum

/-- The counter shows for every method and host what was accepted for it. -/
def Canister.CyclesAccounted {M : Type} (canister : Canister M) : Prop :=
  ∀ key, ((canister.memory.metrics.cyclesCharged.lookup key).getD 0).val = acceptedAt key canister.journal

/-- A price that is not zero and that the caller has attached enough cycles for. -/
structure CyclesAccounting.Pays (canhttp : Canhttp) (accounting : CyclesAccounting) (available : U128)
    (request : IcHttpRequest) : Prop where
  positive : 0 < accounting.policy.cyclesToCharge (canhttp.costOfHttpRequest accounting.nodes request)
  enough : accounting.policy.cyclesToCharge (canhttp.costOfHttpRequest accounting.nodes request) ≤ available

/-- An attempt whose request could be built and was paid for. -/
def Started.Paid {M : Type} (platform : Platform M) (accounting : CyclesAccounting) (started : Started) : Prop :=
  ∃ method retry available counter host request converted,
    started = attempted platform.http platform.canhttp accounting method retry available counter host request ∧
    serviceRequestBuilder platform.http platform.canhttp (numbered retry counter request) = .ok converted ∧
    accounting.Pays platform.canhttp available converted

/-- Every attempt was made by the client with the same accounting. -/
def Genuine {M : Type} (platform : Platform M) (accounting : CyclesAccounting) (journal : List AttemptEvent) : Prop :=
  ∀ started, .began started ∈ journal → ∃ method retry available counter host request,
    started = attempted platform.http platform.canhttp accounting method retry available counter host request

section Prices
variable {http : HttpCrate} {canhttp : Canhttp} {accounting : CyclesAccounting} {method : MetricRpcMethod} {retry : Bool}
  {available : U128} {counter : UInt64} {host : String} {request : HttpJsonRpcRequest}

/-- Nobody pays in demo mode. -/
theorem CyclesAccounting.Pays.charges {converted : IcHttpRequest} (pays : accounting.Pays canhttp available converted) :
    accounting.policy.chargeUser = true := by
  by_contra free
  have nothing := pays.positive
  rw [ChargingPolicyWithCollateral.cyclesToCharge,if_neg free] at nothing
  exact lt_irrefl _ nothing

/-- Cycles are accepted in one branch of `convert`. -/
theorem convert_accepts (converted : IcHttpRequest) :
    0 < (((accounting.convert canhttp available converted).toOption.map Charged.charged).getD 0).val ↔
      accounting.Pays canhttp available converted := by
  simp only [CyclesAccounting.convert]
  split
  · rename_i short
    simp only [Except.toOption,Option.map_none,Option.getD_none,Fin.val_zero,lt_irrefl,false_iff]
    exact fun pays => absurd pays.enough (not_le.mpr short.2)
  · rename_i sent
    simp only [Except.toOption,Option.map_some,Option.getD_some]
    constructor
    · intro positive
      exact ⟨positive,not_lt.mp (fun short => sent ⟨positive,short⟩)⟩
    · intro pays
      exact pays.positive

theorem convert_of_pays {converted : IcHttpRequest} (pays : accounting.Pays canhttp available converted) :
    ∃ charged, accounting.convert canhttp available converted = .ok charged := by
  simp only [CyclesAccounting.convert]
  rw [if_neg (fun short => absurd pays.enough (not_le.mpr short.2))]
  exact ⟨_,rfl⟩

theorem sent_attempted : (attempted http canhttp accounting method retry available counter host request).sent =
    match serviceRequestBuilder http canhttp (numbered retry counter request) with
    | .error error => .error error
    | .ok converted => accounting.convert canhttp available converted := rfl

theorem accepted_pos_iff :
    0 < (attempted http canhttp accounting method retry available counter host request).accepted ↔
      ∃ converted, serviceRequestBuilder http canhttp (numbered retry counter request) = .ok converted ∧
        accounting.Pays canhttp available converted := by
  rw [Started.accepted,sent_attempted]
  cases serviceRequestBuilder http canhttp (numbered retry counter request) with
  | error error => simp [Except.toOption]
  | ok converted =>
    simp only [convert_accepts]
    simp

end Prices

section Paid
variable {M : Type} {platform : Platform M} {accounting : CyclesAccounting} {journal : List AttemptEvent}

theorem Genuine.accepted_pos_iff (genuine : Genuine platform accounting journal) {started : Started}
    (inside : .began started ∈ journal) : 0 < started.accepted ↔ started.Paid platform accounting := by
  constructor
  · intro paid
    obtain ⟨method,retry,available,counter,host,request,rfl⟩ := genuine started inside
    obtain ⟨converted,built,pays⟩ := EvmRpc.accepted_pos_iff.mp paid
    exact ⟨_,_,_,_,_,_,converted,rfl,built,pays⟩
  · rintro ⟨_,_,_,_,_,_,converted,rfl,built,pays⟩
    exact EvmRpc.accepted_pos_iff.mpr ⟨converted,built,pays⟩

private theorem acceptedAt_eq_zero_iff : (∀ key, acceptedAt key journal = 0) ↔
    ∀ started, .began started ∈ journal → started.accepted = 0 := by
  constructor
  · intro none started inside
    have zero := List.sum_eq_zero_iff.mp (none started.data.key) _ (List.mem_map_of_mem inside)
    simpa [AttemptEvent.acceptedAt] using zero
  · intro free key
    refine List.sum_eq_zero_iff.mpr (fun amount inside => ?_)
    obtain ⟨event,present,rfl⟩ := List.mem_map.mp inside
    cases event with
    | began started => simp [AttemptEvent.acceptedAt,free started present]
    | ended data outcome => rfl

theorem Genuine.nil : Genuine platform accounting [] := fun _ inside => absurd inside List.not_mem_nil

theorem Genuine.append (genuine : Genuine platform accounting journal) {events : List AttemptEvent}
    (later : Genuine platform accounting events) : Genuine platform accounting (journal ++ events) := by
  intro started inside
  rcases List.mem_append.mp inside with before | new
  · exact genuine started before
  · exact later started new

theorem Genuine.ended (genuine : Genuine platform accounting journal) (data : MetricData)
    (outcome : Except HttpClientError UInt16) : Genuine platform accounting (journal ++ [.ended data outcome]) := by
  refine genuine.append (fun started inside => ?_)
  cases List.mem_singleton.mp inside

theorem Genuine.began (genuine : Genuine platform accounting journal) (method : MetricRpcMethod) (retry : Bool)
    (available : U128) (counter : UInt64) (host : String) (request : HttpJsonRpcRequest) :
    Genuine platform accounting (journal ++
      [.began (attempted platform.http platform.canhttp accounting method retry available counter host request)]) := by
  refine genuine.append (fun started inside => ?_)
  cases List.mem_singleton.mp inside
  exact ⟨method,retry,available,counter,host,request,rfl⟩

end Paid

/-- All attempts were made with the accounting that the memory asks for, and the counter of
charges has no entries. -/
structure Unpublished {M : Type} (platform : Platform M) (accounting : CyclesAccounting) (journal : List AttemptEvent)
    (memory : Memory M) : Prop where
  genuine : Genuine platform accounting journal
  settings : CyclesAccounting.ofMemory memory = accounting
  empty : memory.metrics.cyclesCharged = ∅

section Calls
variable {M : Type} {platform : Platform M} {accounting : CyclesAccounting} {method : RpcMethod} {service : RpcService}
  {request : HttpJsonRpcRequest} {requests : List (RpcService × HttpJsonRpcRequest)} {call next : EthCall method}
  {memory after : Memory M}

theorem Memory.Counted.settings (counted : memory.Counted after) :
    CyclesAccounting.ofMemory after = CyclesAccounting.ofMemory memory := by
  obtain ⟨_,_,rfl⟩ := counted
  rfl

theorem observe_cyclesCharged {canhttp : Canhttp} {α : Type} (data : MetricData)
    (outcome : Except HttpClientError (UInt16 × Except ServerError α)) (memory : Memory M) :
    (observe canhttp data outcome memory).metrics.cyclesCharged = memory.metrics.cyclesCharged := by
  rw [observe_metrics,AttemptEvent.counted]
  cases OutcomeKey.of canhttp data (outcome.map Prod.fst) with
  | none => rfl
  | some key => cases key <;> rfl

theorem Unpublished.observed {α : Type} {journal : List AttemptEvent}
    (unpublished : Unpublished platform accounting journal memory) (data : MetricData)
    (outcome : Except HttpClientError (UInt16 × Except ServerError α)) (ended : Except HttpClientError UInt16) :
    Unpublished platform accounting (journal ++ [.ended data ended]) (observe platform.canhttp data outcome memory) :=
  ⟨unpublished.genuine.ended data ended,(observe_counted data outcome memory).settings.trans unpublished.settings,
    (observe_cyclesCharged data outcome memory).trans unpublished.empty⟩

theorem Unpublished.requested {journal : List AttemptEvent} (unpublished : Unpublished platform accounting journal memory)
    (method : MetricRpcMethod) (retry : Bool) (available : U128) (counter : UInt64) (host : String)
    (request : HttpJsonRpcRequest) :
    Unpublished platform accounting (journal ++
      [.began (attempted platform.http platform.canhttp accounting method retry available counter host request)])
      (memory.requested method retry host) :=
  ⟨unpublished.genuine.began method retry available counter host request,unpublished.settings,unpublished.empty⟩

theorem launch_unpublished (own : call.accounting = accounting)
    (unpublished : Unpublished platform accounting call.journal memory)
    (launched : launch platform service request call memory = .done (next,after)) :
    next.accounting = accounting ∧ Unpublished platform accounting next.journal after := by
  subst accounting
  obtain ⟨started,middle,begun,⟨charged,_,rfl,rfl⟩ | ⟨error,_,rfl,rfl⟩⟩ := launch_cases launched
  · obtain ⟨host,_,rfl,rfl⟩ := startAttempt_eq_done begun
    exact ⟨rfl,unpublished.requested _ _ _ _ _ _⟩
  · obtain ⟨host,_,rfl,rfl⟩ := startAttempt_eq_done begun
    exact ⟨rfl,(unpublished.requested _ _ _ _ _ _).observed _ _ _⟩

theorem launchAll_unpublished (own : call.accounting = accounting)
    (unpublished : Unpublished platform accounting call.journal memory)
    (launched : launchAll platform requests call memory = .done (next,after)) :
    next.accounting = accounting ∧ Unpublished platform accounting next.journal after := by
  induction requests generalizing call memory with
  | nil =>
    cases launched
    exact ⟨own,unpublished⟩
  | cons entry requests ih =>
    rw [launchAll,List.foldlM_cons] at launched
    obtain ⟨⟨middle,between⟩,first,rest⟩ := Outcome.bind_eq_done.mp launched
    obtain ⟨kept,still⟩ := launch_unpublished own unpublished first
    exact ih kept still rest

theorem receiveReply_unpublished (own : call.accounting = accounting)
    (unpublished : Unpublished platform accounting call.journal memory) {reply : Except IcError HttpResponse}
    (received : receiveReply platform service reply call memory = .done (next,after)) :
    next.accounting = accounting ∧ Unpublished platform accounting next.journal after := by
  unfold receiveReply at received
  split at received
  · cases received
    exact ⟨own,unpublished⟩
  · rename_i attempt waiting
    have ended (outcome : Except HttpClientError (UInt16 × Except ServerError method.JsonType)) :
        Unpublished platform accounting
          ((call.forget service).note (.ended attempt.started.data (outcome.map Prod.fst))).journal
          (observe platform.canhttp attempt.started.data outcome memory) := unpublished.observed _ _ _
    simp only at received
    split at received
    · refine launch_unpublished ?_ (ended _) received
      exact own
    · cases received
      exact ⟨own,ended _⟩

end Calls

namespace Canister
variable {M : Type}

/-- Neither the canister nor its open calls have published what was charged. -/
structure Silent (platform : Platform M) (accounting : CyclesAccounting) (canister : Canister M) : Prop where
  unpublished : Unpublished platform accounting canister.journal canister.memory
  opened : ∀ id method call, canister.calls id = some (.eth method call) →
    call.accounting = accounting ∧ Genuine platform accounting call.journal

section Runs
variable {platform : Platform M} {accounting : CyclesAccounting} {canister next : Canister M} {now : Timestamp}
  {event : Event}

theorem Silent.withCall (silent : canister.Silent platform accounting) {journal : List AttemptEvent} {memory : Memory M}
    (unpublished : Unpublished platform accounting journal memory) (id later : ℕ) (opened : Option OpenCall)
    (fine : ∀ method call, opened = some (.eth method call) →
      call.accounting = accounting ∧ Genuine platform accounting call.journal) (completed : List Completion) :
    Silent platform accounting ⟨memory,Function.update canister.calls id opened,later,completed,journal⟩ :=
  ⟨unpublished,forall_eth_update silent.opened fine id⟩

theorem proceed_silent (silent : canister.Silent platform accounting) {id later : ℕ} {method : RpcMethod}
    {call : EthCall method} {memory : Memory M} (own : call.accounting = accounting)
    (unpublished : Unpublished platform accounting call.journal memory)
    (proceeded : proceed platform now id call memory {canister with nextCall := later} = .done next) :
    next.Silent platform accounting := by
  have genuine := silent.unpublished.genuine.append unpublished.genuine
  unfold proceed at proceeded
  simp only at proceeded
  split at proceeded
  · obtain ⟨⟨results,after⟩,collected,proceeded⟩ := Outcome.bind_eq_done.mp proceeded
    cases proceeded
    obtain ⟨usage,rfl⟩ := collectResults_eq collected
    refine silent.withCall ⟨genuine,?_,?_⟩ id later none (by simp) _
    · exact unpublished.settings
    · obtain ⟨counters,written⟩ := call.client.reply_eq (platform.reduce method) platform.url
        call.transactionHash results memory.metrics
      rw [written]
      exact unpublished.empty
  · cases proceeded
    refine silent.withCall ⟨genuine,unpublished.settings,unpublished.empty⟩ id later _ ?_ _
    intro other found same
    cases same
    exact ⟨own,.nil⟩

theorem requestCall_silent (silent : canister.Silent platform accounting) {service : RpcService} {jsonRpcPayload : String}
    {maxResponseBytes : UInt64} {available : U128}
    (taken : canister.requestCall platform service jsonRpcPayload maxResponseBytes available = .done next) :
    next.Silent platform accounting := by
  have unpublished := silent.unpublished
  obtain rfl | ⟨host,request,started,rfl,⟨charged,_,rfl⟩ | ⟨error,_,rfl⟩⟩ := requestCall_cases taken
  · exact silent
  · rw [unpublished.settings]
    exact silent.withCall (unpublished.requested _ _ _ _ _ _) _ _ (some (.request _)) (by simp) _
  · rw [unpublished.settings]
    refine ⟨?_,silent.opened⟩
    have both := (unpublished.requested ⟨"request"⟩ false available canister.memory.httpRequestCounter host
      request).observed (α := Json) (attempted platform.http platform.canhttp accounting ⟨"request"⟩ false available
        canister.memory.httpRequestCounter host request).data (.error error) (.error error)
    rw [List.append_assoc] at both
    exact both

/-- No message publishes a charge. -/
theorem step_silent (silent : canister.Silent platform accounting) (taken : canister.step platform event = .done next) :
    next.Silent platform accounting := by
  obtain ⟨genuine,settings,empty⟩ := silent.unpublished
  obtain ⟨time,message⟩ := event
  cases message with
  | ethCall source config method transactionHash params available =>
    obtain ⟨_,usage,_,rfl | ⟨client,params,size,call,memory,_,_,begun,taken⟩⟩ := ethCall_cases taken
    · exact ⟨⟨genuine,settings,empty⟩,silent.opened⟩
    · obtain ⟨requests,_,launched⟩ := Outcome.bind_eq_done.mp begun
      have before : Unpublished platform accounting [] {canister.memory with okResultsTimestamps := usage} :=
        ⟨.nil,settings,empty⟩
      obtain ⟨own,unpublished⟩ := launchAll_unpublished settings before launched
      exact proceed_silent silent own unpublished taken
  | ethReply id service reply =>
    obtain rfl | ⟨method,call,further,memory,found,received,taken⟩ := ethReply_cases taken
    · exact silent
    · obtain ⟨own,earlier⟩ := silent.opened id method call found
      obtain ⟨kept,unpublished⟩ := receiveReply_unpublished own ⟨earlier,settings,empty⟩ received
      exact proceed_silent silent kept unpublished taken
  | request service jsonRpcPayload maxResponseBytes available => exact requestCall_silent silent taken
  | requestReply id reply =>
    obtain rfl | ⟨started,_,rfl⟩ := requestReply_cases taken
    · exact silent
    · exact silent.withCall (silent.unpublished.observed _ _ _) id _ none (by simp) _
  | updateApiKeys caller isController apiKeys =>
    obtain ⟨memory,updated,taken⟩ := Outcome.bind_eq_done.mp taken
    cases taken
    obtain ⟨_,_,rfl⟩ := updateApiKeys_eq_done.mp updated
    exact ⟨⟨genuine,settings,empty⟩,silent.opened⟩

theorem run_silent (platform : Platform M) (memory : Memory M) (events : List Event) :
    (Runs.run (step platform) (initial platform memory) events).Silent platform (.ofMemory memory) := by
  refine Runs.invariant _ (Silent platform (.ofMemory memory)) _ ?_ (fun _ _ _ before taken => step_silent before taken)
    events
  exact ⟨⟨.nil,rfl,rfl⟩,fun id method call found => absurd found (initial_unused platform memory id _)⟩

theorem Silent.accounted_iff (silent : canister.Silent platform accounting) : canister.CyclesAccounted ↔
    ∀ started, .began started ∈ canister.journal → ¬ started.Paid platform accounting := by
  have counter : canister.CyclesAccounted ↔ ∀ key, acceptedAt key canister.journal = 0 := by
    unfold CyclesAccounted
    rw [silent.unpublished.empty]
    exact forall_congr' (fun key => eq_comm)
  rw [counter,acceptedAt_eq_zero_iff]
  refine forall_congr' (fun started => forall_congr' (fun inside => ?_))
  rw [← silent.unpublished.genuine.accepted_pos_iff inside,not_lt,Nat.le_zero]

theorem run_in_demo_accounted (platform : Platform M) {memory : Memory M} (demo : memory.isDemoActive = true)
    (events : List Event) : (Runs.run (step platform) (initial platform memory) events).CyclesAccounted := by
  rw [(run_silent platform memory events).accounted_iff]
  rintro started _ ⟨_,_,_,_,_,_,_,_,_,pays⟩
  have charges := pays.charges
  simp [CyclesAccounting.ofMemory,ChargingPolicyWithCollateral.default,ChargingPolicyWithCollateral.new,demo] at charges

end Runs
end Canister

/-- The charges of a run are accounted for exactly when nobody has paid for an attempt of it,
at the prices of the configured canister. -/
theorem cyclesAccounted_iff {M : Type} (platform : Platform M) (memory : Memory M) (events : List Event) :
    let canister := Runs.run (Canister.step platform) (.initial platform memory) events
    canister.CyclesAccounted ↔
      ∀ started, .began started ∈ canister.journal → ¬ started.Paid platform (.ofMemory memory) :=
  (Canister.run_silent platform memory events).accounted_iff

private theorem pays_gasPrice (converted : IcHttpRequest) :
    (CyclesAccounting.ofMemory (Memory.fresh ReferenceTimedMap.reference)).Pays .reference U128.MAX converted := by
  have collateral : 0 < (ChargingPolicyWithCollateral.default (Memory.fresh
      ReferenceTimedMap.reference)).collateralCycles := by decide
  exact ⟨lt_of_lt_of_le collateral (collateral_le_charge rfl _),Fin.le_last _⟩

/-- The one request of a caller who attached all the cycles there can be is paid for. -/
theorem Canister.step_gasPrice : ∃ started next,
    Canister.step .reference (.initial .reference (.fresh ReferenceTimedMap.reference))
      ⟨1,.request (.custom ⟨"https://rpc.test",none⟩) gasPrice.body.text 1000 U128.MAX⟩ = .done next ∧
    started.Paid Platform.reference (.ofMemory (.fresh ReferenceTimedMap.reference)) ∧ started.data = ⟨⟨"request"⟩,⟨"rpc.test"⟩,.number 1⟩ ∧
    next.journal = [.began started] ∧ next.calls 0 = some (.request started) := by
  obtain ⟨converted,built⟩ := serviceRequestBuilder_gasPrice
  have pays := pays_gasPrice converted
  obtain ⟨charged,accepted⟩ := convert_of_pays pays
  have original : (Canister.initial .reference (.fresh ReferenceTimedMap.reference)).memory.overrideProvider =
      .default := rfl
  have begun := request_gasPrice original Platform.reference.regex U128.MAX
  have sent : (attempted .reference .reference
      (.ofMemory (Canister.initial .reference (.fresh ReferenceTimedMap.reference)).memory) ⟨"request"⟩ false U128.MAX 0
      "rpc.test" gasPrice).sent = .ok charged := by
    rw [sent_attempted,numbered,if_neg Bool.false_ne_true,built]
    exact accepted
  exact ⟨_,_,@Canister.requestCall_of_sent _ .reference _ _ _ _ _ _ _ begun _ sent,
    ⟨_,false,U128.MAX,0,"rpc.test",gasPrice,converted,rfl,built,pays⟩,rfl,rfl,rfl⟩

/-- What is charged for a request leaves no trace in the counter. -/
theorem charge_is_not_published :
    ¬ (Runs.run (Canister.step .reference) (.initial .reference (.fresh ReferenceTimedMap.reference))
      [⟨1,.request (.custom ⟨"https://rpc.test",none⟩) gasPrice.body.text 1000 U128.MAX⟩]).CyclesAccounted := by
  obtain ⟨started,next,taken,paid,_,journal,_⟩ := Canister.step_gasPrice
  rw [(Canister.run_silent .reference _ _).accounted_iff,Runs.run_singleton,Runs.advance_done _ taken,journal]
  intro free
  exact free started (List.mem_singleton_self _) paid

end EvmRpc
