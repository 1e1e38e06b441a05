import EvmRpc.Library.Tally
import EvmRpc.Canister.Calls

/-! What the counters say about the attempts of a run: how many were started, how each
of them ended, and how many are still in flight. -/
namespace EvmRpc
open Library

inductive OutcomeKey where
  | response (key : MetricRpcMethod × MetricRpcHost × MetricHttpStatusCode)
  | httpOutcall (key : MetricRpcMethod × MetricRpcHost × LegacyRejectionCode)
  | maxResponseSizeExceeded (key : MetricRpcMethod × MetricRpcHost)
  deriving DecidableEq

/-- The counter for an outcome. Requests that never left the canister have none. -/
def OutcomeKey.of (canhttp : Canhttp) (data : MetricData) : Except HttpClientError UInt16 → Option OutcomeKey
  | .ok status => some (.response (data.method,data.host,⟨toString status.toNat⟩))
  | .error (.icError error) =>
    if canhttp.tooLarge error then some (.maxResponseSizeExceeded (data.method,data.host))
    else some (.httpOutcall (data.method,data.host,.ofRejectCode error.code))
  | .error (.unsuccessfulHttpResponse status _) => some (.response (data.method,data.host,⟨toString status.toNat⟩))
  | .error (.invalidJsonResponse status _ _) => some (.response (data.method,data.host,⟨toString status.toNat⟩))
  | .error (.invalidJsonResponseId status _ _) => some (.response (data.method,data.host,⟨toString status.toNat⟩))
  | .error (.notHandledError _) => none
  | .error (.cyclesAccountingError _ _) => none

def MetricData.key (data : MetricData) : MetricRpcMethod × MetricRpcHost := (data.method,data.host)

namespace OutcomeKey

def labels : OutcomeKey → MetricRpcMethod × MetricRpcHost
  | .response key => (key.1,key.2.1)
  | .httpOutcall key => (key.1,key.2.1)
  | .maxResponseSizeExceeded key => key

def asResponse : OutcomeKey → Option (MetricRpcMethod × MetricRpcHost × MetricHttpStatusCode)
  | .response key => some key
  | _ => none

def asHttpOutcall : OutcomeKey → Option (MetricRpcMethod × MetricRpcHost × LegacyRejectionCode)
  | .httpOutcall key => some key
  | _ => none

def asMaxResponseSizeExceeded : OutcomeKey → Option (MetricRpcMethod × MetricRpcHost)
  | .maxResponseSizeExceeded key => some key
  | _ => none

def add (metrics : Metrics) : OutcomeKey → Metrics
  | .response key => {metrics with responses := addMetricEntry metrics.responses key 1}
  | .httpOutcall key => {metrics with errHttpOutcall := addMetricEntry metrics.errHttpOutcall key 1}
  | .maxResponseSizeExceeded key =>
    {metrics with errMaxResponseSizeExceeded := addMetricEntry metrics.errMaxResponseSizeExceeded key 1}

end OutcomeKey

namespace AttemptEvent

def started : AttemptEvent → Option MetricData
  | .began started => some started.data
  | .ended _ _ => none

def finished : AttemptEvent → Option MetricData
  | .began _ => none
  | .ended data _ => some data

def requestKey (event : AttemptEvent) : Option (MetricRpcMethod × MetricRpcHost) := event.started.map MetricData.key

def outcomeKey (canhttp : Canhttp) : AttemptEvent → Option OutcomeKey
  | .began _ => none
  | .ended data outcome => OutcomeKey.of canhttp data outcome

/-- The labels of an attempt that ended without a counter for its outcome. -/
def uncountedKey (canhttp : Canhttp) : AttemptEvent → Option (MetricRpcMethod × MetricRpcHost)
  | .began _ => none
  | .ended data outcome => if (OutcomeKey.of canhttp data outcome).isSome then none else some data.key

def counted (canhttp : Canhttp) (metrics : Metrics) : AttemptEvent → Metrics
  | .began started => {metrics with requests := addMetricEntry metrics.requests started.data.key 1}
  | .ended data outcome => ((OutcomeKey.of canhttp data outcome).map (OutcomeKey.add metrics)).getD metrics

end AttemptEvent

/-- The four counters of attempts are tallies of what attempts did. -/
structure Follows (canhttp : Canhttp) (journal : List AttemptEvent) (metrics : Metrics) : Prop where
  requests : metrics.requests = Tally.of (journal.filterMap AttemptEvent.requestKey)
  responses : metrics.responses =
    Tally.of (journal.filterMap (fun event => (event.outcomeKey canhttp).bind OutcomeKey.asResponse))
  errHttpOutcall : metrics.errHttpOutcall =
    Tally.of (journal.filterMap (fun event => (event.outcomeKey canhttp).bind OutcomeKey.asHttpOutcall))
  errMaxResponseSizeExceeded : metrics.errMaxResponseSizeExceeded =
    Tally.of (journal.filterMap (fun event => (event.outcomeKey canhttp).bind OutcomeKey.asMaxResponseSizeExceeded))

section Counting
variable {canhttp : Canhttp} {journal : List AttemptEvent} {metrics : Metrics} {event : AttemptEvent}

theorem addMetricEntry_one {κ : Type} [DecidableEq κ] (counters : Counters κ UInt64) (key : κ) :
    addMetricEntry counters key 1 = Tally.increment counters key := by
  rw [addMetricEntry,if_pos (by decide),Tally.increment]
  cases counters.lookup key <;> rfl

private theorem tally_of_none {κ : Type} [DecidableEq κ] {f : AttemptEvent → Option κ} {counters : Counters κ UInt64}
    (same : counters = Tally.of (journal.filterMap f)) (silent : f event = none) :
    counters = Tally.of ((journal ++ [event]).filterMap f) := by
  rw [same,List.filterMap_append,List.filterMap_cons_none silent,List.filterMap_nil,List.append_nil]

private theorem tally_of_some {κ : Type} [DecidableEq κ] {f : AttemptEvent → Option κ} {counters : Counters κ UInt64}
    (same : counters = Tally.of (journal.filterMap f)) {key : κ} (shown : f event = some key) :
    addMetricEntry counters key 1 = Tally.of ((journal ++ [event]).filterMap f) := by
  rw [same,addMetricEntry_one,List.filterMap_append,List.filterMap_cons_some shown,List.filterMap_nil,
    Tally.of_append_singleton]

theorem Follows.counted (follows : Follows canhttp journal metrics) (event : AttemptEvent) :
    Follows canhttp (journal ++ [event]) (event.counted canhttp metrics) := by
  obtain ⟨requests,responses,outcalls,sizes⟩ := follows
  cases event with
  | began started =>
    exact ⟨tally_of_some requests rfl,tally_of_none responses rfl,tally_of_none outcalls rfl,tally_of_none sizes rfl⟩
  | ended data outcome =>
    simp only [AttemptEvent.counted]
    cases shown : OutcomeKey.of canhttp data outcome with
    | none =>
      exact ⟨tally_of_none requests rfl,tally_of_none responses (by simp [AttemptEvent.outcomeKey,shown]),
        tally_of_none outcalls (by simp [AttemptEvent.outcomeKey,shown]),
        tally_of_none sizes (by simp [AttemptEvent.outcomeKey,shown])⟩
    | some key =>
      have own : (AttemptEvent.ended data outcome).outcomeKey canhttp = some key := shown
      cases key with
      | response key =>
        exact ⟨tally_of_none requests rfl,tally_of_some responses (by rw [own]; rfl),
          tally_of_none outcalls (by rw [own]; rfl),tally_of_none sizes (by rw [own]; rfl)⟩
      | httpOutcall key =>
        exact ⟨tally_of_none requests rfl,tally_of_none responses (by rw [own]; rfl),
          tally_of_some outcalls (by rw [own]; rfl),tally_of_none sizes (by rw [own]; rfl)⟩
      | maxResponseSizeExceeded key =>
        exact ⟨tally_of_none requests rfl,tally_of_none responses (by rw [own]; rfl),
          tally_of_none outcalls (by rw [own]; rfl),tally_of_some sizes (by rw [own]; rfl)⟩

theorem Follows.all (follows : Follows canhttp journal metrics) (events : List AttemptEvent) :
    Follows canhttp (journal ++ events) (events.foldl (AttemptEvent.counted canhttp) metrics) := by
  induction events generalizing journal metrics with
  | nil => simpa using follows
  | cons event events ih => simpa using ih (follows.counted event)

theorem observe_metrics {M α : Type} (data : MetricData)
    (outcome : Except HttpClientError (UInt16 × Except ServerError α)) (memory : Memory M) :
    (observe canhttp data outcome memory).metrics =
      (AttemptEvent.ended data (outcome.map Prod.fst)).counted canhttp memory.metrics := by
  cases outcome with
  | ok response => rfl
  | error error =>
    cases error with
    | icError error =>
      by_cases large : canhttp.tooLarge error = true
      · simp [observe,onError,AttemptEvent.counted,OutcomeKey.of,OutcomeKey.add,Except.map,large]
      · simp [observe,onError,AttemptEvent.counted,OutcomeKey.of,OutcomeKey.add,Except.map,large]
    | notHandledError message => rfl
    | cyclesAccountingError expected received => rfl
    | unsuccessfulHttpResponse status body => rfl
    | invalidJsonResponse status body parsingError => rfl
    | invalidJsonResponseId status requestId responseId => rfl

end Counting

def startedAttempts (journal : List AttemptEvent) : List MetricData := journal.filterMap AttemptEvent.started

def finishedAttempts (journal : List AttemptEvent) : List MetricData := journal.filterMap AttemptEvent.finished

def EthCall.flying {method : RpcMethod} (call : EthCall method) : List MetricData :=
  call.pending.map (fun entry => entry.2.started.data)

/-- A call that went on: what its attempts did is counted, and those that were started are the
ones that have ended and the ones in flight. -/
def EthCall.GoesOn {method : RpcMethod} (canhttp : Canhttp) (call next : EthCall method) (metrics after : Metrics) :
    Prop :=
  ∃ events, next.journal = call.journal ++ events ∧
    after = events.foldl (AttemptEvent.counted canhttp) metrics ∧
    (startedAttempts events ++ call.flying).Perm (finishedAttempts events ++ next.flying)

section Calls
variable {M : Type} {platform : Platform M} {method : RpcMethod} {service : RpcService} {request : HttpJsonRpcRequest}
  {requests : List (RpcService × HttpJsonRpcRequest)} {call next : EthCall method} {memory after : Memory M}

theorem EthCall.GoesOn.refl (call : EthCall method) (metrics : Metrics) :
    call.GoesOn platform.canhttp call metrics metrics := ⟨[],(List.append_nil _).symm,rfl,List.Perm.refl _⟩

theorem EthCall.GoesOn.trans {canhttp : Canhttp} {middle : EthCall method} {metrics between last : Metrics}
    (first : call.GoesOn canhttp middle metrics between) (second : middle.GoesOn canhttp next between last) :
    call.GoesOn canhttp next metrics last := by
  obtain ⟨events,written,rfl,balance⟩ := first
  obtain ⟨later,written',rfl,balance'⟩ := second
  refine ⟨events ++ later,by rw [written',written,List.append_assoc],by rw [List.foldl_append],?_⟩
  rw [List.perm_iff_count] at balance balance' ⊢
  intro data
  have first := balance data
  have second := balance' data
  simp only [startedAttempts,finishedAttempts,List.filterMap_append,List.count_append] at first second ⊢
  omega

theorem launch_goesOn (launched : launch platform service request call memory = .done (next,after)) :
    call.GoesOn platform.canhttp next memory.metrics after.metrics := by
  obtain ⟨started,middle,begun,⟨charged,_,rfl,rfl⟩ | ⟨error,_,rfl,rfl⟩⟩ := launch_cases launched
  · obtain ⟨host,_,same,rfl⟩ := startAttempt_eq_done begun
    refine ⟨[.began started],rfl,by rw [same]; rfl,?_⟩
    simp only [EthCall.flying,List.map_append,List.map_cons,List.map_nil]
    exact List.perm_append_comm
  · obtain ⟨host,_,same,rfl⟩ := startAttempt_eq_done begun
    refine ⟨[.began started,.ended started.data (.error error)],by simp [EthCall.settle,EthCall.note],?_,
      List.Perm.refl _⟩
    rw [observe_metrics,same]
    rfl

theorem launchAll_goesOn (launched : launchAll platform requests call memory = .done (next,after)) :
    call.GoesOn platform.canhttp next memory.metrics after.metrics := by
  induction requests generalizing call memory with
  | nil =>
    cases launched
    exact .refl _ _
  | cons entry requests ih =>
    rw [launchAll,List.foldlM_cons] at launched
    obtain ⟨⟨middle,between⟩,first,rest⟩ := Outcome.bind_eq_done.mp launched
    exact (launch_goesOn first).trans (ih rest)

private theorem perm_cons_filter {κ α : Type} [DecidableEq κ] {entries : List (κ × α)} {key : κ} {value : α}
    (distinct : (entries.map Prod.fst).Nodup) (inside : (key,value) ∈ entries) :
    entries.Perm ((key,value)::entries.filter (fun entry => entry.1 ≠ key)) := by
  induction entries with
  | nil => cases inside
  | cons first entries ih =>
    obtain ⟨fresh,distinct⟩ := List.nodup_cons.mp distinct
    rcases List.mem_cons.mp inside with rfl | later
    · rw [List.filter_cons_of_neg (by simp),List.filter_eq_self.mpr]
      intro entry present
      have apart : entry.1 ≠ key := fun same => fresh (List.mem_map.mpr ⟨entry,present,same⟩)
      simpa using apart
    · have apart : first.1 ≠ key := fun same => fresh (List.mem_map.mpr ⟨_,later,same.symm⟩)
      rw [List.filter_cons_of_pos (by simpa using apart)]
      exact ((ih distinct later).cons first).trans (List.Perm.swap ..)

theorem receiveReply_goesOn (wellFormed : call.WellFormed) {reply : Except IcError HttpResponse}
    (received : receiveReply platform service reply call memory = .done (next,after)) :
    call.GoesOn platform.canhttp next memory.metrics after.metrics := by
  by_cases present : service ∈ call.pending.map Prod.fst
  · obtain ⟨attempt,waiting⟩ : ∃ attempt, (service,attempt) ∈ call.pending := by simpa using present
    have ended : call.GoesOn platform.canhttp (afterAttempt platform service attempt reply call memory).1
        memory.metrics (afterAttempt platform service attempt reply call memory).2.metrics := by
      refine ⟨[.ended attempt.started.data ((replyOutcome platform method attempt reply).map Prod.fst)],rfl,
        observe_metrics _ _ _,?_⟩
      exact (perm_cons_filter wellFormed.pending waiting).map (fun entry => entry.2.started.data)
    rw [receiveReply_of_pending wellFormed.pending waiting] at received
    simp only at received
    split at received
    · exact ended.trans (launch_goesOn received)
    · cases received
      exact ended
  · rw [receiveReply_of_absent present] at received
    cases received
    exact .refl call memory.metrics

end Calls

/-- What open calls have in all, before and after one of them is replaced. -/
theorem gathered_update {α : Type} (gathered : OpenCall → List α) {calls : ℕ → Option OpenCall} {size later id : ℕ}
    (unused : ∀ i, size ≤ i → calls i = none) (inside : id < later) (bound : size ≤ later) (opened : Option OpenCall) :
    ∃ rest, ((List.range size).flatMap (fun i => ((calls i).map gathered).getD [])).Perm
        (((calls id).map gathered).getD [] ++ rest) ∧
      ((List.range later).flatMap (fun i => ((Function.update calls id opened i).map gathered).getD [])).Perm
        ((opened.map gathered).getD [] ++ rest) := by
  obtain ⟨rest,before,after⟩ := @flatMap_range_update α (fun i => ((calls i).map gathered).getD [])
    (fun i => ((Function.update calls id opened i).map gathered).getD []) size later id inside bound
    (fun i free => by rw [unused i free]; rfl) (fun i apart => by rw [Function.update_of_ne apart])
  rw [Function.update_self] at after
  exact ⟨rest,before,after⟩

def OpenCall.flying : OpenCall → List MetricData
  | .eth _ call => call.flying
  | .request started => [started.data]

namespace Canister
variable {M : Type}

def flyingFor (canister : Canister M) (id : ℕ) : List MetricData := ((canister.calls id).map OpenCall.flying).getD []

def flying (canister : Canister M) : List MetricData := (List.range canister.nextCall).flatMap canister.flyingFor

/-- The counters follow the journal, and attempts that have not ended are in flight. -/
structure Balanced (canhttp : Canhttp) (canister : Canister M) : Prop where
  follows : Follows canhttp canister.journal canister.memory.metrics
  balance : (startedAttempts canister.journal).Perm (finishedAttempts canister.journal ++ canister.flying)
  unused : ∀ id, canister.nextCall ≤ id → canister.calls id = none
  opened : ∀ id method call, canister.calls id = some (.eth method call) → call.journal = [] ∧ call.WellFormed

section Balance
variable {platform : Platform M} {canister next : Canister M} {now : Timestamp} {event : Event}

theorem Balanced.moved {canhttp : Canhttp} (balanced : canister.Balanced canhttp) {id later : ℕ} (inside : id < later)
    (bound : canister.nextCall ≤ later) (opened : Option OpenCall) {events : List AttemptEvent} {memory : Memory M}
    (follows : Follows canhttp (canister.journal ++ events) memory.metrics)
    (moved : (startedAttempts events ++ canister.flyingFor id).Perm
      (finishedAttempts events ++ (opened.map OpenCall.flying).getD []))
    (fine : ∀ method call, opened = some (.eth method call) → call.journal = [] ∧ call.WellFormed)
    (completed : List Completion) :
    Balanced canhttp ⟨memory,Function.update canister.calls id opened,later,completed,canister.journal ++ events⟩ := by
  refine ⟨follows,?_,?_,forall_eth_update balanced.opened fine id⟩
  · obtain ⟨rest,before,after⟩ := gathered_update OpenCall.flying balanced.unused inside bound opened
    change (startedAttempts (canister.journal ++ events)).Perm (finishedAttempts (canister.journal ++ events) ++
      (List.range later).flatMap (fun i => ((Function.update canister.calls id opened i).map OpenCall.flying).getD []))
    change canister.flying.Perm (canister.flyingFor id ++ rest) at before
    have balance := balanced.balance
    rw [List.perm_iff_count] at balance before after moved ⊢
    intro data
    have first := balance data
    have second := before data
    have third := after data
    have fourth := moved data
    simp only [startedAttempts,finishedAttempts,List.filterMap_append,List.count_append] at first second third fourth ⊢
    omega
  · intro other unused
    have apart : other ≠ id := fun same => absurd (same ▸ unused) (Nat.not_le.mpr inside)
    simp only [Function.update_of_ne apart]
    exact balanced.unused other (le_trans bound unused)

theorem Balanced.settled {canhttp : Canhttp} (balanced : canister.Balanced canhttp) {events : List AttemptEvent}
    {memory : Memory M} (follows : Follows canhttp (canister.journal ++ events) memory.metrics)
    (moved : (startedAttempts events).Perm (finishedAttempts events)) :
    Balanced canhttp {canister.note events with memory := memory} := by
  refine ⟨follows,?_,balanced.unused,balanced.opened⟩
  have balance := balanced.balance
  change (startedAttempts (canister.journal ++ events)).Perm (finishedAttempts (canister.journal ++ events) ++
    canister.flying)
  rw [List.perm_iff_count] at balance moved ⊢
  intro data
  have first := balance data
  have second := moved data
  simp only [startedAttempts,finishedAttempts,List.filterMap_append,List.count_append] at first second ⊢
  omega

theorem Balanced.withMemory {canhttp : Canhttp} (balanced : canister.Balanced canhttp) {memory : Memory M}
    (follows : Follows canhttp canister.journal memory.metrics) :
    Balanced canhttp {canister with memory := memory} :=
  ⟨follows,balanced.balance,balanced.unused,balanced.opened⟩

theorem reply_follows {canhttp : Canhttp} {journal : List AttemptEvent} {metrics : Metrics} {method : RpcMethod}
    (follows : Follows canhttp journal metrics) (client : EthRpcClient) (transactionHash : Option Hex32)
    (results : CallResults method) : Follows canhttp journal
      (client.reply (platform.reduce method) platform.url transactionHash results metrics).2 := by
  obtain ⟨counters,written⟩ := client.reply_eq (platform.reduce method) platform.url transactionHash results metrics
  rw [written]
  exact ⟨follows.requests,follows.responses,follows.errHttpOutcall,follows.errMaxResponseSizeExceeded⟩

theorem proceed_balanced (balanced : canister.Balanced platform.canhttp) {id later : ℕ} (inside : id < later)
    (bound : canister.nextCall ≤ later) {method : RpcMethod} {call : EthCall method} {memory : Memory M}
    (wellFormed : call.WellFormed)
    (follows : Follows platform.canhttp (canister.journal ++ call.journal) memory.metrics)
    (moved : (startedAttempts call.journal ++ canister.flyingFor id).Perm
      (finishedAttempts call.journal ++ call.flying))
    (proceeded : proceed platform now id call memory {canister with nextCall := later} = .done next) :
    next.Balanced platform.canhttp := by
  unfold proceed at proceeded
  simp only at proceeded
  split at proceeded
  · rename_i complete
    obtain ⟨⟨results,after⟩,collected,proceeded⟩ := Outcome.bind_eq_done.mp proceeded
    cases proceeded
    have nothing : call.flying = [] := by simp [EthCall.flying,List.isEmpty_iff.mp complete]
    rw [nothing] at moved
    obtain ⟨usage,rfl⟩ := collectResults_eq collected
    exact balanced.moved inside bound none (reply_follows follows call.client call.transactionHash results) moved
      (by simp) _
  · cases proceeded
    refine balanced.moved inside bound (some (.eth method {call with journal := []})) follows moved ?_ _
    intro other found same
    cases same
    exact ⟨rfl,wellFormed.places,wellFormed.hosted⟩

theorem ethCall_balanced (balanced : canister.Balanced platform.canhttp) {source : RpcServices}
    {config : Option RpcConfig} {method : RpcMethod} {transactionHash : Option Hex32}
    {params : Except ValidationError Json} {available : U128}
    (taken : canister.ethCall platform now source config method transactionHash params available = .done next) :
    next.Balanced platform.canhttp := by
  obtain ⟨_,usage,_,rfl | ⟨client,params,size,call,memory,_,_,begun,taken⟩⟩ := ethCall_cases taken
  · exact balanced.withMemory balanced.follows
  · obtain ⟨_,_,_,_,_,_,_,wellFormed,_⟩ := parallelCall_eq_done begun
    obtain ⟨requests,_,launched⟩ := Outcome.bind_eq_done.mp begun
    obtain ⟨events,written,counted,moved⟩ := launchAll_goesOn launched
    obtain rfl : events = call.journal := by simpa using written.symm
    refine proceed_balanced balanced (Nat.lt_succ_self _) (Nat.le_succ _) wellFormed ?_ ?_ taken
    · rw [counted]
      exact balanced.follows.all _
    · simpa [flyingFor,balanced.unused,EthCall.flying] using moved

theorem Balanced.used (balanced : canister.Balanced platform.canhttp) {id : ℕ} {opened : OpenCall}
    (found : canister.calls id = some opened) : id < canister.nextCall := by
  by_contra unused
  cases found.symm.trans (balanced.unused id (Nat.not_lt.mp unused))

theorem ethReply_balanced (balanced : canister.Balanced platform.canhttp) {id : ℕ} {service : RpcService}
    {reply : Except IcError HttpResponse} (taken : canister.ethReply platform now id service reply = .done next) :
    next.Balanced platform.canhttp := by
  obtain rfl | ⟨method,call,further,memory,found,received,taken⟩ := ethReply_cases taken
  · exact balanced
  · obtain ⟨cleared,wellFormed⟩ := balanced.opened id method call found
    obtain ⟨events,written,counted,moved⟩ := receiveReply_goesOn wellFormed received
    obtain ⟨_,_,received',_,kept,_⟩ := @receiveReply_step _ platform _ _ wellFormed service reply canister.memory
    cases received.symm.trans received'
    obtain rfl : events = further.journal := by simpa [cleared] using written.symm
    refine proceed_balanced balanced (balanced.used found) le_rfl kept ?_ ?_ taken
    · rw [counted]
      exact balanced.follows.all _
    · simpa [flyingFor,found,OpenCall.flying] using moved

theorem requestCall_balanced (balanced : canister.Balanced platform.canhttp) {service : RpcService}
    {jsonRpcPayload : String} {maxResponseBytes : UInt64} {available : U128}
    (taken : canister.requestCall platform service jsonRpcPayload maxResponseBytes available = .done next) :
    next.Balanced platform.canhttp := by
  obtain rfl | ⟨host,request,started,rfl,⟨charged,_,rfl⟩ | ⟨error,_,rfl⟩⟩ := requestCall_cases taken
  · exact balanced
  · have nothing : canister.flyingFor canister.nextCall = [] := by simp [flyingFor,balanced.unused]
    refine balanced.moved (Nat.lt_succ_self _) (Nat.le_succ _) (some (.request _)) (balanced.follows.counted _) ?_
      (by simp) _
    rw [nothing]
    exact List.Perm.refl _
  · refine balanced.settled ?_ (List.Perm.refl _)
    rw [observe_metrics]
    exact balanced.follows.all [.began _,.ended _ (.error error)]

theorem step_balanced (balanced : canister.Balanced platform.canhttp) (taken : canister.step platform event = .done next) :
    next.Balanced platform.canhttp := by
  obtain ⟨time,message⟩ := event
  cases message with
  | ethCall source config method transactionHash params available => exact ethCall_balanced balanced taken
  | ethReply id service reply => exact ethReply_balanced balanced taken
  | request service jsonRpcPayload maxResponseBytes available => exact requestCall_balanced balanced taken
  | requestReply id reply =>
    obtain rfl | ⟨started,found,rfl⟩ := requestReply_cases taken
    · exact balanced
    · refine balanced.moved (balanced.used found) le_rfl none ?_ ?_ (by simp) _
      · rw [observe_metrics]
        exact balanced.follows.counted _
      · simp [startedAttempts,finishedAttempts,AttemptEvent.started,AttemptEvent.finished,flyingFor,found,
          OpenCall.flying]
  | updateApiKeys caller isController apiKeys =>
    obtain ⟨memory,updated,taken⟩ := Outcome.bind_eq_done.mp taken
    cases taken
    obtain ⟨_,_,rfl⟩ := updateApiKeys_eq_done.mp updated
    exact balanced.withMemory balanced.follows

theorem run_balanced (platform : Platform M) (memory : Memory M) (events : List Event) :
    (Runs.run (step platform) (initial platform memory) events).Balanced platform.canhttp := by
  refine Runs.invariant _ (Balanced platform.canhttp) _ ?_ (fun _ _ _ before taken => step_balanced before taken) events
  exact ⟨⟨rfl,rfl,rfl,rfl⟩,List.Perm.refl _,fun _ _ => rfl,
    fun id method call found => absurd found (initial_unused platform memory id _)⟩

end Balance
end Canister

section Totals
variable {canhttp : Canhttp} {key : MetricRpcMethod × MetricRpcHost} {journal : List AttemptEvent}

def attemptsAt (key : MetricRpcMethod × MetricRpcHost) (attempts : List MetricData) : ℕ :=
  attempts.countP (fun data => data.key = key)

def OutcomeKey.value (metrics : Metrics) : OutcomeKey → ℕ
  | .response key => Tally.count metrics.responses key
  | .httpOutcall key => Tally.count metrics.errHttpOutcall key
  | .maxResponseSizeExceeded key => Tally.count metrics.errMaxResponseSizeExceeded key

theorem OutcomeKey.labels_of {data : MetricData} {outcome : Except HttpClientError UInt16} {own : OutcomeKey}
    (shown : OutcomeKey.of canhttp data outcome = some own) : own.labels = data.key := by
  cases outcome with
  | ok status =>
    cases shown
    rfl
  | error error =>
    cases error with
    | icError error =>
      simp only [OutcomeKey.of] at shown
      split at shown
      · cases shown
        rfl
      · cases shown
        rfl
    | notHandledError message => cases shown
    | cyclesAccountingError expected received => cases shown
    | unsuccessfulHttpResponse status body =>
      cases shown
      rfl
    | invalidJsonResponse status body parsingError =>
      cases shown
      rfl
    | invalidJsonResponseId status requestId responseId =>
      cases shown
      rfl

theorem OutcomeKey.of_eq_none {data : MetricData} {outcome : Except HttpClientError UInt16} :
    OutcomeKey.of canhttp data outcome = none ↔
      (∃ message, outcome = .error (.notHandledError message)) ∨
      ∃ expected received, outcome = .error (.cyclesAccountingError expected received) := by
  cases outcome with
  | ok status => simp [OutcomeKey.of]
  | error error =>
    cases error with
    | icError error =>
      simp only [OutcomeKey.of]
      split <;> simp
    | _ => simp [OutcomeKey.of]

private theorem attemptsAt_finished (canhttp : Canhttp) (key : MetricRpcMethod × MetricRpcHost)
    (journal : List AttemptEvent) : attemptsAt key (finishedAttempts journal) =
      (journal.filterMap (AttemptEvent.outcomeKey canhttp)).countP (fun own => own.labels = key) +
      (journal.filterMap (AttemptEvent.uncountedKey canhttp)).countP (fun own => own = key) := by
  induction journal with
  | nil => rfl
  | cons event journal ih =>
    unfold attemptsAt finishedAttempts at ih ⊢
    cases event with
    | began started =>
      rw [List.filterMap_cons_none (rfl : (AttemptEvent.began started).finished = none),
        List.filterMap_cons_none (rfl : (AttemptEvent.began started).outcomeKey canhttp = none),
        List.filterMap_cons_none (rfl : (AttemptEvent.began started).uncountedKey canhttp = none)]
      exact ih
    | ended data outcome =>
      rw [List.filterMap_cons_some (rfl : (AttemptEvent.ended data outcome).finished = some data)]
      cases shown : OutcomeKey.of canhttp data outcome with
      | none =>
        have none' : (AttemptEvent.ended data outcome).outcomeKey canhttp = none := shown
        have own : (AttemptEvent.ended data outcome).uncountedKey canhttp = some data.key := by
          simp [AttemptEvent.uncountedKey,shown]
        rw [List.filterMap_cons_none none',List.filterMap_cons_some own,List.countP_cons,List.countP_cons,ih]
        by_cases same : data.key = key
        · simp [same,Nat.add_assoc]
        · simp [same]
      | some own =>
        have some' : (AttemptEvent.ended data outcome).outcomeKey canhttp = some own := shown
        have silent : (AttemptEvent.ended data outcome).uncountedKey canhttp = none := by
          simp [AttemptEvent.uncountedKey,shown]
        rw [List.filterMap_cons_some some',List.filterMap_cons_none silent,List.countP_cons,List.countP_cons,ih,
          OutcomeKey.labels_of shown]
        omega

open OutcomeKey in
private theorem countP_labels (keys : List OutcomeKey) (key : MetricRpcMethod × MetricRpcHost) :
    keys.countP (fun own => own.labels = key) =
      (keys.filterMap OutcomeKey.asResponse).countP (fun own => (own.1,own.2.1) = key) +
      (keys.filterMap OutcomeKey.asHttpOutcall).countP (fun own => (own.1,own.2.1) = key) +
      (keys.filterMap OutcomeKey.asMaxResponseSizeExceeded).countP (fun own => own = key) := by
  induction keys with
  | nil => rfl
  | cons own keys ih =>
    rw [List.countP_cons,ih]
    cases own with
    | response own =>
      rw [List.filterMap_cons_some (rfl : asResponse (.response own) = some own),
        List.filterMap_cons_none (rfl : asHttpOutcall (.response own) = none),
        List.filterMap_cons_none (rfl : asMaxResponseSizeExceeded (.response own) = none),List.countP_cons]
      by_cases same : (own.1,own.2.1) = key
      · simp only [labels,same,decide_true,if_true]
        omega
      · simp [labels,same]
    | httpOutcall own =>
      rw [List.filterMap_cons_none (rfl : asResponse (.httpOutcall own) = none),
        List.filterMap_cons_some (rfl : asHttpOutcall (.httpOutcall own) = some own),
        List.filterMap_cons_none (rfl : asMaxResponseSizeExceeded (.httpOutcall own) = none),List.countP_cons]
      by_cases same : (own.1,own.2.1) = key
      · simp only [labels,same,decide_true,if_true]
        omega
      · simp [labels,same]
    | maxResponseSizeExceeded own =>
      rw [List.filterMap_cons_none (rfl : asResponse (.maxResponseSizeExceeded own) = none),
        List.filterMap_cons_none (rfl : asHttpOutcall (.maxResponseSizeExceeded own) = none),
        List.filterMap_cons_some (rfl : asMaxResponseSizeExceeded (.maxResponseSizeExceeded own) = some own),
        List.countP_cons]
      by_cases same : own = key
      · simp [labels,same,Nat.add_assoc]
      · simp [labels,same]

private theorem countP_requestKey (journal : List AttemptEvent) (key : MetricRpcMethod × MetricRpcHost) :
    (journal.filterMap AttemptEvent.requestKey).countP (fun own => own = key) =
      attemptsAt key (startedAttempts journal) := by
  have names : journal.filterMap AttemptEvent.requestKey = (startedAttempts journal).map MetricData.key :=
    List.map_filterMap.symm
  rw [names,List.countP_map]
  rfl

open OutcomeKey in
private theorem countP_asKind (keys : List OutcomeKey) :
    (∀ key, (keys.filterMap asResponse).countP (fun own => own = key) =
      keys.countP (fun own => own = .response key)) ∧
    (∀ key, (keys.filterMap asHttpOutcall).countP (fun own => own = key) =
      keys.countP (fun own => own = .httpOutcall key)) ∧
    ∀ key, (keys.filterMap asMaxResponseSizeExceeded).countP (fun own => own = key) =
      keys.countP (fun own => own = .maxResponseSizeExceeded key) := by
  refine ⟨fun key => ?_,fun key => ?_,fun key => ?_⟩
  all_goals
    rw [List.countP_filterMap]
    refine List.countP_congr (fun own _ => ?_)
    cases own <;> simp [asResponse,asHttpOutcall,asMaxResponseSizeExceeded]

/-- The counters with the given labels are the attempts that they stand for. -/
structure CountersBalance {M : Type} (canhttp : Canhttp) (canister : Canister M)
    (key : MetricRpcMethod × MetricRpcHost) : Prop where
  started : Tally.count canister.memory.metrics.requests key = attemptsAt key (startedAttempts canister.journal)
  balance : Tally.count canister.memory.metrics.requests key =
    Tally.total canister.memory.metrics.responses (fun own => (own.1,own.2.1) = key) +
    Tally.total canister.memory.metrics.errHttpOutcall (fun own => (own.1,own.2.1) = key) +
    Tally.count canister.memory.metrics.errMaxResponseSizeExceeded key +
    (canister.journal.filterMap (AttemptEvent.uncountedKey canhttp)).countP (fun own => own = key) +
    attemptsAt key canister.flying
  outcomes : ∀ own : OutcomeKey, own.labels = key → own.value canister.memory.metrics =
    (canister.journal.filterMap (AttemptEvent.outcomeKey canhttp)).countP (fun other => other = own)

theorem Canister.Balanced.attempts {M : Type} {canister : Canister M} (balanced : canister.Balanced canhttp)
    (key : MetricRpcMethod × MetricRpcHost) : attemptsAt key (startedAttempts canister.journal) =
      attemptsAt key (finishedAttempts canister.journal) + attemptsAt key canister.flying := by
  have same := balanced.balance.countP_eq (fun data => decide (data.key = key))
  rwa [List.countP_append] at same

/-- No outcome is counted more often than attempts were begun. -/
theorem Canister.Balanced.outcomes_bounded {M : Type} {canister : Canister M} (balanced : canister.Balanced canhttp)
    (own : OutcomeKey) : (canister.journal.filterMap (AttemptEvent.outcomeKey canhttp)).countP (fun other => other = own) ≤
      attemptsAt own.labels (startedAttempts canister.journal) := by
  have sameLabels := List.countP_mono_left (l := canister.journal.filterMap (AttemptEvent.outcomeKey canhttp))
    (p := fun other => other = own) (q := fun other => other.labels = own.labels)
    (fun other _ same => by simp [of_decide_eq_true same])
  rw [balanced.attempts,attemptsAt_finished canhttp]
  exact sameLabels.trans ((Nat.le_add_right _ _).trans (Nat.le_add_right _ _))

theorem Canister.Balanced.counters {M : Type} {canister : Canister M} (balanced : canister.Balanced canhttp)
    (small : attemptsAt key (startedAttempts canister.journal) < 2^64) : CountersBalance canhttp canister key := by
  have follows := balanced.follows
  let outcomes := canister.journal.filterMap (AttemptEvent.outcomeKey canhttp)
  obtain ⟨asResponse,asHttpOutcall,asSize⟩ := countP_asKind outcomes
  have responses : canister.memory.metrics.responses = Tally.of (outcomes.filterMap OutcomeKey.asResponse) := by
    rw [follows.responses,List.filterMap_filterMap]
  have httpOutcalls : canister.memory.metrics.errHttpOutcall =
      Tally.of (outcomes.filterMap OutcomeKey.asHttpOutcall) := by
    rw [follows.errHttpOutcall,List.filterMap_filterMap]
  have sizes : canister.memory.metrics.errMaxResponseSizeExceeded =
      Tally.of (outcomes.filterMap OutcomeKey.asMaxResponseSizeExceeded) := by
    rw [follows.errMaxResponseSizeExceeded,List.filterMap_filterMap]
  have bounded : ∀ own : OutcomeKey, own.labels = key → outcomes.countP (fun other => other = own) < 2^64 := by
    rintro own rfl
    exact (balanced.outcomes_bounded own).trans_lt small
  have started : Tally.count canister.memory.metrics.requests key =
      attemptsAt key (startedAttempts canister.journal) := by
    rw [follows.requests,Tally.count_of (by rwa [countP_requestKey]),countP_requestKey]
  refine ⟨started,?_,?_⟩
  · rw [started,balanced.attempts,attemptsAt_finished canhttp,countP_labels,responses,httpOutcalls,sizes,
      Tally.total_of,Tally.total_of,Tally.count_of]
    · rw [asSize]
      exact bounded (.maxResponseSizeExceeded key) rfl
    · intro own named
      rw [asHttpOutcall]
      exact bounded (.httpOutcall own) (of_decide_eq_true named)
    · intro own named
      rw [asResponse]
      exact bounded (.response own) (of_decide_eq_true named)
  · intro own named
    have few := bounded own named
    cases own with
    | response own =>
      rw [OutcomeKey.value,responses,Tally.count_of (by rwa [asResponse]),asResponse]
    | httpOutcall own =>
      rw [OutcomeKey.value,httpOutcalls,Tally.count_of (by rwa [asHttpOutcall]),asHttpOutcall]
    | maxResponseSizeExceeded own =>
      rw [OutcomeKey.value,sizes,Tally.count_of (by rwa [asSize]),asSize]

end Totals

section Results
variable {M : Type}

/-- A reply that has a request sent again ends one attempt and begins another one. -/
def RetriesCount (platform : Platform M) (canister : Canister M) : Prop :=
  ∀ id method (call : EthCall method) service attempt reply request time next,
    canister.calls id = some (.eth method call) → (service,attempt) ∈ call.pending →
    retried platform.canhttp attempt.request (replyOutcome platform method attempt reply) = some request →
    canister.step platform ⟨time,.ethReply id service reply⟩ = .done next →
    ∃ started later, next.journal = canister.journal ++
      .ended attempt.started.data ((replyOutcome platform method attempt reply).map Prod.fst)::.began started::later

theorem launch_journal {platform : Platform M} {method : RpcMethod} {service : RpcService}
    {request : HttpJsonRpcRequest} {call next : EthCall method} {memory after : Memory M}
    (launched : launch platform service request call memory = .done (next,after)) :
    ∃ started later, next.journal = call.journal ++ .began started::later ∧
      started.data.method = method.toMetric := by
  obtain ⟨started,middle,begun,ended⟩ := launch_cases launched
  obtain ⟨host,_,same,_⟩ := startAttempt_eq_done begun
  have own : started.data.method = method.toMetric := by
    rw [same]
    rfl
  obtain ⟨charged,_,_,rfl⟩ | ⟨error,_,_,rfl⟩ := ended
  · exact ⟨started,[],rfl,own⟩
  · exact ⟨started,[.ended started.data (.error error)],by simp [EthCall.settle,EthCall.note],own⟩

theorem proceed_journal {platform : Platform M} {canister next : Canister M} {now : Timestamp} {id : ℕ}
    {method : RpcMethod} {call : EthCall method} {memory : Memory M}
    (proceeded : Canister.proceed platform now id call memory canister = .done next) :
    next.journal = canister.journal ++ call.journal := by
  unfold Canister.proceed at proceeded
  simp only at proceeded
  split at proceeded
  · obtain ⟨collected,_,proceeded⟩ := Outcome.bind_eq_done.mp proceeded
    cases proceeded
    rfl
  · cases proceeded
    rfl

theorem Canister.Balanced.retry_journal {platform : Platform M} {canister next : Canister M}
    (balanced : canister.Balanced platform.canhttp) {id : ℕ} {method : RpcMethod} {call : EthCall method}
    (found : canister.calls id = some (.eth method call)) {service : RpcService} {attempt : Attempt}
    (waiting : (service,attempt) ∈ call.pending) {reply : Except IcError HttpResponse} {request : HttpJsonRpcRequest}
    (again : retried platform.canhttp attempt.request (replyOutcome platform method attempt reply) = some request)
    {time : Timestamp} (taken : canister.step platform ⟨time,.ethReply id service reply⟩ = .done next) :
    ∃ started later, next.journal = canister.journal ++
        .ended attempt.started.data ((replyOutcome platform method attempt reply).map Prod.fst)::.began started::later ∧
      started.data.method = method.toMetric := by
  obtain ⟨cleared,wellFormed⟩ := balanced.opened id method call found
  simp only [Canister.step,Canister.ethReply,found] at taken
  obtain ⟨⟨further,memory⟩,received,taken⟩ := Outcome.bind_eq_done.mp taken
  rw [receiveReply_of_pending wellFormed.pending waiting] at received
  simp only [again] at received
  obtain ⟨started,later,written,own⟩ := launch_journal received
  refine ⟨started,later,?_,own⟩
  rw [proceed_journal taken,written]
  simp [afterAttempt,EthCall.note,EthCall.forget,cleared]

theorem Canister.Balanced.retries {platform : Platform M} {canister : Canister M}
    (balanced : canister.Balanced platform.canhttp) : RetriesCount platform canister := by
  intro id method call service attempt reply request time next found waiting again taken
  obtain ⟨started,later,written,_⟩ := balanced.retry_journal found waiting again taken
  exact ⟨started,later,written⟩

/-- In every run the counter of requests is the number of attempts, each of which is counted once
more when it ends, unless it was refused in the canister, or is still in flight. -/
theorem counters_balance (platform : Platform M) (memory : Memory M) (events : List Event)
    (key : MetricRpcMethod × MetricRpcHost) :
    let canister := Runs.run (Canister.step platform) (Canister.initial platform memory) events
    attemptsAt key (startedAttempts canister.journal) < 2^64 →
      CountersBalance platform.canhttp canister key ∧ RetriesCount platform canister ∧
      (∀ data outcome own, OutcomeKey.of platform.canhttp data outcome = some own → own.labels = data.key) ∧
      ∀ data outcome, OutcomeKey.of platform.canhttp data outcome = none ↔
        (∃ message, outcome = .error (.notHandledError message)) ∨
        ∃ expected received, outcome = .error (.cyclesAccountingError expected received) := by
  intro canister small
  have balanced := Canister.run_balanced platform memory events
  exact ⟨balanced.counters small,balanced.retries,fun _ _ _ => OutcomeKey.labels_of,fun _ _ => OutcomeKey.of_eq_none⟩

/-- A call whose first reply is too large and whose second one comes too late. -/
def repeatedCall : List Event :=
  [⟨1,.ethCall (.custom 1 [⟨"https://rpc.test",none⟩]) none .ethCall none (.ok .null) U128.MAX⟩,
    ⟨2,.ethReply 0 (.custom ⟨"https://rpc.test",none⟩) (.error ⟨.sysFatal,"size"⟩)⟩,
    ⟨3,.ethReply 0 (.custom ⟨"https://rpc.test",none⟩) (.error ⟨.sysTransient,"timeout"⟩)⟩]

theorem counters_balance_for_repeatedCall :
    let canister := Runs.run (Canister.step .reference) (Canister.initial .reference (.fresh ReferenceTimedMap.reference))
      repeatedCall
    attemptsAt (⟨"eth_call"⟩,⟨"rpc.test"⟩) (startedAttempts canister.journal) = 2 ∧
      CountersBalance Platform.reference.canhttp canister (⟨"eth_call"⟩,⟨"rpc.test"⟩) ∧
      RetriesCount .reference canister ∧
      (∀ data outcome own, OutcomeKey.of Platform.reference.canhttp data outcome = some own → own.labels = data.key) ∧
      ∀ data outcome, OutcomeKey.of Platform.reference.canhttp data outcome = none ↔
        (∃ message, outcome = .error (.notHandledError message)) ∨
        ∃ expected received, outcome = .error (.cyclesAccountingError expected received) := by
  intro canister
  have both : attemptsAt (⟨"eth_call"⟩,⟨"rpc.test"⟩) (startedAttempts canister.journal) = 2 := by decide +kernel
  exact ⟨both,counters_balance .reference (.fresh ReferenceTimedMap.reference) repeatedCall
    (⟨"eth_call"⟩,⟨"rpc.test"⟩) (lt_of_eq_of_lt both (by norm_num))⟩

end Results
end EvmRpc
