import Mathlib.Data.Nat.Log
import EvmRpc.Canister.Budgets

/-! How often a provider is asked in one call: the limit of a response that was too large grows
until it is at its maximum, so that every call comes to an end. -/
namespace EvmRpc
open Library

/-- The documented growth of the limit: to twice as much, counted from 1024 bytes, and never
above the maximum of an outcall. -/
structure Canhttp.DoublesLimit (canhttp : Canhttp) : Prop where
  limited : canhttp.doubled none = none
  larger : ∀ bytes next, canhttp.doubled (some bytes) = some next → bytes < next
  bounded : ∀ bytes next, canhttp.doubled (some bytes) = some next → next ≤ HTTP_MAX_SIZE
  doubles : ∀ bytes next, canhttp.doubled (some bytes) = some next →
    next = HTTP_MAX_SIZE ∨ 2*max 1024 bytes.toNat ≤ next.toNat

theorem doublesLimit_reference : Canhttp.reference.DoublesLimit := by
  have grown (bytes next : UInt64) (doubled : Canhttp.reference.doubled (some bytes) = some next) :
      bytes.toNat < next.toNat ∧ next.toNat = min 2000000 (2*max 1024 bytes.toNat) := by
    simp only [Canhttp.reference,Option.bind_some] at doubled
    split at doubled
    · rename_i larger
      cases doubled
      have small : min 2000000 (2*max 1024 bytes.toNat) < 2^64 := by omega
      rw [UInt64.toNat_ofNat_of_lt' small]
      exact ⟨larger,rfl⟩
    · cases doubled
  have maximum : HTTP_MAX_SIZE.toNat = 2000000 := rfl
  constructor
  · rfl
  · intro bytes next doubled
    exact UInt64.lt_iff_toNat_lt.mpr (grown bytes next doubled).1
  · intro bytes next doubled
    apply UInt64.le_iff_toNat_le.mpr
    rw [(grown bytes next doubled).2,maximum]
    exact min_le_left _ _
  · intro bytes next doubled
    have value := (grown bytes next doubled).2
    by_cases small : 2*max 1024 bytes.toNat ≤ 2000000
    · rw [min_eq_right small] at value
      exact .inr value.ge
    · rw [min_eq_left (Nat.le_of_not_le small)] at value
      exact .inl (UInt64.toNat_inj.mp value)

/-- How often a request with a limit can be repeated. -/
def retriesLeft : Option UInt64 → ℕ
  | none => 0
  | some bytes => if HTTP_MAX_SIZE ≤ bytes then 0 else 11-Nat.log 2 (max 1024 bytes.toNat/1024)

theorem retriesLeft_le (limit : Option UInt64) : retriesLeft limit ≤ 11 := by
  cases limit with
  | none => exact Nat.zero_le 11
  | some bytes =>
    rw [retriesLeft]
    split
    · exact Nat.zero_le 11
    · exact Nat.sub_le _ _

private theorem log_limit {bytes : UInt64} (small : bytes < HTTP_MAX_SIZE) :
    Nat.log 2 (max 1024 bytes.toNat/1024) ≤ 10 := by
  have below : bytes.toNat < 2000000 := UInt64.lt_iff_toNat_lt.mp small
  have quotient : max 1024 bytes.toNat/1024 < 2^11 := by omega
  exact Nat.lt_succ_iff.mp (Nat.log_lt_of_lt_pow (by omega) quotient)

/-- Each repetition uses up one that was left. -/
theorem retriesLeft_doubled {canhttp : Canhttp} (doubling : canhttp.DoublesLimit) {limit : Option UInt64} {next : UInt64}
    (doubled : canhttp.doubled limit = some next) : retriesLeft (some next)+1 ≤ retriesLeft limit := by
  cases limit with
  | none => cases doubled.symm.trans doubling.limited
  | some bytes =>
    have larger := doubling.larger bytes next doubled
    have small : bytes < HTTP_MAX_SIZE := UInt64.lt_of_lt_of_le larger (doubling.bounded bytes next doubled)
    have few := log_limit small
    rw [retriesLeft,retriesLeft,if_neg (UInt64.not_le.mpr small)]
    obtain rfl | twice := doubling.doubles bytes next doubled
    · rw [if_pos (UInt64.le_refl _)]
      omega
    · split
      · omega
      · rename_i below
        have few' := log_limit (UInt64.not_le.mp below)
        have quotient : max 1024 bytes.toNat/1024*2 ≤ max 1024 next.toNat/1024 := by omega
        have grown : Nat.log 2 (max 1024 bytes.toNat/1024)+1 ≤ Nat.log 2 (max 1024 next.toNat/1024) := by
          rw [← Nat.log_mul_base (by norm_num) (by omega : max 1024 bytes.toNat/1024 ≠ 0)]
          exact Nat.log_mono_right quotient
        omega

/-- Replies after which an attempt may be repeated. -/
def tooLarge {M : Type} (platform : Platform M) (reply : Except IcError HttpResponse) : Bool :=
  match reply with
  | .error error => platform.canhttp.tooLarge error
  | .ok _ => false

section Sessions
variable {M : Type} {platform : Platform M} {method : RpcMethod} {call next : EthCall method} {memory after : Memory M}
  {service : RpcService} {attempt : Attempt}

/-- How many replies a service can still send while it is in flight. -/
def EthCall.patience (service : RpcService) (call : EthCall method) : ℕ :=
  ((call.pending.find? (fun entry => entry.1 = service)).map
    (fun entry => retriesLeft entry.2.request.parts.maxResponseBytes+1)).getD 0

theorem EthCall.patience_of_absent (absent : service ∉ call.pending.map Prod.fst) : call.patience service = 0 := by
  have none : call.pending.find? (fun entry => entry.1 = service) = none := by
    rw [List.find?_eq_none]
    intro entry inside named
    exact absent (List.mem_map.mpr ⟨entry,inside,of_decide_eq_true named⟩)
  rw [patience,none]
  rfl

theorem EthCall.patience_of_pending (distinct : (call.pending.map Prod.fst).Nodup)
    (waiting : (service,attempt) ∈ call.pending) :
    call.patience service = retriesLeft attempt.request.parts.maxResponseBytes+1 := by
  cases search : call.pending.find? (fun entry => entry.1 = service) with
  | none => simpa using List.find?_eq_none.mp search _ waiting
  | some entry =>
    have named : entry.1 = service := by simpa using List.find?_some search
    obtain rfl := List.inj_on_of_nodup_map distinct (List.mem_of_find?_eq_some search) waiting named
    rw [patience,search]
    rfl

theorem EthCall.patience_le (service : RpcService) (call : EthCall method) : call.patience service ≤ 12 := by
  rw [patience]
  cases call.pending.find? (fun entry => entry.1 = service) with
  | none => exact Nat.zero_le 12
  | some entry => exact Nat.succ_le_succ (retriesLeft_le _)

theorem EthCall.patience_pos (distinct : (call.pending.map Prod.fst).Nodup)
    (waiting : service ∈ call.pending.map Prod.fst) : 0 < call.patience service := by
  obtain ⟨⟨_,attempt⟩,inside,rfl⟩ := List.mem_map.mp waiting
  rw [patience_of_pending distinct inside]
  exact Nat.succ_pos _

theorem EthCall.patience_sameFor (distinct : (call.pending.map Prod.fst).Nodup)
    (distinct' : (next.pending.map Prod.fst).Nodup) (same : call.SameFor service next) :
    next.patience service = call.patience service := by
  by_cases present : service ∈ call.pending.map Prod.fst
  · obtain ⟨⟨_,attempt⟩,inside,rfl⟩ := List.mem_map.mp present
    rw [patience_of_pending distinct inside,patience_of_pending distinct' ((same.1 attempt).mpr inside)]
  · have absent : service ∉ next.pending.map Prod.fst := by
      intro present'
      obtain ⟨⟨_,attempt⟩,inside,rfl⟩ := List.mem_map.mp present'
      exact present (List.mem_map_of_mem ((same.1 attempt).mp inside))
    rw [patience_of_absent present,patience_of_absent absent]

/-- The limit of a request that is tried again. -/
theorem retried_limit {α : Type} {canhttp : Canhttp} {request renewed : HttpJsonRpcRequest}
    {outcome : Except HttpClientError α} (again : retried canhttp request outcome = some renewed) :
    ∃ bytes, canhttp.doubled request.parts.maxResponseBytes = some bytes ∧
      renewed.parts.maxResponseBytes = some bytes := by
  unfold retried at again
  split at again
  · cases again
  · split at again
    · obtain ⟨bytes,doubled,rfl⟩ := Option.map_eq_some_iff.mp again
      exact ⟨bytes,doubled,rfl⟩
    · cases again

/-- What a launch leaves in flight for its service carries the request of the launch. -/
theorem launch_pending {request : HttpJsonRpcRequest}
    (launched : launch platform service request call memory = .done (next,after)) :
    next.pending = call.pending ∨ ∃ started, next.pending = call.pending ++ [(service,⟨request,started⟩)] := by
  obtain ⟨started,middle,_,⟨charged,_,_,rfl⟩ | ⟨error,_,_,rfl⟩⟩ := launch_cases launched
  · exact .inr ⟨started,rfl⟩
  · exact .inl rfl

/-- A reply takes from the patience with its service and leaves that with the others. -/
theorem receiveReply_patience (doubling : platform.canhttp.DoublesLimit) (wellFormed : call.WellFormed)
    {reply : Except IcError HttpResponse}
    (received : receiveReply platform service reply call memory = .done (next,after)) (other : RpcService) :
    next.patience other ≤ call.patience other - (if service = other then 1 else 0) := by
  obtain ⟨_,_,received',_,kept,others,_⟩ := @receiveReply_step _ platform _ _ wellFormed service reply memory
  cases received.symm.trans received'
  by_cases same : service = other
  · subst other
    rw [if_pos rfl]
    by_cases present : service ∈ call.pending.map Prod.fst
    · obtain ⟨attempt,waiting⟩ : ∃ attempt, (service,attempt) ∈ call.pending := by simpa using present
      rw [EthCall.patience_of_pending wellFormed.pending waiting,Nat.add_sub_cancel]
      rw [receiveReply_of_pending wellFormed.pending waiting] at received
      simp only at received
      split at received
      · rename_i renewed again
        obtain ⟨bytes,doubled,limit⟩ := retried_limit again
        have left := retriesLeft_doubled doubling doubled
        obtain pending | ⟨started,pending⟩ := launch_pending received
        · rw [EthCall.patience_of_absent (by simp [pending,afterAttempt,EthCall.note,EthCall.forget])]
          exact Nat.zero_le _
        · have inside : (service,Attempt.mk renewed started) ∈ next.pending := by
            rw [pending]
            exact List.mem_append_right _ (List.mem_singleton_self _)
          rw [EthCall.patience_of_pending kept.pending inside,limit]
          exact left
      · cases received
        rw [EthCall.patience_of_absent (by simp [afterAttempt,EthCall.note,EthCall.forget,EthCall.settle])]
        exact Nat.zero_le _
    · rw [receiveReply_of_absent present] at received
      cases received
      rw [EthCall.patience_of_absent present]
  · rw [if_neg same]
    exact (EthCall.patience_sameFor wellFormed.pending kept.pending (others other (Ne.symm same))).le

/-- In a session, the patience with a service is used up by its replies. -/
theorem EthCall.served_patience (doubling : platform.canhttp.DoublesLimit) (wellFormed : call.WellFormed)
    (deliveries : List (Delivery M)) (service : RpcService) :
    (call.served platform deliveries).patience service ≤
      call.patience service - deliveries.countP (fun delivery => delivery.service = service) := by
  apply @Runs.rank_run _ _ (EthCall.deliver platform) EthCall.WellFormed (EthCall.patience service)
    (fun delivery => decide (delivery.service = service)) _ _ _ wellFormed
  · intro current delivery before
    exact (current.served_spec before [delivery]).1
  · intro current delivery before
    obtain ⟨moved,left,received,_⟩ := @receiveReply_step _ platform _ _ before delivery.service delivery.reply
      delivery.memory
    rw [Runs.advance_done _ (EthCall.deliver_eq_done.mpr ⟨left,received⟩)]
    simpa using receiveReply_patience doubling before received service

def EthCall.attempts (call : EthCall method) : ℕ := (startedAttempts call.journal).length

theorem attempts_note (event : AttemptEvent) (call : EthCall method) :
    (call.note event).attempts = call.attempts+(startedAttempts [event]).length := by
  simp [EthCall.attempts,EthCall.note,startedAttempts]

theorem launch_begins {request : HttpJsonRpcRequest}
    (launched : launch platform service request call memory = .done (next,after)) : next.attempts = call.attempts+1 := by
  obtain ⟨started,middle,_,⟨charged,_,_,rfl⟩ | ⟨error,_,_,rfl⟩⟩ := launch_cases launched
  · exact attempts_note (.began started) call
  · exact (attempts_note _ _).trans (attempts_note (.began started) call)

theorem launchAll_begins {requests : List (RpcService × HttpJsonRpcRequest)}
    (launched : launchAll platform requests call memory = .done (next,after)) :
    next.attempts = call.attempts+requests.length := by
  induction requests generalizing call memory with
  | nil =>
    cases launched
    rfl
  | cons entry requests ih =>
    rw [launchAll,List.foldlM_cons] at launched
    obtain ⟨⟨middle,between⟩,first,rest⟩ := Outcome.bind_eq_done.mp launched
    rw [ih rest,launch_begins first,List.length_cons,Nat.add_assoc,Nat.add_comm 1]

/-- Responses are never taken for errors of the platform. -/
theorem receive_eq_icError {α : Type} {canhttp : Canhttp} {rpc : JsonRpcWire} {format : Json.Format α} {requestId : Id}
    {reply : Except IcError HttpResponse} {error : IcError}
    (failed : receive canhttp rpc format requestId reply = .error (.icError error)) : reply = .error error := by
  unfold receive at failed
  split at failed
  · cases failed
    rfl
  · split at failed
    · cases failed
    · split at failed
      · cases failed
      · split at failed
        · cases failed
        · rename_i id result decoded
          cases result
          all_goals
            simp only at failed
            split at failed
            · cases failed
            · cases failed

theorem tooLarge_of_retried {attempt : Attempt} {reply : Except IcError HttpResponse} {renewed : HttpJsonRpcRequest}
    (again : retried platform.canhttp attempt.request (replyOutcome platform method attempt reply) = some renewed) :
    tooLarge platform reply = true := by
  unfold retried at again
  split at again
  · cases again
  · rename_i error outcome
    split at again
    · rename_i large
      unfold HttpClientError.isResponseTooLarge at large
      split at large
      · rw [receive_eq_icError outcome]
        exact large
      · cases large
    · cases again

/-- A reply has an attempt repeated once if it is too large, and otherwise not at all. -/
theorem receiveReply_begins (wellFormed : call.WellFormed) {reply : Except IcError HttpResponse}
    (received : receiveReply platform service reply call memory = .done (next,after)) :
    next.attempts ≤ call.attempts+(if tooLarge platform reply then 1 else 0) := by
  by_cases present : service ∈ call.pending.map Prod.fst
  · obtain ⟨attempt,waiting⟩ : ∃ attempt, (service,attempt) ∈ call.pending := by simpa using present
    have counted : (afterAttempt platform service attempt reply call memory).1.attempts = call.attempts :=
      attempts_note _ _
    rw [receiveReply_of_pending wellFormed.pending waiting] at received
    simp only at received
    split at received
    · rename_i renewed again
      rw [launch_begins received,counted,if_pos (tooLarge_of_retried again)]
    · cases received
      exact (Nat.le_of_eq counted).trans (Nat.le_add_right _ _)
  · rw [receiveReply_of_absent present] at received
    cases received
    exact Nat.le_add_right _ _

/-- A service that is not asked, since its API is refused with an error. -/
def isRefused (platform : Platform M) (memory : Memory M) (service : RpcService) : Bool :=
  match apiOf platform memory service with
  | .done (.error _) => true
  | _ => false

theorem isRefused_of_built {params : Json} {size : ResponseSizeEstimate} {result : RpcResult HttpJsonRpcRequest}
    (built : buildRequest platform memory method params size service = .done result) :
    isRefused platform memory service = false ↔ ∃ request, result = .ok request := by
  have spec := buildRequest_spec platform memory method params size service
  unfold isRefused
  cases resolved : apiOf platform memory service with
  | trap message =>
    rw [resolved] at spec
    cases built.symm.trans spec
  | done answer =>
    rw [resolved] at spec
    cases answer with
    | error error =>
      cases built.symm.trans spec
      simp
    | ok api =>
      by_cases accepts : platform.http.Accepts api
      · obtain ⟨request,made,_⟩ := spec.1 accepts
        cases built.symm.trans made
        simp
      · obtain ⟨message,aborted⟩ := spec.2 accepts
        cases built.symm.trans aborted

/-- A call launches an attempt for each of its services that is not refused. -/
theorem parallelCall_asks_each {client : EthRpcClient} {transactionHash : Option Hex32} {params : Json}
    {size : ResponseSizeEstimate} {available : U128}
    (begun : parallelCall platform client method transactionHash params size available memory = .done (call,after)) :
    call.launched.Perm (client.providers.services.elements.filter (fun service => !isRefused platform memory service)) ∧
      call.attempts = call.launched.length := by
  obtain ⟨requests,collected,launched⟩ := Outcome.bind_eq_done.mp begun
  obtain ⟨_,collected',_,_,_,_,names,_⟩ := parallelCall_eq_done begun
  cases collected.symm.trans collected'
  constructor
  · refine names.trans ((List.perm_ext_iff_of_nodup ?_ (client.providers.services.nodup.filter _)).mpr ?_)
    · exact (List.nodup_append.mp (requests.keys_perm.nodup_iff.mpr requests.distinct)).2.1
    · intro service
      simp only [List.mem_map,List.mem_filter,Bool.not_eq_true',Prod.exists,exists_and_right,exists_eq_right,
        MultiResults.mem_okResults,MultiResults.mem_of_collect collected]
      constructor
      · rintro ⟨request,queried,built⟩
        exact ⟨queried,(isRefused_of_built built).mpr ⟨request,rfl⟩⟩
      · rintro ⟨queried,asked⟩
        have listed : service ∈ requests.keys := (MultiResults.keys_of_collect collected).mem_iff.mpr queried
        obtain ⟨⟨_,result⟩,inside,rfl⟩ := List.mem_map.mp listed
        obtain ⟨_,built⟩ := (MultiResults.mem_of_collect collected).mp inside
        obtain ⟨request,rfl⟩ := (isRefused_of_built built).mp asked
        exact ⟨request,queried,built⟩
  · have made := launchAll_begins launched
    rw [names.length_eq,List.length_map]
    exact made.trans (Nat.zero_add _)

/-- The attempts for a service that a reply has made or left are no more than before it. -/
theorem receiveReply_repeats (doubling : platform.canhttp.DoublesLimit) (wellFormed : call.WellFormed)
    {reply : Except IcError HttpResponse}
    (received : receiveReply platform service reply call memory = .done (next,after)) :
    next.attempts+(next.patience service-1) ≤ call.attempts+(call.patience service-1) := by
  have fewer := receiveReply_patience doubling wellFormed received service
  rw [if_pos rfl] at fewer
  by_cases present : service ∈ call.pending.map Prod.fst
  · obtain ⟨attempt,waiting⟩ : ∃ attempt, (service,attempt) ∈ call.pending := by simpa using present
    have counted : (afterAttempt platform service attempt reply call memory).1.attempts = call.attempts :=
      attempts_note _ _
    rw [EthCall.patience_of_pending wellFormed.pending waiting] at fewer ⊢
    rw [receiveReply_of_pending wellFormed.pending waiting] at received
    simp only at received
    split at received
    · rename_i renewed again
      obtain ⟨bytes,doubled,_⟩ := retried_limit again
      have left := retriesLeft_doubled doubling doubled
      rw [launch_begins received,counted]
      omega
    · cases received
      change (afterAttempt platform service attempt reply call memory).1.attempts+_ ≤ _
      omega
  · rw [receiveReply_of_absent present] at received
    cases received
    exact le_rfl

end Sessions

namespace Canister
variable {M : Type}

/-- The attempts that a message begins for the call that it is about. -/
def begunFor (platform : Platform M) (id : ℕ) (canister : Canister M) (event : Event) : List MetricData :=
  startedAttempts (canister.journalFor platform id event)

/-- The services that an eth call is to query. -/
def queried (platform : Platform M) (canister : Canister M) (event : Event) : List RpcService :=
  match event.message with
  | .ethCall source config _ _ _ _ =>
    match EthRpcClient.new platform.timed source config event.time canister.memory.okResultsTimestamps with
    | .done (.ok client,_) => client.providers.services.elements
    | _ => []
  | _ => []

def queriedFor (platform : Platform M) (id : ℕ) (canister : Canister M) (event : Event) : List RpcService :=
  if canister.Opens platform id event then canister.queried platform event else []

/-- The services that a message may have a call ask: those that it queries and that are not refused, or the one
that has replied. -/
def toAsk (platform : Platform M) (canister : Canister M) (event : Event) : List RpcService :=
  match event.message with
  | .ethReply _ service _ => [service]
  | _ => (canister.queried platform event).filter (fun service => !isRefused platform canister.memory service)

variable {platform : Platform M} {canister : Canister M} {event : Event}

theorem queried_of_chosen {source : RpcServices} {config : Option RpcConfig} {method : RpcMethod}
    {transactionHash : Option Hex32} {params : Except ValidationError Json} {available : U128} {client : EthRpcClient}
    {usage : SupportedRpcServiceUsage M}
    (message : event.message = .ethCall source config method transactionHash params available)
    (chosen : EthRpcClient.new platform.timed source config event.time canister.memory.okResultsTimestamps =
      .done (.ok client,usage)) : canister.queried platform event = client.providers.services.elements := by
  rw [queried,message]
  simp only [chosen]

theorem toAsk_of_chosen {source : RpcServices} {config : Option RpcConfig} {method : RpcMethod}
    {transactionHash : Option Hex32} {params : Except ValidationError Json} {available : U128} {client : EthRpcClient}
    {usage : SupportedRpcServiceUsage M}
    (message : event.message = .ethCall source config method transactionHash params available)
    (chosen : EthRpcClient.new platform.timed source config event.time canister.memory.okResultsTimestamps =
      .done (.ok client,usage)) : canister.toAsk platform event =
        client.providers.services.elements.filter (fun service => !isRefused platform canister.memory service) := by
  rw [← queried_of_chosen message chosen,toAsk,message]

theorem proceed_begins {id later : ℕ} {next : Canister M} {method : RpcMethod} {call : EthCall method} {memory : Memory M}
    {now : Timestamp}
    (proceeded : proceed platform now id call memory {canister with nextCall := later} = .done next) :
    (startedAttempts (next.journal.drop canister.journal.length)).length = call.attempts := by
  rw [proceed_journal proceeded,List.drop_left]
  rfl

/-- When attempts of a call are begun: one for each service to ask when it is opened, and one after a reply that is
too large. -/
theorem begunFor_cases (waits : canister.Waits platform) (id : ℕ) (event : Event) :
    canister.begunFor platform id event = [] ∨
    (canister.Opens platform id event ∧
      (canister.begunFor platform id event).length = (canister.toAsk platform event).length ∧
      (canister.toAsk platform event).length ≤ (canister.queried platform event).length) ∨
    ∃ service reply, event.message = .ethReply id service reply ∧ tooLarge platform reply = true ∧
      (canister.begunFor platform id event).length = 1 := by
  cases taken : canister.step platform event with
  | trap message =>
    rw [begunFor,journalFor_of_trap taken]
    exact .inl rfl
  | done next =>
    rw [begunFor,journalFor_of_done taken]
    by_cases about : canister.subject event = some id
    · rw [if_pos about]
      cases step_eth waits.balanced taken with
      | silent _ _ refused _ =>
        rw [(refused id about).2,List.drop_length]
        exact .inl rfl
      | opened message chosen begun proceeded =>
        obtain ⟨grown,_⟩ := proceed_frame proceeded
        obtain ⟨each,made⟩ := parallelCall_asks_each begun
        rw [subject,message] at about
        obtain rfl := Option.some.inj about
        refine .inr (.inl ⟨(opens_of_done taken).mpr ⟨by rw [subject,message],rfl,grown⟩,?_,?_⟩)
        · rw [proceed_begins proceeded,made,each.length_eq,toAsk_of_chosen message chosen]
          rfl
        · rw [toAsk_of_chosen message chosen,queried_of_chosen message chosen]
          exact List.length_filter_le _ _
      | @replied named _ before call _ service reply message found received proceeded =>
        rw [subject,message] at about
        obtain rfl := Option.some.inj about
        obtain ⟨cleared,wellFormed⟩ := waits.balanced.opened _ _ _ found
        have none : before.attempts = 0 := by
          rw [EthCall.attempts,cleared]
          rfl
        have made := receiveReply_begins wellFormed received
        rw [none,Nat.zero_add,← @proceed_begins _ _ canister _ canister.nextCall _ _ _ _ _ proceeded] at made
        by_cases large : tooLarge platform reply = true
        · rw [if_pos large] at made
          obtain nothing | once := Nat.le_one_iff_eq_zero_or_eq_one.mp made
          · exact .inl (List.length_eq_zero_iff.mp nothing)
          · exact .inr (.inr ⟨service,reply,message,large,once⟩)
        · rw [if_neg large] at made
          exact .inl (List.length_eq_zero_iff.mp (Nat.le_zero.mp made))
    · rw [if_neg about]
      exact .inl rfl

end Canister

namespace Allowance
variable {M : Type} (platform : Platform M) (doubling : platform.canhttp.DoublesLimit) (service : RpcService)

/-- A call may ask each service that it queries twelve times. -/
def asked : Allowance platform where
  spent := fun canister event journal =>
    ((canister.toAsk platform event).take (startedAttempts journal).length).count service
  reserve := fun call => call.patience service-1
  granted := fun canister event => 12*(canister.queried platform event).count service
  idle := fun _ _ => rfl
  kept := fun _ => rfl
  opened := by
    intro canister event source config method transactionHash params available client usage size call memory message
      chosen begun
    obtain ⟨each,_⟩ := parallelCall_asks_each begun
    have once := List.nodup_iff_count_le_one.mp client.providers.services.nodup service
    have few := call.patience_le service
    rw [Canister.queried_of_chosen message chosen,Canister.toAsk_of_chosen message chosen]
    refine (Nat.add_le_add_right ((List.take_sublist _ _).count_le service) _).trans ?_
    by_cases launched : service ∈ call.launched
    · have queried := (List.mem_filter.mp (each.mem_iff.mp launched)).1
      have listed := List.count_pos_iff.mpr queried
      have sublist := (@List.filter_sublist _ (fun service => !isRefused platform canister.memory service)
        client.providers.services.elements).count_le service
      omega
    · have unasked := List.count_eq_zero.mpr (fun inside => launched (each.mem_iff.mpr inside))
      have absent : service ∉ call.pending.map Prod.fst := fun inside => launched (List.mem_append_left _ inside)
      rw [EthCall.patience_of_absent absent]
      exact (Nat.le_of_eq unasked).trans (Nat.zero_le _)
  replied := by
    intro canister event id method before call other reply memory after message wellFormed cleared received
    have none : before.attempts = 0 := by
      rw [EthCall.attempts,cleared]
      rfl
    have asks : canister.toAsk platform event = [other] := by rw [Canister.toAsk,message]
    rw [asks]
    by_cases same : other = service
    · subst other
      have left := receiveReply_repeats doubling wellFormed received
      have made := List.count_le_length (a := service) (l := [service].take call.attempts)
      rw [List.length_take] at made
      change ([service].take call.attempts).count service+_ ≤ _
      omega
    · have left := receiveReply_patience doubling wellFormed received service
      have unasked : ([other].take (startedAttempts call.journal).length).count service = 0 :=
        List.count_eq_zero.mpr (fun inside => same (List.mem_singleton.mp (List.mem_of_mem_take inside)).symm)
      rw [if_neg same] at left
      omega

end Allowance

section Runs
variable {M : Type}

/-- The attempts that a run begins for the call with an identifier. -/
def begunOf (platform : Platform M) (memory : Memory M) (events : List Event) (id : ℕ) : List MetricData :=
  Runs.deliveries (Canister.step platform) (Canister.begunFor platform id) (.initial platform memory) events

def queriedOf (platform : Platform M) (memory : Memory M) (events : List Event) (id : ℕ) : List RpcService :=
  Runs.deliveries (Canister.step platform) (Canister.queriedFor platform id) (.initial platform memory) events

/-- Replies that are always too large, each followed by one to the other call. -/
def refusals : List Event := (List.range 12).flatMap (fun _ =>
  [⟨2,.ethReply 0 (.custom ⟨"https://rpc.test",none⟩) (.error ⟨.sysFatal,"size"⟩)⟩,
    ⟨2,.ethReply 1 (.custom ⟨"https://rpc.test",none⟩) (.error ⟨.sysFatal,"size"⟩)⟩])

/-- A session has nothing in flight once each service has sent as many replies as there was patience for. -/
theorem EthCall.served_complete {platform : Platform M} {method : RpcMethod} {call : EthCall method}
    (doubling : platform.canhttp.DoublesLimit) (wellFormed : call.WellFormed) {deliveries : List (Delivery M)}
    (replied : ∀ service ∈ call.pending.map Prod.fst,
      12 ≤ deliveries.countP (fun delivery => delivery.service = service)) :
    (call.served platform deliveries).pending = [] := by
  refine List.eq_nil_iff_forall_not_mem.mpr (fun entry inside => ?_)
  have waiting : ((call.served platform deliveries).pending.map Prod.fst).Nodup :=
    (EthCall.served_spec wellFormed deliveries).1.pending
  have positive := EthCall.patience_pos waiting (List.mem_map_of_mem inside)
  have spent := call.served_patience doubling wellFormed deliveries entry.1
  by_cases present : entry.1 ∈ call.pending.map Prod.fst
  · have enough := replied entry.1 present
    have few := call.patience_le entry.1
    omega
  · rw [EthCall.patience_of_absent present] at spent
    omega

/-- In every run, a call that has got twelve replies from each service it waited for is answered,
whatever they were and whatever came between them. -/
theorem calls_come_to_an_end (platform : Platform M) (doubling : platform.canhttp.DoublesLimit) (memory : Memory M)
    (past later : List Event) (id : ℕ)
    (opened : (Runs.run (Canister.step platform) (.initial platform memory) past).isOpen id = true)
    (replied : ∀ service ∈ (Runs.run (Canister.step platform) (.initial platform memory) past).awaited id,
      12 ≤ (repliesTo id later).countP (fun reply => reply.1 = service)) :
    (Runs.run (Canister.step platform) (.initial platform memory) (past ++ later)).isOpen id = false ∧
      (answersOf platform memory (past ++ later) id).length = 1 := by
  have waits := Canister.run_waits platform memory past
  have waits' := Canister.run_waits platform memory (past ++ later)
  obtain ⟨once,balance⟩ := answeredOnce platform memory (past ++ later) id
  have before := (answeredOnce platform memory past id).balance
  obtain ⟨method,call,found⟩ := Canister.isOpen_eq_true.mp opened
  rw [Canister.awaited,found] at replied
  rw [Runs.run_append] at waits' balance ⊢
  rw [Canister.openCount,opened] at before
  have wellFormed := (waits.balanced.opened id method call found).2
  have serves := Canister.serves platform id method
  have start := And.intro waits (waits.balanced.used found)
  have shut : (Runs.run (Canister.step platform)
      (Runs.run (Canister.step platform) (.initial platform memory) past) later).isOpen id = false := by
    obtain here | ⟨front,last,rest,rfl,_,ended⟩ := serves.run_own start (waits.shown found) later
    · have flying : (call.served platform (Runs.deliveries (Canister.step platform) (Canister.delivered id)
          (Runs.run (Canister.step platform) (.initial platform memory) past) later)).pending ≠ [] :=
        waits'.pending id method (EthCall.silent _) here
      apply absurd (EthCall.served_complete doubling wellFormed _) flying
      intro service waiting
      have own := Canister.deliveries_own platform id
        (Runs.run (Canister.step platform) (.initial platform memory) past) later
      have enough := replied service waiting
      rwa [← own,List.countP_map] at enough
    · have split : front ++ last::rest = (front ++ [last]) ++ rest := by simp
      rw [split,Runs.run_append]
      exact serves.stays_closed (Runs.run_holds serves.preserved start (front ++ [last])) ended rest
  refine ⟨shut,?_⟩
  have opening : openersOf platform memory (past ++ later) id = openersOf platform memory past id ++ _ :=
    Runs.deliveries_append _ _ _
  rw [Canister.openCount,shut] at balance
  rw [opening,List.length_append] at once balance
  simp only [if_true,Bool.false_eq_true,if_false] at before balance
  omega

theorem calls_come_to_an_end_for_overlapping :
    (Runs.run (Canister.step .reference) (.initial .reference demo) (overlapping ++ refusals)).isOpen 0 = false ∧
      (answersOf .reference demo (overlapping ++ refusals) 0).length = 1 := by
  apply calls_come_to_an_end .reference doublesLimit_reference demo overlapping refusals 0
  · decide +kernel
  · have waits : (Runs.run (Canister.step .reference) (.initial .reference demo) overlapping).awaited 0 =
        [.custom ⟨"https://rpc.test",none⟩] := by decide +kernel
    rw [waits]
    intro service inside
    obtain rfl := List.mem_singleton.mp inside
    decide

end Runs
end EvmRpc
