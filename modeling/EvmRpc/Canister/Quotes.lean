import EvmRpc.Canister.Payments
import EvmRpc.Canister.Requests

/-! How long the quote for a request lasts: what a request costs depends on the keys, the override and the
subnet, which calls do not write. -/
namespace EvmRpc
open Library

def Message.updatesKeys : Message → Bool
  | .updateApiKeys _ _ _ => true
  | _ => false

namespace Memory
variable {M : Type}

/-- The state after code that writes nothing but counters and the usage of the services. -/
def Steady (memory after : Memory M) : Prop :=
  ∃ metrics counter usage, after =
    {memory with metrics := metrics, httpRequestCounter := counter, okResultsTimestamps := usage}

theorem Steady.refl (memory : Memory M) : memory.Steady memory := ⟨_,_,_,rfl⟩

theorem Steady.trans {memory middle after : Memory M} (first : memory.Steady middle) (second : middle.Steady after) :
    memory.Steady after := by
  obtain ⟨_,_,_,rfl⟩ := first
  obtain ⟨metrics,counter,usage,rfl⟩ := second
  exact ⟨metrics,counter,usage,rfl⟩

theorem Counted.steady {memory after : Memory M} (counted : memory.Counted after) : memory.Steady after := by
  obtain ⟨metrics,counter,rfl⟩ := counted
  exact ⟨metrics,counter,_,rfl⟩

end Memory

namespace Canister
variable {M : Type} {platform : Platform M} {canister next : Canister M} {event : Event}

theorem proceed_steady {method : RpcMethod} {now : Timestamp} {id : ℕ} {call : EthCall method} {memory : Memory M}
    (proceeded : proceed platform now id call memory canister = .done next) : memory.Steady next.memory := by
  obtain ⟨_,results,after,_,_,collected,_,rfl⟩ | ⟨_,rfl⟩ := proceed_cases proceeded
  · obtain ⟨usage,rfl⟩ := collectResults_eq collected
    exact ⟨_,_,usage,rfl⟩
  · exact .refl memory

/-- Only a change of the keys writes what requests are built and priced from. -/
theorem step_steady (waits : canister.Waits platform) (keeps : event.message.updatesKeys = false)
    (taken : canister.step platform event = .done next) : canister.memory.Steady next.memory := by
  obtain ⟨time,message⟩ := event
  cases message with
  | ethCall source config method transactionHash params available =>
    obtain ⟨_,usage,_,rfl | ⟨client,params,size,call,memory,_,_,begun,taken⟩⟩ := ethCall_cases taken
    · exact ⟨_,_,usage,rfl⟩
    · obtain ⟨_,_,_,_,_,_,_,_,counted⟩ := parallelCall_eq_done begun
      have used : canister.memory.Steady {canister.memory with okResultsTimestamps := usage} := ⟨_,_,usage,rfl⟩
      exact (used.trans counted.steady).trans (proceed_steady taken)
  | ethReply id service reply =>
    obtain rfl | ⟨method,call,further,memory,found,received,taken⟩ := ethReply_cases taken
    · exact .refl _
    · obtain ⟨_,wellFormed⟩ := waits.balanced.opened id method call found
      obtain ⟨_,_,received',_,_,_,counted⟩ := @receiveReply_step _ platform _ _ wellFormed service reply canister.memory
      cases received.symm.trans received'
      exact counted.steady.trans (proceed_steady taken)
  | request service jsonRpcPayload maxResponseBytes available =>
    obtain rfl | ⟨host,_,started,_,⟨_,_,rfl⟩ | ⟨error,_,rfl⟩⟩ := requestCall_cases taken
    · exact .refl _
    · exact (requested_counted _ _ _ _).steady
    · have requested := requested_counted ⟨"request"⟩ false host canister.memory
      exact (requested.trans (@observe_counted _ platform.canhttp Json started.data (.error error) _)).steady
  | requestReply id reply =>
    obtain rfl | ⟨started,_,rfl⟩ := requestReply_cases taken
    · exact .refl _
    · exact (observe_counted _ _ _).steady
  | updateApiKeys caller isController apiKeys => cases keeps

theorem advance_steady (waits : canister.Waits platform) (keeps : event.message.updatesKeys = false) :
    canister.memory.Steady (Runs.advance (Canister.step platform) canister event).memory := by
  cases taken : canister.step platform event with
  | done next =>
    rw [Runs.advance_done _ taken]
    exact step_steady waits keeps taken
  | trap message =>
    rw [Runs.advance_trap _ taken]
    exact .refl _

end Canister

section Quotes
variable {M : Type} {regex : Regex} {http : HttpCrate} {canhttp : Canhttp} {memory after : Memory M}
  {service : RpcService} {jsonRpcPayload : String} {maxResponseBytes : UInt64} {available : U128} {started : Started}
  {error : RpcError}

/-- A quote lasts as long as the keys do. -/
theorem Memory.Steady.requestCost (steady : memory.Steady after) :
    EvmRpc.requestCost regex http canhttp after service jsonRpcPayload maxResponseBytes =
      EvmRpc.requestCost regex http canhttp memory service jsonRpcPayload maxResponseBytes := by
  obtain ⟨_,_,_,rfl⟩ := steady
  rfl

/-- A request that is started and can be sent has a quote, which is the charge for it. -/
theorem quoted_of_begun (begun : request regex http canhttp memory service jsonRpcPayload maxResponseBytes available =
      .done (.ok started,after)) {converted : IcHttpRequest}
    (converts : serviceRequestBuilder http canhttp started.request = .ok converted) :
    requestCost regex http canhttp memory service jsonRpcPayload maxResponseBytes =
      .done (.ok ((CyclesAccounting.ofMemory memory).policy.cyclesToCharge
        (canhttp.costOfHttpRequest (CyclesAccounting.ofMemory memory).nodes converted))) := by
  obtain ⟨resolved,resolves,built,_⟩ := request_eq_ok begun
  unfold requestCost
  cases demo : memory.isDemoActive with
  | true =>
    simp [CyclesAccounting.ofMemory,ChargingPolicyWithCollateral.default,ChargingPolicyWithCollateral.new,
      ChargingPolicyWithCollateral.cyclesToCharge,demo]
  | false =>
    simp only [Bool.false_eq_true,if_false,resolves,built,Outcome.done_bind,converts]
    rfl

/-- What is taken for an outcall is the quote, and it was there. -/
theorem quoted_of_sent (begun : request regex http canhttp memory service jsonRpcPayload maxResponseBytes available =
      .done (.ok started,after)) {charged : Charged} (sent : started.sent = .ok charged) :
    requestCost regex http canhttp memory service jsonRpcPayload maxResponseBytes = .done (.ok charged.charged) ∧
      charged.charged ≤ available := by
  obtain ⟨_,_,_,given⟩ := request_eq_ok begun
  cases converts : serviceRequestBuilder http canhttp started.request with
  | error failure =>
    rw [converts,sent] at given
    cases given
  | ok converted =>
    rw [converts,sent] at given
    have quoted := quoted_of_begun begun converts
    obtain ⟨_,_,enough⟩ := convert_eq_ok given.symm
    simp only [CyclesAccounting.convert] at given
    split at given
    · cases given
    · cases given
      exact ⟨quoted,enough⟩

theorem serviceRequestBuilder_eq_error {request : HttpJsonRpcRequest} {failure : HttpClientError}
    (failed : serviceRequestBuilder http canhttp request = .error failure) : ∃ message, failure = .notHandledError message := by
  unfold serviceRequestBuilder at failed
  simp only at failed
  split at failed
  · cases failed
    exact ⟨_,rfl⟩
  · split at failed
    · cases failed
      exact ⟨_,rfl⟩
    · cases failed

/-- Who is told of too few cycles is told the quote, and has attached less. -/
theorem quoted_of_refused (begun : request regex http canhttp memory service jsonRpcPayload maxResponseBytes available =
      .done (.ok started,after)) {failure : HttpClientError} (failed : started.sent = .error failure)
    {expected received : U128} (told : failure.toRpcError canhttp = .providerError (.tooFewCycles expected received)) :
    requestCost regex http canhttp memory service jsonRpcPayload maxResponseBytes = .done (.ok expected) ∧
      received = available ∧ available < expected := by
  obtain ⟨_,_,_,given⟩ := request_eq_ok begun
  cases converts : serviceRequestBuilder http canhttp started.request with
  | error other =>
    rw [converts,failed] at given
    cases given
    obtain ⟨message,rfl⟩ := serviceRequestBuilder_eq_error converts
    cases told
  | ok converted =>
    rw [converts,failed] at given
    have quoted := quoted_of_begun begun converts
    simp only [CyclesAccounting.convert] at given
    split at given
    · rename_i short
      cases given
      cases told
      exact ⟨quoted,rfl,short.2⟩
    · cases given

theorem resolve_eq_error {failure : ProviderError} (unresolved : resolveRpcService service = .error failure) :
    failure = .providerNotFound ∨ failure = .missingRequiredProvider := by
  have named {supported : SupportedRpcService}
      (missing : (lookupProviderForService supported).map ResolvedRpcService.provider = .error failure) :
      failure = .providerNotFound ∨ failure = .missingRequiredProvider := by
    unfold lookupProviderForService at missing
    split at missing
    · cases missing
      exact .inr rfl
    · split at missing
      · cases missing
        exact .inl rfl
      · cases missing
  cases service with
  | provider id =>
    simp only [resolveRpcService] at unresolved
    split at unresolved
    · cases unresolved
      exact .inl rfl
    · cases unresolved
  | custom api => cases unresolved
  | ethMainnet service => exact named unresolved
  | ethSepolia service => exact named unresolved
  | arbitrumOne service => exact named unresolved
  | baseMainnet service => exact named unresolved
  | optimismMainnet service => exact named unresolved

theorem post_eq_error {resolved : ResolvedRpcService} (failed : resolved.post regex http memory = .done (.error error)) :
    ∃ invalid, error = .validationError invalid := by
  obtain ⟨applied,target,failed⟩ := Outcome.bind_eq_done.mp failed
  cases applied with
  | ok api => cases failed
  | error other =>
    cases failed
    obtain ⟨initial,_,target⟩ := Outcome.bind_eq_done.mp target
    split at target
    · cases target
    · cases target
      exact ⟨_,rfl⟩

theorem jsonRpcRequestArg_eq_error {resolved : ResolvedRpcService} (failed : jsonRpcRequestArg regex http canhttp memory
      resolved jsonRpcPayload maxResponseBytes = .done (.error error)) : ∃ invalid, error = .validationError invalid := by
  unfold jsonRpcRequestArg at failed
  split at failed
  · cases failed
    exact ⟨_,rfl⟩
  · obtain ⟨answer,posted,failed⟩ := Outcome.bind_eq_done.mp failed
    cases answer with
    | error other =>
      cases failed
      exact post_eq_error posted
    | ok builder =>
      simp only at failed
      split at failed
      · cases failed
      · cases failed
        exact ⟨_,rfl⟩

/-- A request that is refused before it is started is not refused for its cycles. -/
theorem request_eq_error (refused : request regex http canhttp memory service jsonRpcPayload maxResponseBytes available =
      .done (.error error,after)) (expected received : U128) : error ≠ .providerError (.tooFewCycles expected received) := by
  rintro rfl
  unfold request at refused
  split at refused
  · rename_i failure unresolved
    cases refused
    obtain same | same := resolve_eq_error unresolved
    · cases same
    · cases same
  · obtain ⟨arg,built,refused⟩ := Outcome.bind_eq_done.mp refused
    cases arg with
    | error other =>
      cases refused
      obtain ⟨_,same⟩ := jsonRpcRequestArg_eq_error built
      cases same
    | ok request =>
      obtain ⟨⟨_,_⟩,_,refused⟩ := Outcome.bind_eq_done.mp refused
      cases refused

end Quotes

/-- What is seen of a request that would have the quote: it is charged nothing else, and a caller who is told of too
few cycles is told the quote and charged nothing. -/
structure AsQuoted (quote : Outcome QueryAnswer) (available : U128) (observation : Observation) : Prop where
  once : observation.charged.length ≤ 1
  charged : ∀ charged ∈ observation.charged, quote = .done (.cost (.ok charged)) ∧ charged ≤ available
  told : ∀ expected received,
    Answer.request (.error (.providerError (.tooFewCycles expected received))) ∈ observation.answers →
      quote = .done (.cost (.ok expected)) ∧ received = available ∧ available < expected ∧ observation.charged = []

namespace Canister
variable {M : Type} {platform : Platform M} {canister : Canister M} {event : Event} {service : RpcService}
  {jsonRpcPayload : String} {maxResponseBytes : UInt64} {available : U128}

theorem query_of_requestCost {cost : RpcResult U128} (quoted : requestCost platform.regex platform.http platform.canhttp
      canister.memory service jsonRpcPayload maxResponseBytes = .done cost) :
    canister.query platform (.requestCost service jsonRpcPayload maxResponseBytes) = .done (.cost cost) := by
  rw [query,quoted]
  rfl

theorem asQuoted_of_observed (message : event.message = .request service jsonRpcPayload maxResponseBytes available)
    {observation : Observation} (seen : canister.observed platform (.message event) = .done observation) :
    AsQuoted (canister.query platform (.requestCost service jsonRpcPayload maxResponseBytes)) available observation := by
  obtain ⟨next,taken,seen⟩ := Outcome.bind_eq_done.mp seen
  have called : canister.requestCall platform service jsonRpcPayload maxResponseBytes available = .done next := by
    rw [← taken,act,step,message]
  obtain ⟨⟨result,after⟩,begun,called⟩ := Outcome.bind_eq_done.mp called
  cases result with
  | error error =>
    cases called
    have answers : canister.answered platform event = [.request (.error error)] := by
      simp only [answered,message,requestFailed,begun]
    simp only [answers,List.drop_length,List.map_nil,List.append_nil,List.filterMap_nil,Outcome.done.injEq] at seen
    subst observation
    refine ⟨Nat.zero_le 1,fun _ none => absurd none List.not_mem_nil,fun expected received told => ?_⟩
    have same := Answer.request.inj (List.mem_singleton.mp told)
    exact absurd (Except.error.inj same).symm (request_eq_error begun expected received)
  | ok started =>
    cases sent : started.sent with
    | ok charged =>
      simp only [sent,Outcome.done.injEq] at called
      subst next
      have answers : canister.answered platform event = [] := by
        simp only [answered,message,requestFailed,begun,sent]
      have paid : AttemptEvent.charged (.began started) = some charged.charged := by
        rw [AttemptEvent.charged,sent]
        rfl
      simp only [note,answers,List.drop_length,List.drop_left,List.map_nil,List.append_nil,List.filterMap_cons,
        List.filterMap_nil,paid,Outcome.done.injEq] at seen
      subst observation
      obtain ⟨quoted,enough⟩ := quoted_of_sent begun sent
      refine ⟨le_rfl,fun amount inside => ?_,fun _ _ told => absurd told List.not_mem_nil⟩
      obtain rfl := List.mem_singleton.mp inside
      exact ⟨query_of_requestCost quoted,enough⟩
    | error failure =>
      simp only [sent,Outcome.done.injEq] at called
      subst next
      have answers : canister.answered platform event = [.request (.error (failure.toRpcError platform.canhttp))] := by
        simp only [answered,message,requestFailed,begun,sent]
      have unpaid : AttemptEvent.charged (.began started) = none := by
        rw [AttemptEvent.charged,sent]
        rfl
      have ended : AttemptEvent.charged (.ended started.data (.error failure)) = none := rfl
      simp only [note,answers,List.append_assoc,List.drop_length,List.drop_left,List.map_nil,List.append_nil,
        List.singleton_append,List.filterMap_cons,List.filterMap_nil,unpaid,ended,Outcome.done.injEq] at seen
      subst observation
      refine ⟨Nat.zero_le 1,fun _ none => absurd none List.not_mem_nil,fun expected received told => ?_⟩
      have same := Except.error.inj (Answer.request.inj (List.mem_singleton.mp told))
      obtain ⟨quoted,given,short⟩ := quoted_of_refused begun sent same.symm
      exact ⟨query_of_requestCost quoted,given,short,rfl⟩

theorem observed_of_sent (message : event.message = .request service jsonRpcPayload maxResponseBytes available)
    {started : Started} {after : Memory M} {charged : Charged} (begun : request platform.regex platform.http
      platform.canhttp canister.memory service jsonRpcPayload maxResponseBytes available = .done (.ok started,after))
    (sent : started.sent = .ok charged) :
    ∃ observation, canister.observed platform (.message event) = .done observation ∧
      observation.charged = [charged.charged] := by
  have taken := requestCall_of_sent begun sent
  rw [show canister.requestCall platform service jsonRpcPayload maxResponseBytes available =
    canister.act platform (.message event) by rw [act,step,message]] at taken
  refine ⟨_,Outcome.bind_eq_done.mpr ⟨_,taken,rfl⟩,?_⟩
  simp [note,AttemptEvent.charged,sent,Except.toOption]

/-- What requests are built and priced from stays as it is until the keys are changed. -/
theorem run_steady (waits : canister.Waits platform) {between : List Event}
    (keeps : ∀ event ∈ between, event.message.updatesKeys = false) :
    canister.memory.Steady (Runs.run (step platform) canister between).memory := by
  induction between generalizing canister with
  | nil => exact .refl _
  | cons event between ih =>
    rw [Runs.run_cons]
    have first := advance_steady waits (keeps event List.mem_cons_self)
    exact first.trans (ih (advance_waits waits event) (fun other inside => keeps other (List.mem_cons_of_mem _ inside)))

end Canister

section Runs
variable {M : Type} {event : Event} {service : RpcService} {jsonRpcPayload : String} {maxResponseBytes : UInt64}
  {available : U128}

/-- In every run, the quote for a request is what it is charged, or told that it lacks, until the keys are changed,
whatever other messages come in between. -/
theorem quotes_last (platform : Platform M) (memory : Memory M) (past between : List Event)
    (keeps : ∀ event ∈ between, event.message.updatesKeys = false)
    (message : event.message = .request service jsonRpcPayload maxResponseBytes available) {observation : Observation}
    (seen : (Runs.run (Canister.step platform) (.initial platform memory) (past ++ between)).observed platform
      (.message event) = .done observation) :
    AsQuoted ((Runs.run (Canister.step platform) (.initial platform memory) past).query platform
      (.requestCost service jsonRpcPayload maxResponseBytes)) available observation := by
  have steady := Canister.run_steady (Canister.run_waits platform memory past) keeps
  have quoted := Canister.asQuoted_of_observed message seen
  rw [Runs.run_append] at quoted
  rwa [Canister.query,steady.requestCost,← Canister.query] at quoted

private theorem sent_gasPrice {memory : Memory M} (original : memory.overrideProvider = .default) (regex : Regex) :
    ∃ started after charged, request regex .reference .reference memory (.custom ⟨"https://rpc.test",none⟩)
      gasPrice.body.text 1000 U128.MAX = .done (.ok started,after) ∧ started.sent = .ok charged := by
  obtain ⟨converted,built⟩ := serviceRequestBuilder_gasPrice
  obtain ⟨charged,sent⟩ : ∃ charged, (attempted .reference .reference (.ofMemory memory) ⟨"request"⟩ false U128.MAX 0
      "rpc.test" gasPrice).sent = .ok charged := by
    rw [sent_attempted,numbered,if_neg Bool.false_ne_true,built]
    exact ⟨_,if_neg (fun short => absurd short.2 (not_lt.mpr (Fin.le_last _)))⟩
  exact ⟨_,_,charged,request_gasPrice original regex U128.MAX,sent⟩

/-- The quote of a new canister is what is charged after a call that was repeated. -/
theorem quotes_last_for_gasPrice : ∃ observation quote,
    (Runs.run (Canister.step .reference) (.initial .reference (.fresh ReferenceTimedMap.reference))
      ([] ++ repeatedCall)).observed .reference (.message gasPriceRequest) = .done observation ∧
    observation.charged = [quote] ∧
    AsQuoted ((Runs.run (Canister.step .reference) (.initial .reference (.fresh ReferenceTimedMap.reference)) []).query
      .reference (.requestCost (.custom ⟨"https://rpc.test",none⟩) gasPrice.body.text 1000)) U128.MAX observation := by
  have keeps : ∀ event ∈ repeatedCall, event.message.updatesKeys = false := by decide
  have steady := Canister.run_steady (Canister.run_waits .reference (.fresh ReferenceTimedMap.reference) []) keeps
  rw [← Runs.run_append] at steady
  have quoted := @quotes_last _ gasPriceRequest _ _ _ _ .reference (.fresh ReferenceTimedMap.reference) [] repeatedCall
    keeps rfl
  generalize Runs.run (Canister.step .reference) (.initial .reference (.fresh ReferenceTimedMap.reference))
    ([] ++ repeatedCall) = canister at steady quoted ⊢
  have original : canister.memory.overrideProvider = .default := by
    obtain ⟨_,_,_,same⟩ := steady
    rw [same]
    rfl
  obtain ⟨started,after,charged,begun,sent⟩ := sent_gasPrice original Platform.reference.regex
  obtain ⟨observation,seen,paid⟩ := @Canister.observed_of_sent _ .reference canister gasPriceRequest _ _ _ _ rfl _ _ _
    begun sent
  exact ⟨observation,_,seen,paid,quoted seen⟩

end Runs
end EvmRpc
