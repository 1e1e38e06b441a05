import EvmRpc.Canister.Budgets
import EvmRpc.Canister.Charges

/-! What callers pay: a call takes no more than was attached to it, however often its attempts are
repeated, and what it takes covers its outcalls. -/
namespace EvmRpc
open Library

def Message.attached : Message → ℕ
  | .ethCall _ _ _ _ _ available => available.val
  | .request _ _ _ available => available.val
  | _ => 0

def AttemptEvent.accepted : AttemptEvent → ℕ
  | .began started => started.accepted
  | .ended _ _ => 0

/-- The cycles that attempts have taken from their callers. -/
def acceptedIn (journal : List AttemptEvent) : ℕ := (journal.map AttemptEvent.accepted).sum

def AttemptEvent.outcall : AttemptEvent → Option Charged
  | .began started => started.sent.toOption
  | .ended _ _ => none

/-- The outcalls that attempts have made. -/
def outcallsIn (journal : List AttemptEvent) : List Charged := journal.filterMap AttemptEvent.outcall

@[simp] theorem acceptedIn_nil : acceptedIn [] = 0 := rfl

@[simp] theorem acceptedIn_append (past later : List AttemptEvent) :
    acceptedIn (past ++ later) = acceptedIn past+acceptedIn later := by
  simp [acceptedIn]

@[simp] theorem acceptedIn_began (started : Started) (journal : List AttemptEvent) :
    acceptedIn (.began started::journal) = started.accepted+acceptedIn journal := rfl

@[simp] theorem acceptedIn_ended (data : MetricData) (outcome : Except HttpClientError UInt16)
    (journal : List AttemptEvent) : acceptedIn (.ended data outcome::journal) = acceptedIn journal := Nat.zero_add _

section Prices
variable {http : HttpCrate} {canhttp : Canhttp} {accounting : CyclesAccounting} {method : MetricRpcMethod} {retry : Bool}
  {available : U128} {counter : UInt64} {host : String} {request : HttpJsonRpcRequest} {charged : Charged}

theorem convert_eq_ok {converted : IcHttpRequest} (sent : accounting.convert canhttp available converted = .ok charged) :
    charged.attached = canhttp.costOfHttpRequest accounting.nodes charged.request ∧
      charged.charged = accounting.policy.cyclesToCharge charged.attached ∧ charged.charged ≤ available := by
  simp only [CyclesAccounting.convert] at sent
  split at sent
  · cases sent
  · rename_i enough
    cases sent
    refine ⟨rfl,rfl,?_⟩
    by_cases free : 0 < accounting.policy.cyclesToCharge (canhttp.costOfHttpRequest accounting.nodes converted)
    · exact not_lt.mp (fun short => enough ⟨free,short⟩)
    · exact (not_lt.mp free).trans (Fin.zero_le _)

theorem attempted_eq_ok
    (sent : (attempted http canhttp accounting method retry available counter host request).sent = .ok charged) :
    charged.attached = canhttp.costOfHttpRequest accounting.nodes charged.request ∧
      charged.charged = accounting.policy.cyclesToCharge charged.attached ∧ charged.charged ≤ available := by
  rw [sent_attempted] at sent
  cases built : serviceRequestBuilder http canhttp (numbered retry counter request) with
  | error error =>
    rw [built] at sent
    cases sent
  | ok converted =>
    rw [built] at sent
    exact convert_eq_ok sent

theorem accepted_of_sent {started : Started} (sent : started.sent = .ok charged) :
    started.accepted = charged.charged.val := by
  rw [Started.accepted,sent]
  rfl

theorem accepted_of_failed {started : Started} {error : HttpClientError} (failed : started.sent = .error error) :
    started.accepted = 0 := by
  rw [Started.accepted,failed]
  rfl

/-- An attempt takes no more than is there. -/
theorem accepted_attempted_le :
    (attempted http canhttp accounting method retry available counter host request).accepted ≤ available.val := by
  cases sent : (attempted http canhttp accounting method retry available counter host request).sent with
  | error error =>
    rw [accepted_of_failed sent]
    exact Nat.zero_le _
  | ok charged =>
    rw [accepted_of_sent sent]
    exact (attempted_eq_ok sent).2.2

end Prices

section Calls
variable {M : Type} {platform : Platform M} {method : RpcMethod} {service : RpcService} {request : HttpJsonRpcRequest}
  {requests : List (RpcService × HttpJsonRpcRequest)} {call next : EthCall method} {memory after : Memory M}

/-- What a call has taken and what is left for it. -/
def EthCall.cycles (call : EthCall method) : ℕ := acceptedIn call.journal+call.available.val

theorem launch_cycles (launched : launch platform service request call memory = .done (next,after)) :
    next.cycles = call.cycles := by
  obtain ⟨started,middle,begun,⟨charged,sent,_,rfl⟩ | ⟨error,failed,_,rfl⟩⟩ := launch_cases launched
  · obtain ⟨host,_,rfl,_⟩ := startAttempt_eq_done begun
    have enough := (attempted_eq_ok sent).2.2
    have taken := accepted_of_sent sent
    have left : (call.available-charged.charged).val = call.available.val-charged.charged.val := Fin.sub_val_of_le enough
    have bound : charged.charged.val ≤ call.available.val := enough
    simp only [EthCall.cycles,EthCall.note,acceptedIn_append,acceptedIn_began,acceptedIn_nil]
    omega
  · have nothing := accepted_of_failed failed
    simp [EthCall.cycles,EthCall.note,EthCall.settle,nothing]

theorem launchAll_cycles (launched : launchAll platform requests call memory = .done (next,after)) :
    next.cycles = call.cycles := by
  induction requests generalizing call memory with
  | nil =>
    cases launched
    rfl
  | cons entry requests ih =>
    rw [launchAll,List.foldlM_cons] at launched
    obtain ⟨⟨middle,between⟩,first,rest⟩ := Outcome.bind_eq_done.mp launched
    rw [ih rest,launch_cycles first]

theorem parallelCall_cycles {client : EthRpcClient} {transactionHash : Option Hex32} {params : Json}
    {size : ResponseSizeEstimate} {available : U128}
    (begun : parallelCall platform client method transactionHash params size available memory = .done (call,after)) :
    call.cycles = available.val := by
  obtain ⟨requests,_,launched⟩ := Outcome.bind_eq_done.mp begun
  rw [launchAll_cycles launched]
  exact Nat.zero_add _

theorem receiveReply_cycles {reply : Except IcError HttpResponse}
    (received : receiveReply platform service reply call memory = .done (next,after)) : next.cycles = call.cycles := by
  have ended (attempt : Attempt) (outcome : Except HttpClientError UInt16) :
      ((call.forget service).note (.ended attempt.started.data outcome)).cycles = call.cycles := by
    simp [EthCall.cycles,EthCall.note,EthCall.forget]
  unfold receiveReply at received
  split at received
  · cases received
    rfl
  · simp only at received
    split at received
    · rw [launch_cycles received,ended]
    · cases received
      exact ended _ _

end Calls

section Runs
variable {M : Type}

/-- A call may take the cycles that are attached to it. -/
def Allowance.cycles (platform : Platform M) : Allowance platform where
  spent := fun _ _ => acceptedIn
  reserve := fun call => call.available.val
  granted := fun _ event => event.message.attached
  idle := fun _ _ => rfl
  kept := fun _ => rfl
  opened := by
    intro canister event source config method transactionHash params available client usage size call memory message
      chosen begun
    rw [message]
    exact (parallelCall_cycles begun).le
  replied := by
    intro canister event id method before call service reply memory after _ _ cleared received
    have kept := receiveReply_cycles received
    have none : before.cycles = before.available.val := by rw [EthCall.cycles,cleared]; exact Nat.zero_add _
    exact (kept.trans none).le

/-- What a run takes for the call with an identifier. -/
def takenOf (platform : Platform M) (memory : Memory M) (events : List Event) (id : ℕ) : ℕ :=
  (Allowance.cycles platform).spentOf memory events id

def attachedOf (platform : Platform M) (memory : Memory M) (events : List Event) (id : ℕ) : ℕ :=
  (Allowance.cycles platform).grantedOf memory events id

/-- A message that is not about an eth call takes what is attached to it at most. -/
theorem Canister.step_accepted {platform : Platform M} {canister next : Canister M} {event : Event}
    (other : canister.subject event = none) (taken : canister.step platform event = .done next) :
    acceptedIn (next.journal.drop canister.journal.length) ≤ event.message.attached := by
  have unchanged (events : List AttemptEvent) (same : next.journal = canister.journal ++ events) :
      acceptedIn (next.journal.drop canister.journal.length) = acceptedIn events := by
    rw [same,List.drop_left]
  obtain ⟨time,message⟩ := event
  cases message with
  | ethCall source config method transactionHash params available => cases other
  | ethReply id service reply => cases other
  | request service jsonRpcPayload maxResponseBytes available =>
    obtain rfl | ⟨host,request,started,rfl,⟨charged,_,rfl⟩ | ⟨error,_,rfl⟩⟩ := requestCall_cases taken
    · rw [unchanged [] (List.append_nil _).symm]
      exact Nat.zero_le _
    · rw [unchanged _ rfl,acceptedIn_began,acceptedIn_nil]
      exact accepted_attempted_le
    · rw [unchanged _ rfl,acceptedIn_began,acceptedIn_ended,acceptedIn_nil]
      exact accepted_attempted_le
  | requestReply id reply =>
    obtain rfl | ⟨started,_,rfl⟩ := requestReply_cases taken
    · rw [unchanged [] (List.append_nil _).symm]
      exact Nat.zero_le _
    · rw [unchanged _ rfl,acceptedIn_ended,acceptedIn_nil]
      exact Nat.zero_le _
  | updateApiKeys caller isController apiKeys =>
    obtain ⟨memory,_,taken⟩ := Outcome.bind_eq_done.mp taken
    cases taken
    rw [unchanged [] (List.append_nil _).symm]
    exact Nat.zero_le _

/-- In every run, all the attempts of a call together take no more than was attached to the message
that opened it, and a message of any other kind takes no more than was attached to itself. -/
theorem payments_are_attached (platform : Platform M) (memory : Memory M) (events : List Event) :
    (∀ id, takenOf platform memory events id ≤ attachedOf platform memory events id) ∧
      ∀ event, let canister := Runs.run (Canister.step platform) (.initial platform memory) events
        canister.subject event = none → acceptedIn
          ((Runs.advance (Canister.step platform) canister event).journal.drop canister.journal.length) ≤
            event.message.attached := by
  refine ⟨(Allowance.cycles platform).run_budget memory events,?_⟩
  intro event canister other
  cases taken : Canister.step platform canister event with
  | done next =>
    rw [Runs.advance_done _ taken]
    exact Canister.step_accepted other taken
  | trap message =>
    rw [Runs.advance_trap _ taken,List.drop_length]
    exact Nat.zero_le _

/-- What is to be taken for an outcall: its price and the collateral, as far as a caller can have
that much. -/
def Charged.due (collateral : ℕ) (charged : Charged) : ℕ := min (charged.attached.val+collateral) (2^128-1)

theorem U128.saturatingAdd_val (a b : U128) : (a.saturatingAdd b).val = min (a.val+b.val) (2^128-1) := by
  unfold U128.saturatingAdd
  split
  · rename_i small
    exact (Nat.min_eq_left (Nat.le_sub_one_of_lt small)).symm
  · rename_i large
    rw [Nat.min_eq_right ((Nat.sub_le _ _).trans (Nat.not_lt.mp large))]
    rfl

/-- A sum over the outcalls of a journal, when every attempt that failed adds nothing. -/
private theorem sum_outcalls {journal : List AttemptEvent} {due : Charged → ℕ}
    (each : ∀ started, .began started ∈ journal → ∀ charged, started.sent = .ok charged →
      charged.charged.val = due charged) : acceptedIn journal = ((outcallsIn journal).map due).sum := by
  induction journal with
  | nil => rfl
  | cons event journal ih =>
    have rest := ih (fun started inside => each started (List.mem_cons_of_mem _ inside))
    cases event with
    | ended data outcome => rw [acceptedIn_ended,rest,outcallsIn,outcallsIn,List.filterMap_cons_none rfl]
    | began started =>
      rw [acceptedIn_began,rest,outcallsIn]
      cases sent : started.sent with
      | error error =>
        have silent : AttemptEvent.outcall (.began started) = none := by rw [AttemptEvent.outcall,sent]; rfl
        rw [accepted_of_failed sent,Nat.zero_add,outcallsIn,List.filterMap_cons_none silent]
      | ok charged =>
        have made : AttemptEvent.outcall (.began started) = some charged := by rw [AttemptEvent.outcall,sent]; rfl
        rw [accepted_of_sent sent,each started List.mem_cons_self charged sent,outcallsIn,
          List.filterMap_cons_some made,List.map_cons,List.sum_cons]

/-- In every run, each outcall carries the price of its request at the size of the subnet. Nothing is
taken in demo mode; otherwise what callers pay is the price and the collateral of each outcall, so
that they pay for all of them. -/
theorem outcalls_are_paid_for (platform : Platform M) (memory : Memory M) (events : List Event) :
    let journal := (Runs.run (Canister.step platform) (.initial platform memory) events).journal
    (∀ charged ∈ outcallsIn journal,
      charged.attached = platform.canhttp.costOfHttpRequest memory.numSubnetNodes charged.request) ∧
    (memory.isDemoActive = true → acceptedIn journal = 0) ∧
    (memory.isDemoActive = false →
      acceptedIn journal = ((outcallsIn journal).map (Charged.due
        (CyclesAccounting.ofMemory memory).policy.collateralCycles.val)).sum ∧
      ((outcallsIn journal).map (fun charged => charged.attached.val)).sum ≤ acceptedIn journal) := by
  intro journal
  have genuine : Genuine platform (.ofMemory memory) journal := (Canister.run_silent platform memory events).unpublished.genuine
  have sent (started : Started) (inside : .began started ∈ journal) (charged : Charged)
      (made : started.sent = .ok charged) :
      charged.attached = platform.canhttp.costOfHttpRequest memory.numSubnetNodes charged.request ∧
        charged.charged = (CyclesAccounting.ofMemory memory).policy.cyclesToCharge charged.attached := by
    obtain ⟨_,_,_,_,_,_,rfl⟩ := genuine started inside
    exact ⟨(attempted_eq_ok made).1,(attempted_eq_ok made).2.1⟩
  refine ⟨?_,?_,?_⟩
  · intro charged listed
    obtain ⟨event,inside,made⟩ := List.mem_filterMap.mp listed
    cases event with
    | ended data outcome => cases made
    | began started =>
      rw [AttemptEvent.outcall] at made
      cases result : started.sent with
      | error error =>
        rw [result] at made
        cases made
      | ok other =>
        rw [result] at made
        cases made
        exact (sent started inside _ result).1
  · intro demo
    have free : acceptedIn journal = ((outcallsIn journal).map (fun _ => 0)).sum := by
      apply sum_outcalls
      intro started inside charged made
      rw [(sent started inside charged made).2]
      simp [CyclesAccounting.ofMemory,ChargingPolicyWithCollateral.default,ChargingPolicyWithCollateral.new,
        ChargingPolicyWithCollateral.cyclesToCharge,demo]
    rw [free]
    simp
  · intro pays
    have due : acceptedIn journal = ((outcallsIn journal).map (Charged.due
        (CyclesAccounting.ofMemory memory).policy.collateralCycles.val)).sum := by
      apply sum_outcalls
      intro started inside charged made
      rw [(sent started inside charged made).2,ChargingPolicyWithCollateral.cyclesToCharge,if_pos,U128.saturatingAdd_val]
      · rfl
      · simp [CyclesAccounting.ofMemory,ChargingPolicyWithCollateral.default,ChargingPolicyWithCollateral.new,pays]
    refine ⟨due,?_⟩
    rw [due]
    apply List.sum_le_sum
    intro charged _
    exact le_min (Nat.le_add_right _ _) (Nat.le_sub_one_of_lt charged.attached.isLt)

end Runs
end EvmRpc
