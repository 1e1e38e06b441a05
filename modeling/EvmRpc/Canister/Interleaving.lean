import EvmRpc.Canister.Inconsistency
import EvmRpc.RpcClient.Sessions

/-! Calls that overlap: each of them goes through its own session, whatever messages to other
calls come between its replies, and ends with one answer. -/
namespace EvmRpc
open Library

namespace Message

/-- The reply that a message brings to the call with an identifier. -/
def replyTo (id : ℕ) : Message → Option (RpcService × Except IcError HttpResponse)
  | .ethReply other service reply => if other = id then some (service,reply) else none
  | _ => none

end Message

def repliesTo (id : ℕ) (events : List Event) : List (RpcService × Except IcError HttpResponse) :=
  events.filterMap (fun event => event.message.replyTo id)

namespace Canister
variable {M : Type}

def delivered (id : ℕ) (canister : Canister M) (event : Event) : List (Delivery M) :=
  (event.message.replyTo id).toList.map (fun (service,reply) => ⟨canister.memory,service,reply⟩)

/-- The call that a message is about, if it is an eth call or a reply to one. -/
def subject (canister : Canister M) (event : Event) : Option ℕ :=
  match event.message with
  | .ethCall .. => some canister.nextCall
  | .ethReply id _ _ => some id
  | _ => none

/-- The answers that a message to the call with an identifier gives. -/
def answers (platform : Platform M) (id : ℕ) (canister : Canister M) (event : Event) : List Completion :=
  if canister.subject event = some id then
    (Runs.advance (step platform) canister event).completed.drop canister.completed.length
  else []

/-- What the attempts of the call with an identifier do at a message to it. -/
def journalFor (platform : Platform M) (id : ℕ) (canister : Canister M) (event : Event) : List AttemptEvent :=
  if canister.subject event = some id then
    (Runs.advance (step platform) canister event).journal.drop canister.journal.length
  else []

def Opens (platform : Platform M) (id : ℕ) (canister : Canister M) (event : Event) : Prop :=
  canister.subject event = some id ∧ canister.nextCall = id ∧
    (Runs.advance (step platform) canister event).nextCall = id+1

instance (platform : Platform M) (id : ℕ) (canister : Canister M) (event : Event) :
    Decidable (canister.Opens platform id event) := inferInstanceAs (Decidable (_ ∧ _ ∧ _))

def isOpen (id : ℕ) (canister : Canister M) : Bool :=
  match canister.calls id with
  | some (.eth _ _) => true
  | _ => false

/-- The services that an open call waits for. -/
def awaited (id : ℕ) (canister : Canister M) : List RpcService :=
  match canister.calls id with
  | some (.eth _ call) => call.pending.map Prod.fst
  | _ => []

/-- Balanced, with something in flight for each eth call that is open. -/
structure Waits (platform : Platform M) (canister : Canister M) : Prop where
  balanced : canister.Balanced platform.canhttp
  pending : ∀ id method call, canister.calls id = some (.eth method call) → call.pending ≠ []

/-- What a message can do to eth calls: nothing, open one under the next identifier, or move one
that is open. -/
inductive EthStep (platform : Platform M) (canister : Canister M) (event : Event) (next : Canister M) : Prop where
  | silent (answered : next.completed = canister.completed) (grown : canister.nextCall ≤ next.nextCall)
      (refused : ∀ id, canister.subject event = some id →
        next.nextCall = canister.nextCall ∧ next.journal = canister.journal)
      (calls : ∀ id method call, next.calls id = some (.eth method call) ↔ canister.calls id = some (.eth method call))
  | opened {source : RpcServices} {config : Option RpcConfig} {method : RpcMethod} {transactionHash : Option Hex32}
      {params : Json} {available : U128} {client : EthRpcClient} {usage : SupportedRpcServiceUsage M}
      {size : ResponseSizeEstimate} {call : EthCall method} {memory : Memory M}
      (message : event.message = .ethCall source config method transactionHash (.ok params) available)
      (chosen : EthRpcClient.new platform.timed source config event.time canister.memory.okResultsTimestamps =
        .done (.ok client,usage))
      (begun : parallelCall platform client method transactionHash params size available
        {canister.memory with okResultsTimestamps := usage} = .done (call,memory))
      (proceeded : proceed platform event.time canister.nextCall call memory
        {canister with nextCall := canister.nextCall+1} = .done next)
  | replied {id : ℕ} {method : RpcMethod} {before call : EthCall method} {memory : Memory M} {service : RpcService}
      {reply : Except IcError HttpResponse} (message : event.message = .ethReply id service reply)
      (found : canister.calls id = some (.eth method before))
      (received : receiveReply platform service reply before canister.memory = .done (call,memory))
      (proceeded : proceed platform event.time id call memory canister = .done next)

section Steps
variable {platform : Platform M} {canister next : Canister M} {now : Timestamp} {event : Event} {id : ℕ}

theorem proceed_cases {method : RpcMethod} {call : EthCall method} {memory : Memory M}
    (proceeded : proceed platform now id call memory canister = .done next) :
    (call.pending = [] ∧ ∃ results after answer metrics, collectResults platform now call memory = .done (results,after) ∧
      call.client.reply (platform.reduce method) platform.url call.transactionHash results after.metrics =
        (answer,metrics) ∧
      next = {canister.note call.journal with
        memory := {after with metrics := metrics}
        calls := Function.update canister.calls id none
        completed := canister.completed ++ [⟨now,method,results,answer⟩]}) ∨
    (call.pending ≠ [] ∧ next = {canister.note call.journal with
      memory := memory
      calls := Function.update canister.calls id (some (.eth method call.silent))}) := by
  unfold proceed at proceeded
  simp only at proceeded
  split at proceeded
  · rename_i complete
    obtain ⟨⟨results,after⟩,collected,proceeded⟩ := Outcome.bind_eq_done.mp proceeded
    cases proceeded
    exact .inl ⟨List.isEmpty_iff.mp complete,results,after,_,_,collected,rfl,rfl⟩
  · rename_i waits
    cases proceeded
    exact .inr ⟨fun complete => waits (List.isEmpty_iff.mpr complete),rfl⟩

theorem step_eth (balanced : canister.Balanced platform.canhttp) (taken : canister.step platform event = .done next) :
    canister.EthStep platform event next := by
  obtain ⟨time,message⟩ := event
  cases message with
  | ethCall source config method transactionHash params available =>
    obtain ⟨_,usage,chosen,rfl | ⟨client,given,size,call,memory,rfl,rfl,begun,taken⟩⟩ := ethCall_cases taken
    · exact .silent rfl le_rfl (fun _ _ => ⟨rfl,rfl⟩) (fun _ _ _ => Iff.rfl)
    · exact .opened rfl chosen begun taken
  | ethReply id service reply =>
    obtain rfl | ⟨method,call,further,memory,found,received,taken⟩ := ethReply_cases taken
    · exact .silent rfl le_rfl (fun _ _ => ⟨rfl,rfl⟩) (fun _ _ _ => Iff.rfl)
    · exact .replied rfl found received taken
  | request service jsonRpcPayload maxResponseBytes available =>
    obtain rfl | ⟨host,request,started,_,⟨charged,_,rfl⟩ | ⟨error,_,rfl⟩⟩ := requestCall_cases taken
    · exact .silent rfl le_rfl (fun _ _ => ⟨rfl,rfl⟩) (fun _ _ _ => Iff.rfl)
    · refine .silent rfl (Nat.le_succ _) (fun _ none => by cases none) (fun id method call => ?_)
      by_cases same : id = canister.nextCall
      · subst id
        simp [Function.update_self,balanced.unused]
      · simp only [Function.update_of_ne same]
    · exact .silent rfl le_rfl (fun _ none => by cases none) (fun _ _ _ => Iff.rfl)
  | requestReply id reply =>
    obtain rfl | ⟨started,found,rfl⟩ := requestReply_cases taken
    · exact .silent rfl le_rfl (fun _ none => by cases none) (fun _ _ _ => Iff.rfl)
    · refine .silent rfl le_rfl (fun _ none => by cases none) (fun other method call => ?_)
      by_cases same : other = id
      · subst other
        simp [Function.update_self,found]
      · simp only [Function.update_of_ne same]
  | updateApiKeys caller isController apiKeys =>
    obtain ⟨memory,_,taken⟩ := Outcome.bind_eq_done.mp taken
    cases taken
    exact .silent rfl le_rfl (fun _ none => by cases none) (fun _ _ _ => Iff.rfl)

/-- A call that goes on or ends leaves the other calls as they are. -/
theorem proceed_frame {method : RpcMethod} {call : EthCall method} {memory : Memory M}
    (proceeded : proceed platform now id call memory canister = .done next) :
    next.nextCall = canister.nextCall ∧ ∀ other, other ≠ id → next.calls other = canister.calls other := by
  obtain ⟨_,_,_,_,_,_,_,rfl⟩ | ⟨_,rfl⟩ := proceed_cases proceeded
  · exact ⟨rfl,fun other apart => Function.update_of_ne apart _ _⟩
  · exact ⟨rfl,fun other apart => Function.update_of_ne apart _ _⟩

theorem Waits.step (waits : canister.Waits platform) (taken : canister.step platform event = .done next) :
    next.Waits platform := by
  refine ⟨step_balanced waits.balanced taken,?_⟩
  have moved {id later : ℕ} {method : RpcMethod} {call : EthCall method} {memory : Memory M}
      (proceeded : proceed platform event.time id call memory {canister with nextCall := later} = .done next) :
      ∀ id method call, next.calls id = some (.eth method call) → call.pending ≠ [] := by
    obtain ⟨_,_,_,_,_,_,_,rfl⟩ | ⟨flying,rfl⟩ := proceed_cases proceeded
    · exact forall_eth_update waits.pending (by simp) id
    · apply forall_eth_update waits.pending _ id
      intro method call same
      cases same
      exact flying
  cases step_eth waits.balanced taken with
  | silent _ _ _ calls => exact fun id method call found => waits.pending id method call ((calls id method call).mp found)
  | opened _ _ _ proceeded => exact moved proceeded
  | replied _ _ _ proceeded => exact @moved _ canister.nextCall _ _ _ proceeded

theorem run_waits (platform : Platform M) (memory : Memory M) (events : List Event) :
    (Runs.run (Canister.step platform) (initial platform memory) events).Waits platform := by
  refine Runs.invariant _ (Waits platform) _ ⟨run_balanced platform memory [],?_⟩
    (fun _ _ _ before taken => before.step taken) events
  exact fun id method call found => absurd found (initial_unused platform memory id _)

end Steps

section Sessions
variable {platform : Platform M} {canister next : Canister M} {event : Event} {id : ℕ} {method : RpcMethod}

/-- The canister keeps a call as its session has left it, without the journal. -/
def Shows (id : ℕ) (canister : Canister M) (own : EthCall method) : Prop :=
  canister.calls id = some (.eth method own.silent)

theorem isOpen_eq_true : canister.isOpen id = true ↔ ∃ method call, canister.calls id = some (.eth method call) := by
  unfold isOpen
  cases canister.calls id with
  | none => simp
  | some opened => cases opened <;> simp

theorem Shows.isOpen {own : EthCall method} (shown : canister.Shows id own) : canister.isOpen id = true :=
  isOpen_eq_true.mpr ⟨method,_,shown⟩

theorem delivered_reply (time : Timestamp) (service : RpcService) (reply : Except IcError HttpResponse) :
    delivered id canister ⟨time,.ethReply id service reply⟩ = [⟨canister.memory,service,reply⟩] := by
  simp [delivered,Message.replyTo]

theorem delivered_other (other : canister.subject event ≠ some id) : delivered id canister event = [] := by
  obtain ⟨time,message⟩ := event
  cases message with
  | ethReply named service reply =>
    have apart : named ≠ id := fun same => other (congrArg some same)
    simp [delivered,Message.replyTo,apart]
  | _ => rfl

theorem step_nextCall (balanced : canister.Balanced platform.canhttp) (taken : canister.step platform event = .done next) :
    canister.nextCall ≤ next.nextCall := by
  cases step_eth balanced taken with
  | silent _ grown _ _ => exact grown
  | opened _ _ _ proceeded => exact (Nat.le_succ _).trans (proceed_frame proceeded).1.ge
  | replied _ _ _ proceeded => exact (proceed_frame proceeded).1.ge

theorem advance_nextCall (waits : canister.Waits platform) (event : Event) :
    canister.nextCall ≤ (Runs.advance (Canister.step platform) canister event).nextCall := by
  cases taken : canister.step platform event with
  | done next => exact (Runs.advance_done _ taken).symm ▸ step_nextCall waits.balanced taken
  | trap message => exact (Runs.advance_trap _ taken).symm ▸ le_rfl

theorem advance_waits (waits : canister.Waits platform) (event : Event) :
    (Runs.advance (Canister.step platform) canister event).Waits platform :=
  @Runs.advance_holds _ _ (Canister.step platform) (Waits platform) (fun _ _ _ => Waits.step) canister event waits

/-- A message about another call does nothing to a call that was begun. -/
theorem step_other (balanced : canister.Balanced platform.canhttp) (begun : id < canister.nextCall)
    (other : canister.subject event ≠ some id) (taken : canister.step platform event = .done next)
    (call : EthCall method) :
    next.calls id = some (.eth method call) ↔ canister.calls id = some (.eth method call) := by
  cases step_eth balanced taken with
  | silent _ _ _ calls => exact calls id method call
  | opened _ _ _ proceeded => rw [(proceed_frame proceeded).2 id (Nat.ne_of_lt begun)]
  | @replied named _ _ _ _ _ _ message _ _ proceeded =>
    have apart : id ≠ named := by
      rintro rfl
      exact other (by rw [subject,message])
    rw [(proceed_frame proceeded).2 id apart]

theorem collectResults_silent {own other : EthCall method} (same : other.silent = own.silent) (now : Timestamp)
    (memory : Memory M) : collectResults platform now other memory = collectResults platform now own memory := by
  rw [EthCall.eq_of_silent same]
  rfl

/-- A reply to an open call never traps. It moves the session of the call, which goes on or ends
with the results of the session. -/
theorem Waits.reply (waits : canister.Waits platform) {own : EthCall method} (shown : canister.Shows id own)
    (time : Timestamp) (service : RpcService) (reply : Except IcError HttpResponse) :
    ∃ next moved memory, canister.step platform ⟨time,.ethReply id service reply⟩ = .done next ∧
      receiveReply platform service reply own canister.memory = .done (moved,memory) ∧
      ((moved.pending ≠ [] ∧ next.Shows id moved) ∨
        (moved.pending = [] ∧ next.isOpen id = false ∧ ∃ results after answer metrics,
          collectResults platform time moved memory = .done (results,after) ∧
          moved.client.reply (platform.reduce method) platform.url moved.transactionHash results after.metrics =
            (answer,metrics) ∧
          next.completed = canister.completed ++ [⟨time,method,results,answer⟩])) := by
  have found : canister.calls id = some (.eth method own.silent) := shown
  obtain ⟨_,wellFormed⟩ := waits.balanced.opened id method _ found
  obtain ⟨further,memory,received,_,kept,_⟩ := @receiveReply_step _ platform _ _ wellFormed service reply canister.memory
  obtain ⟨moved,received',same⟩ := @receiveReply_silent _ _ _ _ own.silent _ own _ _ rfl _ received
  have flying : moved.pending = further.pending := by rw [EthCall.eq_of_silent same]
  obtain ⟨next,proceeded⟩ : ∃ next, proceed platform time id further memory canister = .done next := by
    unfold proceed
    by_cases complete : further.pending = []
    · obtain ⟨results,collected,_⟩ := @collectResults_of_wellFormed _ platform _ _ kept complete time memory
      rw [if_pos (List.isEmpty_iff.mpr complete),collected]
      exact ⟨_,rfl⟩
    · rw [if_neg (fun empty => complete (List.isEmpty_iff.mp empty))]
      exact ⟨_,rfl⟩
  refine ⟨next,moved,memory,?_,received',?_⟩
  · simp only [Canister.step,ethReply,found]
    exact Outcome.bind_eq_done.mpr ⟨_,received,proceeded⟩
  · obtain ⟨complete,results,after,answer,metrics,collected,replied,rfl⟩ | ⟨waiting,rfl⟩ := proceed_cases proceeded
    · refine .inr ⟨flying.trans complete,by simp [Canister.isOpen],results,after,answer,metrics,?_,?_,rfl⟩
      · rw [collectResults_silent same]
        exact collected
      · rw [EthCall.eq_of_silent same]
        exact replied
    · refine .inl ⟨fun complete => waiting (flying.symm.trans complete),?_⟩
      rw [Shows,same]
      exact Function.update_self ..

/-- An open call is shown as it is kept. -/
theorem Waits.shown (waits : canister.Waits platform) {call : EthCall method}
    (found : canister.calls id = some (.eth method call)) : canister.Shows id call := by
  rw [Shows,found,EthCall.silent]
  rw [← (waits.balanced.opened id method call found).1]

/-- Only a reply moves a call that was begun. -/
theorem subject_reply (begun : id < canister.nextCall) (about : canister.subject event = some id) :
    ∃ time service reply, event = ⟨time,.ethReply id service reply⟩ := by
  obtain ⟨time,message⟩ := event
  cases message with
  | ethCall source config method transactionHash params available =>
    exact absurd (Option.some.inj about) (Nat.ne_of_gt begun)
  | ethReply named service reply =>
    obtain rfl : named = id := Option.some.inj about
    exact ⟨time,service,reply,rfl⟩
  | request service jsonRpcPayload maxResponseBytes available => cases about
  | requestReply named reply => cases about
  | updateApiKeys caller isController apiKeys => cases about

/-- A call that is open goes through the session of its own replies. -/
theorem serves (platform : Platform M) (id : ℕ) (method : RpcMethod) :
    Runs.Serves (Canister.step platform) (EthCall.deliver platform) (delivered id)
      (fun canister => canister.Waits platform ∧ id < canister.nextCall)
      (fun canister (own : EthCall method) => canister.Shows id own) (fun canister => canister.isOpen id = false) := by
  have keeps (canister : Canister M) (event : Event) (before : canister.Waits platform ∧ id < canister.nextCall) :
      (Runs.advance (Canister.step platform) canister event).Waits platform ∧
        id < (Runs.advance (Canister.step platform) canister event).nextCall :=
    ⟨advance_waits before.1 event,
      before.2.trans_le (advance_nextCall before.1 event)⟩
  constructor
  · exact keeps
  · intro canister event own ⟨waits,begun⟩ shown
    by_cases about : canister.subject event = some id
    · obtain ⟨time,service,reply,rfl⟩ := subject_reply begun about
      obtain ⟨next,moved,memory,taken,received,ended⟩ := waits.reply shown time service reply
      rw [Runs.advance_done _ taken,delivered_reply,Runs.run_singleton,
        Runs.advance_done _ (EthCall.deliver_eq_done.mpr ⟨memory,received⟩)]
      exact ended.imp And.right (fun finished => finished.2.1)
    · rw [delivered_other about]
      refine .inl ?_
      cases taken : canister.step platform event with
      | done next =>
        rw [Runs.advance_done _ taken]
        exact (step_other waits.balanced begun about taken _).mpr shown
      | trap message =>
        rw [Runs.advance_trap _ taken]
        exact shown
  · intro canister event ⟨waits,begun⟩ ended
    have shut : ∀ method call, canister.calls id ≠ some (.eth method call) := fun method call found => by
      rw [isOpen_eq_true.mpr ⟨method,call,found⟩] at ended
      cases ended
    rw [Bool.eq_false_iff,Ne,isOpen_eq_true]
    rintro ⟨method,call,found⟩
    cases taken : canister.step platform event with
    | trap message =>
      rw [Runs.advance_trap _ taken] at found
      exact shut method call found
    | done next =>
      rw [Runs.advance_done _ taken] at found
      by_cases about : canister.subject event = some id
      · cases step_eth waits.balanced taken with
        | silent _ _ _ calls => exact shut method call ((calls id method call).mp found)
        | opened message _ _ _ =>
          rw [subject,message] at about
          exact absurd (Option.some.inj about) (Nat.ne_of_gt begun)
        | replied message open' _ _ =>
          rw [subject,message] at about
          cases about
          exact shut _ _ open'
      · exact shut method call ((step_other waits.balanced begun about taken call).mp found)

/-- What reaches a call are the replies that are addressed to it. -/
theorem deliveries_own (platform : Platform M) (id : ℕ) (canister : Canister M) (events : List Event) :
    (Runs.deliveries (Canister.step platform) (delivered id) canister events).map
      (fun delivery => (delivery.service,delivery.reply)) = repliesTo id events := by
  induction events generalizing canister with
  | nil => rfl
  | cons event events ih =>
    rw [Runs.deliveries_cons,List.map_append,ih,repliesTo,repliesTo,List.filterMap_cons,delivered]
    cases event.message.replyTo id <;> rfl

end Sessions

section Answers
variable {platform : Platform M} {canister next : Canister M} {event : Event} {id : ℕ}

def openers (platform : Platform M) (id : ℕ) (canister : Canister M) (event : Event) : List Event :=
  if canister.Opens platform id event then [event] else []

def openCount (id : ℕ) (canister : Canister M) : ℕ := if canister.isOpen id then 1 else 0

theorem answers_of_done (taken : canister.step platform event = .done next) :
    canister.answers platform id event =
      if canister.subject event = some id then next.completed.drop canister.completed.length else [] := by
  rw [answers,Runs.advance_done _ taken]

theorem journalFor_of_done (taken : canister.step platform event = .done next) :
    canister.journalFor platform id event =
      if canister.subject event = some id then next.journal.drop canister.journal.length else [] := by
  rw [journalFor,Runs.advance_done _ taken]

theorem journalFor_of_trap {message : String} (aborted : canister.step platform event = .trap message) :
    canister.journalFor platform id event = [] := by
  rw [journalFor,Runs.advance_trap _ aborted,List.drop_length,ite_self]

theorem opens_of_done (taken : canister.step platform event = .done next) :
    canister.Opens platform id event ↔
      canister.subject event = some id ∧ canister.nextCall = id ∧ next.nextCall = id+1 := by
  rw [Opens,Runs.advance_done _ taken]

theorem openCount_congr (same : ∀ method call, next.calls id = some (.eth method call) ↔
    canister.calls id = some (.eth method call)) : next.openCount id = canister.openCount id := by
  have alike : next.isOpen id = canister.isOpen id := by
    rw [Bool.eq_iff_iff,isOpen_eq_true,isOpen_eq_true]
    simp only [same]
  rw [openCount,openCount,alike]

/-- A call that goes on stays open, and one that ends is answered. -/
theorem proceed_answers {method : RpcMethod} {call : EthCall method} {memory : Memory M} {now : Timestamp}
    (proceeded : proceed platform now id call memory canister = .done next) :
    1 = (next.completed.drop canister.completed.length).length + next.openCount id := by
  obtain ⟨_,_,_,_,_,_,_,rfl⟩ | ⟨_,rfl⟩ := proceed_cases proceeded
  · simp [openCount,isOpen]
  · simp [note,openCount,isOpen]

/-- A message about another call leaves it as it is. -/
theorem unconcerned (other : canister.subject event ≠ some id) (taken : canister.step platform event = .done next)
    (same : ∀ method call, next.calls id = some (.eth method call) ↔ canister.calls id = some (.eth method call)) :
    (canister.openers platform id event).length + canister.openCount id =
      (canister.answers platform id event).length + next.openCount id := by
  rw [openers,if_neg (fun opens => other ((opens_of_done taken).mp opens).1),answers_of_done taken,if_neg other,
    openCount_congr same]
  rfl

/-- Of one message: calls that it opens and calls that were open are answered by it or open after it. -/
theorem advance_answers (waits : canister.Waits platform) (id : ℕ) (event : Event) :
    (canister.openers platform id event).length + canister.openCount id = (canister.answers platform id event).length +
      (Runs.advance (Canister.step platform) canister event).openCount id := by
  cases taken : canister.step platform event with
  | trap message =>
    have unopened : ¬ canister.Opens platform id event := by
      rintro ⟨_,here,grown⟩
      rw [Runs.advance_trap _ taken] at grown
      omega
    rw [openers,if_neg unopened,answers,Runs.advance_trap _ taken,List.drop_length]
    split <;> rfl
  | done next =>
    rw [Runs.advance_done _ taken]
    cases step_eth waits.balanced taken with
    | silent answered _ refused calls =>
      have idle : ¬ canister.Opens platform id event := by
        intro opens
        obtain ⟨about,here,grown⟩ := (opens_of_done taken).mp opens
        have still := (refused id about).1
        omega
      rw [openers,if_neg idle,answers_of_done taken,answered,List.drop_length,openCount_congr (calls id)]
      split <;> rfl
    | opened message _ _ proceeded =>
      obtain ⟨grown,frame⟩ := proceed_frame proceeded
      have about : canister.subject event = some canister.nextCall := by rw [subject,message]
      by_cases same : id = canister.nextCall
      · subst id
        have shut : canister.openCount canister.nextCall = 0 := by
          simp [openCount,isOpen,waits.balanced.unused]
        rw [openers,if_pos ((opens_of_done taken).mpr ⟨about,rfl,grown⟩),answers_of_done taken,if_pos about,shut]
        exact @proceed_answers _ _ {canister with nextCall := canister.nextCall+1} _ _ _ _ _ _ proceeded
      · apply unconcerned _ taken
        · intro method call
          rw [frame id same]
        · rw [about]
          exact fun named => same (Option.some.inj named).symm
    | @replied named method before call _ service reply message found received proceeded =>
      obtain ⟨kept,frame⟩ := proceed_frame proceeded
      have about : canister.subject event = some named := by rw [subject,message]
      by_cases same : id = named
      · subst id
        have idle : ¬ canister.Opens platform named event := fun opens =>
          Nat.ne_of_gt (waits.balanced.used found) ((opens_of_done taken).mp opens).2.1
        have before : canister.openCount named = 1 := by simp [openCount,isOpen,found]
        rw [openers,if_neg idle,answers_of_done taken,if_pos about,before]
        exact proceed_answers proceeded
      · apply unconcerned _ taken
        · intro method call
          rw [frame id same]
        · rw [about]
          exact fun named => same (Option.some.inj named).symm

theorem opens_next (opens : canister.Opens platform id event) :
    canister.nextCall ≤ id ∧ id < (Runs.advance (Canister.step platform) canister event).nextCall := by
  obtain ⟨_,here,grown⟩ := opens
  exact ⟨here.le,grown ▸ Nat.lt_succ_self id⟩

/-- What a message adds to the answers is an answer to the call that it is about. -/
theorem completed_of_advance (waits : canister.Waits platform) {completion : Completion}
    (inside : completion ∈ (Runs.advance (Canister.step platform) canister event).completed) :
    completion ∈ canister.completed ∨ ∃ id, completion ∈ canister.answers platform id event := by
  cases taken : canister.step platform event with
  | trap message =>
    rw [Runs.advance_trap _ taken] at inside
    exact .inl inside
  | done next =>
    rw [Runs.advance_done _ taken] at inside
    have added {id later : ℕ} {method : RpcMethod} {call : EthCall method} {memory : Memory M}
        (about : canister.subject event = some id)
        (proceeded : proceed platform event.time id call memory {canister with nextCall := later} = .done next) :
        completion ∈ canister.completed ∨ ∃ id, completion ∈ canister.answers platform id event := by
      have kept : ∃ more, next.completed = canister.completed ++ more := by
        obtain ⟨_,_,_,_,_,_,_,rfl⟩ | ⟨_,rfl⟩ := proceed_cases proceeded
        · exact ⟨_,rfl⟩
        · exact ⟨[],(List.append_nil _).symm⟩
      obtain ⟨more,grown⟩ := kept
      rw [grown] at inside
      rcases List.mem_append.mp inside with before | new
      · exact .inl before
      · refine .inr ⟨id,?_⟩
        rw [answers_of_done taken,if_pos about,grown,List.drop_left]
        exact new
    cases step_eth waits.balanced taken with
    | silent answered _ _ _ => exact .inl (answered ▸ inside)
    | opened message _ _ proceeded => exact added (by rw [subject,message]) proceeded
    | replied message _ _ proceeded =>
      exact @added _ canister.nextCall _ _ _ (by rw [subject,message]) proceeded

end Answers
end Canister

section Runs
variable {M : Type}

/-- The messages of a run that open the call with an identifier. -/
def openersOf (platform : Platform M) (memory : Memory M) (events : List Event) (id : ℕ) : List Event :=
  Runs.deliveries (Canister.step platform) (Canister.openers platform id) (.initial platform memory) events

/-- The answers that a run gives to the call with an identifier. -/
def answersOf (platform : Platform M) (memory : Memory M) (events : List Event) (id : ℕ) : List Completion :=
  Runs.deliveries (Canister.step platform) (Canister.answers platform id) (.initial platform memory) events

/-- An identifier is given to one call at most, which is either open or has one answer. -/
structure AnsweredOnce (platform : Platform M) (memory : Memory M) (events : List Event) (id : ℕ) : Prop where
  once : (openersOf platform memory events id).length ≤ 1
  balance : (openersOf platform memory events id).length = (answersOf platform memory events id).length +
    (Runs.run (Canister.step platform) (.initial platform memory) events).openCount id

private theorem openersOf_unused (platform : Platform M) (memory : Memory M) (events : List Event) {id : ℕ}
    (unused : (Runs.run (Canister.step platform) (.initial platform memory) events).nextCall ≤ id) :
    openersOf platform memory events id = [] := by
  induction events using List.reverseRecOn with
  | nil => rfl
  | append_singleton past event ih =>
    have waits := Canister.run_waits platform memory past
    rw [Runs.run_concat] at unused
    rw [openersOf,Runs.deliveries_concat,← openersOf,ih ((Canister.advance_nextCall waits event).trans unused),
      Canister.openers,if_neg (fun opens => absurd (Canister.opens_next opens).2 (Nat.not_lt.mpr unused))]
    rfl

theorem answers_balance {platform : Platform M} {canister : Canister M} (waits : canister.Waits platform)
    {id : ℕ} (begun : id < canister.nextCall) (events : List Event) :
    canister.openCount id =
      (Runs.deliveries (Canister.step platform) (Canister.answers platform id) canister events).length +
        (Runs.run (Canister.step platform) canister events).openCount id := by
  induction events generalizing canister with
  | nil => exact (Nat.zero_add _).symm
  | cons event events ih =>
    have moved := Canister.advance_answers waits id event
    have unopened : canister.openers platform id event = [] := by
      rw [Canister.openers,if_neg]
      exact fun opens => absurd (Canister.opens_next opens).1 (Nat.not_le.mpr begun)
    have rest := ih (Canister.advance_waits waits event) (begun.trans_le (Canister.advance_nextCall waits event))
    rw [Runs.deliveries_cons,List.length_append,Runs.run_cons]
    rw [unopened,List.length_nil] at moved
    omega

/-- What becomes of an open call: it goes through its own session, which other messages touch only by the
identifiers that they take from the counter, and the only answer it gets is made of what the session has left. -/
structure ServedAlone {method : RpcMethod} (platform : Platform M) (begun : Canister M) (later : List Event) (id : ℕ)
    (call : EthCall method) : Prop where
  replies : (Runs.deliveries (Canister.step platform) (Canister.delivered id) begun later).map
    (fun delivery => (delivery.service,delivery.reply)) = repliesTo id later
  counters : ∀ others, List.Forall₂ Delivery.Alike
      (Runs.deliveries (Canister.step platform) (Canister.delivered id) begun later) others →
    call.served platform others =
      call.served platform (Runs.deliveries (Canister.step platform) (Canister.delivered id) begun later)
  ends : ((Runs.run (Canister.step platform) begun later).Shows id
        (call.served platform (Runs.deliveries (Canister.step platform) (Canister.delivered id) begun later)) ∧
      Runs.deliveries (Canister.step platform) (Canister.answers platform id) begun later = []) ∨
    ∃ front last rest, later = front ++ last::rest ∧
      let final := call.served platform
        (Runs.deliveries (Canister.step platform) (Canister.delivered id) begun (front ++ [last]))
      final.pending = [] ∧ ∃ results answer,
        (∀ memory, ∃ after metrics, collectResults platform last.time final memory = .done (results,after) ∧
          final.client.reply (platform.reduce method) platform.url final.transactionHash results after.metrics =
            (answer,metrics)) ∧
        Runs.deliveries (Canister.step platform) (Canister.answers platform id) begun later =
          [⟨last.time,method,results,answer⟩]

private theorem ends_of_closed {platform : Platform M} {canister : Canister M} (waits : canister.Waits platform)
    {id : ℕ} (begun : id < canister.nextCall) {method : RpcMethod} {own : EthCall method} (shown : canister.Shows id own)
    {event : Event} (shut : (Runs.advance (Canister.step platform) canister event).isOpen id = false) :
    let final := own.served platform (canister.delivered id event)
    final.pending = [] ∧ ∃ results answer,
      (∀ memory, ∃ after metrics, collectResults platform event.time final memory = .done (results,after) ∧
        final.client.reply (platform.reduce method) platform.url final.transactionHash results after.metrics =
          (answer,metrics)) ∧
      canister.answers platform id event = [⟨event.time,method,results,answer⟩] := by
  by_cases about : canister.subject event = some id
  · obtain ⟨time,service,reply,rfl⟩ := Canister.subject_reply begun about
    obtain ⟨next,moved,memory,taken,received,goesOn | ⟨complete,_,results,after,answer,metrics,collected,replied,added⟩⟩ :=
      waits.reply shown time service reply
    · rw [Runs.advance_done _ taken,goesOn.2.isOpen] at shut
      cases shut
    · rw [Canister.delivered_reply,EthCall.served,Runs.run_singleton,
        Runs.advance_done _ (EthCall.deliver_eq_done.mpr ⟨memory,received⟩)]
      refine ⟨complete,results,answer,?_,?_⟩
      · intro other
        obtain ⟨left,collected'⟩ := collectResults_memory collected other
        refine ⟨left,_,collected',Prod.ext ?_ rfl⟩
        rw [reply_answer _ _ _ _ _ _ after.metrics,replied]
      · rw [Canister.answers_of_done taken,if_pos about,added,List.drop_left]
  · have moved := (Canister.serves platform id method).moves canister event own ⟨waits,begun⟩ shown
    cases taken : Canister.step platform canister event with
    | trap message =>
      rw [Runs.advance_trap _ taken,shown.isOpen] at shut
      cases shut
    | done next =>
      have kept := (Canister.step_other waits.balanced begun about taken own.silent).mpr shown
      rw [Runs.advance_done _ taken,Canister.isOpen_eq_true.mpr ⟨_,_,kept⟩] at shut
      cases shut

theorem Canister.Waits.servedAlone {platform : Platform M} {begun : Canister M} (waits : begun.Waits platform) {id : ℕ}
    {method : RpcMethod} {call : EthCall method} (found : begun.calls id = some (.eth method call)) (later : List Event) :
    ServedAlone platform begun later id call := by
  have used := waits.balanced.used found
  have shown := waits.shown found
  have opened : begun.openCount id = 1 := by rw [Canister.openCount,shown.isOpen]; rfl
  have wellFormed := (waits.balanced.opened id method call found).2
  refine ⟨Canister.deliveries_own platform id begun later,fun others alike => EthCall.served_alike wellFormed alike,?_⟩
  have serves := Canister.serves platform id method
  obtain here | ⟨front,last,rest,rfl,before,shut⟩ := serves.run_own ⟨waits,used⟩ shown later
  · refine .inl ⟨here,List.length_eq_zero_iff.mp ?_⟩
    have balance := answers_balance waits used later
    rw [opened,Canister.openCount,here.isOpen] at balance
    simpa using balance.symm
  · obtain ⟨waits',used'⟩ := Runs.run_holds serves.preserved ⟨waits,used⟩ front
    have final := ends_of_closed waits' used' before ((Runs.run_concat (Canister.step platform) begun front last) ▸ shut)
    obtain ⟨complete,results,answer,collected,last'⟩ := final
    have none' : Runs.deliveries (Canister.step platform) (Canister.answers platform id) begun front = [] := by
      have balance := answers_balance waits used front
      rw [opened,Canister.openCount,before.isOpen] at balance
      exact List.length_eq_zero_iff.mp (by simpa using balance.symm)
    have quiet : Runs.deliveries (Canister.step platform) (Canister.answers platform id)
        (Runs.run (Canister.step platform) begun (front ++ [last])) rest = [] := by
      obtain ⟨waits'',used''⟩ := Runs.run_holds serves.preserved ⟨waits,used⟩ (front ++ [last])
      have balance := answers_balance waits'' used'' rest
      rw [Canister.openCount,shut] at balance
      exact List.length_eq_zero_iff.mp (Nat.eq_zero_of_add_eq_zero_right balance.symm)
    refine .inr ⟨front,last,rest,rfl,?_⟩
    rw [Runs.deliveries_concat,EthCall.served,Runs.run_append]
    refine ⟨complete,results,answer,collected,?_⟩
    have split : front ++ last::rest = (front ++ [last]) ++ rest := by simp
    rw [split,Runs.deliveries_append,quiet,Runs.deliveries_concat,none',last']
    rfl

/-- In every run, an open call is where its own replies have brought it, with the identifiers that they found,
whatever other calls were made meanwhile. Once it is closed, these replies have made its answer. -/
theorem open_calls_served_alone (platform : Platform M) (memory : Memory M) (past later : List Event) {id : ℕ}
    {method : RpcMethod} {call : EthCall method}
    (found : (Runs.run (Canister.step platform) (.initial platform memory) past).calls id = some (.eth method call)) :
    ServedAlone platform (Runs.run (Canister.step platform) (.initial platform memory) past) later id call := by
  apply Canister.Waits.servedAlone _ found
  exact Canister.run_waits platform memory past

/-- A call to the default providers of a chain. -/
def mainnetCall : Event := ⟨1,.ethCall (.ethMainnet none) none .ethCall none (.ok .null) 0⟩

def overlapping : List Event :=
  [⟨1,.ethCall (.custom 1 [⟨"https://rpc.test",none⟩]) none .ethCall none (.ok .null) 0⟩,
    ⟨1,.ethCall (.custom 1 [⟨"https://rpc.test",none⟩]) none .ethGetLogs none (.ok .null) 0⟩]

theorem open_calls_served_alone_for_custom : ∃ method call,
    (Runs.run (Canister.step .reference) (.initial .reference demo) overlapping).calls 0 = some (.eth method call) ∧
      ServedAlone .reference (Runs.run (Canister.step .reference) (.initial .reference demo) overlapping)
        [⟨2,.ethReply 1 (.custom ⟨"https://rpc.test",none⟩) (.error ⟨.sysTransient,"timeout"⟩)⟩,
          ⟨3,.ethReply 0 (.custom ⟨"https://rpc.test",none⟩) (.error ⟨.sysTransient,"timeout"⟩)⟩] 0 call := by
  have waits : (Runs.run (Canister.step .reference) (.initial .reference demo) overlapping).isOpen 0 = true := by
    decide +kernel
  obtain ⟨method,call,found⟩ := Canister.isOpen_eq_true.mp waits
  exact ⟨method,call,found,open_calls_served_alone .reference demo overlapping _ found⟩

theorem answeredOnce (platform : Platform M) (memory : Memory M) (events : List Event) (id : ℕ) :
    AnsweredOnce platform memory events id := by
  induction events using List.reverseRecOn with
  | nil => exact ⟨Nat.zero_le 1,rfl⟩
  | append_singleton past event ih =>
    obtain ⟨once,balance⟩ := ih
    have moved := Canister.advance_answers (Canister.run_waits platform memory past) id event
    have opened : openersOf platform memory (past ++ [event]) id = openersOf platform memory past id ++
        (Runs.run (Canister.step platform) (.initial platform memory) past).openers platform id event :=
      Runs.deliveries_concat _ _ _
    have answered : answersOf platform memory (past ++ [event]) id = answersOf platform memory past id ++
        (Runs.run (Canister.step platform) (.initial platform memory) past).answers platform id event :=
      Runs.deliveries_concat _ _ _
    constructor
    · rw [opened,List.length_append]
      by_cases opens : (Runs.run (Canister.step platform) (.initial platform memory) past).Opens platform id event
      · rw [openersOf_unused platform memory past (Canister.opens_next opens).1,Canister.openers,if_pos opens]
        exact le_rfl
      · rw [Canister.openers,if_neg opens]
        exact once
    · rw [opened,answered,List.length_append,List.length_append,Runs.run_concat]
      omega

/-- However calls overlap, each one that is opened is answered once, when it is no longer open, and
nothing else is answered. -/
theorem calls_answered_once (platform : Platform M) (memory : Memory M) (events : List Event) :
    (∀ id, AnsweredOnce platform memory events id) ∧
    ∀ completion ∈ (Runs.run (Canister.step platform) (.initial platform memory) events).completed,
      ∃ id, completion ∈ answersOf platform memory events id := by
  refine ⟨answeredOnce platform memory events,?_⟩
  induction events using List.reverseRecOn with
  | nil => exact fun completion inside => absurd inside List.not_mem_nil
  | append_singleton past event known =>
    intro completion inside
    rw [Runs.run_concat] at inside
    rcases Canister.completed_of_advance (Canister.run_waits platform memory past) inside with before | ⟨id,new⟩
    · obtain ⟨id,listed⟩ := known completion before
      refine ⟨id,?_⟩
      rw [answersOf,Runs.deliveries_concat]
      exact List.mem_append_left _ listed
    · refine ⟨id,?_⟩
      rw [answersOf,Runs.deliveries_concat]
      exact List.mem_append_right _ new

end Runs
end EvmRpc
