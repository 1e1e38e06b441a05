import EvmRpc.Library.Sessions
import EvmRpc.RpcClient.Isolation

/-! A call on its own: what the replies to it make of it, whatever other calls do to the
memory between them. -/
namespace EvmRpc
open Library

/-- A reply that reaches a call, with the memory that it finds. -/
structure Delivery (M : Type) where
  memory : Memory M
  service : RpcService
  reply : Except IcError HttpResponse

namespace EthCall
variable {M : Type} {method : RpcMethod}

/-- A call as the canister keeps it, without what its attempts did so far. -/
def silent (call : EthCall method) : EthCall method := {call with journal := []}

def deliver (platform : Platform M) (call : EthCall method) (delivery : Delivery M) : Outcome (EthCall method) := do
  let (next,_) ← receiveReply platform delivery.service delivery.reply call delivery.memory
  .done next

/-- A session: a call after replies, each of which may find another memory. -/
def served (platform : Platform M) (call : EthCall method) (deliveries : List (Delivery M)) : EthCall method :=
  Runs.run (deliver platform) call deliveries

end EthCall

section Silence
variable {M : Type} {platform : Platform M} {method : RpcMethod} {service : RpcService} {request : HttpJsonRpcRequest}
  {call next other : EthCall method} {memory after : Memory M}

theorem EthCall.eq_of_silent (same : other.silent = call.silent) : other = {call with journal := other.journal} := by
  obtain ⟨client,hash,accounting,available,errors,pending,settled,journal⟩ := other
  simp only [silent,EthCall.mk.injEq] at same
  obtain ⟨rfl,rfl,rfl,rfl,rfl,rfl,rfl,_⟩ := same
  rfl

/-- Nothing that a call does depends on what is noted of its attempts. -/
theorem launch_silent (same : other.silent = call.silent)
    (launched : launch platform service request call memory = .done (next,after)) :
    ∃ moved, launch platform service request other memory = .done (moved,after) ∧ moved.silent = next.silent := by
  rw [EthCall.eq_of_silent same]
  obtain ⟨⟨started,middle⟩,begun,launched⟩ := Outcome.bind_eq_done.mp launched
  unfold launch
  simp only [begun,Outcome.done_bind]
  cases sent : started.sent with
  | ok charged =>
    simp only [sent,Outcome.done.injEq,Prod.mk.injEq] at launched
    obtain ⟨rfl,rfl⟩ := launched
    exact ⟨_,rfl,rfl⟩
  | error error =>
    simp only [sent,Outcome.done.injEq,Prod.mk.injEq] at launched
    obtain ⟨rfl,rfl⟩ := launched
    exact ⟨_,rfl,rfl⟩

theorem receiveReply_silent (same : other.silent = call.silent) {reply : Except IcError HttpResponse}
    (received : receiveReply platform service reply call memory = .done (next,after)) :
    ∃ moved, receiveReply platform service reply other memory = .done (moved,after) ∧ moved.silent = next.silent := by
  have waiting : other.pending = call.pending := by rw [EthCall.eq_of_silent same]
  unfold receiveReply at received ⊢
  rw [waiting]
  split at received
  · cases received
    exact ⟨other,rfl,same⟩
  · rename_i attempt found
    have kept (event : AttemptEvent) : ((other.forget service).note event).silent =
        ((call.forget service).note event).silent := by
      rw [EthCall.eq_of_silent same]
      rfl
    simp only at received ⊢
    split at received
    · rename_i renewed again
      obtain ⟨moved,launched,silent⟩ := launch_silent (kept _) received
      refine ⟨moved,?_,silent⟩
      simpa only [again] using launched
    · simp only [Outcome.done.injEq,Prod.mk.injEq] at received
      obtain ⟨rfl,rfl⟩ := received
      simp only [Outcome.done.injEq,Prod.mk.injEq]
      refine ⟨_,⟨rfl,trivial⟩,?_⟩
      rw [EthCall.eq_of_silent same]
      rfl

end Silence

/-- The same reply, which finds the same counter of request identifiers. -/
structure Delivery.Alike {M : Type} (delivery other : Delivery M) : Prop where
  service : other.service = delivery.service
  reply : other.reply = delivery.reply
  counter : other.memory.httpRequestCounter = delivery.memory.httpRequestCounter

section Counters
variable {M : Type} {platform : Platform M} {method : RpcMethod} {service : RpcService} {request : HttpJsonRpcRequest}
  {call next : EthCall method} {memory after other : Memory M}

/-- Of the memory that it finds, an attempt takes nothing but its identifier. -/
theorem launch_counter (same : other.httpRequestCounter = memory.httpRequestCounter)
    (launched : launch platform service request call memory = .done (next,after)) :
    ∃ left, launch platform service request call other = .done (next,left) := by
  obtain ⟨⟨started,middle⟩,begun,launched⟩ := Outcome.bind_eq_done.mp launched
  obtain ⟨host,named,rfl,rfl⟩ := startAttempt_eq_done begun
  have begun' := @startAttempt_of_host _ platform.http platform.canhttp other call.accounting method.toMetric true
    call.available request host named (numbered_identified _ _)
  unfold launch
  simp only [begun',Outcome.done_bind,same]
  simp only at launched
  generalize attempted platform.http platform.canhttp call.accounting method.toMetric true call.available
    memory.httpRequestCounter host request = started at launched ⊢
  cases sent : started.sent with
  | ok charged =>
    simp only [sent,Outcome.done.injEq,Prod.mk.injEq] at launched ⊢
    exact ⟨_,launched.1,rfl⟩
  | error error =>
    simp only [sent,Outcome.done.injEq,Prod.mk.injEq] at launched ⊢
    exact ⟨_,launched.1,rfl⟩

theorem receiveReply_counter (same : other.httpRequestCounter = memory.httpRequestCounter)
    {reply : Except IcError HttpResponse}
    (received : receiveReply platform service reply call memory = .done (next,after)) :
    ∃ left, receiveReply platform service reply call other = .done (next,left) := by
  unfold receiveReply at received ⊢
  split at received
  · cases received
    exact ⟨other,rfl⟩
  · simp only at received
    split at received
    · rename_i renewed again
      simp only [again]
      refine launch_counter ?_ received
      exact same
    · rename_i last
      simp only [last,Outcome.done.injEq,Prod.mk.injEq] at received ⊢
      exact ⟨_,received.1,rfl⟩

/-- The results of a call are the same in any memory. -/
theorem collectResults_memory {now : Timestamp} {results : CallResults method}
    (collected : collectResults platform now call memory = .done (results,after)) (other : Memory M) :
    ∃ left, collectResults platform now call other = .done (results,left) := by
  obtain ⟨settled,first,collected⟩ := Outcome.bind_eq_done.mp collected
  obtain ⟨all,second,collected⟩ := Outcome.bind_eq_done.mp collected
  simp only at collected
  split at collected
  · rename_i counted
    cases collected
    unfold collectResults
    simp only [first,second,Outcome.done_bind,if_pos counted]
    exact ⟨_,rfl⟩
  · cases collected

/-- The answer of an endpoint depends on no metric. -/
theorem reply_answer (crate : Reduce RpcService method.JsonType RpcError) (url : Url) (client : EthRpcClient)
    (transactionHash : Option Hex32) (results : CallResults method) (metrics others : Metrics) :
    (client.reply crate url transactionHash results metrics).1 = (client.reply crate url transactionHash results others).1 := by
  simp only [EthRpcClient.reply,processResult]
  split
  · rfl
  · rfl
  · rfl

end Counters

section Sessions
variable {M : Type} {platform : Platform M} {method : RpcMethod} {call next : EthCall method}

theorem EthCall.deliver_eq_done {delivery : Delivery M} : call.deliver platform delivery = .done next ↔
    ∃ after, receiveReply platform delivery.service delivery.reply call delivery.memory = .done (next,after) := by
  rw [deliver,Outcome.bind_eq_done]
  constructor
  · rintro ⟨⟨moved,after⟩,received,same⟩
    cases same
    exact ⟨after,received⟩
  · rintro ⟨after,received⟩
    exact ⟨_,received,rfl⟩

/-- What holds of a well formed call and survives each reply holds throughout its session. -/
theorem EthCall.served_invariant {holds : EthCall method → Prop} (wellFormed : call.WellFormed) (base : holds call)
    (preserved : ∀ (current moved : EthCall method) (delivery : Delivery M) after, current.WellFormed → holds current →
      receiveReply platform delivery.service delivery.reply current delivery.memory = .done (moved,after) →
      holds moved) (deliveries : List (Delivery M)) :
    (call.served platform deliveries).WellFormed ∧ holds (call.served platform deliveries) := by
  refine Runs.invariant _ (fun current => current.WellFormed ∧ holds current) _ ⟨wellFormed,base⟩ ?_ deliveries
  intro current delivery moved before taken
  obtain ⟨after,received⟩ := EthCall.deliver_eq_done.mp taken
  obtain ⟨_,_,received',_,kept,_⟩ := @receiveReply_step _ platform _ _ before.1 delivery.service delivery.reply
    delivery.memory
  cases received.symm.trans received'
  exact ⟨kept,preserved current moved delivery after before.1 before.2 received⟩

theorem EthCall.served_spec (wellFormed : call.WellFormed) (deliveries : List (Delivery M)) :
    (call.served platform deliveries).WellFormed ∧ call.Extends (call.served platform deliveries) := by
  apply served_invariant wellFormed ⟨rfl,rfl,rfl⟩
  intro current moved delivery after fine extension received
  obtain ⟨_,_,received',further,_⟩ := @receiveReply_step _ platform _ _ fine delivery.service delivery.reply
    delivery.memory
  cases received.symm.trans received'
  exact extension.trans further

/-- The last reply of a session finds what the ones before it have left. -/
theorem EthCall.served_concat (wellFormed : call.WellFormed) (past : List (Delivery M)) (delivery : Delivery M) :
    ∃ after, receiveReply platform delivery.service delivery.reply (call.served platform past) delivery.memory =
      .done (call.served platform (past ++ [delivery]),after) := by
  have fine : (call.served platform past).WellFormed := (served_spec wellFormed past).1
  obtain ⟨moved,after,received,_⟩ := @receiveReply_step _ platform _ _ fine delivery.service delivery.reply delivery.memory
  have last : call.served platform (past ++ [delivery]) = moved := by
    rw [served,Runs.run_concat]
    exact Runs.advance_done _ (deliver_eq_done.mpr ⟨after,received⟩)
  exact ⟨after,last ▸ received⟩

/-- The counters that its replies find are all that a session takes from the rest of the canister. -/
theorem EthCall.served_alike (wellFormed : call.WellFormed) {deliveries others : List (Delivery M)}
    (alike : List.Forall₂ Delivery.Alike deliveries others) :
    call.served platform others = call.served platform deliveries := by
  induction alike generalizing call with
  | nil => rfl
  | @cons delivery other deliveries others same _ ih =>
    obtain ⟨moved,after,received,_,kept,_⟩ := @receiveReply_step _ platform _ _ wellFormed delivery.service
      delivery.reply delivery.memory
    obtain ⟨left,received'⟩ := receiveReply_counter same.counter received
    rw [← same.service,← same.reply] at received'
    rw [served,served,Runs.run_cons,Runs.run_cons,Runs.advance_done _ (deliver_eq_done.mpr ⟨after,received⟩),
      Runs.advance_done _ (deliver_eq_done.mpr ⟨left,received'⟩)]
    exact ih kept

end Sessions
end EvmRpc
