import EvmRpc.RpcClient.Isolation

/-! Whose result is whose: what a call returns for each service, and what the replies
to one service mean for the results of the others. -/
namespace EvmRpc
open Library

def Renewed (request next : HttpJsonRpcRequest) : Prop :=
  ∃ bytes, next = {request with parts := {request.parts with maxResponseBytes := bytes}}

theorem Renewed.refl (request : HttpJsonRpcRequest) : Renewed request request := ⟨request.parts.maxResponseBytes,rfl⟩

theorem Renewed.trans {first second third : HttpJsonRpcRequest} (before : Renewed first second)
    (after : Renewed second third) : Renewed first third := by
  obtain ⟨_,rfl⟩ := before
  obtain ⟨bytes,rfl⟩ := after
  exact ⟨bytes,rfl⟩

section Outcomes
variable {M : Type} (platform : Platform M) {method : RpcMethod} (requests : List (RpcService × HttpJsonRpcRequest))
  (opened begun : EthCall method × Memory M) (past : List (RpcService × Except IcError HttpResponse))

/-- A launch of a run with the state in which it happened: the first for its service, or
one that a reply made necessary. -/
inductive Launching : RpcService → HttpJsonRpcRequest → EthCall method × Memory M → Prop where
  | first {front rest service request state} (listed : requests = front ++ (service,request)::rest)
      (launched : launchAll platform front opened.1 opened.2 = .done state) : Launching service request state
  | again {front rest service reply attempt request} (received : past = front ++ (service,reply)::rest)
      (waiting : (service,attempt) ∈ (afterReplies platform begun.1 begun.2 front).1.pending)
      (renewed : retried platform.canhttp attempt.request (replyOutcome platform method attempt reply) = some request) :
      Launching service request
        (afterAttempt platform service attempt reply (afterReplies platform begun.1 begun.2 front).1
          (afterReplies platform begun.1 begun.2 front).2)

/-- What came of the outcall for a service: a layer of the client refused its request, or the
reply that it waited for was the last one. -/
inductive OwnOutcome (service : RpcService) (request : HttpJsonRpcRequest) :
    Except HttpClientError (UInt16 × Except ServerError method.JsonType) → Prop where
  | refused {renewed state started after error}
      (launching : Launching platform requests opened begun past service renewed state)
      (same : Renewed request renewed)
      (attempted : startAttempt platform.http platform.canhttp state.1.accounting method.toMetric true
        state.1.available renewed state.2 = .done (started,after))
      (sent : started.sent = .error error) : OwnOutcome service request (.error error)
  | replied {front rest reply attempt} (received : past = front ++ (service,reply)::rest)
      (waiting : (service,attempt) ∈ (afterReplies platform begun.1 begun.2 front).1.pending)
      (same : Renewed request attempt.request)
      (last : retried platform.canhttp attempt.request (replyOutcome platform method attempt reply) = none) :
      OwnOutcome service request (replyOutcome platform method attempt reply)

/-- What is in flight or settled for a service comes from its own request. -/
structure Attributed (call : EthCall method) : Prop where
  pending : ∀ service attempt, (service,attempt) ∈ call.pending →
    ∃ request, (service,request) ∈ requests ∧ Renewed request attempt.request
  settled : ∀ service result, (service,result) ∈ call.settled →
    ∃ request outcome, (service,request) ∈ requests ∧
      OwnOutcome platform requests opened begun past service request outcome ∧
      result = intoResult platform.canhttp outcome

/-- No reply to the service has it asked again. -/
def Unretried (service : RpcService) : Prop :=
  ∀ front reply rest, past = front ++ (service,reply)::rest →
    ∀ attempt, (service,attempt) ∈ (afterReplies platform begun.1 begun.2 front).1.pending →
      retried platform.canhttp attempt.request (replyOutcome platform method attempt reply) = none

end Outcomes

section Attribution
variable {M : Type} {platform : Platform M} {method : RpcMethod} {requests : List (RpcService × HttpJsonRpcRequest)}
  {opened begun : EthCall method × Memory M} {past more : List (RpcService × Except IcError HttpResponse)}
  {service : RpcService} {request renewed : HttpJsonRpcRequest} {call next : EthCall method} {memory after : Memory M}

theorem Launching.later {state : EthCall method × Memory M}
    (launching : Launching platform requests opened begun past service request state) :
    Launching platform requests opened begun (past ++ more) service request state := by
  cases launching with
  | first listed launched => exact .first listed launched
  | again received waiting renewed =>
    subst received
    exact .again (List.append_assoc ..) waiting renewed

theorem OwnOutcome.later {outcome : Except HttpClientError (UInt16 × Except ServerError method.JsonType)}
    (own : OwnOutcome platform requests opened begun past service request outcome) :
    OwnOutcome platform requests opened begun (past ++ more) service request outcome := by
  cases own with
  | refused launching same attempted sent => exact .refused launching.later same attempted sent
  | replied received waiting same last =>
    subst received
    exact .replied (List.append_assoc ..) waiting same last

theorem Attributed.later (attributed : Attributed platform requests opened begun past call) :
    Attributed platform requests opened begun (past ++ more) call := by
  refine ⟨attributed.pending,fun service result inside => ?_⟩
  obtain ⟨request,outcome,listed,own,same⟩ := attributed.settled service result inside
  exact ⟨request,outcome,listed,own.later,same⟩

end Attribution

section Independence
variable {M : Type} {platform : Platform M} {method : RpcMethod} {begun : EthCall method × Memory M}
  {past : List (RpcService × Except IcError HttpResponse)} {service : RpcService}

private theorem Unretried.earlier {event : RpcService × Except IcError HttpResponse}
    (unretried : Unretried platform begun (past ++ [event]) service) : Unretried platform begun past service := by
  rintro front reply rest rfl
  exact unretried front reply (rest ++ [event]) (by simp)

variable {first second next next' : EthCall method × Memory M} {other : RpcService}

end Independence

section Results
variable {M : Type} {platform : Platform M} {memory after : Memory M} {method : RpcMethod} {call : EthCall method}
  {client : EthRpcClient} {transactionHash : Option Hex32} {params : Json} {size : ResponseSizeEstimate}
  {available : U128}

end Results
end EvmRpc
