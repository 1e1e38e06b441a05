import EvmRpc.Canister.Questions
import EvmRpc.Canister.Retries

/-! Why attempts are repeated and what they may bring back: nothing but a response that is too large
has one repeated, with a limit that is twice as large, up to the maximum of an outcall. -/
namespace EvmRpc
open Library

/-- A limit that is grown from an estimate by so many repetitions. -/
inductive Grown (canhttp : Canhttp) (size : ResponseSizeEstimate) : ℕ → UInt64 → Prop
  | estimate : Grown canhttp size 0 size.get
  | doubled {n : ℕ} {bytes next : UInt64} (grown : Grown canhttp size n bytes)
      (doubled : canhttp.doubled (some bytes) = some next) : Grown canhttp size (n+1) next

namespace Grown
variable {canhttp : Canhttp} {size : ResponseSizeEstimate} {n : ℕ} {bytes : UInt64}

/-- The limits of repetitions are the estimate, twice, four times as much, and so on, unless the maximum is
reached. -/
theorem twice (doubling : canhttp.DoublesLimit) (grown : Grown canhttp size n bytes) :
    bytes = HTTP_MAX_SIZE ∨ 2^n*size.get.toNat ≤ bytes.toNat := by
  induction grown with
  | estimate => exact .inr (by simp)
  | @doubled n bytes next before doubled ih =>
    obtain full | grown := doubling.doubles bytes next doubled
    · exact .inl full
    · obtain rfl | less := ih
      · -- nothing is doubled beyond the maximum
        have larger := doubling.larger _ _ doubled
        exact absurd (UInt64.lt_of_lt_of_le larger (doubling.bounded _ _ doubled)) (UInt64.lt_irrefl _)
      · refine .inr ?_
        rw [Nat.pow_succ,Nat.mul_right_comm]
        omega

theorem few (doubling : canhttp.DoublesLimit) (grown : Grown canhttp size n bytes) :
    n+retriesLeft (some bytes) ≤ 11 := by
  induction grown with
  | estimate => simpa using retriesLeft_le _
  | doubled _ doubled ih =>
    have left := retriesLeft_doubled doubling doubled
    omega

end Grown

section Limits
variable {M : Type} {platform : Platform M} {size : ResponseSizeEstimate} {method : RpcMethod} {call next : EthCall method}
  {memory after : Memory M} {service : RpcService} {request : HttpJsonRpcRequest}

end Limits

namespace Canister
variable {M : Type} {platform : Platform M} {canister : Canister M}

/-- What may have a message begin attempts for the call that it is about: the services to query, or a reply
that is too large. -/
def causes (platform : Platform M) (id : ℕ) (canister : Canister M) (event : Event) : ℕ :=
  (canister.queriedFor platform id event).length +
    (canister.delivered id event).countP (fun delivery => tooLarge platform delivery.reply)

theorem begunFor_le (waits : canister.Waits platform) (id : ℕ) (event : Event) :
    (canister.begunFor platform id event).length ≤ canister.causes platform id event := by
  obtain nothing | ⟨opens,made,few⟩ | ⟨service,reply,message,large,once⟩ := begunFor_cases waits id event
  · rw [nothing]
    exact Nat.zero_le _
  · rw [causes,queriedFor,if_pos opens,made]
    exact few.trans (Nat.le_add_right _ _)
  · obtain ⟨time,_⟩ := event
    cases message
    rw [once,causes,delivered_reply,List.countP_singleton,if_pos large]
    exact Nat.le_add_left _ _

/-- An attempt is begun by the message that opens its call, or by a reply that is too large. -/
theorem cause_of_begun (waits : canister.Waits platform) {id : ℕ} {event : Event}
    (begun : canister.begunFor platform id event ≠ []) : canister.Opens platform id event ∨
      ∃ service reply, event.message = .ethReply id service reply ∧ tooLarge platform reply = true := by
  obtain nothing | ⟨opens,_,_⟩ | ⟨service,reply,message,large,_⟩ := begunFor_cases waits id event
  · exact absurd nothing begun
  · exact .inl opens
  · exact .inr ⟨service,reply,message,large⟩

end Canister

section Runs
variable {M : Type}

/-- In every run, a call has no more attempts than services to query and replies that were too large, and each
attempt is begun by the opening message or by such a reply: whatever else goes wrong, it is not repeated. -/
theorem repetitions_have_causes (platform : Platform M) (memory : Memory M) (events : List Event) (id : ℕ) :
    (begunOf platform memory events id).length ≤ (queriedOf platform memory events id).length +
      (repliesTo id events).countP (fun reply => tooLarge platform reply.2) ∧
    ∀ past event later, events = past ++ event::later →
      let canister := Runs.run (Canister.step platform) (.initial platform memory) past
      canister.begunFor platform id event ≠ [] → canister.Opens platform id event ∨
        ∃ service reply, event.message = .ethReply id service reply ∧ tooLarge platform reply = true := by
  refine ⟨?_,fun past event _ _ begun => Canister.cause_of_begun (Canister.run_waits platform memory past) begun⟩
  have spent := @Runs.budget_run _ _ (Canister.step platform) (Canister.Waits platform)
    (fun canister event => (canister.begunFor platform id event).length) (Canister.causes platform id) (fun _ => 0)
    (fun _ event waits => Canister.advance_waits waits event)
    (fun _ event waits => by simpa using Canister.begunFor_le waits id event) (.initial platform memory)
    (Canister.run_waits platform memory []) events
  unfold Canister.causes at spent
  rw [Runs.sum_outputs_add,← Runs.length_deliveries,← Runs.length_deliveries,← Runs.countP_deliveries,Nat.add_zero,
    Nat.zero_add] at spent
  rw [← Canister.deliveries_own platform id (.initial platform memory) events,List.countP_map]
  exact spent

end Runs
end EvmRpc
