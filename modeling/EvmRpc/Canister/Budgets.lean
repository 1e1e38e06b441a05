import EvmRpc.Canister.Interleaving

/-! Budgets of calls: what the attempts of a call spend in a run comes out of what the message
that opened it has granted. -/
namespace EvmRpc
open Library

/-- An amount that the attempts of a call spend, at a message each, and that is granted when the call is opened.
What is left of it is kept in the call. -/
structure Allowance {M : Type} (platform : Platform M) where
  spent : Canister M → Event → List AttemptEvent → ℕ
  reserve : ∀ {method : RpcMethod}, EthCall method → ℕ
  granted : Canister M → Event → ℕ
  idle : ∀ canister event, spent canister event [] = 0
  kept : ∀ {method : RpcMethod} (call : EthCall method), reserve call.silent = reserve call
  opened : ∀ {canister : Canister M} {event : Event} {source : RpcServices} {config : Option RpcConfig}
    {method : RpcMethod} {transactionHash : Option Hex32} {params : Json} {available : U128} {client : EthRpcClient}
    {usage : SupportedRpcServiceUsage M} {size : ResponseSizeEstimate} {call : EthCall method} {memory : Memory M},
    event.message = .ethCall source config method transactionHash (.ok params) available →
    EthRpcClient.new platform.timed source config event.time canister.memory.okResultsTimestamps =
      .done (.ok client,usage) →
    parallelCall platform client method transactionHash params size available
      {canister.memory with okResultsTimestamps := usage} = .done (call,memory) →
    spent canister event call.journal+reserve call ≤ granted canister event
  replied : ∀ {canister : Canister M} {event : Event} {id : ℕ} {method : RpcMethod} {before call : EthCall method}
    {service : RpcService} {reply : Except IcError HttpResponse} {memory after : Memory M},
    event.message = .ethReply id service reply → before.WellFormed → before.journal = [] →
    receiveReply platform service reply before memory = .done (call,after) →
    spent canister event call.journal+reserve call ≤ reserve before

namespace Allowance
variable {M : Type} {platform : Platform M} (allowance : Allowance platform)

/-- What a message spends for the call that it is about. -/
def spentFor (id : ℕ) (canister : Canister M) (event : Event) : ℕ :=
  allowance.spent canister event (canister.journalFor platform id event)

def grantedFor (id : ℕ) (canister : Canister M) (event : Event) : ℕ :=
  if canister.Opens platform id event then allowance.granted canister event else 0

def reserveFor (id : ℕ) (canister : Canister M) : ℕ :=
  match canister.calls id with
  | some (.eth _ call) => allowance.reserve call
  | _ => 0

def spentOf (memory : Memory M) (events : List Event) (id : ℕ) : ℕ :=
  (Runs.outputs (Canister.step platform) (allowance.spentFor id) (.initial platform memory) events).sum

def grantedOf (memory : Memory M) (events : List Event) (id : ℕ) : ℕ :=
  (Runs.outputs (Canister.step platform) (allowance.grantedFor id) (.initial platform memory) events).sum

variable {allowance} {canister next : Canister M} {event : Event} {id : ℕ}

theorem reserveFor_of_open {method : RpcMethod} {call : EthCall method} (found : canister.calls id = some (.eth method call)) :
    allowance.reserveFor id canister = allowance.reserve call := by
  rw [reserveFor,found]

theorem reserveFor_of_closed (shut : canister.isOpen id = false) : allowance.reserveFor id canister = 0 := by
  unfold Canister.isOpen at shut
  unfold reserveFor
  split
  · rename_i found
    rw [found] at shut
    cases shut
  · rfl

theorem reserveFor_congr (same : ∀ method call, next.calls id = some (.eth method call) ↔
    canister.calls id = some (.eth method call)) : allowance.reserveFor id next = allowance.reserveFor id canister := by
  cases opened : canister.isOpen id with
  | true =>
    obtain ⟨method,call,found⟩ := Canister.isOpen_eq_true.mp opened
    rw [reserveFor_of_open found,reserveFor_of_open ((same method call).mpr found)]
  | false =>
    have shut : next.isOpen id = false := by
      rw [Bool.eq_false_iff] at opened ⊢
      intro now
      obtain ⟨method,call,found⟩ := Canister.isOpen_eq_true.mp now
      exact opened (Canister.isOpen_eq_true.mpr ⟨method,call,(same method call).mp found⟩)
    rw [reserveFor_of_closed opened,reserveFor_of_closed shut]

/-- A call that goes on or ends has spent what its journal says, and keeps no more than it had. -/
theorem proceed_spent {method : RpcMethod} {call : EthCall method} {memory : Memory M} {now : Timestamp}
    (proceeded : Canister.proceed platform now id call memory canister = .done next) (before : Canister M) (event : Event) :
    allowance.spent before event (next.journal.drop canister.journal.length)+allowance.reserveFor id next ≤
      allowance.spent before event call.journal+allowance.reserve call := by
  rw [proceed_journal proceeded,List.drop_left]
  refine Nat.add_le_add_left ?_ _
  obtain ⟨_,_,_,_,_,_,_,rfl⟩ | ⟨_,rfl⟩ := Canister.proceed_cases proceeded
  · rw [reserveFor_of_closed (by simp [Canister.isOpen])]
    exact Nat.zero_le _
  · rw [@reserveFor_of_open _ _ _ _ _ _ call.silent (Function.update_self ..)]
    exact (allowance.kept call).le

/-- A message that begins no attempt for a call takes nothing from its budget. -/
theorem unspent (nothing : canister.journalFor platform id event = [])
    (kept : allowance.reserveFor id next = allowance.reserveFor id canister) :
    allowance.spentFor id canister event+allowance.reserveFor id next ≤
      allowance.reserveFor id canister+allowance.grantedFor id canister event := by
  rw [spentFor,nothing,allowance.idle,kept,Nat.zero_add]
  exact Nat.le_add_right _ _

theorem advance_budget (waits : canister.Waits platform) (id : ℕ) (event : Event) :
    allowance.spentFor id canister event+
      allowance.reserveFor id (Runs.advance (Canister.step platform) canister event) ≤
        allowance.reserveFor id canister+allowance.grantedFor id canister event := by
  cases taken : canister.step platform event with
  | trap message =>
    apply unspent (Canister.journalFor_of_trap taken)
    rw [Runs.advance_trap _ taken]
  | done next =>
    rw [Runs.advance_done _ taken]
    have unconcerned (other : canister.subject event ≠ some id) (same : next.calls id = canister.calls id) :
        allowance.spentFor id canister event+allowance.reserveFor id next ≤
          allowance.reserveFor id canister+allowance.grantedFor id canister event := by
      apply unspent (if_neg other)
      exact reserveFor_congr (fun method call => by rw [same])
    cases Canister.step_eth waits.balanced taken with
    | silent _ _ refused calls =>
      apply unspent _ (reserveFor_congr (calls id))
      rw [Canister.journalFor_of_done taken]
      split
      · rename_i about
        rw [(refused id about).2,List.drop_length]
      · rfl
    | opened message chosen begun proceeded =>
      obtain ⟨grown,frame⟩ := Canister.proceed_frame proceeded
      have about : canister.subject event = some canister.nextCall := by rw [Canister.subject,message]
      by_cases same : id = canister.nextCall
      · subst id
        have spent := @proceed_spent _ _ allowance {canister with nextCall := canister.nextCall+1} _ _ _ _ _ _ proceeded
          canister event
        have given := allowance.opened message chosen begun
        rw [spentFor,Canister.journalFor_of_done taken,if_pos about,grantedFor,
          if_pos ((Canister.opens_of_done taken).mpr ⟨about,rfl,grown⟩)]
        exact (spent.trans given).trans (Nat.le_add_left _ _)
      · exact unconcerned (fun named => same (Option.some.inj (about.symm.trans named)).symm) (frame id same)
    | @replied named method before call _ service reply message found received proceeded =>
      obtain ⟨_,frame⟩ := Canister.proceed_frame proceeded
      have about : canister.subject event = some named := by rw [Canister.subject,message]
      by_cases same : id = named
      · subst id
        obtain ⟨cleared,wellFormed⟩ := waits.balanced.opened _ _ _ found
        have spent := @proceed_spent _ _ allowance _ _ _ _ _ _ _ proceeded canister event
        have left := @Allowance.replied _ _ allowance canister _ _ _ _ _ _ _ _ _ message wellFormed cleared received
        rw [spentFor,Canister.journalFor_of_done taken,if_pos about,reserveFor_of_open found]
        exact (spent.trans left).trans (Nat.le_add_right _ _)
      · exact unconcerned (fun named => same (Option.some.inj (about.symm.trans named)).symm) (frame id same)

/-- No call spends more in a run than it was granted. -/
theorem run_budget (allowance : Allowance platform) (memory : Memory M) (events : List Event) (id : ℕ) :
    allowance.spentOf memory events id ≤ allowance.grantedOf memory events id := by
  have budget := @Runs.budget_run _ _ (Canister.step platform) (Canister.Waits platform) (allowance.spentFor id)
    (allowance.grantedFor id) (allowance.reserveFor id) (fun _ event waits => Canister.advance_waits waits event)
    (fun _ event waits => advance_budget waits id event) (.initial platform memory) (Canister.run_waits platform memory [])
    events
  have none : allowance.reserveFor id (.initial platform memory) = 0 := rfl
  rw [none,Nat.zero_add] at budget
  exact (Nat.le_add_right _ _).trans budget

end Allowance
end EvmRpc
