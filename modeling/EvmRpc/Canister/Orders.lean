import EvmRpc.Canister.Interleaving

/-! The order of replies: as long as no attempt is repeated, the answer to a call is the same in
whatever order its providers reply and whatever comes between their replies. -/
namespace EvmRpc
open Library

namespace MultiResults
variable {κ α ε : Type} [LinearOrder κ]

theorem precedes_total (first second : κ × Except ε α) : Precedes first second ∨ Precedes second first := by
  obtain ⟨a,result⟩ := first
  obtain ⟨b,other⟩ := second
  cases result <;> cases other
  · exact le_total a b
  · exact .inr trivial
  · exact .inl trivial
  · exact le_total a b

theorem precedes_trans {first second third : κ × Except ε α} (before : Precedes first second)
    (after : Precedes second third) : Precedes first third := by
  obtain ⟨a,one⟩ := first
  obtain ⟨b,two⟩ := second
  obtain ⟨c,three⟩ := third
  cases one <;> cases two <;> cases three <;>
    simp only [precedes_ok,precedes_error,precedes_ok_error,not_precedes_error_ok] at before after ⊢
  · exact le_trans before after
  · exact le_trans before after

theorem key_eq_of_precedes {first second : κ × Except ε α} (below : Precedes first second)
    (above : Precedes second first) : first.1 = second.1 := by
  obtain ⟨a,result⟩ := first
  obtain ⟨b,other⟩ := second
  cases result <;> cases other
  · exact le_antisymm below above
  · cases below
  · cases above
  · exact le_antisymm below above

/-- Results in the order in which they are iterated over. -/
def Ordered (results : MultiResults κ α ε) : Prop := results.entries.Pairwise Precedes

theorem insertOnce_ordered {results after : MultiResults κ α ε} {key : κ} {result : Except ε α} (ordered : results.Ordered)
    (inserted : results.insertOnce key result = .done after) : after.Ordered := by
  have total : Std.Total (Precedes (κ := κ) (α := α) (ε := ε)) := ⟨precedes_total⟩
  have transitive : IsTrans (κ × Except ε α) Precedes := ⟨fun _ _ _ => precedes_trans⟩
  unfold insertOnce at inserted
  split at inserted
  · cases inserted
  · cases inserted
    exact List.Pairwise.orderedInsert _ _ ordered

theorem insertAll_ordered {entries : List (κ × Except ε α)} {results after : MultiResults κ α ε}
    (ordered : results.Ordered) (inserted : insertAll entries results = .done after) : after.Ordered := by
  induction entries generalizing results with
  | nil =>
    cases inserted
    exact ordered
  | cons entry entries ih =>
    rw [insertAll,List.foldlM_cons] at inserted
    obtain ⟨next,first,rest⟩ := Outcome.bind_eq_done.mp inserted
    exact ih (insertOnce_ordered ordered first) rest

/-- Ordered results are known by their entries, in whatever order these are listed. -/
theorem Ordered.eq_of_perm {results others : MultiResults κ α ε} (ordered : results.Ordered) (ordered' : others.Ordered)
    (perm : results.entries.Perm others.entries) : results = others := by
  have same : results.entries = others.entries := by
    refine List.Perm.eq_of_pairwise ?_ ordered ordered' perm
    intro first second here there below above
    exact List.inj_on_of_nodup_map results.distinct here (perm.mem_iff.mpr there) (key_eq_of_precedes below above)
  cases results
  cases others
  cases same
  rfl

end MultiResults

section Sessions
variable {M : Type} {platform : Platform M} {method : RpcMethod} {call next : EthCall method} {memory after : Memory M}
  {service : RpcService} {reply : Except IcError HttpResponse}

/-- A reply after which its attempt is not repeated. -/
def EthCall.Settles (platform : Platform M) (call : EthCall method) (reply : RpcService × Except IcError HttpResponse) :
    Prop :=
  ∀ attempt, (reply.1,attempt) ∈ call.pending →
    retried platform.canhttp attempt.request (replyOutcome platform method attempt reply.2) = none

/-- What a reply settles for its service, if there is an attempt in flight for it. -/
def EthCall.settlement (platform : Platform M) (call : EthCall method)
    (reply : RpcService × Except IcError HttpResponse) : Option (RpcService × RpcResult method.JsonType) :=
  (call.pending.find? (fun entry => entry.1 = reply.1)).map
    (fun entry => (reply.1,intoResult platform.canhttp (replyOutcome platform method entry.2 reply.2)))

/-- What replies leave of a call when none of its attempts is repeated. -/
structure EthCall.SettledBy (platform : Platform M) (call : EthCall method)
    (replies : List (RpcService × Except IcError HttpResponse)) (next : EthCall method) : Prop where
  extension : call.Extends next
  pending : next.pending = call.pending.filter (fun entry => entry.1 ∉ replies.map Prod.fst)
  settled : next.settled = call.settled ++ replies.filterMap (call.settlement platform)

theorem receiveReply_settledBy (wellFormed : call.WellFormed) (settles : call.Settles platform (service,reply))
    (received : receiveReply platform service reply call memory = .done (next,after)) :
    call.SettledBy platform [(service,reply)] next := by
  obtain ⟨_,_,received',extension,_⟩ := @receiveReply_step _ platform _ _ wellFormed service reply memory
  cases received.symm.trans received'
  unfold receiveReply at received
  split at received
  · rename_i none
    cases received
    have absent : ∀ entry ∈ call.pending, entry.1 ≠ service := by simpa using List.find?_eq_none.mp none
    refine ⟨extension,?_,?_⟩
    · rw [List.filter_eq_self.mpr]
      intro entry inside
      simpa using absent entry inside
    · simp [EthCall.settlement,none]
  · rename_i named attempt found
    obtain rfl : named = service := by simpa using List.find?_some found
    have final := settles attempt (List.mem_of_find?_eq_some found)
    unfold replyOutcome at final
    simp only [final] at received
    cases received
    refine ⟨extension,?_,?_⟩
    · simp [EthCall.settle,EthCall.note,EthCall.forget]
    · simp [EthCall.settle,EthCall.note,EthCall.forget,EthCall.settlement,found,replyOutcome]

theorem EthCall.settlement_of_apart {replies : List (RpcService × Except IcError HttpResponse)}
    (pending : next.pending = call.pending.filter (fun entry => entry.1 ∉ replies.map Prod.fst))
    {later : RpcService × Except IcError HttpResponse} (apart : later.1 ∉ replies.map Prod.fst) :
    next.settlement platform later = call.settlement platform later := by
  have same : next.pending.find? (fun entry => entry.1 = later.1) = call.pending.find? (fun entry => entry.1 = later.1) := by
    rw [pending,List.find?_filter]
    apply congrArg (fun wanted => call.pending.find? wanted)
    ext entry
    by_cases named : entry.1 = later.1
    · simp [named,apart]
    · simp [named]
  rw [settlement,settlement,same]

theorem EthCall.SettledBy.append {last : EthCall method} {past replies : List (RpcService × Except IcError HttpResponse)}
    (first : call.SettledBy platform past next) (second : next.SettledBy platform replies last)
    (apart : ∀ reply ∈ replies, reply.1 ∉ past.map Prod.fst) : call.SettledBy platform (past ++ replies) last := by
  refine ⟨first.extension.trans second.extension,?_,?_⟩
  · rw [second.pending,first.pending,List.filter_filter]
    apply List.filter_congr
    intro entry _
    rw [List.map_append,← Bool.decide_and]
    apply decide_eq_decide.mpr
    rw [List.mem_append,not_or,and_comm]
  · rw [second.settled,first.settled,List.filterMap_append,List.append_assoc]
    have same : replies.filterMap (next.settlement platform) = replies.filterMap (call.settlement platform) :=
      List.filterMap_congr (fun reply inside => settlement_of_apart first.pending (apart reply inside))
    rw [same]

/-- A session in which each service replies once and no attempt is repeated settles what its replies
settle. -/
theorem EthCall.served_settledBy (wellFormed : call.WellFormed) (deliveries : List (Delivery M))
    (once : (deliveries.map Delivery.service).Nodup)
    (settles : ∀ delivery ∈ deliveries, call.Settles platform (delivery.service,delivery.reply)) :
    call.SettledBy platform (deliveries.map (fun delivery => (delivery.service,delivery.reply)))
      (call.served platform deliveries) := by
  induction deliveries using List.reverseRecOn with
  | nil => exact ⟨⟨rfl,rfl,rfl⟩,(List.filter_eq_self.mpr (by simp)).symm,(List.append_nil _).symm⟩
  | append_singleton past delivery ih =>
    rw [List.map_append,List.map_singleton] at once ⊢
    have before := ih (List.Nodup.of_append_left once)
      (fun earlier inside => settles earlier (List.mem_append_left _ inside))
    obtain ⟨after,received⟩ := @served_concat _ platform _ _ wellFormed past delivery
    have still : (call.served platform past).Settles platform (delivery.service,delivery.reply) := by
      intro attempt waiting
      rw [before.pending] at waiting
      exact settles delivery (by simp) attempt (List.mem_of_mem_filter waiting)
    apply before.append (receiveReply_settledBy (served_spec wellFormed past).1 still received)
    intro reply inside
    obtain rfl := List.mem_singleton.mp inside
    rw [List.map_map]
    exact fun earlier => (List.nodup_append.mp once).2.2 _ earlier _ (List.mem_singleton_self _) rfl

/-- What replies leave of a call does not depend on their order. -/
theorem EthCall.SettledBy.perm {first second : EthCall method} {replies others : List (RpcService × Except IcError HttpResponse)}
    (left : call.SettledBy platform replies first) (right : call.SettledBy platform others second)
    (perm : replies.Perm others) : first.pending = second.pending ∧ first.settled.Perm second.settled := by
  constructor
  · rw [left.pending,right.pending]
    apply List.filter_congr
    intro entry _
    apply decide_eq_decide.mpr
    rw [(perm.map Prod.fst).mem_iff]
  · rw [left.settled,right.settled]
    exact (perm.filterMap _).append_left _

theorem collectResults_ordered {now : Timestamp} {results : CallResults method}
    (collected : collectResults platform now call memory = .done (results,after)) : results.Ordered := by
  obtain ⟨settled,first,collected⟩ := Outcome.bind_eq_done.mp collected
  obtain ⟨all,second,collected⟩ := Outcome.bind_eq_done.mp collected
  simp only at collected
  split at collected
  · cases collected
    have none : (MultiResults.empty : CallResults method).Ordered := List.Pairwise.nil
    exact MultiResults.insertAll_ordered (MultiResults.insertAll_ordered none first) second
  · cases collected

/-- The results of a call are known from what it has settled, in whatever order. -/
theorem collectResults_of_perm {other : EthCall method} {now later : Timestamp} {memory after memory' after' : Memory M}
    {results results' : CallResults method} (wellFormed : call.WellFormed) (complete : call.pending = [])
    (wellFormed' : other.WellFormed) (complete' : other.pending = []) (errors : other.errors = call.errors)
    (settled : call.settled.Perm other.settled) (collected : collectResults platform now call memory = .done (results,after))
    (collected' : collectResults platform later other memory' = .done (results',after')) : results = results' := by
  obtain ⟨_,same,entries,_⟩ := @collectResults_of_wellFormed _ platform _ _ wellFormed complete now memory
  cases collected.symm.trans same
  obtain ⟨_,same',entries',_⟩ := @collectResults_of_wellFormed _ platform _ _ wellFormed' complete' later memory'
  cases collected'.symm.trans same'
  apply MultiResults.Ordered.eq_of_perm (collectResults_ordered collected) (collectResults_ordered collected')
  rw [errors] at entries'
  exact (entries.trans (settled.append_left _)).trans entries'.symm

theorem EthCall.served_of_complete (complete : call.pending = []) (deliveries : List (Delivery M)) :
    call.served platform deliveries = call := by
  induction deliveries with
  | nil => rfl
  | cons delivery deliveries ih =>
    have ignored : call.deliver platform delivery = .done call := by
      refine EthCall.deliver_eq_done.mpr ⟨delivery.memory,receiveReply_of_absent ?_ _ _⟩
      rw [complete]
      exact List.not_mem_nil
    rw [served,Runs.run_cons,Runs.advance_done _ ignored]
    exact ih

end Sessions

/-- An answer without its time. -/
def Completion.content (completion : Completion) :
    (method : RpcMethod) × CallResults method × MultiRpcResult method.CandidType :=
  ⟨completion.method,completion.results,completion.answer⟩

section Runs
variable {M : Type} {platform : Platform M} {begun : Canister M} {later : List Event} {id : ℕ} {method : RpcMethod}
  {call : EthCall method}

/-- The answer that a call gets is that of its session when nothing is left in flight. -/
theorem ServedAlone.answer (alone : ServedAlone platform begun later id call) (waits : begun.Waits platform) :
    let final := call.served platform (Runs.deliveries (Canister.step platform) (Canister.delivered id) begun later)
    let answers := Runs.deliveries (Canister.step platform) (Canister.answers platform id) begun later
    (final.pending ≠ [] ∧ answers = []) ∨ (final.pending = [] ∧ ∃ now memory results after metrics,
      collectResults platform now final memory = .done (results,after) ∧
      answers.map Completion.content = [⟨method,results,
        (final.client.reply (platform.reduce method) platform.url final.transactionHash results metrics).1⟩]) := by
  intro final answers
  obtain ⟨shown,none⟩ | ⟨front,last,rest,split,complete,results,answer,ended,only⟩ := alone.ends
  · refine .inl ⟨?_,none⟩
    have still : (Runs.run (Canister.step platform) begun later).Waits platform :=
      @Runs.run_holds _ _ _ (Canister.Waits platform) (fun _ event before => Canister.advance_waits before event) _ waits
        later
    exact still.pending id method final.silent shown
  · have same : final = call.served platform
        (Runs.deliveries (Canister.step platform) (Canister.delivered id) begun (front ++ [last])) := by
      have parts : later = (front ++ [last]) ++ rest := by rw [split,List.append_assoc]; rfl
      unfold final
      rw [parts,Runs.deliveries_append,EthCall.served,Runs.run_append]
      exact EthCall.served_of_complete complete _
    obtain ⟨after,metrics,collected,replied⟩ := ended begun.memory
    refine .inr ⟨same ▸ complete,last.time,begun.memory,results,after,after.metrics,same ▸ collected,?_⟩
    unfold answers
    rw [only,same,replied]
    rfl

/-- In every run, two orders of the replies to a call end with the same answer, or with none, whatever
comes between them. -/
theorem answers_do_not_depend_on_order (platform : Platform M) (memory : Memory M) (past later others : List Event)
    {id : ℕ} {method : RpcMethod} {call : EthCall method}
    (found : (Runs.run (Canister.step platform) (.initial platform memory) past).calls id = some (.eth method call))
    (once : ((repliesTo id later).map Prod.fst).Nodup)
    (settles : ∀ reply ∈ repliesTo id later, call.Settles platform reply)
    (perm : (repliesTo id later).Perm (repliesTo id others)) :
    let begun := Runs.run (Canister.step platform) (.initial platform memory) past
    (Runs.deliveries (Canister.step platform) (Canister.answers platform id) begun later).map Completion.content =
      (Runs.deliveries (Canister.step platform) (Canister.answers platform id) begun others).map Completion.content := by
  intro begun
  have waits : begun.Waits platform := Canister.run_waits platform memory past
  have wellFormed := (waits.balanced.opened id method call found).2
  have session (events : List Event) (distinct : ((repliesTo id events).map Prod.fst).Nodup)
      (each : ∀ reply ∈ repliesTo id events, call.Settles platform reply) :
      call.SettledBy platform (repliesTo id events) (call.served platform
        (Runs.deliveries (Canister.step platform) (Canister.delivered id) begun events)) := by
    have own := Canister.deliveries_own platform id begun events
    rw [← own] at distinct each ⊢
    rw [List.map_map] at distinct
    exact EthCall.served_settledBy wellFormed _ distinct
      (fun delivery inside => each _ (List.mem_map_of_mem inside))
  have left := session later once settles
  have right := session others ((perm.map Prod.fst).nodup_iff.mp once)
    (fun reply inside => settles reply (perm.mem_iff.mpr inside))
  obtain ⟨pending,settled⟩ := left.perm right perm
  obtain ⟨flying,none⟩ | ⟨complete,now,before,results,after,metrics,collected,only⟩ :=
    (waits.servedAlone found later).answer waits
  · obtain ⟨_,none'⟩ | ⟨complete',_⟩ := (waits.servedAlone found others).answer waits
    · rw [none,none']
    · exact absurd (pending.trans complete') flying
  · obtain ⟨flying',_⟩ | ⟨complete',now',before',results',after',metrics',collected',only'⟩ :=
      (waits.servedAlone found others).answer waits
    · exact absurd (pending.symm.trans complete) flying'
    · obtain rfl := collectResults_of_perm (EthCall.served_spec wellFormed _).1 complete (EthCall.served_spec wellFormed _).1
        complete' (right.extension.errors.trans left.extension.errors.symm) settled collected collected'
      rw [only,only',left.extension.client,right.extension.client,left.extension.transactionHash,
        right.extension.transactionHash,reply_answer]

/-- A reply that a provider of the call does not give in time. -/
def timedOut (service : EthMainnetService) : Event :=
  ⟨2,.ethReply 0 (.ethMainnet service) (.error ⟨.sysTransient,"timeout"⟩)⟩

theorem answers_do_not_depend_on_order_for_mainnet :
    let begun := Runs.run (Canister.step .reference) (.initial .reference demo) [mainnetCall]
    (Runs.deliveries (Canister.step .reference) (Canister.answers .reference 0) begun
      [timedOut .ankr,timedOut .blockPi,timedOut .publicNode]).map Completion.content =
    (Runs.deliveries (Canister.step .reference) (Canister.answers .reference 0) begun
      [timedOut .publicNode,mainnetCall,timedOut .ankr,timedOut .blockPi]).map Completion.content := by
  have waits : (Runs.run (Canister.step .reference) (.initial .reference demo) [mainnetCall]).isOpen 0 = true := by
    decide +kernel
  obtain ⟨method,call,found⟩ := Canister.isOpen_eq_true.mp waits
  apply answers_do_not_depend_on_order .reference demo [mainnetCall] _ _ found
  · decide
  · intro reply inside attempt _
    have unanswered : reply.2 = .error ⟨.sysTransient,"timeout"⟩ := by
      simp only [repliesTo,timedOut,Message.replyTo,List.filterMap_cons,List.filterMap_nil,if_true] at inside
      grind
    rw [unanswered]
    rfl
  · exact @List.perm_append_comm _ [_,_] [_]

end Runs
end EvmRpc
