import EvmRpc.Canister.Observations
import EvmRpc.RpcClient.Masking

/-! What is seen of the canister from outside of its outcalls depends on no stored API
key. -/
namespace EvmRpc
open Library

/-- Memories that differ in the keys of the same providers, where all keys are accepted
and those of a provider have equal size. -/
def Memory.SameButKeys {M : Type} (memory other : Memory M) : Prop :=
  other = {memory with apiKeyMap := other.apiKeyMap} ∧
    ∀ id, Option.Rel ApiKey.Alike (memory.apiKeyMap id) (other.apiKeyMap id)

/-- Updates of the same providers with the same keys, or with accepted keys of equal
size. -/
def SameUpdate (entry other : ProviderId × Option String) : Prop :=
  entry.1 = other.1 ∧ Option.Rel (fun key new => key = new ∨ ApiKey.Alike ⟨key⟩ ⟨new⟩) entry.2 other.2

inductive Message.SameButKeys : Message → Message → Prop where
  | refl (message : Message) : SameButKeys message message
  | updateApiKeys (caller : Principal) (isController : Bool) {apiKeys others : List (ProviderId × Option String)}
      (updates : List.Forall₂ SameUpdate apiKeys others) :
      SameButKeys (.updateApiKeys caller isController apiKeys) (.updateApiKeys caller isController others)

/-- Actions of two runs that correspond to each other: replies to outcalls are the same,
and no upgrade sets an override. -/
inductive Action.SameButKeys : Action → Action → Prop where
  | message (time : Timestamp) {message other : Message} (same : message.SameButKeys other) :
      SameButKeys (.message ⟨time,message⟩) (.message ⟨time,other⟩)
  | upgrade (args : InstallArgs) (original : args.overrideProvider.getD .default = .default) :
      SameButKeys (.upgrade args) (.upgrade args)

section Masks
variable {M : Type} (http : HttpCrate)

def OpenCall.masked : OpenCall → OpenCall
  | .eth method call => .eth method (call.masked http)
  | .request started => .request (started.masked http)

def Canister.masked (canister : Canister M) : Canister M where
  memory := canister.memory.masked
  calls id := (canister.calls id).map (OpenCall.masked http)
  nextCall := canister.nextCall
  completed := canister.completed
  journal := canister.journal.map (AttemptEvent.masked http)

end Masks

section Updates
variable {M : Type}

private theorem tryFrom_masked (key : String) : ApiKey.tryFrom (maskedKey key) = (ApiKey.tryFrom key).map ApiKey.masked := by
  unfold ApiKey.tryFrom
  rw [maskedKey_validates]
  cases validateApiKey key <;> rfl

private theorem storeKey_masked (keys : ProviderId → Option ApiKey) (id : ProviderId) (key : Option ApiKey) :
    Function.update (fun other => (keys other).map ApiKey.masked) id (key.map ApiKey.masked) =
      fun other => (Function.update keys id key other).map ApiKey.masked :=
  (Function.comp_update (Option.map ApiKey.masked) keys id key).symm

private theorem updateApiKey_masked (memory : Memory M) (entry : ProviderId × Option String) :
    updateApiKey memory.masked (entry.1,entry.2.map maskedKey) = Memory.masked <$> updateApiKey memory entry := by
  obtain ⟨id,key⟩ := entry
  simp only [updateApiKey]
  cases findProvider (fun provider => provider.providerId = id) with
  | none => rfl
  | some provider =>
    simp only [Outcome.ofOption,Outcome.done_bind]
    cases provider.access with
    | unauthenticated publicUrl => rfl
    | authenticated auth publicUrl =>
      cases key with
      | none =>
        have removed := storeKey_masked memory.apiKeyMap id none
        simp only [Option.map_none] at removed ⊢
        simp only [Memory.removeApiKey,Memory.masked,removed,Outcome.map_done]
      | some key =>
        simp only [Option.map_some,tryFrom_masked]
        cases ApiKey.tryFrom key with
        | error message => rfl
        | ok valid =>
          have inserted := storeKey_masked memory.apiKeyMap id (some valid)
          simp only [Option.map_some] at inserted
          simp only [Except.map,Outcome.expect,Outcome.done_bind,Outcome.map_done,Memory.insertApiKey,Memory.masked,
            inserted]

theorem updateApiKeys_masked (caller : Principal) (isController : Bool) (apiKeys : List (ProviderId × Option String))
    (memory : Memory M) :
    updateApiKeys caller isController (apiKeys.map (fun entry => (entry.1,entry.2.map maskedKey))) memory.masked =
      Memory.masked <$> updateApiKeys caller isController apiKeys memory := by
  have written : (apiKeys.map (fun entry => (entry.1,entry.2.map maskedKey))).foldlM updateApiKey memory.masked =
      Memory.masked <$> apiKeys.foldlM updateApiKey memory := by
    induction apiKeys generalizing memory with
    | nil => rfl
    | cons entry apiKeys ih =>
      rw [List.map_cons,List.foldlM_cons,List.foldlM_cons,updateApiKey_masked]
      cases updateApiKey memory entry with
      | trap message => rfl
      | done next => exact ih next
  have permitted : memory.masked.isApiKeyPrincipal caller = memory.isApiKeyPrincipal caller := rfl
  unfold updateApiKeys
  rw [permitted]
  split
  · exact written
  · rfl

theorem SameUpdate.masked {entry other : ProviderId × Option String} (same : SameUpdate entry other) :
    (entry.1,entry.2.map maskedKey) = (other.1,other.2.map maskedKey) := by
  obtain ⟨id,key⟩ := entry
  obtain ⟨_,new⟩ := other
  obtain ⟨rfl,keys⟩ := same
  cases keys with
  | none => rfl
  | some alike =>
    rcases alike with rfl | alike
    · rfl
    · simpa [ApiKey.masked] using alike.masked

theorem Memory.SameButKeys.masked {memory other : Memory M} (same : memory.SameButKeys other) :
    memory.masked = other.masked := by
  have keys : (fun id => (memory.apiKeyMap id).map ApiKey.masked) = fun id => (other.apiKeyMap id).map ApiKey.masked := by
    funext id
    have alike := same.2 id
    generalize memory.apiKeyMap id = key at alike ⊢
    generalize other.apiKeyMap id = new at alike ⊢
    cases alike with
    | none => rfl
    | some alike => exact congrArg some alike.masked
  rw [same.1,Memory.masked,Memory.masked]
  exact congrArg (fun keys => {memory with apiKeyMap := keys}) keys

end Updates

namespace Canister

section Steps
variable {M : Type} {platform : Platform M} {canister : Canister M}

private theorem masked_update (http : HttpCrate) (calls : ℕ → Option OpenCall) (id : ℕ) (opened : Option OpenCall) :
    Function.update (fun other => (calls other).map (OpenCall.masked http)) id (opened.map (OpenCall.masked http)) =
      fun other => (Function.update calls id opened other).map (OpenCall.masked http) :=
  (Function.comp_update (Option.map (OpenCall.masked http)) calls id opened).symm

private theorem masked_note (http : HttpCrate) (canister : Canister M) (events : List AttemptEvent) :
    (canister.masked http).note (events.map (AttemptEvent.masked http)) = (canister.note events).masked http := by
  simp [masked,note]

theorem proceed_masked {method : RpcMethod} (now : Timestamp) (id : ℕ) (call : EthCall method) (memory : Memory M)
    (canister : Canister M) :
    proceed platform now id (call.masked platform.http) memory.masked (canister.masked platform.http) =
      masked platform.http <$> proceed platform now id call memory canister := by
  have journal : (call.masked platform.http).journal = call.journal.map (AttemptEvent.masked platform.http) := rfl
  have pending : (call.masked platform.http).pending.isEmpty = call.pending.isEmpty := by simp [EthCall.masked]
  have client : (call.masked platform.http).client = call.client := rfl
  have hash : (call.masked platform.http).transactionHash = call.transactionHash := rfl
  unfold proceed
  rw [journal,masked_note,pending,client,hash]
  split
  · simp only [collectResults_masked]
    cases collectResults platform now call memory with
    | trap message => rfl
    | done collected =>
      obtain ⟨results,after⟩ := collected
      have metrics : after.masked.metrics = after.metrics := rfl
      have updated := masked_update platform.http canister.calls id none
      simp only [Outcome.map_done,Outcome.done_bind,Prod.map_apply,id_eq,metrics,masked,note,← updated]
      rfl
  · have updated := masked_update platform.http canister.calls id (some (.eth method {call with journal := []}))
    simp only [Outcome.map_done,masked,note,← updated]
    rfl

theorem ethReply_masked (plain : platform.Plain) (now : Timestamp) (id : ℕ) (service : RpcService)
    (reply : Except IcError HttpResponse) (canister : Canister M) :
    (canister.masked platform.http).ethReply platform now id service reply =
      masked platform.http <$> canister.ethReply platform now id service reply := by
  have calls : (canister.masked platform.http).calls id = (canister.calls id).map (OpenCall.masked platform.http) := rfl
  have memory : (canister.masked platform.http).memory = canister.memory.masked := rfl
  unfold ethReply
  rw [calls,memory]
  rcases canister.calls id with - | (⟨method,call⟩ | started)
  · rfl
  · simp only [Option.map_some,OpenCall.masked,receiveReply_masked plain]
    cases receiveReply platform service reply call canister.memory with
    | trap message => rfl
    | done state => exact proceed_masked now id state.1 state.2 canister
  · rfl

theorem requestReply_masked (id : ℕ) (reply : Except IcError HttpResponse) (canister : Canister M) :
    (canister.masked platform.http).requestReply platform id reply =
      masked platform.http <$> canister.requestReply platform id reply := by
  have calls : (canister.masked platform.http).calls id = (canister.calls id).map (OpenCall.masked platform.http) := rfl
  have memory : (canister.masked platform.http).memory = canister.memory.masked := rfl
  unfold requestReply
  rw [calls,memory]
  rcases canister.calls id with - | (⟨method,call⟩ | started)
  · rfl
  · rfl
  · have data : (started.masked platform.http).data = started.data := rfl
    simp only [Option.map_some,OpenCall.masked,data,observe_masked,Outcome.map_done]
    generalize receive platform.canhttp platform.crates.rpc .value started.data.requestId reply = outcome
    have noted := masked_note platform.http canister [.ended started.data (outcome.map Prod.fst)]
    rw [List.map_singleton,AttemptEvent.masked] at noted
    have updated := masked_update platform.http canister.calls id none
    rw [noted]
    simp only [masked,note,← updated]
    rfl

section Alike
variable {other : Canister M}

theorem ethCall_masked (plain : platform.Plain) (same : canister.masked platform.http = other.masked platform.http)
    (original : canister.memory.overrideProvider = .default) (now : Timestamp) (source : RpcServices)
    (config : Option RpcConfig) (method : RpcMethod) (transactionHash : Option Hex32)
    (params : Except ValidationError Json) (available : U128) :
    masked platform.http <$> canister.ethCall platform now source config method transactionHash params available =
      masked platform.http <$> other.ethCall platform now source config method transactionHash params available := by
  have usage : (canister.masked platform.http).memory.okResultsTimestamps =
    (other.masked platform.http).memory.okResultsTimestamps := by rw [same]
  change canister.memory.okResultsTimestamps = other.memory.okResultsTimestamps at usage
  unfold ethCall
  rw [usage]
  cases EthRpcClient.new platform.timed source config now other.memory.okResultsTimestamps with
  | trap message => rfl
  | done chosen =>
    obtain ⟨client,evicted⟩ := chosen
    have ended := congrArg (fun state : Canister M =>
      {state with memory := {state.memory with okResultsTimestamps := evicted}}) same
    rcases client with error | client
    · exact congrArg Outcome.done ended
    rcases params with error | params
    · exact congrArg Outcome.done ended
    simp only [Outcome.done_bind]
    cases client.responseSizeEstimate (client.expectedSize method) with
    | trap message => rfl
    | done size =>
      have begun := @parallelCall_masked _ platform {canister.memory with okResultsTimestamps := evicted}
        {other.memory with okResultsTimestamps := evicted} plain (congrArg Canister.memory ended) original client method
        transactionHash params size available
      have counted (state : Canister M) (memory : Memory M) : masked platform.http <$>
          (parallelCall platform client method transactionHash params size available memory >>= fun begun =>
            proceed platform now state.nextCall begun.1 begun.2 {state with nextCall := state.nextCall+1}) =
          (maskedState platform.http <$> parallelCall platform client method transactionHash params size available
            memory) >>= fun begun => proceed platform now (state.masked platform.http).nextCall begun.1 begun.2
              {state.masked platform.http with nextCall := (state.masked platform.http).nextCall+1} := by
        rw [map_bind,bind_map_left]
        exact congrArg _ (funext fun begun => (proceed_masked now _ _ _ _).symm)
      refine (counted canister _).trans (Eq.trans ?_ (counted other _).symm)
      rw [begun,same]

/-- What `requestCall` makes of a request that has begun. -/
private def callOf (platform : Platform M) (canister : Canister M) (begun : RpcResult Started × Memory M) :
    Outcome (Canister M) :=
  match begun.1 with
  | .error _ => .done {canister with memory := begun.2}
  | .ok started =>
    let canister := canister.note [.began started]
    match started.sent with
    | .ok _ => .done {canister with
        memory := begun.2
        calls := Function.update canister.calls canister.nextCall (some (.request started))
        nextCall := canister.nextCall+1}
    | .error error =>
      let outcome : Except HttpClientError (UInt16 × Except ServerError Json) := .error error
      .done {canister.note [.ended started.data (.error error)] with
        memory := observe platform.canhttp started.data outcome begun.2}

private theorem callOf_masked (state : Canister M) (begun : RpcResult Started × Memory M) :
    masked platform.http <$> callOf platform state begun = callOf platform (state.masked platform.http)
      (Prod.map (Except.map (Started.masked platform.http)) Memory.masked begun) := by
  obtain ⟨error | started,memory⟩ := begun
  · rfl
  · have sent : (started.masked platform.http).sent = started.sent.map (Charged.masked platform.http) := rfl
    simp only [callOf,Prod.map_apply,Except.map,sent]
    cases started.sent with
    | ok charged =>
      have updated := masked_update platform.http state.calls state.nextCall (some (.request started))
      simp [masked,note,← updated,AttemptEvent.masked,OpenCall.masked]
    | error error =>
      simp [masked,note,AttemptEvent.masked,observe_masked,Started.masked]

theorem requestCall_masked (plain : platform.Plain) (same : canister.masked platform.http = other.masked platform.http)
    (original : canister.memory.overrideProvider = .default) (service : RpcService) (jsonRpcPayload : String)
    (maxResponseBytes : UInt64) (available : U128) :
    masked platform.http <$> canister.requestCall platform service jsonRpcPayload maxResponseBytes available =
      masked platform.http <$> other.requestCall platform service jsonRpcPayload maxResponseBytes available := by
  have begun (state : Canister M) :
      masked platform.http <$> state.requestCall platform service jsonRpcPayload maxResponseBytes available =
        (Prod.map (Except.map (Started.masked platform.http)) Memory.masked <$> request platform.regex platform.http
          platform.canhttp state.memory service jsonRpcPayload maxResponseBytes available) >>=
            callOf platform (state.masked platform.http) := by
    rw [bind_map_left,← funext (callOf_masked state),← map_bind]
    rfl
  rw [begun canister,begun other,same,
    request_masked plain (congrArg Canister.memory same) original service jsonRpcPayload maxResponseBytes available]

end Alike

section Runs
variable {next other : Canister M}

private theorem counted_original {memory after : Memory M} (counted : memory.Counted after) :
    after.overrideProvider = memory.overrideProvider := by
  obtain ⟨_,_,rfl⟩ := counted
  rfl

private theorem proceed_original {method : RpcMethod} {now : Timestamp} {id : ℕ} {call : EthCall method}
    {memory : Memory M} (taken : proceed platform now id call memory canister = .done next) :
    next.memory.overrideProvider = memory.overrideProvider := by
  unfold proceed at taken
  split at taken
  · obtain ⟨⟨results,after⟩,collected,taken⟩ := Outcome.bind_eq_done.mp taken
    cases taken
    obtain ⟨usage,rfl⟩ := collectResults_eq collected
    rfl
  · cases taken
    rfl

private theorem receiveReply_counted {method : RpcMethod} {service : RpcService} {reply : Except IcError HttpResponse}
    {call further : EthCall method} {memory after : Memory M}
    (received : receiveReply platform service reply call memory = .done (further,after)) : memory.Counted after := by
  unfold receiveReply at received
  split at received
  · cases received
    exact .refl _
  · simp only at received
    split at received
    · exact (observe_counted _ _ _).trans (launch_eq_done received).2.counted
    · cases received
      exact observe_counted _ _ _

theorem step_original {event : Event} (taken : canister.step platform event = .done next) :
    next.memory.overrideProvider = canister.memory.overrideProvider := by
  obtain ⟨time,message⟩ := event
  cases message with
  | ethCall source config method transactionHash params available =>
    obtain ⟨_,usage,_,rfl | ⟨client,params,size,call,memory,_,_,begun,taken⟩⟩ := ethCall_cases taken
    · rfl
    · obtain ⟨_,_,_,_,_,_,_,_,counted⟩ := parallelCall_eq_done begun
      have kept := counted_original counted
      exact (proceed_original taken).trans kept
  | ethReply id service reply =>
    obtain rfl | ⟨method,call,further,memory,_,received,taken⟩ := ethReply_cases taken
    · rfl
    · exact (proceed_original taken).trans (counted_original (receiveReply_counted received))
  | request service jsonRpcPayload maxResponseBytes available =>
    obtain rfl | ⟨host,request,started,_,⟨charged,_,rfl⟩ | ⟨error,_,rfl⟩⟩ := requestCall_cases taken
    · rfl
    · rfl
    · rfl
  | requestReply id reply =>
    obtain rfl | ⟨started,_,rfl⟩ := requestReply_cases taken
    · rfl
    · rfl
  | updateApiKeys caller isController apiKeys =>
    obtain ⟨memory,updated,taken⟩ := Outcome.bind_eq_done.mp taken
    cases taken
    obtain ⟨_,_,rfl⟩ := updateApiKeys_eq_done.mp updated
    rfl

private theorem updates_masked {apiKeys others : List (ProviderId × Option String)}
    (updates : List.Forall₂ SameUpdate apiKeys others) :
    apiKeys.map (fun entry => (entry.1,entry.2.map maskedKey)) =
      others.map (fun entry => (entry.1,entry.2.map maskedKey)) ∧ apiKeys.map Prod.fst = others.map Prod.fst := by
  induction updates with
  | nil => exact ⟨rfl,rfl⟩
  | cons first _ ih =>
    rw [List.map_cons,List.map_cons,List.map_cons,List.map_cons,first.masked,first.1,ih.1,ih.2]
    exact ⟨rfl,rfl⟩

private theorem update_step_masked (same : canister.masked platform.http = other.masked platform.http)
    (time : Timestamp) (caller : Principal) (isController : Bool) {apiKeys others : List (ProviderId × Option String)}
    (updates : apiKeys.map (fun entry => (entry.1,entry.2.map maskedKey)) =
      others.map (fun entry => (entry.1,entry.2.map maskedKey))) :
    masked platform.http <$> canister.step platform ⟨time,.updateApiKeys caller isController apiKeys⟩ =
      masked platform.http <$> other.step platform ⟨time,.updateApiKeys caller isController others⟩ := by
  have taken (state : Canister M) (apiKeys : List (ProviderId × Option String)) :
      masked platform.http <$> state.step platform ⟨time,.updateApiKeys caller isController apiKeys⟩ =
        (updateApiKeys caller isController (apiKeys.map (fun entry => (entry.1,entry.2.map maskedKey)))
          state.memory.masked) >>= fun memory => .done {state.masked platform.http with memory := memory} := by
    rw [updateApiKeys_masked,bind_map_left,step,map_bind]
    rfl
  have memory : canister.memory.masked = other.memory.masked := congrArg Canister.memory same
  rw [taken canister,taken other,same,memory,updates]

/-- Unwinding, step by step: canisters with the same mask have the same mask after
corresponding actions, or trap with the same message. -/
theorem act_masked (plain : platform.Plain) (same : canister.masked platform.http = other.masked platform.http)
    (original : canister.memory.overrideProvider = .default) {action counterpart : Action}
    (alike : action.SameButKeys counterpart) :
    masked platform.http <$> canister.act platform action = masked platform.http <$> other.act platform counterpart := by
  cases alike with
  | message time alike =>
    cases alike with
    | updateApiKeys caller isController updates =>
      exact update_step_masked same time caller isController (updates_masked updates).1
    | refl =>
      rename_i message
      cases message with
      | ethCall source config method transactionHash params available =>
        exact ethCall_masked plain same original time source config method transactionHash params available
      | ethReply id service reply =>
        have left := ethReply_masked plain time id service reply canister
        have right := ethReply_masked plain time id service reply other
        exact left.symm.trans ((congrArg (ethReply platform time id service reply) same).trans right)
      | request service jsonRpcPayload maxResponseBytes available =>
        exact requestCall_masked plain same original service jsonRpcPayload maxResponseBytes available
      | requestReply id reply =>
        have left := @requestReply_masked _ platform id reply canister
        have right := @requestReply_masked _ platform id reply other
        exact left.symm.trans ((congrArg (requestReply platform id reply) same).trans right)
      | updateApiKeys caller isController apiKeys => exact update_step_masked same time caller isController rfl
  | upgrade args _ =>
    have taken (state : Canister M) : masked platform.http <$> state.act platform (.upgrade args) =
        if args.accepted platform.regex then
          .done {state.masked platform.http with
            memory := args.applied (state.masked platform.http).memory |>.upgraded platform.timed
            calls := fun _ => none}
        else .trap "ERROR: invalid override provider" := by
      simp only [act,postUpgrade_eq]
      split <;> rfl
    rw [taken canister,taken other,same]

theorem act_original {action counterpart : Action} (alike : action.SameButKeys counterpart)
    (original : canister.memory.overrideProvider = .default) (taken : canister.act platform action = .done next) :
    next.memory.overrideProvider = .default := by
  cases alike with
  | message time same => exact (step_original taken).trans original
  | upgrade args given =>
    obtain ⟨memory,upgraded,taken⟩ := Outcome.bind_eq_done.mp taken
    cases taken
    rw [postUpgrade_eq] at upgraded
    split at upgraded
    · cases upgraded
      change args.overrideProvider.getD canister.memory.overrideProvider = .default
      rw [original,given]
    · cases upgraded

end Runs

section Observing
variable {next other : Canister M}

theorem decoded_masked (canister : Canister M) (id : ℕ) (reply : Except IcError HttpResponse) :
    (canister.masked platform.http).decoded platform id reply = canister.decoded platform id reply := by
  have calls : (canister.masked platform.http).calls id = (canister.calls id).map (OpenCall.masked platform.http) := rfl
  unfold decoded
  rw [calls]
  rcases canister.calls id with - | (⟨method,call⟩ | started) <;> cases reply <;> rfl

theorem requestAnswered_masked (canister : Canister M) (id : ℕ) (reply : Except IcError HttpResponse) :
    (canister.masked platform.http).requestAnswered platform id reply = canister.requestAnswered platform id reply := by
  have calls : (canister.masked platform.http).calls id = (canister.calls id).map (OpenCall.masked platform.http) := rfl
  unfold requestAnswered
  rw [calls]
  rcases canister.calls id with - | (⟨method,call⟩ | started) <;> rfl

/-- What `requestFailed` answers, from the request that has begun. -/
private def answerOf (canhttp : Canhttp) : Outcome (RpcResult Started × Memory M) → List Answer
  | .done (.error error,_) => [.request (.error error)]
  | .done (.ok started,_) =>
    match started.sent with
    | .ok _ => []
    | .error error => [.request (.error (error.toRpcError canhttp))]
  | .trap _ => []

/-- Of a request that was sent the answer tells nothing, and errors are not masked. -/
private theorem answerOf_masked (begun : Outcome (RpcResult Started × Memory M)) :
    answerOf platform.canhttp (Prod.map (Except.map (Started.masked platform.http)) Memory.masked <$> begun) =
      answerOf platform.canhttp begun := by
  obtain ⟨(error | started),memory⟩ | message := begun
  · rfl
  · obtain ⟨data,request,(error | charged)⟩ := started <;> rfl
  · rfl

theorem requestFailed_masked (plain : platform.Plain) (same : canister.masked platform.http = other.masked platform.http)
    (original : canister.memory.overrideProvider = .default) (service : RpcService) (jsonRpcPayload : String)
    (maxResponseBytes : UInt64) (available : U128) :
    canister.requestFailed platform service jsonRpcPayload maxResponseBytes available =
      other.requestFailed platform service jsonRpcPayload maxResponseBytes available := by
  have begun := congrArg (answerOf platform.canhttp) (request_masked plain (congrArg Canister.memory same) original service jsonRpcPayload
    maxResponseBytes available)
  rwa [answerOf_masked,answerOf_masked] at begun

private theorem answered_masked (plain : platform.Plain)
    (same : canister.masked platform.http = other.masked platform.http)
    (original : canister.memory.overrideProvider = .default) (time : Timestamp) {message counterpart : Message}
    (alike : message.SameButKeys counterpart) :
    canister.answered platform ⟨time,message⟩ = other.answered platform ⟨time,counterpart⟩ := by
  cases alike with
  | updateApiKeys caller isController updates => rfl
  | refl =>
    cases message with
    | ethCall source config method transactionHash params available =>
      have refusal := congrArg (fun state : Canister M => state.refused platform time source config method params) same
      exact refusal
    | ethReply id service reply => rfl
    | request service jsonRpcPayload maxResponseBytes available =>
      exact requestFailed_masked plain same original service jsonRpcPayload maxResponseBytes available
    | requestReply id reply =>
      have answer := congrArg (fun state : Canister M => state.requestAnswered platform id reply) same
      simp only [requestAnswered_masked] at answer
      exact answer
    | updateApiKeys caller isController apiKeys => rfl

private theorem logged_masked (events : List AttemptEvent) (body : Option ResponseBody) :
    (events.map (AttemptEvent.masked platform.http)).flatMap (AttemptEvent.logged platform.canhttp body) =
      events.flatMap (AttemptEvent.logged platform.canhttp body) := by
  rw [List.flatMap_map]
  refine congrArg (events.flatMap ·) (funext fun event => ?_)
  obtain started | ⟨data,(error | status)⟩ := event <;> rfl

private theorem charged_masked (events : List AttemptEvent) :
    (events.map (AttemptEvent.masked platform.http)).filterMap AttemptEvent.charged =
      events.filterMap AttemptEvent.charged := by
  rw [List.filterMap_map]
  refine congrArg (events.filterMap ·) (funext fun event => ?_)
  obtain ⟨data,request,(error | charged)⟩ | ⟨data,outcome⟩ := event <;> rfl

private theorem loggedBy_masked (same : canister.masked platform.http = other.masked platform.http)
    {message counterpart : Message} (alike : message.SameButKeys counterpart) {events others : List AttemptEvent}
    (same' : events.map (AttemptEvent.masked platform.http) = others.map (AttemptEvent.masked platform.http)) :
    canister.loggedBy platform message events = other.loggedBy platform counterpart others := by
  have logged (body : Option ResponseBody) : events.flatMap (AttemptEvent.logged platform.canhttp body) =
      others.flatMap (AttemptEvent.logged platform.canhttp body) := by
    rw [← logged_masked events,same',logged_masked]
  have decoded (id : ℕ) (reply : Except IcError HttpResponse) :
      canister.decoded platform id reply = other.decoded platform id reply := by
    rw [← decoded_masked canister,same,decoded_masked]
  cases alike with
  | updateApiKeys caller isController updates =>
    exact congrArg (fun ids => [LogEntry.updating caller ids]) (updates_masked updates).2
  | refl =>
    cases message with
    | ethCall source config method transactionHash params available => exact logged none
    | ethReply id service reply => simp only [loggedBy,decoded,logged]
    | request service jsonRpcPayload maxResponseBytes available => exact logged none
    | requestReply id reply => simp only [loggedBy,decoded,logged]
    | updateApiKeys caller isController apiKeys => rfl

/-- What an action shows is the same, whatever the keys are. -/
theorem observed_masked (plain : platform.Plain) (same : canister.masked platform.http = other.masked platform.http)
    (original : canister.memory.overrideProvider = .default) {action counterpart : Action}
    (alike : action.SameButKeys counterpart) :
    canister.observed platform action = other.observed platform counterpart := by
  have acted := act_masked plain same original alike
  unfold observed
  cases taken : canister.act platform action with
  | trap message =>
    cases taken' : other.act platform counterpart with
    | trap message' =>
      rw [taken,taken'] at acted
      simpa using acted
    | done next' => simp [taken,taken'] at acted
  | done next =>
    cases taken' : other.act platform counterpart with
    | trap message' => simp [taken,taken'] at acted
    | done next' =>
      simp only [taken,taken',Outcome.map_done,Outcome.done.injEq] at acted
      have journal : canister.journal.length = other.journal.length := by
        simpa [masked] using congrArg (fun state : Canister M => state.journal.length) same
      have completed := congrArg Canister.completed same
      have completed' := congrArg Canister.completed acted
      change canister.completed = other.completed at completed
      change next.completed = next'.completed at completed'
      have events : (next.journal.drop canister.journal.length).map (AttemptEvent.masked platform.http) =
          (next'.journal.drop other.journal.length).map (AttemptEvent.masked platform.http) := by
        rw [List.map_drop,List.map_drop,journal]
        exact congrArg (fun state : Canister M => state.journal.drop other.journal.length) acted
      simp only [Outcome.done_bind]
      cases alike with
      | upgrade args _ => rfl
      | message time alike =>
        have charged : (next.journal.drop canister.journal.length).filterMap AttemptEvent.charged =
            (next'.journal.drop other.journal.length).filterMap AttemptEvent.charged := by
          rw [← @charged_masked _ platform,events,charged_masked]
        simp only [answered_masked plain same original time alike,loggedBy_masked same alike events,charged,completed,
          completed']

theorem query_masked (plain : platform.Plain) (same : canister.masked platform.http = other.masked platform.http)
    (original : canister.memory.overrideProvider = .default) (query : Query) :
    canister.query platform query = other.query platform query := by
  cases query with
  | requestCost service jsonRpcPayload maxResponseBytes =>
    have cost := requestCost_masked plain (congrArg Canister.memory same) original service jsonRpcPayload
      maxResponseBytes
    simp only [Canister.query,cost]
  | getProviders => rfl
  | getServiceProviderMap => rfl
  | getNodesInSubnet =>
    have nodes := congrArg (fun state : Canister M => state.query platform .getNodesInSubnet) same
    exact nodes
  | getMetrics =>
    have metrics := congrArg (fun state : Canister M => state.query platform .getMetrics) same
    exact metrics

end Observing

end Steps

section Secrecy
variable {M : Type} {platform : Platform M}

/-- Two runs that differ in the stored keys only, and in which outcalls get the same
replies, show the same to everyone outside of the outcalls. -/
theorem keys_do_not_leak (plain : platform.Plain) {memory counterpart : Memory M}
    (same : memory.SameButKeys counterpart) (original : memory.overrideProvider = .default)
    {actions others : List Action} (alike : List.Forall₂ Action.SameButKeys actions others) :
    let canister := Runs.run (act platform) (initial platform memory) actions
    let other := Runs.run (act platform) (initial platform counterpart) others
    Runs.outputs (act platform) (observed platform) (initial platform memory) actions =
      Runs.outputs (act platform) (observed platform) (initial platform counterpart) others ∧
    ∀ query, canister.query platform query = other.query platform query := by
  intro canister other
  let related (canister other : Canister M) : Prop :=
    canister.masked platform.http = other.masked platform.http ∧ canister.memory.overrideProvider = .default
  have stays (canister other : Canister M) (action counterpart : Action) (pair : related canister other)
      (alike : action.SameButKeys counterpart) :
      related (Runs.advance (act platform) canister action) (Runs.advance (act platform) other counterpart) := by
    have acted := act_masked plain pair.1 pair.2 alike
    unfold Runs.advance
    cases taken : canister.act platform action with
    | trap message =>
      cases taken' : other.act platform counterpart with
      | trap message' => exact pair
      | done next' => simp [taken,taken'] at acted
    | done next =>
      cases taken' : other.act platform counterpart with
      | trap message' => simp [taken,taken'] at acted
      | done next' =>
        simp only [taken,taken',Outcome.map_done,Outcome.done.injEq] at acted
        exact ⟨acted,act_original alike pair.2 taken⟩
  have start : related (initial platform memory) (initial platform counterpart) := by
    refine ⟨?_,original⟩
    have masked := same.masked
    exact congrArg (fun memory => Canister.mk (memory.upgraded platform.timed) (fun _ => none) 0 [] []) masked
  obtain ⟨shown,pair⟩ := Runs.unwinding (act platform) (observed platform) stays
    (fun _ _ _ _ pair alike => observed_masked plain pair.1 pair.2 alike) alike start
  exact ⟨shown,query_masked plain pair.1 pair.2⟩

private def withAnkrKey (key : String) : Memory (ReferenceTimedMap SupportedRpcService) :=
  (Memory.fresh ReferenceTimedMap.reference).insertApiKey 1 ⟨key⟩

private theorem alike_keys : ApiKey.Alike ⟨"keys"⟩ ⟨"lock"⟩ := ⟨by decide,by decide,by decide⟩

private theorem withAnkrKey_sameButKeys : (withAnkrKey "keys").SameButKeys (withAnkrKey "lock") := by
  refine ⟨rfl,fun id => ?_⟩
  by_cases ankr : id = 1
  · subst id
    exact .some alike_keys
  · simp only [withAnkrKey,Memory.insertApiKey,Function.update_of_ne ankr]
    exact .none

/-- The outcall of the call is sent with the stored key, and its reply ends the call. -/
theorem keys_do_not_leak_for_ankr :
    let actions (key : String) : List Action := [.message ⟨1,.updateApiKeys ⟨[]⟩ true [(3,some key)]⟩,
      .message ⟨2,.ethCall (.ethMainnet (some [.ankr])) none .ethCall none (.ok .null) U128.MAX⟩,
      .message ⟨3,.ethReply 0 (.ethMainnet .ankr) (.error ⟨.sysTransient,"timeout"⟩)⟩]
    let canister := Runs.run (act .reference) (initial .reference (withAnkrKey "keys")) (actions "keys")
    let other := Runs.run (act .reference) (initial .reference (withAnkrKey "lock")) (actions "lock")
    ((Runs.run (act .reference) (initial .reference (withAnkrKey "keys")) ((actions "keys").take 2)).calls 0).isSome ∧
    Runs.outputs (act .reference) (observed .reference) (initial .reference (withAnkrKey "keys")) (actions "keys") =
      Runs.outputs (act .reference) (observed .reference) (initial .reference (withAnkrKey "lock")) (actions "lock") ∧
    ∀ query, canister.query .reference query = other.query .reference query := by
  intro actions canister other
  have sent : ((Runs.run (act .reference) (initial .reference (withAnkrKey "keys")) ((actions "keys").take 2)).calls
      0).isSome := by decide +kernel
  exact ⟨sent,keys_do_not_leak Platform.reference_plain withAnkrKey_sameButKeys rfl
    (.cons (.message 1 (.updateApiKeys ⟨[]⟩ true (.cons ⟨rfl,.some (.inr alike_keys)⟩ .nil)))
      (.cons (.message 2 (.refl _)) (.cons (.message 3 (.refl _)) .nil)))⟩

end Secrecy
end Canister
end EvmRpc
