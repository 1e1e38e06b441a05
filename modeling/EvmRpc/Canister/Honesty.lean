import EvmRpc.Canister.Origins

/-! Faulty providers: as long as they are fewer than the services that a strategy asks for, they can neither
pass off a value of theirs as the answer nor keep sound providers from deciding it. -/
namespace EvmRpc
open Library

/-- All that services other than the faulty ones give to the question of a call converts to the truth. -/
def Truthful {M : Type} (platform : Platform M) (memory : Memory M) (method : RpcMethod) (transactionHash : Option Hex32)
    (params : Json) (replies : List (RpcService × Except IcError HttpResponse)) (faulty : List RpcService)
    (truth : method.CandidType) : Prop :=
  ∀ service reply value, service ∉ faulty → (service,reply) ∈ replies →
    Gives platform memory method params service reply value → (method.convert transactionHash value == truth) = true

/-- Enough sound services have a success among the results. -/
def SoundEnough {method : RpcMethod} (client : EthRpcClient) (faulty : List RpcService) (results : CallResults method) :
    Prop :=
  ∃ services : List RpcService, services.Nodup ∧ client.required ≤ services.length ∧ ∀ service ∈ services,
    service ∉ faulty ∧ ∃ value, (service,.ok value) ∈ results.entries

theorem exists_sound {services faulty : List RpcService} (distinct : services.Nodup)
    (few : faulty.length < services.length) : ∃ service ∈ services, service ∉ faulty := by
  by_contra none
  push Not at none
  exact absurd (distinct.subperm none).length_le (Nat.not_le.mpr few)

/-- A value that is received is read off the response. -/
theorem value_of_receive {α : Type} {canhttp : Canhttp} {rpc : JsonRpcWire} {format : Json.Format α} {requestId : Id}
    {reply : Except IcError HttpResponse} {status : UInt16} {value : α}
    (received : receive canhttp rpc format requestId reply = .ok (status,.ok value)) :
    ∃ response id json, reply = .ok response ∧ rpc.read response.body = some (id,.ok json) ∧
      format.decode json = some value := by
  unfold receive at received
  split at received
  · cases received
  · rename_i response
    split at received
    · cases received
    · split at received
      · cases received
      · split at received
        · cases received
        · rename_i id result decoded
          cases result with
          | ok found =>
            simp only at received
            split at received
            · cases received
              obtain ⟨json,read,same⟩ := JsonRpcWire.read_of_response_ok decoded
              exact ⟨response,id,json,rfl,read,same⟩
            · cases received
          | error failure =>
            simp only at received
            split at received
            · cases received
            · cases received

section Deciding
variable {M : Type} {platform : Platform M} {memory : Memory M} {client : EthRpcClient} {method : RpcMethod}
  {transactionHash : Option Hex32} {params : Json} {replies : List (RpcService × Except IcError HttpResponse)}
  {results : CallResults method} {answer : MultiRpcResult method.CandidType} {faulty : List RpcService}
  {truth : method.CandidType}

/-- Agreement among enough services is found, whatever the other results are. -/
theorem reply_of_agreement {crate : Reduce RpcService method.JsonType RpcError} (decisive : crate.Decisive) {url : Url}
    {metrics : Metrics} (keys : results.keys.Perm client.providers.services.elements) {services : List RpcService}
    {value : method.JsonType} (distinct : services.Nodup) (positive : 0 < client.required)
    (enough : client.required ≤ services.length)
    (agreed : ∀ service ∈ services, ∃ v, (service,.ok v) ∈ results.entries ∧ (v == value) = true) :
    ∃ found, (client.reply crate url transactionHash results metrics).1 = .consistent (.ok found) := by
  have listed : services ⊆ (results.entries.filter (fun entry => entry.2 == .ok value)).map Prod.fst := by
    intro service inside
    obtain ⟨v,present,alike⟩ := agreed service inside
    exact List.mem_map.mpr ⟨(service,.ok v),List.mem_filter.mpr ⟨present,alike⟩,rfl⟩
  have counted : services.length ≤ results.support value := by
    have bound := (distinct.subperm listed).length_le
    rwa [List.length_map] at bound
  have found : ∃ found, client.consensusStrategy.reduce crate results = .ok found := by
    cases strategy : client.consensusStrategy with
    | byEquality =>
      rw [EthRpcClient.required,strategy] at positive enough
      have card : results.entries.length = client.providers.services.card := by
        rw [← List.length_map Prod.fst]
        exact keys.length_eq
      have all : results.support value = results.entries.length :=
        Nat.le_antisymm (List.length_filter_le _ _) (card ▸ enough.trans counted)
      refine decisive.equality results value ?_ (List.length_filter_eq_length_iff.mp all)
      exact List.ne_nil_of_length_pos (card ▸ positive)
    | byThreshold min =>
      rw [EthRpcClient.required,strategy] at positive enough
      exact decisive.threshold min results value positive (enough.trans counted)
  obtain ⟨found,reduced⟩ := found
  exact ⟨method.convert transactionHash found,by rw [EthRpcClient.reply,reduced]; rfl⟩

/-- A success is the truth, as one of the services behind it is sound. -/
theorem Concluded.sound
    (concluded : Concluded platform memory client method transactionHash params replies results answer)
    (lawful : (platform.reduce method).Lawful) (unanimous : (platform.reduce method).Unanimous)
    (canMeet : client.required ≤ client.providers.services.card)
    (truthful : Truthful platform memory method transactionHash params replies faulty truth)
    (few : faulty.length < client.required) {value : method.CandidType} (success : answer = .consistent (.ok value)) :
    (value == truth) = true := by
  obtain ⟨metrics,rfl⟩ := concluded.answer
  have respects : MultiRpcResult.Respects (fun v : method.CandidType => (.ok v : RpcResult method.CandidType)) := by
    intro a b y alike done
    cases done
    exact ⟨a,rfl,alike⟩
  obtain ⟨services,distinct,enough,each⟩ := enough_of_success lawful unanimous respects concluded.card canMeet
    (congrArg (fun result => MultiRpcResult.andThen (fun v => .ok v) result) success)
  obtain ⟨service,inside,sound⟩ := exists_sound distinct (few.trans_le enough)
  obtain ⟨v,present,_,done,alike⟩ := each service inside
  cases done
  obtain ⟨reply,replied,gives⟩ := concluded.given service v present
  exact BEq.trans (BEq.symm alike) (truthful service reply v sound replied gives)

theorem Concluded.decided
    (concluded : Concluded platform memory client method transactionHash params replies results answer)
    (decisive : (platform.reduce method).Decisive)
    (truthful : Truthful platform memory method transactionHash params replies faulty truth)
    (few : faulty.length < client.required) (sound : SoundEnough client faulty results) :
    ∃ value, answer = .consistent (.ok value) := by
  obtain ⟨services,distinct,enough,each⟩ := sound
  have told (service) (inside : service ∈ services) : ∃ v, (service,.ok v) ∈ results.entries ∧
      (method.convert transactionHash v == truth) = true := by
    obtain ⟨own,v,present⟩ := each service inside
    obtain ⟨reply,replied,gives⟩ := concluded.given service v present
    exact ⟨v,present,truthful service reply v own replied gives⟩
  have positive : 0 < client.required := (Nat.zero_le _).trans_lt few
  obtain ⟨first,inside⟩ := List.exists_mem_of_length_pos (positive.trans_le enough)
  obtain ⟨value,_,true'⟩ := told first inside
  obtain ⟨metrics,rfl⟩ := concluded.answer
  apply reply_of_agreement decisive concluded.keys distinct positive enough
  · intro service inside
    obtain ⟨v,present,alike⟩ := told service inside
    refine ⟨v,present,?_⟩
    rw [← RpcMethod.convert_beq transactionHash]
    exact BEq.trans alike (BEq.symm true')

end Deciding

section Runs
variable {M : Type} {platform : Platform M} {event : Event} {id : ℕ} {source : RpcServices} {config : Option RpcConfig}
  {method : RpcMethod} {transactionHash : Option Hex32} {params : Except ValidationError Json} {available : U128}

/-- In every run, faulty services that are fewer than the strategy of a call asks for have no say in its
answer: a success is what the sound services take for the truth, and it is given as soon as the strategy
finds enough of these among the results, whatever the faulty ones have replied and when. -/
theorem honest_providers_decide (platform : Platform M) (lawful : (platform.reduce method).Lawful)
    (unanimous : (platform.reduce method).Unanimous) (decisive : (platform.reduce method).Decisive) (memory : Memory M)
    (past later : List Event)
    (message : event.message = .ethCall source config method transactionHash params available)
    (opens : (Runs.run (Canister.step platform) (.initial platform memory) past).Opens platform id event)
    (canMeet : CanMeet source ((config.getD default).responseConsensus.getD default)) :
    let begun := Runs.run (Canister.step platform) (.initial platform memory) past
    ∃ given client usage, params = .ok given ∧
      EthRpcClient.new platform.timed source config event.time begun.memory.okResultsTimestamps = .done (.ok client,usage) ∧
      ∀ faulty truth, faulty.length < client.required →
        Truthful platform begun.memory method transactionHash given (repliesTo id later) faulty truth →
        ∀ time results answer, (⟨time,method,results,answer⟩ : Completion) ∈
            Runs.deliveries (Canister.step platform) (Canister.answers platform id) begun (event::later) →
          (∀ value, answer = .consistent (.ok value) → (value == truth) = true) ∧
            (SoundEnough client faulty results → ∃ value, answer = .consistent (.ok value)) := by
  intro begun
  have waits : begun.Waits platform := Canister.run_waits platform memory past
  obtain ⟨given,client,usage,same,accepted,each⟩ := waits.concluded later message opens
  refine ⟨given,client,usage,same,accepted,?_⟩
  intro faulty truth few truthful time results answer inside
  have concluded := each time results answer inside
  constructor
  · intro value success
    exact concluded.sound lawful unanimous (required_le_card accepted canMeet) truthful few success
  · intro sound
    exact concluded.decided decisive truthful few sound

/-- Three providers of a caller, of which two have to agree. -/
def trio : RpcServices := .custom 1 [⟨"https://one.test",none⟩,⟨"https://two.test",none⟩,⟨"https://three.test",none⟩]

def trioResponse (id value : String) : List UInt8 :=
  Text.utf8 ("\x7b\"jsonrpc\":\"2.0\",\"id\":" ++ id ++ ",\"result\":\"" ++ value ++ "\"\x7d")

/-- A platform that reads the responses of the providers: the second one gives another count. -/
def trioPlatform : Platform (ReferenceTimedMap SupportedRpcService) :=
  {Platform.reference with crates := {Platform.reference.crates with rpc := {JsonRpcWire.reference with
    read := fun body => ([("0",0,"0x7"),("1",1,"0x7"),("2",2,"0x9")].find?
      (fun entry => trioResponse entry.1 entry.2.2 = body)).map (fun entry => (.number entry.2.1,.ok (.string entry.2.2)))}}}

def trioReply (host id value : String) : Event :=
  ⟨2,.ethReply 0 (.custom ⟨"https://" ++ host ++ ".test",none⟩) (.ok ⟨200,[],trioResponse id value⟩)⟩

def trioRun : List Event :=
  [⟨1,.ethCall trio (some pairConfig) .ethGetTransactionCount none (.ok .null) 0⟩,trioReply "two" "2" "0x9",
    trioReply "three" "1" "0x7",mainnetCall,trioReply "one" "0" "0x7"]

def trioHonest : List RpcService := [.custom ⟨"https://one.test",none⟩,.custom ⟨"https://three.test",none⟩]

def trioFaulty : List RpcService := [.custom ⟨"https://two.test",none⟩]

def Completion.showsHonest (completion : Completion) : Bool :=
  match completion with
  | ⟨_,.ethGetTransactionCount,results,_⟩ =>
    trioHonest.all (fun service => results.entries.any (fun entry => entry.1 == service && entry.2.isOk))
  | _ => false

theorem Completion.exists_of_showsHonest {completions : List Completion}
    (shown : completions.any Completion.showsHonest = true) : ∃ time results answer,
      (⟨time,.ethGetTransactionCount,results,answer⟩ : Completion) ∈ completions ∧
        ∀ service ∈ trioHonest, ∃ value, (service,.ok value) ∈ results.entries := by
  obtain ⟨completion,inside,each⟩ := List.any_eq_true.mp shown
  unfold showsHonest at each
  split at each
  · rename_i time results answer
    refine ⟨time,results,answer,inside,?_⟩
    intro service listed
    obtain ⟨⟨other,result⟩,present,own⟩ := List.any_eq_true.mp (List.all_eq_true.mp each service listed)
    obtain ⟨same,fine⟩ := Bool.and_eq_true_iff.mp own
    obtain rfl := eq_of_beq same
    cases result with
    | ok value => exact ⟨value,present⟩
    | error error => cases fine
  · cases each

/-- Whether the result of a reply is the count of the honest providers. -/
def readsSeven (reply : Except IcError HttpResponse) : Bool :=
  match reply with
  | .ok response =>
    match trioPlatform.crates.rpc.read response.body with
    | some (_,.ok (.string text)) => text == "0x7"
    | _ => false
  | .error _ => false

theorem trio_truthful {memory : Memory (ReferenceTimedMap SupportedRpcService)} :
    Truthful trioPlatform memory .ethGetTransactionCount none .null (repliesTo 0 trioRun.tail) trioFaulty
      (⟨7,by decide⟩ : Nat256) := by
  intro service reply value sound replied gives
  have told : ∀ entry ∈ repliesTo 0 trioRun.tail, entry.1 ∈ trioFaulty ∨ readsSeven entry.2 = true := by
    decide +kernel
  have seven := (told _ replied).resolve_left sound
  obtain ⟨request,status,_,received⟩ := gives
  obtain ⟨response,id,json,rfl,read,decoded⟩ := value_of_receive received
  unfold readsSeven at seven
  simp only [read] at seven
  split at seven
  · rename_i text same
    cases same
    obtain rfl := eq_of_beq seven
    have counted : ((RpcMethod.ethGetTransactionCount.format trioPlatform.crates.text).decode (.string "0x7")).map
        (fun v => RpcMethod.ethGetTransactionCount.convert none v == (⟨7,by decide⟩ : Nat256)) = some true := by
      decide +kernel
    rw [decoded] at counted
    exact Option.some.inj counted
  · cases seven

theorem honest_providers_decide_for_trio : ∃ time results value,
    (⟨time,.ethGetTransactionCount,results,.consistent (.ok value)⟩ : Completion) ∈
      Runs.deliveries (Canister.step trioPlatform) (Canister.answers trioPlatform 0) (.initial trioPlatform demo) trioRun ∧
    value = (⟨7,by decide⟩ : Nat256) := by
  have shown : (Runs.deliveries (Canister.step trioPlatform) (Canister.answers trioPlatform 0)
      (.initial trioPlatform demo) trioRun).any Completion.showsHonest = true := by decide +kernel
  have opens : (Runs.run (Canister.step trioPlatform) (.initial trioPlatform demo) []).Opens trioPlatform 0
      ⟨1,.ethCall trio (some pairConfig) .ethGetTransactionCount none (.ok .null) 0⟩ := by decide +kernel
  obtain ⟨time,results,answer,inside,honest⟩ := Completion.exists_of_showsHonest shown
  have canMeet : CanMeet trio (.threshold none 2) := Nat.le_succ 2
  obtain ⟨given,client,_,same,accepted,each⟩ := honest_providers_decide trioPlatform Reduce.reference_lawful
    Reduce.reference_unanimous (@Reduce.reference_decisive _ _ _ _ _ (inferInstanceAs (PartialEquivBEq TransactionCount)))
    demo [] trioRun.tail rfl opens canMeet
  cases same
  have two : client.required = 2 := by
    rw [EthRpcClient.required,EthRpcClient.consensusStrategy,(EthRpcClient.new_eq_ok accepted).1]
    rfl
  have few : trioFaulty.length < client.required := two ▸ Nat.one_lt_two
  obtain ⟨safe,live⟩ := each trioFaulty _ few trio_truthful time results answer inside
  have sound : SoundEnough client trioFaulty results := by
    refine ⟨trioHonest,by decide,two.le,?_⟩
    intro service listed
    exact ⟨(by decide : ∀ service ∈ trioHonest, service ∉ trioFaulty) service listed,honest service listed⟩
  obtain ⟨value,rfl⟩ := live sound
  exact ⟨time,results,value,inside,eq_of_beq (α := Nat256) (safe value rfl)⟩

end Runs
end EvmRpc
