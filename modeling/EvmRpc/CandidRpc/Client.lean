import EvmRpc.CandidRpc.Conversion
import EvmRpc.RpcClient.Client
import EvmRpc.Types.Metrics

/-! From reduced results to the reply of an endpoint: inconsistent results are
counted, converted entry by entry and kept inconsistent unless all of them match. -/
namespace EvmRpc
open Library

namespace RpcMethod

def JsonType : RpcMethod → Type
  | .ethCall => Json.Data
  | .ethFeeHistory => Json.FeeHistory
  | .ethGetLogs => List Json.LogEntry
  | .ethGetBlockByNumber => Json.Block
  | .ethGetTransactionCount => TransactionCount
  | .ethGetTransactionReceipt => Option Json.TransactionReceipt
  | .ethSendRawTransaction => Json.SendRawTransactionResult

def CandidType : RpcMethod → Type
  | .ethCall => Hex
  | .ethFeeHistory => Candid.FeeHistory
  | .ethGetLogs => List Candid.LogEntry
  | .ethGetBlockByNumber => Candid.Block
  | .ethGetTransactionCount => Nat256
  | .ethGetTransactionReceipt => Option Candid.TransactionReceipt
  | .ethSendRawTransaction => Candid.SendRawTransactionStatus

instance (method : RpcMethod) : BEq method.JsonType := match method with
  | .ethCall => inferInstanceAs (BEq Json.Data)
  | .ethFeeHistory => inferInstanceAs (BEq Json.FeeHistory)
  | .ethGetLogs => inferInstanceAs (BEq (List Json.LogEntry))
  | .ethGetBlockByNumber => inferInstanceAs (BEq Json.Block)
  | .ethGetTransactionCount => inferInstanceAs (BEq TransactionCount)
  | .ethGetTransactionReceipt => inferInstanceAs (BEq (Option Json.TransactionReceipt))
  | .ethSendRawTransaction => inferInstanceAs (BEq Json.SendRawTransactionResult)

instance (method : RpcMethod) : BEq method.CandidType := match method with
  | .ethCall => inferInstanceAs (BEq Hex)
  | .ethFeeHistory => inferInstanceAs (BEq Candid.FeeHistory)
  | .ethGetLogs => inferInstanceAs (BEq (List Candid.LogEntry))
  | .ethGetBlockByNumber => inferInstanceAs (BEq Candid.Block)
  | .ethGetTransactionCount => inferInstanceAs (BEq Nat256)
  | .ethGetTransactionReceipt => inferInstanceAs (BEq (Option Candid.TransactionReceipt))
  | .ethSendRawTransaction => inferInstanceAs (BEq Candid.SendRawTransactionStatus)

instance (method : RpcMethod) : PartialEquivBEq method.CandidType := match method with
  | .ethCall => inferInstanceAs (PartialEquivBEq Hex)
  | .ethFeeHistory => inferInstanceAs (PartialEquivBEq Candid.FeeHistory)
  | .ethGetLogs => inferInstanceAs (PartialEquivBEq (List Candid.LogEntry))
  | .ethGetBlockByNumber => inferInstanceAs (PartialEquivBEq Candid.Block)
  | .ethGetTransactionCount => inferInstanceAs (PartialEquivBEq Nat256)
  | .ethGetTransactionReceipt => inferInstanceAs (PartialEquivBEq (Option Candid.TransactionReceipt))
  | .ethSendRawTransaction => inferInstanceAs (PartialEquivBEq Candid.SendRawTransactionStatus)

/-- The conversion that each endpoint maps over its results. Only that of
`eth_sendRawTransaction` uses the hash of the transaction. -/
def convert (transactionHash : Option Hex32) : (method : RpcMethod) → method.JsonType → method.CandidType
  | .ethCall => fromData
  | .ethFeeHistory => fromFeeHistory
  | .ethGetLogs => fromLogEntries
  | .ethGetBlockByNumber => fromBlock
  | .ethGetTransactionCount => Amount.toNat256
  | .ethGetTransactionReceipt => Option.map fromTransactionReceipt
  | .ethSendRawTransaction => fromSendRawTransactionResult transactionHash

private theorem beq_of_injective {α β : Type} [BEq α] [BEq β] [LawfulBEq α] [LawfulBEq β] {f : α → β}
    (injective : Function.Injective f) (a b : α) : (f a == f b) = (a == b) := by
  rw [Bool.eq_iff_iff,beq_iff_eq,beq_iff_eq]
  exact injective.eq_iff

theorem convert_beq (transactionHash : Option Hex32) (method : RpcMethod) (a b : method.JsonType) :
    (method.convert transactionHash a == method.convert transactionHash b) = (a == b) := by
  cases method with
  | ethCall => exact beq_of_injective fromData_injective a b
  | ethFeeHistory => exact fromFeeHistory_beq a b
  | ethGetLogs => exact beq_of_injective fromLogEntries_injective a b
  | ethGetBlockByNumber => exact beq_of_injective fromBlock_injective a b
  | ethGetTransactionCount => exact beq_of_injective Amount.toNat256_injective a b
  | ethGetTransactionReceipt =>
    exact beq_of_injective (Option.map_injective fromTransactionReceipt_injective) a b
  | ethSendRawTransaction =>
    exact beq_of_injective (fromSendRawTransactionResult_injective transactionHash) a b

private theorem exists_reflexive (method : RpcMethod) : ∃ value : method.JsonType, (value == value) = true := by
  cases method with
  | ethCall => exact ⟨(default : Json.Data),beq_self_eq_true (α := Json.Data) _⟩
  | ethFeeHistory =>
    exact ⟨(⟨default,[],[],[]⟩ : Json.FeeHistory),(Json.FeeHistory.beq_iff _ _).mpr ⟨rfl,rfl,rfl,rfl⟩⟩
  | ethGetLogs => exact ⟨([] : List Json.LogEntry),rfl⟩
  | ethGetBlockByNumber => exact ⟨(default : Json.Block),beq_self_eq_true (α := Json.Block) _⟩
  | ethGetTransactionCount => exact ⟨(default : TransactionCount),beq_self_eq_true (α := TransactionCount) _⟩
  | ethGetTransactionReceipt => exact ⟨(none : Option Json.TransactionReceipt),rfl⟩
  | ethSendRawTransaction => exact ⟨Json.SendRawTransactionResult.ok,rfl⟩

end RpcMethod

abbrev CallResults (method : RpcMethod) := MultiResults RpcService method.JsonType RpcError

def countInconsistent (url : Url) (method : RpcMethod) (metrics : Metrics) (service : RpcService) : Metrics :=
  match resolveRpcService service with
  | .ok (.provider provider) =>
    let host := ⟨(provider.hostname url).getD "(unknown)"⟩
    {metrics with inconsistentResponses :=
      addMetricEntry metrics.inconsistentResponses (method.toMetric,host) 1}
  | _ => metrics

def processResult {α : Type} (url : Url) (method : RpcMethod) (result : ReducedResult RpcService α RpcError)
    (metrics : Metrics) : MultiRpcResult α × Metrics :=
  match result with
  | .ok value => (.consistent (.ok value),metrics)
  | .error (.consistentError error) => (.consistent (.error error),metrics)
  | .error (.inconsistentResults results) =>
    (.inconsistent results.entries,results.keys.foldl (countInconsistent url method) metrics)

/-- What every endpoint does with the results that its providers gave. -/
def EthRpcClient.reply {method : RpcMethod} (crate : Reduce RpcService method.JsonType RpcError) (url : Url)
    (client : EthRpcClient) (transactionHash : Option Hex32) (results : CallResults method)
    (metrics : Metrics) : MultiRpcResult method.CandidType × Metrics :=
  let (result,metrics) := processResult url method (client.consensusStrategy.reduce crate results) metrics
  (result.map (method.convert transactionHash),metrics)

private theorem countInconsistent_eq (url : Url) (method : RpcMethod) (metrics : Metrics) (service : RpcService) :
    ∃ counters, countInconsistent url method metrics service = {metrics with inconsistentResponses := counters} := by
  unfold countInconsistent
  split
  · exact ⟨_,rfl⟩
  · exact ⟨metrics.inconsistentResponses,rfl⟩

/-- A reply changes no counter apart from that of inconsistent responses. -/
theorem EthRpcClient.reply_eq {method : RpcMethod} (crate : Reduce RpcService method.JsonType RpcError) (url : Url)
    (client : EthRpcClient) (transactionHash : Option Hex32) (results : CallResults method) (metrics : Metrics) :
    ∃ counters, (client.reply crate url transactionHash results metrics).2 =
      {metrics with inconsistentResponses := counters} := by
  simp only [EthRpcClient.reply,processResult]
  split
  · exact ⟨metrics.inconsistentResponses,rfl⟩
  · exact ⟨metrics.inconsistentResponses,rfl⟩
  · refine List.foldlRecOn (motive := fun later : Metrics =>
      ∃ counters, later = {metrics with inconsistentResponses := counters}) _ _
      ⟨metrics.inconsistentResponses,rfl⟩ ?_
    rintro _ ⟨counters,rfl⟩ service _
    obtain ⟨later,written⟩ := countInconsistent_eq url method {metrics with inconsistentResponses := counters} service
    exact ⟨later,written⟩

theorem inconsistent_results_stay (url : Url) (method : RpcMethod) (transactionHash : Option Hex32)
    (held : CallResults method) (metrics : Metrics) (a b : RpcService × RpcResult method.JsonType)
    (left : a ∈ held.entries) (right : b ∈ held.entries) (differ : (a.2 == b.2) = false) :
    (processResult url method (.error (.inconsistentResults held)) metrics).1.map
        (method.convert transactionHash) =
      .inconsistent (held.entries.map (fun entry => (entry.1,entry.2.map (method.convert transactionHash)))) := by
  have reflects : ReflectsBEq (method.convert transactionHash) := fun x y same => by
    rw [← RpcMethod.convert_beq transactionHash]
    exact same
  exact MultiRpcResult.map_of_differ reflects left right differ

theorem inconsistent_results_stay_for_two_hashes :
    (processResult ⟨fun _ => none⟩ .ethCall (.error (.inconsistentResults
        ⟨[(.ethMainnet .ankr,.ok ⟨[1]⟩),(.ethMainnet .llama,.ok ⟨[2]⟩)],by decide⟩)) .default).1.map
        (RpcMethod.ethCall.convert none) =
      .inconsistent [(.ethMainnet .ankr,.ok ⟨[1]⟩),(.ethMainnet .llama,.ok ⟨[2]⟩)] :=
  inconsistent_results_stay ⟨fun _ => none⟩ .ethCall none
    ⟨[(.ethMainnet .ankr,.ok ⟨[1]⟩),(.ethMainnet .llama,.ok ⟨[2]⟩)],by decide⟩ .default
    (.ethMainnet .ankr,.ok ⟨[1]⟩) (.ethMainnet .llama,.ok ⟨[2]⟩) (by simp) (by simp) (by decide)

section Threshold
variable {method : RpcMethod}

/-- At least `min` distinct services gave a result that converts to `value`. -/
def Supported (results : CallResults method) (transactionHash : Option Hex32) (min : UInt8)
    (value : method.CandidType) : Prop :=
  ∃ services : List RpcService, services.Nodup ∧ min.toNat ≤ services.length ∧
    ∀ service ∈ services, ∃ v, (service,.ok v) ∈ results.entries ∧
      (method.convert transactionHash v == value) = true

/-- Results for exactly the services that the client queries. -/
def EthRpcClient.Collected (client : EthRpcClient) (results : CallResults method) : Prop :=
  ∀ service, service ∈ results.keys ↔ service ∈ client.providers.services.elements

/-- Whatever the queried services answer, a consistent success of the method is
backed by `min` of them. -/
def EthRpcClient.ThresholdIsReal (client : EthRpcClient) (method : RpcMethod) (min : UInt8) : Prop :=
  ∀ (crate : Reduce RpcService method.JsonType RpcError) (url : Url)
    (transactionHash : Option Hex32) (results : CallResults method) (metrics : Metrics)
    (value : method.CandidType), crate.Lawful → client.Collected results →
    (client.reply crate url transactionHash results metrics).1 = .consistent (.ok value) →
      Supported results transactionHash min value

theorem collected_length {client : EthRpcClient} {results : CallResults method}
    (collected : client.Collected results) :
    results.entries.length = client.providers.services.card := by
  have perm : results.keys.Perm client.providers.services.elements :=
    (List.perm_ext_iff_of_nodup results.distinct client.providers.services.nodup).mpr collected
  simpa [MultiResults.keys,OrderedSet.card] using perm.length_eq

private theorem supported_of_filter {results : CallResults method} {transactionHash : Option Hex32}
    {min : UInt8} {value : method.CandidType} (keep : RpcService × RpcResult method.JsonType → Bool)
    (enough : min.toNat ≤ (results.entries.filter keep).length)
    (converted : ∀ entry ∈ results.entries, keep entry = true → ∃ v, entry.2 = .ok v ∧
      (method.convert transactionHash v == value) = true) :
    Supported results transactionHash min value := by
  refine ⟨(results.entries.filter keep).map Prod.fst,?_,by simpa using enough,?_⟩
  · exact results.distinct.sublist (List.filter_sublist.map Prod.fst)
  · intro service inside
    obtain ⟨entry,kept,rfl⟩ := List.mem_map.mp inside
    obtain ⟨listed,keeps⟩ := List.mem_filter.mp kept
    obtain ⟨v,same,equal⟩ := converted entry listed keeps
    exact ⟨v,same ▸ listed,equal⟩

/-- Either the reduction found enough equal results, or all results convert alike. -/
theorem supported_of_reply {crate : Reduce RpcService method.JsonType RpcError}
    {url : Url} {client : EthRpcClient} {total : Option UInt8} {min : UInt8}
    {transactionHash : Option Hex32} {results : CallResults method} {metrics : Metrics}
    {value : method.CandidType} (lawful : crate.Lawful)
    (strategy : client.config.responseConsensus = some (.threshold total min))
    (enough : min.toNat ≤ results.entries.length)
    (outcome : (client.reply crate url transactionHash results metrics).1 = .consistent (.ok value)) :
    Supported results transactionHash min value := by
  have reduction : client.consensusStrategy = .byThreshold min := by
    simp [EthRpcClient.consensusStrategy,strategy,ReductionStrategy.ofConsensusStrategy]
  unfold EthRpcClient.reply at outcome
  simp only [reduction,ReductionStrategy.reduce] at outcome
  cases reduced : crate.withThreshold min results with
  | ok v =>
    rw [reduced] at outcome
    simp only [processResult,MultiRpcResult.map,Except.map,MultiRpcResult.consistent.injEq,
      Except.ok.injEq] at outcome
    subst value
    apply supported_of_filter (fun entry => entry.2 == .ok v) (lawful.threshold_ok min results v reduced)
    intro entry inside equal
    obtain ⟨service,result⟩ := entry
    rcases result with error | w
    · simp at equal
    · refine ⟨w,rfl,?_⟩
      rw [RpcMethod.convert_beq]
      simpa using equal
  | error failure =>
    rw [reduced] at outcome
    rcases failure with error | held
    · simp [processResult,MultiRpcResult.map,Except.map] at outcome
    · have perm := lawful.threshold_inconsistent min results held reduced
      obtain ⟨v,impossible,_⟩ | ⟨entries,same,_,all⟩ := MultiRpcResult.map_eq_consistent_ok outcome
      · simp [processResult] at impossible
      · simp only [processResult,MultiRpcResult.inconsistent.injEq] at same
        subst entries
        apply supported_of_filter (fun _ => true) (by simpa using enough)
        exact fun entry inside _ => all entry (perm.mem_iff.mpr inside)

private theorem reference_withThreshold_of_few {results : CallResults method} {min : UInt8}
    (few : results.entries.length < min.toNat) :
    (Reduce.reference : Reduce RpcService method.JsonType RpcError).withThreshold min results =
      .error (.inconsistentResults results) := by
  unfold Reduce.reference
  have none : results.okResults.find? (fun entry => decide (min.toNat ≤ results.support entry.2)) = none := by
    rw [List.find?_eq_none]
    intro entry _
    have bound : results.support entry.2 ≤ results.entries.length := List.length_filter_le _ _
    simp
    omega
  simp only [none]

/-- Fewer queried services than `min` can still look unanimous: the reduction gives
up, but the conversion finds that all results match. -/
theorem unsupported_reply {client : EthRpcClient} {total : Option UInt8} {min : UInt8}
    (strategy : client.config.responseConsensus = some (.threshold total min))
    (few : client.providers.services.card < min.toNat) : ¬ client.ThresholdIsReal method min := by
  intro real
  obtain ⟨v,reflexive⟩ := RpcMethod.exists_reflexive method
  let services := client.providers.services
  let results : CallResults method := ⟨services.elements.map (fun service => (service,.ok v)),by
    simpa [Function.comp_def] using services.nodup⟩
  have collected : client.Collected results := by
    intro service
    simp [results,services,MultiResults.keys]
  have unanimous : ∀ entry ∈ results.entries, entry.2 = .ok v := by
    intro entry inside
    obtain ⟨service,_,rfl⟩ := List.mem_map.mp inside
    rfl
  have length := collected_length collected
  have equal : (method.convert none v == method.convert none v) = true := by
    rw [RpcMethod.convert_beq]
    exact reflexive
  have outcome : (client.reply Reduce.reference ⟨fun _ => Option.none⟩ Option.none results .default).1 =
      .consistent (.ok (method.convert none v)) := by
    have reduction : client.consensusStrategy = .byThreshold min := by
      simp [EthRpcClient.consensusStrategy,strategy,ReductionStrategy.ofConsensusStrategy]
    unfold EthRpcClient.reply
    simp only [reduction,ReductionStrategy.reduce,
      reference_withThreshold_of_few (length ▸ few),processResult]
    exact MultiRpcResult.map_of_unanimous _ (by simpa [results] using client.providers.nonempty) unanimous equal
  obtain ⟨agreeing,distinct,enough,given⟩ := real Reduce.reference _ _ _ _ _ Reduce.reference_lawful collected outcome
  have within : agreeing ⊆ results.keys := by
    intro service inside
    obtain ⟨w,listed,_⟩ := given service inside
    exact List.mem_map_of_mem listed
  have short := (distinct.subperm within).length_le
  simp only [MultiResults.keys,List.length_map] at short
  omega

/-- The services that a caller lists include `min` distinct ones. Default services
always do. -/
def EnoughListed (source : RpcServices) (min : UInt8) : Prop :=
  match userDefinedProviders source with
  | none => True
  | some listed => min.toNat ≤ listed.dedup.length

/-- An accepted threshold is real unless the caller listed too few distinct services. -/
theorem thresholdIsReal_iff_enoughListed {M : Type} (timed : TimedSizedMap SupportedRpcService M)
    (source : RpcServices) (config : Option RpcConfig) (total : Option UInt8) (min : UInt8) (now : Timestamp)
    (usage after : SupportedRpcServiceUsage M) (client : EthRpcClient) (method : RpcMethod)
    (strategy : (config.getD default).responseConsensus = some (.threshold total min))
    (accepted : EthRpcClient.new timed source config now usage = .done (.ok client,after)) :
    client.ThresholdIsReal method min ↔ EnoughListed source min := by
  have used : client.config.responseConsensus = some (.threshold total min) := by
    rw [(EthRpcClient.new_eq_ok accepted).1]
    exact strategy
  have sized := EthRpcClient.card_of_threshold accepted strategy
  have listed : EnoughListed source min ↔ min.toNat ≤ client.providers.services.card := by
    unfold EnoughListed
    rcases sized with ⟨default,enough⟩ | ⟨listed,explicit,card⟩
    · simp [default,enough]
    · simp [explicit,card]
  rw [listed]
  constructor
  · intro real
    by_contra few
    exact unsupported_reply used (Nat.lt_of_not_le few) real
  · intro enough crate url transactionHash results metrics value lawful collected outcome
    rw [← collected_length collected] at enough
    exact supported_of_reply lawful used enough outcome

/-- One service listed twice makes a threshold of two that one answer meets. -/
theorem repeated_service_meets_threshold :
    ¬ ∀ (source : RpcServices) (config : Option RpcConfig) (total : Option UInt8) (min : UInt8) (now : Timestamp)
      (usage after : SupportedRpcServiceUsage (ReferenceTimedMap SupportedRpcService)) (client : EthRpcClient)
      (method : RpcMethod), (config.getD default).responseConsensus = some (.threshold total min) →
      EthRpcClient.new ReferenceTimedMap.reference source config now usage = .done (.ok client,after) →
        client.ThresholdIsReal method min := by
  intro always
  have real := always (.ethMainnet (some [.alchemy,.alchemy])) (some ⟨none,some (.threshold (some 2) 2)⟩) (some 2) 2
    0 (.new ReferenceTimedMap.reference) (.new ReferenceTimedMap.reference)
    ⟨⟨.MAINNET,.ofList [.ethMainnet .alchemy,.ethMainnet .alchemy],by decide⟩,
      ⟨none,some (.threshold (some 2) 2)⟩⟩ .ethCall rfl rfl
  refine @unsupported_reply _ _ (some 2) _ rfl ?_ real
  rw [OrderedSet.card_ofList]
  decide

theorem thresholdIsReal_for_distinct_pair :
    (⟨⟨.MAINNET,.ofList [.ethMainnet .alchemy,.ethMainnet .ankr],by decide⟩,
      ⟨none,some (.threshold (some 2) 2)⟩⟩ : EthRpcClient).ThresholdIsReal .ethCall 2 ↔
      EnoughListed (.ethMainnet (some [.alchemy,.ankr])) 2 :=
  thresholdIsReal_iff_enoughListed ReferenceTimedMap.reference (.ethMainnet (some [.alchemy,.ankr]))
    (some ⟨none,some (.threshold (some 2) 2)⟩) (some 2) 2 0 (.new ReferenceTimedMap.reference)
    (.new ReferenceTimedMap.reference) _ .ethCall rfl rfl

end Threshold

end EvmRpc
