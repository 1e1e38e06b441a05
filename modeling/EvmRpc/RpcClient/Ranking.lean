import EvmRpc.RpcClient.Client

/-! The ranking of default providers by the successes recorded for them. -/
namespace EvmRpc
open Library

section Default
variable {M : Type} {timed : TimedSizedMap SupportedRpcService M} {made : M → Prop} {source : RpcServices}
  {strategy : ConsensusStrategy} {count : ℕ} {now latest : Timestamp} {usage after : SupportedRpcServiceUsage M}
  {history : List (SupportedRpcService × Timestamp)}

/-- The number of default services that a strategy asks for, if it is accepted. -/
def DefaultCount (source : RpcServices) (strategy : ConsensusStrategy) (count : ℕ) : Prop :=
  match strategy with
  | .equality => count = Providers.DEFAULT_NUM_PROVIDERS_FOR_EQUALITY
  | .threshold total min => ∃ t, total = some t ∧ 0 < min ∧ min ≤ t ∧
      t.toNat ≤ (supportedProviders source).2.length ∧ count = t.toNat

theorem supportedProviders_nodup (source : RpcServices) : (supportedProviders source).2.Nodup := by
  cases source <;> (simp only [supportedProviders]; decide)

private theorem supportedProviders_length (source : RpcServices) (default : userDefinedProviders source = none) :
    3 ≤ (supportedProviders source).2.length ∧ (supportedProviders source).2.length ≤ 6 := by
  cases source with
  | custom chainId services => cases default
  | _ =>
    simp only [supportedProviders]
    decide

/-- The best services of a ranking, as the set that is queried. -/
def bestRanked (ranked : List SupportedRpcService) (count : ℕ) : OrderedSet RpcService :=
  .ofList ((ranked.take count).map SupportedRpcService.toRpcService)

theorem card_bestRanked {ranked : List SupportedRpcService} (distinct : ranked.Nodup) (enough : count ≤ ranked.length) :
    (bestRanked ranked count).card = count := by
  have nodup : ((ranked.take count).map SupportedRpcService.toRpcService).Nodup :=
    (distinct.sublist (List.take_sublist count ranked)).map SupportedRpcService.toRpcService_injective
  rw [bestRanked,OrderedSet.card_eq_length.mpr nodup]
  simp [enough]

theorem rankProviders_perm
    (lawful : timed.Lawful SupportedRpcServiceUsage.EXPIRATION SupportedRpcServiceUsage.CAPACITY made)
    (services : List SupportedRpcService) (now : Timestamp) (usage : SupportedRpcServiceUsage M) :
    (rankProviders timed services now usage).1.Perm services :=
  (lawful.sortKeysBy_stable (timed.evictExpired services now usage.map) services
    SupportedRpcServiceUsage.ascendingNumElements).perm

private theorem DefaultCount.within (asks : DefaultCount source strategy count)
    (default : userDefinedProviders source = none) : 0 < count ∧ count ≤ (supportedProviders source).2.length := by
  cases strategy with
  | equality =>
    obtain rfl : count = 3 := asks
    exact ⟨by omega,(supportedProviders_length source default).1⟩
  | threshold total min =>
    obtain ⟨t,_,positive,enough,supply,rfl⟩ := asks
    exact ⟨lt_of_lt_of_le (UInt8.lt_iff_toNat_lt.mp positive) (UInt8.le_iff_toNat_le.mp enough),supply⟩

private theorem chooseProviders_best (default : userDefinedProviders source = none)
    (asks : DefaultCount source strategy count) (now : Timestamp) (usage : SupportedRpcServiceUsage M)
    (card : (bestRanked (rankProviders timed (supportedProviders source).2 now usage).1 count).card = count) :
    chooseProviders timed none (supportedProviders source).2 strategy now usage =
      .done (.ok (bestRanked (rankProviders timed (supportedProviders source).2 now usage).1 count),
        (rankProviders timed (supportedProviders source).2 now usage).2) := by
  cases strategy with
  | equality =>
    obtain rfl : count = 3 := asks
    rfl
  | threshold total min =>
    obtain ⟨t,rfl,positive,enough,supply,rfl⟩ := asks
    have some : min ≠ 0 := by
      rintro rfl
      exact absurd positive (UInt8.lt_irrefl 0)
    have fits : ¬ t > UInt8.ofNat (supportedProviders source).2.length := by
      have atMost := (supportedProviders_length source default).2
      have reduced : (UInt8.ofNat (supportedProviders source).2.length).toNat = (supportedProviders source).2.length := by
        simp only [UInt8.toNat_ofNat']
        omega
      rw [gt_iff_lt,UInt8.lt_iff_toNat_lt,reduced]
      omega
    have same : (OrderedSet.ofList (((rankProviders timed (supportedProviders source).2 now usage).1.take t.toNat).map
        SupportedRpcService.toRpcService)).card = t.toNat := card
    simp only [chooseProviders,if_neg some,if_neg (UInt8.not_lt.mpr enough),if_neg fits]
    rw [if_pos same]
    rfl

/-- A call that names no services and asks for few enough of them is accepted, and
its assertion about duplicates holds. -/
theorem Providers.new_default
    (lawful : timed.Lawful SupportedRpcServiceUsage.EXPIRATION SupportedRpcServiceUsage.CAPACITY made)
    (default : userDefinedProviders source = none) (asks : DefaultCount source strategy count)
    (now : Timestamp) (usage : SupportedRpcServiceUsage M) :
    let ranked := rankProviders timed (supportedProviders source).2 now usage
    (bestRanked ranked.1 count).card = count ∧ ∃ nonempty, Providers.new timed source strategy now usage =
      .done (.ok ⟨(supportedProviders source).1,bestRanked ranked.1 count,nonempty⟩,ranked.2) := by
  intro ranked
  have perm : ranked.1.Perm _ := rankProviders_perm lawful _ now usage
  obtain ⟨positive,supply⟩ := asks.within default
  have card : (bestRanked ranked.1 count).card = count :=
    card_bestRanked (perm.nodup_iff.mpr (supportedProviders_nodup source)) (perm.length_eq ▸ supply)
  have nonempty : (bestRanked ranked.1 count).elements ≠ [] := by
    intro empty
    have none : (bestRanked ranked.1 count).card = 0 := by rw [OrderedSet.card,empty,List.length_nil]
    omega
  refine ⟨card,nonempty,?_⟩
  have chosen := chooseProviders_best default asks now usage card
  unfold Providers.new
  simp only [default,chosen]
  rw [dif_neg nonempty]

private theorem chooseProviders_usage {userInput : Option (List RpcService)} {supported : List SupportedRpcService}
    {result : Except ProviderError (OrderedSet RpcService)}
    (chosen : chooseProviders timed userInput supported strategy now usage = .done (result,after)) :
    after = usage ∨ after = (rankProviders timed supported now usage).2 := by
  unfold chooseProviders at chosen
  cases strategy with
  | equality =>
    cases userInput with
    | some listed =>
      cases chosen
      exact .inl rfl
    | none =>
      cases chosen
      exact .inr rfl
  | threshold total min =>
    simp only at chosen
    split at chosen
    · cases chosen
      exact .inl rfl
    · cases userInput with
      | some listed =>
        cases total <;> grind
      | none =>
        cases total with
        | none =>
          cases chosen
          exact .inl rfl
        | some t => grind

/-- Choosing providers leaves the usage record alone or only evicts from it. -/
theorem Providers.new_usage {result : Except ProviderError Providers}
    (chosen : Providers.new timed source strategy now usage = .done (result,after)) :
    after = usage ∨ after = ⟨timed.evictExpired (supportedProviders source).2 now usage.map⟩ := by
  unfold Providers.new at chosen
  simp only at chosen
  split at chosen
  · cases chosen
  · rename_i error left inner
    cases chosen
    exact chooseProviders_usage inner
  · rename_i services left inner
    split at chosen
    · cases chosen
      exact chooseProviders_usage inner
    · cases chosen
      exact chooseProviders_usage inner

theorem chooseProviders_listed {listed : List RpcService} {supported : List SupportedRpcService}
    {services : OrderedSet RpcService}
    (accepted : chooseProviders timed (some listed) supported strategy now usage = .done (.ok services,after)) :
    services = .ofList listed := by
  cases strategy with
  | equality =>
    cases accepted
    rfl
  | threshold total min =>
    obtain ⟨_,⟨_,impossible,_⟩ | ⟨given,same,_,_,_,services⟩⟩ := chooseProviders_threshold_ok accepted
    · cases impossible
    · cases same
      exact services

/-- Services are queried under the name by which their successes are recorded. -/
theorem Providers.new_named
    (lawful : timed.Lawful SupportedRpcServiceUsage.EXPIRATION SupportedRpcServiceUsage.CAPACITY made)
    {providers : Providers} (accepted : Providers.new timed source strategy now usage = .done (.ok providers,after))
    {service : RpcService} (queried : service ∈ providers.services.elements) {supported : SupportedRpcService}
    (named : SupportedRpcService.ofRpcService service = some supported) : service = supported.toRpcService := by
  obtain ⟨_,chosen⟩ := Providers.new_eq_ok accepted
  cases explicit : userDefinedProviders source with
  | none =>
    rw [explicit] at chosen
    obtain ⟨s,_,rfl⟩ := chooseProviders_default lawful chosen service queried
    rw [SupportedRpcService.ofRpcService_toRpcService,Option.some.injEq] at named
    rw [named]
  | some listed =>
    rw [explicit] at chosen
    rw [chooseProviders_listed chosen,OrderedSet.mem_ofList] at queried
    have kind : ∀ id, service ≠ .provider id := by
      rintro id rfl
      cases source <;> simp only [userDefinedProviders,Option.map_eq_some_iff,Option.some.injEq] at explicit <;>
        grind
    cases service with
    | provider id => exact absurd rfl (kind id)
    | custom api => cases named
    | _ =>
      cases named
      rfl

/-- The services of a client have the names under which their successes are recorded. -/
def EthRpcClient.Named (client : EthRpcClient) : Prop :=
  ∀ service ∈ client.providers.services.elements, ∀ supported,
    SupportedRpcService.ofRpcService service = some supported → service = supported.toRpcService

theorem EthRpcClient.new_named
    (lawful : timed.Lawful SupportedRpcServiceUsage.EXPIRATION SupportedRpcServiceUsage.CAPACITY made)
    {config : Option RpcConfig} {client : EthRpcClient}
    (accepted : EthRpcClient.new timed source config now usage = .done (.ok client,after)) : client.Named :=
  fun _ queried _ named => Providers.new_named lawful (EthRpcClient.new_eq_ok accepted).2 queried named

theorem EthRpcClient.new_usage {config : Option RpcConfig} {result : Except ProviderError EthRpcClient}
    (chosen : EthRpcClient.new timed source config now usage = .done (result,after)) :
    after = usage ∨ after = ⟨timed.evictExpired (supportedProviders source).2 now usage.map⟩ := by
  unfold EthRpcClient.new at chosen
  simp only at chosen
  split at chosen
  · cases chosen
  · rename_i error left inner
    cases chosen
    exact Providers.new_usage inner
  · rename_i providers left inner
    cases chosen
    exact Providers.new_usage inner

/-- The number of successes of a service that are recorded and not expired, of which
no more than the capacity is kept. -/
def recordedSuccesses (history : List (SupportedRpcService × Timestamp)) (now : Timestamp)
    (service : SupportedRpcService) : ℕ :=
  min SupportedRpcServiceUsage.CAPACITY (TimedSizedMap.alive SupportedRpcServiceUsage.EXPIRATION now
    (TimedSizedMap.timesOf history service)).length

abbrev UsageTracks (timed : TimedSizedMap SupportedRpcService M) (made : M → Prop)
    (usage : SupportedRpcServiceUsage M) (history : List (SupportedRpcService × Timestamp)) (latest : Timestamp) : Prop :=
  TimedSizedMap.Tracks timed SupportedRpcServiceUsage.EXPIRATION SupportedRpcServiceUsage.CAPACITY made usage.map
    history latest

/-- Services are ranked by their recorded successes, and in the given order where
these are equal. -/
theorem rankProviders_eq_sort
    (lawful : timed.Lawful SupportedRpcServiceUsage.EXPIRATION SupportedRpcServiceUsage.CAPACITY made)
    (tracks : UsageTracks timed made usage history latest) (le : latest ≤ now) (services : List SupportedRpcService) :
    (rankProviders timed services now usage).1 =
      StableSort.sort (fun service => OrderDual.toDual (recordedSuccesses history now service)) services := by
  have spec := lawful.sortKeysBy_stable (timed.evictExpired services now usage.map) services
    SupportedRpcServiceUsage.ascendingNumElements
  have sorted : (rankProviders timed services now usage).1 = StableSort.sort _ services := spec.eq_sort
  rw [sorted]
  refine StableSort.sort_congr (fun service listed => ?_)
  have entries := lawful.entries_evictExpired usage.map services now tracks.made service
  rw [if_pos listed] at entries
  have count := tracks.length_alive service le
  rw [← entries,TimedSizedMap.entries] at count
  unfold SupportedRpcServiceUsage.ascendingNumElements recordedSuccesses
  rw [← count]
  cases timed.get (timed.evictExpired services now usage.map) service <;> rfl

end Default
end EvmRpc
