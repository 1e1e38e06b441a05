import EvmRpc.Providers

/-! Choice of the providers that a call queries: validation of the requested
consensus against the listed services, or the best ranked default ones. -/
namespace EvmRpc
open Library

structure EthereumNetwork where
  chainId : UInt64
  deriving DecidableEq, Repr

namespace EthereumNetwork

def MAINNET : EthereumNetwork := ⟨1⟩
def SEPOLIA : EthereumNetwork := ⟨11155111⟩
def ARBITRUM : EthereumNetwork := ⟨42161⟩
def BASE : EthereumNetwork := ⟨8453⟩
def OPTIMISM : EthereumNetwork := ⟨10⟩

end EthereumNetwork

structure Providers where
  chain : EthereumNetwork
  services : OrderedSet RpcService
  nonempty : services.elements ≠ []

def userDefinedProviders : RpcServices → Option (List RpcService)
  | .custom _ services => some (services.map .custom)
  | .ethMainnet services => services.map (List.map .ethMainnet)
  | .ethSepolia services => services.map (List.map .ethSepolia)
  | .arbitrumOne services => services.map (List.map .arbitrumOne)
  | .baseMainnet services => services.map (List.map .baseMainnet)
  | .optimismMainnet services => services.map (List.map .optimismMainnet)

def supportedProviders : RpcServices → EthereumNetwork × List SupportedRpcService
  | .custom chainId _ => (⟨chainId⟩,[])
  | .ethMainnet _ => (.MAINNET,SupportedRpcService.eth_mainnet)
  | .ethSepolia _ => (.SEPOLIA,SupportedRpcService.eth_sepolia)
  | .arbitrumOne _ => (.ARBITRUM,SupportedRpcService.arbitrum_one)
  | .baseMainnet _ => (.BASE,SupportedRpcService.base_mainnet)
  | .optimismMainnet _ => (.OPTIMISM,SupportedRpcService.optimism_mainnet)

section Choice
variable {M : Type} (timed : TimedSizedMap SupportedRpcService M)

def rankProviders (services : List SupportedRpcService) (now : Timestamp)
    (usage : SupportedRpcServiceUsage M) : List SupportedRpcService × SupportedRpcServiceUsage M :=
  usage.rankAscendingEvict timed services now

def Providers.DEFAULT_NUM_PROVIDERS_FOR_EQUALITY : ℕ := 3

/-- The services chosen for a call, and the usage record left behind by the
ranking of default providers. -/
def chooseProviders (userInput : Option (List RpcService)) (supported : List SupportedRpcService)
    (strategy : ConsensusStrategy) (now : Timestamp) (usage : SupportedRpcServiceUsage M) :
    Outcome (Except ProviderError (OrderedSet RpcService) × SupportedRpcServiceUsage M) :=
  match strategy with
  | .equality =>
    match userInput with
    | some services => .done (.ok (.ofList services),usage)
    | none =>
      let (ranked,usage) := rankProviders timed supported now usage
      let services := ranked.take Providers.DEFAULT_NUM_PROVIDERS_FOR_EQUALITY
      .done (.ok (.ofList (services.map SupportedRpcService.toRpcService)),usage)
  | .threshold total min =>
    let invalid (message : String) := .done (.error (.invalidRpcConfig message),usage)
    if min = 0 then invalid "min must be greater than 0"
    else
      match userInput with
      | none =>
        match total with
        | none => invalid "total must be specified when using default providers"
        | some total =>
          let len := supported.length
          if min > total then invalid s!"min {min} is greater than total {total}"
          else if total > UInt8.ofNat len then
            invalid s!"total {total} is greater than the number of all supported providers {len}"
          else
            let (ranked,usage) := rankProviders timed supported now usage
            let providers := OrderedSet.ofList ((ranked.take total.toNat).map SupportedRpcService.toRpcService)
            if providers.card = total.toNat then .done (.ok providers,usage)
            else .trap "BUG: duplicate providers"
      | some providers =>
        let len := providers.length
        -- both comparisons are made with the length reduced to eight bits
        if min > UInt8.ofNat len then
          invalid s!"min {min} is greater than the number of specified providers {len}"
        else
          match total with
          | none => .done (.ok (.ofList providers),usage)
          | some total =>
            if total ≠ UInt8.ofNat len then
              invalid s!"total {total} is different than the number of specified providers {len}"
            else .done (.ok (.ofList providers),usage)

def Providers.new (source : RpcServices) (strategy : ConsensusStrategy) (now : Timestamp)
    (usage : SupportedRpcServiceUsage M) :
    Outcome (Except ProviderError Providers × SupportedRpcServiceUsage M) :=
  let (chain,supported) := supportedProviders source
  let userInput := userDefinedProviders source
  match chooseProviders timed userInput supported strategy now usage with
  | .trap message => .trap message
  | .done (.error error,usage) => .done (.error error,usage)
  | .done (.ok services,usage) =>
    if empty : services.elements = [] then .done (.error .providerNotFound,usage)
    else .done (.ok ⟨chain,services,empty⟩,usage)

end Choice

section Accepted
variable {M : Type} {timed : TimedSizedMap SupportedRpcService M} {source : RpcServices}
  {strategy : ConsensusStrategy} {total : Option UInt8} {min : UInt8} {now : Timestamp}
  {usage after : SupportedRpcServiceUsage M} {providers : Providers}

theorem Providers.new_eq_ok
    (accepted : Providers.new timed source strategy now usage = .done (.ok providers,after)) :
    providers.chain = (supportedProviders source).1 ∧
    chooseProviders timed (userDefinedProviders source) (supportedProviders source).2 strategy now usage =
      .done (.ok providers.services,after) := by
  unfold Providers.new at accepted
  rcases chosen : chooseProviders timed (userDefinedProviders source) (supportedProviders source).2
    strategy now usage with ⟨result,left⟩ | message
  · simp only [chosen] at accepted
    rcases result with error | services
    · simp at accepted
    · simp only at accepted
      split at accepted
      · simp at accepted
      · simp only [Outcome.done.injEq,Prod.mk.injEq,Except.ok.injEq] at accepted
        obtain ⟨rfl,rfl⟩ := accepted
        exact ⟨rfl,rfl⟩
  · simp [chosen] at accepted

theorem chooseProviders_supported_ok {supported : List SupportedRpcService} {services : OrderedSet RpcService}
    (accepted : chooseProviders timed none supported (.threshold total min) now usage = .done (.ok services,after)) :
    min ≠ 0 ∧ ∃ t, total = some t ∧ min ≤ t ∧ t ≤ UInt8.ofNat supported.length ∧ services.card = t.toNat ∧
      (rankProviders timed supported now usage).2 = after ∧
      services = .ofList (((rankProviders timed supported now usage).1.take t.toNat).map
        SupportedRpcService.toRpcService) := by
  unfold chooseProviders at accepted
  simp only at accepted
  split at accepted
  · simp at accepted
  · rename_i positive
    rcases total with _ | t
    · simp at accepted
    · simp only at accepted
      split at accepted
      · simp at accepted
      · split at accepted
        · simp at accepted
        · rename_i enough supply
          split at accepted
          · rename_i distinct
            simp only [Outcome.done.injEq,Prod.mk.injEq,Except.ok.injEq] at accepted
            obtain ⟨rfl,rfl⟩ := accepted
            exact ⟨positive,t,rfl,UInt8.not_lt.mp enough,UInt8.not_lt.mp supply,distinct,rfl,rfl⟩
          · simp at accepted

theorem chooseProviders_listed_ok {listed : List RpcService} {supported : List SupportedRpcService}
    {services : OrderedSet RpcService}
    (accepted : chooseProviders timed (some listed) supported (.threshold total min) now usage =
      .done (.ok services,after)) :
    min ≠ 0 ∧ min ≤ UInt8.ofNat listed.length ∧ (∀ t, total = some t → t = UInt8.ofNat listed.length) ∧
      usage = after ∧ services = .ofList listed := by
  unfold chooseProviders at accepted
  simp only at accepted
  split at accepted
  · simp at accepted
  · rename_i positive
    split at accepted
    · simp at accepted
    · rename_i enough
      rcases total with _ | t
      · simp only [Outcome.done.injEq,Prod.mk.injEq,Except.ok.injEq] at accepted
        obtain ⟨rfl,rfl⟩ := accepted
        exact ⟨positive,UInt8.not_lt.mp enough,by simp,rfl,rfl⟩
      · simp only at accepted
        split at accepted
        · simp at accepted
        · rename_i agree
          simp only [Outcome.done.injEq,Prod.mk.injEq,Except.ok.injEq] at accepted
          obtain ⟨rfl,rfl⟩ := accepted
          refine ⟨positive,UInt8.not_lt.mp enough,?_,rfl,rfl⟩
          intro other same
          cases same
          exact not_not.mp agree

theorem chooseProviders_threshold_ok {userInput : Option (List RpcService)}
    {supported : List SupportedRpcService} {services : OrderedSet RpcService}
    (accepted : chooseProviders timed userInput supported (.threshold total min) now usage =
      .done (.ok services,after)) :
    min ≠ 0 ∧
    ((∃ t, userInput = none ∧ total = some t ∧ min ≤ t ∧ t ≤ UInt8.ofNat supported.length ∧
        services.card = t.toNat ∧
        (rankProviders timed supported now usage).2 = after ∧
        services = .ofList (((rankProviders timed supported now usage).1.take t.toNat).map
          SupportedRpcService.toRpcService)) ∨
      (∃ listed, userInput = some listed ∧ min ≤ UInt8.ofNat listed.length ∧
        (∀ t, total = some t → t = UInt8.ofNat listed.length) ∧
        usage = after ∧ services = .ofList listed)) := by
  cases userInput with
  | none =>
    obtain ⟨positive,t,given,bounds⟩ := chooseProviders_supported_ok accepted
    exact ⟨positive,.inl ⟨t,rfl,given,bounds⟩⟩
  | some listed =>
    obtain ⟨positive,bounds⟩ := chooseProviders_listed_ok accepted
    exact ⟨positive,.inr ⟨listed,rfl,bounds⟩⟩

theorem chooseProviders_default {made : M → Prop} {supported : List SupportedRpcService}
    {services : OrderedSet RpcService}
    (lawful : timed.Lawful SupportedRpcServiceUsage.EXPIRATION SupportedRpcServiceUsage.CAPACITY made)
    (accepted : chooseProviders timed none supported strategy now usage = .done (.ok services,after)) :
    ∀ service ∈ services.elements, ∃ s ∈ supported, s.toRpcService = service := by
  have ranked (count : ℕ) (service : RpcService)
      (inside : service ∈ (OrderedSet.ofList (((rankProviders timed supported now usage).1.take count).map
        SupportedRpcService.toRpcService)).elements) : ∃ s ∈ supported, s.toRpcService = service := by
    rw [OrderedSet.mem_ofList] at inside
    obtain ⟨s,taken,rfl⟩ := List.mem_map.mp inside
    have perm := (lawful.sortKeysBy_stable (timed.evictExpired supported now usage.map) supported
      SupportedRpcServiceUsage.ascendingNumElements).perm
    exact ⟨s,perm.mem_iff.mp (List.mem_of_mem_take taken),rfl⟩
  rcases strategy with _ | ⟨total,min⟩
  · simp only [chooseProviders,Outcome.done.injEq,Prod.mk.injEq,Except.ok.injEq] at accepted
    obtain ⟨rfl,_⟩ := accepted
    exact ranked _
  · obtain ⟨_,t,_,_,_,_,_,rfl⟩ := chooseProviders_supported_ok accepted
    exact ranked t.toNat

/-- The requested consensus fits the set of services that is queried. -/
def FitsThreshold (total : Option UInt8) (min : UInt8) (services : OrderedSet RpcService) : Prop :=
  0 < min.toNat ∧ min.toNat ≤ services.card ∧ ∀ t, total = some t → services.card = t.toNat

/-- The services that a caller lists are distinct enough for the requested
consensus. Default services always are. -/
def DistinctEnough (source : RpcServices) (total : Option UInt8) (min : UInt8) : Prop :=
  match userDefinedProviders source,total with
  | none,_ => True
  | some listed,none => min.toNat ≤ listed.dedup.length
  | some listed,some _ => listed.dedup.length = listed.length % 256

instance : Decidable (DistinctEnough source total min) := by
  unfold DistinctEnough
  split <;> infer_instance

/-- Validation compares with the length of the list before it becomes a set, so
the set fits exactly when dropping repetitions keeps enough services. -/
theorem fitsThreshold_iff_distinctEnough
    (accepted : Providers.new timed source (.threshold total min) now usage = .done (.ok providers,after)) :
    FitsThreshold total min providers.services ↔ DistinctEnough source total min := by
  obtain ⟨_,chosen⟩ := Providers.new_eq_ok accepted
  obtain ⟨positive,⟨t,default,rfl,enough,_,card,_⟩ | ⟨listed,explicit,enough,agree,_,same⟩⟩ :=
    chooseProviders_threshold_ok chosen
  · have above : 0 < min.toNat := Nat.pos_of_ne_zero (fun zero => positive (UInt8.toNat_inj.mp zero))
    have within : min.toNat ≤ t.toNat := UInt8.le_iff_toNat_le.mp enough
    simp [FitsThreshold,DistinctEnough,default,card,above,within]
  · have above : 0 < min.toNat := Nat.pos_of_ne_zero (fun zero => positive (UInt8.toNat_inj.mp zero))
    have within : min.toNat ≤ listed.length % 256 := by
      simpa using UInt8.le_iff_toNat_le.mp enough
    rcases total with _ | t
    · simp [FitsThreshold,DistinctEnough,explicit,same,above]
    · have reduced : t.toNat = listed.length % 256 := by simp [agree t rfl]
      simp only [FitsThreshold,DistinctEnough,explicit,same,OrderedSet.card_ofList,Option.some.injEq,
        forall_eq',reduced]
      constructor
      · exact fun fits => fits.2.2
      · exact fun distinct => ⟨above,distinct ▸ within,distinct⟩

end Accepted

/-- Two listed services that are one service pass for two. -/
theorem repeated_service_misses_total :
    ¬ ∀ (source : RpcServices) (total : Option UInt8) (min : UInt8) (now : Timestamp)
      (usage after : SupportedRpcServiceUsage (ReferenceTimedMap SupportedRpcService)) (providers : Providers),
      Providers.new ReferenceTimedMap.reference source (.threshold total min) now usage =
        .done (.ok providers,after) → FitsThreshold total min providers.services := by
  intro always
  have fits := always (.ethMainnet (some [.alchemy,.alchemy])) (some 2) 2 0 (.new ReferenceTimedMap.reference)
    (.new ReferenceTimedMap.reference) ⟨.MAINNET,.ofList [.ethMainnet .alchemy,.ethMainnet .alchemy],by
      intro empty
      have member : RpcService.ethMainnet .alchemy ∈
          (OrderedSet.ofList [RpcService.ethMainnet .alchemy,.ethMainnet .alchemy]).elements := by simp
      rw [empty] at member
      contradiction⟩ rfl
  have distinct := fits.2.2 2 rfl
  rw [OrderedSet.card_ofList] at distinct
  revert distinct
  decide

theorem fitsThreshold_for_distinct_pair :
    FitsThreshold (some 2) 2 (.ofList [RpcService.ethMainnet .alchemy,.ethMainnet .ankr]) ↔
      DistinctEnough (.ethMainnet (some [.alchemy,.ankr])) (some 2) 2 :=
  @fitsThreshold_iff_distinctEnough _ ReferenceTimedMap.reference (.ethMainnet (some [.alchemy,.ankr]))
    (some 2) 2 0 (.new ReferenceTimedMap.reference) (.new ReferenceTimedMap.reference)
    ⟨.MAINNET,.ofList [.ethMainnet .alchemy,.ethMainnet .ankr],by decide⟩ rfl

section Listed
variable {M : Type} {timed : TimedSizedMap SupportedRpcService M} {source : RpcServices}
  {listed : List RpcService} {total : Option UInt8} {min : UInt8} {now : Timestamp}
  {usage : SupportedRpcServiceUsage M}

/-- A threshold that `length` listed services can meet. -/
def FitsLength (total : Option UInt8) (min : UInt8) (length : ℕ) : Prop :=
  min ≠ 0 ∧ min.toNat ≤ length ∧ ∀ t, total = some t → t.toNat = length

theorem chooseProviders_listed_of_fits {supported : List SupportedRpcService}
    (fits : FitsLength total min (listed.length % 256)) :
    chooseProviders timed (some listed) supported (.threshold total min) now usage =
      .done (.ok (.ofList listed),usage) := by
  obtain ⟨positive,enough,agree⟩ := fits
  have within : ¬ min > UInt8.ofNat listed.length := by
    rw [gt_iff_lt,UInt8.lt_iff_toNat_lt,UInt8.toNat_ofNat']
    exact Nat.not_lt.mpr enough
  rcases total with _ | t
  · simp [chooseProviders,positive,within]
  · have same : t = UInt8.ofNat listed.length := by
      rw [← UInt8.toNat_inj,UInt8.toNat_ofNat']
      exact agree t rfl
    simp only [chooseProviders,if_neg positive,if_neg within,same,ne_eq,not_true_eq_false,if_false]

theorem chooseProviders_listed_of_not_fits {supported : List SupportedRpcService}
    (misfit : ¬ FitsLength total min (listed.length % 256)) :
    ∃ message, chooseProviders timed (some listed) supported (.threshold total min) now usage =
      .done (.error (.invalidRpcConfig message),usage) := by
  by_cases zero : min = 0
  · rw [chooseProviders,if_pos zero]
    exact ⟨_,rfl⟩
  by_cases above : min > UInt8.ofNat listed.length
  · simp only [chooseProviders,if_neg zero,if_pos above]
    exact ⟨_,rfl⟩
  have enough : min.toNat ≤ listed.length % 256 := by
    rw [gt_iff_lt,UInt8.lt_iff_toNat_lt,UInt8.toNat_ofNat'] at above
    exact Nat.not_lt.mp above
  rcases total with _ | t
  · exact absurd ⟨zero,enough,fun t impossible => by cases impossible⟩ misfit
  · have differ : t ≠ UInt8.ofNat listed.length := by
      intro same
      refine misfit ⟨zero,enough,fun other given => ?_⟩
      cases given
      rw [same,UInt8.toNat_ofNat']
    simp only [chooseProviders,if_neg zero,if_neg above,if_pos differ]
    exact ⟨_,rfl⟩

theorem Providers.new_listed_of_fits (explicit : userDefinedProviders source = some listed)
    (some_listed : listed ≠ []) (fits : FitsLength total min (listed.length % 256)) :
    ∃ providers, Providers.new timed source (.threshold total min) now usage = .done (.ok providers,usage) ∧
      providers.services = .ofList listed := by
  have nonempty : (OrderedSet.ofList listed).elements ≠ [] := by
    obtain ⟨service,inside⟩ := List.exists_mem_of_ne_nil listed some_listed
    exact List.ne_nil_of_mem (OrderedSet.mem_ofList.mpr inside)
  refine ⟨⟨(supportedProviders source).1,.ofList listed,nonempty⟩,?_,rfl⟩
  simp only [Providers.new,explicit,chooseProviders_listed_of_fits fits,dif_neg nonempty]

theorem Providers.new_listed_of_not_fits (explicit : userDefinedProviders source = some listed)
    (misfit : ¬ FitsLength total min (listed.length % 256)) :
    ∃ message, Providers.new timed source (.threshold total min) now usage =
      .done (.error (.invalidRpcConfig message),usage) := by
  obtain ⟨message,refused⟩ := @chooseProviders_listed_of_not_fits _ timed listed total min now usage
    (supportedProviders source).2 misfit
  exact ⟨message,by simp only [Providers.new,explicit,refused]⟩

/-- A call with these listed services gets all of them when the threshold fits
their number, and is refused for its configuration when it does not. -/
def ListedByLength (timed : TimedSizedMap SupportedRpcService M) (source : RpcServices)
    (listed : List RpcService) (total : Option UInt8) (min : UInt8) (now : Timestamp)
    (usage : SupportedRpcServiceUsage M) : Prop :=
  (FitsLength total min listed.length →
    ∃ providers, Providers.new timed source (.threshold total min) now usage = .done (.ok providers,usage) ∧
      (∀ service, service ∈ providers.services.elements ↔ service ∈ listed) ∧
      providers.services.card = listed.length) ∧
  (¬ FitsLength total min listed.length →
    ∃ message, Providers.new timed source (.threshold total min) now usage =
      .done (.error (.invalidRpcConfig message),usage))

/-- Reducing the length to eight bits leaves every comparison as it was. -/
def SurvivesEightBits (total : Option UInt8) (min : UInt8) (length : ℕ) : Prop :=
  length < 256 ∨ min = 0 ∨
    match total with
    | none => min.toNat ≤ length % 256
    | some t => ¬ (min.toNat ≤ length % 256 ∧ t.toNat = length % 256)

private theorem fits_reduced_iff (long : ¬ listed.length < 256) (positive : min ≠ 0) :
    (FitsLength total min listed.length ↔ FitsLength total min (listed.length % 256)) ↔
      SurvivesEightBits total min listed.length := by
  have small := min.toNat_lt
  rcases total with _ | t
  · have within : min.toNat ≤ listed.length := by omega
    simp [FitsLength,SurvivesEightBits,positive,long,within]
  · have narrow := t.toNat_lt
    have differ : t.toNat ≠ listed.length := by omega
    simp [FitsLength,SurvivesEightBits,positive,long,differ]

theorem survivesEightBits_iff :
    SurvivesEightBits total min listed.length ↔
      (FitsLength total min listed.length ↔ FitsLength total min (listed.length % 256)) := by
  by_cases short : listed.length < 256
  · simp [SurvivesEightBits,short,Nat.mod_eq_of_lt short]
  by_cases zero : min = 0
  · simp [SurvivesEightBits,FitsLength,zero]
  · exact (fits_reduced_iff short zero).symm

/-- The length of an explicit list decides as it should exactly when reducing it
to eight bits does not matter. -/
theorem listedByLength_iff (explicit : userDefinedProviders source = some listed)
    (some_listed : listed ≠ []) (distinct : listed.Nodup) :
    ListedByLength timed source listed total min now usage ↔ SurvivesEightBits total min listed.length := by
  rw [survivesEightBits_iff]
  constructor
  · rintro ⟨accepts,refuses⟩
    constructor
    · intro fits
      by_contra misfit
      obtain ⟨providers,accepted,_⟩ := accepts fits
      obtain ⟨message,refused⟩ := Providers.new_listed_of_not_fits explicit misfit
      rw [accepted] at refused
      cases refused
    · intro reduced
      by_contra misfit
      obtain ⟨message,refused⟩ := refuses misfit
      obtain ⟨providers,accepted,_⟩ := Providers.new_listed_of_fits explicit some_listed reduced
      rw [accepted] at refused
      cases refused
  · intro same
    constructor
    · intro fits
      obtain ⟨providers,accepted,all⟩ := Providers.new_listed_of_fits explicit some_listed (same.mp fits)
      refine ⟨providers,accepted,fun service => ?_,?_⟩
      · rw [all,OrderedSet.mem_ofList]
      · rw [all,OrderedSet.card_eq_length.mpr distinct]
    · exact fun misfit => Providers.new_listed_of_not_fits explicit (fun reduced => misfit (same.mpr reduced))

end Listed

private def manyApis (count : ℕ) : List RpcApi :=
  (List.range count).map (fun i => ⟨"https://rpc.test/" ++ String.ofList (List.replicate i 'a'),none⟩)

private theorem manyApis_distinct (count : ℕ) : ((manyApis count).map RpcService.custom).Nodup := by
  rw [manyApis,List.map_map]
  refine List.nodup_range.map (fun i j same => ?_)
  have paths := congrArg (fun text : String => text.toList.length)
    (RpcApi.mk.inj (RpcService.custom.inj same)).1
  simpa using paths

theorem many_listed_services_refused :
    ¬ ∀ (source : RpcServices) (listed : List RpcService) (total : Option UInt8) (min : UInt8) (now : Timestamp)
      (usage : SupportedRpcServiceUsage (ReferenceTimedMap SupportedRpcService)),
      userDefinedProviders source = some listed → listed ≠ [] → listed.Nodup →
        ListedByLength ReferenceTimedMap.reference source listed total min now usage := by
  intro always
  have length : ((manyApis 256).map RpcService.custom).length = 256 := by simp [manyApis]
  have nonempty : (manyApis 256).map RpcService.custom ≠ [] := List.ne_nil_of_length_pos (by rw [length]; decide)
  have accepts := (always (.custom 1 (manyApis 256)) _ none 1 0 (.new ReferenceTimedMap.reference) rfl nonempty
    (manyApis_distinct 256)).1
  obtain ⟨providers,accepted,_⟩ := accepts (by rw [length]; exact ⟨by decide,by decide,fun t given => by cases given⟩)
  have misfit : ¬ FitsLength none 1 (((manyApis 256).map RpcService.custom).length % 256) := by
    rw [length]
    exact fun fits => absurd fits.2.1 (by decide)
  obtain ⟨message,refused⟩ := @Providers.new_listed_of_not_fits _ ReferenceTimedMap.reference
    (.custom 1 (manyApis 256)) _ none 1 0 (.new ReferenceTimedMap.reference) rfl misfit
  rw [accepted] at refused
  cases refused

theorem listedByLength_for_pair :
    ListedByLength ReferenceTimedMap.reference (.ethMainnet (some [.alchemy,.ankr]))
        [.ethMainnet .alchemy,.ethMainnet .ankr] (some 2) 1 0 (.new ReferenceTimedMap.reference) ↔
      SurvivesEightBits (some 2) 1 2 :=
  listedByLength_iff rfl (by simp) (by decide)

end EvmRpc
