import EvmRpc.Library.Runs
import EvmRpc.Memory
import EvmRpc.RpcClient.Ranking

/-! Messages that configure the canister: installation, upgrade and changes of the
API keys, and what the resulting key store means for the default providers. -/
namespace EvmRpc
open Library

structure InstallArgs where
  demo : Option Bool
  manageApiKeys : Option (List Principal)
  logFilter : Option LogFilter
  overrideProvider : Option OverrideProvider
  nodesInSubnet : Option UInt32
  deriving DecidableEq, Repr

section Messages
variable {M : Type} (timed : TimedSizedMap SupportedRpcService M) (regex : Regex)

def postUpgrade (args : InstallArgs) (memory : Memory M) : Outcome (Memory M) := do
  let memory := match args.demo with
    | some demo => {memory with isDemoActive := demo}
    | none => memory
  let memory := match args.manageApiKeys with
    | some principals => memory.setApiKeyPrincipals principals
    | none => memory
  let memory := match args.logFilter with
    | some filter => {memory with logFilter := filter}
    | none => memory
  let memory ← match args.overrideProvider with
    | some override => do
      let valid ← Outcome.expect "ERROR: invalid override provider" (override.tryFrom regex)
      .done {memory with overrideProvider := valid}
    | none => .done memory
  match args.nodesInSubnet with
  | some nodes => .done {memory with numSubnetNodes := nodes}
  | none => .done memory

def updateApiKey (memory : Memory M) (entry : ProviderId × Option String) : Outcome (Memory M) := do
  let (providerId,apiKey) := entry
  let provider ← Outcome.ofOption ("Provider not found: " ++ toString providerId)
    (findProvider (fun provider => provider.providerId = providerId))
  match provider.access with
  | .authenticated _ _ =>
    match apiKey with
    | some key => do
      let valid ← Outcome.expect "Invalid API key" (ApiKey.tryFrom key)
      .done (memory.insertApiKey providerId valid)
    | none => .done (memory.removeApiKey providerId)
  | .unauthenticated _ =>
    .trap ("Trying to set API key for unauthenticated provider: " ++ toString providerId)

/-- The update, behind its guard: the caller is a controller or may manage keys. -/
def updateApiKeys (caller : Principal) (isController : Bool) (apiKeys : List (ProviderId × Option String))
    (memory : Memory M) : Outcome (Memory M) :=
  if memory.isApiKeyPrincipal caller || isController then apiKeys.foldlM updateApiKey memory
  else .trap "You are not authorized"

inductive ManagementMessage where
  | install (args : InstallArgs)
  | upgrade (args : InstallArgs)
  | updateApiKeys (caller : Principal) (isController : Bool) (apiKeys : List (ProviderId × Option String))

def manage (memory : Memory M) : ManagementMessage → Outcome (Memory M)
  | .install args => postUpgrade regex args (.fresh timed)
  | .upgrade args => postUpgrade regex args (memory.upgraded timed)
  | .updateApiKeys caller isController apiKeys => updateApiKeys caller isController apiKeys memory

def managed (messages : List ManagementMessage) : Memory M :=
  Runs.run (manage timed regex) (.fresh timed) messages

end Messages

section DefaultProviders
variable {M : Type}

/-- Whatever default services are chosen, each of them has an api. -/
def DefaultsHaveApi (timed : TimedSizedMap SupportedRpcService M) (getApiKey : ProviderId → Option ApiKey)
    (source : RpcServices) (usage : SupportedRpcServiceUsage M) : Prop :=
  ∀ (strategy : ConsensusStrategy) (now : Timestamp) (providers : Providers) (after : SupportedRpcServiceUsage M),
    Providers.new timed source strategy now usage = .done (.ok providers,after) →
      ∀ service ∈ providers.services.elements, ∃ resolved api,
        resolveRpcService service = .ok resolved ∧ resolved.initialApi getApiKey = .done api

private theorem without_public_url : ∀ provider ∈ PROVIDERS,
    provider.hasPublicUrl = false ↔ provider.serviceAlias = some (.ethSepolia .blockPi) := by decide

private theorem id_of_blockPi : ∀ provider ∈ PROVIDERS,
    provider.serviceAlias = some (.ethSepolia .blockPi) → provider.providerId = 6 := by decide

private theorem resolve_supported (service : SupportedRpcService) :
    resolveRpcService service.toRpcService = (lookupProviderForService service).map .provider := by
  cases service <;> rfl

/-- Of the supported services, only BlockPi on Sepolia needs a key. -/
theorem supported_has_api (getApiKey : ProviderId → Option ApiKey) (service : SupportedRpcService) :
    (∃ resolved api, resolveRpcService service.toRpcService = .ok resolved ∧
      resolved.initialApi getApiKey = .done api) ↔
    service ≠ .ethSepolia .blockPi ∨ (getApiKey 6).isSome = true := by
  obtain ⟨provider,found,listed,named⟩ := SupportedRpcService.lookup_total service
  have resolves : resolveRpcService service.toRpcService = .ok (.provider provider) := by
    rw [resolve_supported,found]
    rfl
  have unavailable := Provider.api_isTrap getApiKey provider
  have hidden := without_public_url provider listed
  have available : (∃ resolved api, resolveRpcService service.toRpcService = .ok resolved ∧
      resolved.initialApi getApiKey = .done api) ↔ (provider.api getApiKey).isTrap = false := by
    rw [Outcome.isTrap_eq_false,resolves]
    simp [ResolvedRpcService.initialApi]
  rw [available,unavailable]
  by_cases blockPi : service = .ethSepolia .blockPi
  · subst service
    have id := id_of_blockPi provider listed named
    have secret := hidden.mpr named
    simp [secret,id]
  · have shown : provider.hasPublicUrl = true := by
      rw [← Bool.not_eq_false]
      intro secret
      have alias' := hidden.mp secret
      rw [named] at alias'
      exact blockPi (Option.some.inj alias')
    simp [shown,blockPi]

private theorem sepolia_selects_blockPi {timed : TimedSizedMap SupportedRpcService M} {made : M → Prop}
    (lawful : timed.Lawful SupportedRpcServiceUsage.EXPIRATION SupportedRpcServiceUsage.CAPACITY made)
    (usage : SupportedRpcServiceUsage M) :
    ∃ providers after, Providers.new timed (.ethSepolia none) (.threshold (some 5) 1) 0 usage =
      .done (.ok providers,after) ∧ .ethSepolia .blockPi ∈ providers.services.elements := by
  have perm := rankProviders_perm lawful SupportedRpcService.eth_sepolia 0 usage
  obtain ⟨_,_,accepted⟩ := @Providers.new_default _ _ _ (.ethSepolia none) (.threshold (some 5) 1) 5 lawful rfl
    ⟨5,rfl,by decide,by decide,by decide,rfl⟩ 0 usage
  refine ⟨_,_,accepted,?_⟩
  have all : (rankProviders timed SupportedRpcService.eth_sepolia 0 usage).1.take 5 = _ :=
    List.take_of_length_le (by rw [perm.length_eq]; decide)
  change _ ∈ (bestRanked (rankProviders timed SupportedRpcService.eth_sepolia 0 usage).1 5).elements
  rw [bestRanked,OrderedSet.mem_ofList,all]
  exact List.mem_map.mpr ⟨.ethSepolia .blockPi,perm.mem_iff.mpr (by decide),rfl⟩

/-- After any configuration, default providers have an api unless Sepolia is
queried while the key of its BlockPi provider is missing. -/
theorem defaultsHaveApi_iff {timed : TimedSizedMap SupportedRpcService M} {made : M → Prop}
    (lawful : timed.Lawful SupportedRpcServiceUsage.EXPIRATION SupportedRpcServiceUsage.CAPACITY made)
    (regex : Regex) (messages : List ManagementMessage) (source : RpcServices)
    (default : userDefinedProviders source = none) (usage : SupportedRpcServiceUsage M) :
    DefaultsHaveApi timed (managed timed regex messages).getApiKey source usage ↔
      source ≠ .ethSepolia none ∨ ((managed timed regex messages).getApiKey 6).isSome = true := by
  generalize (managed timed regex messages).getApiKey = getApiKey
  constructor
  · intro works
    by_cases sepolia : source = .ethSepolia none
    · subst source
      obtain ⟨providers,after,accepted,member⟩ := sepolia_selects_blockPi lawful usage
      have api := works _ _ _ _ accepted _ member
      exact .inr (((supported_has_api getApiKey (.ethSepolia .blockPi)).mp api).resolve_left (by simp))
    · exact .inl sepolia
  · intro condition strategy now providers after accepted service member
    obtain ⟨_,chosen⟩ := Providers.new_eq_ok accepted
    rw [default] at chosen
    obtain ⟨supported,listed,rfl⟩ := chooseProviders_default lawful chosen service member
    refine (supported_has_api getApiKey supported).mpr (condition.imp ?_ id)
    rintro other rfl
    apply other
    cases source <;> simp_all [supportedProviders,userDefinedProviders,SupportedRpcService.eth_mainnet,
      SupportedRpcService.arbitrum_one,SupportedRpcService.base_mainnet,SupportedRpcService.optimism_mainnet]

/-- A canister that was only installed cannot serve default calls to Sepolia. -/
theorem fresh_sepolia_lacks_api :
    ¬ ∀ (messages : List ManagementMessage) (source : RpcServices)
      (usage : SupportedRpcServiceUsage (ReferenceTimedMap SupportedRpcService)),
      userDefinedProviders source = none →
        DefaultsHaveApi ReferenceTimedMap.reference
          (managed ReferenceTimedMap.reference ⟨fun _ => .error ""⟩ messages).getApiKey source usage := by
  intro always
  have works := always [.install ⟨none,none,none,none,none⟩] (.ethSepolia none) (.new ReferenceTimedMap.reference)
    rfl .equality 0
    ⟨.SEPOLIA,.ofList [.ethSepolia .publicNode,.ethSepolia .ankr,.ethSepolia .blockPi],by decide⟩
    (.new ReferenceTimedMap.reference) rfl (.ethSepolia .blockPi) (by simp)
  obtain ⟨resolved,api,resolves,found⟩ := works
  cases resolves
  cases found

theorem defaultsHaveApi_on_mainnet :
    DefaultsHaveApi ReferenceTimedMap.reference
      (managed ReferenceTimedMap.reference ⟨fun _ => .error ""⟩ [.install ⟨none,none,none,none,none⟩]).getApiKey
      (.ethMainnet none) (.new ReferenceTimedMap.reference) ↔
      RpcServices.ethMainnet none ≠ .ethSepolia none ∨
        ((managed ReferenceTimedMap.reference ⟨fun _ => .error ""⟩
          [.install ⟨none,none,none,none,none⟩]).getApiKey 6).isSome = true :=
  defaultsHaveApi_iff (ReferenceTimedMap.reference_lawful _ _) ⟨fun _ => .error ""⟩
    [.install ⟨none,none,none,none,none⟩] (.ethMainnet none) rfl (.new ReferenceTimedMap.reference)

end DefaultProviders
end EvmRpc
