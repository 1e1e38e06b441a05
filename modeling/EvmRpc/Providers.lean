import EvmRpc.External.TimedSizedMap
import EvmRpc.Types.Provider

/-! The table of providers, the services supported on each chain in order of
preference, and the record of when they last answered. -/
namespace EvmRpc
open Library

def ETH_MAINNET_CHAIN_ID : UInt64 := 1
def ETH_SEPOLIA_CHAIN_ID : UInt64 := 11155111
def ARBITRUM_ONE_CHAIN_ID : UInt64 := 42161
def BASE_MAINNET_CHAIN_ID : UInt64 := 8453
def OPTIMISM_MAINNET_CHAIN_ID : UInt64 := 10

def PROVIDERS : List Provider := [
  ⟨0,ETH_MAINNET_CHAIN_ID,.authenticated (.bearerToken "https://cloudflare-eth.com/v1/mainnet") (some "https://cloudflare-eth.com/v1/mainnet"),
    some (.ethMainnet .cloudflare)⟩,
  ⟨1,ETH_MAINNET_CHAIN_ID,.authenticated (.urlParameter "https://rpc.ankr.com/eth/\x7bAPI_KEY\x7d") (some "https://rpc.ankr.com/eth"),
    some (.ethMainnet .ankr)⟩,
  ⟨2,ETH_MAINNET_CHAIN_ID,.unauthenticated "https://ethereum-rpc.publicnode.com",
    some (.ethMainnet .publicNode)⟩,
  ⟨3,ETH_MAINNET_CHAIN_ID,.authenticated (.urlParameter "https://ethereum.blockpi.network/v1/rpc/\x7bAPI_KEY\x7d") (some "https://ethereum.public.blockpi.network/v1/rpc/public"),
    some (.ethMainnet .blockPi)⟩,
  ⟨4,ETH_SEPOLIA_CHAIN_ID,.unauthenticated "https://rpc.sepolia.org",
    some (.ethSepolia .sepolia)⟩,
  ⟨5,ETH_SEPOLIA_CHAIN_ID,.authenticated (.urlParameter "https://rpc.ankr.com/eth_sepolia/\x7bAPI_KEY\x7d") (some "https://rpc.ankr.com/eth_sepolia"),
    some (.ethSepolia .ankr)⟩,
  ⟨6,ETH_SEPOLIA_CHAIN_ID,.authenticated (.urlParameter "https://ethereum-sepolia.blockpi.network/v1/rpc/\x7bAPI_KEY\x7d") none,
    some (.ethSepolia .blockPi)⟩,
  ⟨7,ETH_SEPOLIA_CHAIN_ID,.unauthenticated "https://ethereum-sepolia-rpc.publicnode.com",
    some (.ethSepolia .publicNode)⟩,
  ⟨8,ETH_MAINNET_CHAIN_ID,.authenticated (.bearerToken "https://eth-mainnet.g.alchemy.com/v2") (some "https://eth-mainnet.g.alchemy.com/v2/demo"),
    some (.ethMainnet .alchemy)⟩,
  ⟨9,ETH_SEPOLIA_CHAIN_ID,.authenticated (.bearerToken "https://eth-sepolia.g.alchemy.com/v2") (some "https://eth-sepolia.g.alchemy.com/v2/demo"),
    some (.ethSepolia .alchemy)⟩,
  ⟨10,ARBITRUM_ONE_CHAIN_ID,.authenticated (.urlParameter "https://rpc.ankr.com/arbitrum/\x7bAPI_KEY\x7d") (some "https://rpc.ankr.com/arbitrum"),
    some (.arbitrumOne .ankr)⟩,
  ⟨11,ARBITRUM_ONE_CHAIN_ID,.authenticated (.bearerToken "https://arb-mainnet.g.alchemy.com/v2") (some "https://arb-mainnet.g.alchemy.com/v2/demo"),
    some (.arbitrumOne .alchemy)⟩,
  ⟨12,ARBITRUM_ONE_CHAIN_ID,.authenticated (.urlParameter "https://arbitrum.blockpi.network/v1/rpc/\x7bAPI_KEY\x7d") (some "https://arbitrum.public.blockpi.network/v1/rpc/public"),
    some (.arbitrumOne .blockPi)⟩,
  ⟨13,ARBITRUM_ONE_CHAIN_ID,.unauthenticated "https://arbitrum-one-rpc.publicnode.com",
    some (.arbitrumOne .publicNode)⟩,
  ⟨14,BASE_MAINNET_CHAIN_ID,.authenticated (.urlParameter "https://rpc.ankr.com/base/\x7bAPI_KEY\x7d") (some "https://rpc.ankr.com/base"),
    some (.baseMainnet .ankr)⟩,
  ⟨15,BASE_MAINNET_CHAIN_ID,.authenticated (.bearerToken "https://base-mainnet.g.alchemy.com/v2") (some "https://base-mainnet.g.alchemy.com/v2/demo"),
    some (.baseMainnet .alchemy)⟩,
  ⟨16,BASE_MAINNET_CHAIN_ID,.authenticated (.urlParameter "https://base.blockpi.network/v1/rpc/\x7bAPI_KEY\x7d") (some "https://base.public.blockpi.network/v1/rpc/public"),
    some (.baseMainnet .blockPi)⟩,
  ⟨17,BASE_MAINNET_CHAIN_ID,.unauthenticated "https://base-rpc.publicnode.com",
    some (.baseMainnet .publicNode)⟩,
  ⟨18,OPTIMISM_MAINNET_CHAIN_ID,.authenticated (.urlParameter "https://rpc.ankr.com/optimism/\x7bAPI_KEY\x7d") (some "https://rpc.ankr.com/optimism"),
    some (.optimismMainnet .ankr)⟩,
  ⟨19,OPTIMISM_MAINNET_CHAIN_ID,.authenticated (.bearerToken "https://opt-mainnet.g.alchemy.com/v2") (some "https://opt-mainnet.g.alchemy.com/v2/demo"),
    some (.optimismMainnet .alchemy)⟩,
  ⟨20,OPTIMISM_MAINNET_CHAIN_ID,.authenticated (.urlParameter "https://optimism.blockpi.network/v1/rpc/\x7bAPI_KEY\x7d") (some "https://optimism.public.blockpi.network/v1/rpc/public"),
    some (.optimismMainnet .blockPi)⟩,
  ⟨21,OPTIMISM_MAINNET_CHAIN_ID,.unauthenticated "https://optimism-rpc.publicnode.com",
    some (.optimismMainnet .publicNode)⟩,
  ⟨22,ETH_MAINNET_CHAIN_ID,.unauthenticated "https://eth.llamarpc.com",
    some (.ethMainnet .llama)⟩,
  ⟨23,ARBITRUM_ONE_CHAIN_ID,.unauthenticated "https://arbitrum.llamarpc.com",
    some (.arbitrumOne .llama)⟩,
  ⟨24,BASE_MAINNET_CHAIN_ID,.unauthenticated "https://base.llamarpc.com",
    some (.baseMainnet .llama)⟩,
  ⟨25,OPTIMISM_MAINNET_CHAIN_ID,.unauthenticated "https://optimism.llamarpc.com",
    some (.optimismMainnet .llama)⟩]

/-- `PROVIDER_MAP`, where the last of several entries for an id would win. -/
def providerMap (id : ProviderId) : Option Provider :=
  PROVIDERS.reverse.find? (fun provider => provider.providerId = id)

/-- `SERVICE_PROVIDER_MAP`, built from the aliases in the same way. -/
def serviceProviderMap (service : SupportedRpcService) : Option ProviderId :=
  (PROVIDERS.reverse.find? (fun provider => provider.serviceAlias = some service)).map Provider.providerId

def findProvider (f : Provider → Bool) : Option Provider := PROVIDERS.find? f

def getKnownChainId : RpcService → Option UInt64
  | .provider _ => none
  | .custom _ => none
  | .ethMainnet _ => some ETH_MAINNET_CHAIN_ID
  | .ethSepolia _ => some ETH_SEPOLIA_CHAIN_ID
  | .arbitrumOne _ => some ARBITRUM_ONE_CHAIN_ID
  | .baseMainnet _ => some BASE_MAINNET_CHAIN_ID
  | .optimismMainnet _ => some OPTIMISM_MAINNET_CHAIN_ID

def lookupProviderForService (service : SupportedRpcService) : Except ProviderError Provider :=
  match serviceProviderMap service with
  | none => .error .missingRequiredProvider
  | some id =>
    match providerMap id with
    | none => .error .providerNotFound
    | some provider => .ok provider

def resolveRpcService : RpcService → Except ProviderError ResolvedRpcService
  | .provider id =>
    match providerMap id with
    | none => .error .providerNotFound
    | some provider => .ok (.provider provider)
  | .custom api => .ok (.api api)
  | .ethMainnet service => (lookupProviderForService (.ethMainnet service)).map .provider
  | .ethSepolia service => (lookupProviderForService (.ethSepolia service)).map .provider
  | .arbitrumOne service => (lookupProviderForService (.arbitrumOne service)).map .provider
  | .baseMainnet service => (lookupProviderForService (.baseMainnet service)).map .provider
  | .optimismMainnet service => (lookupProviderForService (.optimismMainnet service)).map .provider

theorem mem_of_providerMap {id : ProviderId} {provider : Provider} (found : providerMap id = some provider) :
    provider ∈ PROVIDERS := List.mem_reverse.mp (List.mem_of_find?_eq_some found)

theorem mem_of_resolve {service : RpcService} {provider : Provider}
    (resolves : resolveRpcService service = .ok (.provider provider)) : provider ∈ PROVIDERS := by
  have named {alias' : SupportedRpcService}
      (found : (lookupProviderForService alias').map ResolvedRpcService.provider = .ok (.provider provider)) :
      provider ∈ PROVIDERS := by
    unfold lookupProviderForService at found
    split at found
    · cases found
    · split at found
      · cases found
      · rename_i mapped
        cases found
        exact mem_of_providerMap mapped
  cases service with
  | provider id =>
    simp only [resolveRpcService] at resolves
    split at resolves
    · cases resolves
    · rename_i mapped
      cases resolves
      exact mem_of_providerMap mapped
  | custom api => cases resolves
  | ethMainnet service => exact named resolves
  | ethSepolia service => exact named resolves
  | arbitrumOne service => exact named resolves
  | baseMainnet service => exact named resolves
  | optimismMainnet service => exact named resolves

namespace SupportedRpcService

/-- `SupportedRpcService::new`. -/
def ofRpcService : RpcService → Option SupportedRpcService
  | .provider id => (findProvider (fun provider => provider.providerId = id)).bind Provider.serviceAlias
  | .custom _ => none
  | .ethMainnet service => some (.ethMainnet service)
  | .ethSepolia service => some (.ethSepolia service)
  | .arbitrumOne service => some (.arbitrumOne service)
  | .baseMainnet service => some (.baseMainnet service)
  | .optimismMainnet service => some (.optimismMainnet service)

@[simp] theorem ofRpcService_toRpcService (service : SupportedRpcService) :
    ofRpcService service.toRpcService = some service := by cases service <;> rfl

-- The order matters: ties in the ranking are broken by it.
def eth_mainnet : List SupportedRpcService :=
  [.ethMainnet .blockPi,.ethMainnet .ankr,.ethMainnet .publicNode,.ethMainnet .llama,
    .ethMainnet .alchemy,.ethMainnet .cloudflare]

def eth_sepolia : List SupportedRpcService :=
  [.ethSepolia .publicNode,.ethSepolia .ankr,.ethSepolia .blockPi,.ethSepolia .alchemy,
    .ethSepolia .sepolia]

def arbitrum_one : List SupportedRpcService :=
  [.arbitrumOne .llama,.arbitrumOne .blockPi,.arbitrumOne .publicNode,.arbitrumOne .alchemy,
    .arbitrumOne .ankr]

def base_mainnet : List SupportedRpcService :=
  [.baseMainnet .llama,.baseMainnet .blockPi,.baseMainnet .publicNode,.baseMainnet .alchemy,
    .baseMainnet .ankr]

def optimism_mainnet : List SupportedRpcService :=
  [.optimismMainnet .llama,.optimismMainnet .blockPi,.optimismMainnet .publicNode,
    .optimismMainnet .alchemy,.optimismMainnet .ankr]

theorem lookup_total (service : SupportedRpcService) :
    ∃ provider, lookupProviderForService service = .ok provider ∧ provider ∈ PROVIDERS ∧
      provider.serviceAlias = some service := by
  obtain ⟨provider,found⟩ : ∃ provider, lookupProviderForService service = .ok provider := by
    rcases service with s | s | s | s | s <;> cases s <;> exact ⟨_,rfl⟩
  refine ⟨provider,found,?_⟩
  rcases service with s | s | s | s | s <;> cases s <;>
    (cases found; decide)

end SupportedRpcService

structure SupportedRpcServiceUsage (M : Type) where
  map : M

namespace SupportedRpcServiceUsage
variable {M : Type} (timed : TimedSizedMap SupportedRpcService M)

-- twenty minutes in nanoseconds
def EXPIRATION : ℕ := 20*60*1000000000
def CAPACITY : ℕ := 500

def new : SupportedRpcServiceUsage M := ⟨timed.new EXPIRATION CAPACITY⟩

def recordEvict (usage : SupportedRpcServiceUsage M) (service : SupportedRpcService) (now : Timestamp) :
    SupportedRpcServiceUsage M := ⟨timed.insertEvict now service usage.map⟩

def ascendingNumElements (values : Option (List Timestamp)) : ℕᵒᵈ :=
  OrderDual.toDual ((values.map List.length).getD 0)

def rankAscendingEvict (usage : SupportedRpcServiceUsage M) (services : List SupportedRpcService)
    (now : Timestamp) : List SupportedRpcService × SupportedRpcServiceUsage M :=
  let map := timed.evictExpired services now usage.map
  (timed.sortKeysBy map services ascendingNumElements,⟨map⟩)

end SupportedRpcServiceUsage
end EvmRpc
