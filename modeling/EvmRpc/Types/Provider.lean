import EvmRpc.Library.Outcome
import EvmRpc.Library.Text
import EvmRpc.Types.Result

/-! Internal representation of providers, their keys and their access data. -/
namespace EvmRpc
open Library

def API_KEY_REPLACE_STRING : String := "\x7bAPI_KEY\x7d"
def VALID_API_KEY_CHARS : String :=
  "0123456789ABCDEFGHIJKLMNOPQRTSUVWXYZabcdefghijklmnopqrstuvwxyz$-_.+!*"

def validateApiKey (apiKey : String) : Except String Unit :=
  if apiKey.isEmpty then .error "API key must not be an empty string"
  else if apiKey.utf8ByteSize > 200 then .error "API key must be <= 200 characters"
  else if apiKey.toList.any (fun char => !VALID_API_KEY_CHARS.toList.contains char)
    then .error "Invalid character in API key"
  else .ok ()

structure ApiKey where
  read : String
  deriving DecidableEq, Repr

def ApiKey.tryFrom (key : String) : Except String ApiKey :=
  match validateApiKey key with
  | .error message => .error message
  | .ok () => .ok ⟨key⟩

inductive SupportedRpcService where
  | ethMainnet (service : EthMainnetService)
  | ethSepolia (service : EthSepoliaService)
  | arbitrumOne (service : L2MainnetService)
  | baseMainnet (service : L2MainnetService)
  | optimismMainnet (service : L2MainnetService)
  deriving DecidableEq, Repr

def SupportedRpcService.toRpcService : SupportedRpcService → RpcService
  | .ethMainnet service => .ethMainnet service
  | .ethSepolia service => .ethSepolia service
  | .arbitrumOne service => .arbitrumOne service
  | .baseMainnet service => .baseMainnet service
  | .optimismMainnet service => .optimismMainnet service

theorem SupportedRpcService.toRpcService_injective : Function.Injective SupportedRpcService.toRpcService := by
  intro a b same
  cases a <;> cases b <;> simp_all [SupportedRpcService.toRpcService]

inductive RpcAuth where
  | bearerToken (url : String)
  | urlParameter (urlPattern : String)
  deriving DecidableEq, Repr

inductive RpcAccess where
  | authenticated (auth : RpcAuth) (publicUrl : Option String)
  | unauthenticated (publicUrl : String)
  deriving DecidableEq, Repr

structure Provider where
  providerId : ProviderId
  chainId : UInt64
  access : RpcAccess
  serviceAlias : Option SupportedRpcService
  deriving DecidableEq, Repr

inductive ResolvedRpcService where
  | api (api : RpcApi)
  | provider (provider : Provider)
  deriving DecidableEq, Repr

/-- `Provider::api` with the key that the store holds for the provider. -/
def Provider.api (getApiKey : ProviderId → Option ApiKey) (provider : Provider) : Outcome RpcApi :=
  match provider.access with
  | .authenticated auth publicUrl =>
    match getApiKey provider.providerId with
    | some apiKey =>
      match auth with
      | .bearerToken url => .done ⟨url,some [⟨"Authorization","Bearer " ++ apiKey.read⟩]⟩
      | .urlParameter urlPattern =>
        .done ⟨Text.replace API_KEY_REPLACE_STRING apiKey.read urlPattern,none⟩
    | none =>
      match publicUrl with
      | some url => .done ⟨url,none⟩
      | none => .trap ("API key not yet initialized for provider: " ++ toString provider.providerId)
  | .unauthenticated publicUrl => .done ⟨publicUrl,none⟩

def Provider.hasPublicUrl (provider : Provider) : Bool :=
  match provider.access with
  | .authenticated _ publicUrl => publicUrl.isSome
  | .unauthenticated _ => true

/-- A provider has no api to offer only while it needs a key that is not stored. -/
theorem Provider.api_isTrap (getApiKey : ProviderId → Option ApiKey) (provider : Provider) :
    (provider.api getApiKey).isTrap = (!provider.hasPublicUrl && (getApiKey provider.providerId).isNone) := by
  obtain ⟨id,chain,access,named⟩ := provider
  rcases access with ⟨auth,publicUrl⟩ | publicUrl
  · cases stored : getApiKey id with
    | none => cases publicUrl <;> simp [Provider.api,Provider.hasPublicUrl,Outcome.isTrap,stored]
    | some key => cases auth <;> simp [Provider.api,Provider.hasPublicUrl,Outcome.isTrap,stored]
  · simp [Provider.api,Provider.hasPublicUrl,Outcome.isTrap]

end EvmRpc
