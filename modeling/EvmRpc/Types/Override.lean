import EvmRpc.Types.Provider

/-! Replacement of the url of resolved providers, and the api that is left. -/
namespace EvmRpc
open Library

/-- The `regex` crate: compiling a pattern gives the function that replaces all
its matches in a text. -/
structure Regex where
  compile : String → Except String ((text replacement : String) → String)

structure RegexSubstitution where
  pattern : String
  replacement : String
  deriving DecidableEq, Repr

structure OverrideProvider where
  overrideUrl : Option RegexSubstitution
  deriving DecidableEq, Repr

namespace OverrideProvider

def default : OverrideProvider := ⟨none⟩

def apply (regex : Regex) (override : OverrideProvider) (api : RpcApi) : Except String RpcApi :=
  match override.overrideUrl with
  | none => .ok api
  | some substitution =>
    match regex.compile substitution.pattern with
    | .error error => .error error
    | .ok replaceAll => .ok ⟨replaceAll api.url substitution.replacement,none⟩

/-- The provider from the install arguments, if its pattern compiles. -/
def tryFrom (regex : Regex) (override : OverrideProvider) : Except String OverrideProvider :=
  match override.overrideUrl with
  | none => .ok ⟨none⟩
  | some substitution =>
    match regex.compile substitution.pattern with
    | .error error => .error error
    | .ok _ => .ok ⟨some substitution⟩

end OverrideProvider

def ResolvedRpcService.initialApi (getApiKey : ProviderId → Option ApiKey) : ResolvedRpcService → Outcome RpcApi
  | .api given => .done given
  | .provider known => known.api getApiKey

def ResolvedRpcService.apiWithOverride (regex : Regex) (getApiKey : ProviderId → Option ApiKey)
    (override : OverrideProvider) (service : ResolvedRpcService) : Outcome (RpcResult RpcApi) := do
  let initialApi ← service.initialApi getApiKey
  match override.apply regex initialApi with
  | .ok replaced => .done (.ok replaced)
  | .error regexError =>
    .done (.error (.validationError (.custom
      ("BUG: regex should have been validated when initially set. Error: " ++ regexError))))

end EvmRpc
