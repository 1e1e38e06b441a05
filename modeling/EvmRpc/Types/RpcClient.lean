import Mathlib.Data.Prod.Lex
import Mathlib.Data.String.Basic
import Mathlib.Data.List.Lex
import Mathlib.Order.Lattice
import EvmRpc.Library.Collections

/-! Services, strategies and configurations of the Candid interface. The derived
order of services is the order in which the canister iterates over a set of them. -/
namespace EvmRpc

abbrev ProviderId := UInt64

structure HttpHeader where
  name : String
  value : String
  deriving DecidableEq, Repr

structure RpcApi where
  url : String
  headers : Option (List HttpHeader)
  deriving DecidableEq, Repr

inductive EthMainnetService where
  | alchemy | ankr | blockPi | publicNode | cloudflare | llama
  deriving DecidableEq, Repr

inductive EthSepoliaService where
  | alchemy | ankr | blockPi | publicNode | sepolia
  deriving DecidableEq, Repr

inductive L2MainnetService where
  | alchemy | ankr | blockPi | publicNode | llama
  deriving DecidableEq, Repr

inductive RpcService where
  | provider (id : ProviderId)
  | custom (api : RpcApi)
  | ethMainnet (service : EthMainnetService)
  | ethSepolia (service : EthSepoliaService)
  | arbitrumOne (service : L2MainnetService)
  | baseMainnet (service : L2MainnetService)
  | optimismMainnet (service : L2MainnetService)
  deriving DecidableEq, Repr

inductive RpcServices where
  | custom (chainId : UInt64) (services : List RpcApi)
  | ethMainnet (services : Option (List EthMainnetService))
  | ethSepolia (services : Option (List EthSepoliaService))
  | arbitrumOne (services : Option (List L2MainnetService))
  | baseMainnet (services : Option (List L2MainnetService))
  | optimismMainnet (services : Option (List L2MainnetService))
  deriving DecidableEq, Repr

inductive ConsensusStrategy where
  | equality
  | threshold (total : Option UInt8) (min : UInt8)
  deriving DecidableEq, Repr

instance : Inhabited ConsensusStrategy := ⟨.equality⟩

structure RpcConfig where
  responseSizeEstimate : Option UInt64
  responseConsensus : Option ConsensusStrategy
  deriving DecidableEq, Repr

instance : Inhabited RpcConfig := ⟨none,none⟩

structure GetLogsRpcConfig where
  responseSizeEstimate : Option UInt64
  responseConsensus : Option ConsensusStrategy
  maxBlockRange : Option UInt32
  deriving DecidableEq, Repr

instance : Inhabited GetLogsRpcConfig := ⟨none,none,none⟩

def GetLogsRpcConfig.toRpcConfig (config : GetLogsRpcConfig) : RpcConfig :=
  ⟨config.responseSizeEstimate,config.responseConsensus⟩

def GetLogsRpcConfig.maxBlockRangeOrDefault (config : GetLogsRpcConfig) : UInt32 :=
  config.maxBlockRange.getD 500

private abbrev ServiceKey := ℕ ×ₗ ℕ ×ₗ String ×ₗ List (List (String ×ₗ String))

/-- Comparing keys is the derived comparison of services: variants in the order
of their declaration, then the payload field by field. -/
def RpcService.key : RpcService → ServiceKey
  | .provider id => toLex (0,toLex (id.toNat,toLex ("",[])))
  | .custom api => toLex (1,toLex (0,toLex (api.url,match api.headers with
      | none => []
      | some headers => [headers.map (fun header => toLex (header.name,header.value))])))
  | .ethMainnet service => toLex (2,toLex (service.ctorIdx,toLex ("",[])))
  | .ethSepolia service => toLex (3,toLex (service.ctorIdx,toLex ("",[])))
  | .arbitrumOne service => toLex (4,toLex (service.ctorIdx,toLex ("",[])))
  | .baseMainnet service => toLex (5,toLex (service.ctorIdx,toLex ("",[])))
  | .optimismMainnet service => toLex (6,toLex (service.ctorIdx,toLex ("",[])))

private theorem header_key_injective : Function.Injective
    (fun header : HttpHeader => toLex (header.name,header.value)) := by
  rintro ⟨n,v⟩ ⟨n',v'⟩ same
  simpa using same

theorem RpcService.key_injective : Function.Injective RpcService.key := by
  intro a b same
  cases a <;> cases b <;> simp [RpcService.key] at same
  case provider.provider => simpa [UInt64.toNat_inj] using same
  case custom.custom a b =>
    obtain ⟨url,headers⟩ := a
    obtain ⟨url',headers'⟩ := b
    obtain ⟨rfl,same⟩ := same
    cases headers <;> cases headers' <;> simp at same ⊢
    exact header_key_injective.list_map same
  all_goals
    rename_i x y
    cases x <;> cases y <;> simp_all [EthMainnetService.ctorIdx,EthSepoliaService.ctorIdx,L2MainnetService.ctorIdx]

instance : LinearOrder RpcService where
  le a b := a.key ≤ b.key
  lt a b := a.key < b.key
  le_refl a := le_refl a.key
  le_trans a b c := @le_trans _ _ a.key b.key c.key
  lt_iff_le_not_ge a b := @lt_iff_le_not_ge _ _ a.key b.key
  le_antisymm _ _ first second := RpcService.key_injective (le_antisymm first second)
  le_total a b := le_total a.key b.key
  toDecidableLE a b := inferInstanceAs (Decidable (a.key ≤ b.key))
  toDecidableLT a b := inferInstanceAs (Decidable (a.key < b.key))
  toDecidableEq := instDecidableEqRpcService

end EvmRpc
