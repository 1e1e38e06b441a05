import EvmRpc.External.MultiResults
import EvmRpc.RpcClient.Providers

/-! The client of one call: the chosen providers and the caller's configuration. -/
namespace EvmRpc
open Library

structure EthRpcClient where
  providers : Providers
  config : RpcConfig

inductive ReductionStrategy where
  | byEquality
  | byThreshold (min : UInt8)
  deriving DecidableEq, Repr

namespace ReductionStrategy

def ofConsensusStrategy : ConsensusStrategy → ReductionStrategy
  | .equality => .byEquality
  | .threshold _ min => .byThreshold min

def reduce {κ α ε : Type} (crate : Reduce κ α ε) (results : MultiResults κ α ε) :
    ReductionStrategy → ReducedResult κ α ε
  | .byEquality => crate.withEquality results
  | .byThreshold min => crate.withThreshold min results

end ReductionStrategy

namespace EthRpcClient
variable {M : Type} (timed : TimedSizedMap SupportedRpcService M)

def new (source : RpcServices) (config : Option RpcConfig) (now : Timestamp)
    (usage : SupportedRpcServiceUsage M) :
    Outcome (Except ProviderError EthRpcClient × SupportedRpcServiceUsage M) :=
  let config := config.getD default
  let strategy := config.responseConsensus.getD default
  match Providers.new timed source strategy now usage with
  | .trap message => .trap message
  | .done (.error error,usage) => .done (.error error,usage)
  | .done (.ok providers,usage) => .done (.ok ⟨providers,config⟩,usage)

def chain (client : EthRpcClient) : EthereumNetwork := client.providers.chain

def consensusStrategy (client : EthRpcClient) : ReductionStrategy :=
  .ofConsensusStrategy (client.config.responseConsensus.getD default)

variable {timed} {source : RpcServices} {config : Option RpcConfig} {now : Timestamp}
  {usage after : SupportedRpcServiceUsage M} {client : EthRpcClient}

theorem new_eq_ok (accepted : new timed source config now usage = .done (.ok client,after)) :
    client.config = config.getD default ∧
    Providers.new timed source ((config.getD default).responseConsensus.getD default) now usage =
      .done (.ok client.providers,after) := by
  unfold new at accepted
  simp only at accepted
  split at accepted
  · simp at accepted
  · simp at accepted
  · rename_i providers left chosen
    simp only [Outcome.done.injEq,Prod.mk.injEq,Except.ok.injEq] at accepted
    obtain ⟨rfl,rfl⟩ := accepted
    exact ⟨rfl,chosen⟩

/-- A client that was accepted for a threshold queries as many services as its
default total, or the distinct ones among those listed. -/
theorem card_of_threshold {total : Option UInt8} {min : UInt8}
    (accepted : new timed source config now usage = .done (.ok client,after))
    (strategy : (config.getD default).responseConsensus = some (.threshold total min)) :
    (userDefinedProviders source = none ∧ min.toNat ≤ client.providers.services.card) ∨
    ∃ listed, userDefinedProviders source = some listed ∧
      client.providers.services.card = listed.dedup.length := by
  obtain ⟨_,chosen⟩ := new_eq_ok accepted
  rw [strategy] at chosen
  obtain ⟨_,choice⟩ := Providers.new_eq_ok chosen
  obtain ⟨_,⟨t,default,_,enough,_,card,_⟩ | ⟨listed,explicit,_,_,_,same⟩⟩ := chooseProviders_threshold_ok choice
  · refine .inl ⟨default,?_⟩
    rw [card]
    exact UInt8.le_iff_toNat_le.mp enough
  · refine .inr ⟨listed,explicit,?_⟩
    rw [same,OrderedSet.card_ofList]

end EthRpcClient
end EvmRpc
