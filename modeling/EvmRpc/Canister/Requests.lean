import EvmRpc.Canister.Charges
import EvmRpc.Canister.Interleaving
import EvmRpc.Canister.Observations

/-! The `request` endpoint: what a caller writes goes to one provider as it is, once, and what the
provider responds comes back as it is. -/
namespace EvmRpc
open Library

section Responses
variable {α : Type}

end Responses

namespace Message

end Message

namespace Canister
variable {M : Type}

section Steps
variable {platform : Platform M} {canister next : Canister M} {event : Event} {id : ℕ} {started : Started}

end Steps
end Canister

section Opening
variable {M : Type} {platform : Platform M} {memory after : Memory M} {service : RpcService} {jsonRpcPayload : String}
  {maxResponseBytes : UInt64} {available : U128} {started : Started}

end Opening

section Runs
variable {M : Type} {event : Event} {service : RpcService} {jsonRpcPayload : String} {maxResponseBytes : UInt64}
  {available : U128} {started : Started}

/-- A request with all the cycles there can be. -/
def gasPriceRequest : Event :=
  ⟨1,.request (.custom ⟨"https://rpc.test",none⟩) gasPrice.body.text 1000 U128.MAX⟩

end Runs
end EvmRpc
