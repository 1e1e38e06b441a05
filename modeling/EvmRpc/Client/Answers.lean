import EvmRpc.Alloy.Results
import EvmRpc.Canister.Origins
import EvmRpc.Client.Requests

/-! Sending a request and what comes of it: the whole way from the steps that a request is put together with
to the providers whose replies a client hears. -/
namespace EvmRpc.Client
open Library

/-- `RejectionCode` of the CDK. -/
inductive IcCdkRejectionCode where
  | noError | sysFatal | sysTransient | destinationInvalid | canisterReject | canisterError | unknown
  deriving DecidableEq, Repr

/-- How a canister calls another, with the types that each endpoint has. -/
structure Runtime (R : Type) where
  updateCall : R → Principal → (asked : EvmRpcEndpoint) → String →
    RpcServices × Option asked.method.Config × asked.method.Args → U128 →
      Outcome (Except (RejectCode × String) (MultiRpcResult asked.method.CandidType))

def convertRejectCode : IcCdkRejectionCode → Outcome RejectCode
  | .sysFatal => .done .sysFatal
  | .sysTransient => .done .sysTransient
  | .destinationInvalid => .done .destinationInvalid
  | .canisterReject => .done .canisterReject
  | .canisterError => .done .canisterError
  | .unknown => .done .sysFatal
  | .noError => .trap ("internal error: entered unreachable code: " ++
    "inter-canister calls should never produce a RejectionCode::NoError error")

/-- `call_with_payment128` of the CDK. -/
structure IcCdk where
  callWithPayment128 : Principal → (asked : EvmRpcEndpoint) → String →
    RpcServices × Option asked.method.Config × asked.method.Args → U128 →
      Except (IcCdkRejectionCode × String) (MultiRpcResult asked.method.CandidType)

/-- `IcRuntime`. -/
def icRuntime (cdk : IcCdk) : Runtime Unit where
  updateCall _ id asked method args cycles :=
    match cdk.callWithPayment128 id asked method args cycles with
    | .ok res => .done (.ok res)
    | .error (code,message) => do
      let code ← convertRejectCode code
      .done (.error (code,message))

section Sending
variable {R : Type} {asked : EvmRpcEndpoint} (runtime : Runtime R) (crate : Alloy.Crate)
  (debug : RejectCode × String → String)

def EvmRpcClient.tryExecuteRequest (client : EvmRpcClient R) (request : Request asked) :
    Outcome (Except (RejectCode × String) (MultiRpcResult asked.method.AlloyType)) := do
  let answer ← runtime.updateCall client.config.runtime client.config.evmRpcCanister asked asked.rpcMethod
    (request.rpcServices,request.rpcConfig,request.params) request.cycles
  .done (answer.map (asked.method.output crate))

def RequestBuilder.trySend (builder : RequestBuilder R asked) :
    Outcome (Except (RejectCode × String) (MultiRpcResult asked.method.AlloyType)) :=
  builder.client.tryExecuteRequest runtime crate builder.request

variable {runtime} {crate} {debug}

end Sending

section Runs
variable {M R : Type}

end Runs
end EvmRpc.Client
