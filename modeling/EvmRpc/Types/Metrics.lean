import Mathlib.Data.List.AList
import EvmRpc.Types.Provider

/-! Counters that the canister publishes, by method and host. -/
namespace EvmRpc
open Library

structure MetricRpcMethod where
  name : String
  deriving DecidableEq, Repr

structure MetricRpcHost where
  name : String
  deriving DecidableEq, Repr

structure MetricHttpStatusCode where
  code : String
  deriving DecidableEq, Repr

inductive RpcMethod where
  | ethCall
  | ethFeeHistory
  | ethGetLogs
  | ethGetBlockByNumber
  | ethGetTransactionCount
  | ethGetTransactionReceipt
  | ethSendRawTransaction
  deriving DecidableEq, Repr

def RpcMethod.name : RpcMethod → String
  | .ethCall => "eth_call"
  | .ethFeeHistory => "eth_feeHistory"
  | .ethGetLogs => "eth_getLogs"
  | .ethGetBlockByNumber => "eth_getBlockByNumber"
  | .ethGetTransactionCount => "eth_getTransactionCount"
  | .ethGetTransactionReceipt => "eth_getTransactionReceipt"
  | .ethSendRawTransaction => "eth_sendRawTransaction"

def RpcMethod.toMetric (method : RpcMethod) : MetricRpcMethod := ⟨method.name⟩

abbrev Counters (κ ν : Type) := AList (fun _ : κ => ν)

structure Metrics where
  requests : Counters (MetricRpcMethod × MetricRpcHost) UInt64
  responses : Counters (MetricRpcMethod × MetricRpcHost × MetricHttpStatusCode) UInt64
  inconsistentResponses : Counters (MetricRpcMethod × MetricRpcHost) UInt64
  cyclesCharged : Counters (MetricRpcMethod × MetricRpcHost) U128
  errHttpOutcall : Counters (MetricRpcMethod × MetricRpcHost × LegacyRejectionCode) UInt64
  errMaxResponseSizeExceeded : Counters (MetricRpcMethod × MetricRpcHost) UInt64

def Metrics.default : Metrics := ⟨∅,∅,∅,∅,∅,∅⟩

/-- The macro `add_metric_entry`: an amount of zero leaves no entry. -/
def addMetricEntry {κ ν : Type} [DecidableEq κ] [DecidableEq ν] [Add ν] [OfNat ν 0]
    (counters : Counters κ ν) (key : κ) (amount : ν) : Counters κ ν :=
  if amount ≠ 0 then
    counters.insert key (match counters.lookup key with
      | some counter => counter+amount
      | none => amount)
  else counters

inductive Host where
  | domain (name : String)
  | ip (address : String)
  deriving DecidableEq, Repr

/-- Parsing of a url down to its host, from the `url` crate: nothing for a string
that is no url, and no host for a url that has none. -/
structure Url where
  parse : String → Option (Option Host)

def hostnameFromUrl (crate : Url) (url : String) : Option String :=
  match crate.parse url with
  | some (some (.domain domain)) =>
    if !domain.toList.any (fun c => c == '\x7b' || c == '\x7d') then some domain else none
  | _ => none

def Provider.hostname (crate : Url) (provider : Provider) : Option String :=
  hostnameFromUrl crate (match provider.access with
    | .authenticated (.bearerToken url) _ => url
    | .authenticated (.urlParameter urlPattern) _ => urlPattern
    | .unauthenticated publicUrl => publicUrl)

end EvmRpc
