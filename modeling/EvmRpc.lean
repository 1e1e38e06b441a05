import EvmRpc.Library.Outcome
import EvmRpc.Library.Equality
import EvmRpc.Library.Collections
import EvmRpc.Library.Runs
import EvmRpc.Types.RpcClient
import EvmRpc.Types.Result
import EvmRpc.Library.Text
import EvmRpc.External.TimedSizedMap
import EvmRpc.Types.Provider
import EvmRpc.Providers
import EvmRpc.RpcClient.Providers
import EvmRpc.Library.Positional
import EvmRpc.Library.Json
import EvmRpc.Types.Values
import EvmRpc.Types.Response
import EvmRpc.RpcClient.Numeric
import EvmRpc.RpcClient.Responses
import EvmRpc.CandidRpc.Conversion
import EvmRpc.External.MultiResults
import EvmRpc.Types.Metrics
import EvmRpc.RpcClient.Client
import EvmRpc.CandidRpc.Client
import EvmRpc.RpcClient.Ranking
import EvmRpc.Types.Override
import EvmRpc.Memory
import EvmRpc.Canister.Management
import EvmRpc.Library.JsonText
import EvmRpc.Library.JsonGrammar
import EvmRpc.Library.JsonOrder
import EvmRpc.RpcClient.Wire
import EvmRpc.RpcClient.Roundtrip
import EvmRpc.External.JsonRpc
import EvmRpc.External.SerdeJson
import EvmRpc.RpcClient.EthRpcError
import EvmRpc.RpcClient.EthRpc
import EvmRpc.RpcClient.Cleanup
import EvmRpc.Http
import EvmRpc.RpcClient.ParallelCall
import EvmRpc.External.HttpReference
import EvmRpc.RpcClient.Isolation
import EvmRpc.Canister.Calls
import EvmRpc.RpcClient.Results
import EvmRpc.Canister.Configuration
import EvmRpc.Library.Tally
import EvmRpc.Canister.Balance
import EvmRpc.Canister.Inconsistency
import EvmRpc.Alloy.Primitives
import EvmRpc.Alloy.Response
import EvmRpc.RpcClient.SendRawTransaction
import EvmRpc.RpcClient.Masking
import EvmRpc.Canister.Secrecy
import EvmRpc.Types.Naturals
import EvmRpc.Library.Hex
import EvmRpc.Types.HexStrings
import EvmRpc.Library.SparseRecord
import EvmRpc.RpcClient.Requests
import EvmRpc.Types.Request
import EvmRpc.CandidRpc.Requests
import EvmRpc.Canister.GetLogs
import EvmRpc.Canister.StoredKeys
import EvmRpc.Canister.Charges
import EvmRpc.Canister.MetricsPage
import EvmRpc.Canister.Transform
import EvmRpc.Types.Storable
import EvmRpc.Canister.StoredOverride
import EvmRpc.Canister.RequestIds
import EvmRpc.Library.Sessions
import EvmRpc.RpcClient.Sessions
import EvmRpc.Canister.Interleaving
import EvmRpc.Canister.Retries
import EvmRpc.Canister.Budgets
import EvmRpc.Canister.Payments
import EvmRpc.Canister.Questions
import EvmRpc.Canister.Limits
import EvmRpc.Canister.Orders
import EvmRpc.Canister.Requests
import EvmRpc.RpcClient.Arguments
import EvmRpc.CandidRpc.Arguments
import EvmRpc.Canister.Endpoints
import EvmRpc.Alloy.Requests
import EvmRpc.Alloy.Results
import EvmRpc.Library.Writes
import EvmRpc.Client.Requests
import EvmRpc.Canister.Origins
import EvmRpc.Client.Answers
import EvmRpc.Canister.Honesty
import EvmRpc.Canister.Quotes
