import EvmRpc.CandidRpc.Client
import EvmRpc.External.Http
import EvmRpc.RpcClient.EthRpc

/-! The transformation that runs on the response of an outcall before consensus,
chosen by the type that the endpoint decodes. -/
namespace EvmRpc
open Library
open Library.Json (Format)

/-- The binary encoding of the `minicbor` crate. -/
structure Minicbor where
  encode : ResponseTransform → List UInt8
  decode : List UInt8 → Option ResponseTransform

namespace Minicbor

structure Lawful (minicbor : Minicbor) : Prop where
  decode_encode : ∀ transform, minicbor.decode (minicbor.encode transform) = some transform
  encode_ne_nil : ∀ transform, minicbor.encode transform ≠ []

def indexOf : ResponseTransform → UInt8
  | .block => 0
  | .logEntries => 1
  | .transactionReceipt => 2
  | .feeHistory => 3
  | .sendRawTransaction => 4

/-- An array of one variant index and an empty array. -/
def reference : Minicbor where
  encode transform := [0x82,indexOf transform,0x80]
  decode bytes := [.block,.logEntries,.transactionReceipt,.feeHistory,.sendRawTransaction].find?
    (fun transform => bytes = [0x82,indexOf transform,0x80])

theorem reference_lawful : reference.Lawful where
  decode_encode transform := by cases transform <;> decide
  encode_ne_nil _ := nofun

end Minicbor

structure TransformArgs where
  response : HttpResponse
  context : List UInt8

def HttpResponse.statusOk (response : HttpResponse) : Prop := 200 ≤ response.status ∧ response.status < 300

instance (response : HttpResponse) : Decidable response.statusOk :=
  inferInstanceAs (Decidable (200 ≤ response.status ∧ response.status < 300))

def cleanupResponse (crates : Crates) (minicbor : Minicbor) (args : TransformArgs) : HttpResponse :=
  let response := {args.response with headers := []}
  if response.statusOk ∧ args.context ≠ [] then
    match minicbor.decode args.context with
    | some transform => {response with body := transform.apply crates response.body}
    | none => response
  else response

/-- The transformation of the responses that hold a value of the type. A type that
names none has none. -/
class HttpResponsePayload (α : Type) where
  responseTransform : Option ResponseTransform := none

instance : HttpResponsePayload Json.TransactionReceipt := ⟨some .transactionReceipt⟩
instance : HttpResponsePayload (List Json.LogEntry) := ⟨some .logEntries⟩
instance : HttpResponsePayload Json.Block := ⟨some .block⟩
instance : HttpResponsePayload Json.FeeHistory := ⟨some .feeHistory⟩
instance : HttpResponsePayload Json.SendRawTransactionResult := ⟨some .sendRawTransaction⟩
instance : HttpResponsePayload Json.Data := {}
instance : HttpResponsePayload TransactionCount := {}
instance : HttpResponsePayload Wei := {}
instance {α : Type} [HttpResponsePayload α] : HttpResponsePayload (Option α) := {}

namespace RpcMethod

instance (method : RpcMethod) : HttpResponsePayload method.JsonType := match method with
  | .ethCall => inferInstanceAs (HttpResponsePayload Json.Data)
  | .ethFeeHistory => inferInstanceAs (HttpResponsePayload Json.FeeHistory)
  | .ethGetLogs => inferInstanceAs (HttpResponsePayload (List Json.LogEntry))
  | .ethGetBlockByNumber => inferInstanceAs (HttpResponsePayload Json.Block)
  | .ethGetTransactionCount => inferInstanceAs (HttpResponsePayload TransactionCount)
  | .ethGetTransactionReceipt => inferInstanceAs (HttpResponsePayload (Option Json.TransactionReceipt))
  | .ethSendRawTransaction => inferInstanceAs (HttpResponsePayload Json.SendRawTransactionResult)

/-- How the endpoint of a method decodes the result of a response. -/
def format (text : WireText) : (method : RpcMethod) → Format method.JsonType
  | .ethCall => text.data
  | .ethFeeHistory => text.feeHistory
  | .ethGetLogs => text.logEntry.list
  | .ethGetBlockByNumber => text.block
  | .ethGetTransactionCount => text.amount _
  | .ethGetTransactionReceipt => text.transactionReceipt.option
  | .ethSendRawTransaction => WireText.sendRawTransactionResult

/-- The context of the transformation that `parallel_call` attaches. -/
def transformOp (minicbor : Minicbor) (method : RpcMethod) : List UInt8 :=
  match HttpResponsePayload.responseTransform method.JsonType with
  | some transform => minicbor.encode transform
  | none => []

def Structured : RpcMethod → Prop
  | .ethGetLogs | .ethGetBlockByNumber | .ethGetTransactionReceipt | .ethFeeHistory => True
  | _ => False

/-- Equal results, where log entries may come in any order. -/
def SameResult : (method : RpcMethod) → method.JsonType → method.JsonType → Prop
  | .ethCall,a,b => a = b
  | .ethFeeHistory,a,b => a = b
  | .ethGetLogs,a,b => List.Perm (α := Json.LogEntry) a b
  | .ethGetBlockByNumber,a,b => a = b
  | .ethGetTransactionCount,a,b => a = b
  | .ethGetTransactionReceipt,a,b => a = b
  | .ethSendRawTransaction,a,b => a = b

def SameReply (method : RpcMethod) : Except ServerError method.JsonType → Except ServerError method.JsonType → Prop
  | .ok a,.ok b => method.SameResult a b
  | .error a,.error b => a = b
  | _,_ => False

def hashedEntries (crates : Crates) : (method : RpcMethod) → Except ServerError method.JsonType → Set (List UInt8)
  | .ethGetLogs,.ok entries => ResponseTransform.hashedBytes crates crates.text.logEntry entries
  | _,_ => ∅

end RpcMethod

section Agreement
variable {crates : Crates} {minicbor : Minicbor} {method : RpcMethod}

theorem cleanup_of_transform (lawful : minicbor.Lawful) {transform : ResponseTransform}
    (chosen : HttpResponsePayload.responseTransform method.JsonType = some transform) {response : HttpResponse}
    (ok : response.statusOk) : cleanupResponse crates minicbor ⟨response,method.transformOp minicbor⟩ =
      ⟨response.status,[],transform.apply crates response.body⟩ := by
  have context : method.transformOp minicbor = minicbor.encode transform := by
    simp only [RpcMethod.transformOp,chosen]
  unfold cleanupResponse
  rw [context]
  simp only
  rw [if_pos ⟨ok,lawful.encode_ne_nil transform⟩,lawful.decode_encode]

theorem cleanup_of_none (chosen : HttpResponsePayload.responseTransform method.JsonType = none)
    (response : HttpResponse) : cleanupResponse crates minicbor ⟨response,method.transformOp minicbor⟩ =
      ⟨response.status,[],response.body⟩ := by
  have context : method.transformOp minicbor = [] := by simp only [RpcMethod.transformOp,chosen]
  simp [cleanupResponse,context]

private theorem map_eq_of_sameReply {result result' : Except ServerError method.JsonType}
    (same : method.SameReply result result') {arrange : method.JsonType → method.JsonType}
    (alike : ∀ value value', result = .ok value → method.SameResult value value' → arrange value = arrange value') :
    result.map arrange = result'.map arrange := by
  cases result with
  | error error =>
    cases result' with
    | error error' => exact congrArg Except.error same
    | ok value' => exact absurd same not_false
  | ok value =>
    cases result' with
    | error error' => exact absurd same not_false
    | ok value' => exact congrArg Except.ok (alike value value' rfl same)

/-- Where an endpoint has a transformation, equal replies become equal bytes. -/
theorem transform_agrees (lawful : crates.Lawful) (structured : method.Structured)
    (other : method ≠ .ethGetTransactionReceipt) : ∃ transform,
      HttpResponsePayload.responseTransform method.JsonType = some transform ∧
      ∀ (first second : List UInt8) (id : Id) (result result' : Except ServerError method.JsonType),
        crates.rpc.response (method.format crates.text) first = some (id,result) →
        crates.rpc.response (method.format crates.text) second = some (id,result') →
        method.SameReply result result' → Set.InjOn crates.sha256 (method.hashedEntries crates result) →
        transform.apply crates first = transform.apply crates second := by
  cases method with
  | ethCall | ethGetTransactionCount | ethSendRawTransaction => exact absurd structured not_false
  | ethGetTransactionReceipt => contradiction
  | ethFeeHistory =>
    refine ⟨.feeHistory,rfl,fun first second id result result' decoded decoded' same _ => ?_⟩
    exact ResponseTransform.apply_agrees .feeHistory nofun decoded decoded'
      (map_eq_of_sameReply same (fun _ _ _ equal => equal))
  | ethGetBlockByNumber =>
    refine ⟨.block,rfl,fun first second id result result' decoded decoded' same _ => ?_⟩
    exact ResponseTransform.apply_agrees .block nofun decoded decoded'
      (map_eq_of_sameReply same (fun _ _ _ equal => equal))
  | ethGetLogs =>
    refine ⟨.logEntries,rfl,fun first second id result result' decoded decoded' same collisionFree => ?_⟩
    refine ResponseTransform.apply_agrees .logEntries nofun decoded decoded' (map_eq_of_sameReply same ?_)
    rintro entries entries' rfl shared
    exact ResponseTransform.sortByHash_of_perm lawful (WireText.logEntry_stable lawful.text) shared collisionFree

/-- Equal replies of equal status look equal to consensus, except that the receipts
of two replies must already be equal byte for byte. -/
theorem cleanup_agrees_iff (lawful : crates.Lawful) (minicborLawful : minicbor.Lawful)
    (structured : method.Structured) {first second : HttpResponse} (firstOk : first.statusOk)
    (secondOk : second.statusOk) {id : Id} {result result' : Except ServerError method.JsonType}
    (decoded : crates.rpc.response (method.format crates.text) first.body = some (id,result))
    (decoded' : crates.rpc.response (method.format crates.text) second.body = some (id,result'))
    (same : method.SameReply result result')
    (collisionFree : Set.InjOn crates.sha256 (method.hashedEntries crates result)) :
    cleanupResponse crates minicbor ⟨first,method.transformOp minicbor⟩ =
      cleanupResponse crates minicbor ⟨second,method.transformOp minicbor⟩ ↔
    first.status = second.status ∧ (method ≠ .ethGetTransactionReceipt ∨ first.body = second.body) := by
  by_cases receipt : method = .ethGetTransactionReceipt
  · subst method
    rw [cleanup_of_none rfl,cleanup_of_none rfl]
    simp
  · obtain ⟨transform,chosen,agrees⟩ := transform_agrees lawful structured receipt
    rw [cleanup_of_transform minicborLawful chosen firstOk,cleanup_of_transform minicborLawful chosen secondOk,
      agrees first.body second.body id result result' decoded decoded' same collisionFree]
    simp [receipt]

end Agreement

section WhiteSpace

def spacedResponse (space : List Char) (json : Json) : HttpResponse :=
  ⟨200,[],JsonRpcWire.spaced space (.number 1) (.ok json)⟩

private theorem spacedResponse_inj {space other : List Char} {json : Json}
    (same : (spacedResponse space json).body = (spacedResponse other json).body) : space = other :=
  JsonRpcWire.spaced_inj same

private theorem response_spacedResponse {method : RpcMethod} {value : method.JsonType}
    (back : (method.format .reference).decode ((method.format .reference).encode value) = some value)
    {space : List Char} (blank : ∀ c ∈ space, Json.isSpace c = true) :
    Crates.reference.rpc.response (method.format .reference)
      (spacedResponse space ((method.format .reference).encode value)).body = some (.number 1,.ok value) :=
  JsonRpcWire.reference_response_spaced blank (.number 1) back

theorem cleanup_agrees_for_spaced_block :
    let json := WireText.reference.block.encode default
    cleanupResponse .reference .reference
        ⟨spacedResponse [] json,RpcMethod.ethGetBlockByNumber.transformOp .reference⟩ =
      cleanupResponse .reference .reference
        ⟨spacedResponse [' ','\n'] json,RpcMethod.ethGetBlockByNumber.transformOp .reference⟩ := by
  intro json
  have back := WireText.block_stable WireText.reference_lawful default trivial
  have structured : RpcMethod.ethGetBlockByNumber.Structured := trivial
  have ok (space : List Char) : (spacedResponse space json).statusOk := by
    simp [HttpResponse.statusOk,spacedResponse]
  have decoded {space : List Char} (blank : ∀ c ∈ space, Json.isSpace c = true) :=
    @response_spacedResponse .ethGetBlockByNumber _ back _ blank
  exact (cleanup_agrees_iff Crates.reference_lawful Minicbor.reference_lawful structured (ok _) (ok _)
    (decoded (by simp)) (decoded (by simp [Json.isSpace])) rfl (Set.injOn_empty _)).mpr ⟨rfl,.inl nofun⟩

/-- Two replies with one receipt, one of them behind a blank. -/
theorem spaced_receipts_disagree :
    let json := WireText.reference.transactionReceipt.encode default
    Crates.reference.rpc.response (RpcMethod.ethGetTransactionReceipt.format .reference)
      (spacedResponse [] json).body = some (.number 1,.ok (some default)) ∧
    Crates.reference.rpc.response (RpcMethod.ethGetTransactionReceipt.format .reference)
      (spacedResponse [' '] json).body = some (.number 1,.ok (some default)) ∧
    cleanupResponse .reference .reference
        ⟨spacedResponse [] json,RpcMethod.ethGetTransactionReceipt.transformOp .reference⟩ ≠
      cleanupResponse .reference .reference
        ⟨spacedResponse [' '] json,RpcMethod.ethGetTransactionReceipt.transformOp .reference⟩ := by
  intro json
  have back := Format.option_stable (WireText.transactionReceipt_stable WireText.reference_lawful)
    (Json.Record.present _) (some default) (fun _ _ => trivial)
  have decoded (space : List Char) (blank : ∀ c ∈ space, Json.isSpace c = true) :
      Crates.reference.rpc.response (RpcMethod.ethGetTransactionReceipt.format .reference)
        (spacedResponse space json).body = some (.number 1,.ok (some default)) :=
    @response_spacedResponse .ethGetTransactionReceipt (some default) back space blank
  have plain : HttpResponsePayload.responseTransform RpcMethod.ethGetTransactionReceipt.JsonType = none := rfl
  refine ⟨decoded [] (by simp),decoded [' '] (by simp [Json.isSpace]),?_⟩
  rw [cleanup_of_none plain,cleanup_of_none plain]
  intro same
  have spaces := spacedResponse_inj (HttpResponse.mk.inj same).2.2
  cases spaces

end WhiteSpace
end EvmRpc
