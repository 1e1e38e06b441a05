import Mathlib.Data.List.Lex
import EvmRpc.Library.Collections
import EvmRpc.RpcClient.EthRpcError

/-! Transformations of the responses of HTTP outcalls, which make replicas that
received equal results see equal bytes. -/
namespace EvmRpc
open Library
open Library.Json (Format)

/-- Code of other crates that the transformations use. -/
structure Crates where
  rpc : JsonRpcWire
  text : WireText
  unicode : Unicode
  sha256 : List UInt8 → List UInt8

namespace Crates

structure Lawful (crates : Crates) : Prop where
  rpc : crates.rpc.Lawful
  text : crates.text.Lawful

def reference : Crates := ⟨.reference,.reference,.ascii,id⟩

theorem reference_lawful : reference.Lawful := ⟨JsonRpcWire.reference_lawful,WireText.reference_lawful⟩

end Crates

inductive ResponseTransform where
  | block
  | logEntries
  | transactionReceipt
  | feeHistory
  | sendRawTransaction
  deriving DecidableEq, Repr

namespace ResponseTransform

section Redact
variable {α : Type}

/-- A response that decodes is written again with its result rearranged, and any
other body stays as it is. -/
def redact (rpc : JsonRpcWire) (format : Format α) (arrange : α → α) (body : List UInt8) : List UInt8 :=
  match rpc.response format body with
  | none => body
  | some (id,result) => rpc.writeResponse format id (result.map arrange)

def redactResponse (rpc : JsonRpcWire) (format : Format α) (body : List UInt8) : List UInt8 :=
  redact rpc format id body

def hash (crates : Crates) (format : Format α) (value : α) : List ℕ :=
  (crates.sha256 (crates.rpc.toVec (format.encode value))).map UInt8.toNat

def sortByHash (crates : Crates) (format : Format α) (values : List α) : List α :=
  StableSort.sort (hash crates format) values

def redactCollectionResponse (crates : Crates) (format : Format α) (body : List UInt8) : List UInt8 :=
  redact crates.rpc format.list (sortByHash crates format) body

end Redact

def apply (crates : Crates) (transform : ResponseTransform) (body : List UInt8) : List UInt8 :=
  match transform with
  | .block => redactResponse crates.rpc crates.text.block body
  | .logEntries => redactCollectionResponse crates crates.text.logEntry body
  | .transactionReceipt => redactResponse crates.rpc crates.text.transactionReceipt body
  | .feeHistory => redactResponse crates.rpc crates.text.feeHistory body
  | .sendRawTransaction => sanitizeSendRawTransactionResult crates.unicode crates.rpc crates.text body

def JsonType : ResponseTransform → Type
  | .block => Json.Block
  | .logEntries => List Json.LogEntry
  | .transactionReceipt => Json.TransactionReceipt
  | .feeHistory => Json.FeeHistory
  | .sendRawTransaction => Json.Hash

def format (text : WireText) : (transform : ResponseTransform) → Format transform.JsonType
  | .block => text.block
  | .logEntries => text.logEntry.list
  | .transactionReceipt => text.transactionReceipt
  | .feeHistory => text.feeHistory
  | .sendRawTransaction => text.bytesArray 32

/-- The same result, up to the order of log entries. -/
def SameResult : (transform : ResponseTransform) → transform.JsonType → transform.JsonType → Prop
  | .block,a,b => a = b
  | .logEntries,a,b => List.Perm (α := Json.LogEntry) a b
  | .transactionReceipt,a,b => a = b
  | .feeHistory,a,b => a = b
  | .sendRawTransaction,a,b => a = b

/-- What a transformation that only normalises promises for a body. -/
structure Transparent (crates : Crates) (transform : ResponseTransform) (body : List UInt8) : Prop where
  idempotent : transform.apply crates (transform.apply crates body) = transform.apply crates body
  untouched : crates.rpc.response (transform.format crates.text) body = none → transform.apply crates body = body
  decodes : (crates.rpc.response (transform.format crates.text) (transform.apply crates body)).isSome =
    (crates.rpc.response (transform.format crates.text) body).isSome
  error : ∀ id error, crates.rpc.response (transform.format crates.text) body = some (id,.error error) →
    crates.rpc.response (transform.format crates.text) (transform.apply crates body) = some (id,.error error)
  result : ∀ id value, crates.rpc.response (transform.format crates.text) body = some (id,.ok value) →
    ∃ after, crates.rpc.response (transform.format crates.text) (transform.apply crates body) =
      some (id,.ok after) ∧ transform.SameResult value after

section Redaction
variable {α : Type} {rpc : JsonRpcWire} {format : Format α} {good : α → Prop} {arrange : α → α}

/-- A format whose decoded values are read back after they are written, at a depth
that JSON readers accept. -/
structure Faithful (format : Format α) (arrange : α → α) : Prop where
  back : ∀ json value, format.decode json = some value → format.decode (format.encode (arrange value)) =
    some (arrange value)
  shallow : format.Within 64
  again : ∀ value, arrange (arrange value) = arrange value

theorem redact_of_none {body : List UInt8} (undecoded : rpc.response format body = none) :
    redact rpc format arrange body = body := by
  rw [redact,undecoded]

theorem redact_of_some {body : List UInt8} {id : Id} {result : Except ServerError α}
    (decoded : rpc.response format body = some (id,result)) :
    redact rpc format arrange body = rpc.writeResponse format id (result.map arrange) := by
  rw [redact,decoded]

theorem response_redact (lawful : rpc.Lawful) (faithful : Faithful format arrange) (body : List UInt8) :
    rpc.response format (redact rpc format arrange body) =
      (rpc.response format body).map (fun (id,result) => (id,result.map arrange)) := by
  cases decoded : rpc.response format body with
  | none => rw [redact_of_none decoded,decoded,Option.map_none]
  | some reply =>
    obtain ⟨id,result⟩ := reply
    rw [redact_of_some decoded,Option.map_some]
    cases result with
    | error error =>
      exact JsonRpcWire.response_of_read_error (JsonRpcWire.read_writeResponse_error format lawful decoded)
    | ok value =>
      obtain ⟨json,_,read⟩ := JsonRpcWire.read_of_response_ok decoded
      exact JsonRpcWire.response_writeResponse_ok lawful faithful.shallow id (faithful.back json value read)

theorem redact_idempotent (lawful : rpc.Lawful) (faithful : Faithful format arrange) (body : List UInt8) :
    redact rpc format arrange (redact rpc format arrange body) = redact rpc format arrange body := by
  cases decoded : rpc.response format body with
  | none => rw [redact_of_none decoded,redact_of_none decoded]
  | some reply =>
    obtain ⟨id,result⟩ := reply
    have redacted := response_redact lawful faithful body
    rw [decoded,Option.map_some] at redacted
    rw [redact_of_some redacted,redact_of_some decoded]
    cases result with
    | error error => rfl
    | ok value => simp only [Except.map,faithful.again]

end Redaction

theorem sortByHash_perm {α : Type} (crates : Crates) (format : Format α) (values : List α) :
    (sortByHash crates format values).Perm values := (StableSort.sort_spec values).perm

private theorem faithful_of_stable {α : Type} {format : Format α} (stable : format.Stable (fun _ => True))
    {bound : ℕ} (within : format.Within bound) (small : bound ≤ 64) : Faithful format id where
  back _ value _ := stable value trivial
  shallow := within.mono small
  again _ := rfl

/-- The bytes that are hashed to sort the values. -/
def hashedBytes {α : Type} (crates : Crates) (format : Format α) (values : List α) : Set (List UInt8) :=
  {bytes | ∃ value ∈ values, crates.rpc.toVec (format.encode value) = bytes}

theorem sortByHash_of_perm {α : Type} {crates : Crates} (lawful : crates.Lawful) {format : Format α}
    (stable : format.Stable (fun _ => True)) {first second : List α} (shared : first.Perm second)
    (collisionFree : Set.InjOn crates.sha256 (hashedBytes crates format first)) :
    sortByHash crates format first = sortByHash crates format second := by
  refine StableSort.sort_perm shared (fun a left b right same => ?_)
  have digests : crates.sha256 _ = crates.sha256 _ :=
    List.map_injective_iff.mpr (fun x y equal => UInt8.toNat_inj.mp equal) same
  have bytes := collisionFree ⟨a,left,rfl⟩ ⟨b,right,rfl⟩ digests
  have written := lawful.rpc.toVec_injective bytes
  have read : some a = some b := by rw [← stable a trivial,← stable b trivial,written]
  exact Option.some.inj read

section Normalising
variable (crates : Crates) (transform : ResponseTransform)

/-- How a normalising transformation rearranges a result. -/
def arrange : (transform : ResponseTransform) → transform.JsonType → transform.JsonType
  | .block => id
  | .logEntries => sortByHash crates crates.text.logEntry
  | .transactionReceipt => id
  | .feeHistory => id
  | .sendRawTransaction => id

theorem apply_eq_redact (normalising : transform ≠ .sendRawTransaction) (body : List UInt8) :
    transform.apply crates body =
      redact crates.rpc (transform.format crates.text) (transform.arrange crates) body := by
  cases transform with
  | sendRawTransaction => contradiction
  | _ => rfl

variable {crates}

theorem arrange_faithful (lawful : crates.Lawful) :
    Faithful (transform.format crates.text) (transform.arrange crates) := by
  have text := lawful.text
  cases transform with
  | block => exact faithful_of_stable (WireText.block_stable text) (WireText.block_within _) (by omega)
  | logEntries =>
    refine ⟨?_,(Format.list_within (WireText.logEntry_within _)).mono (by omega),StableSort.sort_idempotent⟩
    exact fun _ entries _ => Format.list_stable (WireText.logEntry_stable text) _ (fun _ _ => trivial)
  | transactionReceipt =>
    exact faithful_of_stable (WireText.transactionReceipt_stable text) (WireText.transactionReceipt_within _)
      (by omega)
  | feeHistory =>
    refine ⟨?_,(WireText.feeHistory_within _).mono (by omega),fun _ => rfl⟩
    exact fun _ history decoded => WireText.feeHistory_stable text history (WireText.feeHistory_readable decoded)
  | sendRawTransaction =>
    exact faithful_of_stable (WireText.bytesArray_stable text 32) (WireText.bytesArray_within _ 32 64) (by omega)

theorem apply_agrees (normalising : transform ≠ .sendRawTransaction) {first second : List UInt8} {id : Id}
    {result result' : Except ServerError transform.JsonType}
    (decoded : crates.rpc.response (transform.format crates.text) first = some (id,result))
    (decoded' : crates.rpc.response (transform.format crates.text) second = some (id,result'))
    (alike : result.map (transform.arrange crates) = result'.map (transform.arrange crates)) :
    transform.apply crates first = transform.apply crates second := by
  rw [apply_eq_redact crates transform normalising,apply_eq_redact crates transform normalising,
    redact_of_some decoded,redact_of_some decoded',alike]

theorem sameResult_arrange (value : transform.JsonType) :
    transform.SameResult value (transform.arrange crates value) := by
  cases transform with
  | logEntries => exact (sortByHash_perm crates crates.text.logEntry value).symm
  | _ => rfl

end Normalising

/-- Normalisation hides nothing: what the canister parses is what the provider sent. -/
theorem apply_transparent {crates : Crates} (lawful : crates.Lawful) (transform : ResponseTransform)
    (normalising : transform ≠ .sendRawTransaction) (body : List UInt8) : Transparent crates transform body := by
  have faithful := transform.arrange_faithful lawful
  have applied := transform.apply_eq_redact crates normalising
  have after := response_redact lawful.rpc faithful body
  constructor
  · simp only [applied]
    exact redact_idempotent lawful.rpc faithful body
  · intro undecoded
    rw [applied]
    exact redact_of_none undecoded
  · rw [applied,after,Option.isSome_map]
  · intro id error decoded
    rw [applied,after,decoded]
    rfl
  · intro id value decoded
    rw [applied,after,decoded]
    exact ⟨_,rfl,transform.sameResult_arrange value⟩

theorem apply_transparent_for_spaced_error : Transparent .reference .logEntries (Text.utf8
    "\x7b \"jsonrpc\" : \"2.0\", \"error\" : \x7b \"message\" : \"gone\", \"code\" : -32000 \x7d, \"id\" : 1 \x7d") :=
  apply_transparent Crates.reference_lawful .logEntries (by decide) _

/-- Log entries in any order become the same body, which carries all of them, and an error is
written again as it is. -/
theorem log_order_never_matters {crates : Crates} (lawful : crates.Lawful) {id : Id}
    {entries permuted : List Json.LogEntry} (shared : entries.Perm permuted) {first second : List UInt8}
    (carries : crates.rpc.response crates.text.logEntry.list first = some (id,.ok entries))
    (carries' : crates.rpc.response crates.text.logEntry.list second = some (id,.ok permuted))
    (collisionFree : Set.InjOn crates.sha256 (hashedBytes crates crates.text.logEntry entries)) :
    ResponseTransform.logEntries.apply crates first = ResponseTransform.logEntries.apply crates second ∧
    (∃ sorted, crates.rpc.response crates.text.logEntry.list (ResponseTransform.logEntries.apply crates first) =
      some (id,.ok sorted) ∧ sorted.Perm entries) ∧
    ∀ body id error, crates.rpc.response crates.text.logEntry.list body = some (id,.error error) →
      ResponseTransform.logEntries.apply crates body =
        crates.rpc.writeResponse crates.text.logEntry.list id (.error error) ∧
      crates.rpc.response crates.text.logEntry.list (ResponseTransform.logEntries.apply crates body) =
        some (id,.error error) := by
  have faithful := ResponseTransform.logEntries.arrange_faithful lawful
  have sorted := sortByHash_of_perm lawful (WireText.logEntry_stable lawful.text) shared collisionFree
  refine ⟨?_,⟨sortByHash crates crates.text.logEntry entries,?_,sortByHash_perm crates _ entries⟩,?_⟩
  · refine ResponseTransform.logEntries.apply_agrees (by decide) carries carries' ?_
    exact congrArg Except.ok sorted
  · have after := response_redact lawful.rpc faithful first
    rw [show crates.rpc.response (ResponseTransform.logEntries.format crates.text) first = _ from carries] at after
    exact after
  · intro body id error decoded
    have after := response_redact lawful.rpc faithful body
    rw [show crates.rpc.response (ResponseTransform.logEntries.format crates.text) body = _ from decoded] at after
    refine ⟨?_,after⟩
    rw [ResponseTransform.logEntries.apply_eq_redact crates (by decide)]
    exact redact_of_some decoded

/-- A log that a reorganisation of the chain has removed. -/
def removedLog : Json.LogEntry := {(default : Json.LogEntry) with removed := true}

/-- Crates that know the SHA-256 digests of two entries. -/
def digestsOfTwo : Crates where
  rpc := .reference
  text := .reference
  unicode := .ascii
  sha256 bytes :=
    if bytes = JsonRpcWire.reference.toVec (WireText.reference.logEntry.encode default) then
      [230,137,65,218,153,90,172,147,204,107,43,98,197,162,235,109,78,106,249,26,251,217,242,182,38,170,31,193,222,121,155,
        82]
    else if bytes = JsonRpcWire.reference.toVec (WireText.reference.logEntry.encode removedLog) then
      [37,104,12,125,124,80,153,47,73,46,84,121,206,84,77,107,225,107,189,227,146,1,49,164,225,214,151,244,141,188,12,150]
    else []

private theorem digestsOfTwo_injOn :
    Set.InjOn digestsOfTwo.sha256 (hashedBytes digestsOfTwo digestsOfTwo.text.logEntry [default,removedLog]) := by
  have apart : digestsOfTwo.sha256 (digestsOfTwo.rpc.toVec (digestsOfTwo.text.logEntry.encode default)) ≠
      digestsOfTwo.sha256 (digestsOfTwo.rpc.toVec (digestsOfTwo.text.logEntry.encode removedLog)) := by decide +kernel
  rintro _ ⟨first,inside,rfl⟩ _ ⟨second,inside',rfl⟩ same
  simp only [List.mem_cons,List.not_mem_nil,or_false] at inside inside'
  rcases inside with rfl | rfl <;> rcases inside' with rfl | rfl
  · rfl
  · exact absurd same apart
  · exact absurd same.symm apart
  · rfl

theorem log_order_never_matters_for_two : ∃ sorted : List Json.LogEntry,
    let entries : List Json.LogEntry := [default,removedLog]
    let first := JsonRpcWire.reference.writeResponse WireText.reference.logEntry.list (.number 1) (.ok entries)
    let second := JsonRpcWire.reference.writeResponse WireText.reference.logEntry.list (.number 1) (.ok entries.reverse)
    ResponseTransform.logEntries.apply digestsOfTwo first = ResponseTransform.logEntries.apply digestsOfTwo second ∧
      JsonRpcWire.reference.response WireText.reference.logEntry.list
        (ResponseTransform.logEntries.apply digestsOfTwo first) = some (.number 1,.ok sorted) ∧ sorted.Perm entries := by
  let entries : List Json.LogEntry := [default,removedLog]
  have carried (entries : List Json.LogEntry) : JsonRpcWire.reference.response WireText.reference.logEntry.list
      (JsonRpcWire.reference.writeResponse WireText.reference.logEntry.list (.number 1) (.ok entries)) =
        some (.number 1,.ok entries) :=
    JsonRpcWire.response_writeResponse_ok JsonRpcWire.reference_lawful
      ((Format.list_within (WireText.logEntry_within _)).mono (by omega)) _
      (Format.list_stable (WireText.logEntry_stable WireText.reference_lawful) entries (fun _ _ => trivial))
  have lawful : digestsOfTwo.Lawful := ⟨JsonRpcWire.reference_lawful,WireText.reference_lawful⟩
  obtain ⟨same,⟨sorted,decoded,perm⟩,_⟩ := log_order_never_matters lawful
    (List.reverse_perm entries).symm (carried entries) (carried entries.reverse) digestsOfTwo_injOn
  exact ⟨sorted,same,decoded,perm⟩

end ResponseTransform
end EvmRpc
