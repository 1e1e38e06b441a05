import EvmRpc.Library.JsonGrammar
import EvmRpc.Library.Text

/-! JSON-RPC messages of the `canhttp` crate as byte strings. Reading and writing
them is a parameter. -/
namespace EvmRpc
open Library

inductive Id where
  | number (value : UInt64)
  | string (value : String)
  | null
  deriving DecidableEq, Repr

/-- An error as a server sends it, with optional data. -/
structure ServerError where
  code : Int64
  message : String
  data : Option Json

structure JsonRpcWire where
  read : List UInt8 → Option (Id × Except ServerError Json)
  write : Id → Except ServerError Json → List UInt8
  toVec : Json → List UInt8

namespace JsonRpcWire

/-- Trees that stay clear of the recursion limit and errors that were read before
survive being written. -/
structure Lawful (wire : JsonRpcWire) : Prop where
  read_write_ok : ∀ id (value : Json), value.depth ≤ 64 → wire.read (wire.write id (.ok value)) = some (id,.ok value)
  read_write_error : ∀ bytes id error, wire.read bytes = some (id,.error error) →
    wire.read (wire.write id (.error error)) = some (id,.error error)
  toVec_injective : Function.Injective wire.toVec

/-- `JsonRpcResponse<T>` from bytes, where the result is decoded with `format`. -/
def response {α : Type} (wire : JsonRpcWire) (format : Json.Format α) (body : List UInt8) :
    Option (Id × Except ServerError α) :=
  match wire.read body with
  | none => none
  | some (id,.error error) => some (id,.error error)
  | some (id,.ok json) => (format.decode json).map (fun value => (id,.ok value))

def writeResponse {α : Type} (wire : JsonRpcWire) (format : Json.Format α) (id : Id)
    (result : Except ServerError α) : List UInt8 := wire.write id (result.map format.encode)

variable {α : Type} {wire : JsonRpcWire} {format : Json.Format α}

theorem response_writeResponse_ok (lawful : wire.Lawful) (shallow : format.Within 64) (id : Id) {value : α}
    (back : format.decode (format.encode value) = some value) :
    wire.response format (wire.writeResponse format id (.ok value)) = some (id,.ok value) := by
  have read := lawful.read_write_ok id (format.encode value) (shallow value)
  simp only [response,writeResponse,Except.map,read,back,Option.map_some]

theorem read_of_response_ok {body : List UInt8} {id : Id} {value : α}
    (decoded : wire.response format body = some (id,.ok value)) :
    ∃ json, wire.read body = some (id,.ok json) ∧ format.decode json = some value := by
  unfold response at decoded
  split at decoded
  · cases decoded
  · cases decoded
  · rename_i read
    obtain ⟨found,parsed,same⟩ := Option.map_eq_some_iff.mp decoded
    cases same
    exact ⟨_,read,parsed⟩

theorem read_of_response_error {body : List UInt8} {id : Id} {error : ServerError}
    (decoded : wire.response format body = some (id,.error error)) : wire.read body = some (id,.error error) := by
  unfold response at decoded
  split at decoded
  · cases decoded
  · rename_i read
    rw [read]
    simpa using decoded
  · obtain ⟨value,_,impossible⟩ := Option.map_eq_some_iff.mp decoded
    cases impossible

theorem response_of_read_error {body : List UInt8} {id : Id} {error : ServerError}
    (read : wire.read body = some (id,.error error)) : wire.response format body = some (id,.error error) := by
  simp [response,read]

/-- A decoded error is read again after it was written, whatever the results. -/
theorem read_writeResponse_error {β : Type} (other : Json.Format β) (lawful : wire.Lawful) {body : List UInt8}
    {id : Id} {error : ServerError} (decoded : wire.response format body = some (id,.error error)) :
    wire.read (wire.writeResponse other id (.error error)) = some (id,.error error) :=
  lawful.read_write_error body id error (read_of_response_error decoded)

end JsonRpcWire
end EvmRpc
