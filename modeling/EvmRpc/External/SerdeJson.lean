import Mathlib.Algebra.Ring.Int.Defs
import EvmRpc.Library.JsonGrammar
import EvmRpc.Library.JsonOrder
import EvmRpc.Library.Text

/-! The `serde_json` crate: texts read into trees and written from them, its `Value`
and the types that derive their encoding. -/
namespace EvmRpc
open Library
open Library.Json (Format)

/-- An integer that fits 64 bits, with or without a sign. -/
def Integer64 (token : Json.Number) : Prop := ∃ n : ℤ, -2^63 ≤ n ∧ n < 2^64 ∧ token.1 = toString n

def IsText (tree : Json) (bytes : List UInt8) : Prop :=
  ∃ text : String, Json.Grammar.Element tree text.toList ∧ bytes = Text.utf8 text

theorem isText_spaced (tree : Json) {space : List Char} (blank : Json.Grammar.Blank space) :
    IsText tree (Text.utf8 (String.ofList (space ++ tree.print))) := by
  refine ⟨_,?_,rfl⟩
  rw [String.toList_ofList]
  exact (Json.Grammar.value_print tree).element.blank blank

theorem isText_print (tree : Json) : IsText tree (Text.utf8 (String.ofList tree.print)) :=
  @isText_spaced tree [] Json.Grammar.blank_nil

theorem IsText.unique {first second : Json} {bytes : List UInt8} (written : IsText first bytes)
    (other : IsText second bytes) : first = second := by
  obtain ⟨text,element,rfl⟩ := written
  obtain ⟨text',element',same⟩ := other
  cases Text.utf8_injective same
  exact element.unique element'

structure SerdeJson where
  read : List UInt8 → Except String Json
  write : Json → Except String (List UInt8)

namespace SerdeJson

/-- As many nested arrays and objects are an error. -/
def RECURSION_LIMIT : ℕ := 128

structure Lawful (serdeJson : SerdeJson) : Prop where
  read_text : ∀ {tree bytes}, IsText tree bytes → tree.Numbers Integer64 → tree.depth < RECURSION_LIMIT →
    serdeJson.read bytes = .ok tree
  read_deep : ∀ {tree bytes}, IsText tree bytes → RECURSION_LIMIT ≤ tree.depth →
    ∃ error, serdeJson.read bytes = .error error
  read_other : ∀ {bytes}, (∀ tree, ¬ IsText tree bytes) → ∃ error, serdeJson.read bytes = .error error
  write_tree : ∀ {tree}, tree.Numbers Integer64 →
    serdeJson.write tree = .ok (Text.utf8 (String.ofList tree.print))

/-- Objects are maps sorted by name. -/
structure Value where
  json : Json
  sorted : json.Sorted

namespace Value

def ofJson (json : Json) : Value := ⟨json.sort,json.sorted_sort⟩

theorem ofJson_json (value : Value) : ofJson value.json = value := by
  cases value with
  | mk json sorted => simp only [ofJson,sorted.sort_eq]

end Value

variable (serdeJson : SerdeJson)

def fromSlice (bytes : List UInt8) : Except String Value := (serdeJson.read bytes).map Value.ofJson

def toVec (value : Value) : Except String (List UInt8) := serdeJson.write value.json

/-- `from_slice::<T>` and `to_vec` of a type that derives its encoding. -/
def fromSliceAs {α : Type} (format : Format α) (bytes : List UInt8) : Except String α := do
  let json ← serdeJson.read bytes
  match format.decode json with
  | some value => .ok value
  | none => .error "invalid type"

def toVecAs {α : Type} (format : Format α) (value : α) : Except String (List UInt8) :=
  serdeJson.write (format.encode value)

variable {serdeJson}

theorem Lawful.read_print (lawful : serdeJson.Lawful) {tree : Json} (numbers : tree.Numbers Integer64)
    (shallow : tree.depth < RECURSION_LIMIT) :
    serdeJson.read (Text.utf8 (String.ofList tree.print)) = .ok tree :=
  lawful.read_text (isText_print tree) numbers shallow

theorem Lawful.toVecAs_eq {α : Type} (lawful : serdeJson.Lawful) {format : Format α} {value : α}
    (numbers : (format.encode value).Numbers Integer64) :
    serdeJson.toVecAs format value = .ok (Text.utf8 (String.ofList (format.encode value).print)) :=
  lawful.write_tree numbers

theorem Lawful.fromSliceAs_print {α : Type} (lawful : serdeJson.Lawful) {format : Format α} {value : α}
    (stable : format.decode (format.encode value) = some value) (numbers : (format.encode value).Numbers Integer64)
    (shallow : (format.encode value).depth < RECURSION_LIMIT) :
    serdeJson.fromSliceAs format (Text.utf8 (String.ofList (format.encode value).print)) = .ok value := by
  rw [fromSliceAs,lawful.read_print numbers shallow]
  simp only [Except.bind,bind,stable]

section Reference

/-- Reads and writes by the grammar. -/
def reference : SerdeJson where
  read bytes :=
    match (Text.ofUtf8 bytes).bind (fun text => Json.parse text.toList) with
    | none => .error "expected value"
    | some tree => if tree.depth < RECURSION_LIMIT then .ok tree else .error "recursion limit exceeded"
  write tree := .ok (Text.utf8 (String.ofList tree.print))

private theorem parsed_of_isText {tree : Json} {bytes : List UInt8} (written : IsText tree bytes) :
    (Text.ofUtf8 bytes).bind (fun text => Json.parse text.toList) = some tree := by
  obtain ⟨text,element,rfl⟩ := written
  rw [Text.ofUtf8_utf8,Option.bind_some,Json.Grammar.parse_eq_some.mpr element]

theorem reference_lawful : reference.Lawful where
  read_text written numbers shallow := by
    simp only [reference,parsed_of_isText written]
    rw [if_pos shallow]
  read_deep written deep := by
    refine ⟨"recursion limit exceeded",?_⟩
    simp only [reference,parsed_of_isText written]
    rw [if_neg (not_lt.mpr deep)]
  read_other {bytes} other := by
    refine ⟨"expected value",?_⟩
    have nothing : (Text.ofUtf8 bytes).bind (fun text => Json.parse text.toList) = none := by
      apply Option.eq_none_iff_forall_not_mem.mpr
      intro tree found
      obtain ⟨text,read,parsed⟩ := Option.bind_eq_some_iff.mp found
      exact other tree ⟨text,Json.Grammar.parse_eq_some.mp parsed,Text.utf8_of_ofUtf8 read⟩
    simp only [reference,nothing]
  write_tree _ := rfl

end Reference
end SerdeJson
end EvmRpc
