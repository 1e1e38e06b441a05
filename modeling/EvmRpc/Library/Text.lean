import Mathlib.Algebra.Ring.Nat
import Mathlib.Data.List.Infix
import EvmRpc.Library.Outcome

/-! Substring replacement, and texts as byte strings. -/
namespace Library.Text

section Replace
variable {α : Type} [DecidableEq α]

/-- Left to right, each occurrence of a nonempty `pattern` not inside an earlier
one becomes `replacement`. The first argument counts characters of an occurrence
still to be skipped. -/
def replaceFrom (pattern replacement : List α) : Nat → List α → List α
  | _,[] => []
  | skip+1,_::rest => replaceFrom pattern replacement skip rest
  | 0,c::rest =>
    if pattern.isPrefixOf (c::rest)
    then replacement ++ replaceFrom pattern replacement (pattern.length-1) rest
    else c::replaceFrom pattern replacement 0 rest

def replace (pattern replacement text : String) : String :=
  String.ofList (replaceFrom pattern.toList replacement.toList 0 text.toList)

theorem replaceFrom_skip (pattern replacement text : List α) (skip : Nat) :
    replaceFrom pattern replacement skip text = replaceFrom pattern replacement 0 (text.drop skip) := by
  induction text generalizing skip with
  | nil => simp [replaceFrom]
  | cons c text ih =>
    cases skip with
    | zero => rw [List.drop_zero]
    | succ skip => rw [replaceFrom,List.drop_succ_cons,ih]

theorem replaceFrom_end (c : α) (rest replacement : List α) {before : List α} (fresh : c ∉ before) :
    replaceFrom (c::rest) replacement 0 (before ++ c::rest) = before ++ replacement := by
  induction before with
  | nil =>
    rw [List.nil_append,replaceFrom,if_pos (List.isPrefixOf_iff_prefix.mpr (List.prefix_refl _)),replaceFrom_skip,
      List.length_cons,Nat.add_sub_cancel,List.drop_length,replaceFrom,List.append_nil,List.nil_append]
  | cons d before ih =>
    obtain ⟨other,later⟩ : c ≠ d ∧ c ∉ before := by simpa using fresh
    rw [List.cons_append,replaceFrom,if_neg,ih later,List.cons_append]
    simp [List.isPrefixOf,other]

end Replace

/-- A text of a given size that says nothing else. -/
def stars (size : Nat) : String := String.ofList (List.replicate size '*')

@[simp] theorem toList_stars (size : Nat) : (stars size).toList = List.replicate size '*' := String.toList_ofList

@[simp] theorem utf8ByteSize_stars (size : Nat) : (stars size).utf8ByteSize = size := by
  induction size with
  | zero => rfl
  | succ size ih =>
    have grown : stars (size+1) = (stars size).push '*' := by
      apply String.toList_injective
      simp [List.replicate_succ']
    rw [grown,String.utf8ByteSize_push,ih]
    rfl

def startsWith (text start : String) : Bool := start.toList.isPrefixOf text.toList

/-- The characters from a byte offset on, unless the offset lies within a character
or behind the end. -/
def dropBytes : ℕ → List Char → Option (List Char)
  | 0,chars => some chars
  | _+1,[] => none
  | offset+1,c::rest => if c.utf8Size ≤ offset+1 then dropBytes (offset+1-c.utf8Size) rest else none

theorem dropBytes_ascii {c : Char} (single : c.utf8Size = 1) (offset : ℕ) (rest : List Char) :
    dropBytes (offset+1) (c::rest) = dropBytes offset rest := by
  rw [dropBytes,single,if_pos (Nat.le_add_left 1 offset),Nat.add_sub_cancel]

/-- The slice `&text[offset..]`, which panics off a character boundary. -/
def sliceFrom (text : String) (offset : ℕ) : Outcome String :=
  .ofOption "byte index is not a char boundary" ((dropBytes offset text.toList).map String.ofList)

def utf8 (text : String) : List UInt8 := text.toByteArray.data.toList

def ofUtf8 (bytes : List UInt8) : Option String := String.fromUTF8? ⟨⟨bytes⟩⟩

@[simp] theorem ofUtf8_utf8 (text : String) : ofUtf8 (utf8 text) = some text := by
  have whole : (⟨⟨text.toByteArray.data.toList⟩⟩ : ByteArray) = text.toByteArray := rfl
  simp [ofUtf8,utf8,whole,String.fromUTF8?,String.fromUTF8,text.isValidUTF8]

theorem length_utf8 (text : String) : (utf8 text).length = text.utf8ByteSize := rfl

theorem utf8ByteSize_ofList (chars : List Char) :
    (String.ofList chars).utf8ByteSize = (chars.map Char.utf8Size).sum := by
  induction chars with
  | nil => rfl
  | cons c chars ih =>
    rw [String.ofList_cons,String.utf8ByteSize_append,String.utf8ByteSize_singleton,ih,List.map_cons,List.sum_cons]

theorem utf8_of_ofUtf8 {bytes : List UInt8} {text : String} (read : ofUtf8 bytes = some text) : bytes = utf8 text := by
  unfold ofUtf8 String.fromUTF8? at read
  split at read
  · cases read
    rfl
  · contradiction

theorem utf8_injective : Function.Injective utf8 := by
  intro a b same
  have texts : some a = some b := by rw [← ofUtf8_utf8 a,← ofUtf8_utf8 b,same]
  exact Option.some.inj texts

end Library.Text
