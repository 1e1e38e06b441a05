import Mathlib
import EvmRpc.External.JsonRpc
import EvmRpc.RpcClient.Wire

/-! A JSON-RPC reader and writer, and hex texts, that have the properties the
canister relies on. -/
namespace EvmRpc
open Library

namespace ReferenceNumber

private theorem foldlM_digits {digits : List Char} (decimal : ∀ c ∈ digits, c.isDigit = true) :
    digits.foldlM Json.NumberPhase.next .integer = some .integer := by
  induction digits with
  | nil => rfl
  | cons c digits ih =>
    have first := decimal c (by simp)
    have plain : c ≠ '.' ∧ c ≠ 'e' ∧ c ≠ 'E' := by
      refine ⟨?_,?_,?_⟩ <;> rintro rfl <;> simp at first
    simp [Json.NumberPhase.next,Json.NumberPhase.digit,Json.NumberPhase.scale,plain,first,
      ih (fun d inside => decimal d (by simp [inside]))]

private theorem digitChar_positive : ∀ d < 10, 0 < d →
    Json.NumberPhase.next .start d.digitChar = some .integer ∧
      Json.NumberPhase.next .minus d.digitChar = some .integer := by decide

private theorem foldlM_toDigits (phase : Json.NumberPhase) (outside : phase = .start ∨ phase = .minus)
    (n : ℕ) (positive : 0 < n) : (Nat.toDigits 10 n).foldlM Json.NumberPhase.next phase = some .integer := by
  induction n using Nat.strongRecOn with
  | ind n ih =>
    by_cases small : n < 10
    · obtain ⟨start,minus⟩ := digitChar_positive n small positive
      rw [Nat.toDigits_of_lt_base small]
      rcases outside with rfl | rfl
      · simp [start]
      · simp [minus]
    · have front := ih (n/10) (by omega) (by omega)
      have last : ∀ c ∈ [(n%10).digitChar], c.isDigit = true := by
        intro c inside
        rw [List.mem_singleton] at inside
        subst c
        exact Nat.isDigit_of_mem_toDigits (b := 10) (n := n%10) (by omega) (by omega)
          (by simp [Nat.toDigits_of_lt_base (Nat.mod_lt n (by omega : 0 < 10))])
      rw [Nat.toDigits_of_base_le (by omega) (by omega),List.foldlM_append,front]
      exact foldlM_digits last

private theorem isNumber_repr (n : ℤ) : Json.isNumber n.repr.toList := by
  cases n with
  | ofNat n =>
    simp only [Int.repr,Nat.repr,String.toList_ofList,Json.isNumber]
    rcases Nat.eq_zero_or_pos n with rfl | positive
    · decide
    · rw [foldlM_toDigits .start (.inl rfl) n positive]
      rfl
  | negSucc n =>
    have digits := foldlM_toDigits .minus (.inr rfl) (n+1) (by omega)
    have signed : (Int.repr (.negSucc n)).toList = '-'::Nat.toDigits 10 (n+1) := by
      simp [Int.repr,Nat.repr]
    have sign : Json.NumberPhase.next .start '-' = some .minus := by decide
    rw [signed,Json.isNumber,List.foldlM_cons,sign]
    simp only [Option.bind_eq_bind,Option.bind_some,digits]
    rfl

def ofInt (n : ℤ) : Json.Number := ⟨n.repr,isNumber_repr n⟩

def toInt (token : Json.Number) : Option ℤ := token.1.toInt?

@[simp] theorem toInt_ofInt (n : ℤ) : toInt (ofInt n) = some n := Int.toInt?_repr n

end ReferenceNumber

namespace JsonRpcWire

def idJson : Id → Json
  | .number value => .number (ReferenceNumber.ofInt value.toNat)
  | .string value => .string value
  | .null => .null

def readId : Json → Option Id
  | .number token => (ReferenceNumber.toInt token).bind (fun n =>
    if (UInt64.ofNat n.toNat).toNat = n then some (.number (UInt64.ofNat n.toNat)) else none)
  | .string value => some (.string value)
  | .null => some .null
  | _ => none

def errorJson (error : ServerError) : Json :=
  .object ([("code",.number (ReferenceNumber.ofInt error.code.toInt)),("message",.string error.message)] ++
    (error.data.map (fun data => ("data",data))).toList)

def member (members : List (String × Json)) (name : String) : Option Json :=
  (Json.Record.lookup members name).join

def readError : Json → Option ServerError
  | .object members =>
    match member members "code",member members "message" with
    | some (.number token),some (.string message) => (ReferenceNumber.toInt token).bind (fun n =>
      if (Int64.ofInt n).toInt = n then some ⟨Int64.ofInt n,message,match member members "data" with
        | some .null => none
        | data => data⟩
      else none)
    | _,_ => none
  | _ => none

def readEnvelope : Json → Option (Id × Except ServerError Json)
  | .object members =>
    match member members "jsonrpc",member members "id" with
    | some (.string "2.0"),some id => (readId id).bind (fun id =>
      match member members "result",member members "error" with
      | some value,none => some (id,.ok value)
      | none,some error => (readError error).map (fun error => (id,.error error))
      | _,_ => none)
    | _,_ => none
  | _ => none

def envelope (id : Id) (result : Except ServerError Json) : Json :=
  .object [("jsonrpc",.string "2.0"),("id",idJson id),
    match result with
    | .ok value => ("result",value)
    | .error error => ("error",errorJson error)]

def spaced (space : List Char) (id : Id) (result : Except ServerError Json) : List UInt8 :=
  Text.utf8 (String.ofList (space ++ (envelope id result).print))

def reference : JsonRpcWire where
  read body := (Text.ofUtf8 body).bind (fun text => (Json.parse text.toList).bind readEnvelope)
  write := spaced []
  toVec json := Text.utf8 (String.ofList json.print)

theorem readId_idJson (id : Id) : readId (idJson id) = some id := by
  cases id with
  | number value =>
    have fits : UInt64.ofNat (value.toNat : ℤ).toNat = value := by simp
    simp only [idJson,readId,ReferenceNumber.toInt_ofInt,Option.bind_some,fits,if_true]
  | string value => rfl
  | null => rfl

/-- An error whose data is not the value `null`. -/
def Canonical (error : ServerError) : Prop := error.data ≠ some .null

private theorem readError_errorJson {error : ServerError} (canonical : Canonical error) :
    readError (errorJson error) = some error := by
  obtain ⟨code,message,data⟩ := error
  cases data with
  | none => simp [readError,errorJson,member,Json.Record.lookup]
  | some data => cases data <;> simp_all [readError,errorJson,member,Json.Record.lookup,Canonical]

private theorem readEnvelope_ok (id : Id) (value : Json) :
    readEnvelope (envelope id (.ok value)) = some (id,.ok value) := by
  simp [readEnvelope,envelope,member,Json.Record.lookup,readId_idJson]

private theorem readEnvelope_error (id : Id) {error : ServerError} (canonical : Canonical error) :
    readEnvelope (envelope id (.error error)) = some (id,.error error) := by
  simp [readEnvelope,envelope,member,Json.Record.lookup,readId_idJson,readError_errorJson canonical]

private theorem canonical_of_readError {json : Json} {error : ServerError}
    (read : readError json = some error) : Canonical error := by
  unfold readError at read
  split at read
  · split at read
    · obtain ⟨n,_,read⟩ := Option.bind_eq_some_iff.mp read
      split at read
      · obtain rfl := Option.some.inj read
        unfold Canonical
        simp only
        split
        · exact nofun
        · assumption
      · cases read
    · cases read
  · cases read

private theorem canonical_of_readEnvelope {json : Json} {id : Id} {error : ServerError}
    (read : readEnvelope json = some (id,.error error)) : Canonical error := by
  unfold readEnvelope at read
  split at read
  · split at read
    · obtain ⟨given,_,read⟩ := Option.bind_eq_some_iff.mp read
      split at read
      · cases read
      · obtain ⟨same,parsed,equal⟩ := Option.map_eq_some_iff.mp read
        cases equal
        exact canonical_of_readError parsed
      · cases read
    · cases read
  · cases read

theorem reference_read_spaced {space : List Char} (blank : ∀ c ∈ space, Json.isSpace c = true) (id : Id)
    (result : Except ServerError Json) : reference.read (spaced space id result) = readEnvelope (envelope id result) := by
  simp [reference,spaced,Json.parse_spaced _ blank]

theorem spaced_inj {space other : List Char} {id : Id} {result : Except ServerError Json}
    (same : spaced space id result = spaced other id result) : space = other :=
  List.append_cancel_right (String.ofList_injective (Text.utf8_injective same))

theorem reference_read_write (id : Id) (result : Except ServerError Json) :
    reference.read (reference.write id result) = readEnvelope (envelope id result) :=
  reference_read_spaced (by simp) id result

theorem reference_response_spaced {α : Type} {format : Json.Format α} {space : List Char}
    (blank : ∀ c ∈ space, Json.isSpace c = true) (id : Id) {value : α}
    (back : format.decode (format.encode value) = some value) :
    reference.response format (spaced space id (.ok (format.encode value))) = some (id,.ok value) := by
  simp [response,reference_read_spaced blank,readEnvelope_ok,back]

theorem reference_read_write_error (id : Id) {error : ServerError} (canonical : Canonical error) :
    reference.read (reference.write id (.error error)) = some (id,.error error) := by
  rw [reference_read_write,readEnvelope_error id canonical]

theorem reference_lawful : reference.Lawful where
  read_write_ok id value _ := by rw [reference_read_write,readEnvelope_ok]
  read_write_error bytes id error read := by
    obtain ⟨text,_,read⟩ := Option.bind_eq_some_iff.mp read
    obtain ⟨json,_,read⟩ := Option.bind_eq_some_iff.mp read
    exact reference_read_write_error id (canonical_of_readEnvelope read)
  toVec_injective a b same := by
    have texts := String.ofList_injective (Text.utf8_injective same)
    have parsed : some a = some b := by rw [← Json.parse_print a,← Json.parse_print b,texts]
    exact Option.some.inj parsed

end JsonRpcWire

namespace WireText

def hexDigits (bytes : List UInt8) : List Char :=
  bytes.flatMap (fun byte => [Json.hexDigit (byte.toNat/16),Json.hexDigit (byte.toNat%16)])

def readHex : List Char → Option (List UInt8)
  | [] => some []
  | [_] => none
  | high::low::rest =>
    match Json.hexValue high,Json.hexValue low with
    | some high,some low => (readHex rest).map (fun bytes => UInt8.ofNat (high*16+low)::bytes)
    | _,_ => none

def readQuantity (digits : List Char) : Option (BitVec 256) :=
  match digits.mapM Json.hexValue with
  | some values =>
    let value := Nat.ofDigits 16 values.reverse
    if values ≠ [] ∧ value < 2^256 then some (BitVec.ofNat 256 value) else none
  | none => none

def quantityDigits (value : BitVec 256) : List Char :=
  if value = 0 then ['0'] else (Nat.digits 16 value.toNat).reverse.map Json.hexDigit

def strip (text : String) : Option String :=
  match text.toList with
  | '0':: 'x'::digits => some (String.ofList digits)
  | _ => none

/-- Texts as the crates write them, where no token stands for a floating point
number. -/
def reference : WireText where
  hexEncode bytes := String.ofList (hexDigits bytes)
  fromHexVec digits := readHex digits.toList
  fromHexArray n digits := (readHex digits.toList).bind (fun bytes =>
    if size : bytes.length = n then some ⟨bytes,size⟩ else none)
  withPrefix digits := String.ofList ('0':: 'x'::digits.toList)
  stripPrefix := strip
  printU256 value := String.ofList ('0':: 'x'::quantityDigits value)
  parseU256 text := match strip text with
    | some digits => readQuantity digits.toList
    | none => text.toNat?.bind (fun value => if value < 2^256 then some (BitVec.ofNat 256 value) else none)
  printF64 _ := none
  parseF64 _ := none

private theorem hexValue_hexDigit : ∀ n < 16, Json.hexValue (Json.hexDigit n) = some n := by decide

private theorem readHex_hexDigits (bytes : List UInt8) : readHex (hexDigits bytes) = some bytes := by
  induction bytes with
  | nil => rfl
  | cons byte bytes ih =>
    have small := byte.toNat_lt
    have high := hexValue_hexDigit (byte.toNat/16) (by omega)
    have low := hexValue_hexDigit (byte.toNat%16) (by omega)
    have whole : byte.toNat/16*16+byte.toNat%16 = byte.toNat := by omega
    unfold hexDigits at ih
    simp [hexDigits,readHex,high,low,whole,ih]

private theorem utf8Size_hexDigit : ∀ n < 16, (Json.hexDigit n).utf8Size = 1 := by decide

private theorem utf8Len_hexDigits (bytes : List UInt8) : String.utf8Len (hexDigits bytes) = 2*bytes.length := by
  induction bytes with
  | nil => rfl
  | cons byte bytes ih =>
    have small := byte.toNat_lt
    have high := utf8Size_hexDigit (byte.toNat/16) (by omega)
    have low := utf8Size_hexDigit (byte.toNat%16) (by omega)
    unfold hexDigits at ih
    simp [hexDigits,high,low,ih]
    omega

private theorem mapM_hexValue {digits : List ℕ} (small : ∀ d ∈ digits, d < 16) :
    (digits.map Json.hexDigit).mapM Json.hexValue = some digits := by
  induction digits with
  | nil => rfl
  | cons d digits ih =>
    simp [hexValue_hexDigit d (small d (by simp)),ih (fun e inside => small e (by simp [inside]))]

private theorem readQuantity_quantityDigits (value : BitVec 256) :
    readQuantity (quantityDigits value) = some value := by
  unfold quantityDigits
  split
  · subst value
    decide
  · rename_i positive
    have digits : Nat.digits 16 value.toNat ≠ [] := by
      rw [Nat.digits_ne_nil_iff_ne_zero]
      exact fun zero => positive (BitVec.eq_of_toNat_eq zero)
    have small : ∀ d ∈ (Nat.digits 16 value.toNat).reverse, d < 16 :=
      fun d inside => Nat.digits_lt_base (by omega) (List.mem_reverse.mp inside)
    have fits := value.isLt
    simp only [readQuantity,mapM_hexValue small,List.reverse_reverse,Nat.ofDigits_digits]
    rw [if_pos ⟨by simpa using digits,fits⟩]
    simp

theorem reference_lawful : reference.Lawful where
  hexEncode_size bytes := by
    simp only [reference,String.utf8ByteSize_ofList]
    exact utf8Len_hexDigits bytes
  fromHexVec_hexEncode bytes := by simp [reference,readHex_hexDigits]
  fromHexArray_hexEncode n bytes := by
    obtain ⟨bytes,size⟩ := bytes
    simp [reference,readHex_hexDigits,size]
  stripPrefix_withPrefix digits := by simp [reference,strip]
  parseU256_printU256 value := by simp [reference,strip,readQuantity_quantityDigits]
  parseF64_printF64 token value read := by cases read

end WireText
end EvmRpc
