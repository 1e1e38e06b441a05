import Mathlib.Data.String.Basic
import EvmRpc.Library.Hex
import EvmRpc.Library.Text
import EvmRpc.RpcClient.Responses

/-! Hex strings as text: the types of the Candid interface, and the byte arrays of
the JSON types, which have a parser of their own. -/
namespace EvmRpc
open Library

/-- What the `hex` crate writes and reads. Errors are given by their texts. -/
structure HexCrate where
  encode : List UInt8 → String
  decode : String → Except String (List UInt8)
  decodeArray : (n : ℕ) → String → Except String (Bytes n)

namespace HexCrate

/-- Bytes are written in lower case, and exactly pairs of digits are read, as many
as there is room for. -/
structure Lawful (crate : HexCrate) : Prop where
  encode : ∀ bytes, crate.encode bytes = String.ofList (Hex.write bytes)
  decode : ∀ text bytes, crate.decode text = .ok bytes ↔ Hex.read text.toList = some bytes
  decodeArray : ∀ n text (bytes : Bytes n), crate.decodeArray n text = .ok bytes ↔ Hex.read text.toList = some bytes.1

def reference : HexCrate where
  encode bytes := String.ofList (Hex.write bytes)
  decode text :=
    match Hex.read text.toList with
    | some bytes => .ok bytes
    | none => .error (if text.toList.length % 2 = 0 then "Invalid character" else "Odd number of digits")
  decodeArray n text :=
    match Hex.read text.toList with
    | some bytes => if size : bytes.length = n then .ok ⟨bytes,size⟩ else .error "Invalid string length"
    | none => .error (if text.toList.length % 2 = 0 then "Invalid character" else "Odd number of digits")

theorem reference_lawful : reference.Lawful where
  encode _ := rfl
  decode text bytes := by
    cases read : Hex.read text.toList <;> simp [reference,read]
  decodeArray n text bytes := by
    cases read : Hex.read text.toList with
    | none => simp [reference,read]
    | some found =>
      simp only [reference,read,Option.some.injEq]
      split
      · rw [Except.ok.injEq,Subtype.ext_iff]
      · rename_i other
        constructor
        · intro impossible
          cases impossible
        · intro same
          exact absurd (same ▸ bytes.2) other

end HexCrate

/-- `FromHex` and `AsRef<[u8]>` of the data inside of a hex string. -/
structure HexData (α : Type) where
  fromHex : String → Except String α
  asRef : α → List UInt8

section Macros
variable (crate : HexCrate)

/-- `Byte::from_hex`: a single digit gets a leading zero. -/
def Byte.fromHex (hex : String) : Except String Byte :=
  let padded := if hex.utf8ByteSize = 1 then "0" ++ hex else hex
  (crate.decodeArray 1 padded).map (fun bytes => ⟨bytes.1.headD 0⟩)

def byteData : HexData Byte := ⟨Byte.fromHex crate,fun byte => [byte.intoByte]⟩
def arrayData (n : ℕ) : HexData (Bytes n) := ⟨crate.decodeArray n,fun bytes => bytes.1⟩
def vecData : HexData (List UInt8) := ⟨crate.decode,fun bytes => bytes⟩

/-- `from_str` of `impl_hex_string`. -/
def HexString.fromStr {α : Type} (data : HexData α) (s : String) : Outcome (Except String (HexString α)) :=
  if !Text.startsWith s "0x" then .done (.error "Ethereum hex string doesn't start with 0x")
  else do
    let digits ← Text.sliceFrom s 2
    .done (match data.fromHex digits with
      | .ok value => .ok ⟨value⟩
      | .error e => .error ("Invalid Ethereum hex string: " ++ e))

def HexString.toString {α : Type} (data : HexData α) (value : HexString α) : String :=
  "0x" ++ crate.encode (data.asRef value.data)

def HexByte.fromStr : String → Outcome (Except String HexByte) := HexString.fromStr (byteData crate)
def Hex20.fromStr : String → Outcome (Except String Hex20) := HexString.fromStr (arrayData crate 20)
def Hex32.fromStr : String → Outcome (Except String Hex32) := HexString.fromStr (arrayData crate 32)
def Hex256.fromStr : String → Outcome (Except String Hex256) := HexString.fromStr (arrayData crate 256)
def Hex.fromStr : String → Outcome (Except String Hex) := HexString.fromStr (vecData crate)

/-- `from_str` of `bytes_array`. -/
def Json.BytesArray.fromStr (n : ℕ) (s : String) : Outcome (Except String (Json.BytesArray n)) :=
  if !Text.startsWith s "0x" then .done (.error "Ethereum hex string doesn't start with 0x")
  else do
    let digits ← Text.sliceFrom s 2
    .done (match crate.decodeArray n digits with
      | .ok bytes => .ok ⟨bytes⟩
      | .error e => .error ("failed to decode hash from hex: " ++ e))

def Json.FixedSizeData.fromStr : String → Outcome (Except String Json.FixedSizeData) := Json.BytesArray.fromStr crate 32
def Json.Hash.fromStr : String → Outcome (Except String Json.Hash) := Json.BytesArray.fromStr crate 32
def Json.LogsBloom.fromStr : String → Outcome (Except String Json.LogsBloom) := Json.BytesArray.fromStr crate 256
def Json.StorageKey.fromStr : String → Outcome (Except String Json.StorageKey) := Json.BytesArray.fromStr crate 32

end Macros
/-- Exactly the prefixed digits of an admissible number are read, no text traps, and
what was read is shown in lower case, which reads as the same value again. -/
structure ParsesHex {α : Type} (parse : String → Outcome (Except String α)) (display : α → String)
    (sized : ℕ → Prop) (padded : List Char → List Char) : Prop where
  total : ∀ s, ∃ result, parse s = .done result
  accepts : ∀ s, (∃ value, parse s = .done (.ok value)) ↔
    ∃ digits, s.toList = '0':: 'x'::digits ∧ (∀ c ∈ digits, Hex.IsDigit c) ∧ sized digits.length
  display_parse : ∀ s digits value, s.toList = '0':: 'x'::digits → parse s = .done (.ok value) →
    (display value).toList = '0':: 'x'::Hex.lower (padded digits)
  parse_display : ∀ value, parse (display value) = .done (.ok value)

/-- The same for the digits alone. -/
structure HexData.Lawful {α : Type} (data : HexData α) (sized : ℕ → Prop) (padded : List Char → List Char) : Prop where
  fromHex : ∀ digits, (∃ value, data.fromHex (String.ofList digits) = .ok value) ↔
    (∀ c ∈ digits, Hex.IsDigit c) ∧ sized digits.length
  write : ∀ digits value, data.fromHex (String.ofList digits) = .ok value →
    Hex.write (data.asRef value) = Hex.lower (padded digits)
  read : ∀ value, data.fromHex (String.ofList (Hex.write (data.asRef value))) = .ok value

section Prefix

theorem startsWith_0x {s : String} : Text.startsWith s "0x" = true ↔ ∃ digits, s.toList = '0':: 'x'::digits := by
  unfold Text.startsWith
  rw [List.isPrefixOf_iff_prefix]
  constructor
  · rintro ⟨digits,whole⟩
    exact ⟨digits,whole.symm⟩
  · rintro ⟨digits,whole⟩
    exact ⟨digits,whole.symm⟩

/-- Behind the prefix there is a character boundary. -/
theorem sliceFrom_0x {s : String} {digits : List Char} (whole : s.toList = '0':: 'x'::digits) :
    Text.sliceFrom s 2 = .done (String.ofList digits) := by
  have zero : '0'.utf8Size = 1 := by decide
  have x : 'x'.utf8Size = 1 := by decide
  rw [Text.sliceFrom,whole,Text.dropBytes_ascii zero,Text.dropBytes_ascii x,Text.dropBytes]
  rfl

variable {crate : HexCrate} {α : Type} {data : HexData α} {s : String} {digits : List Char}

theorem HexString.fromStr_0x (whole : s.toList = '0':: 'x'::digits) :
    HexString.fromStr data s = .done (match data.fromHex (String.ofList digits) with
      | .ok value => .ok ⟨value⟩
      | .error e => .error ("Invalid Ethereum hex string: " ++ e)) := by
  rw [HexString.fromStr,startsWith_0x.mpr ⟨digits,whole⟩,sliceFrom_0x whole]
  rfl

theorem HexString.fromStr_other (other : ¬ ∃ digits, s.toList = '0':: 'x'::digits) :
    HexString.fromStr data s = .done (.error "Ethereum hex string doesn't start with 0x") := by
  have start : Text.startsWith s "0x" = false := by
    rw [← Bool.not_eq_true,startsWith_0x]
    exact other
  rw [HexString.fromStr,start]
  rfl

theorem HexString.fromStr_eq_ok {value : HexString α} : HexString.fromStr data s = .done (.ok value) ↔
    ∃ digits, s.toList = '0':: 'x'::digits ∧ data.fromHex (String.ofList digits) = .ok value.data := by
  by_cases start : ∃ digits, s.toList = '0':: 'x'::digits
  · obtain ⟨digits,whole⟩ := start
    have single (other : List Char) : s.toList = '0':: 'x'::other ↔ other = digits := by
      rw [whole]
      simp [eq_comm]
    simp only [single,exists_eq_left,HexString.fromStr_0x whole]
    cases data.fromHex (String.ofList digits) with
    | error e => simp
    | ok read =>
      obtain ⟨value⟩ := value
      simp
  · rw [HexString.fromStr_other start]
    constructor
    · intro impossible
      cases impossible
    · rintro ⟨digits,whole,_⟩
      exact absurd ⟨digits,whole⟩ start

theorem HexString.fromStr_total (data : HexData α) (s : String) : ∃ result, HexString.fromStr data s = .done result := by
  by_cases start : ∃ digits, s.toList = '0':: 'x'::digits
  · exact ⟨_,HexString.fromStr_0x start.choose_spec⟩
  · exact ⟨_,HexString.fromStr_other start⟩

theorem HexString.toString_toList (lawful : crate.Lawful) (value : HexString α) :
    (HexString.toString crate data value).toList = '0':: 'x'::Hex.write (data.asRef value.data) := by
  rw [HexString.toString,lawful.encode,String.toList_append,String.toList_ofList (l := Hex.write _)]
  rfl

theorem HexString.parsesHex (lawful : crate.Lawful) {sized : ℕ → Prop} {padded : List Char → List Char}
    (digitwise : data.Lawful sized padded) :
    ParsesHex (HexString.fromStr data) (HexString.toString crate data) sized padded where
  total := HexString.fromStr_total data
  accepts s := by
    simp only [HexString.fromStr_eq_ok]
    constructor
    · rintro ⟨value,digits,whole,read⟩
      exact ⟨digits,whole,(digitwise.fromHex digits).mp ⟨value.data,read⟩⟩
    · rintro ⟨digits,whole,admissible⟩
      obtain ⟨value,read⟩ := (digitwise.fromHex digits).mpr admissible
      exact ⟨⟨value⟩,digits,whole,read⟩
  display_parse s digits value whole parsed := by
    obtain ⟨others,same,read⟩ := HexString.fromStr_eq_ok.mp parsed
    have equal : others = digits := by simpa [whole,eq_comm] using same
    rw [HexString.toString_toList lawful,digitwise.write _ _ read,equal]
  parse_display value :=
    HexString.fromStr_eq_ok.mpr ⟨_,HexString.toString_toList lawful value,digitwise.read value.data⟩

end Prefix

section Data
variable {crate : HexCrate}

theorem arrayData_lawful (lawful : crate.Lawful) (n : ℕ) :
    (arrayData crate n).Lawful (fun length => length = 2*n) (fun digits => digits) where
  fromHex digits := by
    rw [and_comm,← Hex.read_iff]
    simp only [arrayData,lawful.decodeArray,String.toList_ofList]
    constructor
    · rintro ⟨bytes,read⟩
      exact ⟨bytes.1,read,bytes.2⟩
    · rintro ⟨bytes,read,size⟩
      exact ⟨⟨bytes,size⟩,read⟩
  write digits bytes read := by
    have found := (lawful.decodeArray n _ bytes).mp read
    rw [String.toList_ofList] at found
    exact Hex.write_of_read found
  read bytes := by
    refine (lawful.decodeArray n _ bytes).mpr ?_
    rw [String.toList_ofList]
    exact Hex.read_write bytes.1

theorem vecData_lawful (lawful : crate.Lawful) :
    (vecData crate).Lawful (fun length => length % 2 = 0) (fun digits => digits) where
  fromHex digits := by
    simp only [vecData,lawful.decode,String.toList_ofList]
    constructor
    · rintro ⟨bytes,read⟩
      exact ⟨Hex.isDigit_of_read read,by rw [Hex.length_of_read read,Nat.mul_mod_right]⟩
    · exact fun admissible => Hex.read_of_isDigit admissible.2 admissible.1
  write digits bytes read := by
    have found := (lawful.decode _ bytes).mp read
    rw [String.toList_ofList] at found
    exact Hex.write_of_read found
  read bytes := by
    refine (lawful.decode _ bytes).mpr ?_
    rw [String.toList_ofList]
    exact Hex.read_write bytes

def paddedByte (digits : List Char) : List Char := if digits.length = 1 then '0'::digits else digits

private theorem not_digit_of_wide {c : Char} {rest : List Char} {bytes : List UInt8} (wide : c.utf8Size ≠ 1) :
    Hex.read ('0'::c::rest) ≠ some bytes := by
  intro read
  exact wide (Hex.utf8Size_of_isDigit (Hex.isDigit_of_read read c (by simp)))

/-- Which texts are a single byte matters for digits only. -/
private theorem read_padded {digits : List Char} {bytes : List UInt8} :
    Hex.read (if String.utf8Len digits = 1 then '0'::digits else digits) = some bytes ↔
      Hex.read (paddedByte digits) = some bytes := by
  rcases digits with _ | ⟨c,_ | ⟨d,rest⟩⟩
  · rfl
  · by_cases narrow : c.utf8Size = 1
    · simp [paddedByte,narrow]
    · have wide : String.utf8Len [c] ≠ 1 := by simpa using narrow
      rw [if_neg wide,paddedByte,if_pos List.length_singleton]
      constructor
      · intro impossible
        cases impossible
      · exact fun read => absurd read (not_digit_of_wide narrow)
  · have positive := c.utf8Size_pos
    have positive' := d.utf8Size_pos
    have several : String.utf8Len (c::d::rest) ≠ 1 := by
      rw [String.utf8Len_cons,String.utf8Len_cons]
      omega
    have two : (c::d::rest).length ≠ 1 := by simp
    rw [if_neg several,paddedByte,if_neg two]

private theorem bytes_one (bytes : Bytes 1) : bytes.1 = [bytes.1.headD 0] := by
  obtain ⟨bytes,size⟩ := bytes
  obtain ⟨byte,rfl⟩ := List.length_eq_one_iff.mp size
  rfl

theorem Byte.fromHex_eq_ok (lawful : crate.Lawful) {digits : List Char} {byte : Byte} :
    Byte.fromHex crate (String.ofList digits) = .ok byte ↔ Hex.read (paddedByte digits) = some [byte.intoByte] := by
  have padded : (if (String.ofList digits).utf8ByteSize = 1 then "0" ++ String.ofList digits
      else String.ofList digits).toList = if String.utf8Len digits = 1 then '0'::digits else digits := by
    rw [String.utf8ByteSize_ofList]
    split
    · rw [String.toList_append,String.toList_ofList (l := digits)]
      rfl
    · rw [String.toList_ofList]
  rw [← read_padded,← padded,Byte.fromHex]
  constructor
  · intro done
    cases decoded : crate.decodeArray 1 (if (String.ofList digits).utf8ByteSize = 1 then "0" ++ String.ofList digits
        else String.ofList digits) with
    | error e =>
      rw [decoded] at done
      cases done
    | ok bytes =>
      rw [decoded] at done
      cases done
      rw [← bytes_one]
      exact (lawful.decodeArray _ _ _).mp decoded
  · intro read
    have decoded := (lawful.decodeArray 1 _ ⟨[byte.intoByte],rfl⟩).mpr read
    rw [decoded]
    rfl

theorem byteData_lawful (lawful : crate.Lawful) :
    (byteData crate).Lawful (fun length => length = 1 ∨ length = 2) paddedByte where
  fromHex digits := by
    simp only [byteData,Byte.fromHex_eq_ok lawful]
    have zero : Hex.IsDigit '0' := .inl (by decide)
    constructor
    · rintro ⟨byte,read⟩
      have length := Hex.length_of_read read
      have all := Hex.isDigit_of_read read
      unfold paddedByte at length all
      split at all
      · rename_i single
        exact ⟨fun c inside => all c (by simp [inside]),.inl single⟩
      · rename_i several
        rw [if_neg several] at length
        exact ⟨all,.inr length⟩
    · rintro ⟨all,sized⟩
      have two : (paddedByte digits).length = 2*1 := by
        unfold paddedByte
        rcases sized with single | double
        · simp [single]
        · simp [double]
      have digit : ∀ c ∈ paddedByte digits, Hex.IsDigit c := by
        unfold paddedByte
        split
        · exact List.forall_mem_cons.mpr ⟨zero,all⟩
        · exact all
      obtain ⟨bytes,read,size⟩ := Hex.read_iff.mpr ⟨two,digit⟩
      obtain ⟨byte,rfl⟩ := List.length_eq_one_iff.mp size
      exact ⟨⟨byte⟩,read⟩
  write digits byte read := Hex.write_of_read ((Byte.fromHex_eq_ok lawful).mp read)
  read byte := by
    refine (Byte.fromHex_eq_ok lawful).mpr ?_
    have two : (Hex.write [byte.intoByte]).length ≠ 1 := by simp
    change Hex.read (paddedByte (Hex.write [byte.intoByte])) = _
    rw [paddedByte,if_neg two,Hex.read_write]

theorem Json.BytesArray.fromStr_eq_ok {n : ℕ} {s : String} {bytes : Bytes n} :
    Json.BytesArray.fromStr crate n s = .done (.ok ⟨bytes⟩) ↔
      HexString.fromStr (arrayData crate n) s = .done (.ok ⟨bytes⟩) := by
  unfold Json.BytesArray.fromStr HexString.fromStr
  cases Text.startsWith s "0x" with
  | false => simp
  | true =>
    cases Text.sliceFrom s 2 with
    | trap message => simp
    | done digits => cases decoded : crate.decodeArray n digits <;> simp [arrayData,decoded]

theorem Json.BytesArray.fromStr_total {n : ℕ} (s : String) :
    ∃ result, Json.BytesArray.fromStr crate n s = .done result := by
  by_cases start : ∃ digits, s.toList = '0':: 'x'::digits
  · rw [Json.BytesArray.fromStr,startsWith_0x.mpr start,sliceFrom_0x start.choose_spec]
    exact ⟨_,rfl⟩
  · have other : Text.startsWith s "0x" = false := by
      rw [← Bool.not_eq_true,startsWith_0x]
      exact start
    rw [Json.BytesArray.fromStr,other]
    exact ⟨_,rfl⟩

end Data

/-- The byte arrays of the JSON types accept the texts of the hex string of their size,
and yield its bytes. -/
structure ParsesAlike {n : ℕ} (parse : String → Outcome (Except String (Json.BytesArray n)))
    (twin : String → Outcome (Except String (HexString (Bytes n)))) : Prop where
  total : ∀ s, ∃ result, parse s = .done result
  same : ∀ s bytes, parse s = .done (.ok ⟨bytes⟩) ↔ twin s = .done (.ok ⟨bytes⟩)

/-- Every kind of hex string is parsed exactly and shown so that it is read again. -/
theorem hexStrings_parse_exactly {crate : HexCrate} (lawful : crate.Lawful) :
    ParsesHex (HexByte.fromStr crate) (HexString.toString crate (byteData crate))
      (fun length => length = 1 ∨ length = 2) paddedByte ∧
    ParsesHex (Hex20.fromStr crate) (HexString.toString crate (arrayData crate 20))
      (fun length => length = 2*20) (fun digits => digits) ∧
    ParsesHex (Hex32.fromStr crate) (HexString.toString crate (arrayData crate 32))
      (fun length => length = 2*32) (fun digits => digits) ∧
    ParsesHex (Hex256.fromStr crate) (HexString.toString crate (arrayData crate 256))
      (fun length => length = 2*256) (fun digits => digits) ∧
    ParsesHex (Hex.fromStr crate) (HexString.toString crate (vecData crate))
      (fun length => length % 2 = 0) (fun digits => digits) ∧
    ParsesAlike (Json.Hash.fromStr crate) (Hex32.fromStr crate) ∧
    ParsesAlike (Json.FixedSizeData.fromStr crate) (Hex32.fromStr crate) ∧
    ParsesAlike (Json.StorageKey.fromStr crate) (Hex32.fromStr crate) ∧
    ParsesAlike (Json.LogsBloom.fromStr crate) (Hex256.fromStr crate) := by
  have alike (n : ℕ) : ParsesAlike (Json.BytesArray.fromStr crate n) (HexString.fromStr (arrayData crate n)) :=
    ⟨Json.BytesArray.fromStr_total,fun _ _ => Json.BytesArray.fromStr_eq_ok⟩
  have array (n : ℕ) := HexString.parsesHex lawful (arrayData_lawful lawful n)
  exact ⟨HexString.parsesHex lawful (byteData_lawful lawful),array 20,array 32,array 256,
    HexString.parsesHex lawful (vecData_lawful lawful),alike 32,alike 32,alike 32,alike 256⟩

theorem hexByte_parses_exactly_reference :
    ParsesHex (HexByte.fromStr .reference) (HexString.toString .reference (byteData .reference))
      (fun length => length = 1 ∨ length = 2) paddedByte :=
  (hexStrings_parse_exactly HexCrate.reference_lawful).1

end EvmRpc
