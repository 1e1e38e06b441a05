import EvmRpc.Library.JsonText

/-! Byte strings as hexadecimal text, two digits for each byte. Letters are written
in lower case and read in either. -/
namespace Library.Hex
open Json (hexDigit hexValue)

def IsDigit (c : Char) : Prop := ('0' ≤ c ∧ c ≤ '9') ∨ ('a' ≤ c ∧ c ≤ 'f') ∨ ('A' ≤ c ∧ c ≤ 'F')

def write (bytes : List UInt8) : List Char :=
  bytes.flatMap (fun byte => [hexDigit (byte.toNat/16),hexDigit (byte.toNat%16)])

def readPair (high low : Char) : Option UInt8 := do
  let high ← hexValue high
  let low ← hexValue low
  some (UInt8.ofNat (high*16+low))

def read : List Char → Option (List UInt8)
  | [] => some []
  | [_] => none
  | high::low::rest => do
    let byte ← readPair high low
    let bytes ← read rest
    some (byte::bytes)

def lower (digits : List Char) : List Char := digits.map Char.toLower

theorem hexValue_eq_none {c : Char} : hexValue c = none ↔ ¬ IsDigit c := by
  unfold hexValue IsDigit
  split
  · rename_i decimal
    simp [decimal]
  · rename_i decimal
    split
    · rename_i small
      simp [small]
    · rename_i small
      split
      · rename_i capital
        simp [capital]
      · rename_i capital
        simp only [decimal,small,capital,or_self,not_false_eq_true]

theorem hexValue_of_isDigit {c : Char} (digit : IsDigit c) : ∃ value, hexValue c = some value := by
  refine Option.ne_none_iff_exists'.mp (fun none => ?_)
  exact hexValue_eq_none.mp none digit

theorem isDigit_of_hexValue {c : Char} {value : ℕ} (read : hexValue c = some value) : IsDigit c := by
  by_contra other
  rw [hexValue_eq_none.mpr other] at read
  cases read

private theorem toNat_lt_of_isDigit {c : Char} (digit : IsDigit c) : c.toNat < 128 := by
  have below {a b : Char} (le : a ≤ b) : a.toNat ≤ b.toNat := le
  rcases digit with range | range | range
  · exact Nat.lt_of_le_of_lt (below range.2) (by decide)
  · exact Nat.lt_of_le_of_lt (below range.2) (by decide)
  · exact Nat.lt_of_le_of_lt (below range.2) (by decide)

private theorem ascii_values : ∀ code < 128, (hexValue (Char.ofNat code)).all
    (fun value => value < 16 && (Char.ofNat code).toLower == hexDigit value) = true := by decide

/-- The value of a digit is that of its lower case, which is how the value is written. -/
theorem hexValue_spec {c : Char} {value : ℕ} (read : hexValue c = some value) :
    value < 16 ∧ c.toLower = hexDigit value := by
  have checked := ascii_values c.toNat (toNat_lt_of_isDigit (isDigit_of_hexValue read))
  rw [Char.ofNat_toNat,read] at checked
  simpa using checked

theorem hexValue_hexDigit : ∀ value < 16, hexValue (hexDigit value) = some value := by decide

theorem utf8Size_of_isDigit {c : Char} (digit : IsDigit c) : c.utf8Size = 1 :=
  Char.utf8Size_eq_one_iff.mpr (Nat.le_of_lt_succ (toNat_lt_of_isDigit digit))

theorem readPair_hexDigit (byte : UInt8) : readPair (hexDigit (byte.toNat/16)) (hexDigit (byte.toNat%16)) = some byte := by
  have small := byte.toNat_lt
  have whole : byte.toNat/16*16+byte.toNat%16 = byte.toNat := by omega
  simp only [readPair,hexValue_hexDigit (byte.toNat/16) (by omega),hexValue_hexDigit (byte.toNat%16) (by omega),
    Option.bind_eq_bind,Option.bind_some,whole,UInt8.ofNat_toNat]

theorem readPair_eq_some {high low : Char} {byte : UInt8} (pair : readPair high low = some byte) :
    high.toLower = hexDigit (byte.toNat/16) ∧ low.toLower = hexDigit (byte.toNat%16) := by
  simp only [readPair,Option.bind_eq_bind,Option.bind_eq_some_iff,Option.some.injEq] at pair
  obtain ⟨first,left,second,right,rfl⟩ := pair
  obtain ⟨small,upper⟩ := hexValue_spec left
  obtain ⟨small',lower⟩ := hexValue_spec right
  have value : (UInt8.ofNat (first*16+second)).toNat = first*16+second :=
    UInt8.toNat_ofNat_of_lt' (by change _ < 256; omega)
  rw [value,upper,lower]
  exact ⟨congrArg hexDigit (by omega),congrArg hexDigit (by omega)⟩

@[simp] theorem write_cons (byte : UInt8) (bytes : List UInt8) :
    write (byte::bytes) = hexDigit (byte.toNat/16)::hexDigit (byte.toNat%16)::write bytes := rfl

@[simp] theorem length_write (bytes : List UInt8) : (write bytes).length = 2*bytes.length := by
  induction bytes with
  | nil => rfl
  | cons byte bytes ih =>
    simp only [write_cons,List.length_cons,ih]
    omega

theorem read_write (bytes : List UInt8) : read (write bytes) = some bytes := by
  induction bytes with
  | nil => rfl
  | cons byte bytes ih => simp only [write_cons,read,readPair_hexDigit,ih,Option.bind_eq_bind,Option.bind_some]

theorem read_cons_eq_some {high low : Char} {rest : List Char} {bytes : List UInt8}
    (done : read (high::low::rest) = some bytes) :
    ∃ byte others, readPair high low = some byte ∧ read rest = some others ∧ bytes = byte::others := by
  simp only [read,Option.bind_eq_bind,Option.bind_eq_some_iff,Option.some.injEq] at done
  obtain ⟨byte,pair,others,later,rfl⟩ := done
  exact ⟨byte,others,pair,later,rfl⟩

/-- What was read is written in lower case. -/
theorem write_of_read {digits : List Char} {bytes : List UInt8} (done : read digits = some bytes) :
    write bytes = lower digits := by
  induction digits using read.induct generalizing bytes with
  | case1 =>
    cases done
    rfl
  | case2 => cases done
  | case3 high low rest ih =>
    obtain ⟨byte,others,pair,later,rfl⟩ := read_cons_eq_some done
    obtain ⟨upper,below⟩ := readPair_eq_some pair
    rw [write_cons,ih later,← upper,← below]
    rfl

theorem length_of_read {digits : List Char} {bytes : List UInt8} (done : read digits = some bytes) :
    digits.length = 2*bytes.length := by
  rw [← length_write,write_of_read done,lower,List.length_map]

theorem isDigit_of_read {digits : List Char} {bytes : List UInt8} (done : read digits = some bytes) :
    ∀ c ∈ digits, IsDigit c := by
  induction digits using read.induct generalizing bytes with
  | case1 =>
    intro c impossible
    cases impossible
  | case2 => cases done
  | case3 high low rest ih =>
    obtain ⟨byte,others,pair,later,_⟩ := read_cons_eq_some done
    simp only [readPair,Option.bind_eq_bind,Option.bind_eq_some_iff] at pair
    obtain ⟨_,first,_,second,_⟩ := pair
    exact List.forall_mem_cons.mpr ⟨isDigit_of_hexValue first,
      List.forall_mem_cons.mpr ⟨isDigit_of_hexValue second,ih later⟩⟩

theorem read_of_isDigit {digits : List Char} (even : digits.length % 2 = 0) (all : ∀ c ∈ digits, IsDigit c) :
    ∃ bytes, read digits = some bytes := by
  induction digits using read.induct with
  | case1 => exact ⟨[],rfl⟩
  | case2 c => simp at even
  | case3 high low rest ih =>
    obtain ⟨first,others⟩ := List.forall_mem_cons.mp all
    obtain ⟨second,later⟩ := List.forall_mem_cons.mp others
    obtain ⟨high',left⟩ := hexValue_of_isDigit first
    obtain ⟨low',right⟩ := hexValue_of_isDigit second
    have shorter : rest.length % 2 = 0 := by
      simp only [List.length_cons] at even
      omega
    obtain ⟨bytes,done⟩ := ih shorter later
    exact ⟨_,by simp only [read,readPair,left,right,done,Option.bind_eq_bind,Option.bind_some]; rfl⟩

/-- Texts of so many bytes are those of twice as many digits. -/
theorem read_iff {digits : List Char} {size : ℕ} :
    (∃ bytes, read digits = some bytes ∧ bytes.length = size) ↔ digits.length = 2*size ∧ ∀ c ∈ digits, IsDigit c := by
  constructor
  · rintro ⟨bytes,done,rfl⟩
    exact ⟨length_of_read done,isDigit_of_read done⟩
  · rintro ⟨length,all⟩
    obtain ⟨bytes,done⟩ := read_of_isDigit (by omega) all
    have same := length_of_read done
    exact ⟨bytes,done,by omega⟩

end Library.Hex
