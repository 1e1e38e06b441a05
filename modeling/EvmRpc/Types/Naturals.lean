import EvmRpc.Alloy.Primitives
import EvmRpc.Library.Outcome
import EvmRpc.RpcClient.Numeric

/-! Naturals of 256 bits before anything is known about them: a tuple struct around
any natural, the conversions that build one, and those that rely on its bound. -/
namespace EvmRpc
open Library Alloy

structure RawNat256 where
  value : ℕ
  deriving DecidableEq, Repr

namespace RawNat256

def ZERO : RawNat256 := ⟨0⟩

/-- `BigUint::to_bytes_be` and `BigUint::to_bytes_le`. -/
def toBytesBe (value : ℕ) : List UInt8 := Positional.shortest value

def toBytesLe (value : ℕ) : List UInt8 := (Positional.shortest value).reverse

/-- `TryFrom<Nat>`. -/
def tryFrom (value : ℕ) : Except String RawNat256 :=
  if (toBytesLe value).length > 32 then .error "Nat does not fit in a U256" else .ok ⟨value⟩

/-- Candid decoding goes through the decoded `Nat`. -/
def deserialize (decoded : Except String ℕ) : Except String RawNat256 := decoded >>= tryFrom

def fromBeBytes (bytes : Bytes 32) : Outcome RawNat256 :=
  .expect "BUG: Nat should fit in a U256" (tryFrom (Positional.ofBigEndian bytes.1))

def intoBeBytes (n : RawNat256) : Outcome (List UInt8) :=
  let valueBytes := toBytesBe n.value
  if valueBytes.length ≤ 32 then .done (List.replicate (32-valueBytes.length) 0 ++ valueBytes)
  else .trap ("BUG: Nat does not fit in a U256: " ++ toString n.value)

/-- `impl_from_unchecked`. -/
def fromUnchecked (value : ℕ) : Outcome RawNat256 :=
  .expect "called `Result::unwrap()` on an `Err` value" (tryFrom value)

def ofUSize (value : USize) : Outcome RawNat256 := fromUnchecked value.toNat
def ofUInt8 (value : UInt8) : Outcome RawNat256 := fromUnchecked value.toNat
def ofUInt16 (value : UInt16) : Outcome RawNat256 := fromUnchecked value.toNat
def ofUInt32 (value : UInt32) : Outcome RawNat256 := fromUnchecked value.toNat
def ofUInt64 (value : UInt64) : Outcome RawNat256 := fromUnchecked value.toNat
def ofU128 (value : U128) : Outcome RawNat256 := fromUnchecked value.val

def ofAmount {Unit : Type} (amount : Amount Unit) : Outcome RawNat256 := fromBeBytes amount.toBeBytes

/-- `U256::to_be_bytes`. -/
def u256ToBeBytes (value : U256) : Bytes 32 :=
  ⟨Positional.bigEndian 32 value.toNat,Positional.length_bigEndian value.isLt⟩

def ofU256 (value : U256) : Outcome RawNat256 := fromBeBytes (u256ToBeBytes value)

/-- `u64::from` for eight big-endian bytes. -/
def ofB64 (value : B64) : Outcome RawNat256 := ofUInt64 (UInt64.ofNat (Positional.ofBigEndian value.1))

def toAmount {Unit : Type} (n : RawNat256) : Outcome (Amount Unit) := do
  let bytes ← n.intoBeBytes
  .done ⟨BitVec.ofNat 256 (Positional.ofBigEndian bytes)⟩

def toU256 (n : RawNat256) : Outcome U256 := do
  let bytes ← n.intoBeBytes
  .done (BitVec.ofNat 256 (Positional.ofBigEndian bytes))

/-- `TryFrom<Nat256> for u64`, whose error shows that of the integer type. -/
def toUInt64 (outOfRange : ℕ → String) (n : RawNat256) : RpcResult UInt64 :=
  match u64.tryFrom n.value with
  | some value => .ok value
  | none => .error (.validationError (.custom (outOfRange n.value)))

/-- All ways to come by a natural of 256 bits. -/
inductive Constructed : RawNat256 → Prop where
  | zero : Constructed ZERO
  | tryFrom {value : ℕ} {n : RawNat256} (made : RawNat256.tryFrom value = .ok n) : Constructed n
  | deserialize {decoded : Except String ℕ} {n : RawNat256}
      (made : RawNat256.deserialize decoded = .ok n) : Constructed n
  | fromBeBytes {bytes : Bytes 32} {n : RawNat256} (made : RawNat256.fromBeBytes bytes = .done n) : Constructed n
  | ofUSize {value : USize} {n : RawNat256} (made : RawNat256.ofUSize value = .done n) : Constructed n
  | ofUInt8 {value : UInt8} {n : RawNat256} (made : RawNat256.ofUInt8 value = .done n) : Constructed n
  | ofUInt16 {value : UInt16} {n : RawNat256} (made : RawNat256.ofUInt16 value = .done n) : Constructed n
  | ofUInt32 {value : UInt32} {n : RawNat256} (made : RawNat256.ofUInt32 value = .done n) : Constructed n
  | ofUInt64 {value : UInt64} {n : RawNat256} (made : RawNat256.ofUInt64 value = .done n) : Constructed n
  | ofU128 {value : U128} {n : RawNat256} (made : RawNat256.ofU128 value = .done n) : Constructed n
  | ofAmount {Unit : Type} {amount : Amount Unit} {n : RawNat256}
      (made : RawNat256.ofAmount amount = .done n) : Constructed n
  | ofU256 {value : U256} {n : RawNat256} (made : RawNat256.ofU256 value = .done n) : Constructed n
  | ofB64 {value : B64} {n : RawNat256} (made : RawNat256.ofB64 value = .done n) : Constructed n

def ofBounded (n : Nat256) : RawNat256 := ⟨n.value⟩

private theorem length_toBytesLe {value : ℕ} : (toBytesLe value).length ≤ 32 ↔ value < 2^256 := by
  rw [toBytesLe,List.length_reverse]
  exact Positional.length_shortest_le (by decide)

theorem tryFrom_of_lt {value : ℕ} (fits : value < 2^256) : tryFrom value = .ok ⟨value⟩ :=
  if_neg (Nat.not_lt.mpr (length_toBytesLe.mpr fits))

theorem tryFrom_of_not_lt {value : ℕ} (large : ¬ value < 2^256) :
    tryFrom value = .error "Nat does not fit in a U256" :=
  if_pos (Nat.lt_of_not_le (fun short => large (length_toBytesLe.mp short)))

theorem tryFrom_eq_ok {value : ℕ} {n : RawNat256} : tryFrom value = .ok n ↔ value < 2^256 ∧ n = ⟨value⟩ := by
  by_cases fits : value < 2^256
  · rw [tryFrom_of_lt fits,Except.ok.injEq,eq_comm,and_iff_right fits]
  · rw [tryFrom_of_not_lt fits]
    constructor
    · intro impossible
      cases impossible
    · exact fun both => absurd both.1 fits

theorem fromUnchecked_of_lt {value : ℕ} (fits : value < 2^256) : fromUnchecked value = .done ⟨value⟩ := by
  rw [fromUnchecked,tryFrom_of_lt fits]
  rfl

theorem fromUnchecked_eq_done {value : ℕ} {n : RawNat256} (made : fromUnchecked value = .done n) :
    n.value < 2^256 := by
  obtain ⟨fits,rfl⟩ := tryFrom_eq_ok.mp (Outcome.expect_eq_done.mp made)
  exact fits

/-- Bytes make the same natural in both models, without a trap. -/
theorem fromBeBytes_eq (bytes : Bytes 32) : fromBeBytes bytes = .done (ofBounded (Nat256.fromBeBytes bytes)) := by
  have fits : Positional.ofBigEndian bytes.1 < 2^256 := (Nat256.fromBeBytes bytes).bound
  rw [fromBeBytes,tryFrom_of_lt fits]
  rfl

theorem intoBeBytes_eq (n : Nat256) : (ofBounded n).intoBeBytes = .done n.intoBeBytes.1 := by
  have short : (Positional.shortest n.value).length ≤ 32 :=
    (Positional.length_shortest_le (by decide)).mpr n.bound
  exact if_pos short

theorem Constructed.bound {n : RawNat256} (constructed : Constructed n) : n.value < 2^256 := by
  have ofBytes {bytes : Bytes 32} (made : RawNat256.fromBeBytes bytes = .done n) : n.value < 2^256 := by
    rw [fromBeBytes_eq] at made
    cases made
    exact (Nat256.fromBeBytes bytes).bound
  cases constructed with
  | zero => exact Nat.two_pow_pos 256
  | tryFrom made =>
    obtain ⟨fits,rfl⟩ := tryFrom_eq_ok.mp made
    exact fits
  | deserialize made =>
    obtain ⟨value,_,made⟩ := ok_of_bind_ok made
    obtain ⟨fits,rfl⟩ := tryFrom_eq_ok.mp made
    exact fits
  | fromBeBytes made => exact ofBytes made
  | ofUSize made => exact fromUnchecked_eq_done made
  | ofUInt8 made => exact fromUnchecked_eq_done made
  | ofUInt16 made => exact fromUnchecked_eq_done made
  | ofUInt32 made => exact fromUnchecked_eq_done made
  | ofUInt64 made => exact fromUnchecked_eq_done made
  | ofU128 made => exact fromUnchecked_eq_done made
  | ofAmount made => exact ofBytes made
  | ofU256 made => exact ofBytes made
  | ofB64 made => exact fromUnchecked_eq_done made

/-- The bounded type holds exactly what can be constructed. -/
theorem constructed_iff {n : RawNat256} : Constructed n ↔ n.value < 2^256 :=
  ⟨Constructed.bound,fun fits => .tryFrom (tryFrom_of_lt fits)⟩

/-- No conversion into a natural of 256 bits traps or changes a value. -/
structure KeepsIntegers : Prop where
  tryFrom : ∀ value, (∃ n, RawNat256.tryFrom value = .ok n) ↔ value < 2^256
  tryFrom_value : ∀ value n, RawNat256.tryFrom value = .ok n → n.value = value
  ofUSize : ∀ value, RawNat256.ofUSize value = .done ⟨value.toNat⟩
  ofUInt8 : ∀ value, RawNat256.ofUInt8 value = .done ⟨value.toNat⟩
  ofUInt16 : ∀ value, RawNat256.ofUInt16 value = .done ⟨value.toNat⟩
  ofUInt32 : ∀ value, RawNat256.ofUInt32 value = .done ⟨value.toNat⟩
  ofUInt64 : ∀ value, RawNat256.ofUInt64 value = .done ⟨value.toNat⟩
  ofU128 : ∀ value, RawNat256.ofU128 value = .done ⟨value.val⟩

theorem keepsIntegers : KeepsIntegers where
  tryFrom value := by
    simp only [tryFrom_eq_ok]
    exact ⟨fun made => made.choose_spec.1,fun fits => ⟨_,fits,rfl⟩⟩
  tryFrom_value value n made := by
    obtain ⟨_,rfl⟩ := tryFrom_eq_ok.mp made
    rfl
  ofUSize value := fromUnchecked_of_lt (lt_trans value.toNat_lt (by decide))
  ofUInt8 value := fromUnchecked_of_lt (lt_trans value.toNat_lt (by decide))
  ofUInt16 value := fromUnchecked_of_lt (lt_trans value.toNat_lt (by decide))
  ofUInt32 value := fromUnchecked_of_lt (lt_trans value.toNat_lt (by decide))
  ofUInt64 value := fromUnchecked_of_lt (lt_trans value.toNat_lt (by decide))
  ofU128 value := fromUnchecked_of_lt (lt_trans value.isLt (by decide))

/-- The 32 big-endian bytes of a natural and the natural determine each other. -/
structure KeepsBytes : Prop where
  intoBeBytes : ∀ n, Constructed n → n.intoBeBytes = .done (Positional.bigEndian 32 n.value)
  intoBeBytes_length : ∀ (n : RawNat256) (bytes : List UInt8), n.intoBeBytes = .done bytes → bytes.length = 32
  fromBeBytes : ∀ bytes, RawNat256.fromBeBytes bytes = .done ⟨Positional.ofBigEndian bytes.1⟩
  fromBeBytes_intoBeBytes : ∀ (n : RawNat256) (bytes : Bytes 32),
    n.intoBeBytes = .done bytes.1 → RawNat256.fromBeBytes bytes = .done n
  intoBeBytes_fromBeBytes : ∀ (bytes : Bytes 32) (n : RawNat256),
    RawNat256.fromBeBytes bytes = .done n → n.intoBeBytes = .done bytes.1

theorem intoBeBytes_bigEndian (n : Nat256) : n.intoBeBytes.1 = Positional.bigEndian 32 n.value := by
  have fits : n.value < 256^32 := n.bound
  have same : Positional.ofBigEndian n.intoBeBytes.1 = n.value :=
    congrArg Nat256.value (Nat256.fromBeBytes_intoBeBytes n)
  refine Positional.ofBigEndian_injective (n.intoBeBytes.2.trans (Positional.length_bigEndian fits).symm) ?_
  rw [same,Positional.ofBigEndian_bigEndian]

private theorem bound_of_intoBeBytes {n : RawNat256} {bytes : List UInt8} (done : n.intoBeBytes = .done bytes) :
    n.value < 2^256 := by
  by_contra large
  have long : ¬ (toBytesBe n.value).length ≤ 32 :=
    fun short => large ((Positional.length_shortest_le (by decide)).mp short)
  simp only [intoBeBytes,if_neg long] at done
  cases done

private theorem intoBeBytes_of_lt {n : RawNat256} (bound : n.value < 2^256) :
    n.intoBeBytes = .done (Positional.bigEndian 32 n.value) := by
  rw [← intoBeBytes_bigEndian ⟨n.value,bound⟩]
  exact intoBeBytes_eq ⟨n.value,bound⟩

theorem keepsBytes : KeepsBytes where
  intoBeBytes n constructed := intoBeBytes_of_lt constructed.bound
  intoBeBytes_length n bytes done := by
    have bound : n.value < 256^32 := bound_of_intoBeBytes done
    rw [intoBeBytes_of_lt bound,Outcome.done.injEq] at done
    rw [← done,Positional.length_bigEndian bound]
  fromBeBytes := fromBeBytes_eq
  fromBeBytes_intoBeBytes n bytes done := by
    rw [intoBeBytes_of_lt (bound_of_intoBeBytes done),Outcome.done.injEq] at done
    have value : Positional.ofBigEndian bytes.1 = n.value := by rw [← done,Positional.ofBigEndian_bigEndian]
    rw [fromBeBytes_eq]
    exact congrArg (fun value => Outcome.done (RawNat256.mk value)) value
  intoBeBytes_fromBeBytes bytes n made := by
    rw [fromBeBytes_eq] at made
    cases made
    rw [intoBeBytes_eq,Nat256.intoBeBytes_fromBeBytes]

/-- `Ord` of amounts, by that of their inner value. -/
def compareAmounts {Unit : Type} (a b : Amount Unit) : Ordering := compareOfLessAndEq a.inner b.inner

theorem compareAmounts_eq {Unit : Type} (a b : Amount Unit) :
    compareAmounts a b = compareOfLessAndEq a.inner.toNat b.inner.toNat := by
  simp only [compareAmounts,compareOfLessAndEq,BitVec.lt_def,BitVec.toNat_inj]

/-- Amounts of any unit and naturals of 256 bits convert into each other with the same
value, and so with the same order. -/
structure KeepsAmounts (Unit : Type) : Prop where
  ofAmount : ∀ amount : Amount Unit, RawNat256.ofAmount amount = .done ⟨amount.inner.toNat⟩
  toAmount : ∀ n, Constructed n → ∃ amount : Amount Unit, n.toAmount = .done amount ∧ amount.inner.toNat = n.value
  toAmount_ofAmount : ∀ (amount : Amount Unit) (n : RawNat256),
    RawNat256.ofAmount amount = .done n → n.toAmount = .done amount
  ofAmount_toAmount : ∀ (n : RawNat256) (amount : Amount Unit),
    n.toAmount = .done amount → RawNat256.ofAmount amount = .done n
  order : ∀ (a b : Amount Unit) (m n : RawNat256),
    RawNat256.ofAmount a = .done m → RawNat256.ofAmount b = .done n →
      compareAmounts a b = compareOfLessAndEq m.value n.value

private theorem ofAmount_eq {Unit : Type} (amount : Amount Unit) : ofAmount amount = .done ⟨amount.inner.toNat⟩ := by
  rw [ofAmount,fromBeBytes_eq]
  exact congrArg (fun value => Outcome.done (RawNat256.mk value)) amount.toNat256_value

private theorem toAmount_of_lt {Unit : Type} {n : RawNat256} (bound : n.value < 2^256) :
    n.toAmount = .done (Amount.mk (BitVec.ofNat 256 n.value) : Amount Unit) := by
  rw [toAmount,intoBeBytes_of_lt bound,Outcome.done_bind,Positional.ofBigEndian_bigEndian]

private theorem bound_of_toAmount {Unit : Type} {n : RawNat256} {amount : Amount Unit}
    (done : n.toAmount = .done amount) : n.value < 2^256 := by
  obtain ⟨bytes,written,_⟩ := Outcome.bind_eq_done.mp done
  exact bound_of_intoBeBytes written

theorem keepsAmounts (Unit : Type) : KeepsAmounts Unit where
  ofAmount := ofAmount_eq
  toAmount n constructed := by
    refine ⟨_,toAmount_of_lt constructed.bound,?_⟩
    rw [BitVec.toNat_ofNat,Nat.mod_eq_of_lt constructed.bound]
  toAmount_ofAmount amount n made := by
    rw [ofAmount_eq] at made
    cases made
    rw [toAmount_of_lt amount.inner.isLt]
    exact congrArg (fun value => Outcome.done (Amount.mk value)) (BitVec.ofNat_toNat 256 amount.inner)
  ofAmount_toAmount n amount done := by
    have bound := bound_of_toAmount done
    rw [toAmount_of_lt bound] at done
    cases done
    rw [ofAmount_eq,BitVec.toNat_ofNat,Nat.mod_eq_of_lt bound]
  order a b m n first second := by
    rw [ofAmount_eq] at first second
    cases first
    cases second
    exact compareAmounts_eq a b

/-- The words of `alloy` keep the value of a natural as well. -/
structure KeepsWords : Prop where
  ofU256 : ∀ value : U256, RawNat256.ofU256 value = .done ⟨value.toNat⟩
  toU256 : ∀ n, Constructed n → ∃ value : U256, n.toU256 = .done value ∧ value.toNat = n.value
  ofB64 : ∀ value : B64, RawNat256.ofB64 value = .done ⟨Positional.ofBigEndian value.1⟩

theorem keepsWords : KeepsWords where
  ofU256 value := by
    rw [ofU256,fromBeBytes_eq]
    exact congrArg (fun value => Outcome.done (RawNat256.mk value)) (Positional.ofBigEndian_bigEndian 32 value.toNat)
  toU256 n constructed := by
    refine ⟨BitVec.ofNat 256 n.value,?_,?_⟩
    · rw [toU256,intoBeBytes_of_lt constructed.bound,Outcome.done_bind,Positional.ofBigEndian_bigEndian]
    · rw [BitVec.toNat_ofNat,Nat.mod_eq_of_lt constructed.bound]
  ofB64 value := by
    have narrow : Positional.ofBigEndian value.1 < 2^64 := by
      have below := Positional.ofBigEndian_lt value.1
      rwa [value.2] at below
    rw [ofB64,keepsIntegers.ofUInt64,UInt64.toNat_ofNat_of_lt' narrow]

/-- Narrowing succeeds below the range of 64 bits, with the same value. -/
structure NarrowsExactly (outOfRange : ℕ → String) : Prop where
  succeeds : ∀ n : RawNat256, (∃ value, n.toUInt64 outOfRange = .ok value) ↔ n.value < 2^64
  value : ∀ (n : RawNat256) (value : UInt64), n.toUInt64 outOfRange = .ok value → value.toNat = n.value

theorem narrowsExactly (outOfRange : ℕ → String) : NarrowsExactly outOfRange := by
  have small {n : RawNat256} (fits : n.value < 2^64) : n.toUInt64 outOfRange = .ok (UInt64.ofNat n.value) := by
    rw [toUInt64,u64_of_lt fits]
  have below {n : RawNat256} {value : UInt64} (done : n.toUInt64 outOfRange = .ok value) : n.value < 2^64 := by
    by_contra large
    rw [toUInt64,u64_of_not_lt large] at done
    cases done
  refine ⟨fun n => ⟨fun done => below done.choose_spec,fun fits => ⟨_,small fits⟩⟩,fun n value done => ?_⟩
  have fits := below done
  rw [small fits] at done
  cases done
  exact UInt64.toNat_ofNat_of_lt' fits

/-- Naturals of 256 bits keep their value, whatever they are made from or turned into. -/
theorem value_kept (Unit : Type) (outOfRange : ℕ → String) :
    (∀ n, Constructed n → n.value < 2^256) ∧ KeepsIntegers ∧ KeepsBytes ∧ KeepsAmounts Unit ∧ KeepsWords ∧
      NarrowsExactly outOfRange :=
  ⟨fun _ => Constructed.bound,keepsIntegers,keepsBytes,keepsAmounts Unit,keepsWords,narrowsExactly outOfRange⟩

end RawNat256
end EvmRpc
