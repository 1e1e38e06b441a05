import Mathlib.Data.Nat.Digits.Lemmas
import Mathlib.Data.Nat.Size

/-! Naturals as big-endian byte strings, of a fixed width or as short as possible, and
rounded to a number of binary digits. -/
namespace Library.Positional

def ofBigEndian (bytes : List UInt8) : ℕ := Nat.ofDigits 256 (bytes.reverse.map UInt8.toNat)

def bigEndian (width n : ℕ) : List UInt8 := (Nat.digitsAppend 256 width n).reverse.map UInt8.ofNat

/-- No leading zero byte, except that zero itself is one byte. -/
def shortest (n : ℕ) : List UInt8 :=
  if n = 0 then [0] else (Nat.digits 256 n).reverse.map UInt8.ofNat

private theorem toNat_ofNat_map {digits : List ℕ} (small : ∀ d ∈ digits, d < 256) :
    (digits.map UInt8.ofNat).map UInt8.toNat = digits := by
  rw [List.map_map]
  refine (List.map_congr_left (fun d inside => ?_)).trans (List.map_id digits)
  simp [Nat.mod_eq_of_lt (small d inside)]

private theorem byte_digit (bytes : List UInt8) : ∀ d ∈ bytes.map UInt8.toNat, d < 256 := by
  intro d inside
  obtain ⟨byte,_,rfl⟩ := List.mem_map.mp inside
  exact byte.toNat_lt

theorem ofBigEndian_lt (bytes : List UInt8) : ofBigEndian bytes < 256^bytes.length := by
  have below := Nat.ofDigits_lt_base_pow_length (by omega) (byte_digit bytes.reverse)
  simpa [ofBigEndian] using below

theorem ofBigEndian_injective {a b : List UInt8} (width : a.length = b.length)
    (same : ofBigEndian a = ofBigEndian b) : a = b := by
  have digits : a.reverse.map UInt8.toNat = b.reverse.map UInt8.toNat :=
    Nat.ofDigits_inj_of_len_eq (by omega) (by simp [width]) (byte_digit _) (byte_digit _) same
  have reversed := (List.map_injective_iff.mpr (fun x y equal => UInt8.toNat_inj.mp equal)) digits
  exact List.reverse_injective reversed

theorem length_bigEndian {width n : ℕ} (fits : n < 256^width) : (bigEndian width n).length = width := by
  simp only [bigEndian,List.length_map,List.length_reverse]
  exact Nat.length_digitsAppend (by omega) width fits

theorem ofBigEndian_bigEndian (width n : ℕ) : ofBigEndian (bigEndian width n) = n := by
  have small : ∀ d ∈ Nat.digitsAppend 256 width n, d < 256 :=
    fun d inside => Nat.lt_of_mem_digitsAppend (by omega) width d inside
  unfold ofBigEndian bigEndian
  rw [← List.map_reverse,List.reverse_reverse,toNat_ofNat_map small]
  rw [Nat.digitsAppend,Nat.ofDigits_append_replicate_zero,Nat.ofDigits_digits]

theorem ofBigEndian_shortest (n : ℕ) : ofBigEndian (shortest n) = n := by
  unfold shortest
  split
  · rename_i zero
    simp [ofBigEndian,zero]
  · have small : ∀ d ∈ Nat.digits 256 n, d < 256 := fun d inside => Nat.digits_lt_base (by omega) inside
    unfold ofBigEndian
    rw [← List.map_reverse,List.reverse_reverse,toNat_ofNat_map small,Nat.ofDigits_digits]

theorem length_shortest_le {width n : ℕ} (positive : 0 < width) :
    (shortest n).length ≤ width ↔ n < 256^width := by
  unfold shortest
  split
  · rename_i zero
    subst n
    simp [Nat.succ_le_of_lt positive]
  · simp [Nat.digits_length_le_iff]

theorem ofBigEndian_zeros (k : ℕ) (bytes : List UInt8) :
    ofBigEndian (List.replicate k 0 ++ bytes) = ofBigEndian bytes := by
  simp [ofBigEndian,Nat.ofDigits_append_replicate_zero]

section Rounding

/-- The closest number that has no more than `bits` binary digits up to its trailing zeros.
Between two of them it is the one whose last digit is even. -/
def nearestEven (bits n : ℕ) : ℕ :=
  let unit := 2^(n.size-bits)
  let rest := n%unit
  if 2*rest < unit ∨ 2*rest = unit ∧ n/unit%2 = 0 then n-rest else n-rest+unit

theorem nearestEven_of_lt {bits n : ℕ} (small : n < 2^bits) : nearestEven bits n = n := by
  have unit : n.size-bits = 0 := Nat.sub_eq_zero_of_le (Nat.size_le.mpr small)
  simp [nearestEven,unit,Nat.mod_one]

example : nearestEven 53 (2^53+1) = 2^53 ∧ nearestEven 53 (2^53+3) = 2^53+4 := by decide

end Rounding

end Library.Positional
