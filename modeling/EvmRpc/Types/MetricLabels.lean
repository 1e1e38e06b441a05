import Mathlib.Algebra.Order.Field.Rat
import Mathlib.Data.Nat.Log
import Mathlib.Tactic.Positivity
import EvmRpc.Library.Positional
import EvmRpc.Types.Metrics
import EvmRpc.Types.Values

/-! Keys of counters as the labels of a metric, and counters as floating point numbers. -/
namespace EvmRpc
open Library

namespace F64

/-- The cast `as f64` of an unsigned integer. -/
def ofNat (n : ℕ) : F64 :=
  let rounded := Positional.nearestEven 53 n
  if rounded = 0 then ⟨0⟩
  else ⟨BitVec.ofNat 64 ((rounded.log2+1023)*2^52+(rounded*2^52/2^rounded.log2-2^52))⟩

def exponent (x : F64) : ℕ := x.bits.toNat/2^52%2^11

def mantissa (x : F64) : ℕ := x.bits.toNat%2^52

/-- The number that a finite and nonnegative one stands for. -/
def value (x : F64) : ℚ :=
  if x.exponent = 0 then x.mantissa*2/2^1075 else (2^52+x.mantissa)*2^x.exponent/2^1075

private theorem fields_of_bits {exponent mantissa : ℕ} (bounded : exponent < 2^11) (small : mantissa < 2^52) :
    F64.exponent ⟨BitVec.ofNat 64 (exponent*2^52+mantissa)⟩ = exponent ∧
      F64.mantissa ⟨BitVec.ofNat 64 (exponent*2^52+mantissa)⟩ = mantissa := by
  have whole : (exponent*2^52+mantissa)%2^64 = exponent*2^52+mantissa := Nat.mod_eq_of_lt (by omega)
  simp only [F64.exponent,F64.mantissa,BitVec.toNat_ofNat,whole]
  omega

theorem value_ofNat {n : ℕ} (small : n < 2^53) : (ofNat n).value = n := by
  rcases Nat.eq_zero_or_pos n with rfl | positive
  · simp [ofNat,Positional.nearestEven_of_lt,value,exponent,mantissa]
  · have digits : n.log2 ≤ 52 := Nat.lt_succ_iff.mp ((Nat.log2_lt positive.ne').mpr small)
    have exponents : 52-n.log2+(n.log2+1023) = 1075 := by omega
    have low : 2^n.log2 ≤ n := Nat.log2_self_le positive.ne'
    have high : n < 2^(n.log2+1) := Nat.lt_log2_self
    have scaled : 2^52 = 2^(52-n.log2)*2^n.log2 := by rw [← pow_add,Nat.sub_add_cancel digits]
    have shifted : n*2^52/2^n.log2 = n*2^(52-n.log2) := by
      rw [scaled,← mul_assoc,Nat.mul_div_cancel _ (Nat.two_pow_pos _)]
    have leading : 2^52 ≤ n*2^(52-n.log2) := by
      rw [scaled,mul_comm]
      exact Nat.mul_le_mul_right _ low
    have below : n*2^(52-n.log2) < 2^53 := by
      have doubled : 2^(n.log2+1)*2^(52-n.log2) = 2^53 := by
        rw [← pow_add]
        congr 1
        omega
      rw [← doubled]
      exact Nat.mul_lt_mul_of_pos_right high (Nat.two_pow_pos _)
    have encoded : ofNat n = ⟨BitVec.ofNat 64 ((n.log2+1023)*2^52+(n*2^(52-n.log2)-2^52))⟩ := by
      simp only [ofNat,Positional.nearestEven_of_lt small,if_neg positive.ne',shifted]
    obtain ⟨exponent,mantissa⟩ := @fields_of_bits (n.log2+1023) (n*2^(52-n.log2)-2^52) (by omega) (by omega)
    rw [encoded,value,exponent,mantissa,if_neg (by omega)]
    have product (total : ℕ) (sum : 52-n.log2+(n.log2+1023) = total) :
        (2^52+(n*2^(52-n.log2)-2^52))*2^(n.log2+1023) = n*2^total := by
      rw [Nat.add_sub_cancel' leading,mul_assoc,← pow_add,sum]
    rw [div_eq_iff (pow_ne_zero _ two_ne_zero)]
    have cast := congrArg (Nat.cast : ℕ → ℚ) (product 1075 exponents)
    simpa only [Nat.cast_add,Nat.cast_mul,Nat.cast_pow,Nat.cast_ofNat] using cast

end F64

class MetricValue (ν : Type) where
  metricValue : ν → F64

instance metricValueUInt64 : MetricValue UInt64 := ⟨fun value => .ofNat value.toNat⟩

instance metricValueU128 : MetricValue U128 := ⟨fun value => .ofNat value.val⟩

class MetricLabels (κ : Type) where
  metricLabels : κ → List (String × String)

open MetricLabels

instance metricLabelsMethod : MetricLabels MetricRpcMethod := ⟨fun method => [("method",method.name)]⟩

instance metricLabelsHost : MetricLabels MetricRpcHost := ⟨fun host => [("host",host.name)]⟩

instance metricLabelsStatus : MetricLabels MetricHttpStatusCode := ⟨fun status => [("status",status.code)]⟩

def LegacyRejectionCode.label : LegacyRejectionCode → String
  | .noError => "NO_ERROR"
  | .sysFatal => "SYS_FATAL"
  | .sysTransient => "SYS_TRANSIENT"
  | .destinationInvalid => "DESTINATION_INVALID"
  | .canisterReject => "CANISTER_REJECT"
  | .canisterError => "CANISTER_ERROR"
  | .unknown => "UNKNOWN"

instance metricLabelsCode : MetricLabels LegacyRejectionCode := ⟨fun code => [("code",code.label)]⟩

/-- Pairs, and triples as pairs of a key and a pair. -/
instance metricLabelsPair (α β : Type) [MetricLabels α] [MetricLabels β] : MetricLabels (α × β) :=
  ⟨fun key => metricLabels key.1 ++ metricLabels key.2⟩

/-- Labels of one length that name the key they are for. -/
structure NamesKeys (κ : Type) [MetricLabels κ] : Prop where
  injective : Function.Injective (metricLabels : κ → List (String × String))
  sized : ∀ key other : κ, (metricLabels key).length = (metricLabels other).length

theorem namesKeys_pair {α β : Type} [MetricLabels α] [MetricLabels β] (first : NamesKeys α) (second : NamesKeys β) :
    NamesKeys (α × β) := by
  refine ⟨fun key other same => ?_,fun key other => ?_⟩
  · obtain ⟨left,right⟩ := List.append_inj same (first.sized key.1 other.1)
    exact Prod.ext (first.injective left) (second.injective right)
  · have left := first.sized key.1 other.1
    have right := second.sized key.2 other.2
    change (metricLabels key.1 ++ metricLabels key.2).length = (metricLabels other.1 ++ metricLabels other.2).length
    rw [List.length_append,List.length_append,left,right]

private theorem namesKeys_single {κ : Type} [MetricLabels κ] {label : String} {value : κ → String}
    (shape : ∀ key, metricLabels key = [(label,value key)]) (injective : Function.Injective value) : NamesKeys κ := by
  refine ⟨fun key other same => ?_,fun key other => ?_⟩
  · rw [shape,shape] at same
    exact injective (congrArg Prod.snd (List.cons.inj same).1)
  · rw [shape,shape]
    rfl

private theorem label_injective : Function.Injective LegacyRejectionCode.label := by
  intro code other same
  cases code <;> cases other <;> first | rfl | simp [LegacyRejectionCode.label] at same

private theorem namesKeys_method : NamesKeys MetricRpcMethod :=
  namesKeys_single (fun _ => rfl) (fun _ _ same => congrArg MetricRpcMethod.mk same)

private theorem namesKeys_host : NamesKeys MetricRpcHost :=
  namesKeys_single (fun _ => rfl) (fun _ _ same => congrArg MetricRpcHost.mk same)

theorem namesKeys_target : NamesKeys (MetricRpcMethod × MetricRpcHost) := namesKeys_pair namesKeys_method namesKeys_host

theorem namesKeys_status : NamesKeys (MetricRpcMethod × MetricRpcHost × MetricHttpStatusCode) :=
  namesKeys_pair namesKeys_method (namesKeys_pair namesKeys_host
    (namesKeys_single (fun _ => rfl) (fun _ _ same => congrArg MetricHttpStatusCode.mk same)))

theorem namesKeys_code : NamesKeys (MetricRpcMethod × MetricRpcHost × LegacyRejectionCode) :=
  namesKeys_pair namesKeys_method (namesKeys_pair namesKeys_host (namesKeys_single (fun _ => rfl) label_injective))

end EvmRpc
