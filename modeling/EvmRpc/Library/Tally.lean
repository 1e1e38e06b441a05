import Mathlib.Algebra.BigOperators.Group.List.Lemmas
import Mathlib.Algebra.GroupWithZero.Nat
import Mathlib.Data.List.AList
import Mathlib.Data.List.Perm.Basic

/-! Counters by key in 64 bits: what they show of the keys that were counted. -/
namespace Library.Tally
variable {κ : Type} [DecidableEq κ]

abbrev Table (κ : Type) := AList (fun _ : κ => UInt64)

def increment (counters : Table κ) (key : κ) : Table κ :=
  counters.insert key (match counters.lookup key with
    | some counter => counter+1
    | none => 1)

def of (keys : List κ) : Table κ := keys.foldl increment ∅

def count (counters : Table κ) (key : κ) : ℕ := ((counters.lookup key).getD 0).toNat

/-- The sum of all counters whose key satisfies `p`. -/
def total (counters : Table κ) (p : κ → Bool) : ℕ :=
  ((counters.entries.filter (fun entry => p entry.1)).map (fun entry => entry.2.toNat)).sum

theorem of_append_singleton (keys : List κ) (key : κ) : of (keys ++ [key]) = increment (of keys) key := by
  simp [of]

theorem lookup_of (keys : List κ) (key : κ) :
    (of keys).lookup key = if key ∈ keys then some (UInt64.ofNat (keys.count key)) else none := by
  induction keys using List.reverseRecOn with
  | nil => rfl
  | append_singleton keys last ih =>
    rw [of_append_singleton,increment]
    by_cases same : key = last
    · subst last
      rw [AList.lookup_insert,ih]
      by_cases before : key ∈ keys
      · simp [before,List.count_append]
      · simp [before,List.count_append,List.count_eq_zero_of_not_mem before]
    · rw [AList.lookup_insert_ne same,ih]
      simp [same,List.count_append,Ne.symm same]

theorem mem_keys_of {keys : List κ} {key : κ} : key ∈ (of keys).keys ↔ key ∈ keys := by
  rw [← AList.mem_keys,← AList.lookup_isSome,lookup_of]
  split <;> simp [*]

/-- A counter that does not overflow is the number of times that its key was counted. -/
theorem count_of {keys : List κ} {key : κ} (small : keys.countP (fun other => other = key) < 2^64) :
    count (of keys) key = keys.countP (fun other => other = key) := by
  have same : keys.countP (fun other => other = key) = keys.count key := List.countP_congr (by simp)
  rw [same] at small ⊢
  rw [count,lookup_of]
  by_cases present : key ∈ keys
  · rw [if_pos present,Option.getD_some,UInt64.toNat_ofNat_of_lt' small]
  · rw [if_neg present,List.count_eq_zero_of_not_mem present]
    rfl

theorem total_of {keys : List κ} {p : κ → Bool}
    (small : ∀ key, p key = true → keys.countP (fun other => other = key) < 2^64) :
    total (of keys) p = keys.countP p := by
  have counted : ∀ entry ∈ (of keys).entries.filter (fun entry => p entry.1), entry.2.toNat = keys.count entry.1 := by
    intro entry inside
    obtain ⟨present,chosen⟩ := List.mem_filter.mp inside
    have found : (of keys).lookup entry.1 = some entry.2 := AList.mem_lookup_iff.mpr present
    have shown := count_of (small entry.1 chosen)
    rw [count,found,Option.getD_some] at shown
    exact shown.trans (List.countP_congr (by simp))
  have names : (of keys).keys.Perm keys.dedup :=
    (List.perm_ext_iff_of_nodup (of keys).keys_nodup keys.nodup_dedup).mpr (fun key => by
      rw [mem_keys_of,List.mem_dedup])
  rw [← List.sum_map_count_dedup_filter_eq_countP p keys,total,List.map_congr_left counted]
  have split : ((of keys).entries.filter (fun entry => p entry.1)).map (fun entry => keys.count entry.1) =
      ((of keys).keys.filter p).map (fun key => keys.count key) := by
    rw [AList.keys,List.keys,List.filter_map,List.map_map]
    rfl
  rw [split]
  exact ((names.filter p).map _).sum_eq

end Library.Tally
