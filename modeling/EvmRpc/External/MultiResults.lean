import Mathlib.Data.List.Nodup
import Mathlib.Data.List.Sort
import EvmRpc.Library.Equality
import EvmRpc.Library.Outcome

/-! Results of one call to several providers, and their reduction, as the canister
uses them from `canhttp::multi`. The reductions are a parameter. -/
namespace EvmRpc
open Library

/-- Results by key, in the order in which they are iterated over. -/
structure MultiResults (κ α ε : Type) where
  entries : List (κ × Except ε α)
  distinct : (entries.map Prod.fst).Nodup

namespace MultiResults
variable {κ α ε : Type}

def keys (results : MultiResults κ α ε) : List κ := results.entries.map Prod.fst

def empty : MultiResults κ α ε := ⟨[],List.nodup_nil⟩

section Insertion
variable [LinearOrder κ]

/-- Successes are iterated over before errors, and both in the order of their keys. -/
def Precedes (first second : κ × Except ε α) : Prop :=
  match first.2,second.2 with
  | .ok _,.error _ => True
  | .error _,.ok _ => False
  | .ok _,.ok _ => first.1 ≤ second.1
  | .error _,.error _ => first.1 ≤ second.1

instance : DecidableRel (Precedes (κ := κ) (α := α) (ε := ε)) := fun first second =>
  match first,second with
  | (_,.ok _),(_,.error _) => inferInstanceAs (Decidable True)
  | (_,.error _),(_,.ok _) => inferInstanceAs (Decidable False)
  | (a,.ok _),(b,.ok _) => inferInstanceAs (Decidable (a ≤ b))
  | (a,.error _),(b,.error _) => inferInstanceAs (Decidable (a ≤ b))

@[simp] theorem precedes_ok (a b : κ) (value other : α) :
    Precedes (ε := ε) (a,.ok value) (b,.ok other) ↔ a ≤ b := Iff.rfl

@[simp] theorem precedes_error (a b : κ) (error other : ε) :
    Precedes (α := α) (a,.error error) (b,.error other) ↔ a ≤ b := Iff.rfl

@[simp] theorem precedes_ok_error (a b : κ) (value : α) (error : ε) : Precedes (a,.ok value) (b,.error error) := trivial

@[simp] theorem not_precedes_error_ok (a b : κ) (error : ε) (value : α) :
    ¬ Precedes (a,.error error) (b,.ok value) := id

/-- Every result is put in its place, and a second result for a key is a bug of the caller. -/
def insertOnce (results : MultiResults κ α ε) (key : κ) (result : Except ε α) : Outcome (MultiResults κ α ε) :=
  if fresh : key ∈ results.keys then .trap "ERROR: duplicate key"
  else .done ⟨results.entries.orderedInsert Precedes (key,result),by
    have perm := (List.perm_orderedInsert Precedes (key,result) results.entries).map Prod.fst
    exact perm.nodup_iff.mpr (List.nodup_cons.mpr ⟨fresh,results.distinct⟩)⟩

def insertAll (entries : List (κ × Except ε α)) (results : MultiResults κ α ε) : Outcome (MultiResults κ α ε) :=
  entries.foldlM (fun results entry => results.insertOnce entry.1 entry.2) results

/-- Inserting the result of each key in turn, where computing a result may trap. -/
def collect (result : κ → Outcome (Except ε α)) (keys : List κ) (results : MultiResults κ α ε) :
    Outcome (MultiResults κ α ε) :=
  keys.foldlM (fun results key => do
    let given ← result key
    results.insertOnce key given) results

theorem insertOnce_perm {results after : MultiResults κ α ε} {key : κ} {result : Except ε α}
    (inserted : results.insertOnce key result = .done after) :
    after.entries.Perm ((key,result)::results.entries) := by
  unfold insertOnce at inserted
  split at inserted
  · cases inserted
  · cases inserted
    exact List.perm_orderedInsert _ _ _

theorem insertAll_perm {entries : List (κ × Except ε α)} {results after : MultiResults κ α ε}
    (inserted : insertAll entries results = .done after) : after.entries.Perm (entries ++ results.entries) := by
  induction entries generalizing results with
  | nil =>
    cases inserted
    exact List.Perm.refl _
  | cons entry entries ih =>
    rw [insertAll,List.foldlM_cons] at inserted
    obtain ⟨next,first,inserted⟩ := Outcome.bind_eq_done.mp inserted
    have rest := ih inserted
    exact (rest.trans ((insertOnce_perm first).append_left entries)).trans List.perm_middle

private theorem insertOnce_of_fresh {results : MultiResults κ α ε} {key : κ} (fresh : key ∉ results.keys)
    (result : Except ε α) : ∃ after, results.insertOnce key result = .done after := by
  rw [insertOnce,dif_neg fresh]
  exact ⟨_,rfl⟩

theorem insertAll_of_fresh {entries : List (κ × Except ε α)} {results : MultiResults κ α ε}
    (distinct : (entries.map Prod.fst ++ results.keys).Nodup) : ∃ after, insertAll entries results = .done after := by
  induction entries generalizing results with
  | nil => exact ⟨results,rfl⟩
  | cons entry entries ih =>
    obtain ⟨other,rest⟩ := List.nodup_cons.mp distinct
    obtain ⟨next,inserted⟩ := insertOnce_of_fresh (fun present => other (List.mem_append_right _ present)) entry.2
    have names : next.keys.Perm (entry.1::results.keys) := (insertOnce_perm inserted).map Prod.fst
    have apart : (entries.map Prod.fst ++ next.keys).Nodup :=
      ((names.append_left _).trans List.perm_middle).nodup_iff.mpr distinct
    obtain ⟨after,others⟩ := ih apart
    refine ⟨after,?_⟩
    rw [insertAll,List.foldlM_cons]
    exact Outcome.bind_eq_done.mpr ⟨next,inserted,others⟩

theorem collect_perm {result : κ → Outcome (Except ε α)} {keys : List κ} {results after : MultiResults κ α ε}
    (collected : collect result keys results = .done after) :
    ∃ entries, after.entries.Perm (entries ++ results.entries) ∧
      List.Forall₂ (fun key entry => entry.1 = key ∧ result key = .done entry.2) keys entries := by
  induction keys generalizing results with
  | nil =>
    cases collected
    exact ⟨[],List.Perm.refl _,.nil⟩
  | cons key keys ih =>
    rw [collect,List.foldlM_cons] at collected
    obtain ⟨next,first,collected⟩ := Outcome.bind_eq_done.mp collected
    obtain ⟨given,computed,inserted⟩ := Outcome.bind_eq_done.mp first
    obtain ⟨entries,perm,own⟩ := ih collected
    refine ⟨(key,given)::entries,?_,.cons ⟨rfl,computed⟩ own⟩
    exact (perm.trans ((insertOnce_perm inserted).append_left entries)).trans List.perm_middle

theorem keys_of_collect {result : κ → Outcome (Except ε α)} {keys : List κ} {after : MultiResults κ α ε}
    (collected : collect result keys .empty = .done after) : after.keys.Perm keys := by
  obtain ⟨entries,perm,own⟩ := collect_perm collected
  have names : entries.map Prod.fst = keys := by
    clear perm collected
    induction own with
    | nil => rfl
    | cons first _ ih => rw [List.map_cons,first.1,ih]
  rw [MultiResults.keys,← names]
  simpa [empty] using perm.map Prod.fst

theorem mem_of_collect {result : κ → Outcome (Except ε α)} {keys : List κ} {after : MultiResults κ α ε}
    (collected : collect result keys .empty = .done after) {key : κ} {given : Except ε α} :
    (key,given) ∈ after.entries ↔ key ∈ keys ∧ result key = .done given := by
  obtain ⟨entries,perm,own⟩ := collect_perm collected
  rw [perm.mem_iff]
  simp only [empty,List.append_nil]
  clear perm collected
  induction own with
  | nil => simp
  | @cons k entry ks others first _ ih =>
    obtain ⟨rfl,computed⟩ := first
    obtain ⟨k,found⟩ := entry
    simp only [List.mem_cons,Prod.mk.injEq,ih]
    constructor
    · rintro (⟨rfl,rfl⟩ | ⟨inside,same⟩)
      · exact ⟨.inl rfl,computed⟩
      · exact ⟨.inr inside,same⟩
    · rintro ⟨rfl | inside,same⟩
      · exact .inl ⟨rfl,Outcome.done.inj (same.symm.trans computed)⟩
      · exact .inr ⟨inside,same⟩

theorem collect_of_done {result : κ → Outcome (Except ε α)} {keys : List κ} {results : MultiResults κ α ε}
    (distinct : keys.Nodup) (fresh : ∀ key ∈ keys, key ∉ results.keys)
    (computed : ∀ key ∈ keys, ∃ given, result key = .done given) : ∃ after, collect result keys results = .done after := by
  induction keys generalizing results with
  | nil => exact ⟨results,rfl⟩
  | cons key keys ih =>
    obtain ⟨other,distinct⟩ := List.nodup_cons.mp distinct
    obtain ⟨given,first⟩ := computed key (by simp)
    obtain ⟨next,inserted⟩ := insertOnce_of_fresh (fresh key (by simp)) given
    have names : next.keys.Perm (key::results.keys) := (insertOnce_perm inserted).map Prod.fst
    have apart : ∀ later ∈ keys, later ∉ next.keys := by
      intro later inside present
      rcases List.mem_cons.mp (names.mem_iff.mp present) with rfl | before
      · exact other inside
      · exact fresh later (by simp [inside]) before
    obtain ⟨after,rest⟩ := ih distinct apart (fun later inside => computed later (by simp [inside]))
    refine ⟨after,?_⟩
    rw [collect,List.foldlM_cons]
    exact Outcome.bind_eq_done.mpr ⟨next,Outcome.bind_eq_done.mpr ⟨given,first,inserted⟩,rest⟩

end Insertion

def okResults (results : MultiResults κ α ε) : List (κ × α) :=
  results.entries.filterMap (fun entry => match entry.2 with
    | .ok value => some (entry.1,value)
    | .error _ => none)

def errors (results : MultiResults κ α ε) : List (κ × ε) :=
  results.entries.filterMap (fun entry => match entry.2 with
    | .ok _ => none
    | .error error => some (entry.1,error))

def len (results : MultiResults κ α ε) : ℕ := results.entries.length

/-- Number of keys whose result is the success `value`. -/
def support [BEq α] [BEq ε] (results : MultiResults κ α ε) (value : α) : ℕ :=
  (results.entries.filter (fun entry => entry.2 == .ok value)).length

theorem mem_okResults {results : MultiResults κ α ε} {key : κ} {value : α} :
    (key,value) ∈ results.okResults ↔ (key,.ok value) ∈ results.entries := by
  unfold okResults
  rw [List.mem_filterMap]
  constructor
  · rintro ⟨⟨k,result⟩,inside,same⟩
    rcases result with error | v
    · simp at same
    · obtain ⟨rfl,rfl⟩ := by simpa using same
      exact inside
  · intro inside
    exact ⟨_,inside,rfl⟩

theorem mem_errors {results : MultiResults κ α ε} {key : κ} {error : ε} :
    (key,error) ∈ results.errors ↔ (key,.error error) ∈ results.entries := by
  unfold errors
  rw [List.mem_filterMap]
  constructor
  · rintro ⟨⟨k,result⟩,inside,same⟩
    rcases result with e | v
    · obtain ⟨rfl,rfl⟩ := by simpa using same
      exact inside
    · simp at same
  · intro inside
    exact ⟨_,inside,rfl⟩

theorem keys_perm (results : MultiResults κ α ε) :
    (results.errors.map Prod.fst ++ results.okResults.map Prod.fst).Perm results.keys := by
  obtain ⟨entries,distinct⟩ := results
  simp only [errors,okResults,keys]
  clear distinct
  induction entries with
  | nil => exact List.Perm.refl _
  | cons entry entries ih =>
    obtain ⟨key,result⟩ := entry
    cases result with
    | error error => simpa using ih.cons key
    | ok value => simpa using List.perm_middle.trans (ih.cons key)

section Mapping
variable {β : Type} (f : α → β)

/-- The same errors under the same keys, with every success replaced. -/
def mapOk (results : MultiResults κ α ε) : MultiResults κ β ε :=
  ⟨results.entries.map (Prod.map id (Except.map f)),by simpa [Function.comp_def] using results.distinct⟩

@[simp] theorem keys_mapOk (results : MultiResults κ α ε) : (results.mapOk f).keys = results.keys := by
  simp [keys,mapOk,Function.comp_def]

theorem okResults_mapOk (results : MultiResults κ α ε) :
    (results.mapOk f).okResults = results.okResults.map (Prod.map id f) := by
  obtain ⟨entries,distinct⟩ := results
  simp only [okResults,mapOk]
  clear distinct
  induction entries with
  | nil => rfl
  | cons entry entries ih =>
    obtain ⟨key,result⟩ := entry
    cases result with
    | error error => simpa [Except.map] using ih
    | ok value => simpa [Except.map] using ih

theorem errors_mapOk (results : MultiResults κ α ε) : (results.mapOk f).errors = results.errors := by
  obtain ⟨entries,distinct⟩ := results
  simp only [errors,mapOk]
  clear distinct
  induction entries with
  | nil => rfl
  | cons entry entries ih =>
    obtain ⟨key,result⟩ := entry
    cases result with
    | error error => simpa [Except.map] using ih
    | ok value => simpa [Except.map] using ih

variable [LinearOrder κ]

theorem precedes_map (first second : κ × Except ε α) :
    Precedes (Prod.map id (Except.map f) first) (Prod.map id (Except.map f) second) ↔ Precedes first second := by
  obtain ⟨a,result⟩ := first
  obtain ⟨b,other⟩ := second
  cases result <;> cases other <;> rfl

theorem insertOnce_mapOk (results : MultiResults κ α ε) (key : κ) (result : Except ε α) :
    (results.mapOk f).insertOnce key (result.map f) = mapOk f <$> results.insertOnce key result := by
  have inserted := List.map_orderedInsert (r := Precedes) (s := Precedes) (Prod.map id (Except.map f)) results.entries
    (key,result) (fun entry _ => (precedes_map f entry _).symm) (fun entry _ => (precedes_map f _ entry).symm)
  unfold insertOnce
  by_cases present : key ∈ results.keys
  · rw [dif_pos present,dif_pos (by rwa [keys_mapOk])]
    rfl
  · rw [dif_neg present,dif_neg (by rwa [keys_mapOk])]
    simp [mapOk,inserted]

theorem collect_mapOk (result : κ → Outcome (Except ε α)) (keys : List κ) (results : MultiResults κ α ε) :
    collect (fun key => Except.map f <$> result key) keys (results.mapOk f) = mapOk f <$> collect result keys results := by
  induction keys generalizing results with
  | nil => rfl
  | cons key keys ih =>
    simp only [collect,List.foldlM_cons,bind_assoc] at ih ⊢
    cases result key with
    | trap message => rfl
    | done given =>
      simp only [Outcome.map_done,Outcome.done_bind,insertOnce_mapOk]
      cases results.insertOnce key given with
      | trap message => rfl
      | done next => exact ih next

end Mapping

end MultiResults

inductive ReductionError (κ α ε : Type) where
  | consistentError (error : ε)
  | inconsistentResults (results : MultiResults κ α ε)

abbrev ReducedResult (κ α ε : Type) := Except (ReductionError κ α ε) α

structure Reduce (κ α ε : Type) where
  withEquality : MultiResults κ α ε → ReducedResult κ α ε
  withThreshold : UInt8 → MultiResults κ α ε → ReducedResult κ α ε

namespace Reduce
variable {κ α ε : Type} [BEq α] [BEq ε]

/-- A success needs `min` equal successes, and inconsistent results are the
results that were collected. -/
structure Lawful (reduce : Reduce κ α ε) : Prop where
  threshold_ok : ∀ min results value, reduce.withThreshold min results = .ok value →
    min.toNat ≤ results.support value
  threshold_inconsistent : ∀ min results held,
    reduce.withThreshold min results = .error (.inconsistentResults held) →
      held.entries.Perm results.entries

/-- Inconsistent results are some of those that were collected. -/
structure KeepsResults (reduce : Reduce κ α ε) : Prop where
  equality : ∀ results held, reduce.withEquality results = .error (.inconsistentResults held) →
    held.entries ⊆ results.entries
  threshold : ∀ min results held, reduce.withThreshold min results = .error (.inconsistentResults held) →
    held.entries ⊆ results.entries

/-- Where all results have to be alike, a success is like each of them, and inconsistent results leave out
only what is like one of them. -/
structure Unanimous (reduce : Reduce κ α ε) : Prop where
  agreed : ∀ results value, reduce.withEquality results = .ok value →
    ∀ entry ∈ results.entries, (entry.2 == .ok value) = true
  represented : ∀ results held, reduce.withEquality results = .error (.inconsistentResults held) →
    ∀ entry ∈ results.entries, entry ∈ held.entries ∨ ∃ other ∈ held.entries, (entry.2 == other.2) = true

/-- A success is found where there are enough of them. -/
structure Decisive (reduce : Reduce κ α ε) : Prop where
  threshold : ∀ min results value, 0 < min.toNat → min.toNat ≤ results.support value →
    ∃ found, reduce.withThreshold min results = .ok found
  equality : ∀ results value, results.entries ≠ [] → (∀ entry ∈ results.entries, (entry.2 == .ok value) = true) →
    ∃ found, reduce.withEquality results = .ok found

/-- The first success that enough keys agree on, and otherwise all results. -/
def reference : Reduce κ α ε where
  withEquality results :=
    match results.okResults.find? (fun entry => results.support entry.2 == results.len) with
    | some entry => .ok entry.2
    | none => .error (.inconsistentResults results)
  withThreshold min results :=
    match results.okResults.find? (fun entry => decide (min.toNat ≤ results.support entry.2)) with
    | some entry => .ok entry.2
    | none => .error (.inconsistentResults results)

theorem reference_lawful : (reference : Reduce κ α ε).Lawful where
  threshold_ok min results value outcome := by
    unfold reference at outcome
    simp only at outcome
    split at outcome
    · rename_i entry found
      have agreed := List.find?_some found
      obtain rfl : entry.2 = value := by simpa using outcome
      simpa using agreed
    · simp at outcome
  threshold_inconsistent min results held outcome := by
    unfold reference at outcome
    simp only at outcome
    split at outcome
    · simp at outcome
    · obtain rfl : results = held := by simpa using outcome
      exact List.Perm.refl _

theorem reference_keepsResults : (reference : Reduce κ α ε).KeepsResults where
  equality results held outcome := by
    unfold reference at outcome
    simp only at outcome
    split at outcome
    · cases outcome
    · cases outcome
      exact List.Subset.refl _
  threshold min results held outcome :=
    (reference_lawful.threshold_inconsistent min results held outcome).subset

theorem reference_unanimous : (reference : Reduce κ α ε).Unanimous where
  agreed results value outcome := by
    unfold reference at outcome
    simp only at outcome
    split at outcome
    · rename_i entry found
      cases outcome
      have all := List.find?_some found
      rw [beq_iff_eq,MultiResults.support,MultiResults.len,List.length_filter_eq_length_iff] at all
      exact all
    · cases outcome
  represented results held outcome := by
    unfold reference at outcome
    simp only at outcome
    split at outcome
    · cases outcome
    · cases outcome
      exact fun entry inside => .inl inside

private theorem reference_finds [PartialEquivBEq α] {results : MultiResults κ α ε} {value : α} {agreed : α → Bool}
    (some' : ∃ entry ∈ results.entries, (entry.2 == .ok value) = true)
    (same : ∀ w, (w == value) = true → agreed w = true) :
    ∃ entry, results.okResults.find? (fun entry => agreed entry.2) = some entry := by
  obtain ⟨⟨key,result⟩,inside,alike⟩ := some'
  cases result with
  | error error => cases alike
  | ok w =>
    apply Option.isSome_iff_exists.mp
    exact List.find?_isSome.mpr ⟨(key,w),MultiResults.mem_okResults.mpr inside,same w alike⟩

private theorem support_congr [PartialEquivBEq α] {results : MultiResults κ α ε} {v w : α} (alike : (v == w) = true) :
    results.support v = results.support w := by
  unfold MultiResults.support
  refine congrArg List.length (List.filter_congr (fun entry _ => ?_))
  obtain ⟨key,result⟩ := entry
  cases result with
  | error error => rfl
  | ok u =>
    change (u == v) = (u == w)
    exact BEq.congr_right alike

theorem reference_decisive [PartialEquivBEq α] : (reference : Reduce κ α ε).Decisive where
  threshold min results value positive enough := by
    have present : ∃ entry ∈ results.entries, (entry.2 == .ok value) = true := by
      have nonempty : 0 < (results.entries.filter (fun entry => entry.2 == .ok value)).length :=
        Nat.lt_of_lt_of_le positive enough
      obtain ⟨entry,kept⟩ := List.exists_mem_of_length_pos nonempty
      exact ⟨entry,List.mem_filter.mp kept⟩
    obtain ⟨entry,found⟩ := @reference_finds _ _ _ _ _ _ results value (fun w => decide (min.toNat ≤ results.support w))
      present (fun w alike => decide_eq_true (enough.trans_eq (@support_congr _ _ _ _ _ _ results _ _ alike).symm))
    refine ⟨entry.2,?_⟩
    unfold reference
    simp only [found]
  equality results value nonempty all := by
    have present : ∃ entry ∈ results.entries, (entry.2 == .ok value) = true := by
      obtain ⟨entry,inside⟩ := List.exists_mem_of_ne_nil _ nonempty
      exact ⟨entry,inside,all entry inside⟩
    have whole : results.support value = results.len := by
      rw [MultiResults.support,MultiResults.len,List.length_filter_eq_length_iff]
      exact all
    obtain ⟨entry,found⟩ := @reference_finds _ _ _ _ _ _ results value (fun w => results.support w == results.len)
      present (fun w alike => beq_iff_eq.mpr ((@support_congr _ _ _ _ _ _ results _ _ alike).trans whole))
    refine ⟨entry.2,?_⟩
    unfold reference
    simp only [found]

end Reduce
end EvmRpc
