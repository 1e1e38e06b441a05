import Mathlib.Algebra.GroupWithZero.Nat
import EvmRpc.Library.Equality
import EvmRpc.Types.RpcClient

/-! Errors of the Candid interface and results collected from several providers. -/
namespace EvmRpc
open Library

abbrev U128 := Fin (2^128)

instance (priority := 2000) u128NeZero : NeZero (2^128 : ℕ) := ⟨by decide⟩

inductive ProviderError where
  | noPermission
  | tooFewCycles (expected received : U128)
  | providerNotFound
  | missingRequiredProvider
  | invalidRpcConfig (message : String)
  deriving DecidableEq, Repr

inductive RejectCode where
  | sysFatal | sysTransient | destinationInvalid | canisterReject | canisterError | sysUnknown
  deriving DecidableEq, Repr

inductive LegacyRejectionCode where
  | noError | sysFatal | sysTransient | destinationInvalid | canisterReject | canisterError | unknown
  deriving DecidableEq, Repr

def LegacyRejectionCode.ofRejectCode : RejectCode → LegacyRejectionCode
  | .sysFatal => .sysFatal
  | .sysTransient => .sysTransient
  | .destinationInvalid => .destinationInvalid
  | .canisterReject => .canisterReject
  | .canisterError => .canisterError
  | .sysUnknown => .unknown

inductive HttpOutcallError where
  | icError (code : LegacyRejectionCode) (message : String)
  | invalidHttpJsonRpcResponse (status : UInt16) (body : String) (parsingError : Option String)
  deriving DecidableEq, Repr

/-- The JSON-RPC error of the Candid interface, which has no `data`. -/
structure JsonRpcError where
  code : Int64
  message : String
  deriving DecidableEq, Repr

inductive ValidationError where
  | custom (message : String)
  | invalidHex (message : String)
  deriving DecidableEq, Repr

inductive RpcError where
  | providerError (error : ProviderError)
  | httpOutcallError (error : HttpOutcallError)
  | jsonRpcError (error : JsonRpcError)
  | validationError (error : ValidationError)
  deriving DecidableEq, Repr

abbrev RpcResult (α : Type) := Except RpcError α

inductive MultiRpcResult (α : Type) where
  | consistent (result : RpcResult α)
  | inconsistent (results : List (RpcService × RpcResult α))

namespace MultiRpcResult
variable {α β : Type}

/-- An inconsistent list whose results all match becomes consistent. -/
def collapse [BEq α] : MultiRpcResult α → MultiRpcResult α
  | .consistent result => .consistent result
  | .inconsistent [] => .inconsistent []
  | .inconsistent (first::rest) =>
    if (first::rest).all (fun entry => entry.2 == first.2)
    then .consistent first.2
    else .inconsistent (first::rest)

def map [BEq β] (f : α → β) : MultiRpcResult α → MultiRpcResult β
  | .consistent result => .consistent (result.map f)
  | .inconsistent results =>
    (inconsistent (results.map (fun (service,result) => (service,match result with
      | .ok value => .ok (f value)
      | .error error => .error error)))).collapse

def andThen [BEq β] (f : α → RpcResult β) : MultiRpcResult α → MultiRpcResult β
  | .consistent result => .consistent (result.bind f)
  | .inconsistent results =>
    (inconsistent (results.map (fun (service,result) => (service,match result with
      | .ok value => f value
      | .error error => .error error)))).collapse

theorem collapse_cons [BEq α] (first : RpcService × RpcResult α) (rest : List (RpcService × RpcResult α)) :
    (inconsistent (first::rest)).collapse =
      if (first::rest).all (fun entry => entry.2 == first.2)
      then consistent first.2
      else inconsistent (first::rest) := rfl

theorem map_inconsistent [BEq β] (f : α → β) (results : List (RpcService × RpcResult α)) :
    (inconsistent results).map f =
      (inconsistent (results.map (fun entry => (entry.1,entry.2.map f)))).collapse := by
  change (inconsistent (results.map _)).collapse = _
  congr 2
  refine List.map_congr_left (fun entry _ => ?_)
  obtain ⟨service,result⟩ := entry
  cases result <;> rfl

theorem collapse_of_differ [BEq α] [PartialEquivBEq α] {results : List (RpcService × RpcResult α)}
    {a b : RpcService × RpcResult α} (left : a ∈ results) (right : b ∈ results)
    (differ : (a.2 == b.2) = false) : (inconsistent results).collapse = inconsistent results := by
  cases results with
  | nil => rfl
  | cons first rest =>
    rw [collapse_cons]
    split
    · rename_i all
      rw [List.all_eq_true] at all
      have same : (a.2 == b.2) = true := BEq.trans (all a left) (BEq.symm (all b right))
      rw [same] at differ
      contradiction
    · rfl

theorem map_of_differ [BEq α] [BEq β] [PartialEquivBEq β] {f : α → β} (reflects : ReflectsBEq f)
    {results : List (RpcService × RpcResult α)} {a b : RpcService × RpcResult α}
    (left : a ∈ results) (right : b ∈ results) (differ : (a.2 == b.2) = false) :
    (inconsistent results).map f = inconsistent (results.map (fun entry => (entry.1,entry.2.map f))) := by
  rw [map_inconsistent]
  have kept : (a.2.map f == b.2.map f) = false := by
    rw [← Bool.not_eq_true] at differ ⊢
    exact fun same => differ (reflects.except_map _ _ same)
  exact collapse_of_differ (List.mem_map_of_mem left) (List.mem_map_of_mem right) kept

theorem map_of_unanimous [BEq β] (f : α → β) {results : List (RpcService × RpcResult α)} {value : α}
    (nonempty : results ≠ []) (unanimous : ∀ entry ∈ results, entry.2 = .ok value)
    (reflexive : (f value == f value) = true) :
    (inconsistent results).map f = consistent (.ok (f value)) := by
  rw [map_inconsistent]
  cases results with
  | nil => contradiction
  | cons first rest =>
    have converted (entry) (inside : entry ∈ first::rest) : entry.2.map f = .ok (f value) := by
      rw [unanimous entry inside]
      rfl
    rw [List.map_cons,collapse_cons,if_pos,converted first (by simp)]
    rw [List.all_eq_true]
    intro entry inside
    rw [← List.map_cons (f := fun entry : RpcService × RpcResult α => (entry.1,entry.2.map f))] at inside
    obtain ⟨source,listed,rfl⟩ := List.mem_map.mp inside
    rw [converted source listed,converted first (by simp)]
    exact reflexive

/-- A consistent success of `map` was either consistent before, or every entry of
an inconsistent list is a success with that conversion. -/
theorem map_eq_consistent_ok [BEq β] {f : α → β} {source : MultiRpcResult α} {value : β}
    (outcome : source.map f = consistent (.ok value)) :
    (∃ v, source = consistent (.ok v) ∧ f v = value) ∨
    ∃ results, source = inconsistent results ∧ results ≠ [] ∧
      ∀ entry ∈ results, ∃ v, entry.2 = .ok v ∧ (f v == value) = true := by
  cases source with
  | consistent result =>
    cases result with
    | error e => simp [map,Except.map] at outcome
    | ok v => exact .inl ⟨v,rfl,by simpa [map,Except.map] using outcome⟩
  | inconsistent results =>
    refine .inr ⟨results,rfl,?_⟩
    rw [map_inconsistent] at outcome
    cases results with
    | nil => simp [collapse] at outcome
    | cons first rest =>
      refine ⟨by simp,fun entry inside => ?_⟩
      rw [List.map_cons] at outcome
      rw [collapse_cons] at outcome
      split at outcome
      · rename_i all
        simp only [consistent.injEq] at outcome
        rw [List.all_eq_true] at all
        have same := all (entry.1,entry.2.map f) (by
          rw [← List.map_cons (f := fun entry : RpcService × RpcResult α => (entry.1,entry.2.map f))]
          exact List.mem_map_of_mem inside)
        simp only [outcome] at same
        cases shape : entry.2 with
        | error e => simp [shape,Except.map] at same
        | ok v => exact ⟨v,rfl,by simpa [shape,Except.map] using same⟩
      · contradiction

section Chaining
variable {γ : Type}

/-- What converting the successes of a list makes of its entries. -/
def convertEach (f : α → RpcResult β) (results : List (RpcService × RpcResult α)) :
    List (RpcService × RpcResult β) := results.map (fun entry => (entry.1,entry.2.bind f))

theorem andThen_inconsistent [BEq β] (f : α → RpcResult β) (results : List (RpcService × RpcResult α)) :
    (inconsistent results).andThen f = (inconsistent (convertEach f results)).collapse := by
  change (inconsistent (results.map _)).collapse = _
  congr 2
  refine List.map_congr_left (fun entry _ => ?_)
  obtain ⟨service,result⟩ := entry
  cases result <;> rfl

/-- An entry after conversion: same service, an error untouched, a success converted. -/
structure ConvertedBy (f : α → RpcResult β) (before : RpcService × RpcResult α)
    (after : RpcService × RpcResult β) : Prop where
  service : after.1 = before.1
  error : ∀ error, before.2 = .error error → after.2 = .error error
  success : ∀ value, before.2 = .ok value → after.2 = f value

theorem convertEach_converted (f : α → RpcResult β) (results : List (RpcService × RpcResult α)) :
    List.Forall₂ (ConvertedBy f) results (convertEach f results) := by
  rw [convertEach,List.forall₂_map_right_iff,List.forall₂_same]
  intro entry _
  exact ⟨rfl,fun error failed => by rw [failed]; rfl,fun value returned => by rw [returned]; rfl⟩

theorem convertEach_convertEach (f : α → RpcResult β) (g : β → RpcResult γ)
    (results : List (RpcService × RpcResult α)) :
    convertEach g (convertEach f results) = convertEach (fun value => (f value).bind g) results := by
  rw [convertEach,convertEach,List.map_map]
  refine List.map_congr_left (fun entry _ => ?_)
  obtain ⟨service,result⟩ := entry
  cases result <;> rfl

/-- No common result: the list is empty or holds two different results. -/
def Disagree (results : List (RpcService × RpcResult α)) : Prop :=
  results = [] ∨ ∃ a ∈ results, ∃ b ∈ results, a.2 ≠ b.2

theorem common_of_not_disagree {results : List (RpcService × RpcResult α)} (agree : ¬ Disagree results) :
    results ≠ [] ∧ ∃ result, ∀ entry ∈ results, entry.2 = result := by
  rw [Disagree,not_or] at agree
  obtain ⟨first,inside⟩ := List.exists_mem_of_ne_nil results agree.1
  refine ⟨agree.1,first.2,fun entry listed => ?_⟩
  by_contra differ
  exact agree.2 ⟨entry,listed,first,inside,differ⟩

theorem collapse_of_common [BEq α] [LawfulBEq α] {results : List (RpcService × RpcResult α)}
    {result : RpcResult α} (nonempty : results ≠ []) (common : ∀ entry ∈ results, entry.2 = result) :
    (inconsistent results).collapse = consistent result := by
  cases results with
  | nil => contradiction
  | cons first rest =>
    have all : (first::rest).all (fun entry => entry.2 == first.2) = true := by
      rw [List.all_eq_true]
      intro entry inside
      rw [common entry inside,common first (by simp),beq_self_eq_true]
    rw [collapse_cons,if_pos all,common first (by simp)]

theorem collapse_of_disagree [BEq α] [LawfulBEq α] {results : List (RpcService × RpcResult α)}
    (disagree : Disagree results) : (inconsistent results).collapse = inconsistent results := by
  rcases disagree with rfl | ⟨a,left,b,right,differ⟩
  · rfl
  · exact collapse_of_differ left right (beq_false_of_ne differ)

/-- Collapsing early changes nothing for a conversion that follows. -/
theorem collapse_andThen [BEq α] [LawfulBEq α] [BEq β] [LawfulBEq β] (g : α → RpcResult β)
    (results : List (RpcService × RpcResult α)) :
    (inconsistent results).collapse.andThen g = (inconsistent results).andThen g := by
  by_cases disagree : Disagree results
  · rw [collapse_of_disagree disagree]
  · obtain ⟨nonempty,result,common⟩ := common_of_not_disagree disagree
    have converted : ∀ entry ∈ convertEach g results, entry.2 = result.bind g := by
      intro entry inside
      obtain ⟨source,listed,rfl⟩ := List.mem_map.mp inside
      rw [common source listed]
    have still : convertEach g results ≠ [] := List.map_eq_nil_iff.not.mpr nonempty
    rw [collapse_of_common nonempty common,andThen_inconsistent,collapse_of_common still converted]
    rfl

theorem andThen_andThen [BEq β] [LawfulBEq β] [BEq γ] [LawfulBEq γ] (source : MultiRpcResult α)
    (f : α → RpcResult β) (g : β → RpcResult γ) :
    (source.andThen f).andThen g = source.andThen (fun value => (f value).bind g) := by
  cases source with
  | consistent result => cases result <;> rfl
  | inconsistent results =>
    rw [andThen_inconsistent,collapse_andThen,andThen_inconsistent,andThen_inconsistent,convertEach_convertEach]

theorem map_eq_andThen [BEq β] (source : MultiRpcResult α) (f : α → β) :
    source.map f = source.andThen (fun value => .ok (f value)) := by
  cases source with
  | consistent result => cases result <;> rfl
  | inconsistent results =>
    rw [map_inconsistent,andThen_inconsistent]
    rfl

/-- The outcome of a conversion, described from its list of entries. -/
structure ConversionOutcome [BEq β] (results : List (RpcService × RpcResult α)) (f : α → RpcResult β) : Prop where
  inconsistent_iff : (∃ listed, (inconsistent results).andThen f = inconsistent listed) ↔
    Disagree (convertEach f results)
  entries : ∀ listed, (inconsistent results).andThen f = inconsistent listed →
    List.Forall₂ (ConvertedBy f) results listed
  common : ¬ Disagree (convertEach f results) →
    ∃ result, (∀ entry ∈ convertEach f results, entry.2 = result) ∧
      (inconsistent results).andThen f = consistent result

theorem andThen_outcome [BEq β] [LawfulBEq β] (results : List (RpcService × RpcResult α)) (f : α → RpcResult β) :
    ConversionOutcome results f := by
  have agreed (agree : ¬ Disagree (convertEach f results)) :
      ∃ result, (∀ entry ∈ convertEach f results, entry.2 = result) ∧
        (inconsistent results).andThen f = consistent result := by
    obtain ⟨nonempty,result,common⟩ := common_of_not_disagree agree
    exact ⟨result,common,by rw [andThen_inconsistent,collapse_of_common nonempty common]⟩
  have kept (disagree : Disagree (convertEach f results)) :
      (inconsistent results).andThen f = inconsistent (convertEach f results) := by
    rw [andThen_inconsistent,collapse_of_disagree disagree]
  have disagree_of {listed : List (RpcService × RpcResult β)}
      (outcome : (inconsistent results).andThen f = inconsistent listed) : Disagree (convertEach f results) := by
    by_contra agree
    obtain ⟨result,_,consistent⟩ := agreed agree
    rw [outcome] at consistent
    cases consistent
  refine ⟨⟨fun outcome => disagree_of outcome.choose_spec,fun disagree => ⟨_,kept disagree⟩⟩,?_,agreed⟩
  intro listed outcome
  rw [kept (disagree_of outcome)] at outcome
  cases outcome
  exact convertEach_converted f results

/-- Conversions chain: one after the other is their composition, whatever collapses
in between, and the outcome shows in the converted entries. -/
theorem chaining [BEq β] [LawfulBEq β] [BEq γ] [LawfulBEq γ] (source : MultiRpcResult α) :
    (∀ (f : α → RpcResult β) (g : β → RpcResult γ),
      (source.andThen f).andThen g = source.andThen (fun value => (f value).bind g)) ∧
    (∀ (f : α → β) (g : β → γ), (source.map f).map g = source.map (g ∘ f)) ∧
    (∀ f : α → β, source.map f = source.andThen (fun value => .ok (f value))) ∧
    (∀ (results : List (RpcService × RpcResult α)) (f : α → RpcResult β), ConversionOutcome results f) := by
  refine ⟨andThen_andThen source,fun f g => ?_,map_eq_andThen source,andThen_outcome⟩
  rw [map_eq_andThen,map_eq_andThen,andThen_andThen,map_eq_andThen]
  rfl

theorem chaining_for_disagreement :
    ((inconsistent [(.ethMainnet .alchemy,.ok 2),(.ethMainnet .ankr,.ok 3)]).andThen
        (fun value : ℕ => (.ok (value/2) : RpcResult ℕ))).andThen (fun value => (.ok (value+1) : RpcResult ℕ)) =
      (inconsistent [(.ethMainnet .alchemy,.ok 2),(.ethMainnet .ankr,.ok 3)]).andThen
        (fun value => (.ok (value/2+1) : RpcResult ℕ)) :=
  (chaining (inconsistent [(.ethMainnet .alchemy,.ok 2),(.ethMainnet .ankr,.ok 3)])).1 _ _

end Chaining

/-- A list becomes consistent exactly when it is not empty and its results all match. -/
theorem collapse_eq_consistent [BEq α] {results : List (RpcService × RpcResult α)} {result : RpcResult α} :
    (inconsistent results).collapse = consistent result ↔
      ∃ first rest, results = first::rest ∧ first.2 = result ∧ ∀ entry ∈ results, (entry.2 == result) = true := by
  cases results with
  | nil => simp [collapse]
  | cons first rest =>
    rw [collapse_cons]
    constructor
    · intro same
      split at same
      · rename_i all
        cases same
        exact ⟨first,rest,rfl,rfl,List.all_eq_true.mp all⟩
      · cases same
    · rintro ⟨_,_,listed,rfl,all⟩
      cases listed
      rw [if_pos (List.all_eq_true.mpr all)]

theorem collapse_eq_inconsistent [BEq α] {results listed : List (RpcService × RpcResult α)}
    (kept : (inconsistent results).collapse = inconsistent listed) : listed = results := by
  cases results with
  | nil =>
    cases kept
    rfl
  | cons first rest =>
    rw [collapse_cons] at kept
    split at kept
    · cases kept
    · cases kept
      rfl

section Conversion
variable [BEq β] {convert : α → RpcResult β} {results : List (RpcService × RpcResult α)}

/-- A conversion that identifies exactly the values which are alike makes a success of a list exactly
when all of its entries are successes that are alike. -/
theorem andThen_succeeds_iff [PartialEquivBEq β] {alike : α → α → Prop}
    (identifies : ∀ a b x y, convert a = .ok x → convert b = .ok y → ((x == y) = true ↔ alike a b)) :
    (∃ value, (inconsistent results).andThen convert = consistent (.ok value)) ↔ results ≠ [] ∧
      (∀ entry ∈ results, ∃ a x, entry.2 = .ok a ∧ convert a = .ok x) ∧
      ∀ entry ∈ results, ∀ other ∈ results, ∀ a b, entry.2 = .ok a → other.2 = .ok b → alike a b := by
  simp only [andThen_inconsistent,collapse_eq_consistent,convertEach]
  constructor
  · rintro ⟨value,first,rest,listed,_,all⟩
    have each (entry) (inside : entry ∈ results) : ∃ a x, entry.2 = .ok a ∧ convert a = .ok x ∧ (x == value) = true := by
      have same := all _ (List.mem_map_of_mem inside)
      cases returned : entry.2 with
      | error error =>
        rw [returned] at same
        cases same
      | ok a =>
        rw [returned] at same
        change (convert a == .ok value) = true at same
        cases converted : convert a with
        | error error =>
          rw [converted] at same
          cases same
        | ok x =>
          rw [converted] at same
          exact ⟨a,x,rfl,converted,same⟩
    refine ⟨?_,?_,?_⟩
    · rintro rfl
      cases listed
    · intro entry inside
      obtain ⟨a,x,returned,converted,_⟩ := each entry inside
      exact ⟨a,x,returned,converted⟩
    · intro entry inside other inside' a b returned returned'
      obtain ⟨_,x,returned₁,converted,same⟩ := each entry inside
      obtain ⟨_,y,returned₂,converted',same'⟩ := each other inside'
      cases returned.symm.trans returned₁
      cases returned'.symm.trans returned₂
      exact (identifies a b x y converted converted').mp (BEq.trans same (BEq.symm same'))
  · rintro ⟨nonempty,each,alike⟩
    obtain ⟨first,rest,rfl⟩ := List.exists_cons_of_ne_nil nonempty
    obtain ⟨a,x,returned,converted⟩ := each first List.mem_cons_self
    refine ⟨x,_,_,List.map_cons,by rw [returned]; exact converted,?_⟩
    intro entry inside
    obtain ⟨source,member,rfl⟩ := List.mem_map.mp inside
    obtain ⟨b,y,returned',converted'⟩ := each source member
    rw [returned']
    change (convert b == .ok x) = true
    rw [converted']
    exact (identifies b a y x converted' converted).mpr
      (alike source member first List.mem_cons_self b a returned' returned)

theorem andThen_fails_iff {error : RpcError} :
    (inconsistent results).andThen convert = consistent (.error error) ↔ results ≠ [] ∧
      ∀ entry ∈ results, entry.2.bind convert = .error error := by
  have matches_iff (result : RpcResult β) : (result == .error error) = true ↔ result = .error error := by
    cases result with
    | error other => simp
    | ok value => simp
  simp only [andThen_inconsistent,collapse_eq_consistent,convertEach,matches_iff]
  constructor
  · rintro ⟨first,rest,listed,_,all⟩
    refine ⟨?_,fun entry inside => all _ (List.mem_map_of_mem inside)⟩
    rintro rfl
    cases listed
  · rintro ⟨nonempty,all⟩
    obtain ⟨first,rest,rfl⟩ := List.exists_cons_of_ne_nil nonempty
    refine ⟨_,_,List.map_cons,all first List.mem_cons_self,?_⟩
    intro entry inside
    obtain ⟨source,member,rfl⟩ := List.mem_map.mp inside
    exact all source member

theorem andThen_keeps {listed : List (RpcService × RpcResult β)}
    (kept : (inconsistent results).andThen convert = inconsistent listed) :
    List.Forall₂ (ConvertedBy convert) results listed := by
  rw [andThen_inconsistent] at kept
  rw [collapse_eq_inconsistent kept]
  exact convertEach_converted convert results

end Conversion

/-- A conversion that converts all values which are alike or none of them, and to values that are alike. -/
def Respects [BEq α] [BEq β] (convert : α → RpcResult β) : Prop :=
  ∀ a b y, (a == b) = true → convert b = .ok y → ∃ x, convert a = .ok x ∧ (x == y) = true

/-- A consistent success of a list that has been converted twice is one of all its entries. -/
theorem andThen_map_eq_consistent_ok {γ : Type} [BEq β] [BEq γ] {f : α → β} {convert : β → RpcResult γ}
    (respects : Respects convert) {results : List (RpcService × RpcResult α)} {value : γ}
    (outcome : ((inconsistent results).map f).andThen convert = consistent (.ok value)) :
    ∀ entry ∈ results, ∃ v x, entry.2 = .ok v ∧ convert (f v) = .ok x ∧ (x == value) = true := by
  intro entry inside
  cases mapped : (inconsistent results).map f with
  | consistent result =>
    rw [mapped] at outcome
    cases result with
    | error error => cases outcome
    | ok middle =>
      have converted : convert middle = .ok value := consistent.inj outcome
      obtain ⟨v,impossible,_⟩ | ⟨listed,same,_,all⟩ := map_eq_consistent_ok mapped
      · cases impossible
      · cases same
        obtain ⟨v,returned,alike⟩ := all entry inside
        obtain ⟨x,done,alike'⟩ := respects _ _ _ alike converted
        exact ⟨v,x,returned,done,alike'⟩
  | inconsistent listed =>
    rw [mapped,andThen_inconsistent,collapse_eq_consistent] at outcome
    obtain ⟨_,_,_,_,all⟩ := outcome
    rw [map_inconsistent] at mapped
    obtain rfl := collapse_eq_inconsistent mapped
    have own := all (entry.1,(entry.2.map f).bind convert) (List.mem_map_of_mem (List.mem_map_of_mem inside))
    cases returned : entry.2 with
    | error error =>
      rw [returned] at own
      cases own
    | ok v =>
      rw [returned] at own
      change (convert (f v) == .ok value) = true at own
      cases converted : convert (f v) with
      | error error =>
        rw [converted] at own
        cases own
      | ok x =>
        rw [converted] at own
        exact ⟨v,x,rfl,converted,own⟩

end MultiRpcResult
end EvmRpc
