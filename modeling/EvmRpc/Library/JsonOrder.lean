import Mathlib.Data.List.Forall2
import Mathlib.Data.String.Basic
import EvmRpc.Library.Collections
import EvmRpc.Library.Json

/-! JSON values up to the order in which objects list their members, and the one
representative whose members are sorted by name. -/
namespace Library.Json

/-- Equal up to the order of members at any depth. `renewed` has the member names of
the first object in their places, with values that are the same again. -/
inductive Same : Json → Json → Prop
  | null : Same .null .null
  | bool (value : Bool) : Same (.bool value) (.bool value)
  | number (token : Number) : Same (.number token) (.number token)
  | string (text : String) : Same (.string text) (.string text)
  | array (items others : List Json) (each : List.Forall₂ Same items others) : Same (.array items) (.array others)
  | object (members renewed others : List (String × Json))
      (names : members.map Prod.fst = renewed.map Prod.fst)
      (each : List.Forall₂ Same (members.map Prod.snd) (renewed.map Prod.snd)) (order : renewed.Perm others) :
      Same (.object members) (.object others)

/-- No object lists a name twice. -/
inductive Distinct : Json → Prop
  | null : Distinct .null
  | bool (value : Bool) : Distinct (.bool value)
  | number (token : Number) : Distinct (.number token)
  | string (text : String) : Distinct (.string text)
  | array (items : List Json) (each : ∀ item ∈ items, Distinct item) : Distinct (.array items)
  | object (members : List (String × Json)) (names : (members.map Prod.fst).Nodup)
      (each : ∀ member ∈ members, Distinct member.2) : Distinct (.object members)

/-- Every object lists its members by strictly increasing name. -/
inductive Sorted : Json → Prop
  | null : Sorted .null
  | bool (value : Bool) : Sorted (.bool value)
  | number (token : Number) : Sorted (.number token)
  | string (text : String) : Sorted (.string text)
  | array (items : List Json) (each : ∀ item ∈ items, Sorted item) : Sorted (.array items)
  | object (members : List (String × Json)) (names : members.Pairwise (fun a b => a.1 < b.1))
      (each : ∀ member ∈ members, Sorted member.2) : Sorted (.object members)

/-- All numbers satisfy `good`. -/
inductive Numbers (good : Number → Prop) : Json → Prop
  | null : Numbers good .null
  | bool (value : Bool) : Numbers good (.bool value)
  | number (token : Number) (fine : good token) : Numbers good (.number token)
  | string (text : String) : Numbers good (.string text)
  | array (items : List Json) (each : ∀ item ∈ items, Numbers good item) : Numbers good (.array items)
  | object (members : List (String × Json)) (each : ∀ member ∈ members, Numbers good member.2) :
      Numbers good (.object members)

mutual
def sort : Json → Json
  | .array items => .array (sortItems items)
  | .object members => .object (OrderedMap.ofList (sortValues members)).entries
  | json => json

def sortItems : List Json → List Json
  | [] => []
  | item::rest => item.sort::sortItems rest

def sortValues : List (String × Json) → List (String × Json)
  | [] => []
  | (name,value)::rest => (name,value.sort)::sortValues rest
end

theorem sortItems_eq (items : List Json) : sortItems items = items.map sort := by
  induction items with
  | nil => rfl
  | cons item rest ih => rw [sortItems,ih,List.map_cons]

theorem sortValues_eq (members : List (String × Json)) :
    sortValues members = (members.map Prod.fst).zip ((members.map Prod.snd).map sort) := by
  induction members with
  | nil => rfl
  | cons member rest ih => rw [sortValues,ih,List.map_cons,List.map_cons,List.map_cons,List.zip_cons_cons]

theorem sortValues_eq_map (members : List (String × Json)) :
    sortValues members = members.map (fun member => (member.1,member.2.sort)) := by
  induction members with
  | nil => rfl
  | cons member rest ih => rw [sortValues,ih,List.map_cons]

private theorem names_sortValues (members : List (String × Json)) :
    (sortValues members).map Prod.fst = members.map Prod.fst := by
  simp [sortValues_eq_map,Function.comp_def]

private theorem map_eq_of_forall₂ {α : Type} {items others : List Json} {R : Json → Json → Prop} {f g : Json → α}
    (related : List.Forall₂ R items others) (each : ∀ item ∈ items, ∀ other, R item other → f item = g other) :
    items.map f = others.map g := by
  induction related with
  | nil => rfl
  | cons first _ ih =>
    rw [List.map_cons,List.map_cons,each _ (by simp) _ first,
      ih (fun item inside => each item (by simp [inside]))]

theorem Same.refl (json : Json) : Same json json := by
  induction json using Json.induction with
  | null => exact .null
  | bool value => exact .bool value
  | number token => exact .number token
  | string text => exact .string text
  | array items ih => exact .array items items (List.forall₂_same.mpr ih)
  | object members ih =>
    exact .object members members members rfl (List.forall₂_same.mpr (List.forall_mem_map.mpr ih)) (.refl members)

/-- Equal values have one sorted form. -/
theorem Same.sort_eq {first second : Json} (same : Same first second) (distinct : first.Distinct) :
    first.sort = second.sort := by
  induction first using Json.induction generalizing second with
  | null | bool value | number token | string text =>
    cases same
    rfl
  | array items ih =>
    cases same with
    | array _ others each =>
      cases distinct with
      | array _ fine =>
        have equal := map_eq_of_forall₂ each (fun item inside other same => ih item inside same (fine item inside))
        rw [sort,sort,sortItems_eq,sortItems_eq,equal]
  | object members ih =>
    cases same with
    | object _ renewed others names each order =>
      cases distinct with
      | object _ apart fine =>
        have equal := map_eq_of_forall₂ each (f := sort) (g := sort) (by
          intro item inside other same
          obtain ⟨member,listed,rfl⟩ := List.mem_map.mp inside
          exact ih member listed same (fine member listed))
        have values : sortValues members = sortValues renewed := by
          rw [sortValues_eq,sortValues_eq,names,equal]
        have shuffled : (sortValues renewed).Perm (sortValues others) := by
          rw [sortValues_eq_map,sortValues_eq_map]
          exact order.map _
        rw [sort,sort,values,OrderedMap.ofList_of_perm shuffled]
        rw [names_sortValues,← names]
        exact apart

/-- The sorted form is the same value. -/
theorem same_sort {json : Json} (distinct : json.Distinct) : Same json json.sort := by
  induction json using Json.induction with
  | null => exact .null
  | bool value => exact .bool value
  | number token => exact .number token
  | string text => exact .string text
  | array items ih =>
    cases distinct with
    | array _ fine =>
      rw [sort,sortItems_eq]
      refine .array _ _ (List.forall₂_map_right_iff.mpr ?_)
      exact List.forall₂_same.mpr (fun item inside => ih item inside (fine item inside))
  | object members ih =>
    cases distinct with
    | object _ apart fine =>
      have apart' : ((sortValues members).map Prod.fst).Nodup := by rwa [names_sortValues]
      refine .object _ (sortValues members) _ (names_sortValues members).symm ?_ (OrderedMap.perm_ofList apart').symm
      have values : (sortValues members).map Prod.snd = (members.map Prod.snd).map sort := by
        simp [sortValues_eq_map,Function.comp_def]
      rw [values]
      apply List.forall₂_map_right_iff.mpr
      apply List.forall₂_same.mpr
      intro item inside
      obtain ⟨member,listed,rfl⟩ := List.mem_map.mp inside
      exact ih member listed (fine member listed)

theorem sorted_sort (json : Json) : json.sort.Sorted := by
  induction json using Json.induction with
  | null => exact .null
  | bool value => exact .bool value
  | number token => exact .number token
  | string text => exact .string text
  | array items ih =>
    rw [sort,sortItems_eq]
    exact .array _ (List.forall_mem_map.mpr ih)
  | object members ih =>
    refine .object _ (OrderedMap.ofList _).sorted ?_
    intro member inside
    have listed := OrderedMap.mem_of_mem_ofList inside
    rw [sortValues_eq_map] at listed
    obtain ⟨given,present,rfl⟩ := List.mem_map.mp listed
    exact ih given present

/-- A sorted value is its own sorted form. -/
theorem Sorted.sort_eq {json : Json} (sorted : json.Sorted) : json.sort = json := by
  induction json using Json.induction with
  | null | bool value | number token | string text => rfl
  | array items ih =>
    cases sorted with
    | array _ fine =>
      have unchanged : items.map sort = items.map id :=
        List.map_congr_left (fun item inside => ih item inside (fine item inside))
      rw [sort,sortItems_eq,unchanged,List.map_id]
  | object members ih =>
    cases sorted with
    | object _ names fine =>
      have unchanged : members.map (fun member => (member.1,member.2.sort)) = members.map id :=
        List.map_congr_left (fun member inside => Prod.ext rfl (ih member inside (fine member inside)))
      have values : sortValues members = members := by rw [sortValues_eq_map,unchanged,List.map_id]
      rw [sort,values]
      exact congrArg (fun map => Json.object map.entries) (OrderedMap.ofList_entries ⟨members,names⟩)

theorem depthItems_eq (items : List Json) : depthItems items = (items.map depth).foldr max 0 := by
  induction items with
  | nil => rfl
  | cons item rest ih => rw [depthItems,ih,List.map_cons,List.foldr_cons]

theorem depthMembers_eq (members : List (String × Json)) :
    depthMembers members = ((members.map Prod.snd).map depth).foldr max 0 := by
  induction members with
  | nil => rfl
  | cons member rest ih => rw [depthMembers,ih,List.map_cons,List.map_cons,List.foldr_cons]

theorem Same.depth_eq {first second : Json} (same : Same first second) : first.depth = second.depth := by
  induction first using Json.induction generalizing second with
  | null | bool value | number token | string text =>
    cases same
    rfl
  | array items ih =>
    cases same with
    | array _ others each =>
      have depths : items.map depth = others.map depth :=
        map_eq_of_forall₂ each (fun item inside other same => ih item inside same)
      rw [depth,depth,depthItems_eq,depthItems_eq,depths]
  | object members ih =>
    cases same with
    | object _ renewed others names each order =>
      have depths : (members.map Prod.snd).map depth = (renewed.map Prod.snd).map depth := by
        apply map_eq_of_forall₂ each
        intro item inside other same
        obtain ⟨member,listed,rfl⟩ := List.mem_map.mp inside
        exact ih member listed same
      have shuffled : ((renewed.map Prod.snd).map depth).Perm ((others.map Prod.snd).map depth) :=
        (order.map Prod.snd).map depth
      rw [depth,depth,depthMembers_eq,depthMembers_eq,depths,shuffled.foldr_eq 0]

private theorem forall_of_forall₂ {items others : List Json} {R : Json → Json → Prop} {P Q : Json → Prop}
    (related : List.Forall₂ R items others) (fine : ∀ item ∈ items, P item)
    (each : ∀ item ∈ items, ∀ other, R item other → P item → Q other) : ∀ other ∈ others, Q other := by
  induction related with
  | nil => simp
  | cons first _ ih =>
    refine List.forall_mem_cons.mpr ⟨each _ (by simp) _ first (fine _ (by simp)),ih ?_ ?_⟩
    · exact fun item inside => fine item (by simp [inside])
    · exact fun item inside => each item (by simp [inside])

/-- What carries over to equal values carries over to the members of equal objects. -/
private theorem forall_members {members renewed others : List (String × Json)} {P : Json → Prop}
    (each : List.Forall₂ Same (members.map Prod.snd) (renewed.map Prod.snd)) (order : renewed.Perm others)
    (fine : ∀ member ∈ members, P member.2)
    (kept : ∀ member ∈ members, ∀ other, Same member.2 other → P member.2 → P other) : ∀ other ∈ others, P other.2 := by
  have values := forall_of_forall₂ each (List.forall_mem_map.mpr fine) (List.forall_mem_map.mpr kept)
  intro other inside
  exact values other.2 (List.mem_map_of_mem (order.mem_iff.mpr inside))

theorem Same.numbers {good : Number → Prop} {first second : Json} (same : Same first second)
    (fine : first.Numbers good) : second.Numbers good := by
  induction first using Json.induction generalizing second with
  | null | bool value | number token | string text =>
    cases same
    exact fine
  | array items ih =>
    cases same with
    | array _ others each =>
      cases fine with
      | array _ fine => exact .array _ (forall_of_forall₂ each fine (fun item inside other same => ih item inside same))
  | object members ih =>
    cases same with
    | object _ renewed others names each order =>
      cases fine with
      | object _ fine =>
        exact .object _ (forall_members each order fine (fun member inside other same => ih member inside same))

theorem Same.distinct {first second : Json} (same : Same first second) (distinct : first.Distinct) :
    second.Distinct := by
  induction first using Json.induction generalizing second with
  | null | bool value | number token | string text =>
    cases same
    exact distinct
  | array items ih =>
    cases same with
    | array _ others each =>
      cases distinct with
      | array _ fine => exact .array _ (forall_of_forall₂ each fine (fun item inside other same => ih item inside same))
  | object members ih =>
    cases same with
    | object _ renewed others names each order =>
      cases distinct with
      | object _ apart fine =>
        apply Distinct.object
        · exact (order.map Prod.fst).nodup_iff.mp (names ▸ apart)
        · exact forall_members each order fine (fun member inside other same => ih member inside same)

end Library.Json
