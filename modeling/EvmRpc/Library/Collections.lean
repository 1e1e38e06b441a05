import Mathlib.Data.List.Sort
import Mathlib.Data.List.Dedup
import Mathlib.Data.Finset.Card
import Mathlib.Data.Finset.Dedup

/-! Ordered sets and maps as strictly increasing lists, and stable sorting by a key. -/
namespace Library

/-- A finite set kept as the strictly increasing list of its elements. -/
structure OrderedSet (α : Type) [LinearOrder α] where
  elements : List α
  sorted : elements.SortedLT

namespace OrderedSet
variable {α : Type} [LinearOrder α]

instance : DecidableEq (OrderedSet α) := fun a b =>
  decidable_of_iff (a.elements = b.elements) (by cases a; cases b; simp)

def ofList (items : List α) : OrderedSet α where
  elements := items.dedup.insertionSort (· ≤ ·)
  sorted := by
    apply List.SortedLE.sortedLT_of_nodup
    · exact List.sortedLE_insertionSort
    · exact (List.perm_insertionSort _ _).nodup_iff.mpr (List.nodup_dedup _)

def card (s : OrderedSet α) : Nat := s.elements.length

theorem nodup (s : OrderedSet α) : s.elements.Nodup := s.sorted.nodup

@[simp] theorem mem_ofList {items : List α} {a : α} : a ∈ (ofList items).elements ↔ a ∈ items := by
  simp [ofList]

@[simp] theorem card_ofList (items : List α) : (ofList items).card = items.dedup.length := by
  simp [ofList,card]

theorem card_eq_length {items : List α} : (ofList items).card = items.length ↔ items.Nodup := by
  rw [card_ofList]
  constructor
  · intro same
    have equal := (List.dedup_sublist items).eq_of_length same
    exact equal ▸ List.nodup_dedup items
  · intro distinct
    rw [distinct.dedup]

@[ext] theorem ext {s t : OrderedSet α} (same : ∀ a, a ∈ s.elements ↔ a ∈ t.elements) : s = t := by
  have equal := s.sorted.eq_of_mem_iff t.sorted same
  cases s; cases t
  simpa using equal

end OrderedSet

/-- A finite map kept as the list of its entries by strictly increasing key. -/
structure OrderedMap (κ α : Type) [LinearOrder κ] where
  entries : List (κ × α)
  sorted : entries.Pairwise (fun a b => a.1 < b.1)

namespace OrderedMap
variable {κ α : Type} [LinearOrder κ]

/-- A value given for a key replaces the one before. -/
def insertEntry (key : κ) (value : α) : List (κ × α) → List (κ × α)
  | [] => [(key,value)]
  | (other,given)::rest =>
    if key < other then (key,value)::(other,given)::rest
    else if key = other then (key,value)::rest
    else (other,given)::insertEntry key value rest

private theorem mem_insertEntry {key : κ} {value : α} {entries : List (κ × α)} {entry : κ × α}
    (inside : entry ∈ insertEntry key value entries) : entry = (key,value) ∨ entry ∈ entries := by
  induction entries with
  | nil => exact .inl (List.mem_singleton.mp inside)
  | cons first rest ih =>
    obtain ⟨other,given⟩ := first
    simp only [insertEntry] at inside
    split_ifs at inside with below same
    · exact List.mem_cons.mp inside
    · exact (List.mem_cons.mp inside).imp_right (List.mem_cons_of_mem _)
    · rcases List.mem_cons.mp inside with rfl | later
      · exact .inr (by simp)
      · exact (ih later).imp_right (List.mem_cons_of_mem _)

private theorem sorted_insertEntry (key : κ) (value : α) {entries : List (κ × α)}
    (sorted : entries.Pairwise (fun a b => a.1 < b.1)) :
    (insertEntry key value entries).Pairwise (fun a b => a.1 < b.1) := by
  induction entries with
  | nil => simp [insertEntry]
  | cons first rest ih =>
    obtain ⟨other,given⟩ := first
    obtain ⟨before,tail⟩ := List.pairwise_cons.mp sorted
    simp only [insertEntry]
    split_ifs with below same
    · apply List.pairwise_cons.mpr ⟨_,sorted⟩
      intro entry inside
      rcases List.mem_cons.mp inside with rfl | later
      · exact below
      · exact below.trans (before entry later)
    · subst key
      exact List.pairwise_cons.mpr ⟨before,tail⟩
    · apply List.pairwise_cons.mpr ⟨_,ih tail⟩
      intro entry inside
      rcases mem_insertEntry inside with rfl | later
      · exact lt_of_le_of_ne (not_lt.mp below) (Ne.symm same)
      · exact before entry later

def insert (map : OrderedMap κ α) (key : κ) (value : α) : OrderedMap κ α :=
  ⟨insertEntry key value map.entries,sorted_insertEntry key value map.sorted⟩

def ofList (entries : List (κ × α)) : OrderedMap κ α :=
  entries.foldl (fun map entry => map.insert entry.1 entry.2) ⟨[],.nil⟩

private theorem perm_insertEntry {key : κ} {entries : List (κ × α)} (fresh : key ∉ entries.map Prod.fst)
    (value : α) : (insertEntry key value entries).Perm ((key,value)::entries) := by
  induction entries with
  | nil => exact .refl _
  | cons first rest ih =>
    obtain ⟨other,given⟩ := first
    obtain ⟨differ,later⟩ : key ≠ other ∧ key ∉ rest.map Prod.fst := by simpa using fresh
    simp only [insertEntry,differ,if_false]
    split
    · exact .refl _
    · exact ((ih later).cons _).trans (.swap _ _ _)

private theorem perm_foldl {entries : List (κ × α)} {map : OrderedMap κ α}
    (distinct : ((map.entries ++ entries).map Prod.fst).Nodup) :
    (entries.foldl (fun map entry => map.insert entry.1 entry.2) map).entries.Perm (map.entries ++ entries) := by
  induction entries generalizing map with
  | nil => simp
  | cons entry rest ih =>
    have moved : ((entry::map.entries) ++ rest).Perm (map.entries ++ entry::rest) := List.perm_middle.symm
    have apart : entry.1 ∉ map.entries.map Prod.fst := by
      have whole := (moved.map Prod.fst).nodup_iff.mpr distinct
      rw [List.cons_append,List.map_cons,List.nodup_cons,List.map_append,List.mem_append] at whole
      exact fun inside => whole.1 (.inl inside)
    have inserted := perm_insertEntry apart entry.2
    have shuffled : ((map.insert entry.1 entry.2).entries ++ rest).Perm (map.entries ++ entry::rest) :=
      (inserted.append_right rest).trans moved
    exact (ih ((shuffled.map Prod.fst).nodup_iff.mpr distinct)).trans shuffled

theorem perm_ofList {entries : List (κ × α)} (distinct : (entries.map Prod.fst).Nodup) :
    (ofList entries).entries.Perm entries := @perm_foldl κ α _ entries ⟨[],.nil⟩ distinct

theorem nodup_keys (map : OrderedMap κ α) : (map.entries.map Prod.fst).Nodup :=
  List.pairwise_map.mpr (map.sorted.imp ne_of_lt)

/-- Two maps with the same entries are equal. -/
theorem ext_of_perm {first second : OrderedMap κ α} (same : first.entries.Perm second.entries) : first = second := by
  have equal := same.eq_of_pairwise (fun _ _ _ _ below above => absurd (below.trans above) (lt_irrefl _))
    first.sorted second.sorted
  cases first
  cases second
  simpa using equal

/-- The order in which distinct keys are given does not matter. -/
theorem ofList_of_perm {entries others : List (κ × α)} (same : entries.Perm others)
    (distinct : (entries.map Prod.fst).Nodup) : ofList entries = ofList others := by
  have distinct' := (same.map Prod.fst).nodup_iff.mp distinct
  exact ext_of_perm ((perm_ofList distinct).trans (same.trans (perm_ofList distinct').symm))

theorem ofList_entries (map : OrderedMap κ α) : ofList map.entries = map :=
  ext_of_perm (perm_ofList map.nodup_keys)

private theorem mem_foldl {entries : List (κ × α)} {map : OrderedMap κ α} {entry : κ × α}
    (inside : entry ∈ (entries.foldl (fun map entry => map.insert entry.1 entry.2) map).entries) :
    entry ∈ map.entries ∨ entry ∈ entries := by
  induction entries generalizing map with
  | nil => exact .inl inside
  | cons first rest ih =>
    rcases ih inside with before | later
    · exact (mem_insertEntry before).elim (fun same => .inr (by simp [same])) .inl
    · exact .inr (List.mem_cons_of_mem first later)

theorem mem_of_mem_ofList {entries : List (κ × α)} {entry : κ × α} (inside : entry ∈ (ofList entries).entries) :
    entry ∈ entries := (mem_foldl inside).resolve_left List.not_mem_nil

end OrderedMap

/-- `sorted` lists `items` by ascending `key`, keeping the order of items whose
keys are equal. -/
structure StableSort {α β : Type} [LinearOrder β] (key : α → β) (items sorted : List α) : Prop where
  perm : sorted.Perm items
  ascending : sorted.Pairwise (fun a b => key a ≤ key b)
  stable : ∀ k, sorted.filter (fun a => key a = k) = items.filter (fun a => key a = k)

namespace StableSort
variable {α β : Type} [LinearOrder β] {key : α → β}

def sort (key : α → β) (items : List α) : List α :=
  items.insertionSort (fun a b => key a ≤ key b)

private theorem filter_orderedInsert (k : β) (a : α) (items : List α)
    (ascending : items.Pairwise (fun a b => key a ≤ key b)) :
    (items.orderedInsert (fun a b => key a ≤ key b) a).filter (fun x => key x = k) =
      (a::items).filter (fun x => key x = k) := by
  induction items with
  | nil => simp
  | cons b rest ih =>
    rw [List.orderedInsert_cons]
    split
    · rfl
    · rename_i above
      have tail := ih (List.pairwise_cons.mp ascending).2
      have differ : key a ≠ key b := fun equal => above (le_of_eq equal)
      rw [List.filter_cons,tail]
      by_cases first : key a = k
      · have second : key b ≠ k := fun equal => differ (first.trans equal.symm)
        simp [first,second]
      · simp [first,List.filter_cons]

theorem sort_spec (items : List α) : StableSort key items (sort key items) where
  perm := List.perm_insertionSort _ _
  ascending := by
    have total : Std.Total (fun a b : α => key a ≤ key b) := ⟨fun a b => le_total _ _⟩
    have trans : IsTrans α (fun a b : α => key a ≤ key b) := ⟨fun _ _ _ => le_trans⟩
    exact List.pairwise_insertionSort _ _
  stable := by
    intro k
    induction items with
    | nil => rfl
    | cons a rest ih =>
      have total : Std.Total (fun a b : α => key a ≤ key b) := ⟨fun a b => le_total _ _⟩
      have trans : IsTrans α (fun a b : α => key a ≤ key b) := ⟨fun _ _ _ => le_trans⟩
      have ordered : (sort key rest).Pairwise (fun a b => key a ≤ key b) :=
        List.pairwise_insertionSort _ _
      change ((sort key rest).orderedInsert _ a).filter _ = _
      rw [filter_orderedInsert k a _ ordered,List.filter_cons,List.filter_cons,ih]

/-- A stable sort is determined by its key and its input. -/
theorem unique {items first second : List α} (left : StableSort key items first)
    (right : StableSort key items second) : first = second := by
  induction first generalizing items second with
  | nil =>
    have empty := left.perm.symm.trans (List.Perm.refl _)
    have none := right.perm.trans empty
    exact (List.perm_nil.mp none).symm
  | cons a rest ih =>
    cases second with
    | nil => exact List.perm_nil.mp (left.perm.trans right.perm.symm)
    | cons b others =>
      have shared : (a::rest).Perm (b::others) := left.perm.trans right.perm.symm
      have above (x) (inside : x ∈ b::others) : key a ≤ key x := by
        rcases List.mem_cons.mp (shared.mem_iff.mpr inside) with rfl | later
        · exact le_refl _
        · exact (List.pairwise_cons.mp left.ascending).1 x later
      have below (x) (inside : x ∈ a::rest) : key b ≤ key x := by
        rcases List.mem_cons.mp (shared.mem_iff.mp inside) with rfl | later
        · exact le_refl _
        · exact (List.pairwise_cons.mp right.ascending).1 x later
      have level : key a = key b := le_antisymm (above b (by simp)) (below a (by simp))
      have heads := (left.stable (key a)).trans (right.stable (key a)).symm
      have same : a = b := by simpa [level] using congrArg List.head? heads
      subst b
      have tails (k : β) : rest.filter (fun x => key x = k) = others.filter (fun x => key x = k) := by
        have whole := (left.stable k).trans (right.stable k).symm
        by_cases first : key a = k
        · simpa [List.filter_cons,first] using whole
        · simpa [List.filter_cons,first] using whole
      have remaining : StableSort key rest rest :=
        ⟨List.Perm.refl _,(List.pairwise_cons.mp left.ascending).2,fun _ => rfl⟩
      have other : StableSort key rest others :=
        ⟨(List.perm_cons a).mp shared.symm,(List.pairwise_cons.mp right.ascending).2,
          fun k => (tails k).symm⟩
      rw [ih remaining other]

theorem eq_sort {items sorted : List α} (spec : StableSort key items sorted) :
    sorted = sort key items := spec.unique (sort_spec items)

theorem sort_congr {other : α → β} {items : List α} (agree : ∀ a ∈ items, key a = other a) :
    sort key items = sort other items := by
  have spec : StableSort key items _ := sort_spec items
  have agreed : ∀ a ∈ sort key items, key a = other a := fun a inside => agree a (spec.perm.mem_iff.mp inside)
  refine eq_sort ⟨spec.perm,?_,fun k => ?_⟩
  · refine spec.ascending.imp_of_mem (fun left right le => ?_)
    rwa [← agreed _ left,← agreed _ right]
  · have level := spec.stable k
    have first : (sort key items).filter (fun a => key a = k) = (sort key items).filter (fun a => other a = k) :=
      List.filter_congr (fun a inside => by rw [agreed a inside])
    have second : items.filter (fun a => key a = k) = items.filter (fun a => other a = k) :=
      List.filter_congr (fun a inside => by rw [agree a inside])
    rw [← first,← second,level]

theorem sort_perm {first second : List α} (shared : first.Perm second)
    (injective : ∀ a ∈ first, ∀ b ∈ first, key a = key b → a = b) :
    sort key first = sort key second := by
  have left : StableSort key first _ := sort_spec first
  have right : StableSort key second _ := sort_spec second
  have both : (sort key first).Perm (sort key second) :=
    (left.perm.trans shared).trans right.perm.symm
  refine both.eq_of_pairwise ?_ left.ascending right.ascending
  intro a b inside present upward downward
  exact injective a (left.perm.mem_iff.mp inside) b
    (shared.mem_iff.mpr (right.perm.mem_iff.mp present)) (le_antisymm upward downward)

theorem sort_idempotent (items : List α) : sort key (sort key items) = sort key items := by
  have spec : StableSort key items _ := sort_spec items
  exact (unique ⟨List.Perm.refl _,spec.ascending,fun _ => rfl⟩ (sort_spec _)).symm

end StableSort

/-- Of what numbered slots hold, only the part of one slot differs. -/
theorem flatMap_range_update {α : Type} {before after : ℕ → List α} {size later slot : ℕ} (inside : slot < later)
    (bound : size ≤ later) (unused : ∀ i, size ≤ i → before i = []) (others : ∀ i, i ≠ slot → after i = before i) :
    ∃ rest, ((List.range size).flatMap before).Perm (before slot ++ rest) ∧
      ((List.range later).flatMap after).Perm (after slot ++ rest) := by
  obtain ⟨extra,rfl⟩ := Nat.exists_eq_add_of_le bound
  have nothing : ((List.range extra).map (size + ·)).flatMap before = [] := by
    rw [List.flatMap_eq_nil_iff]
    intro i inside
    obtain ⟨offset,_,rfl⟩ := List.mem_map.mp inside
    exact unused _ (Nat.le_add_right _ _)
  have same : (List.range size).flatMap before = (List.range (size+extra)).flatMap before := by
    rw [List.range_add,List.flatMap_append,nothing,List.append_nil]
  have present : slot ∈ List.range (size+extra) := List.mem_range.mpr inside
  have split := List.perm_cons_erase present
  have kept : ((List.range (size+extra)).erase slot).flatMap after =
      ((List.range (size+extra)).erase slot).flatMap before :=
    List.flatMap_congr (fun i inside => others i (fun same => List.nodup_range.not_mem_erase (same ▸ inside)))
  refine ⟨((List.range (size+extra)).erase slot).flatMap before,?_,?_⟩
  · rw [same]
    exact split.flatMap_right before
  · rw [← kept]
    exact split.flatMap_right after

theorem mapM_of_each {α β ε : Type} {f : α → Except ε β} {related : α → β → Prop} {items : List α}
    (each : ∀ a ∈ items, ∃ b, f a = .ok b ∧ related a b) :
    ∃ converted, items.mapM f = .ok converted ∧ List.Forall₂ related items converted := by
  induction items with
  | nil => exact ⟨[],rfl,.nil⟩
  | cons a items ih =>
    obtain ⟨b,first,same⟩ := each a (by simp)
    obtain ⟨rest,others,all⟩ := ih (fun other inside => each other (by simp [inside]))
    refine ⟨b::rest,?_,.cons same all⟩
    rw [List.mapM_cons,first,others]
    rfl

end Library
