import Mathlib.Data.Nat.Notation
import EvmRpc.Library.Collections

/-! The timed map of `canhttp::multi`, as far as the canister uses it: for each
key the times of its entries, oldest first. The crate is a parameter, `Lawful` is
what the canister relies on and `reference` is a map that has these properties. -/
namespace EvmRpc
open Library

/-- Nanoseconds since the Unix epoch. -/
abbrev Timestamp := UInt64

structure TimedSizedMap (κ M : Type) where
  new : (expiration capacity : ℕ) → M
  insertEvict : Timestamp → κ → M → M
  evictExpired : List κ → Timestamp → M → M
  get : M → κ → Option (List Timestamp)
  sortKeysBy : M → List κ → (Option (List Timestamp) → ℕᵒᵈ) → List κ

namespace TimedSizedMap
variable {κ M : Type} [DecidableEq κ]

def entries (timed : TimedSizedMap κ M) (map : M) (key : κ) : List Timestamp := (timed.get map key).getD []

def alive (expiration : ℕ) (now : Timestamp) (times : List Timestamp) : List Timestamp :=
  times.filter (fun t => now.toNat ≤ t.toNat+expiration)

def newest (capacity : ℕ) (times : List Timestamp) : List Timestamp :=
  times.drop (times.length-capacity)

/-- Entries strictly older than the expiration are dropped, and beyond the
capacity the oldest. `made` holds of the maps that come from `new` through the
operations, inserted in time order. -/
structure Lawful (timed : TimedSizedMap κ M) (expiration capacity : ℕ) (made : M → Prop) : Prop where
  made_new : made (timed.new expiration capacity)
  made_insertEvict : ∀ map key (now : Timestamp), made map → (∀ t ∈ timed.entries map key, t ≤ now) →
    made (timed.insertEvict now key map)
  made_evictExpired : ∀ map keys now, made map → made (timed.evictExpired keys now map)
  entries_new : ∀ key, timed.entries (timed.new expiration capacity) key = []
  entries_insertEvict : ∀ map key (now : Timestamp), made map → (∀ t ∈ timed.entries map key, t ≤ now) →
    ∀ other, timed.entries (timed.insertEvict now key map) other =
      if other = key then newest capacity (alive expiration now (timed.entries map key) ++ [now])
      else timed.entries map other
  entries_evictExpired : ∀ map keys now, made map → ∀ key,
    timed.entries (timed.evictExpired keys now map) key =
      if key ∈ keys then alive expiration now (timed.entries map key) else timed.entries map key
  sortKeysBy_stable : ∀ map keys measure,
    StableSort (fun key => measure (timed.get map key)) keys (timed.sortKeysBy map keys measure)

section Histories

def timesOf (history : List (κ × Timestamp)) (key : κ) : List Timestamp :=
  (history.filter (fun entry => entry.1 = key)).map Prod.snd

theorem length_newest (capacity : ℕ) (times : List Timestamp) :
    (newest capacity times).length = min capacity times.length := by
  simp only [newest,List.length_drop]
  omega

theorem newest_append_singleton (capacity : ℕ) (times : List Timestamp) (t : Timestamp) :
    newest capacity (newest capacity times ++ [t]) = newest capacity (times ++ [t]) := by
  have moved : times.drop (times.length-capacity) ++ [t] = (times ++ [t]).drop (times.length-capacity) := by
    rw [List.drop_append_of_le_length (Nat.sub_le _ _)]
  unfold newest
  rw [moved,List.drop_drop]
  congr 1
  simp only [List.length_drop,List.length_append,List.length_singleton]
  omega

/-- In time order the entries that are alive are the last ones. -/
private theorem alive_drop (expiration : ℕ) (now : Timestamp) {times : List Timestamp}
    (ordered : times.Pairwise (· ≤ ·)) : ∃ expired, expired ≤ times.length ∧
      ∀ dropped, alive expiration now (times.drop dropped) = times.drop (max dropped expired) := by
  induction times with
  | nil => exact ⟨0,le_refl 0,fun dropped => by simp [alive]⟩
  | cons t times ih =>
    obtain ⟨above,tail⟩ := List.pairwise_cons.mp ordered
    by_cases fresh : now.toNat ≤ t.toNat+expiration
    · refine ⟨0,Nat.zero_le _,fun dropped => ?_⟩
      rw [Nat.max_zero,alive,List.filter_eq_self]
      intro s inside
      have order : t.toNat ≤ s.toNat := by
        rcases List.mem_cons.mp (List.mem_of_mem_drop inside) with rfl | later
        · exact le_refl _
        · exact UInt64.le_iff_toNat_le.mp (above s later)
      simp only [decide_eq_true_eq]
      omega
    · obtain ⟨expired,within,rest⟩ := ih tail
      refine ⟨expired+1,Nat.succ_le_succ within,fun dropped => ?_⟩
      cases dropped with
      | zero =>
        have front := rest 0
        simp only [List.drop_zero,Nat.zero_max] at front
        simp only [List.drop_zero,Nat.zero_max,List.drop_succ_cons,← front]
        simp [alive,fresh]
      | succ dropped =>
        rw [List.drop_succ_cons,rest dropped,Nat.succ_max_succ,List.drop_succ_cons]

/-- Dropping the oldest entries beyond the capacity hides none of the newest alive. -/
theorem newest_alive_newest (expiration capacity : ℕ) (now : Timestamp) {times : List Timestamp}
    (ordered : times.Pairwise (· ≤ ·)) :
    newest capacity (alive expiration now (newest capacity times)) = newest capacity (alive expiration now times) := by
  obtain ⟨expired,within,drop⟩ := alive_drop expiration now ordered
  have all := drop 0
  simp only [List.drop_zero,Nat.zero_max] at all
  rw [newest,newest,newest,drop,all]
  simp only [List.length_drop,List.drop_drop]
  congr 1
  omega

theorem alive_alive (expiration : ℕ) {now later : Timestamp} (le : now ≤ later) (times : List Timestamp) :
    alive expiration later (alive expiration now times) = alive expiration later times := by
  unfold alive
  rw [List.filter_filter]
  refine List.filter_congr (fun t _ => ?_)
  have order := UInt64.le_iff_toNat_le.mp le
  by_cases kept : later.toNat ≤ t.toNat+expiration
  · simp [kept,order.trans kept]
  · simp [kept]

/-- Where two lists show the same later, they do so with one more insertion each. -/
theorem newest_alive_insert {expiration capacity : ℕ} {now later : Timestamp} {times recorded : List Timestamp}
    (ordered : (alive expiration now times ++ [now]).Pairwise (· ≤ ·)) (after : now ≤ later)
    (same : newest capacity (alive expiration later times) = newest capacity (alive expiration later recorded)) :
    newest capacity (alive expiration later (newest capacity (alive expiration now times ++ [now]))) =
      newest capacity (alive expiration later (recorded ++ [now])) := by
  have split_last (times : List Timestamp) : alive expiration later (times ++ [now]) =
      alive expiration later times ++ alive expiration later [now] := List.filter_append _ _
  rw [newest_alive_newest expiration capacity later ordered,split_last,split_last,alive_alive expiration after]
  by_cases fresh : later.toNat ≤ now.toNat+expiration
  · have kept : alive expiration later [now] = [now] := by simp [alive,fresh]
    rw [kept,← newest_append_singleton,same,newest_append_singleton]
  · have gone : alive expiration later [now] = [] := by simp [alive,fresh]
    rw [gone,List.append_nil,List.append_nil,same]

/-- The map after all insertions of a history, the last of them at `latest`: each key
has part of its times, in which nothing is missing that a later view could show. -/
structure Tracks (timed : TimedSizedMap κ M) (expiration capacity : ℕ) (made : M → Prop) (map : M)
    (history : List (κ × Timestamp)) (latest : Timestamp) : Prop where
  made : made map
  ordered : (history.map Prod.snd).Pairwise (· ≤ ·)
  past : ∀ entry ∈ history, entry.2 ≤ latest
  part : ∀ key, (timed.entries map key).Sublist (timesOf history key)
  short : ∀ key, (timed.entries map key).length ≤ capacity
  view : ∀ key (now : Timestamp), latest ≤ now →
    newest capacity (alive expiration now (timed.entries map key)) =
      newest capacity (alive expiration now (timesOf history key))

namespace Tracks
variable {timed : TimedSizedMap κ M} {expiration capacity : ℕ} {made : M → Prop} {map : M}
  {history : List (κ × Timestamp)} {latest now : Timestamp}

theorem new (lawful : timed.Lawful expiration capacity made) (now : Timestamp) :
    Tracks timed expiration capacity made (timed.new expiration capacity) [] now where
  made := lawful.made_new
  ordered := List.Pairwise.nil
  past _ inside := absurd inside List.not_mem_nil
  part key := by simp [lawful.entries_new]
  short key := by simp [lawful.entries_new]
  view key now _ := by simp [lawful.entries_new,timesOf]

theorem later (tracks : Tracks timed expiration capacity made map history latest) (le : latest ≤ now) :
    Tracks timed expiration capacity made map history now :=
  {tracks with
    past := fun entry inside => UInt64.le_trans (tracks.past entry inside) le
    view := fun key later after => tracks.view key later (UInt64.le_trans le after)}

theorem entries_past (tracks : Tracks timed expiration capacity made map history latest) (key : κ) :
    ∀ t ∈ timed.entries map key, t ≤ latest := by
  intro t inside
  obtain ⟨entry,listed,rfl⟩ := List.mem_map.mp ((tracks.part key).subset inside)
  exact tracks.past entry (List.mem_filter.mp listed).1

theorem entries_ordered (tracks : Tracks timed expiration capacity made map history latest) (key : κ) :
    (timed.entries map key).Pairwise (· ≤ ·) :=
  (tracks.ordered.sublist (List.filter_sublist.map Prod.snd)).sublist (tracks.part key)

theorem evictExpired (lawful : timed.Lawful expiration capacity made)
    (tracks : Tracks timed expiration capacity made map history now) (keys : List κ) :
    Tracks timed expiration capacity made (timed.evictExpired keys now map) history now where
  made := lawful.made_evictExpired map keys now tracks.made
  ordered := tracks.ordered
  past := tracks.past
  part key := by
    rw [lawful.entries_evictExpired map keys now tracks.made key]
    split
    · exact List.filter_sublist.trans (tracks.part key)
    · exact tracks.part key
  short key := by
    rw [lawful.entries_evictExpired map keys now tracks.made key]
    split
    · exact (List.length_filter_le _ _).trans (tracks.short key)
    · exact tracks.short key
  view key later after := by
    rw [lawful.entries_evictExpired map keys now tracks.made key]
    split
    · rw [alive_alive expiration after]
      exact tracks.view key later after
    · exact tracks.view key later after

private theorem timesOf_append (history : List (κ × Timestamp)) (key other : κ) (t : Timestamp) :
    timesOf (history ++ [(key,t)]) other = if other = key then timesOf history other ++ [t] else timesOf history other := by
  by_cases same : other = key
  · simp [timesOf,same]
  · simp [timesOf,same,Ne.symm same]

theorem insertEvict (lawful : timed.Lawful expiration capacity made)
    (tracks : Tracks timed expiration capacity made map history now) (key : κ) :
    Tracks timed expiration capacity made (timed.insertEvict now key map) (history ++ [(key,now)]) now := by
  have inserted := lawful.entries_insertEvict map key now tracks.made (tracks.entries_past key)
  have aliveOrdered : (alive expiration now (timed.entries map key) ++ [now]).Pairwise (· ≤ ·) := by
    rw [List.pairwise_append]
    refine ⟨(tracks.entries_ordered key).sublist List.filter_sublist,List.pairwise_singleton _ _,?_⟩
    intro t inside s last
    obtain rfl := List.mem_singleton.mp last
    exact tracks.entries_past key t (List.mem_of_mem_filter inside)
  refine ⟨lawful.made_insertEvict map key now tracks.made (tracks.entries_past key),?_,?_,?_,?_,?_⟩
  · rw [List.map_append,List.pairwise_append]
    refine ⟨tracks.ordered,List.pairwise_singleton _ _,?_⟩
    intro t inside s last
    obtain rfl := List.mem_singleton.mp last
    obtain ⟨entry,listed,rfl⟩ := List.mem_map.mp inside
    exact tracks.past entry listed
  · intro entry inside
    rcases List.mem_append.mp inside with before | last
    · exact tracks.past entry before
    · obtain rfl := List.mem_singleton.mp last
      exact UInt64.le_refl _
  · intro other
    rw [inserted,timesOf_append]
    split
    · rename_i same
      subst other
      exact (List.drop_sublist _ _).trans ((List.filter_sublist.trans (tracks.part key)).append (List.Sublist.refl _))
    · exact tracks.part other
  · intro other
    rw [inserted]
    split
    · rw [length_newest]
      exact Nat.min_le_left _ _
    · exact tracks.short other
  · intro other later after
    rw [inserted,timesOf_append]
    split
    · rename_i same
      subst other
      exact newest_alive_insert aliveOrdered after (tracks.view key later after)
    · exact tracks.view other later after

/-- A view at a later time counts at most `capacity` of the insertions still alive. -/
theorem length_alive (tracks : Tracks timed expiration capacity made map history latest) (key : κ)
    (le : latest ≤ now) : (alive expiration now (timed.entries map key)).length =
      min capacity (alive expiration now (timesOf history key)).length := by
  have lengths := congrArg List.length (tracks.view key now le)
  have short : (alive expiration now (timed.entries map key)).length ≤ capacity :=
    (List.length_filter_le _ _).trans (tracks.short key)
  rw [length_newest,length_newest] at lengths
  omega

end Tracks
end Histories
end TimedSizedMap

/-- A timed map kept as the list of its entries, oldest first. -/
structure ReferenceTimedMap (κ : Type) where
  expiration : ℕ
  capacity : ℕ
  store : List (κ × Timestamp)

namespace ReferenceTimedMap
variable {κ : Type} [DecidableEq κ]

def times (map : ReferenceTimedMap κ) (key : κ) : List Timestamp :=
  (map.store.filter (fun entry => entry.1 = key)).map Prod.snd

def reference : TimedSizedMap κ (ReferenceTimedMap κ) where
  new expiration capacity := ⟨expiration,capacity,[]⟩
  insertEvict now key map :=
    {map with store := map.store.filter (fun entry => entry.1 ≠ key) ++
      (TimedSizedMap.newest map.capacity
        (TimedSizedMap.alive map.expiration now (map.times key) ++ [now])).map (fun t => (key,t))}
  evictExpired keys now map :=
    {map with store := map.store.filter (fun entry =>
      decide (entry.1 ∉ keys) || decide (now.toNat ≤ entry.2.toNat+map.expiration))}
  get map key := some (map.times key)
  sortKeysBy map keys measure := StableSort.sort (fun key => measure (some (map.times key))) keys

private theorem times_insertEvict (map : ReferenceTimedMap κ) (key other : κ) (now : Timestamp) :
    (reference.insertEvict now key map).times other =
      if other = key then TimedSizedMap.newest map.capacity
        (TimedSizedMap.alive map.expiration now (map.times key) ++ [now])
      else map.times other := by
  unfold times reference
  simp only [List.filter_append,List.filter_filter,List.map_append]
  by_cases same : other = key
  · subst other
    have kept : map.store.filter (fun entry => decide (entry.1 = key) && decide (entry.1 ≠ key)) = [] := by
      rw [List.filter_eq_nil_iff]
      intro entry _
      by_cases equal : entry.1 = key <;> simp [equal]
    rw [kept]
    simp [List.filter_map,Function.comp_def,times]
  · have moved : ∀ entry : κ × Timestamp,
        (decide (entry.1 = other) && !decide (entry.1 = key)) = decide (entry.1 = other) := by
      intro entry
      by_cases equal : entry.1 = other
      · simp [equal,same]
      · simp [equal]
    have fresh : key ≠ other := fun equal => same equal.symm
    simp [moved,List.filter_map,Function.comp_def,same,fresh]

private theorem times_evictExpired (map : ReferenceTimedMap κ) (keys : List κ) (now : Timestamp) (key : κ) :
    (reference.evictExpired keys now map).times key =
      if key ∈ keys then TimedSizedMap.alive map.expiration now (map.times key) else map.times key := by
  unfold times reference TimedSizedMap.alive
  simp only [List.filter_map,List.filter_filter]
  split
  · rename_i listed
    congr 1
    refine List.filter_congr (fun entry _ => ?_)
    by_cases equal : entry.1 = key
    · simp [equal,listed]
    · simp [equal]
  · rename_i unlisted
    congr 1
    refine List.filter_congr (fun entry _ => ?_)
    by_cases equal : entry.1 = key
    · simp [equal,unlisted]
    · simp [equal]

theorem reference_lawful (expiration capacity : ℕ) :
    (reference : TimedSizedMap κ (ReferenceTimedMap κ)).Lawful expiration capacity
      (fun map => map.expiration = expiration ∧ map.capacity = capacity) where
  made_new := ⟨rfl,rfl⟩
  made_insertEvict _ _ _ made _ := made
  made_evictExpired _ _ _ made := made
  entries_new _ := rfl
  entries_insertEvict map key now made _ other := by
    obtain ⟨rfl,rfl⟩ := made
    exact times_insertEvict map key other now
  entries_evictExpired map keys now made key := by
    obtain ⟨rfl,rfl⟩ := made
    exact times_evictExpired map keys now key
  sortKeysBy_stable _ keys _ := StableSort.sort_spec keys

end ReferenceTimedMap
end EvmRpc
