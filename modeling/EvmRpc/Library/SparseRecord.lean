import EvmRpc.Library.Json

/-! Records whose members are left out where there is nothing to write. -/
namespace Library.Json
variable {α : Type}

/-- Named members that may be left out. They are read as those of any record. -/
structure SparseRecord (α : Type) where
  names : List String
  given : α → List (Option Json)
  build : (positional : Bool) → List (Option Json) → Option α

namespace SparseRecord

def members : List String → List (Option Json) → List (String × Json)
  | name::names,some json::given => (name,json)::members names given
  | _::names,none::given => members names given
  | _,_ => []

def format (record : SparseRecord α) : Format α where
  encode value := .object (members record.names (record.given value))
  decode := (Record.mk record.names (fun _ => []) record.build).format.decode

theorem mem_names_of_member {names : List String} {given : List (Option Json)} {entry : String × Json}
    (inside : entry ∈ members names given) : entry.1 ∈ names := by
  induction names generalizing given with
  | nil => simp [members] at inside
  | cons name names ih =>
    rcases given with _ | ⟨_ | json,given⟩
    · simp [members] at inside
    · exact List.mem_cons_of_mem _ (ih inside)
    · rcases List.mem_cons.mp inside with rfl | later
      · exact List.mem_cons_self
      · exact List.mem_cons_of_mem _ (ih later)

theorem lookup_cons_ne {name other : String} {json : Json} {rest : List (String × Json)} (differ : name ≠ other) :
    Record.lookup ((name,json)::rest) other = Record.lookup rest other := by
  simp [Record.lookup,differ]

theorem filter_absent {names : List String} {given : List (Option Json)} {name : String} (fresh : name ∉ names) :
    (members names given).filter (fun member => member.1 = name) = [] := by
  rw [List.filter_eq_nil_iff]
  intro entry inside
  simp only [decide_eq_true_eq]
  rintro rfl
  exact fresh (mem_names_of_member inside)

private theorem mapM_congr {f g : String → Option (Option Json)} {names : List String}
    (same : ∀ name ∈ names, f name = g name) : names.mapM f = names.mapM g := by
  induction names with
  | nil => rfl
  | cons name names ih =>
    rw [List.mapM_cons,List.mapM_cons,same name (by simp),ih (fun other inside => same other (by simp [inside]))]

/-- Each name is found with what was given for it, or not at all. -/
theorem mapM_lookup {names : List String} {given : List (Option Json)} (distinct : names.Nodup)
    (sized : given.length = names.length) : names.mapM (Record.lookup (members names given)) = some given := by
  induction names generalizing given with
  | nil =>
    rw [List.length_nil,List.length_eq_zero_iff] at sized
    rw [sized]
    rfl
  | cons name names ih =>
    obtain ⟨fresh,others⟩ := List.nodup_cons.mp distinct
    rcases given with _ | ⟨_ | json,given⟩
    · cases sized
    · have found : Record.lookup (members names given) name = some none := by
        rw [Record.lookup,filter_absent fresh]
      rw [List.mapM_cons,members,found,ih others (by simpa using sized)]
      rfl
    · have found : Record.lookup ((name,json)::members names given) name = some (some json) := by
        simp [Record.lookup,filter_absent fresh]
      have later : names.mapM (Record.lookup ((name,json)::members names given)) =
          names.mapM (Record.lookup (members names given)) := by
        refine mapM_congr (fun other inside => lookup_cons_ne ?_)
        rintro rfl
        exact fresh inside
      rw [List.mapM_cons,members,found,later,ih others (by simpa using sized)]
      rfl

theorem stable {record : SparseRecord α} (distinct : record.names.Nodup)
    (sized : ∀ value, (record.given value).length = record.names.length)
    (rebuild : ∀ value, record.build false (record.given value) = some value) :
    record.format.Stable (fun _ => True) := by
  intro value _
  change (record.names.mapM (Record.lookup (members record.names (record.given value)))).bind (record.build false) = _
  rw [mapM_lookup distinct (sized value)]
  exact rebuild value

theorem present (record : SparseRecord α) : record.format.Present := fun _ written => by cases written

end SparseRecord
end Library.Json
