import Mathlib.Data.List.Nodup
import Mathlib.Order.Lattice
import Mathlib.Tactic.Common

/-! JSON trees, and how records are read from them: by member name or by position. -/
namespace Library

namespace Json

/-- How far a number token has been read: sign, integer without leading zeros,
fraction, exponent. -/
inductive NumberPhase where
  | start | minus | zero | integer | point | fraction | exponent | sign | power
  deriving DecidableEq

namespace NumberPhase

def accepted : NumberPhase → Bool
  | .zero | .integer | .fraction | .power => true
  | _ => false

def digit (c : Char) (next : NumberPhase) : Option NumberPhase := if c.isDigit then some next else none

def scale (c : Char) : Option NumberPhase := if c = 'e' ∨ c = 'E' then some .exponent else none

def next : NumberPhase → Char → Option NumberPhase
  | .start,c => if c = '-' then some .minus else if c = '0' then some .zero else digit c .integer
  | .minus,c => if c = '0' then some .zero else digit c .integer
  | .zero,c => if c = '.' then some .point else scale c
  | .integer,c => if c = '.' then some .point else (scale c).orElse (fun _ => digit c .integer)
  | .point,c => digit c .fraction
  | .fraction,c => (scale c).orElse (fun _ => digit c .fraction)
  | .exponent,c => if c = '+' ∨ c = '-' then some .sign else digit c .power
  | .sign,c => digit c .power
  | .power,c => digit c .power

end NumberPhase

def isNumber (text : List Char) : Bool :=
  match text.foldlM NumberPhase.next .start with
  | some phase => phase.accepted
  | none => false

end Json

/-- A number is kept as the token that stands for it. -/
abbrev Json.Number := {token : String // Json.isNumber token.toList}

inductive Json where
  | null
  | bool (value : Bool)
  | number (value : Json.Number)
  | string (value : String)
  | array (items : List Json)
  | object (members : List (String × Json))

namespace Json

@[elab_as_elim]
theorem induction {motive : Json → Prop} (null : motive .null) (bool : ∀ value, motive (.bool value))
    (number : ∀ token, motive (.number token)) (string : ∀ text, motive (.string text))
    (array : ∀ items, (∀ item ∈ items, motive item) → motive (.array items))
    (object : ∀ members, (∀ member ∈ members, motive member.2) → motive (.object members)) (json : Json) :
    motive json := by
  refine @Json.rec motive (fun items => ∀ item ∈ items, motive item) (fun members => ∀ member ∈ members, motive member.2)
    (fun member => motive member.2) null bool number string array object ?_ ?_ ?_ ?_ (fun _ _ value => value) json
  · simp
  · intro item items first others other inside
    rcases List.mem_cons.mp inside with rfl | later
    · exact first
    · exact others other later
  · simp
  · intro member members first others other inside
    rcases List.mem_cons.mp inside with rfl | later
    · exact first
    · exact others other later

mutual
def depth : Json → ℕ
  | .array items => 1+depthItems items
  | .object members => 1+depthMembers members
  | _ => 0

def depthItems : List Json → ℕ
  | [] => 0
  | item::rest => max item.depth (depthItems rest)

def depthMembers : List (String × Json) → ℕ
  | [] => 0
  | (_,value)::rest => max value.depth (depthMembers rest)
end

theorem depthItems_le {items : List Json} {bound : ℕ} (within : ∀ item ∈ items, item.depth ≤ bound) :
    depthItems items ≤ bound := by
  induction items with
  | nil => simp [depthItems]
  | cons item rest ih =>
    have first := within item (by simp)
    have others := ih (fun other inside => within other (by simp [inside]))
    simp only [depthItems]
    omega

theorem depthMembers_le {members : List (String × Json)} {bound : ℕ}
    (within : ∀ value ∈ members.map Prod.snd, value.depth ≤ bound) : depthMembers members ≤ bound := by
  induction members with
  | nil => simp [depthMembers]
  | cons member rest ih =>
    obtain ⟨name,value⟩ := member
    have first := within value (by simp)
    have others := ih (fun other inside => within other (by
      rw [List.map_cons]
      exact List.mem_cons_of_mem _ inside))
    simp only [depthMembers]
    omega

/-- Reading and writing the values of one type. -/
structure Format (α : Type) where
  encode : α → Json
  decode : Json → Option α

namespace Format
variable {α : Type}

def text (print : α → String) (parse : String → Option α) : Format α where
  encode value := .string (print value)
  decode
    | .string text => parse text
    | _ => none

def value : Format Json := ⟨id,some⟩

def boolean : Format Bool where
  encode value := .bool value
  decode
    | .bool value => some value
    | _ => none

def option (format : Format α) : Format (Option α) where
  encode
    | some value => format.encode value
    | none => .null
  decode
    | .null => some none
    | json => (format.decode json).map some

def list (format : Format α) : Format (List α) where
  encode values := .array (values.map format.encode)
  decode
    | .array items => items.mapM format.decode
    | _ => none

/-- What is written for a value that was read is read as that value. -/
def Stable (format : Format α) (good : α → Prop) : Prop :=
  ∀ value, good value → format.decode (format.encode value) = some value

/-- No value is written as `null`. -/
def Present (format : Format α) : Prop := ∀ value, format.encode value ≠ .null

theorem option_stable {format : Format α} {good : α → Prop} (stable : format.Stable good)
    (present : format.Present) : format.option.Stable (fun x => ∀ value, x = some value → good value) := by
  intro x fine
  cases x with
  | none => rfl
  | some value =>
    have back := stable value (fine value rfl)
    have shown := present value
    change (match format.encode value with
      | .null => some none
      | json => (format.decode json).map some) = some (some value)
    cases written : format.encode value <;> simp_all

theorem list_stable {format : Format α} {good : α → Prop} (stable : format.Stable good) :
    format.list.Stable (fun values => ∀ value ∈ values, good value) := by
  intro values fine
  change (values.map format.encode).mapM format.decode = some values
  induction values with
  | nil => rfl
  | cons value rest ih =>
    simp only [List.map_cons,List.mapM_cons,stable value (fine value (by simp)),
      ih (fun other inside => fine other (by simp [inside]))]
    rfl

theorem text_stable {print : α → String} {parse : String → Option α}
    (inverse : ∀ value, parse (print value) = some value) : (text print parse).Stable (fun _ => True) :=
  fun value _ => inverse value

theorem text_present (print : α → String) (parse : String → Option α) : (text print parse).Present :=
  fun _ written => by cases written

/-- Every value is written as a tree of at most this depth. -/
def Within (format : Format α) (bound : ℕ) : Prop := ∀ value, (format.encode value).depth ≤ bound

theorem Within.mono {format : Format α} {bound larger : ℕ} (within : format.Within bound) (le : bound ≤ larger) :
    format.Within larger := fun value => (within value).trans le

theorem text_within (print : α → String) (parse : String → Option α) (bound : ℕ) :
    (text print parse).Within bound := fun _ => Nat.zero_le _

theorem option_within {format : Format α} {bound : ℕ} (within : format.Within bound) :
    format.option.Within bound := by
  intro x
  cases x with
  | none => exact Nat.zero_le _
  | some value => exact within value

theorem list_within {format : Format α} {bound : ℕ} (within : format.Within bound) :
    format.list.Within (bound+1) := by
  intro values
  have items := @depthItems_le (values.map format.encode) bound (by
    intro item inside
    obtain ⟨value,_,rfl⟩ := List.mem_map.mp inside
    exact within value)
  change 1+depthItems (values.map format.encode) ≤ bound+1
  omega

end Format

/-- A record of named members, read by `build` from what is given for each name in
order. In the positional form members at the end may be missing. -/
structure Record (α : Type) where
  names : List String
  values : α → List Json
  build : (positional : Bool) → List (Option Json) → Option α

namespace Record
variable {α : Type}

/-- The value of a known name. A name that occurs twice is an error. -/
def lookup (members : List (String × Json)) (name : String) : Option (Option Json) :=
  match members.filter (fun member => member.1 = name) with
  | [] => some none
  | [(_,value)] => some (some value)
  | _::_::_ => none

def format (record : Record α) : Format α where
  encode value := .object (record.names.zip (record.values value))
  decode
    | .object members => (record.names.mapM (lookup members)).bind (record.build false)
    | .array items =>
      if items.length ≤ record.names.length then
        record.build true (items.map some ++ List.replicate (record.names.length-items.length) none)
      else none
    | _ => none

def required (format : Format α) : Option Json → Option α
  | some json => format.decode json
  | none => none

/-- A member that stands for `none` when it is left out by name. -/
def optional (format : Format α) (positional : Bool) : Option Json → Option (Option α)
  | some json => format.option.decode json
  | none => if positional then none else some none

def defaulted (format : Format α) (default : α) : Option Json → Option α
  | some json => format.decode json
  | none => some default

theorem lookup_of_mem {members : List (String × Json)} (distinct : (members.map Prod.fst).Nodup)
    {name : String} {value : Json} (member : (name,value) ∈ members) :
    lookup members name = some (some value) := by
  have only : members.filter (fun entry => entry.1 = name) = [(name,value)] := by
    induction members with
    | nil => simp at member
    | cons entry rest ih =>
      obtain ⟨first,given⟩ := entry
      obtain ⟨fresh,tail⟩ := List.nodup_cons.mp distinct
      rcases List.mem_cons.mp member with same | later
      · obtain ⟨rfl,rfl⟩ := Prod.mk.injEq .. ▸ same
        have none : rest.filter (fun entry => entry.1 = name) = [] := by
          rw [List.filter_eq_nil_iff]
          intro other inside
          simp only [decide_eq_true_eq]
          rintro rfl
          exact fresh (List.mem_map.mpr ⟨other,inside,rfl⟩)
        simp [none]
      · have differ : first ≠ name := by
          rintro rfl
          exact fresh (List.mem_map.mpr ⟨_,later,rfl⟩)
        simp [differ,ih tail later]
  simp [lookup,only]

theorem mapM_lookup {names : List String} {values : List Json} (distinct : names.Nodup)
    (sized : values.length = names.length) :
    names.mapM (lookup (names.zip values)) = some (values.map some) := by
  have keys : (names.zip values).map Prod.fst = names := List.map_fst_zip (le_of_eq sized.symm)
  have found : ∀ entry ∈ names.zip values, lookup (names.zip values) entry.1 = some (some entry.2) :=
    fun entry inside => lookup_of_mem (keys.symm ▸ distinct) inside
  have general : ∀ part : List (String × Json), (∀ entry ∈ part, entry ∈ names.zip values) →
      (part.map Prod.fst).mapM (lookup (names.zip values)) = some ((part.map Prod.snd).map some) := by
    intro part inside
    induction part with
    | nil => rfl
    | cons entry rest ih =>
      simp only [List.map_cons,List.mapM_cons,found entry (inside entry (by simp)),
        ih (fun other member => inside other (by simp [member]))]
      rfl
  have whole := general (names.zip values) (fun _ inside => inside)
  rwa [keys,List.map_snd_zip (le_of_eq sized)] at whole

theorem stable {record : Record α} {good : α → Prop} (distinct : record.names.Nodup)
    (sized : ∀ value, (record.values value).length = record.names.length)
    (rebuild : ∀ value, good value → record.build false ((record.values value).map some) = some value) :
    record.format.Stable good := by
  intro value fine
  change (record.names.mapM (lookup (record.names.zip (record.values value)))).bind (record.build false) = _
  rw [mapM_lookup distinct (sized value)]
  exact rebuild value fine

theorem within {record : Record α} {bound : ℕ}
    (small : ∀ value, ∀ json ∈ record.values value, json.depth ≤ bound) : record.format.Within (bound+1) := by
  intro value
  have members := @depthMembers_le (record.names.zip (record.values value)) bound (by
    intro json inside
    obtain ⟨entry,listed,rfl⟩ := List.mem_map.mp inside
    exact small value entry.2 (List.of_mem_zip listed).2)
  change 1+depthMembers _ ≤ bound+1
  omega

theorem present (record : Record α) : record.format.Present := fun _ written => by cases written

end Record
end Json
end Library
