import Mathlib.Data.List.Induction
import Mathlib.Tactic.Common

/-! Sequences of steps that write to the fields of a state: what a field holds in the end is what the
last step wrote that writes to it at all. -/
namespace Library.Writes
variable {σ ι β : Type}

/-- The last value that is written, if there is one. -/
def last (writes : ι → Option β) (steps : List ι) : Option β := (steps.filterMap writes).getLast?

theorem last_concat (writes : ι → Option β) (steps : List ι) (step : ι) :
    last writes (steps ++ [step]) = (writes step).orElse (fun _ => last writes steps) := by
  rw [last,List.filterMap_append]
  cases written : writes step with
  | none => simp [written,last]
  | some value => simp [written]

variable {apply : σ → ι → σ} {get : σ → β}

/-- Each step changes a field by writing to it, if at all. -/
def Overwrites (apply : σ → ι → σ) (get : σ → β) (writes : ι → Option β) : Prop :=
  ∀ state step, get (apply state step) = (writes step).getD (get state)

theorem Overwrites.fold {writes : ι → Option β} (overwrites : Overwrites apply get writes) (initial : σ) (steps : List ι) :
    get (steps.foldl apply initial) = (last writes steps).getD (get initial) := by
  induction steps using List.reverseRecOn with
  | nil => rfl
  | append_singleton steps step ih =>
    rw [List.foldl_append,List.foldl_cons,List.foldl_nil,overwrites,ih,last_concat]
    cases writes step with
    | none => rfl
    | some value => rfl

/-- No step changes a field. -/
def Untouched (apply : σ → ι → σ) (get : σ → β) : Prop := ∀ state step, get (apply state step) = get state

theorem Untouched.fold (untouched : Untouched apply get) (initial : σ) (steps : List ι) :
    get (steps.foldl apply initial) = get initial := by
  induction steps generalizing initial with
  | nil => rfl
  | cons step steps ih => exact (ih (apply initial step)).trans (untouched initial step)

end Library.Writes
