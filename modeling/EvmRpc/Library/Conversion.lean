import EvmRpc.Library.Collections

/-! Conversions that keep a value exactly or refuse it: when they succeed, what
the result has in common with the value, and which errors refuse one. -/
namespace Library
variable {α β γ ε : Type} {refusal : ε → Prop}

theorem ok_of_bind_ok {first : Except ε α} {next : α → Except ε β} {result : β}
    (done : (first >>= next) = .ok result) : ∃ value, first = .ok value ∧ next value = .ok result := by
  cases first with
  | error error => cases done
  | ok value => exact ⟨value,rfl,done⟩

/-- A computation fails only with errors of one kind. -/
def FailsOnly (refusal : ε → Prop) (computed : Except ε α) : Prop := ∀ error, computed = .error error → refusal error

namespace FailsOnly

theorem ok (value : α) : FailsOnly refusal (.ok value) := by
  intro error impossible
  cases impossible

theorem bind {first : Except ε α} {next : α → Except ε β} (head : FailsOnly refusal first)
    (tail : ∀ value, FailsOnly refusal (next value)) : FailsOnly refusal (first >>= next) := by
  intro error failed
  cases first with
  | error other =>
    cases failed
    exact head _ rfl
  | ok value => exact tail value error failed

end FailsOnly

/-- The conversion succeeds for what fits, with a result of the same content, and
refuses everything else. -/
structure Exact (convert : α → Except ε β) (fits : α → Prop) (same : α → β → Prop) (refusal : ε → Prop) : Prop where
  accepts : ∀ value, fits value → ∃ converted, convert value = .ok converted ∧ same value converted
  refuses : ∀ value, ¬ fits value → ∃ error, convert value = .error error ∧ refusal error

namespace Exact
variable {convert : α → Except ε β} {fits : α → Prop} {same : α → β → Prop}

theorem of_ok (accepts : ∀ value, fits value → ∃ converted, convert value = .ok converted ∧ same value converted)
    (fits_of_ok : ∀ value converted, convert value = .ok converted → fits value)
    (fails : ∀ value, FailsOnly refusal (convert value)) : Exact convert fits same refusal where
  accepts := accepts
  refuses := by
    intro value misfit
    cases outcome : convert value with
    | error error => exact ⟨error,rfl,fails value error outcome⟩
    | ok converted => exact absurd (fits_of_ok value converted outcome) misfit

theorem fits_of_ok (exact : Exact convert fits same refusal) {value : α} {converted : β}
    (done : convert value = .ok converted) : fits value := by
  by_contra misfit
  obtain ⟨error,failed,_⟩ := exact.refuses value misfit
  rw [done] at failed
  cases failed

theorem same_of_ok (exact : Exact convert fits same refusal) {value : α} {converted : β}
    (done : convert value = .ok converted) : same value converted := by
  obtain ⟨other,done',kept⟩ := exact.accepts value (exact.fits_of_ok done)
  cases done.symm.trans done'
  exact kept

theorem failsOnly (exact : Exact convert fits same refusal) (value : α) : FailsOnly refusal (convert value) := by
  intro error failed
  have misfit : ¬ fits value := by
    intro suitable
    obtain ⟨converted,done,_⟩ := exact.accepts value suitable
    rw [failed] at done
    cases done
  obtain ⟨other,refused,kind⟩ := exact.refuses value misfit
  rw [failed] at refused
  cases refused
  exact kind

theorem mono (exact : Exact convert fits same refusal) {weaker : α → β → Prop}
    (implied : ∀ value converted, same value converted → weaker value converted) :
    Exact convert fits weaker refusal where
  accepts value suitable := by
    obtain ⟨converted,done,kept⟩ := exact.accepts value suitable
    exact ⟨converted,done,implied _ _ kept⟩
  refuses := exact.refuses

/-- A list is converted element by element, or not at all. -/
theorem list (exact : Exact convert fits same refusal) :
    Exact (List.mapM convert) (fun values => ∀ value ∈ values, fits value) (List.Forall₂ same) refusal where
  accepts values suitable := mapM_of_each (fun value inside => exact.accepts value (suitable value inside))
  refuses values misfit := by
    induction values with
    | nil => exact absurd (fun value inside => by cases inside) misfit
    | cons value values ih =>
      rw [List.mapM_cons]
      by_cases suitable : fits value
      · have later : ¬ ∀ other ∈ values, fits other := by
          intro all
          exact misfit (List.forall_mem_cons.mpr ⟨suitable,all⟩)
        obtain ⟨converted,done,_⟩ := exact.accepts value suitable
        obtain ⟨error,failed,kind⟩ := ih later
        exact ⟨error,by rw [done,failed]; rfl,kind⟩
      · obtain ⟨error,failed,kind⟩ := exact.refuses value suitable
        exact ⟨error,by rw [failed]; rfl,kind⟩

end Exact

theorem forall₂_eq_map_iff {f : α → γ} {g : β → γ} {xs : List α} {ys : List β} :
    List.Forall₂ (fun x y => g y = f x) xs ys ↔ ys.map g = xs.map f := by
  induction xs generalizing ys with
  | nil => cases ys <;> simp
  | cons x xs ih => cases ys <;> simp [ih]

end Library
