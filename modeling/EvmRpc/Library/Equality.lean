import Mathlib.Tactic.Common
import Mathlib.Data.List.Forall2

/-! Equality tests that need not be reflexive. Floating point values make the
derived equality of a record symmetric and transitive only. -/
namespace Library
variable {α β ε : Type}

instance exceptBEq [BEq ε] [BEq α] : BEq (Except ε α) where
  beq
    | .ok a,.ok b => a == b
    | .error a,.error b => a == b
    | _,_ => false

@[simp] theorem ok_beq_ok [BEq ε] [BEq α] (a b : α) :
    ((.ok a : Except ε α) == .ok b) = (a == b) := rfl

@[simp] theorem error_beq_error [BEq ε] [BEq α] (a b : ε) :
    ((.error a : Except ε α) == .error b) = (a == b) := rfl

@[simp] theorem ok_beq_error [BEq ε] [BEq α] (a : α) (b : ε) :
    ((.ok a : Except ε α) == .error b) = false := rfl

@[simp] theorem error_beq_ok [BEq ε] [BEq α] (a : ε) (b : α) :
    ((.error a : Except ε α) == .ok b) = false := rfl

instance exceptPartialEquivBEq [BEq ε] [BEq α] [PartialEquivBEq ε] [PartialEquivBEq α] :
    PartialEquivBEq (Except ε α) where
  symm := by
    intro a b same
    cases a <;> cases b <;> simp at same ⊢
    · exact BEq.symm same
    · exact BEq.symm same
  trans := by
    intro a b c first second
    cases a <;> cases b <;> cases c <;> simp at first second ⊢
    · exact BEq.trans first second
    · exact BEq.trans first second

instance exceptLawfulBEq [BEq ε] [BEq α] [LawfulBEq ε] [LawfulBEq α] : LawfulBEq (Except ε α) where
  rfl := by
    intro a
    cases a <;> simp
  eq_of_beq := by
    intro a b same
    cases a <;> cases b <;> simp at same ⊢
    · exact same
    · exact same

theorem list_beq_iff [BEq α] {xs ys : List α} :
    (xs == ys) = true ↔ List.Forall₂ (fun x y => (x == y) = true) xs ys := by
  induction xs generalizing ys with
  | nil => cases ys <;> simp
  | cons x xs ih => cases ys <;> simp [ih]

instance listPartialEquivBEq [BEq α] [PartialEquivBEq α] : PartialEquivBEq (List α) where
  symm := by
    intro xs ys same
    rw [list_beq_iff] at same ⊢
    exact same.flip.imp (fun _ _ equal => BEq.symm equal)
  trans := by
    intro xs ys zs first second
    rw [list_beq_iff] at first second ⊢
    induction first generalizing zs with
    | nil => exact second
    | cons head tail ih =>
      cases second with
      | cons head' tail' => exact .cons (BEq.trans head head') (ih tail')

/-- `f` identifies no more than the equality tests do. -/
def ReflectsBEq [BEq α] [BEq β] (f : α → β) : Prop :=
  ∀ a b, (f a == f b) = true → (a == b) = true

namespace ReflectsBEq
variable {γ : Type} [BEq α] [BEq β] [BEq γ]

theorem list_map {f : α → β} (reflects : ReflectsBEq f) : ReflectsBEq (List.map f) := by
  intro xs ys same
  rw [list_beq_iff] at same ⊢
  rw [List.forall₂_map_left_iff,List.forall₂_map_right_iff] at same
  exact same.imp (fun _ _ equal => reflects _ _ equal)

theorem except_map [BEq ε] {f : α → β} (reflects : ReflectsBEq f) :
    ReflectsBEq (Except.map f : Except ε α → Except ε β) := by
  intro x y same
  cases x <;> cases y <;> simp [Except.map] at same ⊢
  · exact same
  · exact reflects _ _ same

end ReflectsBEq
end Library
