import Mathlib.Tactic.Common

/-! Results of code that may abort. A trap carries its message; whoever runs the
code decides what a trap rolls back. -/
namespace Library

inductive Outcome (α : Type) where
  | done (value : α)
  | trap (message : String)
  deriving DecidableEq, Repr

namespace Outcome
variable {α β ε : Type}

def bind (first : Outcome α) (next : α → Outcome β) : Outcome β :=
  match first with
  | .done value => next value
  | .trap message => .trap message

instance : Monad Outcome where
  pure := .done
  bind := Outcome.bind

@[simp] theorem pure_eq (value : α) : (pure value : Outcome α) = .done value := rfl

@[simp] theorem done_bind (value : α) (next : α → Outcome β) :
    (Outcome.done value >>= next) = next value := rfl

@[simp] theorem trap_bind (message : String) (next : α → Outcome β) :
    (Outcome.trap message >>= next) = .trap message := rfl

@[simp] theorem bind_done (first : Outcome α) : (first >>= fun value => .done value) = first := by
  cases first <;> rfl

instance : LawfulMonad Outcome := LawfulMonad.mk' _
  (by intro α x; cases x <;> rfl)
  (by intro α β x f; rfl)
  (by intro α β γ x f g; cases x <;> rfl)

@[simp] theorem map_done (f : α → β) (value : α) : f <$> Outcome.done value = .done (f value) := rfl

@[simp] theorem map_trap (f : α → β) (message : String) : f <$> (Outcome.trap message : Outcome α) = .trap message := rfl

theorem bind_eq_done {first : Outcome α} {next : α → Outcome β} {result : β} :
    (first >>= next) = .done result ↔ ∃ value, first = .done value ∧ next value = .done result := by
  cases first <;> simp

/-- The value of a partial computation, or a trap with `message`. -/
def ofOption (message : String) : Option α → Outcome α
  | some value => .done value
  | none => .trap message

/-- `Result::expect`: the value of a success, or a trap with `message`. -/
def expect (message : String) : Except ε α → Outcome α
  | .ok value => .done value
  | .error _ => .trap message

@[simp] theorem ofOption_eq_done {message : String} {x : Option α} {value : α} :
    ofOption message x = .done value ↔ x = some value := by
  cases x <;> simp [ofOption]

@[simp] theorem expect_eq_done {message : String} {x : Except ε α} {value : α} :
    expect message x = .done value ↔ x = .ok value := by
  cases x <;> simp [expect]

def isTrap : Outcome α → Bool
  | .done _ => false
  | .trap _ => true

theorem isTrap_eq_false {x : Outcome α} : x.isTrap = false ↔ ∃ value, x = .done value := by
  cases x <;> simp [isTrap]

end Outcome
end Library
