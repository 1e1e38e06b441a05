import Mathlib.Algebra.Ring.Nat
import EvmRpc.Library.Runs

/-! Machines that serve several sessions at once: how one session appears in a run of the
whole machine, how long a rank that messages lower can last, and what a run can spend. -/
namespace Library.Runs
variable {σ ε : Type} {step : σ → ε → Outcome σ} {holds : σ → Prop}

theorem run_cons (state : σ) (event : ε) (events : List ε) :
    run step state (event::events) = run step (advance step state event) events := rfl

/-- What every message keeps holds after any run that starts with it. -/
theorem run_holds (preserved : ∀ state event, holds state → holds (advance step state event)) {state : σ}
    (start : holds state) (events : List ε) : holds (run step state events) := by
  induction events generalizing state with
  | nil => exact start
  | cons event events ih => exact ih (preserved state event start)

theorem advance_holds (preserved : ∀ state event next, holds state → step state event = .done next → holds next)
    (state : σ) (event : ε) (before : holds state) : holds (advance step state event) := by
  cases taken : step state event with
  | done next => exact (advance_done step taken).symm ▸ preserved state event next before taken
  | trap message => exact (advance_trap step taken).symm ▸ before

/-- A rank that no message raises is used up by as many of the messages that lower it. -/
theorem rank_run {rank : σ → ℕ} {lowers : ε → Bool}
    (preserved : ∀ state event, holds state → holds (advance step state event))
    (lowered : ∀ state event, holds state →
      rank (advance step state event) ≤ rank state - (if lowers event then 1 else 0))
    {state : σ} (start : holds state) (events : List ε) :
    rank (run step state events) ≤ rank state - events.countP lowers := by
  induction events generalizing state with
  | nil => simp [run]
  | cons event events ih =>
    rw [run_cons,List.countP_cons]
    have first := lowered state event start
    have rest := ih (preserved state event start)
    omega

/-- What a run spends comes out of what was in reserve before it and what was granted in it. -/
theorem budget_run {spent granted : σ → ε → ℕ} {reserve : σ → ℕ}
    (preserved : ∀ state event, holds state → holds (advance step state event))
    (balance : ∀ state event, holds state →
      spent state event + reserve (advance step state event) ≤ reserve state + granted state event)
    {state : σ} (start : holds state) (events : List ε) :
    (outputs step spent state events).sum + reserve (run step state events) ≤
      reserve state + (outputs step granted state events).sum := by
  induction events generalizing state with
  | nil => exact Nat.le_of_eq (Nat.add_comm _ _)
  | cons event events ih =>
    rw [run_cons,outputs,outputs,List.sum_cons,List.sum_cons]
    have first := balance state event start
    have rest := ih (preserved state event start)
    omega

theorem sum_outputs_add (amount other : σ → ε → ℕ) (state : σ) (events : List ε) :
    (outputs step (fun state event => amount state event+other state event) state events).sum =
      (outputs step amount state events).sum+(outputs step other state events).sum := by
  induction events generalizing state with
  | nil => rfl
  | cons event events ih =>
    rw [outputs,outputs,outputs,List.sum_cons,List.sum_cons,List.sum_cons,ih]
    omega

section Sessions
variable {α δ : Type} {session : α → δ → Outcome α} {delivered : σ → ε → List δ}

/-- What the messages of a run deliver to a session, in the order of the run. -/
def deliveries (step : σ → ε → Outcome σ) (delivered : σ → ε → List δ) (state : σ) (events : List ε) : List δ :=
  (outputs step delivered state events).flatten

theorem deliveries_cons (state : σ) (event : ε) (events : List ε) :
    deliveries step delivered state (event::events) =
      delivered state event ++ deliveries step delivered (advance step state event) events := rfl

theorem deliveries_append (state : σ) (past later : List ε) :
    deliveries step delivered state (past ++ later) =
      deliveries step delivered state past ++ deliveries step delivered (run step state past) later := by
  induction past generalizing state with
  | nil => rfl
  | cons event past ih => rw [List.cons_append,deliveries_cons,deliveries_cons,ih,List.append_assoc,run_cons]

theorem deliveries_concat (state : σ) (past : List ε) (event : ε) :
    deliveries step delivered state (past ++ [event]) =
      deliveries step delivered state past ++ delivered (run step state past) event := by
  rw [deliveries_append,deliveries_cons]
  exact congrArg _ (List.append_nil _)

theorem length_deliveries (state : σ) (events : List ε) : (deliveries step delivered state events).length =
    (outputs step (fun state event => (delivered state event).length) state events).sum := by
  induction events generalizing state with
  | nil => rfl
  | cons event events ih => rw [deliveries_cons,List.length_append,outputs,List.sum_cons,ih]

theorem countP_deliveries (counts : δ → Bool) (state : σ) (events : List ε) :
    (deliveries step delivered state events).countP counts =
      (outputs step (fun state event => (delivered state event).countP counts) state events).sum := by
  induction events generalizing state with
  | nil => rfl
  | cons event events ih => rw [deliveries_cons,List.countP_append,outputs,List.sum_cons,ih]

/-- How a machine shows a session: a message moves it by what it delivers to it, or closes it,
and a closed session stays so. -/
structure Serves (step : σ → ε → Outcome σ) (session : α → δ → Outcome α) (delivered : σ → ε → List δ)
    (holds : σ → Prop) (shows : σ → α → Prop) (closed : σ → Prop) : Prop where
  preserved : ∀ state event, holds state → holds (advance step state event)
  moves : ∀ state event own, holds state → shows state own →
    shows (advance step state event) (run session own (delivered state event)) ∨ closed (advance step state event)
  stays : ∀ state event, holds state → closed state → closed (advance step state event)

variable {shows : σ → α → Prop} {closed : σ → Prop}

theorem Serves.stays_closed (serves : Serves step session delivered holds shows closed) {state : σ}
    (start : holds state) (ended : closed state) (events : List ε) : closed (run step state events) :=
  (@run_holds _ _ step (fun state => holds state ∧ closed state)
    (fun state event before => ⟨serves.preserved state event before.1,serves.stays state event before.1 before.2⟩)
    _ ⟨start,ended⟩ events).2

/-- A session that is open after a run is where a run of its own would have left it. One that is
closed was so by one message, up to which the same is true. -/
theorem Serves.run_own (serves : Serves step session delivered holds shows closed) {state : σ} {own : α}
    (start : holds state) (opened : shows state own) (events : List ε) :
    shows (run step state events) (run session own (deliveries step delivered state events)) ∨
      ∃ front event rest, events = front ++ event::rest ∧
        shows (run step state front) (run session own (deliveries step delivered state front)) ∧
        closed (run step state (front ++ [event])) := by
  induction events using List.reverseRecOn with
  | nil => exact .inl opened
  | append_singleton past event ih =>
    have before : holds (run step state past) := run_holds serves.preserved start past
    obtain here | ⟨front,last,rest,split,shown,ended⟩ := ih
    · rcases serves.moves _ event _ before here with next | ended
      · refine .inl ?_
        rw [run_concat,deliveries_concat,run_append]
        exact next
      · refine .inr ⟨past,event,[],rfl,here,?_⟩
        rw [run_concat]
        exact ended
    · exact .inr ⟨front,last,rest ++ [event],by rw [split,List.append_assoc,List.cons_append],shown,ended⟩

end Sessions
end Library.Runs
