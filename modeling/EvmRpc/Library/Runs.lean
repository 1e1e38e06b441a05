import Mathlib.Data.List.Forall2
import Mathlib.Data.List.Induction
import EvmRpc.Library.Outcome

/-! Runs of a machine whose messages may trap. A message that traps leaves the
state as it was, so every run is total. -/
namespace Library.Runs
variable {σ ε : Type} (step : σ → ε → Outcome σ)

def advance (state : σ) (event : ε) : σ :=
  match step state event with
  | .done next => next
  | .trap _ => state

def run (initial : σ) (events : List ε) : σ := events.foldl (advance step) initial

theorem advance_done {state next : σ} {event : ε} (ok : step state event = .done next) :
    advance step state event = next := by simp only [advance,ok]

theorem advance_trap {state : σ} {event : ε} {message : String}
    (aborted : step state event = .trap message) : advance step state event = state := by
  simp only [advance,aborted]

theorem run_singleton (initial : σ) (event : ε) : run step initial [event] = advance step initial event := rfl

theorem run_concat (initial : σ) (events : List ε) (event : ε) :
    run step initial (events ++ [event]) = advance step (run step initial events) event := by
  simp [run]

theorem run_append (initial : σ) (past later : List ε) :
    run step initial (past ++ later) = run step (run step initial past) later := List.foldl_append

/-- What holds at the start and survives every message that completes holds
after every run, together with the messages it is about. -/
theorem history (relation : List ε → σ → Prop) (initial : σ) (base : relation [] initial)
    (completed : ∀ past state event next, relation past state →
      step state event = .done next → relation (past ++ [event]) next)
    (aborted : ∀ past state event message, relation past state →
      step state event = .trap message → relation (past ++ [event]) state)
    (events : List ε) : relation events (run step initial events) := by
  induction events using List.reverseRecOn with
  | nil => exact base
  | append_singleton past event ih =>
    rw [run_concat]
    cases taken : step (run step initial past) event with
    | done next =>
      rw [advance_done step taken]
      exact completed past _ event next ih taken
    | trap message =>
      rw [advance_trap step taken]
      exact aborted past _ event message ih taken

theorem invariant (holds : σ → Prop) (initial : σ) (base : holds initial)
    (preserved : ∀ state event next, holds state → step state event = .done next → holds next)
    (events : List ε) : holds (run step initial events) :=
  history step (fun _ state => holds state) initial base
    (fun _ state event next before taken => preserved state event next before taken)
    (fun _ _ _ _ before _ => before) events

section Unwinding
variable {ω : Type} (output : σ → ε → ω)

/-- What each message of a run puts out, from the state that it comes to. -/
def outputs : σ → List ε → List ω
  | _,[] => []
  | state,event::events => output state event::outputs (advance step state event) events

/-- If alike messages keep related states related and put out the same there, then
runs of alike messages put out the same. -/
theorem unwinding {related : σ → σ → Prop} {alike : ε → ε → Prop}
    (stays : ∀ state other event message, related state other → alike event message →
      related (advance step state event) (advance step other message))
    (same : ∀ state other event message, related state other → alike event message →
      output state event = output other message)
    {events messages : List ε} (pairs : List.Forall₂ alike events messages) {state other : σ}
    (start : related state other) :
    outputs step output state events = outputs step output other messages ∧
      related (run step state events) (run step other messages) := by
  induction pairs generalizing state other with
  | nil => exact ⟨rfl,start⟩
  | cons first rest ih =>
    obtain ⟨later,last⟩ := ih (stays _ _ _ _ start first)
    refine ⟨?_,last⟩
    rw [outputs,outputs,same _ _ _ _ start first,later]

end Unwinding

end Library.Runs
