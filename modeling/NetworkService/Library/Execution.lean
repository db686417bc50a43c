import Mathlib.Algebra.Ring.Nat

/-!
# Executions of a labelled system

A system is a partial step function: the event `e` is possible in `s` if `step e s` is some
state.  An execution is a start state and a sequence of possible events; its history is kept,
newest event first, so that invariants may speak about the order in which things happened.
-/

namespace Execution

variable {ε σ : Type}

/-- `s` is reached from a state of `init` by the events of `history`. -/
inductive Reaches (init : σ → Prop) (step : ε → σ → Option σ) : List ε → σ → Prop
  | start {s : σ} (h : init s) : Reaches init step [] s
  | step {history : List ε} {s t : σ} (e : ε) (h : Reaches init step history s)
      (hstep : step e s = some t) : Reaches init step (e :: history) t

variable {init : σ → Prop} {step : ε → σ → Option σ}

/-- What holds at the start and survives every possible event holds of every execution. -/
theorem Reaches.invariant {I : List ε → σ → Prop} (hinit : ∀ s, init s → I [] s)
    (hstep : ∀ history e s t, I history s → step e s = some t → I (e :: history) t)
    {history : List ε} {s : σ} (h : Reaches init step history s) : I history s := by
  induction h with
  | start hs => exact hinit _ hs
  | step e _ he ih => exact hstep _ e _ _ ih he

/-- The state after a schedule, oldest event first, if every event is possible in turn. -/
def run (step : ε → σ → Option σ) : List ε → σ → Option σ
  | [], s => some s
  | e :: events, s => (step e s).bind (run step events)

/-- Where every event is possible, a schedule runs to its end. -/
theorem run_total (f : ε → σ → σ) (events : List ε) (s : σ) :
    run (fun e s => some (f e s)) events s = some (events.foldl (fun s e => f e s) s) := by
  induction events generalizing s with
  | nil => rfl
  | cons e events ih => exact ih (f e s)

theorem Reaches.append_run {history events : List ε} {s t : σ} (h : Reaches init step history s)
    (hrun : run step events s = some t) : Reaches init step (events.reverse ++ history) t := by
  induction events generalizing history s with
  | nil =>
    obtain rfl := Option.some.inj hrun
    exact h
  | cons e events ih =>
    obtain ⟨u, hu, hrest⟩ := Option.bind_eq_some_iff.mp hrun
    rw [List.reverse_cons, List.append_assoc]
    exact ih (.step e h hu) hrest

/-- A schedule that can be run is an execution. -/
theorem Reaches.of_run {events : List ε} {s t : σ} (h : init s)
    (hrun : run step events s = some t) : Reaches init step events.reverse t := by
  have hreach := Reaches.append_run (.start h) hrun
  rw [List.append_nil] at hreach
  exact hreach

end Execution
