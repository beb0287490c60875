import Mathlib.Data.List.Basic

/-
  Deterministic machines that answer every event with a list
  of outputs, and the rules for reasoning about their runs.

  Main declarations:
    * `Transducer.run`
    * `Transducer.run_append`
    * `Transducer.run_invariant`
    * `Transducer.run_simulates`
    * `Transducer.run_purge`
-/

------------------------------------------------------------
-- Runs
------------------------------------------------------------

namespace Transducer

variable {State Event Output : Type}

/- Feed the events in order and collect the outputs. -/
def run
    (step : State → Event → State × List Output)
    (state : State) :
    List Event → State × List Output
| [] => (state, [])
| event :: events =>
    let first := step state event
    let rest := run step first.1 events
    (rest.1, first.2 ++ rest.2)

variable {step : State → Event → State × List Output}

@[simp] theorem run_nil (state : State) :
    run step state [] = (state, []) := rfl

theorem run_cons
    (state : State)
    (event : Event)
    (events : List Event) :
    run step state (event :: events) =
      ((run step (step state event).1 events).1,
        (step state event).2 ++
          (run step (step state event).1 events).2) := rfl

theorem run_append
    (state : State)
    (front back : List Event) :
    run step state (front ++ back) =
      ((run step (run step state front).1 back).1,
        (run step state front).2 ++
          (run step (run step state front).1 back).2) := by
  induction front generalizing state with
  | nil => rfl
  | cons event front ih =>
      rw [List.cons_append, run_cons, ih, run_cons,
        List.append_assoc]

theorem run_singleton
    (state : State)
    (event : Event) :
    run step state [event] = step state event := by
  simp [run_cons]

/- A run that ends with one more event. -/
theorem run_snoc
    (state : State)
    (events : List Event)
    (event : Event) :
    run step state (events ++ [event]) =
      ((step (run step state events).1 event).1,
        (run step state events).2 ++
          (step (run step state events).1 event).2) := by
  rw [run_append, run_singleton]

------------------------------------------------------------
-- Invariants and Simulations
------------------------------------------------------------

/- What every admissible step preserves, every run of
admissible events preserves. -/
theorem run_invariant
    (Admissible : Event → Prop)
    (Invariant : State → Prop)
    (hStep :
      ∀ state event,
        Admissible event → Invariant state →
          Invariant (step state event).1)
    {state : State}
    {events : List Event}
    (hEvents : ∀ event ∈ events, Admissible event)
    (hState : Invariant state) :
    Invariant (run step state events).1 := by
  induction events generalizing state with
  | nil => exact hState
  | cons event events ih =>
      rw [run_cons]
      apply ih
      · intro other hOther
        exact hEvents other (List.mem_cons_of_mem _ hOther)
      · exact hStep state event
          (hEvents event List.mem_cons_self) hState

variable {Inner InnerEvent : Type}
variable {inner : Inner → InnerEvent → Inner × List Output}

/-
  A component of the state runs on its own.  If every step
  acts on the component as a run over the events it selects,
  and shows the component's outputs among its own, then a
  whole run does so, too.
-/
theorem run_simulates
    (Admissible : Event → Prop)
    (Invariant : State → Prop)
    (project : State → Inner)
    (select : Event → List InnerEvent)
    (visible : Output → Bool)
    (hInvariant :
      ∀ state event,
        Admissible event → Invariant state →
          Invariant (step state event).1)
    (hStep :
      ∀ state event,
        Admissible event → Invariant state →
          run inner (project state) (select event) =
            (project (step state event).1,
              (step state event).2.filter visible))
    {state : State}
    {events : List Event}
    (hEvents : ∀ event ∈ events, Admissible event)
    (hState : Invariant state) :
    run inner (project state) (events.flatMap select) =
      (project (run step state events).1,
        (run step state events).2.filter visible) := by
  induction events generalizing state with
  | nil => rfl
  | cons event events ih =>
      have hEvent :=
        hEvents event List.mem_cons_self
      have hRest :
          run inner (project (step state event).1)
              (events.flatMap select) =
            (project
                (run step (step state event).1 events).1,
              (run step (step state event).1
                events).2.filter visible) := by
        apply ih
        · intro other hOther
          exact hEvents other (List.mem_cons_of_mem _ hOther)
        · exact hInvariant state event hEvent hState
      rw [List.flatMap_cons, run_append,
        hStep state event hEvent hState, hRest, run_cons,
        List.filter_append]

------------------------------------------------------------
-- Purged Runs
------------------------------------------------------------

variable {Other : Type}
variable {other : Other → Event → Other × List Output}

/-
  Two machines side by side, the second on the events that a
  purge leaves.  If a step that stays shows the same on both
  sides and a purged step shows nothing, then the whole run
  and the purged run show the same.
-/
theorem run_purge
    (Agree : State → Other → Prop)
    (restrict : Event → Option Event)
    (visible : Output → Bool)
    (hKept :
      ∀ state twin event kept,
        Agree state twin → restrict event = some kept →
          Agree (step state event).1 (other twin kept).1 ∧
            (step state event).2.filter visible =
              (other twin kept).2.filter visible)
    (hPurged :
      ∀ state twin event,
        Agree state twin → restrict event = none →
          Agree (step state event).1 twin ∧
            (step state event).2.filter visible = [])
    {state : State}
    {twin : Other}
    (hAgree : Agree state twin)
    (events : List Event) :
    Agree (run step state events).1
        (run other twin (events.filterMap restrict)).1 ∧
      (run step state events).2.filter visible =
        (run other twin
          (events.filterMap restrict)).2.filter visible := by
  induction events generalizing state twin with
  | nil => exact ⟨hAgree, rfl⟩
  | cons event events ih =>
      rw [run_cons, List.filter_append]
      cases hRestrict : restrict event with
      | none =>
          rcases hPurged state twin event hAgree hRestrict with
            ⟨hNext, hSilent⟩
          rw [List.filterMap_cons_none hRestrict, hSilent]
          exact ih hNext
      | some kept =>
          rcases
              hKept state twin event kept hAgree hRestrict with
            ⟨hNext, hShown⟩
          rcases ih hNext with ⟨hFinal, hRest⟩
          rw [List.filterMap_cons_some hRestrict, run_cons,
            List.filter_append, hShown, hRest]
          exact ⟨hFinal, rfl⟩

end Transducer
