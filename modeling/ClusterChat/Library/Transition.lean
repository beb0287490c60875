import Mathlib.Data.List.Basic

/-
  Runs of a machine whose steps are labelled and may be
  refused.

  A run can be held to a condition on the state and the label
  of each of its steps.

  Main declarations:
    * `Transition.Run`
    * `Transition.Run.invariant`
    * `Transition.EveryStep` and `Transition.checkSteps`
    * `Transition.execute`, `Transition.run_of_execute`, and
      `Transition.exists_run_of_execute`
-/

------------------------------------------------------------
-- Runs
------------------------------------------------------------

namespace Transition

variable {State Label : Type}

/-
  The states a machine reaches by a list of labels, where
  each label meets the condition in the state it finds.
-/
inductive Run
    (step : State → Label → Option State)
    (meets : State → Label → Prop)
    (start : State) : List Label → State → Prop where
| nil : Run step meets start [] start
| snoc
    {labels : List Label}
    {label : Label}
    {before after : State}
    (front : Run step meets start labels before)
    (met : meets before label)
    (stepped : step before label = some after) :
    Run step meets start (labels ++ [label]) after

variable {step : State → Label → Option State}
variable {meets : State → Label → Prop}

/- What every step of a run preserves, the run preserves. -/
theorem Run.invariant
    (Invariant : State → Prop)
    (hStep :
      ∀ before label after,
        Invariant before → meets before label →
          step before label = some after →
            Invariant after)
    {start final : State}
    {labels : List Label}
    (hRun : Run step meets start labels final)
    (hStart : Invariant start) :
    Invariant final := by
  induction hRun with
  | nil => exact hStart
  | snoc front met stepped ih =>
      exact hStep _ _ _ ih met stepped

/- A run also meets every weaker condition. -/
theorem Run.mono
    {weaker : State → Label → Prop}
    {start final : State}
    {labels : List Label}
    (hRun : Run step meets start labels final)
    (hWeaker :
      ∀ state label, meets state label → weaker state label) :
    Run step weaker start labels final := by
  induction hRun with
  | nil => exact Run.nil
  | snoc front met stepped ih =>
      exact Run.snoc ih (hWeaker _ _ met) stepped

/- A run goes on where another one ends. -/
theorem Run.append
    {start middle final : State}
    {front back : List Label}
    (hFront : Run step meets start front middle)
    (hBack : Run step meets middle back final) :
    Run step meets start (front ++ back) final := by
  induction hBack with
  | nil =>
      rw [List.append_nil]
      exact hFront
  | snoc middle met stepped ih =>
      rw [← List.append_assoc]
      exact Run.snoc ih met stepped

theorem Run.single
    {before after : State}
    {label : Label}
    (hMet : meets before label)
    (hStepped : step before label = some after) :
    Run step meets before [label] after :=
  Run.snoc Run.nil hMet hStepped

theorem Run.eq_start
    {start final : State}
    (hRun : Run step meets start [] final) :
    final = start := by
  generalize hNone : ([] : List Label) = labels at hRun
  cases hRun with
  | nil => rfl
  | snoc front met stepped =>
      have hLast := (List.append_eq_nil_iff.mp hNone.symm).2
      cases hLast

/- A run seen from its first step. -/
theorem Run.uncons
    {start final : State}
    {label : Label}
    {labels : List Label}
    (hRun : Run step meets start (label :: labels) final) :
    meets start label ∧
      ∃ next,
        step start label = some next ∧
          Run step meets next labels final := by
  generalize hWhole : label :: labels = whole at hRun
  induction hRun generalizing labels with
  | nil => cases hWhole
  | @snoc front last before after hFront hMet hStepped ih =>
      cases front with
      | nil =>
          rcases List.cons.inj hWhole with ⟨hLast, hRest⟩
          rw [hFront.eq_start] at hMet hStepped
          rw [hLast, hRest]
          exact ⟨hMet, after, hStepped, Run.nil⟩
      | cons first front =>
          rcases List.cons.inj hWhole with ⟨hFirst, hRest⟩
          rcases ih (by rw [hFirst]) with
            ⟨hStart, next, hNext, hTail⟩
          rw [hRest]
          exact
            ⟨hStart, next, hNext,
              Run.snoc hTail hMet hStepped⟩

------------------------------------------------------------
-- Conditions on Every Step
------------------------------------------------------------

/-
  Every step that the labels take satisfies a condition on
  the state before it, its label, and the state after it.
-/
def EveryStep
    (step : State → Label → Option State)
    (meets : State → Label → Prop)
    (start : State)
    (labels : List Label)
    (Condition : State → Label → State → Prop) : Prop :=
  ∀ front label back before after,
    labels = front ++ label :: back →
      Run step meets start front before →
        meets before label →
          step before label = some after →
            Condition before label after

/- Conditions that agree on every step that a run can take
hold of the same runs. -/
theorem everyStep_congr
    {start : State}
    {Condition Other : State → Label → State → Prop}
    (hAgree :
      ∀ front before label after,
        Run step meets start front before →
          meets before label →
            step before label = some after →
              (Condition before label after ↔
                Other before label after))
    (labels : List Label) :
    EveryStep step meets start labels Condition ↔
      EveryStep step meets start labels Other := by
  constructor
  · intro hEvery front label back before after hSplit hRun
      hMet hStep
    exact
      (hAgree front before label after hRun hMet hStep).mp
        (hEvery front label back before after hSplit hRun
          hMet hStep)
  · intro hEvery front label back before after hSplit hRun
      hMet hStep
    exact
      (hAgree front before label after hRun hMet hStep).mpr
        (hEvery front label back before after hSplit hRun
          hMet hStep)

theorem everyStep_nil
    (start : State)
    (Condition : State → Label → State → Prop) :
    EveryStep step meets start [] Condition := by
  intro front label back before after hSplit
  cases (List.append_eq_nil_iff.mp hSplit.symm).2

/- The first step, and the steps after it. -/
theorem everyStep_cons
    {start : State}
    {label : Label}
    {labels : List Label}
    {Condition : State → Label → State → Prop} :
    EveryStep step meets start (label :: labels) Condition ↔
      (meets start label →
        ∀ next,
          step start label = some next →
            Condition start label next ∧
              EveryStep step meets next labels Condition) := by
  constructor
  · intro hEvery hMet next hNext
    constructor
    · exact hEvery [] label labels start next rfl Run.nil hMet
        hNext
    · intro front other back before after hSplit hRun
      exact
        hEvery (label :: front) other back before after
          (congrArg (List.cons label) hSplit)
          ((Run.single hMet hNext).append hRun)
  · intro hFirst front other back before after hSplit hRun
      hMet hStep
    cases front with
    | nil =>
        rcases List.cons.inj hSplit with ⟨hLabel, _⟩
        rw [hRun.eq_start, ← hLabel] at hMet hStep ⊢
        exact (hFirst hMet after hStep).1
    | cons head front =>
        rcases List.cons.inj hSplit with ⟨hLabel, hRest⟩
        rcases hRun.uncons with ⟨hStart, next, hNext, hTail⟩
        rw [← hLabel] at hStart hNext
        exact
          (hFirst hStart next hNext).2 front other back
            before after hRest hTail hMet hStep

/- Test a condition on every step that the labels take. -/
def checkSteps
    (step : State → Label → Option State)
    (meets : State → Label → Prop)
    (Condition : State → Label → State → Prop)
    [∀ state label, Decidable (meets state label)]
    [∀ before label after,
      Decidable (Condition before label after)] :
    State → List Label → Bool
| _, [] => true
| before, label :: labels =>
    if meets before label then
      match step before label with
      | none => true
      | some after =>
          decide (Condition before label after) &&
            checkSteps step meets Condition after labels
    else
      true

theorem everyStep_iff_checkSteps
    {Condition : State → Label → State → Prop}
    [∀ state label, Decidable (meets state label)]
    [∀ before label after,
      Decidable (Condition before label after)]
    {start : State}
    {labels : List Label} :
    EveryStep step meets start labels Condition ↔
      checkSteps step meets Condition start labels = true := by
  induction labels generalizing start with
  | nil => exact iff_of_true (everyStep_nil start Condition) rfl
  | cons label labels ih =>
      rw [everyStep_cons, checkSteps]
      by_cases hMet : meets start label
      · cases hNext : step start label with
        | none => simp [hMet]
        | some next => simp [hMet, ih]
      · simp [hMet]

------------------------------------------------------------
-- Executing a List of Labels
------------------------------------------------------------

/- Take the steps in order, as long as each one is possible
and meets the condition. -/
def execute
    (step : State → Label → Option State)
    (meets : State → Label → Prop)
    [∀ state label, Decidable (meets state label)] :
    State → List Label → Option State
| state, [] => some state
| state, label :: labels =>
    if meets state label then
      match step state label with
      | some next => execute step meets next labels
      | none => none
    else
      none

/- What is executed to its end is a run. -/
theorem run_of_execute
    [∀ state label, Decidable (meets state label)]
    {labels : List Label}
    {start final : State}
    (hExecute :
      execute step meets start labels = some final) :
    Run step meets start labels final := by
  induction labels generalizing start with
  | nil =>
      have hSame : start = final := Option.some.inj hExecute
      rw [hSame]
      exact Run.nil
  | cons label labels ih =>
      unfold execute at hExecute
      split at hExecute
      · rename_i hMet
        cases hNext : step start label with
        | none => simp [hNext] at hExecute
        | some next =>
            rw [hNext] at hExecute
            have hFirst := Run.single hMet hNext
            exact hFirst.append (ih hExecute)
      · simp at hExecute

/- A run to a state that was found by executing it. -/
theorem exists_run_of_execute
    (step : State → Label → Option State)
    (meets : State → Label → Prop)
    [∀ state label, Decidable (meets state label)]
    (Reached : State → Prop)
    {labels : List Label}
    {start : State}
    (hExecute :
      ∃ final ∈ execute step meets start labels,
        Reached final) :
    ∃ final,
      Run step meets start labels final ∧ Reached final := by
  rcases hExecute with ⟨final, hFinal, hReached⟩
  exact ⟨final, run_of_execute hFinal, hReached⟩

end Transition
