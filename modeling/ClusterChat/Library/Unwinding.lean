import ClusterChat.Library.Transition

/-
  Runs with the steps of one party taken out.

  A relation between the states of a machine unwinds a run
  when a step of the party keeps it, and every other step can
  be taken on both sides.  Then the run without the steps of
  the party is possible, and ends in a related state.

  Main declarations:
    * `Transition.observed` and `Transition.observed_append`
    * `Transition.purge`
    * `Transition.Unwinds` and `Transition.Unwinds.run`
-/

------------------------------------------------------------
-- Purged Runs
------------------------------------------------------------

namespace Transition

variable {State Label Seen : Type}

/- What is seen of the steps of a list of labels. -/
def observed
    (step : State → Label → Option State)
    (seen : State → Label → Option Seen) :
    State → List Label → List Seen
| _, [] => []
| state, label :: labels =>
    match step state label with
    | none => []
    | some next =>
        (seen state label).toList ++
          observed step seen next labels

/-
  What is left of a list of labels.  `shown` takes out a label
  or says what it is called in the run without the others.
-/
abbrev purge
    (step : State → Label → Option State)
    (shown : State → Label → Option Label) :
    State → List Label → List Label :=
  observed step shown

variable {step : State → Label → Option State}
variable {meets : State → Label → Prop}
variable {seen : State → Label → Option Seen}
variable {shown : State → Label → Option Label}

theorem observed_cons
    {state next : State}
    {label : Label}
    (hStep : step state label = some next)
    (labels : List Label) :
    observed step seen state (label :: labels) =
      (seen state label).toList ++
        observed step seen next labels := by
  rw [observed, hStep]

/- A run is observed piece by piece. -/
theorem observed_append
    {start middle : State}
    {front : List Label}
    (hFront : Run step meets start front middle)
    (back : List Label) :
    observed step seen start (front ++ back) =
      observed step seen start front ++
        observed step seen middle back := by
  induction hFront generalizing back with
  | nil => rfl
  | snoc front met stepped ih =>
      rw [List.append_assoc, List.singleton_append, ih, ih,
        observed_cons stepped, observed_cons stepped,
        observed, List.append_nil, List.append_assoc]

/- The last step of a run. -/
theorem observed_snoc
    {start before after : State}
    {front : List Label}
    {label : Label}
    (hFront : Run step meets start front before)
    (hStep : step before label = some after) :
    observed step seen start (front ++ [label]) =
      observed step seen start front ++
        (seen before label).toList := by
  rw [observed_append hFront, observed_cons hStep, observed,
    List.append_nil]

------------------------------------------------------------
-- Unwinding
------------------------------------------------------------

/-
  The relation holds between a state of the run and one of the
  run without the party.
-/
structure Unwinds
    (step : State → Label → Option State)
    (meets : State → Label → Prop)
    (shown : State → Label → Option Label)
    (Similar : State → State → Prop) : Prop where
  silent :
    ∀ high low label after,
      Similar high low →
        meets high label →
          step high label = some after →
            shown high label = none → Similar after low
  common :
    ∀ high low label after left,
      Similar high low →
        meets high label →
          step high label = some after →
            shown high label = some left →
              ∃ next,
                step low left = some next ∧
                  Similar after next

/- The run without the party is possible. -/
theorem Unwinds.run
    {Similar : State → State → Prop}
    (hUnwinds : Unwinds step meets shown Similar)
    {start low final : State}
    {labels : List Label}
    (hRun : Run step meets start labels final)
    (hStart : Similar start low) :
    ∃ rest,
      Run step (fun _ _ => True) low
          (purge step shown start labels) rest ∧
        Similar final rest := by
  induction hRun with
  | nil => exact ⟨low, Run.nil, hStart⟩
  | @snoc labels label before after front met stepped ih =>
      rcases ih with ⟨middle, hMiddle, hSimilar⟩
      rw [purge, observed_snoc front stepped]
      cases hShown : shown before label with
      | none =>
          refine ⟨middle, ?_, ?_⟩
          · rw [Option.toList_none, List.append_nil]
            exact hMiddle
          · exact
              hUnwinds.silent _ _ _ _ hSimilar met stepped
                hShown
      | some left =>
          rcases
            hUnwinds.common _ _ _ _ _ hSimilar met stepped
              hShown with ⟨next, hNext, hAfter⟩
          exact
            ⟨next, Run.snoc hMiddle trivial hNext, hAfter⟩

end Transition
