import Mathlib
import ClusterChat.Library.Unwinding

/-
  Names that a machine takes from a counter.

  Some steps take the name that the counter stands at.  No
  name is taken twice, so the names that one party has taken
  in a run tell its steps from those of the others.

  Main declarations:
    * `Transition.TakesNames` and `Transition.namesTaken`
    * `Transition.TakesNames.fresh`
    * `Transition.TakesNames.exact`
-/

------------------------------------------------------------
-- Names of a Run
------------------------------------------------------------

namespace Transition

variable {State Label Name : Type}
variable [LinearOrder Name]

/- The counter never goes back, and goes on when a name is
taken. -/
structure TakesNames
    (step : State → Label → Option State)
    (counter : State → Name)
    (takes : State → Label → Prop) : Prop where
  keeps :
    ∀ before label after,
      step before label = some after →
        counter before ≤ counter after
  moves :
    ∀ before label after,
      takes before label →
        step before label = some after →
          counter before < counter after

/- The names that a party takes. -/
def namesTaken
    (step : State → Label → Option State)
    (counter : State → Name)
    (mine : State → Label → Bool) :
    State → List Label → List Name :=
  observed step fun state label =>
    if mine state label then some (counter state) else none

variable {step : State → Label → Option State}
variable {meets : State → Label → Prop}
variable {counter : State → Name}
variable {takes : State → Label → Prop}
variable {mine : State → Label → Bool}
variable {start final : State} {labels : List Label}

theorem TakesNames.counter_le
    (hTakes : TakesNames step counter takes)
    (hRun : Run step meets start labels final) :
    counter start ≤ counter final :=
  hRun.invariant (fun state => counter start ≤ counter state)
    (fun _ _ _ hBefore _ hStep =>
      hBefore.trans (hTakes.keeps _ _ _ hStep))
    (le_refl _)

/- The names of a run lie between the counters at its
ends. -/
theorem TakesNames.fresh
    (hTakes : TakesNames step counter takes)
    (hMine :
      ∀ state label,
        mine state label = true → takes state label)
    (hRun : Run step meets start labels final)
    {name : Name}
    (hName :
      name ∈ namesTaken step counter mine start labels) :
    counter start ≤ name ∧ name < counter final := by
  induction hRun with
  | nil => cases hName
  | @snoc front label before after hFront hMet hStep ih =>
      have hKeeps := hTakes.keeps _ _ _ hStep
      unfold namesTaken at hName
      rw [observed_snoc hFront hStep] at hName
      rcases List.mem_append.mp hName with hOld | hNew
      · rcases ih hOld with ⟨hFrom, hBelow⟩
        exact ⟨hFrom, hBelow.trans_le hKeeps⟩
      · rw [Option.mem_toList] at hNew
        split_ifs at hNew with hTaken
        have hHere : counter before = name :=
          Option.some.inj hNew
        have hMoves :=
          hTakes.moves _ _ _ (hMine _ _ hTaken) hStep
        rw [← hHere]
        exact ⟨hTakes.counter_le hFront, hMoves⟩

/-
  A step that takes a name takes one of the names of the party
  when it is a step of the party, and no other.
-/
theorem TakesNames.exact
    (hTakes : TakesNames step counter takes)
    (hMine :
      ∀ state label,
        mine state label = true → takes state label)
    (hRun : Run step meets start labels final) :
    Run step
      (fun state label =>
        meets state label ∧
          (takes state label →
            (counter state ∈
                namesTaken step counter mine start labels ↔
              mine state label = true)))
      start labels final := by
  suffices hAll :
      ∀ names : List Name,
        (∀ name,
          counter start ≤ name →
            name < counter final →
              (name ∈ names ↔
                name ∈
                  namesTaken step counter mine start
                    labels)) →
          Run step
            (fun state label =>
              meets state label ∧
                (takes state label →
                  (counter state ∈ names ↔
                    mine state label = true)))
            start labels final from
    hAll _ fun _ _ _ => Iff.rfl
  induction hRun with
  | nil => exact fun _ _ => Run.nil
  | @snoc front label before after hFront hMet hStep ih =>
      intro names hNames
      have hFrom := hTakes.counter_le hFront
      have hKeeps := hTakes.keeps _ _ _ hStep
      have hSplit :
          namesTaken step counter mine start
              (front ++ [label]) =
            namesTaken step counter mine start front ++
              (if mine before label then
                some (counter before)
              else
                none).toList :=
        observed_snoc hFront hStep
      rw [hSplit] at hNames
      refine Run.snoc (ih names ?_) ⟨hMet, ?_⟩ hStep
      · intro name hName hBelow
        rw [hNames name hName (hBelow.trans_le hKeeps),
          List.mem_append]
        refine ⟨fun hTaken => ?_, Or.inl⟩
        rcases hTaken with hOld | hNew
        · exact hOld
        · rw [Option.mem_toList] at hNew
          split_ifs at hNew
          have hHere : counter before = name :=
            Option.some.inj hNew
          exact absurd hHere hBelow.ne'
      · intro hTaken
        have hMoves := hTakes.moves _ _ _ hTaken hStep
        rw [hNames _ hFrom hMoves, List.mem_append]
        refine ⟨fun hName => ?_, fun hParty => Or.inr ?_⟩
        · rcases hName with hOld | hNew
          · have hFresh := hTakes.fresh hMine hFront hOld
            exact absurd hFresh.2 (lt_irrefl _)
          · rw [Option.mem_toList] at hNew
            split_ifs at hNew with hParty
            exact hParty
        · rw [if_pos hParty]
          exact List.mem_singleton_self _

end Transition
