import Mathlib.Data.List.Basic

/-
  Folds that may fail, over entries that each write a part of
  the state or leave it alone: what a part is in the end is
  what the last entry wrote.

  Main declarations:
    * `LastWriter.read_foldlM`
    * `LastWriter.foldlM_eq_none_iff`
-/

namespace LastWriter

variable {State Entry Value : Type}
variable {step : State → Entry → Option State}
variable {state : State} {entries : List Entry}

/- A part that each entry overwrites or leaves alone. -/
theorem read_foldlM
    {read : State → Value}
    {written : Entry → Option Value}
    (hWrites :
      ∀ state entry next,
        step state entry = some next →
          read next = (written entry).getD (read state))
    {final : State}
    (hRun : entries.foldlM step state = some final) :
    read final =
      (entries.filterMap written).getLast?.getD
        (read state) := by
  induction entries generalizing state with
  | nil =>
      rw [List.foldlM_nil] at hRun
      rw [← Option.some.inj hRun]
      rfl
  | cons entry entries ih =>
      rw [List.foldlM_cons] at hRun
      rcases Option.bind_eq_some_iff.mp hRun with
        ⟨next, hStep, hRest⟩
      have hRead := hWrites state entry next hStep
      rw [ih hRest, hRead, List.filterMap_cons]
      cases written entry with
      | none => rfl
      | some value =>
          dsimp only
          rw [List.getLast?_cons]
          rfl

/- A fold of steps that fail whatever the state is. -/
theorem foldlM_eq_none_iff
    {Fails : Entry → Prop}
    (hFails :
      ∀ state entry, step state entry = none ↔ Fails entry) :
    entries.foldlM step state = none ↔
      ∃ entry ∈ entries, Fails entry := by
  induction entries generalizing state with
  | nil => simp
  | cons entry entries ih =>
      rw [List.foldlM_cons, List.exists_mem_cons_iff,
        ← hFails state entry]
      cases hStep : step state entry with
      | none => simp
      | some next =>
          rw [Option.bind_eq_bind, Option.bind_some, ih]
          simp

end LastWriter
