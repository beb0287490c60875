import ClusterChat.Library.Trace
import ClusterChat.Library.Transition
import Mathlib.Data.List.Perm.Basic

/-
  Journals.

  A machine that keeps a journal changes a part of its state,
  its view, only by the entries that it writes.  The view can
  then be replayed from the journal, whatever else happens.
  The entries are written by processes, each of which writes
  the same ones on all its paths.

  Main declarations:
    * `Journal.replay` and its rules
    * `Journal.Keeps` and `Journal.Keeps.run`
    * `Journal.perm_by_writer`
    * `Process.Writes` and `Process.writes_trace`
-/

------------------------------------------------------------
-- Replaying a Journal
------------------------------------------------------------

namespace Journal

variable {View Entry : Type}
variable {record : View → Entry → View}

/- What the entries make of a view, one after another. -/
def replay
    (record : View → Entry → View)
    (view : View)
    (entries : List Entry) : View :=
  entries.foldl record view

@[simp] theorem replay_nil (view : View) :
    replay record view [] = view := rfl

@[simp] theorem replay_cons
    (view : View)
    (entry : Entry)
    (entries : List Entry) :
    replay record view (entry :: entries) =
      replay record (record view entry) entries := rfl

theorem replay_append
    (view : View)
    (front back : List Entry) :
    replay record view (front ++ back) =
      replay record (replay record view front) back :=
  List.foldl_append

/- What every entry preserves, the journal preserves. -/
theorem replay_invariant
    (Invariant : View → Prop)
    (hRecord :
      ∀ view entry,
        Invariant view → Invariant (record view entry))
    {view : View}
    (hView : Invariant view)
    (entries : List Entry) :
    Invariant (replay record view entries) := by
  induction entries generalizing view with
  | nil => exact hView
  | cons entry entries ih => exact ih (hRecord view entry hView)

------------------------------------------------------------
-- Machines That Keep a Journal
------------------------------------------------------------

variable {State Label : Type}
variable {step : State → Label → Option State}
variable {meets : State → Label → Prop}

/- Every step adds entries to the journal, and they are what
it does to the view that the state represents. -/
def Keeps
    (step : State → Label → Option State)
    (meets : State → Label → Prop)
    (journal : State → List Entry)
    (record : View → Entry → View)
    (represents : State → View → Prop) : Prop :=
  ∀ before label after view,
    meets before label →
      step before label = some after →
        represents before view →
          ∃ entries,
            journal after = journal before ++ entries ∧
              represents after (replay record view entries)

/- The view at the end of a run is replayed from the journal
of the run. -/
theorem Keeps.run
    {journal : State → List Entry}
    {represents : State → View → Prop}
    (hKeeps : Keeps step meets journal record represents)
    {start final : State}
    {labels : List Label}
    (hRun : Transition.Run step meets start labels final)
    {view : View}
    (hStart : represents start view) :
    ∃ entries,
      journal final = journal start ++ entries ∧
        represents final (replay record view entries) := by
  induction hRun with
  | nil => exact ⟨[], by simp, hStart⟩
  | snoc front met stepped ih =>
      rcases ih with ⟨entries, hJournal, hView⟩
      rcases hKeeps _ _ _ _ met stepped hView with
        ⟨more, hMore, hAfter⟩
      refine ⟨entries ++ more, ?_, ?_⟩
      · rw [hMore, hJournal, List.append_assoc]
      · rw [replay_append]
        exact hAfter

------------------------------------------------------------
-- Writers
------------------------------------------------------------

variable {Item : Type}

/- Items by their writers, one writer after another. -/
theorem perm_by_writer
    (writer : Item → Nat)
    {count : Nat}
    {items : List Item}
    (hWriters : ∀ item ∈ items, writer item < count) :
    items.Perm
      ((List.range count).flatMap fun i =>
        items.filter fun item => writer item = i) := by
  induction count generalizing items with
  | zero =>
      have hNone : items = [] :=
        List.eq_nil_iff_forall_not_mem.mpr fun item hItem =>
          absurd (hWriters item hItem) (Nat.not_lt_zero _)
      rw [hNone]
      exact List.Perm.refl _
  | succ count ih =>
      have hEarlier :
          ((List.range count).flatMap fun i =>
              (items.filter fun item =>
                writer item < count).filter fun item =>
                  writer item = i) =
            (List.range count).flatMap fun i =>
              items.filter fun item => writer item = i := by
        apply List.flatMap_congr
        intro i hBound
        rw [List.mem_range] at hBound
        rw [List.filter_filter]
        apply List.filter_congr
        intro item _
        rw [← Bool.decide_and, decide_eq_decide]
        omega
      have hLast :
          (items.filter fun item => !(writer item < count)) =
            items.filter fun item => writer item = count := by
        apply List.filter_congr
        intro item hItem
        have hBound := hWriters item hItem
        simp only [Bool.not_eq_eq_eq_not]
        rw [← decide_not, decide_eq_decide]
        omega
      have hBelow :
          ∀ item ∈
            items.filter fun item => writer item < count,
              writer item < count := fun item hItem =>
        of_decide_eq_true (List.mem_filter.mp hItem).2
      have hFront := ih hBelow
      have hSplit :=
        List.filter_append_perm
          (fun item => decide (writer item < count)) items
      rw [hEarlier] at hFront
      rw [hLast] at hSplit
      rw [List.range_succ, List.flatMap_append,
        List.flatMap_singleton]
      exact hSplit.symm.trans (hFront.append_right _)

end Journal

------------------------------------------------------------
-- What a Process Writes
------------------------------------------------------------

namespace Process

variable {Op : Type} {Res : Op → Type} {ε α : Type}
variable {Entry : Type} {entryOf : Op → Option Entry}

/- Whatever the answers are, the operations of the process
write these entries, in this order. -/
def Writes
    (entryOf : Op → Option Entry) :
    List Entry → Process Op Res ε α → Prop
| entries, .ret _ => entries = []
| entries, .throw _ => entries = []
| entries, .act op next =>
    ∃ rest,
      entries = (entryOf op).toList ++ rest ∧
        ∀ answer, Writes entryOf rest (next answer)

/- A process without such an operation writes nothing. -/
theorem writes_nothing
    {process : Process Op Res ε α}
    (hProcess : process.Always fun op => entryOf op = none) :
    process.Writes entryOf [] := by
  induction process with
  | ret value => rfl
  | throw error => rfl
  | act op next ih =>
      refine ⟨[], ?_, fun answer => ih answer (hProcess.2 answer)⟩
      rw [hProcess.1]
      rfl

/- One entry, and then nothing more. -/
theorem writes_once
    {op : Op}
    {next : Res op → Process Op Res ε α}
    {entry : Entry}
    (hEntry : entryOf op = some entry)
    (hNext :
      ∀ answer,
        (next answer).Always fun op => entryOf op = none) :
    (Process.act op next).Writes entryOf [entry] := by
  refine ⟨[], ?_, fun answer => writes_nothing (hNext answer)⟩
  rw [hEntry]
  rfl

theorem writes_tryCatch
    {entries : List Entry}
    {process : Process Op Res ε α}
    {handler : ε → Process Op Res ε α}
    (hProcess : process.Writes entryOf entries)
    (hHandler :
      ∀ error, (handler error).Writes entryOf []) :
    (tryCatch process handler).Writes entryOf entries := by
  induction process generalizing entries with
  | ret value => exact hProcess
  | throw error =>
      have hNone : entries = [] := hProcess
      rw [hNone]
      exact hHandler error
  | act op next ih =>
      rcases hProcess with ⟨rest, hEntries, hNext⟩
      exact
        ⟨rest, hEntries, fun answer => ih answer (hNext answer)⟩

/- A trace has written the first of the entries, and what is
left of the process writes the others. -/
theorem writes_trace
    {steps : List (Sigma Res)}
    {start final : Process Op Res ε α}
    (hTrace : Trace steps start final)
    {entries : List Entry}
    (hStart : start.Writes entryOf entries) :
    ∃ rest,
      entries =
          (steps.filterMap fun step => entryOf step.1) ++
            rest ∧
        final.Writes entryOf rest := by
  induction hTrace generalizing entries with
  | nil process => exact ⟨entries, rfl, hStart⟩
  | @cons op next answer steps final rest ih =>
      rcases hStart with ⟨others, hEntries, hNext⟩
      rcases ih (hNext answer) with ⟨later, hOthers, hFinal⟩
      refine ⟨later, ?_, hFinal⟩
      rw [hEntries, hOthers, ← List.append_assoc]
      congr 1
      rw [List.filterMap_cons]
      cases entryOf op <;> rfl

/- A process that is through has written everything. -/
theorem Writes.of_through
    {entries : List Entry}
    {process : Process Op Res ε α}
    (hWrites : process.Writes entryOf entries)
    (hThrough : ∀ op next, process ≠ .act op next) :
    entries = [] := by
  cases process with
  | ret value => exact hWrites
  | throw error => exact hWrites
  | act op next => exact absurd rfl (hThrough op next)

end Process
