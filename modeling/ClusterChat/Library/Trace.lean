import ClusterChat.Library.Process

/-
  What a process has performed so far.

  A trace leads from a process to what is left of it.  What
  is known of every path of a process is known of its traces.

  Main declarations:
    * `Process.Trace`
    * `Process.trace_act` and `Process.trace_bind_ret`
    * `Process.allowed_of_trace`
    * `Process.Precedes` and `Process.precedes_trace`
    * `Process.Returns`
    * `Process.EndsWith` and `Process.endsWith_trace`
    * `Process.Ensures` and `Process.ensures_trace`
-/

namespace Process

variable {Op : Type} {Res : Op → Type} {ε α β : Type}

------------------------------------------------------------
-- Traces
------------------------------------------------------------

/- The operations and answers that lead from one process to
another one. -/
inductive Trace :
    List (Sigma Res) →
      Process Op Res ε α → Process Op Res ε α → Prop where
| nil (process : Process Op Res ε α) :
    Trace [] process process
| cons
    {op : Op}
    {next : Res op → Process Op Res ε α}
    (answer : Res op)
    {steps : List (Sigma Res)}
    {final : Process Op Res ε α}
    (rest : Trace steps (next answer) final) :
    Trace (⟨op, answer⟩ :: steps) (.act op next) final

/- One more operation. -/
theorem Trace.snoc
    {steps : List (Sigma Res)}
    {start : Process Op Res ε α}
    {op : Op}
    {next : Res op → Process Op Res ε α}
    (hTrace : Trace steps start (.act op next))
    (answer : Res op) :
    Trace (steps ++ [⟨op, answer⟩]) start (next answer) := by
  generalize hDue : Process.act op next = due at hTrace
  induction hTrace with
  | nil process =>
      rw [← hDue]
      exact Trace.cons answer (Trace.nil _)
  | cons earlier rest ih => exact Trace.cons earlier (ih hDue)

/- A process that is through performs nothing. -/
theorem trace_ret
    {steps : List (Sigma Res)}
    {value : α}
    {final : Process Op Res ε α}
    (hTrace : Trace steps (.ret value) final) :
    steps = [] := by
  cases hTrace
  rfl

theorem trace_throw
    {steps : List (Sigma Res)}
    {error : ε}
    {final : Process Op Res ε α}
    (hTrace : Trace steps (.throw error) final) :
    steps = [] := by
  cases hTrace
  rfl

/- Nothing has happened yet, or the first operation has. -/
theorem trace_act
    {steps : List (Sigma Res)}
    {op : Op}
    {next : Res op → Process Op Res ε α}
    {final : Process Op Res ε α}
    (hTrace : Trace steps (.act op next) final) :
    steps = [] ∨
      ∃ answer rest,
        steps = ⟨op, answer⟩ :: rest ∧
          Trace rest (next answer) final := by
  cases hTrace with
  | nil => exact Or.inl rfl
  | cons answer rest => exact Or.inr ⟨answer, _, rfl, rest⟩

/- The trace of a composition that is through. -/
theorem trace_bind_ret
    {process : Process Op Res ε α}
    {rest : α → Process Op Res ε β}
    {steps : List (Sigma Res)}
    {result : β}
    (hTrace : Trace steps (process >>= rest) (.ret result)) :
    ∃ front back value,
      steps = front ++ back ∧
        Trace front process (.ret value) ∧
          Trace back (rest value) (.ret result) := by
  induction process generalizing steps with
  | ret value =>
      exact ⟨[], steps, value, rfl, Trace.nil _, hTrace⟩
  | throw error => cases hTrace
  | act op next ih =>
      rw [act_bind] at hTrace
      cases hTrace with
      | @cons _ _ answer steps _ hRest =>
          rcases ih answer hRest with
            ⟨front, back, value, hSteps, hFront, hBack⟩
          refine
            ⟨⟨op, answer⟩ :: front, back, value, ?_,
              Trace.cons answer hFront, hBack⟩
          rw [hSteps, List.cons_append]

/- What is allowed everywhere was allowed on the way. -/
theorem allowed_of_trace
    {allowed : Op → Prop}
    {steps : List (Sigma Res)}
    {start final : Process Op Res ε α}
    (hTrace : Trace steps start final)
    (hStart : start.Always allowed) :
    (∀ step ∈ steps, allowed step.1) ∧
      final.Always allowed := by
  induction hTrace with
  | nil process => exact ⟨by simp, hStart⟩
  | cons answer rest ih =>
      rcases ih (hStart.2 answer) with ⟨hRest, hFinal⟩
      refine ⟨?_, hFinal⟩
      intro step hStep
      rcases List.mem_cons.mp hStep with hHere | hThere
      · rw [hHere]
        exact hStart.1
      · exact hRest step hThere

------------------------------------------------------------
-- Precedence
------------------------------------------------------------

/- No operation of the second kind comes before one of the
first kind. -/
def Precedes
    (first : (op : Op) → Res op → Prop)
    (second : Op → Prop) :
    Process Op Res ε α → Prop
| .ret _ => True
| .throw _ => True
| .act op next =>
    ¬ second op ∧
      ∀ answer,
        first op answer ∨
          Precedes first second (next answer)

variable {first : (op : Op) → Res op → Prop}
variable {second : Op → Prop}

theorem precedes_tryCatch
    {process : Process Op Res ε α}
    {handler : ε → Process Op Res ε α}
    (hProcess : process.Precedes first second)
    (hHandler :
      ∀ error, (handler error).Precedes first second) :
    (tryCatch process handler).Precedes first second := by
  induction process with
  | ret value => trivial
  | throw error => exact hHandler error
  | act op next ih =>
      refine ⟨hProcess.1, ?_⟩
      intro answer
      rcases hProcess.2 answer with hFirst | hLater
      · exact Or.inl hFirst
      · exact Or.inr (ih answer hLater)

/- In a trace, the first kind has happened before. -/
theorem precedes_trace
    {steps : List (Sigma Res)}
    {start final : Process Op Res ε α}
    (hTrace : Trace steps start final)
    (hStart : start.Precedes first second)
    (hSecond : ∃ step ∈ steps, second step.1) :
    ∃ step ∈ steps, first step.1 step.2 := by
  induction hTrace with
  | nil process => simp at hSecond
  | @cons op next answer steps final rest ih =>
      rcases hStart.2 answer with hFirst | hLater
      · exact ⟨_, List.mem_cons_self, hFirst⟩
      · rcases hSecond with ⟨step, hStep, hKind⟩
        rcases List.mem_cons.mp hStep with hHere | hThere
        · rw [hHere] at hKind
          exact absurd hKind hStart.1
        · rcases ih hLater ⟨step, hThere, hKind⟩ with
            ⟨found, hFound, hFirst⟩
          exact
            ⟨found, List.mem_cons_of_mem _ hFound, hFirst⟩

------------------------------------------------------------
-- Last Operations
------------------------------------------------------------

/- On every path the process returns such a value. -/
def Returns
    (post : α → Prop) : Process Op Res ε α → Prop
| .ret value => post value
| .throw _ => False
| .act _ next => ∀ answer, Returns post (next answer)

/-
  On every path the process performs operations of one kind,
  then a single one of another kind, and returns.
-/
def EndsWith
    (earlier last : Op → Prop) :
    Process Op Res ε α → Prop
| .ret _ => False
| .throw _ => False
| .act op next =>
    (last op ∧ ∀ answer, ∃ value, next answer = .ret value) ∨
      (earlier op ∧
        ∀ answer, EndsWith earlier last (next answer))

variable {earlier last : Op → Prop}

theorem returns_bind
    {post : α → Prop}
    {result : β → Prop}
    {process : Process Op Res ε α}
    {rest : α → Process Op Res ε β}
    (hProcess : process.Returns post)
    (hRest :
      ∀ value, post value → (rest value).Returns result) :
    (process >>= rest).Returns result := by
  induction process with
  | ret value => exact hRest value hProcess
  | throw error => exact hProcess.elim
  | act op next ih =>
      exact fun answer => ih answer (hProcess answer)

/- Nothing is caught where nothing is thrown. -/
theorem tryCatch_of_returns
    {post : α → Prop}
    {process : Process Op Res ε α}
    (hProcess : process.Returns post)
    (handler : ε → Process Op Res ε α) :
    tryCatch process handler = process := by
  induction process with
  | ret value => rfl
  | throw error => exact hProcess.elim
  | act op next ih =>
      rw [tryCatch_act]
      congr 1
      funext answer
      exact ih answer (hProcess answer)

/- What is left of such a process returns as well. -/
theorem returns_of_trace
    {post : α → Prop}
    {steps : List (Sigma Res)}
    {start final : Process Op Res ε α}
    (hTrace : Trace steps start final)
    (hStart : start.Returns post) :
    final.Returns post := by
  induction hTrace with
  | nil process => exact hStart
  | cons answer rest ih => exact ih (hStart answer)

theorem exec_of_returns
    {σ : Type}
    {answer : (op : Op) → σ → Res op × σ}
    {post : α → Prop}
    {process : Process Op Res ε α}
    (hProcess : process.Returns post)
    (state : σ) :
    ∃ value after,
      exec answer process state = (.ok value, after) ∧
        post value := by
  induction process generalizing state with
  | ret value => exact ⟨value, state, rfl, hProcess⟩
  | throw error => exact hProcess.elim
  | act op next ih => exact ih _ (hProcess _) _

theorem endsWith_bind
    {post : α → Prop}
    {process : Process Op Res ε α}
    {rest : α → Process Op Res ε β}
    (hProcess : process.Always earlier)
    (hReturns : process.Returns post)
    (hRest :
      ∀ value,
        post value → (rest value).EndsWith earlier last) :
    (process >>= rest).EndsWith earlier last := by
  induction process with
  | ret value => exact hRest value hReturns
  | throw error => exact hReturns.elim
  | act op next ih =>
      refine Or.inr ⟨hProcess.1, ?_⟩
      intro answer
      exact ih answer (hProcess.2 answer) (hReturns answer)

/- A process that throws nothing needs no handler. -/
theorem endsWith_tryCatch
    {process : Process Op Res ε α}
    (hProcess : process.EndsWith earlier last)
    (handler : ε → Process Op Res ε α) :
    (tryCatch process handler).EndsWith earlier last := by
  induction process with
  | ret value => exact hProcess.elim
  | throw error => exact hProcess.elim
  | act op next ih =>
      rcases hProcess with ⟨hLast, hReturned⟩ | ⟨hFirst, hNext⟩
      · refine Or.inl ⟨hLast, ?_⟩
        intro answer
        rcases hReturned answer with ⟨value, hValue⟩
        refine ⟨value, ?_⟩
        dsimp only
        rw [hValue, tryCatch_ret]
      · exact
          Or.inr
            ⟨hFirst, fun answer => ih answer (hNext answer)⟩

/- Either the last operation is still to come, or nothing
comes after it. -/
theorem endsWith_trace
    {steps : List (Sigma Res)}
    {start final : Process Op Res ε α}
    (hTrace : Trace steps start final)
    (hStart : start.EndsWith earlier last) :
    ((∀ step ∈ steps, earlier step.1) ∧
        final.EndsWith earlier last) ∨
      ∃ front step value,
        steps = front ++ [step] ∧
          (∀ other ∈ front, earlier other.1) ∧
            last step.1 ∧ final = .ret value := by
  induction hTrace with
  | nil process => exact Or.inl ⟨by simp, hStart⟩
  | @cons op next answer steps final rest ih =>
      rcases hStart with ⟨hLast, hReturned⟩ | ⟨hFirst, hNext⟩
      · rcases hReturned answer with ⟨value, hValue⟩
        rw [hValue] at rest
        cases rest
        exact
          Or.inr
            ⟨[], ⟨op, answer⟩, value, rfl, by simp, hLast,
              rfl⟩
      · rcases ih (hNext answer) with
          ⟨hSteps, hFinal⟩ |
            ⟨front, step, value, hSteps, hFront, hRest⟩
        · refine Or.inl ⟨?_, hFinal⟩
          intro step hStep
          rcases List.mem_cons.mp hStep with hHere | hThere
          · rw [hHere]
            exact hFirst
          · exact hSteps step hThere
        · refine
            Or.inr
              ⟨⟨op, answer⟩ :: front, step, value, ?_, ?_,
                hRest⟩
          · rw [hSteps, List.cons_append]
          · intro other hOther
            rcases List.mem_cons.mp hOther with hHere | hThere
            · rw [hHere]
              exact hFirst
            · exact hFront other hThere

------------------------------------------------------------
-- Assumptions on Answers
------------------------------------------------------------

/-
  As long as the answers are as assumed, every operation is
  allowed, and what is returned satisfies `post`.
-/
def Ensures
    (assumed : (op : Op) → Res op → Prop)
    (allowed : Op → Prop)
    (post : α → Prop) : Process Op Res ε α → Prop
| .ret value => post value
| .throw _ => True
| .act op next =>
    allowed op ∧
      ∀ answer,
        assumed op answer →
          Ensures assumed allowed post (next answer)

variable {assumed : (op : Op) → Res op → Prop}
variable {allowed : Op → Prop}

theorem ensures_bind
    {post : α → Prop}
    {result : β → Prop}
    {process : Process Op Res ε α}
    {rest : α → Process Op Res ε β}
    (hProcess : process.Ensures assumed allowed post)
    (hRest :
      ∀ value,
        post value →
          (rest value).Ensures assumed allowed result) :
    (process >>= rest).Ensures assumed allowed result := by
  induction process with
  | ret value => exact hRest value hProcess
  | throw error => trivial
  | act op next ih =>
      refine ⟨hProcess.1, ?_⟩
      intro answer hAnswer
      exact ih answer (hProcess.2 answer hAnswer)

theorem ensures_tryCatch
    {post : α → Prop}
    {process : Process Op Res ε α}
    {handler : ε → Process Op Res ε α}
    (hProcess : process.Ensures assumed allowed post)
    (hHandler :
      ∀ error,
        (handler error).Ensures assumed allowed post) :
    (tryCatch process handler).Ensures assumed allowed
      post := by
  induction process with
  | ret value => exact hProcess
  | throw error => exact hHandler error
  | act op next ih =>
      refine ⟨hProcess.1, ?_⟩
      intro answer hAnswer
      exact ih answer (hProcess.2 answer hAnswer)

/- What is always allowed needs no assumption. -/
theorem ensures_of_always
    {process : Process Op Res ε α}
    (hProcess : process.Always allowed) :
    process.Ensures assumed allowed fun _ => True := by
  induction process with
  | ret value => trivial
  | throw error => trivial
  | act op next ih =>
      exact
        ⟨hProcess.1, fun answer _ =>
          ih answer (hProcess.2 answer)⟩

/- When all the answers were as assumed, so were the
operations. -/
theorem ensures_trace
    {post : α → Prop}
    {steps : List (Sigma Res)}
    {start final : Process Op Res ε α}
    (hTrace : Trace steps start final)
    (hStart : start.Ensures assumed allowed post)
    (hAnswers : ∀ step ∈ steps, assumed step.1 step.2) :
    ∀ step ∈ steps, allowed step.1 := by
  induction hTrace with
  | nil process => simp
  | @cons op next answer steps final rest ih =>
      have hRest :=
        ih
          (hStart.2 answer (hAnswers _ List.mem_cons_self))
          fun step hStep =>
            hAnswers step (List.mem_cons_of_mem _ hStep)
      intro step hStep
      rcases List.mem_cons.mp hStep with hHere | hThere
      · rw [hHere]
        exact hStart.1
      · exact hRest step hThere

/- What every allowed operation preserves, an execution
preserves whose answers are as assumed. -/
theorem exec_ensures
    {σ : Type}
    {answer : (op : Op) → σ → Res op × σ}
    (Invariant : σ → Prop)
    (hStep :
      ∀ op state,
        allowed op → Invariant state →
          assumed op (answer op state).1 ∧
            Invariant (answer op state).2)
    {post : α → Prop}
    {process : Process Op Res ε α}
    (hProcess : process.Ensures assumed allowed post)
    {state : σ}
    (hState : Invariant state) :
    Invariant (exec answer process state).2 := by
  induction process generalizing state with
  | ret value => exact hState
  | throw error => exact hState
  | act op next ih =>
      rcases hStep op state hProcess.1 hState with
        ⟨hAnswer, hNext⟩
      exact ih _ (hProcess.2 _ hAnswer) hNext

end Process
