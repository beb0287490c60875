import Mathlib.Data.List.Basic

/-
  Programs that perform one operation after another, for an
  environment that answers each of them.

  A process is the tree of its possible behaviours, so it can
  be executed alone, or one operation at a time among others.

  Main declarations:
    * `Process`, its monad, and `Process.tryCatch`
    * `Process.exec` and `Process.collect`
    * `Process.Always` and `Process.exec_invariant`
    * `Process.Within`
    * `Process.Indifferent`
    * `Process.Follows`
    * `Process.Fulfils` and `Process.LeavesOpen`
    * `Process.Commits`
-/

------------------------------------------------------------
-- Processes
------------------------------------------------------------

/- A program that returns, throws, or performs an operation
and continues with the answer. -/
inductive Process
    (Op : Type) (Res : Op → Type) (ε α : Type) : Type where
| ret (value : α)
| throw (error : ε)
| act (op : Op) (next : Res op → Process Op Res ε α)

namespace Process

variable {Op : Type} {Res : Op → Type} {ε α β : Type}

/- Sequential composition; an exception ends it. -/
def bind :
    Process Op Res ε α →
      (α → Process Op Res ε β) → Process Op Res ε β
| .ret value, rest => rest value
| .throw error, _ => .throw error
| .act op next, rest =>
    .act op fun answer => bind (next answer) rest

instance : Monad (Process Op Res ε) where
  pure := .ret
  bind := bind

/- Perform one operation and return its answer. -/
def perform (op : Op) : Process Op Res ε (Res op) :=
  .act op .ret

/- Return the value or throw the exception. -/
def ofExcept : Except ε α → Process Op Res ε α
| .ok value => .ret value
| .error error => .throw error

/- Continue with a handler where the process throws. -/
def tryCatch :
    Process Op Res ε α →
      (ε → Process Op Res ε α) → Process Op Res ε α
| .ret value, _ => .ret value
| .throw error, handler => handler error
| .act op next, handler =>
    .act op fun answer => tryCatch (next answer) handler

@[simp] theorem pure_eq_ret (value : α) :
    (pure value : Process Op Res ε α) = .ret value := rfl

@[simp] theorem ret_bind
    (value : α)
    (rest : α → Process Op Res ε β) :
    (Process.ret value >>= rest) = rest value := rfl

@[simp] theorem throw_bind
    (error : ε)
    (rest : α → Process Op Res ε β) :
    (Process.throw error >>= rest) = .throw error := rfl

@[simp] theorem act_bind
    (op : Op)
    (next : Res op → Process Op Res ε α)
    (rest : α → Process Op Res ε β) :
    (Process.act op next >>= rest) =
      .act op fun answer => next answer >>= rest := rfl

theorem bind_assoc
    {γ : Type}
    (process : Process Op Res ε α)
    (first : α → Process Op Res ε β)
    (second : β → Process Op Res ε γ) :
    (process >>= first >>= second) =
      (process >>= fun value => first value >>= second) := by
  induction process with
  | ret value => rfl
  | throw error => rfl
  | act op next ih =>
      simp only [act_bind]
      congr 1
      funext answer
      exact ih answer

@[simp] theorem tryCatch_ret
    (value : α)
    (handler : ε → Process Op Res ε α) :
    tryCatch (.ret value) handler = .ret value := rfl

@[simp] theorem tryCatch_throw
    (error : ε)
    (handler : ε → Process Op Res ε α) :
    tryCatch (.throw error) handler = handler error := rfl

@[simp] theorem tryCatch_act
    (op : Op)
    (next : Res op → Process Op Res ε α)
    (handler : ε → Process Op Res ε α) :
    tryCatch (.act op next) handler =
      .act op fun answer =>
        tryCatch (next answer) handler := rfl

@[simp] theorem perform_bind
    (op : Op)
    (rest : Res op → Process Op Res ε β) :
    (perform op >>= rest) = .act op rest := rfl

@[simp] theorem ofExcept_ok (value : α) :
    (ofExcept (.ok value) : Process Op Res ε α) =
      .ret value := rfl

@[simp] theorem ofExcept_error (error : ε) :
    (ofExcept (.error error) : Process Op Res ε α) =
      .throw error := rfl

------------------------------------------------------------
-- Sequential Execution
------------------------------------------------------------

variable {σ : Type}
variable {answer : (op : Op) → σ → Res op × σ}

/- Execute a process alone. -/
def exec
    (answer : (op : Op) → σ → Res op × σ) :
    Process Op Res ε α → σ → Except ε α × σ
| .ret value, state => (.ok value, state)
| .throw error, state => (.error error, state)
| .act op next, state =>
    exec answer (next (answer op state).1)
      (answer op state).2

@[simp] theorem exec_ret
    (value : α)
    (state : σ) :
    exec answer (.ret value : Process Op Res ε α) state =
      (.ok value, state) := rfl

@[simp] theorem exec_throw
    (error : ε)
    (state : σ) :
    exec answer (.throw error : Process Op Res ε α) state =
      (.error error, state) := rfl

@[simp] theorem exec_act
    (op : Op)
    (next : Res op → Process Op Res ε α)
    (state : σ) :
    exec answer (.act op next) state =
      exec answer (next (answer op state).1)
        (answer op state).2 := rfl

theorem exec_bind
    (process : Process Op Res ε α)
    (rest : α → Process Op Res ε β)
    (state : σ) :
    exec answer (process >>= rest) state =
      match exec answer process state with
      | (.ok value, next) => exec answer (rest value) next
      | (.error error, next) => (.error error, next) := by
  induction process generalizing state with
  | ret value => rfl
  | throw error => rfl
  | act op next ih => exact ih _ _

theorem exec_tryCatch
    (process : Process Op Res ε α)
    (handler : ε → Process Op Res ε α)
    (state : σ) :
    exec answer (tryCatch process handler) state =
      match exec answer process state with
      | (.ok value, next) => (.ok value, next)
      | (.error error, next) =>
          exec answer (handler error) next := by
  induction process generalizing state with
  | ret value => rfl
  | throw error => rfl
  | act op next ih => exact ih _ _

------------------------------------------------------------
-- What an Execution Shows
------------------------------------------------------------

/- What is seen of the operations of an execution, each in
the state that it finds. -/
def collect
    {γ : Type}
    (answer : (op : Op) → σ → Res op × σ)
    (seen : σ → Op → List γ) :
    Process Op Res ε α → σ → List γ
| .ret _, _ => []
| .throw _, _ => []
| .act op next, state =>
    seen state op ++
      collect answer seen (next (answer op state).1)
        (answer op state).2

theorem collect_bind
    {γ : Type}
    {seen : σ → Op → List γ}
    (process : Process Op Res ε α)
    (rest : α → Process Op Res ε β)
    (state : σ) :
    collect answer seen (process >>= rest) state =
      collect answer seen process state ++
        match exec answer process state with
        | (.ok value, next) =>
            collect answer seen (rest value) next
        | (.error _, _) => [] := by
  induction process generalizing state with
  | ret value => rfl
  | throw error => rfl
  | act op next ih =>
      rw [act_bind, collect, collect, ih, List.append_assoc]
      rfl

theorem collect_tryCatch
    {γ : Type}
    {seen : σ → Op → List γ}
    {handler : ε → Process Op Res ε α}
    (hSilent :
      ∀ error state,
        collect answer seen (handler error) state = [])
    (process : Process Op Res ε α)
    (state : σ) :
    collect answer seen (tryCatch process handler) state =
      collect answer seen process state := by
  induction process generalizing state with
  | ret value => rfl
  | throw error => exact hSilent error state
  | act op next ih => rw [tryCatch_act, collect, collect, ih]

------------------------------------------------------------
-- Operations a Process Can Perform
------------------------------------------------------------

/- Every operation that can occur satisfies `allowed`. -/
def Always
    (allowed : Op → Prop) :
    Process Op Res ε α → Prop
| .ret _ => True
| .throw _ => True
| .act op next =>
    allowed op ∧ ∀ answer, Always allowed (next answer)

variable {allowed : Op → Prop}

theorem always_bind
    {process : Process Op Res ε α}
    {rest : α → Process Op Res ε β}
    (hProcess : process.Always allowed)
    (hRest : ∀ value, (rest value).Always allowed) :
    (process >>= rest).Always allowed := by
  induction process with
  | ret value => exact hRest value
  | throw error => trivial
  | act op next ih =>
      exact
        ⟨hProcess.1, fun answer => ih answer (hProcess.2 answer)⟩

theorem always_tryCatch
    {process : Process Op Res ε α}
    {handler : ε → Process Op Res ε α}
    (hProcess : process.Always allowed)
    (hHandler : ∀ error, (handler error).Always allowed) :
    (tryCatch process handler).Always allowed := by
  induction process with
  | ret value => trivial
  | throw error => exact hHandler error
  | act op next ih =>
      exact
        ⟨hProcess.1, fun answer => ih answer (hProcess.2 answer)⟩

theorem always_ofExcept (value : Except ε α) :
    (ofExcept value : Process Op Res ε α).Always allowed := by
  cases value <;> trivial

/- A weaker condition holds as well. -/
theorem Always.mono
    {others : Op → Prop}
    {process : Process Op Res ε α}
    (hProcess : process.Always allowed)
    (hWeaker : ∀ op, allowed op → others op) :
    process.Always others := by
  induction process with
  | ret value => trivial
  | throw error => trivial
  | act op next ih =>
      exact
        ⟨hWeaker op hProcess.1,
          fun answer => ih answer (hProcess.2 answer)⟩

/- What every allowed operation preserves, the execution of
the whole process preserves. -/
theorem exec_invariant
    (Invariant : σ → Prop)
    (hStep :
      ∀ op state,
        allowed op → Invariant state →
          Invariant (answer op state).2)
    {process : Process Op Res ε α}
    (hProcess : process.Always allowed)
    {state : σ}
    (hState : Invariant state) :
    Invariant (exec answer process state).2 := by
  induction process generalizing state with
  | ret value => exact hState
  | throw error => exact hState
  | act op next ih =>
      exact
        ih _ (hProcess.2 _)
          (hStep op state hProcess.1 hState)

/- Nothing is seen of operations that show nothing. -/
theorem collect_of_always
    {γ : Type}
    {seen : σ → Op → List γ}
    (hSilent : ∀ op state, allowed op → seen state op = [])
    {process : Process Op Res ε α}
    (hProcess : process.Always allowed)
    (state : σ) :
    collect answer seen process state = [] := by
  induction process generalizing state with
  | ret value => rfl
  | throw error => rfl
  | act op next ih =>
      rw [collect, hSilent op state hProcess.1,
        ih _ (hProcess.2 _)]
      rfl

------------------------------------------------------------
-- Operations under Assumptions
------------------------------------------------------------

/- Every operation that can occur satisfies `allowed`, as
long as the answers are the expected ones. -/
def Within
    (expected : (op : Op) → Res op → Prop)
    (allowed : Op → Prop) :
    Process Op Res ε α → Prop
| .ret _ => True
| .throw _ => True
| .act op next =>
    allowed op ∧
      ∀ answer,
        expected op answer →
          Within expected allowed (next answer)

------------------------------------------------------------
-- Answers That Make No Difference
------------------------------------------------------------

/-
  The process goes on in the same way after answers that are
  alike, and its operations are allowed, as long as the
  answers are the expected ones.
-/
def Indifferent
    (expected : (op : Op) → Res op → Prop)
    (allowed : Op → Prop)
    (alike : (op : Op) → Res op → Res op → Prop) :
    Process Op Res ε α → Prop
| .ret _ => True
| .throw _ => True
| .act op next =>
    allowed op ∧
      (∀ answer other,
        alike op answer other → next answer = next other) ∧
        ∀ answer,
          expected op answer →
            Indifferent expected allowed alike (next answer)

variable {expected : (op : Op) → Res op → Prop}
variable {alike : (op : Op) → Res op → Res op → Prop}

theorem indifferent_bind
    {process : Process Op Res ε α}
    {rest : α → Process Op Res ε β}
    (hProcess : process.Indifferent expected allowed alike)
    (hRest :
      ∀ value,
        (rest value).Indifferent expected allowed alike) :
    (process >>= rest).Indifferent expected allowed
      alike := by
  induction process with
  | ret value => exact hRest value
  | throw error => trivial
  | act op next ih =>
      rcases hProcess with ⟨hAllowed, hAlike, hNext⟩
      refine ⟨hAllowed, ?_, ?_⟩
      · intro answer other hAnswers
        dsimp only
        rw [hAlike answer other hAnswers]
      · intro answer hExpected
        exact ih answer (hNext answer hExpected)

theorem indifferent_tryCatch
    {process : Process Op Res ε α}
    {handler : ε → Process Op Res ε α}
    (hProcess : process.Indifferent expected allowed alike)
    (hHandler :
      ∀ error,
        (handler error).Indifferent expected allowed
          alike) :
    (tryCatch process handler).Indifferent expected allowed
      alike := by
  induction process with
  | ret value => trivial
  | throw error => exact hHandler error
  | act op next ih =>
      rcases hProcess with ⟨hAllowed, hAlike, hNext⟩
      refine ⟨hAllowed, ?_, ?_⟩
      · intro answer other hAnswers
        dsimp only
        rw [hAlike answer other hAnswers]
      · intro answer hExpected
        exact ih answer (hNext answer hExpected)

/- Operations whose answers are alike only when they are
equal. -/
theorem indifferent_of_always
    {process : Process Op Res ε α}
    (hProcess :
      process.Always fun op =>
        allowed op ∧
          ∀ answer other,
            alike op answer other → answer = other) :
    process.Indifferent expected allowed alike := by
  induction process with
  | ret value => trivial
  | throw error => trivial
  | act op next ih =>
      rcases hProcess with ⟨⟨hAllowed, hAlike⟩, hNext⟩
      refine ⟨hAllowed, ?_, ?_⟩
      · intro answer other hAnswers
        rw [hAlike answer other hAnswers]
      · intro answer _
        exact ih answer (hNext answer)

------------------------------------------------------------
-- Order of Operations
------------------------------------------------------------

/- Every operation is allowed after the one before it. -/
def Follows
    (allowed : Option Op → Op → Prop) :
    Option Op → Process Op Res ε α → Prop
| _, .ret _ => True
| _, .throw _ => True
| previous, .act op next =>
    allowed previous op ∧
      ∀ answer, Follows allowed (some op) (next answer)

/- A part that is fine after anything may follow anything. -/
theorem follows_bind
    {allowed : Option Op → Op → Prop}
    {previous : Option Op}
    {process : Process Op Res ε α}
    {rest : α → Process Op Res ε β}
    (hProcess : process.Follows allowed previous)
    (hRest :
      ∀ before value, (rest value).Follows allowed before) :
    (process >>= rest).Follows allowed previous := by
  induction process generalizing previous with
  | ret value => exact hRest previous value
  | throw error => trivial
  | act op next ih =>
      exact
        ⟨hProcess.1, fun answer => ih answer (hProcess.2 answer)⟩

theorem follows_tryCatch
    {allowed : Option Op → Op → Prop}
    {previous : Option Op}
    {process : Process Op Res ε α}
    {handler : ε → Process Op Res ε α}
    (hProcess : process.Follows allowed previous)
    (hHandler :
      ∀ before error,
        (handler error).Follows allowed before) :
    (tryCatch process handler).Follows allowed previous := by
  induction process generalizing previous with
  | ret value => trivial
  | throw error => exact hHandler previous error
  | act op next ih =>
      exact
        ⟨hProcess.1, fun answer => ih answer (hProcess.2 answer)⟩

theorem follows_of_always
    {allowed : Option Op → Op → Prop}
    {process : Process Op Res ε α}
    (hProcess :
      process.Always fun op => ∀ before, allowed before op)
    (previous : Option Op) :
    process.Follows allowed previous := by
  induction process generalizing previous with
  | ret value => trivial
  | throw error => trivial
  | act op next ih =>
      exact
        ⟨hProcess.1 previous,
          fun answer => ih answer (hProcess.2 answer) _⟩

------------------------------------------------------------
-- Obligations
------------------------------------------------------------

variable {μ : Type}

/-
  On every path of answers, the process reaches an operation
  that discharges the obligation.  The obligation may change
  with each answer; `none` discharges it.
-/
def Fulfils
    (advance : μ → (op : Op) → Res op → Option μ) :
    μ → Process Op Res ε α → Prop
| _, .ret _ => False
| _, .throw _ => False
| duty, .act op next =>
    ∀ answer,
      match advance duty op answer with
      | none => True
      | some left => Fulfils advance left (next answer)

variable {advance : μ → (op : Op) → Res op → Option μ}

/- The process returns, and it either discharges the
obligation or leaves it as it is. -/
def LeavesOpen
    (advance : μ → (op : Op) → Res op → Option μ)
    (duty : μ) : Process Op Res ε α → Prop
| .ret _ => True
| .throw _ => False
| .act op next =>
    ∀ answer,
      (advance duty op answer = none ∨
          advance duty op answer = some duty) ∧
        LeavesOpen advance duty (next answer)

/- One operation, then the rest. -/
theorem fulfils_act
    {duty : μ}
    {op : Op}
    {next : Res op → Process Op Res ε α}
    (hNext :
      ∀ answer left,
        advance duty op answer = some left →
          (next answer).Fulfils advance left) :
    (Process.act op next).Fulfils advance duty := by
  intro answer
  cases hLeft : advance duty op answer with
  | none => trivial
  | some left => exact hNext answer left hLeft

/- An obligation that stays open falls to what follows. -/
theorem fulfils_bind_of_leavesOpen
    {duty : μ}
    {process : Process Op Res ε α}
    {rest : α → Process Op Res ε β}
    (hProcess : process.LeavesOpen advance duty)
    (hRest : ∀ value, (rest value).Fulfils advance duty) :
    (process >>= rest).Fulfils advance duty := by
  induction process with
  | ret value => exact hRest value
  | throw error => exact hProcess.elim
  | act op next ih =>
      apply fulfils_act
      intro answer left hLeft
      rcases hProcess answer with ⟨hNone | hSame, hOpen⟩
      · simp [hNone] at hLeft
      · have hDuty : duty = left :=
          Option.some.inj (hSame.symm.trans hLeft)
        rw [← hDuty]
        exact ih answer hOpen

/- What follows an obligation that is met does not matter. -/
theorem fulfils_bind
    {duty : μ}
    {process : Process Op Res ε α}
    {rest : α → Process Op Res ε β}
    (hProcess : process.Fulfils advance duty) :
    (process >>= rest).Fulfils advance duty := by
  induction process generalizing duty with
  | ret value => exact hProcess.elim
  | throw error => exact hProcess.elim
  | act op next ih =>
      apply fulfils_act
      intro answer left hLeft
      have hNext := hProcess answer
      rw [hLeft] at hNext
      exact ih answer hNext

theorem fulfils_tryCatch
    {duty : μ}
    {process : Process Op Res ε α}
    {handler : ε → Process Op Res ε α}
    (hProcess : process.Fulfils advance duty) :
    (tryCatch process handler).Fulfils advance duty := by
  induction process generalizing duty with
  | ret value => exact hProcess.elim
  | throw error => exact hProcess.elim
  | act op next ih =>
      apply fulfils_act
      intro answer left hLeft
      have hNext := hProcess answer
      rw [hLeft] at hNext
      exact ih answer hNext

/-
  Whenever an operation is answered so that it incurs an
  obligation, the rest of the process fulfils it.
-/
def Commits
    (advance : μ → (op : Op) → Res op → Option μ)
    (incurs : (op : Op) → Res op → μ → Prop) :
    Process Op Res ε α → Prop
| .ret _ => True
| .throw _ => True
| .act op next =>
    ∀ answer,
      (∀ duty,
        incurs op answer duty →
          (next answer).Fulfils advance duty) ∧
        Commits advance incurs (next answer)

variable {incurs : (op : Op) → Res op → μ → Prop}

theorem commits_bind
    {process : Process Op Res ε α}
    {rest : α → Process Op Res ε β}
    (hProcess : process.Commits advance incurs)
    (hRest : ∀ value, (rest value).Commits advance incurs) :
    (process >>= rest).Commits advance incurs := by
  induction process with
  | ret value => exact hRest value
  | throw error => trivial
  | act op next ih =>
      intro answer
      rcases hProcess answer with ⟨hDuties, hNext⟩
      refine ⟨?_, ih answer hNext⟩
      intro duty hDuty
      exact fulfils_bind (hDuties duty hDuty)

theorem commits_tryCatch
    {process : Process Op Res ε α}
    {handler : ε → Process Op Res ε α}
    (hProcess : process.Commits advance incurs)
    (hHandler :
      ∀ error, (handler error).Commits advance incurs) :
    (tryCatch process handler).Commits advance incurs := by
  induction process with
  | ret value => trivial
  | throw error => exact hHandler error
  | act op next ih =>
      intro answer
      rcases hProcess answer with ⟨hDuties, hNext⟩
      refine ⟨?_, ih answer hNext⟩
      intro duty hDuty
      exact fulfils_tryCatch (hDuties duty hDuty)

/- Operations that incur nothing. -/
theorem commits_of_always
    {process : Process Op Res ε α}
    (hProcess :
      process.Always fun op =>
        ∀ answer duty, ¬ incurs op answer duty) :
    process.Commits advance incurs := by
  induction process with
  | ret value => trivial
  | throw error => trivial
  | act op next ih =>
      intro answer
      refine ⟨?_, ih answer (hProcess.2 answer)⟩
      intro duty hDuty
      exact absurd hDuty (hProcess.1 answer duty)

end Process
