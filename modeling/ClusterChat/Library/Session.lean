import Mathlib.Data.List.Basic

/-
  A session with a transactional store.

  Changes become visible at once outside a transaction, and
  by a commit inside one.  A call that fails does nothing, so
  a transaction that could be neither committed nor rolled
  back stays open.

  Main declarations:
    * `Session` and `Session.attempt`
    * `Session.change_after_leak`
-/

------------------------------------------------------------
-- Sessions
------------------------------------------------------------

/- What everybody sees, and the changes of a transaction if
one is open. -/
structure Session (S : Type) where
  visible : S
  pending : Option (List (S → S)) := none

namespace Session

variable {S : Type}

/- A transaction is open. -/
def Open (session : Session S) : Prop :=
  session.pending ≠ none

/- Several changes, one after another. -/
def applyAll
    (changes : List (S → S))
    (store : S) : S :=
  changes.foldl (fun store change => change store) store

@[simp] theorem applyAll_nil (store : S) :
    applyAll [] store = store := rfl

@[simp] theorem applyAll_cons
    (change : S → S)
    (changes : List (S → S))
    (store : S) :
    applyAll (change :: changes) store =
      applyAll changes (change store) := rfl

/- End the transaction by making its changes visible. -/
def commit (session : Session S) : Session S :=
  match session.pending with
  | none => session
  | some changes =>
      { visible := applyAll changes session.visible }

/- End the transaction and forget its changes. -/
def rollback (session : Session S) : Session S where
  visible := session.visible

/- Start a transaction; one that is open is committed. -/
def begin (session : Session S) : Session S where
  visible := session.commit.visible
  pending := some []

/- Change the store. -/
def change
    (update : S → S)
    (session : Session S) : Session S :=
  match session.pending with
  | none => { visible := update session.visible }
  | some changes =>
      { visible := session.visible
        pending := some (changes ++ [update]) }

/- A change that no transaction covers, such as the step of
a counter for keys. -/
def immediate
    (update : S → S)
    (session : Session S) : Session S :=
  { session with visible := update session.visible }

/- A call reports whether it has succeeded, and does nothing
when it has not. -/
def attempt
    (succeeds : Bool)
    (call : Session S → Session S)
    (session : Session S) : Bool × Session S :=
  if succeeds then
    (true, call session)
  else
    (false, session)

------------------------------------------------------------
-- What Becomes Visible
------------------------------------------------------------

variable {session : Session S}

@[simp] theorem begin_of_closed
    (hClosed : session.pending = none) :
    session.begin =
      { visible := session.visible, pending := some [] } := by
  unfold begin commit
  rw [hClosed]

theorem change_of_open
    {changes : List (S → S)}
    (hOpen : session.pending = some changes)
    (update : S → S) :
    session.change update =
      { visible := session.visible
        pending := some (changes ++ [update]) } := by
  unfold change
  rw [hOpen]

/- Whatever the next user of a session with an open
transaction changes stays invisible, and is lost with the
next rollback. -/
theorem change_after_leak
    (hOpen : session.Open)
    (update : S → S) :
    (session.change update).visible = session.visible ∧
      (session.change update).Open ∧
        (session.change update).rollback.visible =
          session.visible := by
  cases hPending : session.pending with
  | none => exact absurd hPending hOpen
  | some changes =>
      rw [change_of_open hPending]
      exact ⟨rfl, Option.some_ne_none _, rfl⟩

end Session
