import ClusterChat.Library.Session
import ClusterChat.Server.Cluster

/-
  The calls by which a group is created, translated from
  `GroupModel::createGroupWithCreator` and the methods of
  `Connection`.  Each of them can fail.

  The results of `commit` and `rollback` are not looked at.
  When the one that is called fails, the transaction stays
  open on the connection that goes back to the pool.  Without
  a connection from the pool nothing is called, and the
  result is false.

  Main declarations:
    * `GroupCall` and `GroupCall.answer`
    * `GroupModel.createGroupWithCreatorCalls`
    * `GroupModel.exec_inserted`
    * `GroupModel.exec_not_inserted`
    * `GroupModel.Atomic`
    * `GroupModel.creation_atomic_iff`
-/

------------------------------------------------------------
-- Calls
------------------------------------------------------------

namespace ClusterChat

/- The calls on a connection. -/
inductive GroupCall where
| begin
| insertGroup (groupname groupdesc : String)
| lastInsertId
| insertGroupUser
    (groupid userid : Int) (role : String)
| commit
| rollback

@[reducible] def GroupCall.Res : GroupCall → Type
| lastInsertId => Nat
| _ => Bool

/- Which of the calls succeed. -/
structure Outcomes where
  begin : Bool
  insertGroup : Bool
  insertGroupUser : Bool
  commit : Bool
  rollback : Bool
deriving DecidableEq, Repr

/- A connection of the pool with its transaction, and the
key that its last insert has produced. -/
structure DbConnection where
  session : Session Database
  insertId : Nat

namespace DbConnection

/- A statement on the session. -/
def call
    (conn : DbConnection)
    (succeeds : Bool)
    (statement : Session Database → Session Database) :
    Bool × DbConnection :=
  let done := conn.session.attempt succeeds statement
  (done.1, { conn with session := done.2 })

/- Insert into `AllGroup`.  The next key is taken at once,
whatever becomes of the row. -/
def insertGroup
    (conn : DbConnection)
    (succeeds : Bool)
    (groupname groupdesc : String) :
    Bool × DbConnection :=
  let key := conn.session.visible.nextGroup
  if succeeds then
    (true,
      { session :=
          (conn.session.change fun db =>
            { db with
              groups :=
                db.groups ++
                  [{ id := key, groupname := groupname,
                     groupdesc := groupdesc }] }).immediate
            fun db => { db with nextGroup := key + 1 }
        insertId := key })
  else
    (false, conn)

end DbConnection

/- What a call answers and changes. -/
def GroupCall.answer
    (outcomes : Outcomes) :
    (op : GroupCall) → DbConnection → op.Res × DbConnection
| .begin, conn => conn.call outcomes.begin Session.begin
| .insertGroup groupname groupdesc, conn =>
    conn.insertGroup outcomes.insertGroup groupname groupdesc
| .lastInsertId, conn => (conn.insertId, conn)
| .insertGroupUser groupid userid role, conn =>
    conn.call outcomes.insertGroupUser
      (Session.change fun db =>
        GroupModel.addGroup db userid groupid role)
| .commit, conn => conn.call outcomes.commit Session.commit
| .rollback, conn =>
    conn.call outcomes.rollback Session.rollback

namespace GroupModel

/- Make one call. -/
def call (op : GroupCall) :
    Process GroupCall GroupCall.Res Empty op.Res :=
  Process.perform op

/- `GroupModel::createGroupWithCreator` with a connection
from the pool. -/
def createGroupWithCreatorCalls
    (groupname groupdesc : String)
    (creatorId : Int) :
    Process GroupCall GroupCall.Res Empty Bool := do
  let begun : Bool ← call .begin
  if ¬ begun then
    return false
  else
    let inserted : Bool ←
      call (.insertGroup groupname groupdesc)
    let ok : Bool ←
      if inserted then do
        let id : Nat ← call .lastInsertId
        call (.insertGroupUser id creatorId "creator")
      else
        pure false
    if ok then
      let _ ← call .commit
      return ok
    else
      let _ ← call .rollback
      return ok

------------------------------------------------------------
-- The Three Ways It Ends
------------------------------------------------------------

variable {outcomes : Outcomes}
variable {db : Database}
variable {key : Nat}

section Ends

variable (groupname groupdesc : String) (creatorId : Int)

/- The calls on a connection without an open transaction. -/
def create
    (outcomes : Outcomes)
    (db : Database)
    (key : Nat) : Except Empty Bool × DbConnection :=
  Process.exec (GroupCall.answer outcomes)
    (createGroupWithCreatorCalls groupname groupdesc
      creatorId)
    { session := { visible := db }, insertId := key }

/- The transaction has not been started. -/
theorem exec_not_begun
    (hBegin : outcomes.begin = false) :
    create groupname groupdesc creatorId outcomes db key =
      (.ok false,
        { session := { visible := db }, insertId := key }) := by
  rcases outcomes with ⟨begun, group, user, commit, rollback⟩
  have hBegun : begun = false := hBegin
  rw [hBegun]
  rfl

/- Both rows have been inserted: the result is true, and the
transaction is over when the commit succeeds. -/
theorem exec_inserted
    (hBegin : outcomes.begin = true)
    (hGroup : outcomes.insertGroup = true)
    (hUser : outcomes.insertGroupUser = true) :
    ∃ after,
      create groupname groupdesc creatorId outcomes db key =
        (.ok true, after) ∧
      if outcomes.commit then
        after.session.pending = none ∧
          after.session.visible =
            createGroupWithCreator db groupname groupdesc
              creatorId
      else
        after.session.Open ∧
          after.session.visible.groups = db.groups ∧
            after.session.visible.groupUsers =
              db.groupUsers := by
  rcases outcomes with ⟨begun, group, user, commit, rollback⟩
  have hBegun : begun = true := hBegin
  have hInserted : group = true := hGroup
  have hMember : user = true := hUser
  rw [hBegun, hInserted, hMember]
  cases commit with
  | true =>
      refine ⟨_, rfl, ?_⟩
      rw [if_pos rfl]
      exact ⟨rfl, rfl⟩
  | false =>
      refine ⟨_, rfl, ?_⟩
      rw [if_neg (by simp)]
      exact ⟨Option.some_ne_none _, rfl, rfl⟩

/- A row has not been inserted: the result is false, nothing
is visible, and the transaction is over when the rollback
succeeds. -/
theorem exec_not_inserted
    (hBegin : outcomes.begin = true)
    (hFailed :
      outcomes.insertGroup = false ∨
        outcomes.insertGroupUser = false) :
    ∃ after,
      create groupname groupdesc creatorId outcomes db key =
        (.ok false, after) ∧
      after.session.visible.groups = db.groups ∧
      after.session.visible.groupUsers = db.groupUsers ∧
      if outcomes.rollback then
        after.session.pending = none
      else
        after.session.Open := by
  rcases outcomes with ⟨begun, group, user, commit, rollback⟩
  have hBegun : begun = true := hBegin
  rw [hBegun]
  cases group with
  | false =>
      cases rollback with
      | true =>
          refine ⟨_, rfl, rfl, rfl, ?_⟩
          rw [if_pos rfl]
          rfl
      | false =>
          refine ⟨_, rfl, rfl, rfl, ?_⟩
          rw [if_neg (by simp)]
          exact Option.some_ne_none _
  | true =>
      have hMember : user = false := by
        simpa using hFailed
      rw [hMember]
      cases rollback with
      | true =>
          refine ⟨_, rfl, rfl, rfl, ?_⟩
          rw [if_pos rfl]
          rfl
      | false =>
          refine ⟨_, rfl, rfl, rfl, ?_⟩
          rw [if_neg (by simp)]
          exact Option.some_ne_none _

------------------------------------------------------------
-- Atomicity
------------------------------------------------------------

/-
  The result is truthful, and the connection goes back
  without an open transaction: both rows are visible after
  true, and neither after false.
-/
structure Atomic
    (db : Database)
    (ok : Bool)
    (after : DbConnection) : Prop where
  created :
    ok = true →
      after.session.visible =
        createGroupWithCreator db groupname groupdesc
          creatorId
  nothing :
    ok = false →
      after.session.visible.groups = db.groups ∧
        after.session.visible.groupUsers = db.groupUsers
  closed : after.session.pending = none

/-
  Creating a group is atomic and its result truthful exactly
  when the transaction is not started, or both inserts and
  the commit succeed, or an insert fails and the rollback
  succeeds.
-/
theorem creation_atomic_iff
    (outcomes : Outcomes)
    (db : Database)
    (key : Nat) :
    (∃ ok after,
        create groupname groupdesc creatorId outcomes db
            key =
          (.ok ok, after) ∧
        Atomic groupname groupdesc creatorId db ok after) ↔
      outcomes.begin = false ∨
        (outcomes.insertGroup = true ∧
          outcomes.insertGroupUser = true ∧
            outcomes.commit = true) ∨
          ((outcomes.insertGroup = false ∨
              outcomes.insertGroupUser = false) ∧
            outcomes.rollback = true) := by
  by_cases hBegin : outcomes.begin = false
  · refine iff_of_true ?_ (Or.inl hBegin)
    exact
      ⟨false, _,
        exec_not_begun groupname groupdesc creatorId hBegin,
        { created := fun hTrue => by cases hTrue
          nothing := fun _ => ⟨rfl, rfl⟩
          closed := rfl }⟩
  have hBegun : outcomes.begin = true := by
    simpa using hBegin
  by_cases hInserted :
      outcomes.insertGroup = true ∧
        outcomes.insertGroupUser = true
  · rcases @exec_inserted outcomes db key groupname groupdesc
        creatorId hBegun hInserted.1 hInserted.2 with
      ⟨after, hExec, hEnd⟩
    rw [hExec]
    by_cases hCommit : outcomes.commit = true
    · rw [if_pos hCommit] at hEnd
      refine
        iff_of_true ?_
          (Or.inr
            (Or.inl ⟨hInserted.1, hInserted.2, hCommit⟩))
      exact
        ⟨true, after, rfl,
          { created := fun _ => hEnd.2
            nothing := fun hFalse => by cases hFalse
            closed := hEnd.1 }⟩
    · rw [if_neg hCommit] at hEnd
      refine iff_of_false ?_ ?_
      · intro hAtomic
        rcases hAtomic with ⟨ok, other, hSame, hAtomic⟩
        have hOther : after = other :=
          congrArg Prod.snd hSame
        rw [← hOther] at hAtomic
        exact hEnd.1 hAtomic.closed
      · simp [hBegun, hInserted, hCommit]
  · have hFailed :
        outcomes.insertGroup = false ∨
          outcomes.insertGroupUser = false := by
      by_cases hGroup : outcomes.insertGroup = true
      · have hUser : ¬ outcomes.insertGroupUser = true :=
          fun hUser => hInserted ⟨hGroup, hUser⟩
        exact Or.inr (by simpa using hUser)
      · exact Or.inl (by simpa using hGroup)
    rcases @exec_not_inserted outcomes db key groupname
        groupdesc creatorId hBegun hFailed with
      ⟨after, hExec, hGroups, hUsers, hEnd⟩
    rw [hExec]
    by_cases hRollback : outcomes.rollback = true
    · rw [if_pos hRollback] at hEnd
      refine
        iff_of_true ?_
          (Or.inr (Or.inr ⟨hFailed, hRollback⟩))
      exact
        ⟨false, after, rfl,
          { created := fun hTrue => by cases hTrue
            nothing := fun _ => ⟨hGroups, hUsers⟩
            closed := hEnd }⟩
    · rw [if_neg hRollback] at hEnd
      refine iff_of_false ?_ ?_
      · intro hAtomic
        rcases hAtomic with ⟨ok, other, hSame, hAtomic⟩
        have hOther : after = other :=
          congrArg Prod.snd hSame
        rw [← hOther] at hAtomic
        exact hEnd hAtomic.closed
      · rcases hFailed with hGroup | hUser
        · simp [hBegun, hGroup, hRollback]
        · simp [hBegun, hUser, hRollback]

/- A commit that fails: the result is true, the rows are not
visible, and neither is what the connection's next user
inserts. -/
theorem failed_commit_leaks (db : Database) (key : Nat) :
    ∃ after,
      create groupname groupdesc creatorId
          ⟨true, true, true, false, true⟩ db key =
        (.ok true, after) ∧
      after.session.visible.groups = db.groups ∧
        ∀ update,
          (after.session.change update).visible.groups =
            db.groups := by
  rcases @exec_inserted ⟨true, true, true, false, true⟩ db key
      groupname groupdesc creatorId rfl rfl rfl with
    ⟨after, hExec, hOpen, hGroups, _⟩
  refine ⟨after, hExec, hGroups, ?_⟩
  intro update
  rw [(Session.change_after_leak hOpen update).1]
  exact hGroups

end Ends

/- The commit fails: the result is true, and neither row is
visible. -/
theorem failed_commit_not_atomic :
    ¬ ∃ ok after,
        create "us" "" 1 ⟨true, true, true, false, true⟩
            (sampleDatabase []) 0 =
          (.ok ok, after) ∧
        Atomic "us" "" 1 (sampleDatabase []) ok after := by
  intro hAtomic
  rcases hAtomic with ⟨ok, after, hExec, hAtomic⟩
  rcases @exec_inserted ⟨true, true, true, false, true⟩
      (sampleDatabase []) 0 "us" "" 1 rfl rfl rfl with
    ⟨other, hOther, hOpen, _⟩
  rw [hOther] at hExec
  have hSame : other = after := congrArg Prod.snd hExec
  rw [hSame] at hOpen
  exact hOpen hAtomic.closed

end GroupModel

end ClusterChat
