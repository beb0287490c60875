import ClusterChat.Library.FreshNames
import ClusterChat.Server.NoSession

/-
  Ids that the database leaves out.

  The database chooses the ids of new users: they are not used
  twice, and it may leave some out.  In the run without a
  connection it leaves out the ids of the users registered on
  it.

  Main declarations:
    * `World.GapLabel` and `World.stepWithGaps`
    * `World.registeredOn` and `World.shownWithGaps`
    * `World.takesNames`
-/

------------------------------------------------------------
-- Ids That the Database Leaves Out
------------------------------------------------------------

namespace ClusterChat

/- A registration takes the next id, and nothing else
does. -/
theorem Cluster.nextId_answer
    (env : Externals)
    (id : NodeId)
    (op : ServerOp)
    (cluster : Cluster) :
    (op.registers env cluster.db = true →
      (cluster.answer env id op).2.db.users.nextId =
        cluster.db.users.nextId + 1) ∧
      (op.registers env cluster.db = false →
        (cluster.answer env id op).2.db.users.nextId =
          cluster.db.users.nextId) := by
  by_cases hKeeps : op.KeepsUsers
  · rw [(answer_frame env id op cluster).users hKeeps]
    refine ⟨?_, fun _ => rfl⟩
    cases op with
    | insertUser user => exact hKeeps.elim
    | _ => exact fun hRegisters => Bool.noConfusion hRegisters
  cases op with
  | insertUser user =>
      simp only [answer, ServerOp.registers]
      cases hInsert :
          cluster.db.users.insert env.collate user with
      | none => simp
      | some inserted =>
          unfold UserTable.insert at hInsert
          split_ifs at hInsert
          rw [← Option.some.inj hInsert]
          simp [setUsers, setDb, UserTable.append]
  | updateState userid state =>
      exact ⟨fun hRegisters => Bool.noConfusion hRegisters,
        fun _ => rfl⟩
  | resetState =>
      exact ⟨fun hRegisters => Bool.noConfusion hRegisters,
        fun _ => rfl⟩
  | _ => exact absurd trivial hKeeps

namespace World

/- The database leaves out the next id. -/
def leaveOut (world : World) : World :=
  { world with
    cluster :=
      world.cluster.setUsers
        world.cluster.db.users.leaveOut }

/- A step of the cluster, or an id that is left out. -/
inductive GapLabel where
| step (label : Label)
| leaveOut

/- A condition on the steps of the cluster. -/
def GapLabel.Meets
    (meets : World → Label → Prop)
    (world : World) : GapLabel → Prop
| .step label => meets world label
| .leaveOut => True

/- The cluster with a database that may leave out ids. -/
def stepWithGaps
    (env : Externals)
    (observer : Observer)
    (world : World) : GapLabel → Option World
| .step label => world.step env observer label
| .leaveOut => some world.leaveOut

/- The id that the database gives next. -/
def nextId (world : World) : Int :=
  world.cluster.db.users.nextId

/- The step registers a user. -/
def registers
    (env : Externals)
    (world : World) : GapLabel → Bool
| .step label =>
    (world.performs label).any fun performed =>
      performed.op.registers env performed.before.db
| .leaveOut => false

/- The step is one of the connection, and registers a
user. -/
def registersOn
    (env : Externals)
    (conn : ConnId)
    (world : World) : GapLabel → Bool
| .step label =>
    (world.shown conn label).isNone &&
      world.registers env (.step label)
| .leaveOut => false

/- The ids of the users that are registered on the
connection. -/
def registeredOn
    (env : Externals)
    (observer : Observer)
    (conn : ConnId) :
    World → List GapLabel → List Int :=
  Transition.namesTaken (stepWithGaps env observer) nextId
    (registersOn env conn)

/-
  What a step is called in the run without the connection.
  Where the connection registers a user, the id is left out.
-/
def shownWithGaps
    (env : Externals)
    (conn : ConnId)
    (world : World) : GapLabel → Option GapLabel
| .step label =>
    match world.shown conn label with
    | some left => some (.step left)
    | none =>
        if world.registers env (.step label) then
          some .leaveOut
        else
          none
| .leaveOut => some .leaveOut

variable {env : Externals} {observer : Observer}
variable {conn : ConnId} {before after : World}
variable {label : Label}

/- The database after a step. -/
theorem nextId_step
    (hStep :
      before.step env observer label = some after) :
    (before.registers env (.step label) = true →
      after.nextId = before.nextId + 1) ∧
      (before.registers env (.step label) = false →
        after.nextId = before.nextId) := by
  cases move_of_step hStep with
  | @perform index thread op next running due =>
      have hNext :=
        Cluster.nextId_answer env thread.node op
          before.cluster
      have hRegisters :
          before.registers env (.step (.run index)) =
            op.registers env before.cluster.db := by
        unfold registers
        dsimp only
        rw [performs_of_due running due]
        rfl
      rw [hRegisters]
      unfold nextId perform
      dsimp only
      refine ⟨fun hOp => ?_, fun hOp => ?_⟩
      · rw [hNext.1 hOp, Nat.cast_succ]
      · rw [hNext.2 hOp]
  | @finish index thread running done =>
      have hNone : before.performs (.run index) = none := by
        simp only [performs]
        rw [running, Option.bind_some, done]
        rfl
      simp [registers, hNone, nextId]
  | environment event =>
      have hDb :=
        Cluster.db_environment before.cluster event
      simp [registers, performs, nextId, hDb]
  | _ =>
      exact
        ⟨fun hRegisters => Bool.noConfusion hRegisters,
          fun _ => rfl⟩

/- No id is given twice. -/
theorem takesNames :
    Transition.TakesNames (stepWithGaps env observer) nextId
      (fun world label => world.registers env label = true) where
  keeps := by
    intro before label after hStep
    cases label with
    | step label =>
        have hNext := nextId_step hStep
        cases hRegisters :
            before.registers env (.step label) with
        | true =>
            have hMoves := hNext.1 hRegisters
            omega
        | false => exact (hNext.2 hRegisters).ge
    | leaveOut =>
        rw [← Option.some.inj hStep]
        exact Int.ofNat_le.mpr (Nat.le_succ _)
  moves := by
    intro before label after hRegisters hStep
    cases label with
    | step label =>
        have hNext := (nextId_step hStep).1 hRegisters
        omega
    | leaveOut => cases hRegisters

theorem registers_of_registersOn
    (world : World)
    (label : GapLabel)
    (hOwn : world.registersOn env conn label = true) :
    world.registers env label = true := by
  cases label with
  | step label =>
      unfold registersOn at hOwn
      rw [Bool.and_eq_true] at hOwn
      exact hOwn.2
  | leaveOut => cases hOwn

end World

end ClusterChat
