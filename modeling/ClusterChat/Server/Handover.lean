import ClusterChat.Server.HandlerOps
import ClusterChat.Server.World

/-
  What becomes of the messages stored for a user while the
  user logs in.

  A login reads the stored messages and then deletes all of
  them, with two statements.  A message that another handler
  stores between the two is deleted unread; every other one
  is handed over before it is deleted.

  Main declarations:
    * `DeletesWhatItRead`
    * `World.Inserted` and `World.HandedOver`
    * `World.InsertsApart`
    * `World.login_hands_over`
-/

------------------------------------------------------------
-- The Order of the Two Statements
------------------------------------------------------------

namespace ClusterChat

/- A deletion comes right after the query for its user. -/
def DeletesWhatItRead
    (previous : Option ServerOp) : ServerOp → Prop
| .removeOffline userid =>
    previous = some (.queryOffline userid)
| _ => True

namespace ChatService

variable (env : Externals)

theorem follows_of_keepsStored
    {handler : Handler Unit}
    (hHandler : KeepsStored handler)
    (previous : Option ServerOp) :
    handler.Follows DeletesWhatItRead previous := by
  apply Process.follows_of_always
  apply hHandler.mono
  intro op hOp before
  cases op with
  | removeOffline userid => exact hOp.elim
  | _ => trivial

/- One operation, then the rest. -/
theorem follows_ask
    {α : Type}
    {op : ServerOp}
    {rest : op.Res → Handler α}
    {previous : Option ServerOp}
    (hOp : DeletesWhatItRead previous op)
    (hRest :
      ∀ answer,
        (rest answer).Follows DeletesWhatItRead (some op)) :
    (ask op >>= rest).Follows DeletesWhatItRead previous :=
  ⟨hOp, hRest⟩

theorem follows_takeOffline
    (id : Int)
    (response : JsonObject)
    (previous : Option ServerOp) :
    (takeOffline env id response).Follows DeletesWhatItRead
      previous := by
  unfold takeOffline
  apply follows_ask
  · trivial
  intro vec
  split
  · trivial
  · exact ⟨rfl, fun _ => trivial⟩

theorem follows_answerLogin
    (conn : ConnId)
    (user : User)
    (previous : Option ServerOp) :
    (answerLogin env conn user).Follows DeletesWhatItRead
      previous := by
  unfold answerLogin
  apply Process.follows_bind
  · exact follows_takeOffline env _ _ previous
  intro before stored
  apply Process.follows_of_always
  apply Process.always_bind
  · exact always_addFriends env (fun _ => trivial) stored
  intro friends
  apply Process.always_bind
  · exact
      always_addGroups env (fun _ => trivial)
        (fun _ _ => trivial) friends
  intro response
  exact ⟨fun _ => trivial, fun _ => trivial⟩

/- Reading a value from a frame performs nothing. -/
theorem follows_orThrow
    {α : Type}
    (value : Except JsonException α)
    {rest : α → Handler Unit}
    {previous : Option ServerOp}
    (hRest :
      ∀ before value,
        (rest value).Follows DeletesWhatItRead before) :
    (orThrow value >>= rest).Follows DeletesWhatItRead
      previous := by
  apply Process.follows_bind _ hRest
  exact
    Process.follows_of_always
      (Process.always_ofExcept value) previous

theorem follows_login
    (conn : ConnId)
    (js : JsonObject)
    (previous : Option ServerOp) :
    (login env conn js).Follows DeletesWhatItRead
      previous := by
  apply follows_orThrow
  intro _ name
  apply follows_orThrow
  intro _ password
  apply follows_ask
  · trivial
  intro user
  split
  · split
    · exact ⟨trivial, fun _ => trivial⟩
    · apply follows_ask
      · trivial
      intro _
      apply follows_ask
      · trivial
      intro _
      apply follows_ask
      · trivial
      intro _
      exact follows_answerLogin env conn user _
  · exact ⟨trivial, fun _ => trivial⟩

theorem follows_notify
    (userid : Int)
    (msg : String) :
    (handleredissubscribemessage userid msg).Follows
      DeletesWhatItRead none :=
  follows_of_keepsStored
    (sessionless_handleredissubscribemessage userid
      msg).keepsStored none

end ChatService

namespace ChatServer

variable (env : Externals)

theorem follows_onMessage
    (conn : ConnId)
    (body : String)
    (readings : Readings) :
    (onMessage env conn body readings).Follows
      DeletesWhatItRead none := by
  rcases onMessage_cases env conn body readings with
    ⟨handler, hFrame, hSame⟩
  rw [hSame]
  apply Process.follows_tryCatch
  · rcases ChatService.session_cases hFrame with
      ⟨js, hLogin⟩ | ⟨js, hLoginout⟩ | hSessionless
    · rw [hLogin]
      exact ChatService.follows_login env conn js none
    · rw [hLoginout]
      exact
        ChatService.follows_of_keepsStored
          (ChatService.keepsStored_loginout js) none
    · exact
        ChatService.follows_of_keepsStored
          hSessionless.keepsStored none
  · intro before error
    exact ⟨trivial, fun _ => trivial⟩

theorem follows_onConnection (conn : ConnId) :
    (onConnection conn).Follows DeletesWhatItRead none := by
  apply ChatService.follows_of_keepsStored
  exact ChatService.keepsStored_onConnection conn

end ChatServer

------------------------------------------------------------
-- What Was Inserted and What Was Read
------------------------------------------------------------

namespace World

/- The message was stored for the user during the run. -/
def Inserted
    (userid : Int)
    (msg : String)
    (world : World) : Prop :=
  ∃ entry ∈ world.log,
    entry.op = .insertOffline userid msg

/- A login of the user has read the message. -/
def HandedOver
    (env : Externals)
    (userid : Int)
    (msg : String)
    (world : World) : Prop :=
  ∃ entry ∈ world.log,
    entry.op = .queryOffline userid ∧
      msg ∈
        OfflineMessageModel.query env.collate entry.before.db
          userid

/- The message is in the table. -/
abbrev Stores
    (userid : Int)
    (msg : String)
    (world : World) : Prop :=
  OfflineMessageModel.Stored world.cluster.db userid msg

/- The operation stores a message for the user. -/
def insertsFor
    (userid : Int) : ServerOp → Bool
| .insertOffline other _ => decide (other = userid)
| _ => false

/- Nothing is stored for the user while a login is about to
delete what it has read. -/
def InsertsApart
    (userid : Int)
    (world : World)
    (label : Label) : Prop :=
  ∀ entry ∈ world.performs label,
    insertsFor userid entry.op = true →
      ∀ thread ∈ world.threads,
        nextOp thread.process ≠
          some (.removeOffline userid)

instance
    (userid : Int)
    (world : World)
    (label : Label) :
    Decidable (InsertsApart userid world label) :=
  inferInstanceAs (Decidable (∀ entry ∈ _, _))

------------------------------------------------------------
-- The Invariant
------------------------------------------------------------

/-
  The invariant of a run: a login that is about to delete has
  read everything there is, so nothing is lost.
-/
structure LosesNothing
    (env : Externals)
    (first : Database)
    (userid : Int)
    (world : World) : Prop where
  ordered :
    ∀ thread ∈ world.threads,
      ∃ previous,
        thread.process.Follows DeletesWhatItRead previous
  ready :
    ∀ thread ∈ world.threads,
      nextOp thread.process = some (.removeOffline userid) →
        ∀ msg,
          Stores userid msg world →
            HandedOver env userid msg world
  kept :
    ∀ msg,
      OfflineMessageModel.Stored first userid msg ∨
          Inserted userid msg world →
        Stores userid msg world ∨
          HandedOver env userid msg world

/- A handler that starts does not delete at once. -/
theorem nextOp_of_follows
    {handler : Handler Unit}
    {previous : Option ServerOp}
    (hFollows :
      handler.Follows DeletesWhatItRead previous)
    {userid : Int}
    (hNext : nextOp handler = some (.removeOffline userid)) :
    previous = some (.queryOffline userid) := by
  cases handler with
  | ret value => simp [nextOp] at hNext
  | throw error => simp [nextOp] at hNext
  | act op next =>
      have hOp : op = .removeOffline userid := by
        simpa [nextOp] using hNext
      subst hOp
      exact hFollows.1

variable {env : Externals} {first : Database} {userid : Int}
variable {before after : World}

/- Steps that leave the table and the past alone. -/
theorem LosesNothing.quiet
    (hBefore : before.LosesNothing env first userid)
    (hDb : after.cluster.db = before.cluster.db)
    (hLog : after.log = before.log)
    (hThreads :
      ∀ thread ∈ after.threads,
        thread ∈ before.threads ∨
          thread.process.Follows DeletesWhatItRead none) :
    after.LosesNothing env first userid where
  ordered := by
    intro thread hThread
    rcases hThreads thread hThread with hOld | hNew
    · exact hBefore.ordered thread hOld
    · exact ⟨none, hNew⟩
  ready := by
    intro thread hThread hNext msg hStored
    unfold Stores HandedOver at *
    rw [hDb] at hStored
    rw [hLog]
    rcases hThreads thread hThread with hOld | hNew
    · exact hBefore.ready thread hOld hNext msg hStored
    · have := nextOp_of_follows hNew hNext
      simp at this
  kept := by
    intro msg hKnown
    unfold Stores HandedOver Inserted at *
    rw [hLog] at hKnown ⊢
    rw [hDb]
    exact hBefore.kept msg hKnown

/- A handler starts. -/
theorem LosesNothing.spawns
    {thread : Thread}
    (hBefore : before.LosesNothing env first userid)
    (hDb : after.cluster.db = before.cluster.db)
    (hLog : after.log = before.log)
    (hThreads : after.threads = before.threads ++ [thread])
    (hStarts :
      thread.process.Follows DeletesWhatItRead none) :
    after.LosesNothing env first userid := by
  apply hBefore.quiet hDb hLog
  intro other hMember
  rw [hThreads] at hMember
  rcases List.mem_append.mp hMember with hOld | hNew
  · exact Or.inl hOld
  · rw [List.mem_singleton.mp hNew]
    exact Or.inr hStarts

------------------------------------------------------------
-- One Operation
------------------------------------------------------------

section Performing

variable {index : Nat} {thread : Thread} {op : ServerOp}
variable {next : op.Res → Handler Unit}

/- What was read stays read. -/
theorem handedOver_perform
    {msg : String}
    (hRead : before.HandedOver env userid msg) :
    (before.perform env index thread op next).HandedOver env
      userid msg := by
  rcases hRead with ⟨entry, hEntry, hRest⟩
  exact ⟨entry, List.mem_append_left _ hEntry, hRest⟩

/- A query hands over everything that is stored. -/
theorem handedOver_query
    {msg : String}
    (hOp : op = .queryOffline userid)
    (hStored : before.Stores userid msg) :
    (before.perform env index thread op next).HandedOver env
      userid msg := by
  refine
    ⟨_, List.mem_append_right _ (List.mem_singleton_self _),
      hOp, ?_⟩
  exact OfflineMessageModel.mem_query_iff.mpr hStored

theorem inserted_perform_iff (msg : String) :
    (before.perform env index thread op next).Inserted userid
        msg ↔
      before.Inserted userid msg ∨
        op = .insertOffline userid msg := by
  unfold Inserted perform
  simp only [List.mem_append, List.mem_singleton, or_and_right,
    exists_or, exists_eq_left]

/- A login that is about to delete has still read all. -/
theorem ready_perform
    (hBefore : before.LosesNothing env first userid)
    (hRunning : before.threads[index]? = some thread)
    (hDue : thread.process = .act op next)
    (hApart :
      ∀ msg,
        op = .insertOffline userid msg →
          ∀ other ∈ before.threads,
            nextOp other.process ≠
              some (.removeOffline userid))
    {other : Thread}
    (hMember :
      other ∈
        (before.perform env index thread op next).threads)
    (hNext :
      nextOp other.process = some (.removeOffline userid))
    {msg : String}
    (hStored :
      (before.perform env index thread op next).Stores userid
        msg) :
    (before.perform env index thread op next).HandedOver env
      userid msg := by
  have hThread := List.mem_of_getElem? hRunning
  rcases mem_threads_perform hMember with hOld | hNew
  · -- another login: nothing was inserted behind its back
    rcases (Cluster.stored_answer_iff env _ _ _ _ _).mp hStored with
      hBoth | hInserted
    · exact
        handedOver_perform
          (hBefore.ready other hOld hNext msg hBoth.1)
    · exact absurd hNext (hApart msg hInserted other hOld)
  · -- the thread itself: its query has just been answered
    rcases hBefore.ordered thread hThread with
      ⟨previous, hFollows⟩
    rw [hDue] at hFollows
    rw [hNew] at hNext
    have hQuery :=
      Option.some.inj
        (nextOp_of_follows (hFollows.2 _) hNext)
    rcases (Cluster.stored_answer_iff env _ _ _ _ _).mp hStored with
      hBoth | hInserted
    · exact handedOver_query hQuery hBoth.1
    · rw [hQuery] at hInserted
      simp at hInserted

/- An operation keeps the invariant. -/
theorem LosesNothing.perform
    (hBefore : before.LosesNothing env first userid)
    (hRunning : before.threads[index]? = some thread)
    (hDue : thread.process = .act op next)
    (hApart :
      ∀ msg,
        op = .insertOffline userid msg →
          ∀ other ∈ before.threads,
            nextOp other.process ≠
              some (.removeOffline userid)) :
    (before.perform env index thread op next).LosesNothing
      env first userid := by
  have hThread := List.mem_of_getElem? hRunning
  constructor
  · intro other hMember
    rcases mem_threads_perform hMember with hOld | hNew
    · exact hBefore.ordered other hOld
    · rcases hBefore.ordered thread hThread with
        ⟨previous, hFollows⟩
      rw [hDue] at hFollows
      rw [hNew]
      exact ⟨some op, hFollows.2 _⟩
  · intro other hMember hNext msg hStored
    exact
      ready_perform hBefore hRunning hDue hApart hMember
        hNext hStored
  · intro msg hKnown
    have hAfter := Cluster.stored_answer_iff env thread.node op
      before.cluster userid msg
    have hSplit :
        (OfflineMessageModel.Stored first userid msg ∨
            before.Inserted userid msg) ∨
          op = .insertOffline userid msg := by
      rcases hKnown with hFirst | hInserted
      · exact Or.inl (Or.inl hFirst)
      · rcases (inserted_perform_iff msg).mp hInserted with
          hOld | hNew
        · exact Or.inl (Or.inr hOld)
        · exact Or.inr hNew
    rcases hSplit with hOld | hNew
    · rcases hBefore.kept msg hOld with hStored | hRead
      · by_cases hRemove : op = .removeOffline userid
        · have hNextOp :
              nextOp thread.process =
                some (.removeOffline userid) := by
            rw [hDue, ← hRemove]
            rfl
          exact
            Or.inr
              (handedOver_perform
                (hBefore.ready thread hThread hNextOp msg
                  hStored))
        · exact Or.inl (hAfter.mpr (Or.inl ⟨hStored, hRemove⟩))
      · exact Or.inr (handedOver_perform hRead)
    · exact Or.inl (hAfter.mpr (Or.inr hNew))

end Performing

------------------------------------------------------------
-- Runs
------------------------------------------------------------

/- Every step keeps the invariant. -/
theorem losesNothing_step
    {observer : Observer}
    {label : Label}
    (hBefore : before.LosesNothing env first userid)
    (hApart : InsertsApart userid before label)
    (hStep : before.step env observer label = some after) :
    after.LosesNothing env first userid := by
  cases move_of_step hStep with
  | frame conn body readings =>
      exact
        hBefore.spawns rfl rfl rfl
          (ChatServer.follows_onMessage env conn body
            readings)
  | disconnect conn =>
      exact
        hBefore.spawns rfl rfl rfl
          (ChatServer.follows_onConnection conn)
  | @notify id _ _ user msg hFound hRead =>
      exact
        hBefore.spawns rfl rfl rfl
          (ChatService.follows_notify user msg)
  | skip id hFound hRead =>
      exact hBefore.quiet rfl rfl fun _ => Or.inl
  | perform index hRunning hDue =>
      apply hBefore.perform hRunning hDue
      intro msg hInsert
      apply hApart _ (performs_of_due hRunning hDue)
      simp [hInsert, insertsFor]
  | finish index hRunning hDone =>
      exact
        hBefore.quiet rfl rfl fun _ hThread =>
          Or.inl (List.mem_of_mem_eraseIdx hThread)
  | environment event =>
      exact
        hBefore.quiet (Cluster.db_environment _ event) rfl
          fun _ => Or.inl

/-
  Whatever handlers run in whatever order on whatever nodes:
  a message that was stored for the user, at the start or
  during the run, is still stored or was read by a login,
  provided that nothing is stored for the user between the
  query and the deletion of a login.
-/
theorem login_hands_over
    {observer : Observer}
    {start final : World}
    {labels : List Label}
    (hThreads : start.threads = [])
    (hLog : start.log = [])
    (hRun :
      Transition.Run (step env observer)
        (InsertsApart userid) start labels final)
    {msg : String}
    (hKnown :
      start.Stores userid msg ∨ final.Inserted userid msg) :
    final.Stores userid msg ∨
      final.HandedOver env userid msg := by
  have hStart :
      start.LosesNothing env start.cluster.db userid := by
    constructor
    · rw [hThreads]
      simp
    · rw [hThreads]
      simp
    · intro msg hFirst
      rcases hFirst with hStored | ⟨entry, hEntry, _⟩
      · exact Or.inl hStored
      · rw [hLog] at hEntry
        simp at hEntry
  have hFinal :=
    hRun.invariant
      (LosesNothing env start.cluster.db userid)
      (fun _ _ _ hBefore hApart hStep =>
        losesNothing_step hBefore hApart hStep)
      hStart
  exact hFinal.kept msg hKnown

------------------------------------------------------------
-- A Message Between the Two Statements
------------------------------------------------------------

/- A login of user 1 and a message from user 2. -/
def handoverExternals : Externals :=
  sampleExternals
    [.object (sampleLogin "ann"), .object (sampleChat 2 1)]

/- User 1 has one stored message. -/
def handoverStart : World where
  cluster :=
    sampleCluster
      [{ id := 1, userid := 1, convid := "p1_2", seq := 1,
         message := "old" }]
  threads := []
  log := []

/- The login frame and the chat frame. -/
def loginLabel : Label :=
  .frame 5 (Json.object (sampleLogin "ann")).text
    sampleReadings

def chatLabel : Label :=
  .frame 6 (Json.object (sampleChat 2 1)).text sampleReadings

/- The payload of the chat message. -/
def handoverPayload : String :=
  (Json.object
    (ChatService.stamp "p1_2" 1 sampleReadings.time
      (sampleChat 2 1))).text

/-
  The sender takes its number and finds user 1 offline; then
  user 1 logs in up to the query.  What remains are the
  insertion of the sender and the deletion of the login.
-/
def upToQuery : List Label :=
  [chatLabel, .run 0, .run 0, .run 0, loginLabel, .run 1,
    .run 1, .run 1, .run 1, .run 1]

/- The message was stored, but it is neither in the table nor
was it read. -/
def Lost (world : World) : Prop :=
  world.Inserted 1 handoverPayload ∧
    ¬ world.Stores 1 handoverPayload ∧
      ¬ world.HandedOver handoverExternals 1 handoverPayload

instance : DecidablePred Lost := fun world => by
  unfold Lost Inserted Stores HandedOver
    OfflineMessageModel.Stored
  infer_instance

/- The message is stored for the next login. -/
def Waiting (world : World) : Prop :=
  world.Inserted 1 handoverPayload

instance : DecidablePred Waiting := fun world =>
  inferInstanceAs
    (Decidable
      (∃ entry ∈ world.log,
        entry.op = .insertOffline 1 handoverPayload))

theorem insertion_after_deletion :
    ∃ final,
      Transition.Run (step handoverExternals Redis.observe)
          (InsertsApart 1) handoverStart
          (upToQuery ++ [.run 1, .run 0]) final ∧
        (final.Stores 1 handoverPayload ∨
          final.HandedOver handoverExternals 1
            handoverPayload) := by
  have hRun :=
    Transition.exists_run_of_execute
      (step handoverExternals Redis.observe)
      (InsertsApart 1) Waiting
      (show
        ∃ final ∈
          Transition.execute
            (step handoverExternals Redis.observe)
            (InsertsApart 1) handoverStart
            (upToQuery ++ [.run 1, .run 0]),
          Waiting final by decide +kernel)
  rcases hRun with ⟨final, hRun, hInserted⟩
  exact
    ⟨final, hRun,
      login_hands_over rfl rfl hRun (Or.inr hInserted)⟩

/- Stored between the query and the deletion, the message is
deleted unread. -/
theorem insertion_before_deletion_is_lost :
    ∃ final,
      Transition.Run (step handoverExternals Redis.observe)
          (fun _ _ => True) handoverStart
          (upToQuery ++ [.run 0, .run 1]) final ∧
        final.Inserted 1 handoverPayload ∧
          ¬ final.Stores 1 handoverPayload ∧
            ¬ final.HandedOver handoverExternals 1
              handoverPayload :=
  Transition.exists_run_of_execute
    (step handoverExternals Redis.observe)
    (fun _ _ => True) Lost
    (show
      ∃ final ∈
        Transition.execute
          (step handoverExternals Redis.observe)
          (fun _ _ => True) handoverStart
          (upToQuery ++ [.run 0, .run 1]),
        Lost final by decide +kernel)

end World

end ClusterChat
