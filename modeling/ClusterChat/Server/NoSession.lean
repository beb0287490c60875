import ClusterChat.Library.FilteredList
import ClusterChat.Server.BadFrames
import ClusterChat.Server.Subscriptions
import ClusterChat.Server.Unseen

/-
  Connections without a session.

  Six handlers act for the user that the frame names, from
  whatever connection it comes.  Every other frame of a
  connection without a session does nothing for a user: at
  most it registers one.

  Main declarations:
    * `ChatServer.actsForUser`
    * `World.NeverActs` and `World.NoSession`
    * `World.shown` and `World.own_step`
    * `World.OnlyAnswers` and `World.onlyAnswers_run`
-/

------------------------------------------------------------
-- Frames That Act for Nobody
------------------------------------------------------------

namespace ClusterChat

open FilteredList

namespace ChatService

/- The handlers of these types act for a user whom the frame
names. -/
def actingTypes : List Int :=
  [EnMsgType.loginoutMsg.code, EnMsgType.oneChatMsg.code,
    EnMsgType.addFriendMsg.code,
    EnMsgType.createGroupMsg.code,
    EnMsgType.addGroupMsg.code, EnMsgType.groupChatMsg.code]

/- These handlers do not ask where a frame comes from. -/
theorem getHandler_of_acting
    {msgid : Int}
    (hActing : msgid ∈ actingTypes)
    (env : Externals)
    (conn other : ConnId)
    (js : JsonObject)
    (readings : Readings) :
    getHandler env msgid conn js readings =
      getHandler env msgid other js readings := by
  have hNotLogin : msgid ≠ EnMsgType.loginMsg.code := by
    intro hLogin
    rw [hLogin] at hActing
    exact absurd hActing (by decide)
  have hNotReg : msgid ≠ EnMsgType.regMsg.code := by
    intro hReg
    rw [hReg] at hActing
    exact absurd hActing (by decide)
  unfold getHandler
  rw [if_neg hNotLogin, if_neg hNotLogin, if_neg hNotReg,
    if_neg hNotReg]

/- What a handler performs as long as its connection has no
session. -/
abbrev WithoutSession
    (conn : ConnId)
    (handler : Handler Unit) : Prop :=
  handler.Within ServerOp.AnswersNoSession
    (ServerOp.Own conn)

variable (env : Externals) (conn : ConnId)

theorem withoutSession_respond (response : JsonObject) :
    WithoutSession conn (respond env conn response) :=
  ⟨rfl, fun _ _ => trivial⟩

theorem withoutSession_login (js : JsonObject) :
    WithoutSession conn (login env conn js) := by
  unfold login
  cases (js.field "name").getString with
  | error error => trivial
  | ok name =>
  cases (js.field "password").getString with
  | error error => trivial
  | ok password =>
      refine ⟨trivial, fun (user : User) _ => ?_⟩
      change WithoutSession conn
        (if accepts env user password then _ else _)
      split
      · split
        · exact withoutSession_respond env conn _
        · exact ⟨rfl, fun _ hExpected => hExpected.elim⟩
      · exact withoutSession_respond env conn _

theorem withoutSession_reg
    (js : JsonObject)
    (readings : Readings) :
    WithoutSession conn (reg env conn js readings) := by
  unfold reg
  cases (js.field "name").getString with
  | error error => trivial
  | ok name =>
  cases (js.field "password").getString with
  | error error => trivial
  | ok password =>
      exact ⟨rfl, fun _ _ => withoutSession_respond env conn _⟩

/- The handlers of the other types. -/
theorem withoutSession_getHandler
    {msgid : Int}
    (hActing : msgid ∉ actingTypes)
    (js : JsonObject)
    (readings : Readings) :
    WithoutSession conn
      (getHandler env msgid conn js readings) := by
  unfold getHandler
  split
  · exact withoutSession_login env conn js
  split
  · rename_i hType
    exact absurd (by rw [hType]; decide) hActing
  split
  · exact withoutSession_reg env conn js readings
  split
  · rename_i hType
    exact absurd (by rw [hType]; decide) hActing
  split
  · rename_i hType
    exact absurd (by rw [hType]; decide) hActing
  split
  · rename_i hType
    exact absurd (by rw [hType]; decide) hActing
  split
  · rename_i hType
    exact absurd (by rw [hType]; decide) hActing
  split
  · rename_i hType
    exact absurd (by rw [hType]; decide) hActing
  · trivial

end ChatService

namespace ChatServer

/- The frame reaches a handler that acts for the user it
names, and the handler can read it. -/
def actsForUser
    (env : Externals)
    (body : String) : Bool :=
  match (env.codec.parse body).bind callOf with
  | some (msgid, fields) =>
      decide (msgid ∈ ChatService.actingTypes) &&
        ChatService.readable msgid fields
  | none => false

theorem withoutSession_onMessage
    {env : Externals}
    {body : String}
    (hActs : actsForUser env body = false)
    (conn : ConnId)
    (readings : Readings) :
    ChatService.WithoutSession conn
      (onMessage env conn body readings) := by
  rw [onMessage_eq]
  split
  · exact ⟨rfl, fun _ _ => trivial⟩
  rename_i hRaises
  unfold actsForUser at hActs
  cases hBody : env.codec.parse body with
  | none =>
      rw [hBody] at hRaises
      exact absurd rfl hRaises
  | some js =>
  rw [hBody] at hActs hRaises
  dsimp only [Option.bind_some] at hActs ⊢
  unfold rejected at hRaises
  cases hCall : callOf js with
  | none => trivial
  | some called =>
      rcases called with ⟨msgid, fields⟩
      rw [hCall] at hActs
      simp only [hCall] at hRaises
      dsimp only at hActs ⊢
      apply ChatService.withoutSession_getHandler
      intro hActing
      have hReadable :
          ChatService.readable msgid fields = false := by
        simpa [hActing] using hActs
      exact hRaises (by rw [hReadable]; rfl)

theorem withoutSession_onConnection (conn : ConnId) :
    ChatService.WithoutSession conn (onConnection conn) := by
  refine ⟨rfl, ?_⟩
  intro found hExpected
  have hNone : found = none := hExpected
  rw [hNone]
  exact ⟨rfl, fun _ _ => trivial⟩

end ChatServer

------------------------------------------------------------
-- Steps of the Connection
------------------------------------------------------------

namespace World

/- The thread does not come from the connection. -/
def foreign
    (conn : ConnId)
    (thread : Thread) : Bool :=
  decide (thread.source ≠ .connection conn)

/-
  What a step is called in the run without the connection:
  its own steps are missing there, and the threads have other
  positions.
-/
def shown
    (conn : ConnId)
    (world : World)
    (label : Label) : Option Label :=
  match label with
  | .frame other _ _ =>
      if other = conn then none else some label
  | .disconnect other =>
      if other = conn then none else some label
  | .run index =>
      match world.threads[index]? with
      | some thread =>
          if foreign conn thread then
            some
              (.run
                (position (foreign conn) world.threads
                  index))
          else
            none
      | none => some label
  | .observe _ => some label
  | .environment _ => some label

/- The connection sends no frame that acts for a user, and no
login succeeds on it. -/
structure NeverActs
    (env : Externals)
    (conn : ConnId)
    (world : World)
    (label : Label) : Prop where
  frames :
    ∀ body readings,
      label = .frame conn body readings →
        ChatServer.actsForUser env body = false
  noLogin :
    ∀ performed,
      world.performs label = some performed →
        ∀ userid, performed.op ≠ .insertConn userid conn

/- The connection is in no map, and its handlers are those of
a connection without a session. -/
structure NoSession
    (conn : ConnId)
    (world : World) : Prop where
  unmapped : world.cluster.Unmapped conn
  threads :
    ∀ thread ∈ world.threads,
      thread.source = .connection conn →
        ChatService.WithoutSession conn thread.process

variable {env : Externals} {observer : Observer}
variable {conn : ConnId} {before after : World}
variable {label : Label}

theorem NoSession.spawn
    (hNoSession : before.NoSession conn)
    {cluster : Cluster}
    (hUnmapped : cluster.Unmapped conn)
    {thread : Thread}
    (hThread :
      thread.source = .connection conn →
        ChatService.WithoutSession conn thread.process) :
    NoSession conn
      (World.spawn { before with cluster := cluster }
        thread) where
  unmapped := hUnmapped
  threads := by
    intro other hOther
    rcases List.mem_append.mp hOther with hOld | hNew
    · exact hNoSession.threads other hOld
    · rw [List.mem_singleton.mp hNew]
      exact hThread

/- The operation of a thread of the connection. -/
theorem NoSession.own
    (hNoSession : before.NoSession conn)
    (hActs : NeverActs env conn before label)
    {thread : Thread}
    (hMember : thread ∈ before.threads)
    (hSource : thread.source = .connection conn)
    {op : ServerOp}
    {next : op.Res → Handler Unit}
    (hDue : thread.process = .act op next)
    (hPerforms :
      before.performs label =
        some ⟨thread.node, op, before.cluster⟩) :
    op.Own conn ∧
      (∀ userid, op ≠ .insertConn userid conn) ∧
        ChatService.WithoutSession conn
          (next
            (before.cluster.answer env thread.node
              op).1) := by
  have hThread := hNoSession.threads thread hMember hSource
  rw [hDue] at hThread
  have hNoLogin := hActs.noLogin _ hPerforms
  have hEffect :=
    Cluster.ownEffect_answer env thread.node hThread.1
      hNoLogin hNoSession.unmapped
  exact ⟨hThread.1, hNoLogin, hThread.2 _ hEffect.2⟩

/- The connection goes on without a session. -/
theorem noSession_step
    (hNoSession : before.NoSession conn)
    (hActs : NeverActs env conn before label)
    (hStep :
      before.step env observer label = some after) :
    after.NoSession conn := by
  cases move_of_step hStep with
  | frame other body readings =>
      refine hNoSession.spawn hNoSession.unmapped ?_
      intro hSource
      have hSame : other = conn := Source.connection.inj hSource
      rw [hSame]
      exact
        ChatServer.withoutSession_onMessage
          (hActs.frames body readings (by rw [hSame])) conn
          readings
  | disconnect other =>
      have hUnmapped :
          (before.cluster.disconnect other).Unmapped conn :=
        hNoSession.unmapped
      refine hNoSession.spawn hUnmapped ?_
      intro hSource
      have hSame : other = conn := Source.connection.inj hSource
      rw [hSame]
      exact ChatServer.withoutSession_onConnection conn
  | @notify id reply rest userid msg found read =>
      have hUnmapped :
          Cluster.Unmapped conn
            { before.cluster with replies := rest } :=
        hNoSession.unmapped
      refine hNoSession.spawn hUnmapped ?_
      intro hSource
      cases hSource
  | skip id found read =>
      exact ⟨hNoSession.unmapped, hNoSession.threads⟩
  | @perform index thread op next running due =>
      have hPerforms := performs_of_due running due
      refine
        { unmapped :=
            hNoSession.unmapped.answer
              (hActs.noLogin _ hPerforms)
          threads := ?_ }
      intro other hOther hSource
      rcases mem_threads_perform hOther with hOld | hNew
      · exact hNoSession.threads other hOld hSource
      · rw [hNew] at hSource ⊢
        exact
          (hNoSession.own hActs
            (List.mem_of_getElem? running) hSource due
            hPerforms).2.2
  | finish index running done =>
      exact
        ⟨hNoSession.unmapped, fun thread hThread =>
          hNoSession.threads thread
            (List.mem_of_mem_eraseIdx hThread)⟩
  | environment event =>
      refine ⟨?_, hNoSession.threads⟩
      intro id userid
      rw [connOf_environment]
      exact hNoSession.unmapped id userid

/- What a step of the connection is. -/
theorem own_step
    (hNoSession : before.NoSession conn)
    (hActs : NeverActs env conn before label)
    (hStep :
      before.step env observer label = some after)
    (hOwn : before.shown conn label = none) :
    after.threads.filter (foreign conn) =
        before.threads.filter (foreign conn) ∧
      (Cluster.OwnLink conn before.cluster after.cluster ∨
        ∃ node op,
          before.performs label =
              some ⟨node, op, before.cluster⟩ ∧
            op.Own conn ∧
              (∀ userid, op ≠ .insertConn userid conn) ∧
                after.cluster =
                  (before.cluster.answer env node op).2) := by
  cases move_of_step hStep with
  | frame other body readings =>
      have hSame : other = conn := by
        simpa [shown] using hOwn
      refine ⟨?_, Or.inl Cluster.ownLink_refl⟩
      simp [spawn, foreign, frameThread, hSame]
  | disconnect other =>
      have hSame : other = conn := by
        simpa [shown] using hOwn
      refine ⟨?_, Or.inl ?_⟩
      · simp [spawn, foreign, closeThread, hSame]
      · rw [hSame]
        exact Cluster.ownLink_disconnect
  | notify id found read => simp [shown] at hOwn
  | skip id found read => simp [shown] at hOwn
  | @perform index thread op next running due =>
      have hForeign : foreign conn thread = false := by
        simpa [shown, running] using hOwn
      have hSource : thread.source = .connection conn := by
        simpa [foreign] using hForeign
      have hPerforms := performs_of_due running due
      have hThread :=
        hNoSession.own hActs (List.mem_of_getElem? running)
          hSource due hPerforms
      refine
        ⟨filter_set_of_not running hForeign hForeign,
          Or.inr
            ⟨_, op, hPerforms, hThread.1, hThread.2.1, rfl⟩⟩
  | @finish index thread running done =>
      have hForeign : foreign conn thread = false := by
        simpa [shown, running] using hOwn
      exact
        ⟨filter_eraseIdx_of_not running hForeign,
          Or.inl Cluster.ownLink_refl⟩
  | environment event => simp [shown] at hOwn

/- Redis and the network do the same in both clusters. -/
theorem environment_overlay
    (event : EnvironmentEvent)
    (cluster : Cluster)
    (users : UserTable)
    (conns : ConnId → ConnState)
    (wire : ConnId → List String) :
    (cluster.overlay users conns wire).environment event =
      (cluster.environment event).overlay users conns
        wire := by
  cases event with
  | serveSubscription id =>
      have hNodes :
          (cluster.overlay users conns wire).nodes id =
            cluster.nodes id := rfl
      simp only [Cluster.environment,
        Cluster.serveSubscription]
      rw [hNodes]
      cases (cluster.nodes id).commands with
      | nil => rfl
      | cons command commands =>
          dsimp only
          unfold Cluster.executeCommand
          split
          · split_ifs <;> rfl
          · rfl
  | setIncrOutcome id outcome => rfl
  | setPublishLink id up => rfl
  | setSubscribeLink id up => rfl
  | rehash id userConnMap =>
      have hNodes :
          (cluster.overlay users conns wire).nodes id =
            cluster.nodes id := rfl
      simp only [Cluster.environment]
      rw [hNodes]
      split_ifs <;> rfl

------------------------------------------------------------
-- What the Connection Can Change
------------------------------------------------------------

/-
  The connection got answers or was shut down, and users were
  registered.  All else is as it was: the maps, the existing
  users and their states, the other tables, the counters, the
  subscriptions, the published messages on their way, and what
  was written to other connections.
-/
structure OnlyAnswers
    (conn : ConnId)
    (before after : Cluster) : Prop where
  same :
    after =
      before.overlay after.db.users after.conns after.wire
  conns :
    ∀ other,
      other ≠ conn → after.conns other = before.conns other
  wire :
    ∀ other,
      other ≠ conn → after.wire other = before.wire other
  rows : before.db.users.rows <+: after.db.users.rows

theorem onlyAnswers_refl (cluster : Cluster) :
    OnlyAnswers conn cluster cluster where
  same := rfl
  conns := fun _ _ => rfl
  wire := fun _ _ => rfl
  rows := List.prefix_refl _

theorem OnlyAnswers.trans
    {first second third : Cluster}
    (hFirst : OnlyAnswers conn first second)
    (hSecond : OnlyAnswers conn second third) :
    OnlyAnswers conn first third where
  same := by
    conv_lhs => rw [hSecond.same, hFirst.same]
    rfl
  conns := by
    intro other hOther
    rw [hSecond.conns other hOther,
      hFirst.conns other hOther]
  wire := by
    intro other hOther
    rw [hSecond.wire other hOther, hFirst.wire other hOther]
  rows := hFirst.rows.trans hSecond.rows

theorem onlyAnswers_of_ownLink
    {first second : Cluster}
    (hLink : Cluster.OwnLink conn first second) :
    OnlyAnswers conn first second where
  same := by
    conv_lhs => rw [hLink.same]
    rw [hLink.same]
    rfl
  conns := hLink.conns
  wire := hLink.wire
  rows := by
    rw [hLink.same]
    exact List.prefix_refl _

theorem onlyAnswers_of_ownEffect
    {first second : Cluster}
    (hEffect : Cluster.OwnEffect conn first second) :
    OnlyAnswers conn first second := by
  cases hEffect with
  | link changed => exact onlyAnswers_of_ownLink changed
  | registers user =>
      exact
        { same := rfl
          conns := fun _ _ => rfl
          wire := fun _ _ => rfl
          rows := List.prefix_append _ _ }

theorem onlyAnswers_step
    (hNoSession : before.NoSession conn)
    (hActs : NeverActs env conn before label)
    (hStep :
      before.step env observer label = some after)
    (hOwn : before.shown conn label = none) :
    OnlyAnswers conn before.cluster after.cluster := by
  rcases (own_step hNoSession hActs hStep hOwn).2 with
    hLink | ⟨node, op, _, hOp, hNoLogin, hAfter⟩
  · exact onlyAnswers_of_ownLink hLink
  · rw [hAfter]
    exact
      onlyAnswers_of_ownEffect
        (Cluster.ownEffect_answer env node hOp hNoLogin
          hNoSession.unmapped).1

/- Any number of steps of the connection. -/
theorem onlyAnswers_run
    {labels : List Label}
    (hNoSession : before.NoSession conn)
    (hRun :
      Transition.Run (step env observer)
        (fun world label =>
          NeverActs env conn world label ∧
            world.shown conn label = none)
        before labels after) :
    OnlyAnswers conn before.cluster after.cluster := by
  have hBoth :=
    hRun.invariant
      (fun world =>
        world.NoSession conn ∧
          OnlyAnswers conn before.cluster world.cluster)
      (by
        intro world label next hWorld hMeets hStep
        exact
          ⟨noSession_step hWorld.1 hMeets.1 hStep,
            hWorld.2.trans
              (onlyAnswers_step hWorld.1 hMeets.1 hStep
                hMeets.2)⟩)
      ⟨hNoSession, onlyAnswers_refl _⟩
  exact hBoth.2

end World

end ClusterChat
