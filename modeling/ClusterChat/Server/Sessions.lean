import ClusterChat.Library.Transition
import ClusterChat.Server.Cluster
import ClusterChat.Server.HandlerOps

/-
  Online states and `_userConnMap` over the logins, logouts,
  and closings on one node.

  The user table is keyed by user, closings are keyed by
  connection: `clientCloseException` stops at the first user
  it finds.  So the two stores agree as long as no connection
  closes while several users are logged in on it.

  Main declarations:
    * `SessionEvent` and `SessionEvent.step`
    * `Cluster.OnlineMeansReachable`
    * `Cluster.online_means_reachable`
-/

------------------------------------------------------------
-- Events
------------------------------------------------------------

namespace ClusterChat

/-
  What happens on a node: login and logout frames, closings,
  and a new iteration order of `_userConnMap`.
-/
inductive SessionEvent where
| login (conn : ConnId) (js : JsonObject)
| loginout (conn : ConnId) (js : JsonObject)
| close (conn : ConnId)
| rehash (userConnMap : UserConnMap)

namespace SessionEvent

/-
  One event, executed completely.  Frames and closings come
  from connections that are not down yet.
-/
def step
    (env : Externals)
    (id : NodeId)
    (cluster : Cluster) : SessionEvent → Option Cluster
| .login conn js =>
    if cluster.conns conn = .disconnected then
      none
    else
      some (cluster.execute env id
        (ChatServer.guarded conn
          (ChatService.login env conn js)))
| .loginout conn js =>
    if cluster.conns conn = .disconnected then
      none
    else
      some (cluster.execute env id
        (ChatServer.guarded conn (ChatService.loginout js)))
| .close conn =>
    if cluster.conns conn = .disconnected then
      none
    else
      some ((cluster.disconnect conn).execute env id
        (ChatServer.onConnection conn))
| .rehash userConnMap =>
    if userConnMap.entries.Perm
        (cluster.nodes id).userConnMap.entries then
      some (cluster.setMap id userConnMap)
    else
      none

/- No connection closes with several users mapped to it. -/
def ClosesOneUser
    (id : NodeId)
    (cluster : Cluster) : SessionEvent → Prop
| .close conn =>
    ((cluster.nodes id).userConnMap.entries.filter
      fun entry => entry.2 = conn).length ≤ 1
| _ => True

instance
    (id : NodeId)
    (cluster : Cluster)
    (event : SessionEvent) :
    Decidable (event.ClosesOneUser id cluster) :=
  match event with
  | .login _ _ => inferInstanceAs (Decidable True)
  | .loginout _ _ => inferInstanceAs (Decidable True)
  | .close _ => inferInstanceAs (Decidable (_ ≤ 1))
  | .rehash _ => inferInstanceAs (Decidable True)

end SessionEvent

------------------------------------------------------------
-- The Invariant
------------------------------------------------------------

namespace Cluster

/- A user is online exactly if the node can reach the user on
a connection that is not down. -/
def OnlineMeansReachable
    (id : NodeId)
    (cluster : Cluster) : Prop :=
  ∀ userid,
    (cluster.db.users.query userid).state = .online ↔
      ∃ conn,
        cluster.connOf id userid = some conn ∧
          cluster.conns conn ≠ .disconnected

/- The two stores agree, and no mapped connection is down. -/
structure Consistent
    (id : NodeId)
    (cluster : Cluster) : Prop where
  online :
    ∀ userid,
      (cluster.db.users.query userid).state = .online ↔
        ∃ conn, cluster.connOf id userid = some conn
  notDown :
    ∀ userid conn,
      cluster.connOf id userid = some conn →
        cluster.conns conn ≠ .disconnected

/- A user is online on a connection that is down. -/
def StaysOnline
    (id : NodeId)
    (userid : Int)
    (conn : ConnId)
    (cluster : Cluster) : Prop :=
  (cluster.db.users.query userid).state = .online ∧
    cluster.connOf id userid = some conn ∧
      cluster.conns conn = .disconnected

instance
    (id : NodeId)
    (userid : Int)
    (conn : ConnId) :
    DecidablePred (StaysOnline id userid conn) :=
  fun cluster =>
    inferInstanceAs
      (Decidable
        ((cluster.db.users.query userid).state = .online ∧
          cluster.connOf id userid = some conn ∧
            cluster.conns conn = .disconnected))

theorem StaysOnline.unreachable
    {id : NodeId}
    {userid : Int}
    {conn : ConnId}
    {cluster : Cluster}
    (hStays : cluster.StaysOnline id userid conn) :
    ¬ cluster.OnlineMeansReachable id := by
  intro hReachable
  rcases hStays with ⟨hOnline, hConn, hDown⟩
  rcases (hReachable userid).mp hOnline with
    ⟨found, hFound, hOpen⟩
  have hSame : found = conn :=
    Option.some.inj (hFound.symm.trans hConn)
  exact hOpen (hSame ▸ hDown)

namespace Consistent

variable {id : NodeId} {before after : Cluster}

theorem reachable
    (hConsistent : before.Consistent id) :
    before.OnlineMeansReachable id := by
  intro userid
  rw [hConsistent.online userid]
  constructor
  · intro hMapped
    rcases hMapped with ⟨conn, hConn⟩
    exact ⟨conn, hConn, hConsistent.notDown userid conn hConn⟩
  · intro hReachable
    rcases hReachable with ⟨conn, hConn, _⟩
    exact ⟨conn, hConn⟩

/- Only users of the table are mapped. -/
theorem has
    (hConsistent : before.Consistent id)
    {userid : Int}
    {conn : ConnId}
    (hMapped : before.connOf id userid = some conn) :
    before.db.users.Has userid := by
  have hOnline :=
    (hConsistent.online userid).mpr ⟨conn, hMapped⟩
  by_contra hMissing
  rw [UserTable.query_of_missing hMissing] at hOnline
  simp at hOnline

/- Nothing that matters for the invariant changed. -/
theorem unchanged
    (hConsistent : before.Consistent id)
    (hMaps :
      ∀ userid,
        after.connOf id userid = before.connOf id userid)
    (hUsers : after.db.users = before.db.users)
    (hDown :
      ∀ conn,
        after.conns conn = .disconnected ↔
          before.conns conn = .disconnected) :
    after.Consistent id where
  online := by
    intro userid
    rw [hUsers, hMaps]
    exact hConsistent.online userid
  notDown := by
    intro userid conn hConn hDisconnected
    rw [hMaps] at hConn
    exact
      hConsistent.notDown userid conn hConn
        ((hDown conn).mp hDisconnected)

/- One user's entry and state changed together. -/
theorem replaced
    (hConsistent : before.Consistent id)
    {userid : Int}
    {entry : Option ConnId}
    (hMaps :
      ∀ other,
        after.connOf id other =
          if other = userid then
            entry
          else
            before.connOf id other)
    (hStates :
      ∀ other,
        (after.db.users.query other).state =
          if other = userid then
            (if entry.isSome then .online else .offline)
          else
            (before.db.users.query other).state)
    (hNotDown :
      ∀ other conn,
        after.connOf id other = some conn →
          after.conns conn ≠ .disconnected) :
    after.Consistent id where
  online := by
    intro other
    rw [hStates, hMaps]
    by_cases hSame : other = userid
    · rw [if_pos hSame, if_pos hSame]
      cases entry <;> simp
    · rw [if_neg hSame, if_neg hSame]
      exact hConsistent.online other
  notDown := hNotDown

end Consistent

------------------------------------------------------------
-- Handlers That Touch Neither Store
------------------------------------------------------------

/- Operations that matter for neither store. -/
def QuietOp (op : ServerOp) : Prop :=
  op.KeepsMaps ∧ op.KeepsUsers

/- Nothing that matters for sessions has changed. -/
structure Remains (before after : Cluster) : Prop where
  maps :
    ∀ id userid,
      after.connOf id userid = before.connOf id userid
  users : after.db.users = before.db.users
  down :
    ∀ conn,
      after.conns conn = .disconnected ↔
        before.conns conn = .disconnected

theorem remains_refl
    (cluster : Cluster) : Remains cluster cluster where
  maps := fun _ _ => rfl
  users := rfl
  down := fun _ => Iff.rfl

theorem Remains.trans
    {before middle after : Cluster}
    (hFirst : Remains before middle)
    (hSecond : Remains middle after) :
    Remains before after where
  maps := fun node userid =>
    (hSecond.maps node userid).trans (hFirst.maps node userid)
  users := hSecond.users.trans hFirst.users
  down := fun conn =>
    (hSecond.down conn).trans (hFirst.down conn)

/- A quiet handler changes nothing of this. -/
theorem remains_execute
    (env : Externals)
    {id : NodeId}
    {cluster : Cluster}
    {handler : Handler Unit}
    (hQuiet : handler.Always QuietOp) :
    Remains cluster (cluster.execute env id handler) := by
  apply Process.exec_invariant (Remains cluster) _ hQuiet
  · exact remains_refl cluster
  · intro op after hOp hAfter
    have hFrame := answer_frame env id op after
    exact
      hAfter.trans
        ⟨hFrame.maps hOp.1, hFrame.users hOp.2, hFrame.down⟩

theorem consistent_execute
    (env : Externals)
    {id : NodeId}
    {handler : Handler Unit}
    (hQuiet : handler.Always QuietOp)
    {cluster : Cluster}
    (hConsistent : cluster.Consistent id) :
    (cluster.execute env id handler).Consistent id := by
  have hRemains := @remains_execute env id cluster _ hQuiet
  exact
    hConsistent.unchanged (hRemains.maps id) hRemains.users
      hRemains.down

end Cluster

------------------------------------------------------------
-- One Event
------------------------------------------------------------

namespace Cluster

variable (env : Externals) {id : NodeId} {cluster : Cluster}

theorem consistent_shutdown
    (hConsistent : cluster.Consistent id)
    (conn : ConnId) :
    (cluster.execute env id
      (ask (.shutdown conn))).Consistent id := by
  apply consistent_execute env _ hConsistent
  exact ⟨⟨trivial, trivial⟩, fun _ => trivial⟩

/- What follows the state update of a login is quiet. -/
theorem quiet_answerLogin
    (conn : ConnId)
    (user : User) :
    (ChatService.answerLogin env conn user).Always QuietOp :=
  ChatService.always_answerLogin env ⟨trivial, trivial⟩
    ⟨trivial, trivial⟩ ⟨trivial, trivial⟩ ⟨trivial, trivial⟩
    (fun _ => ⟨trivial, trivial⟩)
    (fun _ => ⟨trivial, trivial⟩)

/- An exception shuts the connection down, nothing more. -/
theorem guarded_invariant
    (Invariant : Cluster → Prop)
    {conn : ConnId}
    {handler : Handler Unit}
    (hHandler : Invariant (cluster.execute env id handler))
    (hShutdown :
      ∀ after : Cluster,
        Invariant after → Invariant (after.shutdown conn)) :
    Invariant
      (cluster.execute env id
        (ChatServer.guarded conn handler)) := by
  unfold execute ChatServer.guarded at *
  rw [Process.exec_tryCatch]
  generalize
    Process.exec (answer env id) handler cluster = result at *
  rcases result with ⟨outcome, after⟩
  cases outcome with
  | ok value => exact hHandler
  | error error => exact hShutdown after hHandler

theorem consistent_guarded
    {conn : ConnId}
    {handler : Handler Unit}
    (hHandler : (cluster.execute env id handler).Consistent id) :
    (cluster.execute env id
      (ChatServer.guarded conn handler)).Consistent id := by
  apply guarded_invariant env (Consistent id) hHandler
  intro after hAfter
  exact consistent_shutdown env hAfter conn

theorem remains_shutdown
    (cluster : Cluster)
    (conn : ConnId) :
    Remains cluster (cluster.shutdown conn) := by
  have hFrame := frame_shutdown cluster (.shutdown conn) conn
  exact ⟨hFrame.maps trivial, hFrame.users trivial, hFrame.down⟩

/- A user's entry and state have changed together. -/
structure EntryChange
    (id : NodeId)
    (userid : Int)
    (entry : Option ConnId)
    (before after : Cluster) : Prop where
  maps :
    ∀ other,
      after.connOf id other =
        if other = userid then
          entry
        else
          before.connOf id other
  users :
    after.db.users =
      before.db.users.updateState userid
        (if entry.isSome then .online else .offline)
  down :
    ∀ conn,
      after.conns conn = .disconnected ↔
        before.conns conn = .disconnected

theorem EntryChange.remains
    {userid : Int}
    {entry : Option ConnId}
    {before middle after : Cluster}
    (hChange : EntryChange id userid entry before middle)
    (hRemains : Remains middle after) :
    EntryChange id userid entry before after where
  maps := fun other =>
    (hRemains.maps id other).trans (hChange.maps other)
  users := hRemains.users.trans hChange.users
  down := fun conn =>
    (hRemains.down conn).trans (hChange.down conn)

/- What a login has changed when it starts its answer. -/
def loggedIn
    (cluster : Cluster)
    (id : NodeId)
    (user : User)
    (conn : ConnId) : Cluster :=
  let inserted := cluster.insertConn id user.id conn
  let subscribed :=
    (inserted.appendCommand id
      (Redis.subscribeCommand user.id)).2
  subscribed.setUsers
    (subscribed.db.users.updateState user.id .online)

/- Where the user has no entry, the login makes one. -/
theorem connOf_loggedIn
    {user : User}
    {conn : ConnId}
    (hUnmapped : cluster.connOf id user.id = none)
    (other : Int) :
    (cluster.loggedIn id user conn).connOf id other =
      if other = user.id then
        some conn
      else
        cluster.connOf id other := by
  have hInsert :
      cluster.insertConn id user.id conn =
        cluster.setMap id
          ((cluster.nodes id).userConnMap.insert user.id
            conn) := by
    unfold insertConn
    rw [hUnmapped]
  have hSubscribe :=
    frame_appendCommand
      (cluster.insertConn id user.id conn) (.subscribe 0) id
      (Redis.subscribeCommand user.id)
  have hKept := hSubscribe.maps trivial id other
  unfold loggedIn
  refine hKept.trans ?_
  rw [hInsert, connOf_setMap_self]
  by_cases hSame : other = user.id
  · rw [if_pos hSame, hSame]
    exact AList.lookup_insert _
  · rw [if_neg hSame]
    exact AList.lookup_insert_ne hSame

theorem users_loggedIn
    (user : User)
    (conn : ConnId) :
    (cluster.loggedIn id user conn).db.users =
      cluster.db.users.updateState user.id .online := by
  have hInsert :=
    (frame_insertConn cluster id user.id conn).users trivial
  have hSubscribe :=
    frame_appendCommand
      (cluster.insertConn id user.id conn) (.subscribe 0) id
      (Redis.subscribeCommand user.id)
  exact
    congrArg
      (fun users => users.updateState user.id .online)
      ((hSubscribe.users trivial).trans hInsert)

theorem down_loggedIn
    (user : User)
    (conn other : ConnId) :
    (cluster.loggedIn id user conn).conns other =
        .disconnected ↔
      cluster.conns other = .disconnected := by
  have hSubscribe :=
    frame_appendCommand
      (cluster.insertConn id user.id conn) (.subscribe 0) id
      (Redis.subscribeCommand user.id)
  exact
    (hSubscribe.down other).trans
      ((frame_insertConn cluster id user.id conn).down other)

theorem consistent_loggedIn
    {user : User}
    {conn : ConnId}
    (hMember : user ∈ cluster.db.users.rows)
    (hOffline : user.state ≠ .online)
    (hOpen : cluster.conns conn ≠ .disconnected)
    (hConsistent : cluster.Consistent id) :
    (cluster.loggedIn id user conn).Consistent id := by
  have hUnmapped : cluster.connOf id user.id = none := by
    have hState :=
      UserTable.query_of_mem hMember ▸
        hConsistent.online user.id
    cases hConn : cluster.connOf id user.id with
    | none => rfl
    | some other =>
        exact absurd (hState.mpr ⟨other, hConn⟩) hOffline
  have hMaps := @connOf_loggedIn _ _ _ conn hUnmapped
  have hHas : cluster.db.users.Has user.id :=
    ⟨user, hMember, rfl⟩
  apply hConsistent.replaced hMaps
  · intro other
    rw [users_loggedIn]
    exact UserTable.state_updateState _ _ _ _ hHas
  · intro other found hFound hDisconnected
    have hBefore :=
      (down_loggedIn user conn found).mp hDisconnected
    rw [hMaps] at hFound
    split at hFound
    · exact hOpen (Option.some.inj hFound ▸ hBefore)
    · exact hConsistent.notDown other found hFound hBefore

/- What a login changes, where the user has no entry. -/
theorem change_loggedIn
    {user : User}
    {conn : ConnId}
    (hUnmapped : cluster.connOf id user.id = none) :
    EntryChange id user.id (some conn) cluster
      (cluster.loggedIn id user conn) where
  maps := connOf_loggedIn hUnmapped
  users := users_loggedIn user conn
  down := down_loggedIn user conn

/- The user whom a request logs in: the credentials fit, and
the user is not online. -/
def loggingIn
    (cluster : Cluster)
    (js : JsonObject) : Option User :=
  match (js.field "name").getString,
    (js.field "password").getString with
  | .ok name, .ok password =>
      let user :=
        cluster.db.users.queryByName env.collate name
      if ChatService.accepts env user password ∧
          user.state ≠ .online then
        some user
      else
        none
  | _, _ => none

theorem mem_of_loggingIn
    {js : JsonObject}
    {user : User}
    (hLogin : loggingIn env cluster js = some user) :
    user ∈ cluster.db.users.rows ∧ user.state ≠ .online := by
  unfold loggingIn at hLogin
  cases hName : (js.field "name").getString with
  | error error => simp [hName] at hLogin
  | ok name =>
  cases hPassword : (js.field "password").getString with
  | error error => simp [hName, hPassword] at hLogin
  | ok password =>
  rw [hName, hPassword] at hLogin
  dsimp only at hLogin
  split_ifs at hLogin with hBoth
  have hUser :=
    UserTable.queryByName_cases env.collate cluster.db.users
      name
  rw [Option.some.inj hLogin] at hUser hBoth
  refine ⟨hUser.resolve_right fun hDefault => ?_, hBoth.2⟩
  have hAccepts := hBoth.1
  rw [hDefault] at hAccepts
  simp [ChatService.accepts] at hAccepts

/- A request that logs a user in. -/
theorem execute_login
    (conn : ConnId)
    {js : JsonObject}
    {user : User}
    (hLogin : loggingIn env cluster js = some user) :
    cluster.execute env id (ChatService.login env conn js) =
      (cluster.loggedIn id user conn).execute env id
        (ChatService.answerLogin env conn user) := by
  unfold loggingIn at hLogin
  unfold execute ChatService.login
  cases hName : (js.field "name").getString with
  | error error => simp [hName] at hLogin
  | ok name =>
  cases hPassword : (js.field "password").getString with
  | error error => simp [hName, hPassword] at hLogin
  | ok password =>
  rw [hName, hPassword] at hLogin
  dsimp only at hLogin
  split_ifs at hLogin with hBoth
  have hUser :
      (answer env id (.queryUserByName name) cluster).1 =
        user := Option.some.inj hLogin
  rw [Option.some.inj hLogin] at hBoth
  rw [orThrow_ok, Process.ret_bind, orThrow_ok,
    Process.ret_bind, ask_bind, Process.exec_act, hUser,
    if_pos hBoth.1, if_neg hBoth.2, ask_bind,
    Process.exec_act, ask_bind, Process.exec_act, ask_bind,
    Process.exec_act]
  rfl

/- A request that logs nobody in touches neither store. -/
theorem execute_login_of_none
    (conn : ConnId)
    {js : JsonObject}
    (hLogin : loggingIn env cluster js = none) :
    ∃ handler : Handler Unit,
      handler.Always QuietOp ∧
        cluster.execute env id
            (ChatService.login env conn js) =
          cluster.execute env id handler := by
  unfold loggingIn at hLogin
  unfold execute ChatService.login
  cases hName : (js.field "name").getString with
  | error error => exact ⟨.throw error, trivial, rfl⟩
  | ok name =>
  cases hPassword : (js.field "password").getString with
  | error error => exact ⟨.throw error, trivial, rfl⟩
  | ok password =>
  rw [hName, hPassword] at hLogin
  dsimp only at hLogin
  have hUser :
      cluster.db.users.queryByName env.collate name =
        (answer env id (.queryUserByName name) cluster).1 :=
    rfl
  rw [hUser] at hLogin
  rw [orThrow_ok, Process.ret_bind, orThrow_ok,
    Process.ret_bind, ask_bind, Process.exec_act]
  generalize
    (answer env id (.queryUserByName name) cluster).1 = user
      at hLogin ⊢
  have hQuiet :
      ∀ response,
        (ChatService.respond env conn response).Always
          QuietOp :=
    fun _ => ⟨⟨trivial, trivial⟩, fun _ => trivial⟩
  split_ifs at hLogin with hBoth
  by_cases hAccepts : ChatService.accepts env user password
  · have hOnline : user.state = .online := by
      by_contra hOffline
      exact hBoth ⟨hAccepts, hOffline⟩
    rw [if_pos hAccepts, if_pos hOnline]
    exact ⟨_, hQuiet _, rfl⟩
  · rw [if_neg hAccepts]
    exact ⟨_, hQuiet _, rfl⟩

/- A login keeps the invariant. -/
theorem consistent_login
    {conn : ConnId}
    (hOpen : cluster.conns conn ≠ .disconnected)
    (js : JsonObject)
    (hConsistent : cluster.Consistent id) :
    (cluster.execute env id
      (ChatService.login env conn js)).Consistent id := by
  cases hLogin : loggingIn env cluster js with
  | none =>
      rcases execute_login_of_none env conn hLogin with
        ⟨handler, hQuiet, hSame⟩
      rw [hSame]
      exact consistent_execute env hQuiet hConsistent
  | some user =>
      rcases mem_of_loggingIn env hLogin with
        ⟨hMember, hOffline⟩
      rw [execute_login env conn hLogin]
      exact
        consistent_execute env
          (quiet_answerLogin env conn user)
          (consistent_loggedIn hMember hOffline hOpen
            hConsistent)

/- A user who has left: no entry, and the state offline. -/
theorem consistent_left
    {after : Cluster}
    (userid : Int)
    (hConsistent : cluster.Consistent id)
    (hMaps :
      ∀ other,
        after.connOf id other =
          if other = userid then
            none
          else
            cluster.connOf id other)
    (hUsers :
      after.db.users =
        cluster.db.users.updateState userid .offline)
    (hNotDown :
      ∀ other conn,
        after.connOf id other = some conn →
          after.conns conn ≠ .disconnected) :
    after.Consistent id := by
  apply hConsistent.replaced hMaps _ hNotDown
  intro other
  rw [hUsers]
  exact UserTable.state_updateState_offline _ _ _

/- The entries after one was erased. -/
theorem connOf_erase
    (cluster : Cluster)
    (id : NodeId)
    (userid other : Int) :
    (cluster.setMap id
        ((cluster.nodes id).userConnMap.erase
          userid)).connOf id other =
      if other = userid then
        none
      else
        cluster.connOf id other := by
  rw [connOf_setMap_self]
  by_cases hSame : other = userid
  · rw [if_pos hSame, hSame]
    exact AList.lookup_erase _ _
  · rw [if_neg hSame]
    exact AList.lookup_erase_ne hSame

/- What a logout changes. -/
theorem change_loginout
    {js : JsonObject}
    {userid : Int}
    (hUser : (js.field "id").getInt = .ok userid) :
    EntryChange id userid none cluster
      (cluster.execute env id (ChatService.loginout js)) := by
  unfold execute ChatService.loginout
  rw [hUser, orThrow_ok, Process.ret_bind, ask_bind,
    Process.exec_act, ask_bind, Process.exec_act, ask_bind,
    Process.exec_act]
  have hMaps := connOf_erase cluster id userid
  generalize hErased :
    cluster.setMap id
      ((cluster.nodes id).userConnMap.erase userid) = erased
      at hMaps
  have hUsers : erased.db.users = cluster.db.users := by
    rw [← hErased]
    rfl
  have hConns : erased.conns = cluster.conns := by
    rw [← hErased]
    rfl
  have hUnsubscribe :=
    frame_appendCommand erased (.unsubscribe 0) id
      (Redis.unsubscribeCommand userid)
  have hLeft :
      (answer env id (.eraseConn userid) cluster).2 =
        erased := hErased
  rw [hLeft]
  constructor
  · intro other
    exact (hUnsubscribe.maps trivial id other).trans
      (hMaps other)
  · have hKept := hUnsubscribe.users trivial
    rw [hUsers] at hKept
    exact
      congrArg
        (fun users => users.updateState userid .offline)
        hKept
  · intro conn
    rw [← hConns]
    exact hUnsubscribe.down conn

/- Without a readable id, the handler throws at once. -/
theorem loginout_of_error
    {js : JsonObject}
    {error : JsonException}
    (hError : (js.field "id").getInt = .error error) :
    cluster.execute env id (ChatService.loginout js) =
      cluster := by
  unfold execute ChatService.loginout
  rw [hError]
  rfl

/- A logout keeps the invariant. -/
theorem consistent_loginout
    (js : JsonObject)
    (hConsistent : cluster.Consistent id) :
    (cluster.execute env id
      (ChatService.loginout js)).Consistent id := by
  cases hUser : (js.field "id").getInt with
  | error error =>
      rw [loginout_of_error env hUser]
      exact hConsistent
  | ok userid =>
      have hChange :
          EntryChange id userid none cluster
            (cluster.execute env id
              (ChatService.loginout js)) :=
        change_loginout env hUser
      apply consistent_left userid hConsistent hChange.maps
        hChange.users
      intro other conn hConn hDisconnected
      have hBefore := (hChange.down conn).mp hDisconnected
      rw [hChange.maps] at hConn
      split at hConn
      · simp at hConn
      · exact hConsistent.notDown other conn hConn hBefore

/- At most one user is mapped to the connection. -/
theorem mapped_unique
    {conn : ConnId}
    (hOne :
      (SessionEvent.close conn).ClosesOneUser id cluster)
    {userid other : Int}
    (hUser : cluster.connOf id userid = some conn)
    (hOther : cluster.connOf id other = some conn) :
    other = userid := by
  have hLength :
      ((cluster.nodes id).userConnMap.entries.filter
        fun entry => entry.2 = conn).length ≤ 1 :=
    hOne
  have hMember :
      ∀ user,
        cluster.connOf id user = some conn →
          (⟨user, conn⟩ : Sigma fun _ : Int => ConnId) ∈
            (cluster.nodes id).userConnMap.entries.filter
              fun entry => entry.2 = conn := by
    intro user hConn
    rw [List.mem_filter]
    exact ⟨AList.mem_lookup_iff.mp hConn, by simp⟩
  have hFirst := hMember userid hUser
  have hSecond := hMember other hOther
  generalize
    (cluster.nodes id).userConnMap.entries.filter
      (fun entry => entry.2 = conn) = found at *
  cases found with
  | nil => simp at hFirst
  | cons entry rest =>
      have hRest : rest = [] :=
        List.length_eq_zero_iff.mp (by simpa using hLength)
      rw [hRest, List.mem_singleton] at hFirst hSecond
      exact congrArg Sigma.fst (hSecond.trans hFirst.symm)

/- What a closing changes when it finds a user. -/
structure Closes
    (id : NodeId)
    (userid : Int)
    (conn : ConnId)
    (before after : Cluster) : Prop where
  maps :
    ∀ other,
      after.connOf id other =
        if other = userid then
          none
        else
          before.connOf id other
  users :
    after.db.users =
      before.db.users.updateState userid .offline
  down :
    ∀ other,
      after.conns other = .disconnected ↔
        other = conn ∨ before.conns other = .disconnected

theorem Closes.remains
    {userid : Int}
    {conn : ConnId}
    {before middle after : Cluster}
    (hCloses : Closes id userid conn before middle)
    (hRemains : Remains middle after) :
    Closes id userid conn before after where
  maps := fun other =>
    (hRemains.maps id other).trans (hCloses.maps other)
  users := hRemains.users.trans hCloses.users
  down := fun other =>
    (hRemains.down other).trans (hCloses.down other)

theorem conns_disconnect
    (cluster : Cluster)
    (conn other : ConnId) :
    (cluster.disconnect conn).conns other = .disconnected ↔
      other = conn ∨ cluster.conns other = .disconnected := by
  unfold disconnect
  by_cases hSame : other = conn <;> simp [hSame]

/- The handler, from the disconnection on. -/
theorem closes_clientCloseException
    {conn : ConnId}
    {userid : Int}
    (hFirst : cluster.firstUserOf id conn = some userid)
    (hHas : cluster.db.users.Has userid) :
    Closes id userid conn cluster
      ((cluster.disconnect conn).execute env id
        (ChatService.clientCloseException conn)) := by
  unfold execute ChatService.clientCloseException
  rw [ask_bind, Process.exec_act]
  have hErased :
      answer env id (.eraseConnOf conn)
          (cluster.disconnect conn) =
        (some userid,
          (cluster.disconnect conn).setMap id
            ((cluster.nodes id).userConnMap.erase
              userid)) := by
    have hFound :
        (cluster.disconnect conn).firstUserOf id conn =
          some userid :=
      hFirst
    simp only [answer, eraseConnOf]
    rw [hFound]
    rfl
  have hKnown := UserTable.id_query_of_has hHas
  have hReal : userid ≠ -1 := by
    intro hDefault
    have hNone :=
      (UserTable.id_query_eq_neg_one_iff _ _).mp
        (hKnown.trans hDefault)
    exact hNone hHas
  rw [hErased]
  dsimp only [Option.getD_some]
  rw [if_neg hReal, ask_bind, Process.exec_act]
  generalize hErase :
    (cluster.disconnect conn).setMap id
      ((cluster.nodes id).userConnMap.erase userid) = erased
  have hMaps :
      ∀ other,
        erased.connOf id other =
          if other = userid then
            none
          else
            cluster.connOf id other := by
    intro other
    rw [← hErase]
    exact
      connOf_erase (cluster.disconnect conn) id userid other
  have hUsers : erased.db.users = cluster.db.users := by
    rw [← hErase]
    rfl
  have hConns :
      erased.conns = (cluster.disconnect conn).conns := by
    rw [← hErase]
    rfl
  have hQueried :
      (answer env id (.queryUser userid) erased).1.id =
        userid := by
    have hSame :
        (answer env id (.queryUser userid) erased).1 =
          erased.db.users.query userid :=
      rfl
    rw [hSame, hUsers]
    exact hKnown
  have hFound :
      (answer env id (.queryUser userid) erased).1.id ≠
        -1 := by
    rw [hQueried]
    exact hReal
  rw [if_pos hFound, ask_bind, Process.exec_act, ask_bind,
    Process.exec_act, hQueried]
  have hUnsubscribe :=
    frame_appendCommand
      (erased.setUsers
        (erased.db.users.updateState userid .offline))
      (.unsubscribe 0) id (Redis.unsubscribeCommand userid)
  constructor
  · intro other
    exact (hUnsubscribe.maps trivial id other).trans
      (hMaps other)
  · rw [← hUsers]
    exact hUnsubscribe.users trivial
  · intro other
    refine (hUnsubscribe.down other).trans ?_
    rw [← conns_disconnect, ← hConns]
    rfl

/- Where no user is found, the handler does nothing. -/
theorem clientCloseException_of_none
    {conn : ConnId}
    (hFirst : cluster.firstUserOf id conn = none) :
    cluster.execute env id
        (ChatService.clientCloseException conn) =
      cluster := by
  have hErased :
      answer env id (.eraseConnOf conn) cluster =
        (none, cluster) := by
    simp only [answer, eraseConnOf]
    rw [hFirst]
  unfold execute ChatService.clientCloseException
  rw [ask_bind, Process.exec_act, hErased]
  rfl

/- A closing of a connection with one user. -/
theorem consistent_closed
    {conn : ConnId}
    {userid : Int}
    (hOne :
      (SessionEvent.close conn).ClosesOneUser id cluster)
    (hConsistent : cluster.Consistent id)
    (hUser : cluster.connOf id userid = some conn)
    {after : Cluster}
    (hCloses : Closes id userid conn cluster after) :
    after.Consistent id := by
  apply consistent_left userid hConsistent hCloses.maps
    hCloses.users
  intro other found hFound hDisconnected
  rw [hCloses.maps] at hFound
  split at hFound
  · simp at hFound
  · rename_i hOther
    rcases (hCloses.down found).mp hDisconnected with
      hSame | hOld
    · rw [hSame] at hFound
      exact hOther (mapped_unique hOne hUser hFound)
    · exact hConsistent.notDown other found hFound hOld

/- A closing keeps the invariant. -/
theorem consistent_clientCloseException
    {conn : ConnId}
    (hOne :
      (SessionEvent.close conn).ClosesOneUser id cluster)
    (hConsistent : cluster.Consistent id) :
    ((cluster.disconnect conn).execute env id
      (ChatService.clientCloseException conn)).Consistent
        id := by
  rcases firstUserOf_cases cluster id conn with
    ⟨userid, hFirst, hUser⟩ | ⟨hFirst, hNobody⟩
  · have hHas := hConsistent.has hUser
    have hCloses := closes_clientCloseException env hFirst hHas
    exact consistent_closed hOne hConsistent hUser hCloses
  · have hSame :=
      clientCloseException_of_none env
        (show
          (cluster.disconnect conn).firstUserOf id conn =
            none from hFirst)
    rw [hSame]
    constructor
    · exact hConsistent.online
    · intro userid found hFound hDisconnected
      rcases (conns_disconnect _ _ _).mp hDisconnected with
        hHere | hOld
      · rw [hHere] at hFound
        exact hNobody userid hFound
      · exact hConsistent.notDown userid found hFound hOld

/- The whole closing: `onConnection` only shuts down, once
`clientCloseException` is through. -/
theorem onConnection_invariant
    (Invariant : Cluster → Prop)
    {conn : ConnId}
    (hHandler :
      Invariant
        (cluster.execute env id
          (ChatService.clientCloseException conn)))
    (hShutdown :
      ∀ after : Cluster,
        Invariant after → Invariant (after.shutdown conn)) :
    Invariant
      (cluster.execute env id
        (ChatServer.onConnection conn)) := by
  unfold execute ChatServer.onConnection at *
  rw [Process.exec_bind]
  generalize
    Process.exec (answer env id)
      (ChatService.clientCloseException conn) cluster =
        result at *
  rcases result with ⟨outcome, after⟩
  cases outcome with
  | ok value => exact hShutdown after hHandler
  | error error => exact hHandler

theorem consistent_onConnection
    {conn : ConnId}
    (hOne :
      (SessionEvent.close conn).ClosesOneUser id cluster)
    (hConsistent : cluster.Consistent id) :
    ((cluster.disconnect conn).execute env id
      (ChatServer.onConnection conn)).Consistent id := by
  apply onConnection_invariant env (Consistent id)
  · exact
      consistent_clientCloseException env hOne hConsistent
  · intro after hAfter
    exact consistent_shutdown env hAfter conn

/-
  The condition is sharp: a closing with two users mapped to
  the connection leaves one of them online and unreachable.
-/
theorem unreachable_after_close
    {conn : ConnId}
    (hConsistent : cluster.Consistent id)
    {userid other : Int}
    (hUser : cluster.connOf id userid = some conn)
    (hOther : cluster.connOf id other = some conn)
    (hNe : userid ≠ other)
    {after : Cluster}
    (hStep :
      SessionEvent.step env id cluster (.close conn) =
        some after) :
    ¬ after.OnlineMeansReachable id := by
  simp only [SessionEvent.step] at hStep
  split at hStep
  · simp at hStep
  rw [← Option.some.inj hStep]
  clear hStep
  have hStaysFound :
      ∃ found stays,
        cluster.firstUserOf id conn = some found ∧
          stays ≠ found ∧
            cluster.connOf id found = some conn ∧
              cluster.connOf id stays = some conn := by
    rcases firstUserOf_cases cluster id conn with
      ⟨found, hFirst, hFound⟩ | ⟨_, hNobody⟩
    · by_cases hSame : userid = found
      · exact
          ⟨found, other, hFirst, fun h => hNe (hSame.trans h.symm),
            hFound, hOther⟩
      · exact ⟨found, userid, hFirst, hSame, hFound, hUser⟩
    · exact absurd hUser (hNobody userid)
  rcases hStaysFound with
    ⟨found, stays, hFirst, hStays, hFound, hMapped⟩
  have hOnline :=
    (hConsistent.online stays).mpr ⟨conn, hMapped⟩
  apply StaysOnline.unreachable
  apply onConnection_invariant env
    (StaysOnline id stays conn)
  · have hCloses :=
      closes_clientCloseException env hFirst
        (hConsistent.has hFound)
    refine ⟨?_, ?_, ?_⟩
    · rw [hCloses.users, UserTable.state_updateState_offline,
        if_neg hStays]
      exact hOnline
    · rw [hCloses.maps, if_neg hStays]
      exact hMapped
    · exact (hCloses.down conn).mpr (Or.inl rfl)
  · intro after hAfter
    have hFrame := frame_shutdown after (.shutdown conn) conn
    refine ⟨?_, ?_, ?_⟩
    · rw [hFrame.users trivial]
      exact hAfter.1
    · rw [hFrame.maps trivial]
      exact hAfter.2.1
    · exact (hFrame.down conn).mpr hAfter.2.2

/- A new iteration order changes no entry. -/
theorem consistent_setMap
    {userConnMap : UserConnMap}
    (hPerm :
      userConnMap.entries.Perm
        (cluster.nodes id).userConnMap.entries)
    (hConsistent : cluster.Consistent id) :
    (cluster.setMap id userConnMap).Consistent id := by
  apply hConsistent.unchanged
  · intro userid
    rw [connOf_setMap_self]
    exact AList.perm_lookup hPerm
  · rfl
  · exact fun _ => Iff.rfl

/- Every event keeps the invariant. -/
theorem consistent_step
    {event : SessionEvent}
    {after : Cluster}
    (hConsistent : cluster.Consistent id)
    (hOne : event.ClosesOneUser id cluster)
    (hStep : event.step env id cluster = some after) :
    after.Consistent id := by
  cases event with
  | login conn js =>
      simp only [SessionEvent.step] at hStep
      split at hStep
      · simp at hStep
      · rename_i hOpen
        rw [← Option.some.inj hStep]
        apply consistent_guarded
        exact consistent_login env hOpen js hConsistent
  | loginout conn js =>
      simp only [SessionEvent.step] at hStep
      split at hStep
      · simp at hStep
      · rw [← Option.some.inj hStep]
        apply consistent_guarded
        exact consistent_loginout env js hConsistent
  | close conn =>
      simp only [SessionEvent.step] at hStep
      split at hStep
      · simp at hStep
      · rw [← Option.some.inj hStep]
        exact consistent_onConnection env hOne hConsistent
  | rehash userConnMap =>
      simp only [SessionEvent.step] at hStep
      split at hStep
      · rename_i hPerm
        rw [← Option.some.inj hStep]
        exact consistent_setMap hPerm hConsistent
      · simp at hStep

/- Nobody is online, and nobody is mapped. -/
theorem consistent_start
    (hOffline :
      ∀ user ∈ cluster.db.users.rows, user.state = .offline)
    (hEmpty : (cluster.nodes id).userConnMap = ∅) :
    cluster.Consistent id := by
  have hUnmapped :
      ∀ userid, cluster.connOf id userid = none := by
    intro userid
    unfold connOf
    rw [hEmpty]
    exact AList.lookup_empty userid
  constructor
  · intro userid
    rw [hUnmapped]
    have hState :
        (cluster.db.users.query userid).state = .offline := by
      by_cases hHas : cluster.db.users.Has userid
      · rcases hHas with ⟨user, hMember, rfl⟩
        rw [UserTable.query_of_mem hMember]
        exact hOffline user hMember
      · rw [UserTable.query_of_missing hHas]
    simp [hState]
  · intro userid conn hConn
    rw [hUnmapped] at hConn
    simp at hConn

/-
  From a start where every user is offline and the map is
  empty, online means reachable after every sequence of
  events in which no connection closes with several users
  logged in on it.
-/
theorem online_means_reachable
    {start final : Cluster}
    {events : List SessionEvent}
    (hOffline :
      ∀ user ∈ start.db.users.rows, user.state = .offline)
    (hEmpty : (start.nodes id).userConnMap = ∅)
    (hRun :
      Transition.Run (SessionEvent.step env id)
        (SessionEvent.ClosesOneUser id) start events final) :
    final.OnlineMeansReachable id := by
  have hStart := consistent_start hOffline hEmpty
  have hFinal :=
    hRun.invariant (Consistent id)
      (fun _ _ _ hBefore hOne hStep =>
        consistent_step env hBefore hOne hStep)
      hStart
  exact hFinal.reachable

/- The events of one account that logs in and closes. -/
def oneAccount : List SessionEvent :=
  [.login 5 (sampleLogin "ann"), .close 5]

/- The events of two accounts that log in on one connection,
which then closes. -/
def twoAccounts : List SessionEvent :=
  [.login 5 (sampleLogin "ann"),
    .login 5 (sampleLogin "bob"), .close 5]

theorem oneAccount_reachable :
    ∃ final,
      Transition.Run
          (SessionEvent.step (sampleExternals []) 1)
          (SessionEvent.ClosesOneUser 1)
          (sampleCluster []) oneAccount final ∧
        final.OnlineMeansReachable 1 := by
  have hRun :=
    Transition.exists_run_of_execute
      (SessionEvent.step (sampleExternals []) 1)
      (SessionEvent.ClosesOneUser 1) (fun _ => True)
      (show
        ∃ final ∈
          Transition.execute
            (SessionEvent.step (sampleExternals []) 1)
            (SessionEvent.ClosesOneUser 1)
            (sampleCluster []) oneAccount,
          True by decide +kernel)
  rcases hRun with ⟨final, hRun, _⟩
  exact
    ⟨final, hRun,
      online_means_reachable (sampleExternals [])
        (by decide) rfl hRun⟩

/- The closing finds one of the two users; the other one
stays online on a connection that is down. -/
theorem twoAccounts_unreachable :
    (∀ user ∈ (sampleCluster []).db.users.rows,
      user.state = .offline) ∧
    ((sampleCluster []).nodes 1).userConnMap = ∅ ∧
    ∃ final,
      Transition.Run
          (SessionEvent.step (sampleExternals []) 1)
          (fun _ _ => True) (sampleCluster []) twoAccounts
          final ∧
        ¬ final.OnlineMeansReachable 1 := by
  have hRun :=
    Transition.exists_run_of_execute
      (SessionEvent.step (sampleExternals []) 1)
      (fun _ _ => True) (StaysOnline 1 1 5)
      (show
        ∃ final ∈
          Transition.execute
            (SessionEvent.step (sampleExternals []) 1)
            (fun _ _ => True) (sampleCluster [])
            twoAccounts,
          StaysOnline 1 1 5 final by decide +kernel)
  rcases hRun with ⟨final, hRun, hStays⟩
  exact ⟨by decide, rfl, final, hRun, hStays.unreachable⟩

end Cluster

end ClusterChat
