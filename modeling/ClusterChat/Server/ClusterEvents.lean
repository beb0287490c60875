import ClusterChat.Server.Shutdown
import ClusterChat.Server.Subscriptions

/-
  All events of a cluster, each executed completely.

  Beside the events of the sessions there are the other
  frames, the messages that a node takes from its
  subscription, and what Redis and the network do.  These
  leave the maps and the states of the users alone.

  Main declarations:
    * `ClusterEvent` and `Deployment.serve`
    * `Cluster.SessionsStay`
    * `Deployment.consistent_serve`
-/

------------------------------------------------------------
-- Events
------------------------------------------------------------

namespace ClusterChat

/- An event of the sessions, another frame, a reply of a
subscription, or an event of Redis and the network. -/
inductive ClusterEvent where
| session (event : DeploymentEvent)
| frame
    (conn : ConnId) (body : String) (readings : Readings)
| observe (id : NodeId)
| environment (event : EnvironmentEvent)

namespace Deployment

/- A running node takes a reply from its subscription. -/
def observe
    (env : Externals)
    (deployment : Deployment)
    (id : NodeId) : Option Deployment :=
  match takeReply id deployment.cluster.replies with
  | none => none
  | some (reply, rest) =>
      let cluster :=
        { deployment.cluster with replies := rest }
      match Redis.observe reply with
      | some (userid, msg) =>
          some
            { deployment with
              cluster :=
                cluster.execute env id
                  (ChatService.handleredissubscribemessage
                    userid msg) }
      | none => some { deployment with cluster := cluster }

/- One event, executed completely. -/
def serve
    (env : Externals)
    (deployment : Deployment) :
    ClusterEvent → Option Deployment
| .session event => deployment.step env event
| .frame conn body readings =>
    if deployment.Serves conn then
      some (deployment.execute env conn
        (ChatServer.onMessage env conn body readings))
    else
      none
| .observe id =>
    if id ∈ deployment.running then
      deployment.observe env id
    else
      none
| .environment event =>
    some
      { deployment with
        cluster := deployment.cluster.environment event }

end Deployment

------------------------------------------------------------
-- Events That Leave the Sessions Alone
------------------------------------------------------------

namespace Cluster

/- The maps, the states of the users, the connections that
are down, and the nodes of the connections. -/
structure SessionsStay (before after : Cluster) : Prop where
  maps :
    ∀ id userid,
      after.connOf id userid = before.connOf id userid
  states :
    ∀ userid,
      (after.db.users.query userid).state =
        (before.db.users.query userid).state
  down :
    ∀ conn,
      after.conns conn = .disconnected ↔
        before.conns conn = .disconnected
  home : after.home = before.home

theorem sessionsStay_refl
    (cluster : Cluster) : SessionsStay cluster cluster where
  maps := fun _ _ => rfl
  states := fun _ => rfl
  down := fun _ => Iff.rfl
  home := rfl

theorem SessionsStay.trans
    {first second third : Cluster}
    (hFirst : SessionsStay first second)
    (hSecond : SessionsStay second third) :
    SessionsStay first third where
  maps := fun id userid =>
    (hSecond.maps id userid).trans (hFirst.maps id userid)
  states := fun userid =>
    (hSecond.states userid).trans (hFirst.states userid)
  down := fun conn =>
    (hSecond.down conn).trans (hFirst.down conn)
  home := hSecond.home.trans hFirst.home

/- A new user is offline, as a missing one is. -/
theorem state_append
    (users : UserTable)
    {user : User}
    (hOffline : user.state = .offline)
    (userid : Int) :
    ((users.append user).query userid).state =
      (users.query userid).state := by
  unfold UserTable.query UserTable.append
  dsimp only
  rw [List.find?_append]
  cases users.rows.find? fun row => row.id = userid with
  | some row => rfl
  | none =>
      rw [Option.none_or]
      by_cases hId : (users.nextId : Int) = userid
      · simp [hId, hOffline]
      · simp [hId]

theorem sessionsStay_answer
    (env : Externals)
    (id : NodeId)
    {op : ServerOp}
    (hOp : op.Sessionless)
    (cluster : Cluster) :
    SessionsStay cluster (answer env id op cluster).2 := by
  have hFrame := answer_frame env id op cluster
  have hHome := (answer_apart env id op cluster).home
  have hSame :
      op.KeepsMaps →
        op.KeepsUsers →
          SessionsStay cluster
            (answer env id op cluster).2 := by
    intro hMaps hUsers
    exact
      { maps := hFrame.maps hMaps
        states := fun _ => by rw [hFrame.users hUsers]
        down := hFrame.down
        home := hHome }
  cases op with
  | insertUser user =>
      refine
        { maps := hFrame.maps trivial
          states := ?_
          down := hFrame.down
          home := hHome }
      intro userid
      simp only [answer]
      cases hInsert :
          cluster.db.users.insert env.collate user with
      | none => rfl
      | some inserted =>
          unfold UserTable.insert at hInsert
          split_ifs at hInsert
          rw [← Option.some.inj hInsert]
          exact state_append cluster.db.users hOp userid
  | insertConn userid conn => exact hOp.elim
  | eraseConn userid => exact hOp.elim
  | eraseConnOf conn => exact hOp.elim
  | updateState userid state => exact hOp.elim
  | resetState => exact hOp.elim
  | _ => exact hSame trivial trivial

theorem sessionsStay_execute
    (env : Externals)
    (id : NodeId)
    {handler : Handler Unit}
    (hHandler : ChatService.Sessionless handler)
    (cluster : Cluster) :
    SessionsStay cluster (cluster.execute env id handler) :=
  Process.exec_invariant (SessionsStay cluster)
    (fun _ state hOp hState =>
      hState.trans (sessionsStay_answer env id hOp state))
    hHandler (sessionsStay_refl cluster)

theorem sessionsStay_guarded
    (env : Externals)
    (id : NodeId)
    (conn : ConnId)
    {handler : Handler Unit}
    (hHandler : ChatService.Sessionless handler)
    (cluster : Cluster) :
    SessionsStay cluster
      (cluster.execute env id
        (ChatServer.guarded conn handler)) := by
  apply
    guarded_invariant env (SessionsStay cluster)
      (sessionsStay_execute env id hHandler cluster)
  intro after hAfter
  have hRemains := remains_shutdown after conn
  have hApart :=
    answer_apart env id (.shutdown conn) after
  exact
    hAfter.trans
      { maps := hRemains.maps
        states := fun _ => by rw [hRemains.users]
        down := hRemains.down
        home := hApart.home }

theorem sessionsStay_environment
    (cluster : Cluster)
    (event : EnvironmentEvent) :
    SessionsStay cluster (cluster.environment event) := by
  rcases cluster.environment_eq event with
    ⟨_, _, _, hSame, _⟩
  refine
    { maps := World.connOf_environment cluster event
      states := ?_
      down := ?_
      home := ?_ }
  · intro userid
    rw [db_environment]
  · intro conn
    rw [hSame]
  · rw [hSame]

end Cluster

namespace Deployment

variable {env : Externals} {before after : Deployment}

theorem Consistent.stays
    (hConsistent : before.Consistent)
    {cluster : Cluster}
    (hStays : Cluster.SessionsStay before.cluster cluster) :
    Consistent { before with cluster := cluster } where
  online := by
    intro userid
    dsimp only
    rw [hStays.states]
    simp only [hStays.maps]
    exact hConsistent.online userid
  unique := by
    dsimp only
    simp only [hStays.maps]
    exact hConsistent.unique
  placed := by
    intro id hId userid conn hConn
    dsimp only at hConn ⊢
    rw [hStays.maps] at hConn
    rw [hStays.home]
    have hPlaced := hConsistent.placed id hId userid conn hConn
    exact
      ⟨fun hDown => hPlaced.1 ((hStays.down conn).mp hDown),
        hPlaced.2⟩

/- Only an event of the sessions needs a condition, where
the other frames are no logins and logouts. -/
theorem consistent_serve
    (hConsistent : before.Consistent)
    {event : ClusterEvent}
    (hSession :
      ∀ request,
        event = .session request →
          before.Disciplined env request ∧
            before.SparesOthers request)
    (hFrame :
      ∀ conn body readings,
        event = .frame conn body readings →
          ∃ handler,
            ChatService.Sessionless handler ∧
              ChatServer.onMessage env conn body readings =
                ChatServer.guarded conn handler)
    (hServe : before.serve env event = some after) :
    after.Consistent := by
  cases event with
  | session request =>
      rcases hSession request rfl with
        ⟨hDisciplined, hSpares⟩
      exact
        consistent_step env hConsistent hDisciplined hSpares
          hServe
  | frame conn body readings =>
      rcases hFrame conn body readings rfl with
        ⟨handler, hHandler, hSame⟩
      simp only [serve] at hServe
      split_ifs at hServe
      rw [← Option.some.inj hServe]
      apply hConsistent.stays
      rw [hSame]
      exact
        Cluster.sessionsStay_guarded env _ conn hHandler _
  | observe id =>
      simp only [serve] at hServe
      split_ifs at hServe
      unfold observe at hServe
      cases hTaken :
          takeReply id before.cluster.replies with
      | none =>
          rw [hTaken] at hServe
          cases hServe
      | some taken =>
          rcases taken with ⟨reply, rest⟩
          have hTakenOff :
              Cluster.SessionsStay before.cluster
                { before.cluster with replies := rest } :=
            ⟨fun _ _ => rfl, fun _ => rfl,
              fun _ => Iff.rfl, rfl⟩
          rw [hTaken] at hServe
          dsimp only at hServe
          cases hRead : Redis.observe reply with
          | none =>
              rw [hRead] at hServe
              rw [← Option.some.inj hServe]
              exact hConsistent.stays hTakenOff
          | some call =>
              rcases call with ⟨userid, msg⟩
              rw [hRead] at hServe
              rw [← Option.some.inj hServe]
              apply hConsistent.stays
              apply hTakenOff.trans
              apply Cluster.sessionsStay_execute
              exact
                ChatService.sessionless_handleredissubscribemessage
                  userid msg
  | environment event =>
      rw [← Option.some.inj hServe]
      apply hConsistent.stays
      exact
        Cluster.sessionsStay_environment before.cluster event

end Deployment

end ClusterChat
