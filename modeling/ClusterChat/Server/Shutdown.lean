import ClusterChat.Server.Sessions

/-
  Online states and sessions over a cluster whose nodes are
  shut down one by one.

  `resetState` sets every online user of the shared table
  offline, also those whom another node serves.  A logout
  does the same to a user who has moved to another node.  So
  the table and the maps agree as long as neither happens to
  a user of another running node.

  Main declarations:
    * `Deployment` and `DeploymentEvent`
    * `Deployment.step` and `Deployment.Disciplined`
    * `Deployment.OnlineMeansOneNode`
    * `Deployment.SparesOthers`
    * `Deployment.online_means_one_node`
-/

------------------------------------------------------------
-- Events
------------------------------------------------------------

namespace ClusterChat

/- The cluster, the nodes that are running, and the user that
each connection has logged in. -/
structure Deployment where
  cluster : Cluster
  running : Finset NodeId
  owner : ConnId → Option Int

/-
  What happens in the cluster: login and logout frames,
  closings, graceful shutdowns, and a new iteration order of
  a `_userConnMap`.
-/
inductive DeploymentEvent where
| login (conn : ConnId) (js : JsonObject)
| loginout (conn : ConnId) (js : JsonObject)
| close (conn : ConnId)
| shutdown (id : NodeId)
| rehash (id : NodeId) (userConnMap : UserConnMap)

/- The id in a logout frame. -/
def loginoutId (js : JsonObject) : Option Int :=
  (js.field "id").getInt.toOption

namespace Deployment

/- The connection is not down, and its node is running. -/
def Serves
    (deployment : Deployment)
    (conn : ConnId) : Prop :=
  deployment.cluster.conns conn ≠ .disconnected ∧
    deployment.cluster.home conn ∈ deployment.running

instance
    (deployment : Deployment)
    (conn : ConnId) :
    Decidable (deployment.Serves conn) :=
  inferInstanceAs (Decidable (_ ∧ _))

/- The node of the connection executes a handler. -/
def execute
    (env : Externals)
    (deployment : Deployment)
    (conn : ConnId)
    (handler : Handler Unit) : Deployment :=
  { deployment with
    cluster :=
      deployment.cluster.execute env
        (deployment.cluster.home conn) handler }

/- The connection has logged in the user, if there is one. -/
def remember
    (deployment : Deployment)
    (conn : ConnId)
    (user : Option User) : Deployment :=
  match user with
  | some user =>
      { deployment with
        owner :=
          Function.update deployment.owner conn
            (some user.id) }
  | none => deployment

/- The node has stopped; its connections are gone. -/
def stop
    (deployment : Deployment)
    (id : NodeId) : Deployment where
  cluster :=
    { deployment.cluster with
      conns := fun conn =>
        if deployment.cluster.home conn = id then
          .disconnected
        else
          deployment.cluster.conns conn }
  running := deployment.running.erase id
  owner := deployment.owner

/-
  One event, executed completely.  `gracefulExit` resets the
  states and ends the event loop.
-/
def step
    (env : Externals)
    (deployment : Deployment) :
    DeploymentEvent → Option Deployment
| .login conn js =>
    if deployment.Serves conn then
      some ((deployment.execute env conn
        (ChatServer.guarded conn
          (ChatService.login env conn js))).remember conn
            (Cluster.loggingIn env deployment.cluster js))
    else
      none
| .loginout conn js =>
    if deployment.Serves conn then
      some (deployment.execute env conn
        (ChatServer.guarded conn (ChatService.loginout js)))
    else
      none
| .close conn =>
    if deployment.Serves conn then
      some (execute env
        { deployment with
          cluster := deployment.cluster.disconnect conn }
        conn (ChatServer.onConnection conn))
    else
      none
| .shutdown id =>
    if id ∈ deployment.running then
      some (stop
        { deployment with
          cluster :=
            deployment.cluster.execute env id
              ChatService.reset } id)
    else
      none
| .rehash id userConnMap =>
    if userConnMap.entries.Perm
        (deployment.cluster.nodes id).userConnMap.entries then
      some
        { deployment with
          cluster :=
            deployment.cluster.setMap id userConnMap }
    else
      none

/-
  The discipline of the shipped client: a connection logs in
  at most one user and logs out only its own id.
-/
def Disciplined
    (env : Externals)
    (deployment : Deployment) : DeploymentEvent → Prop
| .login conn js =>
    ∀ user ∈ Cluster.loggingIn env deployment.cluster js,
      deployment.owner conn = none ∨
        deployment.owner conn = some user.id
| .loginout conn js =>
    ∀ userid ∈ loginoutId js,
      deployment.owner conn = some userid
| _ => True

/-
  A node shuts down only when the other nodes serve nobody,
  and a logout is for a user whom no other node serves.
-/
def SparesOthers
    (deployment : Deployment) : DeploymentEvent → Prop
| .loginout conn js =>
    ∀ userid ∈ loginoutId js,
      ∀ other ∈ deployment.running,
        other ≠ deployment.cluster.home conn →
          deployment.cluster.connOf other userid = none
| .shutdown id =>
    ∀ other ∈ deployment.running,
      other ≠ id →
        (deployment.cluster.nodes other).userConnMap.entries =
          []
| _ => True

instance
    (env : Externals)
    (deployment : Deployment)
    (event : DeploymentEvent) :
    Decidable (deployment.Disciplined env event) :=
  match event with
  | .login conn js =>
      inferInstanceAs
        (Decidable
          (∀ user ∈
              Cluster.loggingIn env deployment.cluster js,
            deployment.owner conn = none ∨
              deployment.owner conn = some user.id))
  | .loginout conn js =>
      inferInstanceAs
        (Decidable
          (∀ userid ∈ loginoutId js,
            deployment.owner conn = some userid))
  | .close _ => inferInstanceAs (Decidable True)
  | .shutdown _ => inferInstanceAs (Decidable True)
  | .rehash _ _ => inferInstanceAs (Decidable True)

instance
    (deployment : Deployment)
    (event : DeploymentEvent) :
    Decidable (deployment.SparesOthers event) :=
  match event with
  | .login _ _ => inferInstanceAs (Decidable True)
  | .loginout conn js =>
      inferInstanceAs
        (Decidable
          (∀ userid ∈ loginoutId js,
            ∀ other ∈ deployment.running,
              other ≠ deployment.cluster.home conn →
                deployment.cluster.connOf other userid =
                  none))
  | .close _ => inferInstanceAs (Decidable True)
  | .shutdown id =>
      inferInstanceAs
        (Decidable
          (∀ other ∈ deployment.running,
            other ≠ id →
              (deployment.cluster.nodes
                other).userConnMap.entries = []))
  | .rehash _ _ => inferInstanceAs (Decidable True)

------------------------------------------------------------
-- The Invariant
------------------------------------------------------------

/- A running node maps the user to an open connection. -/
def ServesUser
    (deployment : Deployment)
    (userid : Int)
    (id : NodeId) : Prop :=
  id ∈ deployment.running ∧
    ∃ conn,
      deployment.cluster.connOf id userid = some conn ∧
        deployment.cluster.conns conn ≠ .disconnected

/- A user is online exactly if one running node serves the
user, and only one. -/
def OnlineMeansOneNode (deployment : Deployment) : Prop :=
  ∀ userid,
    (deployment.cluster.db.users.query userid).state =
        .online ↔
      ∃! id, deployment.ServesUser userid id

/-
  The table and the maps of the running nodes agree.  A
  mapped connection is open, ends at its node, and has logged
  in the user.
-/
structure Consistent (deployment : Deployment) : Prop where
  online :
    ∀ userid,
      (deployment.cluster.db.users.query userid).state =
          .online ↔
        ∃ id ∈ deployment.running, ∃ conn,
          deployment.cluster.connOf id userid = some conn
  unique :
    ∀ id ∈ deployment.running,
      ∀ other ∈ deployment.running,
        ∀ userid first second,
          deployment.cluster.connOf id userid =
              some first →
            deployment.cluster.connOf other userid =
                some second →
              other = id
  placed :
    ∀ id ∈ deployment.running,
      ∀ userid conn,
        deployment.cluster.connOf id userid = some conn →
          deployment.cluster.conns conn ≠ .disconnected ∧
            deployment.cluster.home conn = id ∧
              deployment.owner conn = some userid

namespace Consistent

variable {before after : Deployment}

/- The user of a connection is unique. -/
theorem user_unique
    (hConsistent : before.Consistent)
    {id other : NodeId}
    {userid user : Int}
    {conn : ConnId}
    (hId : id ∈ before.running)
    (hOther : other ∈ before.running)
    (hUserid : before.cluster.connOf id userid = some conn)
    (hUser : before.cluster.connOf other user = some conn) :
    user = userid := by
  have hFirst := hConsistent.placed id hId userid conn hUserid
  have hSecond :=
    hConsistent.placed other hOther user conn hUser
  exact
    Option.some.inj (hSecond.2.2.symm.trans hFirst.2.2)

theorem one_node
    (hConsistent : before.Consistent) :
    before.OnlineMeansOneNode := by
  intro userid
  rw [hConsistent.online userid]
  constructor
  · intro hMapped
    rcases hMapped with ⟨id, hId, conn, hConn⟩
    have hPlaced := hConsistent.placed id hId userid conn hConn
    refine ⟨id, ⟨hId, conn, hConn, hPlaced.1⟩, ?_⟩
    intro other hOther
    rcases hOther with ⟨hRunning, found, hFound, _⟩
    exact
      hConsistent.unique id hId other hRunning userid conn
        found hConn hFound
  · intro hUnique
    rcases hUnique with ⟨id, ⟨hId, conn, hConn, _⟩, _⟩
    exact ⟨id, hId, conn, hConn⟩

/- Only users of the table are mapped. -/
theorem has
    (hConsistent : before.Consistent)
    {id : NodeId}
    (hId : id ∈ before.running)
    {userid : Int}
    {conn : ConnId}
    (hMapped : before.cluster.connOf id userid = some conn) :
    before.cluster.db.users.Has userid := by
  have hOnline :=
    (hConsistent.online userid).mpr ⟨id, hId, conn, hMapped⟩
  by_contra hMissing
  rw [UserTable.query_of_missing hMissing] at hOnline
  simp at hOnline

/- Nothing that matters for the invariant changed. -/
theorem unchanged
    (hConsistent : before.Consistent)
    (hRunning : after.running = before.running)
    (hOwner : after.owner = before.owner)
    (hHome : after.cluster.home = before.cluster.home)
    (hMaps :
      ∀ id userid,
        after.cluster.connOf id userid =
          before.cluster.connOf id userid)
    (hUsers : after.cluster.db.users = before.cluster.db.users)
    (hDown :
      ∀ id ∈ before.running,
        ∀ userid conn,
          before.cluster.connOf id userid = some conn →
            after.cluster.conns conn = .disconnected →
              before.cluster.conns conn = .disconnected) :
    after.Consistent where
  online := by
    intro userid
    rw [hUsers, hRunning]
    simp only [hMaps]
    exact hConsistent.online userid
  unique := by
    rw [hRunning]
    simp only [hMaps]
    exact hConsistent.unique
  placed := by
    rw [hRunning]
    intro id hId userid conn hConn
    rw [hMaps] at hConn
    rw [hHome, hOwner]
    have hPlaced := hConsistent.placed id hId userid conn hConn
    refine ⟨?_, hPlaced.2⟩
    intro hDisconnected
    exact
      hPlaced.1
        (hDown id hId userid conn hConn hDisconnected)

/- One user's entry and state changed together, on a node
that the user shares with no other. -/
theorem replaced
    (hConsistent : before.Consistent)
    {id : NodeId}
    (hId : id ∈ before.running)
    {userid : Int}
    {entry : Option ConnId}
    (hRunning : after.running = before.running)
    (hAlone :
      ∀ other ∈ before.running,
        other ≠ id →
          before.cluster.connOf other userid = none)
    (hMaps :
      ∀ other,
        after.cluster.connOf id other =
          if other = userid then
            entry
          else
            before.cluster.connOf id other)
    (hApart : Cluster.Apart id before.cluster after.cluster)
    (hUsers :
      after.cluster.db.users =
        before.cluster.db.users.updateState userid
          (if entry.isSome then .online else .offline))
    (hKnown :
      entry.isSome → before.cluster.db.users.Has userid)
    (hPlaced :
      ∀ node ∈ before.running,
        ∀ other conn,
          after.cluster.connOf node other = some conn →
            after.cluster.conns conn ≠ .disconnected ∧
              before.cluster.home conn = node ∧
                after.owner conn = some other) :
    after.Consistent := by
  have hAt :
      ∀ node ∈ before.running,
        ∀ other,
          after.cluster.connOf node other =
            if other = userid then
              (if node = id then entry else none)
            else
              before.cluster.connOf node other := by
    intro node hNode other
    by_cases hHere : node = id
    · rw [hHere, if_pos rfl]
      exact hMaps other
    · rw [hApart.maps node hHere, if_neg hHere]
      split
      · rename_i hSame
        rw [hSame]
        exact hAlone node hNode hHere
      · rfl
  have hStates :
      ∀ other,
        (after.cluster.db.users.query other).state =
          if other = userid then
            (if entry.isSome then .online else .offline)
          else
            (before.cluster.db.users.query other).state := by
    intro other
    rw [hUsers]
    by_cases hEntry : entry.isSome
    · exact
        UserTable.state_updateState _ _ _ _ (hKnown hEntry)
    · rw [if_neg hEntry]
      exact UserTable.state_updateState_offline _ _ _
  constructor
  · intro other
    rw [hStates, hRunning]
    by_cases hSame : other = userid
    · rw [if_pos hSame]
      constructor
      · intro hOnline
        cases hEntry : entry with
        | none => simp [hEntry] at hOnline
        | some conn =>
            refine ⟨id, hId, conn, ?_⟩
            rw [hAt id hId, if_pos hSame, if_pos rfl, hEntry]
      · intro hMapped
        rcases hMapped with ⟨node, hNode, conn, hConn⟩
        rw [hAt node hNode, if_pos hSame] at hConn
        split at hConn
        · rw [hConn]
          rfl
        · simp at hConn
    · rw [if_neg hSame, hConsistent.online other]
      constructor
      · intro hMapped
        rcases hMapped with ⟨node, hNode, conn, hConn⟩
        refine ⟨node, hNode, conn, ?_⟩
        rw [hAt node hNode, if_neg hSame]
        exact hConn
      · intro hMapped
        rcases hMapped with ⟨node, hNode, conn, hConn⟩
        rw [hAt node hNode, if_neg hSame] at hConn
        exact ⟨node, hNode, conn, hConn⟩
  · rw [hRunning]
    intro node hNode third hThird other first second hFirst
      hSecond
    rw [hAt node hNode] at hFirst
    rw [hAt third hThird] at hSecond
    by_cases hSame : other = userid
    · rw [if_pos hSame] at hFirst hSecond
      split_ifs at hFirst hSecond with hNodeHere hThirdHere
      exact hThirdHere.trans hNodeHere.symm
    · rw [if_neg hSame] at hFirst hSecond
      exact
        hConsistent.unique node hNode third hThird other
          first second hFirst hSecond
  · rw [hRunning, hApart.home]
    exact hPlaced

end Consistent

------------------------------------------------------------
-- One Event
------------------------------------------------------------

section Events

variable (env : Externals) {before after : Deployment}

/- Handlers that matter for no session. -/
theorem consistent_remains
    (hConsistent : before.Consistent)
    (hRunning : after.running = before.running)
    (hOwner : after.owner = before.owner)
    (hHome : after.cluster.home = before.cluster.home)
    (hRemains :
      Cluster.Remains before.cluster after.cluster) :
    after.Consistent :=
  hConsistent.unchanged hRunning hOwner hHome hRemains.maps
    hRemains.users
    fun _ _ _ conn _ => (hRemains.down conn).mp

/- A guarded handler that matters for no session. -/
theorem remains_guarded
    {cluster middle : Cluster}
    {id : NodeId}
    (conn : ConnId)
    {handler : Handler Unit}
    (hHandler :
      Cluster.Remains middle (cluster.execute env id handler)) :
    Cluster.Remains middle
      (cluster.execute env id
        (ChatServer.guarded conn handler)) := by
  apply
    Cluster.guarded_invariant env (Cluster.Remains middle)
      hHandler
  intro after hAfter
  exact hAfter.trans (Cluster.remains_shutdown after conn)

theorem change_guarded
    {cluster middle : Cluster}
    {id : NodeId}
    {userid : Int}
    {entry : Option ConnId}
    (conn : ConnId)
    {handler : Handler Unit}
    (hHandler :
      Cluster.EntryChange id userid entry middle
        (cluster.execute env id handler)) :
    Cluster.EntryChange id userid entry middle
      (cluster.execute env id
        (ChatServer.guarded conn handler)) := by
  apply
    Cluster.guarded_invariant env
      (Cluster.EntryChange id userid entry middle) hHandler
  intro after hAfter
  exact hAfter.remains (Cluster.remains_shutdown after conn)

/- An offline user has no entry on a running node. -/
theorem Consistent.unmapped
    (hConsistent : before.Consistent)
    {user : User}
    (hMember : user ∈ before.cluster.db.users.rows)
    (hOffline : user.state ≠ .online)
    {id : NodeId}
    (hId : id ∈ before.running) :
    before.cluster.connOf id user.id = none := by
  cases hConn : before.cluster.connOf id user.id with
  | none => rfl
  | some conn =>
      have hOnline :=
        (hConsistent.online user.id).mpr
          ⟨id, hId, conn, hConn⟩
      rw [UserTable.query_of_mem hMember] at hOnline
      exact absurd hOnline hOffline

/- A login that succeeds. -/
theorem consistent_login
    (hConsistent : before.Consistent)
    {conn : ConnId}
    {js : JsonObject}
    (hServes : before.Serves conn)
    {user : User}
    (hLogin :
      Cluster.loggingIn env before.cluster js = some user)
    (hOwner :
      before.owner conn = none ∨
        before.owner conn = some user.id) :
    ((before.execute env conn
      (ChatServer.guarded conn
        (ChatService.login env conn js))).remember conn
          (some user)).Consistent := by
  rcases Cluster.mem_of_loggingIn env hLogin with
    ⟨hMember, hOffline⟩
  have hUnmapped :=
    hConsistent.unmapped hMember hOffline hServes.2
  have hExecuted :
      Cluster.EntryChange (before.cluster.home conn) user.id
        (some conn) before.cluster
        (before.cluster.execute env
          (before.cluster.home conn)
          (ChatService.login env conn js)) := by
    rw [Cluster.execute_login env conn hLogin]
    exact
      (Cluster.change_loggedIn hUnmapped).remains
        (Cluster.remains_execute env
          (Cluster.quiet_answerLogin env conn user))
  have hChange := change_guarded env conn hExecuted
  have hApart :=
    Cluster.execute_apart env (before.cluster.home conn)
      (ChatServer.guarded conn
        (ChatService.login env conn js)) before.cluster
  apply hConsistent.replaced hServes.2
  · rfl
  · intro other hRunning _
    exact hConsistent.unmapped hMember hOffline hRunning
  · exact hChange.maps
  · exact hApart
  · exact hChange.users
  · exact fun _ => ⟨user, hMember, rfl⟩
  · intro node hNode other found hFound
    by_cases hNew :
        node = before.cluster.home conn ∧ other = user.id
    · rcases hNew with ⟨hHere, hSame⟩
      have hMade := hChange.maps other
      rw [if_pos hSame] at hMade
      rw [hHere] at hFound
      have hConn : conn = found :=
        Option.some.inj (hMade.symm.trans hFound)
      rw [← hConn]
      refine ⟨?_, hHere.symm, ?_⟩
      · intro hDown
        exact hServes.1 ((hChange.down conn).mp hDown)
      · rw [hSame]
        exact Function.update_self _ _ _
    · have hOld :
          before.cluster.connOf node other = some found := by
        by_cases hHere : node = before.cluster.home conn
        · have hKept := hChange.maps other
          rw [if_neg fun hSame => hNew ⟨hHere, hSame⟩]
            at hKept
          rw [hHere] at hFound ⊢
          exact hKept.symm.trans hFound
        · exact (hApart.maps node hHere other).symm.trans
            hFound
      have hPlaced :=
        hConsistent.placed node hNode other found hOld
      refine ⟨?_, hPlaced.2.1, ?_⟩
      · intro hDown
        exact hPlaced.1 ((hChange.down found).mp hDown)
      · by_cases hConn : found = conn
        · rw [hConn] at hPlaced ⊢
          have hUser : other = user.id := by
            rcases hOwner with hNone | hSome
            · rw [hNone] at hPlaced
              simp at hPlaced
            · exact
                Option.some.inj
                  (hPlaced.2.2.symm.trans hSome)
          rw [hUser]
          exact Function.update_self _ _ _
        · exact
            (Function.update_of_ne hConn _ _).trans
              hPlaced.2.2

/- A user has left a node. -/
theorem Consistent.left
    (hConsistent : before.Consistent)
    {id : NodeId}
    (hId : id ∈ before.running)
    {userid : Int}
    (hRunning : after.running = before.running)
    (hOwner : after.owner = before.owner)
    (hAlone :
      ∀ other ∈ before.running,
        other ≠ id →
          before.cluster.connOf other userid = none)
    (hMaps :
      ∀ other,
        after.cluster.connOf id other =
          if other = userid then
            none
          else
            before.cluster.connOf id other)
    (hApart : Cluster.Apart id before.cluster after.cluster)
    (hUsers :
      after.cluster.db.users =
        before.cluster.db.users.updateState userid .offline)
    (hDown :
      ∀ node ∈ before.running,
        ∀ other conn,
          before.cluster.connOf node other = some conn →
            after.cluster.conns conn = .disconnected →
              other = userid ∨
                before.cluster.conns conn =
                  .disconnected) :
    after.Consistent := by
  apply hConsistent.replaced hId hRunning hAlone hMaps hApart
    hUsers
  · intro hEntry
    simp at hEntry
  · intro node hNode other conn hConn
    have hOld :
        other ≠ userid ∧
          before.cluster.connOf node other = some conn := by
      by_cases hHere : node = id
      · rw [hHere, hMaps] at hConn
        split at hConn
        · simp at hConn
        · rename_i hOther
          exact ⟨hOther, hHere ▸ hConn⟩
      · rw [hApart.maps node hHere] at hConn
        refine ⟨?_, hConn⟩
        intro hSame
        rw [hSame, hAlone node hNode hHere] at hConn
        simp at hConn
    have hPlaced :=
      hConsistent.placed node hNode other conn hOld.2
    rw [hOwner]
    refine ⟨?_, hPlaced.2⟩
    intro hDisconnected
    rcases hDown node hNode other conn hOld.2 hDisconnected
      with hSame | hBefore
    · exact hOld.1 hSame
    · exact hPlaced.1 hBefore

/- A logout. -/
theorem consistent_loginout
    (hConsistent : before.Consistent)
    {conn : ConnId}
    {js : JsonObject}
    (hServes : before.Serves conn)
    (hSpares :
      before.SparesOthers (.loginout conn js)) :
    (before.execute env conn
      (ChatServer.guarded conn
        (ChatService.loginout js))).Consistent := by
  have hApart :=
    Cluster.execute_apart env (before.cluster.home conn)
      (ChatServer.guarded conn (ChatService.loginout js))
      before.cluster
  cases hUser : (js.field "id").getInt with
  | error error =>
      refine
        consistent_remains hConsistent rfl rfl hApart.home ?_
      apply remains_guarded
      rw [Cluster.loginout_of_error env hUser]
      exact Cluster.remains_refl _
  | ok userid =>
      have hAlone :
          ∀ other ∈ before.running,
            other ≠ before.cluster.home conn →
              before.cluster.connOf other userid = none := by
        apply hSpares
        unfold loginoutId
        rw [hUser]
        rfl
      have hChange :
          Cluster.EntryChange (before.cluster.home conn)
            userid none before.cluster
            (before.cluster.execute env
              (before.cluster.home conn)
              (ChatServer.guarded conn
                (ChatService.loginout js))) :=
        change_guarded env conn
          (Cluster.change_loginout env hUser)
      refine
        hConsistent.left hServes.2 rfl rfl hAlone
          hChange.maps hApart hChange.users ?_
      intro node hNode other found hFound hDisconnected
      exact Or.inr ((hChange.down found).mp hDisconnected)

/- A closing. -/
theorem consistent_close
    (hConsistent : before.Consistent)
    {conn : ConnId}
    (hServes : before.Serves conn) :
    (execute env
      { before with
        cluster := before.cluster.disconnect conn }
      conn (ChatServer.onConnection conn)).Consistent := by
  have hApart :=
    Cluster.execute_apart env (before.cluster.home conn)
      (ChatServer.onConnection conn)
      (before.cluster.disconnect conn)
  rcases Cluster.firstUserOf_cases before.cluster
      (before.cluster.home conn) conn with
    ⟨userid, hFirst, hUser⟩ | ⟨hFirst, hNobody⟩
  · have hCloses :
        Cluster.Closes (before.cluster.home conn) userid conn
          before.cluster
          ((before.cluster.disconnect conn).execute env
            (before.cluster.home conn)
            (ChatServer.onConnection conn)) := by
      apply
        Cluster.onConnection_invariant env
          (Cluster.Closes (before.cluster.home conn) userid
            conn before.cluster)
      · exact
          Cluster.closes_clientCloseException env hFirst
            (hConsistent.has hServes.2 hUser)
      · intro after hAfter
        exact
          hAfter.remains
            (Cluster.remains_shutdown after conn)
    have hAlone :
        ∀ other ∈ before.running,
          other ≠ before.cluster.home conn →
            before.cluster.connOf other userid = none := by
      intro other hOther hElsewhere
      cases hFound : before.cluster.connOf other userid with
      | none => rfl
      | some found =>
          exact
            absurd
              (hConsistent.unique _ hServes.2 other hOther
                userid conn found hUser hFound)
              hElsewhere
    refine
      hConsistent.left hServes.2 rfl rfl hAlone hCloses.maps
        ⟨hApart.maps, hApart.home⟩ hCloses.users ?_
    intro node hNode other found hFound hDisconnected
    rcases (hCloses.down found).mp hDisconnected with
      hHere | hBefore
    · rw [hHere] at hFound
      exact
        Or.inl
          (hConsistent.user_unique hServes.2 hNode hUser
            hFound)
    · exact Or.inr hBefore
  · have hRemains :
        Cluster.Remains (before.cluster.disconnect conn)
          ((before.cluster.disconnect conn).execute env
            (before.cluster.home conn)
            (ChatServer.onConnection conn)) := by
      apply
        Cluster.onConnection_invariant env
          (Cluster.Remains (before.cluster.disconnect conn))
      · rw [Cluster.clientCloseException_of_none env
          (show
            (before.cluster.disconnect conn).firstUserOf
              (before.cluster.home conn) conn = none
            from hFirst)]
        exact Cluster.remains_refl _
      · intro after hAfter
        exact
          hAfter.trans (Cluster.remains_shutdown after conn)
    refine
      hConsistent.unchanged rfl rfl hApart.home
        hRemains.maps hRemains.users ?_
    intro node hNode other found hFound hDisconnected
    have hDown := (hRemains.down found).mp hDisconnected
    rcases (Cluster.conns_disconnect _ _ _).mp hDown with
      hHere | hBefore
    · rw [hHere] at hFound
      have hPlaced :=
        hConsistent.placed node hNode other conn hFound
      rw [← hPlaced.2.1] at hFound
      exact absurd hFound (hNobody other)
    · exact hBefore

/- A shutdown while the other nodes serve nobody. -/
theorem consistent_stop
    {id : NodeId}
    (hSpares : before.SparesOthers (.shutdown id)) :
    (stop
      { before with
        cluster :=
          before.cluster.execute env id ChatService.reset }
      id).Consistent := by
  have hUnmapped :
      ∀ other ∈ before.running.erase id,
        ∀ userid,
          before.cluster.connOf other userid = none := by
    intro other hOther userid
    have hEmpty :=
      hSpares other (Finset.mem_of_mem_erase hOther)
        (Finset.ne_of_mem_erase hOther)
    unfold Cluster.connOf AList.lookup
    rw [hEmpty]
    rfl
  constructor
  · intro userid
    have hState :
        (before.cluster.db.users.resetState.query
          userid).state ≠ .online := by
      rw [UserTable.state_resetState]
      simp
    constructor
    · exact fun hOnline => absurd hOnline hState
    · intro hMapped
      rcases hMapped with ⟨other, hOther, conn, hConn⟩
      have hNone := hUnmapped other hOther userid
      exact absurd (hConn.symm.trans hNone) (by simp)
  · intro other hOther third _ userid first _ hFirst
    have hNone := hUnmapped other hOther userid
    exact absurd (hFirst.symm.trans hNone) (by simp)
  · intro other hOther userid conn hConn
    have hNone := hUnmapped other hOther userid
    exact absurd (hConn.symm.trans hNone) (by simp)

/- A new iteration order. -/
theorem consistent_setMap
    (hConsistent : before.Consistent)
    {id : NodeId}
    {userConnMap : UserConnMap}
    (hPerm :
      userConnMap.entries.Perm
        (before.cluster.nodes id).userConnMap.entries) :
    Consistent
      { before with
        cluster := before.cluster.setMap id userConnMap } := by
  refine
    consistent_remains hConsistent rfl rfl rfl
      { maps := ?_
        users := rfl
        down := fun _ => Iff.rfl }
  intro other userid
  by_cases hHere : other = id
  · rw [hHere, Cluster.connOf_setMap_self]
    exact AList.perm_lookup hPerm
  · exact
      (Cluster.apart_setNode before.cluster id _).maps other
        hHere userid

/- Every event keeps the invariant. -/
theorem consistent_step
    {event : DeploymentEvent}
    (hConsistent : before.Consistent)
    (hDisciplined : before.Disciplined env event)
    (hSpares : before.SparesOthers event)
    (hStep : before.step env event = some after) :
    after.Consistent := by
  cases event with
  | login conn js =>
      simp only [step] at hStep
      split at hStep
      · rename_i hServes
        rw [← Option.some.inj hStep]
        cases hLogin :
            Cluster.loggingIn env before.cluster js with
        | some user =>
            exact
              consistent_login env hConsistent hServes hLogin
                (hDisciplined user hLogin)
        | none =>
            have hApart :=
              Cluster.execute_apart env
                (before.cluster.home conn)
                (ChatServer.guarded conn
                  (ChatService.login env conn js))
                before.cluster
            refine
              consistent_remains hConsistent rfl rfl
                hApart.home ?_
            apply remains_guarded
            rcases Cluster.execute_login_of_none env conn
                hLogin with ⟨handler, hQuiet, hSame⟩
            rw [hSame]
            exact Cluster.remains_execute env hQuiet
      · simp at hStep
  | loginout conn js =>
      simp only [step] at hStep
      split at hStep
      · rename_i hServes
        rw [← Option.some.inj hStep]
        exact
          consistent_loginout env hConsistent hServes hSpares
      · simp at hStep
  | close conn =>
      simp only [step] at hStep
      split at hStep
      · rename_i hServes
        rw [← Option.some.inj hStep]
        exact consistent_close env hConsistent hServes
      · simp at hStep
  | shutdown id =>
      simp only [step] at hStep
      split at hStep
      · rw [← Option.some.inj hStep]
        exact consistent_stop env hSpares
      · simp at hStep
  | rehash id userConnMap =>
      simp only [step] at hStep
      split at hStep
      · rename_i hPerm
        rw [← Option.some.inj hStep]
        exact consistent_setMap hConsistent hPerm
      · simp at hStep

/- A user who is served and offline. -/
theorem not_one_node
    {userid : Int}
    {id : NodeId}
    (hOffline :
      (after.cluster.db.users.query userid).state = .offline)
    (hServes : after.ServesUser userid id)
    (hOnly :
      ∀ other, after.ServesUser userid other → other = id) :
    ¬ after.OnlineMeansOneNode := by
  intro hOneNode
  have hOnline :=
    (hOneNode userid).mpr ⟨id, hServes, hOnly⟩
  simp [hOffline] at hOnline

/- A shutdown strands the users of the other nodes. -/
theorem spares_of_stop
    (hConsistent : before.Consistent)
    {id : NodeId}
    (hOneNode :
      (stop
        { before with
          cluster :=
            before.cluster.execute env id
              ChatService.reset }
        id).OnlineMeansOneNode) :
    before.SparesOthers (.shutdown id) := by
  intro other hOther hNe
  cases hEntries :
      (before.cluster.nodes other).userConnMap.entries with
  | nil => rfl
  | cons entry rest =>
      rcases entry with ⟨userid, conn⟩
      have hConn :
          before.cluster.connOf other userid = some conn := by
        apply AList.mem_lookup_iff.mpr
        rw [hEntries]
        exact List.mem_cons_self
      have hPlaced :=
        hConsistent.placed other hOther userid conn hConn
      refine absurd hOneNode (@not_one_node _ userid other ?_ ?_ ?_)
      · exact UserTable.state_resetState _ userid
      · refine
          ⟨Finset.mem_erase.mpr ⟨hNe, hOther⟩, conn, hConn,
            ?_⟩
        intro hDown
        have hKept :
            (if before.cluster.home conn = id then
                ConnState.disconnected
              else
                before.cluster.conns conn) =
              .disconnected :=
          hDown
        rw [if_neg (hPlaced.2.1 ▸ hNe)] at hKept
        exact hPlaced.1 hKept
      · intro third hThird
        rcases hThird with ⟨hRunning, found, hFound, _⟩
        exact
          hConsistent.unique other hOther third
            (Finset.mem_of_mem_erase hRunning) userid conn
            found hConn hFound

/- So does a logout with a user of another node. -/
theorem spares_of_loginout
    (hConsistent : before.Consistent)
    {conn : ConnId}
    {js : JsonObject}
    (hOneNode :
      (before.execute env conn
        (ChatServer.guarded conn
          (ChatService.loginout js))).OnlineMeansOneNode) :
    before.SparesOthers (.loginout conn js) := by
  intro userid hUserid other hOther hNe
  have hUser : (js.field "id").getInt = .ok userid := by
    unfold loginoutId at hUserid
    cases hId : (js.field "id").getInt with
    | error error => simp [hId, Except.toOption] at hUserid
    | ok found =>
        rw [hId] at hUserid
        exact congrArg Except.ok (Option.some.inj hUserid)
  cases hConn : before.cluster.connOf other userid with
  | none => rfl
  | some mapped =>
      have hPlaced :=
        hConsistent.placed other hOther userid mapped hConn
      have hChange :
          Cluster.EntryChange (before.cluster.home conn)
            userid none before.cluster
            (before.cluster.execute env
              (before.cluster.home conn)
              (ChatServer.guarded conn
                (ChatService.loginout js))) :=
        change_guarded env conn
          (Cluster.change_loginout env hUser)
      have hApart :=
        Cluster.execute_apart env (before.cluster.home conn)
          (ChatServer.guarded conn (ChatService.loginout js))
          before.cluster
      refine absurd hOneNode (@not_one_node _ userid other ?_ ?_ ?_)
      · refine (congrArg
          (fun users => (UserTable.query users userid).state)
          hChange.users).trans ?_
        refine
          (UserTable.state_updateState_offline _ _ _).trans ?_
        exact if_pos rfl
      · refine
          ⟨hOther, mapped,
            (hApart.maps other hNe userid).trans hConn, ?_⟩
        intro hDown
        exact hPlaced.1 ((hChange.down mapped).mp hDown)
      · intro third hThird
        rcases hThird with ⟨hRunning, found, hFound, _⟩
        by_cases hHere : third = before.cluster.home conn
        · have hGone := hChange.maps userid
          rw [if_pos rfl] at hGone
          rw [hHere] at hFound
          exact absurd (hFound.symm.trans hGone) (by simp)
        · have hOld :=
            (hApart.maps third hHere userid).symm.trans hFound
          exact
            hConsistent.unique other hOther third hRunning
              userid mapped found hConn hOld

/- The condition is exact: of the disciplined events, those
that spare the other nodes are the ones after which online
still means one node. -/
theorem one_node_step_iff
    {event : DeploymentEvent}
    (hConsistent : before.Consistent)
    (hDisciplined : before.Disciplined env event)
    (hStep : before.step env event = some after) :
    after.OnlineMeansOneNode ↔ before.SparesOthers event := by
  constructor
  · intro hOneNode
    cases event with
    | loginout conn js =>
        simp only [step] at hStep
        split at hStep
        · rw [← Option.some.inj hStep] at hOneNode
          exact spares_of_loginout env hConsistent hOneNode
        · simp at hStep
    | shutdown id =>
        simp only [step] at hStep
        split at hStep
        · rw [← Option.some.inj hStep] at hOneNode
          exact spares_of_stop env hConsistent hOneNode
        · simp at hStep
    | _ => trivial
  · intro hSpares
    exact
      (consistent_step env hConsistent hDisciplined hSpares
        hStep).one_node

end Events

------------------------------------------------------------
-- Whole Runs
------------------------------------------------------------

/- Nobody is online, and nobody is mapped. -/
theorem consistent_start
    {start : Deployment}
    (hOffline :
      ∀ user ∈ start.cluster.db.users.rows,
        user.state = .offline)
    (hEmpty :
      ∀ id ∈ start.running,
        (start.cluster.nodes id).userConnMap = ∅) :
    start.Consistent := by
  have hUnmapped :
      ∀ id ∈ start.running,
        ∀ userid, start.cluster.connOf id userid = none := by
    intro id hId userid
    unfold Cluster.connOf
    rw [hEmpty id hId]
    exact AList.lookup_empty userid
  constructor
  · intro userid
    have hState :
        (start.cluster.db.users.query userid).state =
          .offline := by
      by_cases hHas : start.cluster.db.users.Has userid
      · rcases hHas with ⟨user, hMember, rfl⟩
        rw [UserTable.query_of_mem hMember]
        exact hOffline user hMember
      · rw [UserTable.query_of_missing hHas]
    rw [hState]
    constructor
    · intro hOnline
      simp at hOnline
    · intro hMapped
      rcases hMapped with ⟨id, hId, conn, hConn⟩
      simp [hUnmapped id hId] at hConn
  · intro id hId other _ userid first _ hFirst
    simp [hUnmapped id hId] at hFirst
  · intro id hId userid conn hConn
    simp [hUnmapped id hId] at hConn

/-
  From a start where every user is offline and every map is
  empty, online means one node after every sequence of
  disciplined events that spare the other nodes.
-/
theorem online_means_one_node
    (env : Externals)
    {start final : Deployment}
    {events : List DeploymentEvent}
    (hOffline :
      ∀ user ∈ start.cluster.db.users.rows,
        user.state = .offline)
    (hEmpty :
      ∀ id ∈ start.running,
        (start.cluster.nodes id).userConnMap = ∅)
    (hRun :
      Transition.Run (step env)
        (fun deployment event =>
          deployment.Disciplined env event ∧
            deployment.SparesOthers event)
        start events final) :
    final.OnlineMeansOneNode := by
  have hFinal :=
    hRun.invariant Consistent
      (fun _ _ _ hBefore hMet hStep =>
        consistent_step env hBefore hMet.1 hMet.2 hStep)
      (consistent_start hOffline hEmpty)
  exact hFinal.one_node

/- Two nodes; connection 7 ends at the second one. -/
def twoNodes : Deployment where
  cluster :=
    { sampleCluster [] with
      home := fun conn => if conn = 7 then 2 else 1 }
  running := {1, 2}
  owner := fun _ => none

/- A shutdown after the only user has logged out. -/
def shutdownWhenEmpty : List DeploymentEvent :=
  [.login 5 (sampleLogin "ann"),
    .loginout 5 [("id", .integer 1)], .shutdown 2]

/- A shutdown of the node that serves nobody, while the other
one serves a user. -/
def shutdownOfOther : List DeploymentEvent :=
  [.login 5 (sampleLogin "ann"), .shutdown 2]

theorem shutdownWhenEmpty_one_node :
    ∃ final,
      Transition.Run (step (sampleExternals []))
          (fun deployment event =>
            deployment.Disciplined (sampleExternals [])
                event ∧
              deployment.SparesOthers event)
          twoNodes shutdownWhenEmpty final ∧
        final.OnlineMeansOneNode := by
  have hRun :=
    Transition.exists_run_of_execute
      (step (sampleExternals []))
      (fun deployment event =>
        deployment.Disciplined (sampleExternals []) event ∧
          deployment.SparesOthers event)
      (fun _ => True)
      (show
        ∃ final ∈
          Transition.execute (step (sampleExternals []))
            (fun deployment event =>
              deployment.Disciplined (sampleExternals [])
                  event ∧
                deployment.SparesOthers event)
            twoNodes shutdownWhenEmpty,
          True by decide +kernel)
  rcases hRun with ⟨final, hRun, _⟩
  exact
    ⟨final, hRun,
      online_means_one_node (sampleExternals []) (by decide)
        (by intro id _; rfl) hRun⟩

/- The only node that is running maps a user who is offline
in the table. -/
def Stranded
    (userid : Int)
    (id : NodeId)
    (conn : ConnId)
    (deployment : Deployment) : Prop :=
  (deployment.cluster.db.users.query userid).state =
      .offline ∧
    deployment.running = {id} ∧
      deployment.cluster.connOf id userid = some conn ∧
        deployment.cluster.conns conn ≠ .disconnected

instance
    (userid : Int)
    (id : NodeId)
    (conn : ConnId) :
    DecidablePred (Stranded userid id conn) :=
  fun _ =>
    inferInstanceAs (Decidable (_ ∧ _ ∧ _ ∧ _))

/- The shutdown of node 2 sets the user of node 1 offline. -/
theorem shutdownOfOther_strands :
    (∀ user ∈ twoNodes.cluster.db.users.rows,
      user.state = .offline) ∧
    (∀ id ∈ twoNodes.running,
      (twoNodes.cluster.nodes id).userConnMap = ∅) ∧
    ∃ final,
      Transition.Run (step (sampleExternals []))
          (Disciplined (sampleExternals [])) twoNodes
          shutdownOfOther final ∧
        ¬ final.OnlineMeansOneNode := by
  refine ⟨by decide, fun _ _ => rfl, ?_⟩
  have hRun :=
    Transition.exists_run_of_execute
      (step (sampleExternals []))
      (Disciplined (sampleExternals [])) (Stranded 1 1 5)
      (show
        ∃ final ∈
          Transition.execute (step (sampleExternals []))
            (Disciplined (sampleExternals [])) twoNodes
            shutdownOfOther,
          Stranded 1 1 5 final by decide +kernel)
  rcases hRun with ⟨final, hRun, hStranded⟩
  rcases hStranded with ⟨hOffline, hRunning, hConn, hOpen⟩
  refine ⟨final, hRun, ?_⟩
  refine @not_one_node _ 1 1 hOffline ?_ ?_
  · refine ⟨?_, 5, hConn, hOpen⟩
    rw [hRunning]
    exact Finset.mem_singleton_self 1
  · intro other hOther
    have hMember := hOther.1
    rw [hRunning] at hMember
    exact Finset.mem_singleton.mp hMember

end Deployment

end ClusterChat
