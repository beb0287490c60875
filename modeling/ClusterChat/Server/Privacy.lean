import ClusterChat.Server.WriteOrder
import ClusterChat.Server.Copies
import ClusterChat.Server.Evidence
import ClusterChat.Server.Subscriptions

/-
  Nobody reads what is for somebody else.

  In every run, a connection is found for a user only after
  the user has logged in on it.  What is written to a
  connection is for a user of this connection, or it answers
  a login or a registration and tells no other user's data.

  Main declarations:
    * `Observer.PassesOn`
    * `History.Guarded` and `History.guarded_step`
    * `World.sessions_are_authenticated`
    * `World.nobody_reads_along`
-/

------------------------------------------------------------
-- One Operation
------------------------------------------------------------

namespace ClusterChat

/- What is called with a published message gets the user of
the channel, or an id that nobody has. -/
structure Observer.PassesOn
    (observer : Observer) : Prop
    extends Observer.PassesText observer where
  channel :
    ∀ channel message userid text,
      observer
            (Redis.messageReply (Redis.channelName channel)
              message) =
          some (userid, text) →
        userid = channel ∨ userid ≤ 0

theorem passesOn_observe :
    Observer.PassesOn Redis.observe where
  toPassesText := passesText_observe
  channel := by
    intro channel message userid text hRead
    have hBoth :
        some ((0 : Int), cString message) =
          some (userid, text) :=
      hRead
    exact
      Or.inr
        (le_of_eq
          (congrArg Prod.fst (Option.some.inj hBoth)).symm)

namespace Cluster

/- Every reply was there, or it brings what is published. -/
theorem replies_of_answer
    {env : Externals}
    {node : NodeId}
    {op : ServerOp}
    {cluster : Cluster}
    {entry : NodeId × RedisReply}
    (hEntry :
      entry ∈ (cluster.answer env node op).2.replies) :
    entry ∈ cluster.replies ∨
      ∃ channel message,
        op = .publish channel message ∧
          entry.2 =
            Redis.messageReply (Redis.channelName channel)
              (cString message) := by
  by_cases hKeeps : op.PublishesNothing
  · rw [(answer_keeps env node op cluster).replies hKeeps]
      at hEntry
    exact Or.inl hEntry
  cases op with
  | publish channel message =>
      simp only [answer] at hEntry
      split at hEntry
      · rcases List.mem_append.mp hEntry with hOld | hNew
        · exact Or.inl hOld
        · rcases List.mem_map.mp hNew with ⟨_, _, hSent⟩
          rw [← hSent]
          exact Or.inr ⟨channel, message, rfl, rfl⟩
      · exact Or.inl hEntry
  | _ => exact absurd trivial hKeeps

end Cluster

namespace Evidence

variable {env : Externals} {evidence : Evidence}

/- The operation takes nothing back. -/
theorem grows_answer
    (env : Externals)
    (id : NodeId)
    (op : ServerOp)
    (cluster : Cluster)
    (start : Database)
    {labels later : List Label}
    (hLabels : labels ⊆ later) :
    Grows ⟨start, labels, cluster.db⟩
      ⟨start, later, (cluster.answer env id op).2.db⟩ := by
  have hSame :
      op.KeepsTables →
        Grows ⟨start, labels, cluster.db⟩
          ⟨start, later,
            (cluster.answer env id op).2.db⟩ := by
    intro hKeeps
    rw [Cluster.db_answer env id hKeeps]
    exact
      ⟨rfl, hLabels, List.prefix_rfl, List.prefix_rfl,
        List.prefix_rfl, List.prefix_rfl⟩
  cases op with
  | insertUser user =>
      simp only [Cluster.answer, UserTable.insert]
      split
      · rename_i userid users hInsert
        split at hInsert
        · cases hInsert
        · have hUsers :=
            congrArg Prod.snd (Option.some.inj hInsert)
          refine
            ⟨rfl, hLabels, ?_, List.prefix_rfl,
              List.prefix_rfl, List.prefix_rfl⟩
          unfold Cluster.setUsers Cluster.setDb
          dsimp only at hUsers ⊢
          rw [← hUsers]
          unfold UserTable.append
          rw [List.map_append]
          exact List.prefix_append _ _
      · exact
          ⟨rfl, hLabels, List.prefix_rfl, List.prefix_rfl,
            List.prefix_rfl, List.prefix_rfl⟩
  | updateState userid state =>
      refine
        ⟨rfl, hLabels, ?_, List.prefix_rfl,
          List.prefix_rfl, List.prefix_rfl⟩
      have hAccounts :=
        Database.accounts_withStates cluster.db.users
          fun user =>
            if user.id = userid then state else user.state
      exact hAccounts ▸ List.prefix_rfl
  | resetState =>
      refine
        ⟨rfl, hLabels, ?_, List.prefix_rfl,
          List.prefix_rfl, List.prefix_rfl⟩
      have hAccounts :=
        Database.accounts_withStates cluster.db.users
          fun user =>
            if user.state = .online then
              .offline
            else
              user.state
      exact hAccounts ▸ List.prefix_rfl
  | insertOffline userid msg =>
      exact
        ⟨rfl, hLabels, List.prefix_rfl, List.prefix_rfl,
          List.prefix_rfl, List.prefix_rfl⟩
  | removeOffline userid =>
      exact
        ⟨rfl, hLabels, List.prefix_rfl, List.prefix_rfl,
          List.prefix_rfl, List.prefix_rfl⟩
  | insertFriend userid friendid =>
      exact
        ⟨rfl, hLabels, List.prefix_rfl,
          List.prefix_append _ _, List.prefix_rfl,
          List.prefix_rfl⟩
  | createGroupWithCreator groupname groupdesc creator =>
      exact
        ⟨rfl, hLabels, List.prefix_rfl, List.prefix_rfl,
          List.prefix_append _ _, List.prefix_append _ _⟩
  | addGroup userid groupid role =>
      exact
        ⟨rfl, hLabels, List.prefix_rfl, List.prefix_rfl,
          List.prefix_rfl, List.prefix_append _ _⟩
  | _ => exact hSame trivial

/- A user who has logged in has an account. -/
theorem LoggedIn.positive
    {conn : ConnId}
    {userid : Int}
    (hLoggedIn : evidence.LoggedIn env conn userid) :
    0 < userid := by
  rcases hLoggedIn with
    ⟨_, _, _, _, _, _, user, hUser, hId, _⟩
  rw [← hId]
  exact evidence.db.users.positive user hUser

/- Every connection that is found has a login. -/
def TrustsMaps
    (env : Externals)
    (evidence : Evidence)
    (cluster : Cluster) : Prop :=
  ∀ id userid conn,
    cluster.connOf id userid = some conn →
      evidence.LoggedIn env conn userid

/- Every stored text is for the user it is stored for. -/
def TrustsTable
    (env : Externals)
    (evidence : Evidence)
    (db : Database) : Prop :=
  ∀ userid text,
    0 < userid →
      OfflineMessageModel.Stored db userid text →
        evidence.Addressed env userid text

theorem TrustsMaps.mono
    {later : Evidence}
    {cluster : Cluster}
    (hMaps : evidence.TrustsMaps env cluster)
    (hGrows : Grows evidence later) :
    later.TrustsMaps env cluster :=
  fun id userid conn hConn =>
    (hMaps id userid conn hConn).mono hGrows

/- The answers of all operations are backed. -/
theorem reads_answer
    {cluster : Cluster}
    (hDb : evidence.db = cluster.db)
    (hMaps : evidence.TrustsMaps env cluster)
    (hTable : evidence.TrustsTable env cluster.db)
    (id : NodeId)
    (op : ServerOp) :
    evidence.Reads env op (cluster.answer env id op).1 := by
  cases op with
  | findConn userid => exact fun conn => hMaps id userid conn
  | findConns userids =>
      exact fun userid conn => hMaps id userid conn
  | queryUserByName name =>
      intro hId
      unfold Cluster.answer at hId ⊢
      dsimp only at hId ⊢
      unfold UserTable.queryByName at hId ⊢
      cases hFound :
          cluster.db.users.rows.find? fun user =>
            env.collate user.name = env.collate name with
      | none =>
          rw [hFound] at hId
          exact absurd rfl hId
      | some user =>
          have hSame := List.find?_some hFound
          rw [hDb]
          exact
            ⟨user, List.mem_of_find?_eq_some hFound, rfl,
              of_decide_eq_true hSame⟩
  | queryOffline userid =>
      intro hPositive msg hMsg
      exact
        hTable userid msg hPositive
          (OfflineMessageModel.mem_query_iff.mp hMsg)
  | queryGroupUsers sender groupid =>
      intro userid hUser
      rw [hDb]
      exact hUser
  | queryFriends userid =>
      intro friend hFriend
      rcases List.mem_flatMap.mp hFriend with
        ⟨row, hRow, hUser⟩
      rcases List.mem_filter.mp hRow with ⟨hMember, hFirst⟩
      rcases List.mem_filter.mp hUser with ⟨hTabled, hSecond⟩
      rw [hDb, of_decide_eq_true hSecond,
        ← of_decide_eq_true hFirst]
      refine ⟨hMember, ?_⟩
      unfold Known
      rw [hDb]
      exact List.mem_map_of_mem hTabled
  | queryGroupsOf userid =>
      intro group hGroup
      rcases List.mem_flatMap.mp hGroup with
        ⟨row, hRow, hFound⟩
      rcases List.mem_filter.mp hRow with ⟨hMember, hUser⟩
      rcases List.mem_filter.mp hFound with ⟨hTabled, hId⟩
      rw [hDb]
      refine ⟨hTabled, ?_⟩
      rw [of_decide_eq_true hId, ← of_decide_eq_true hUser]
      exact List.mem_map.mpr ⟨row, hMember, rfl⟩
  | queryMembersOf groupid =>
      intro member hMember
      rcases List.mem_flatMap.mp hMember with
        ⟨row, hRow, hFound⟩
      rcases List.mem_filter.mp hRow with ⟨hListed, hGroup⟩
      rcases List.mem_map.mp hFound with
        ⟨user, hUser, rfl⟩
      rcases List.mem_filter.mp hUser with ⟨hTabled, hId⟩
      dsimp only
      rw [hDb, of_decide_eq_true hId,
        ← of_decide_eq_true hGroup]
      refine ⟨hListed, ?_⟩
      unfold Known
      rw [hDb]
      exact List.mem_map_of_mem hTabled
  | _ => trivial

end Evidence

------------------------------------------------------------
-- The Invariant
------------------------------------------------------------

namespace History

variable {env : Externals} {observer : Observer}
variable {start : Database}

/- The evidence that a run has left. -/
def evidence
    (start : Database)
    (labels : List Label)
    (history : History) : Evidence where
  start := start
  labels := labels
  db := history.world.cluster.db

/- A handler and the evidence for what it was started with. -/
inductive Origin
    (env : Externals)
    (evidence : Evidence) : Thread → Prop where
| frame
    (node : NodeId) (conn : ConnId)
    (body : String) (readings : Readings)
    (came :
      Label.frame conn body readings ∈ evidence.labels) :
    Origin env evidence
      { node := node
        source := .connection conn
        process := ChatServer.onMessage env conn body readings }
| closing (node : NodeId) (conn : ConnId) :
    Origin env evidence
      { node := node
        source := .connection conn
        process := ChatServer.onConnection conn }
| notify
    (node : NodeId) (userid : Int) (msg : String)
    (addressed :
      0 < userid → evidence.Addressed env userid msg) :
    Origin env evidence
      { node := node
        source := .subscription node
        process :=
          ChatService.handleredissubscribemessage userid
            msg }

theorem Origin.mono
    {earlier later : Evidence}
    {thread : Thread}
    (hOrigin : Origin env earlier thread)
    (hGrows : Evidence.Grows earlier later) :
    Origin env later thread := by
  cases hOrigin with
  | frame node conn body readings came =>
      exact
        Origin.frame node conn body readings
          (hGrows.labels came)
  | closing node conn => exact Origin.closing node conn
  | notify node userid msg addressed =>
      exact
        Origin.notify node userid msg fun hPositive =>
          (addressed hPositive).mono hGrows

theorem Origin.safe
    (hNoNull : env.codec.PrintsNoNull)
    {evidence : Evidence}
    {thread : Thread}
    (hOrigin : Origin env evidence thread) :
    evidence.Safe env thread.process := by
  cases hOrigin with
  | frame node conn body readings came =>
      exact Evidence.safe_onMessage hNoNull came
  | closing node conn => exact Evidence.safe_onConnection conn
  | notify node userid msg addressed =>
      exact
        Evidence.safe_notify
          (fun _ hLoggedIn => hLoggedIn.positive) addressed

/-
  What is found, stored, or on its way is backed by the
  evidence, and so were all the answers.
-/
structure Guarded
    (env : Externals)
    (observer : Observer)
    (evidence : Evidence)
    (history : History) : Prop where
  db : evidence.db = history.world.cluster.db
  origins :
    ∀ thread ∈ history.started, Origin env evidence thread
  read :
    ∀ event ∈ history.events,
      evidence.Reads env event.op (event.answer env)
  found :
    ∀ event ∈ history.events,
      evidence.TrustsMaps env event.before
  maps : evidence.TrustsMaps env history.world.cluster
  table :
    evidence.TrustsTable env history.world.cluster.db
  flying :
    ∀ entry ∈ history.world.cluster.replies,
      ∀ userid text,
        observer entry.2 = some (userid, text) →
          0 < userid →
            evidence.Addressed env userid text

/- Whatever has been done was allowed. -/
theorem Guarded.allows
    (hNoNull : env.codec.PrintsNoNull)
    {evidence : Evidence}
    {history : History}
    (hOrigins :
      ∀ thread ∈ history.started,
        Origin env evidence thread)
    (hRead :
      ∀ event ∈ history.events,
        evidence.Reads env event.op (event.answer env))
    (hTraced : history.Traced env)
    {event : Event}
    (hEvent : event ∈ history.events) :
    evidence.Allows env event.op := by
  rcases hTraced.nodes event hEvent with ⟨origin, hOrigin, _⟩
  rcases hTraced.traced event.ticket origin hOrigin with
    ⟨final, hTrace⟩
  have hSafe :=
    (hOrigins origin (List.mem_of_getElem? hOrigin)).safe
      hNoNull
  have hStep :
      event.answered env ∈
        history.stepsOf env event.ticket :=
    mem_stepsOf_iff.mpr ⟨event, hEvent, rfl, rfl⟩
  refine Process.ensures_trace hTrace hSafe ?_ _ hStep
  intro step hMember
  rcases mem_stepsOf_iff.mp hMember with
    ⟨other, hOther, _, hAnswered⟩
  rw [← hAnswered]
  exact hRead other hOther

/- At the start, everything that is stored is old. -/
theorem guarded_begin
    {world : World}
    (hThreads : world.threads = [])
    (hMaps :
      ∀ id userid, world.cluster.connOf id userid = none)
    (hReplies : world.cluster.replies = []) :
    (begin world).Guarded env observer
      ((begin world).evidence world.cluster.db []) where
  db := rfl
  origins := by
    unfold begin
    rw [hThreads]
    exact List.forall_mem_nil _
  read := List.forall_mem_nil _
  found := List.forall_mem_nil _
  maps := by
    intro id userid conn hConn
    have hNone := hMaps id userid
    unfold begin at hConn
    rw [hNone] at hConn
    cases hConn
  table := fun userid text _ hStored => Or.inl hStored
  flying := by
    unfold begin
    rw [hReplies]
    exact List.forall_mem_nil _

section Steps

variable {before after : History}
variable {labels : List Label} {label : Label}

/- The record keeps what it had. -/
theorem Guarded.grows
    {earlier later : Evidence}
    (hBefore : before.Guarded env observer earlier)
    (hGrows : Evidence.Grows earlier later)
    (hDb : later.db = before.world.cluster.db) :
    before.Guarded env observer later where
  db := hDb
  origins := fun thread hThread =>
    (hBefore.origins thread hThread).mono hGrows
  read := fun event hEvent =>
    (hBefore.read event hEvent).mono hGrows
  found := fun event hEvent =>
    (hBefore.found event hEvent).mono hGrows
  maps := hBefore.maps.mono hGrows
  table := fun userid text hPositive hStored =>
    (hBefore.table userid text hPositive hStored).mono hGrows
  flying := fun entry hEntry userid text hRead hPositive =>
    (hBefore.flying entry hEntry userid text hRead
      hPositive).mono hGrows

theorem grows_label
    (history : History)
    (label : Label) :
    Evidence.Grows (history.evidence start labels)
      (history.evidence start (labels ++ [label])) where
  start := rfl
  labels := List.subset_append_left _ _
  accounts := List.prefix_rfl
  friends := List.prefix_rfl
  groups := List.prefix_rfl
  groupUsers := List.prefix_rfl

theorem Guarded.spawn
    {cluster : Cluster}
    {thread : Thread}
    (hBefore :
      before.Guarded env observer
        (before.evidence start (labels ++ [label])))
    (hSpawns :
      Spawns env observer before.world label cluster
        thread) :
    (before.spawn cluster thread).Guarded env observer
      ((before.spawn cluster thread).evidence start
        (labels ++ [label])) := by
  have hEvidence :
      (before.spawn cluster thread).evidence start
          (labels ++ [label]) =
        before.evidence start (labels ++ [label]) := by
    unfold evidence History.spawn
    dsimp only
    rw [db_of_spawns hSpawns]
  rw [hEvidence]
  have hOrigin :
      Origin env
        (before.evidence start (labels ++ [label]))
        thread := by
    cases hSpawns with
    | frame conn body readings serving idle =>
        exact
          Origin.frame _ conn body readings
            (List.mem_append_right _ List.mem_cons_self)
    | disconnect conn serving idle =>
        exact Origin.closing _ conn
    | @notify id reply rest userid msg idle found read =>
        refine Origin.notify id userid msg ?_
        exact
          hBefore.flying _ (mem_of_taken found).1 userid msg
            read
  refine
    { db := (db_of_spawns hSpawns).symm
      origins := ?origins
      read := hBefore.read
      found := hBefore.found
      maps := ?maps
      table := ?table
      flying := ?flying }
  case origins =>
    intro other hOther
    rcases List.mem_append.mp hOther with hOld | hNew
    · exact hBefore.origins other hOld
    · rw [List.mem_singleton.mp hNew]
      exact hOrigin
  case maps =>
    cases hSpawns <;> exact hBefore.maps
  case table =>
    have hDb : cluster.db = before.world.cluster.db :=
      db_of_spawns hSpawns
    unfold History.spawn
    dsimp only
    rw [hDb]
    exact hBefore.table
  case flying =>
    cases hSpawns with
    | frame conn body readings serving idle =>
        exact hBefore.flying
    | disconnect conn serving idle => exact hBefore.flying
    | notify id idle found read =>
        exact fun entry hEntry =>
          hBefore.flying entry
            ((mem_of_taken found).2 entry hEntry)

theorem Guarded.pass
    (hPasses : observer.PassesText)
    {cluster : Cluster}
    (hBefore :
      before.Guarded env observer
        (before.evidence start (labels ++ [label])))
    (hPass : Passes observer before.world label cluster) :
    (before.pass cluster).Guarded env observer
      ((before.pass cluster).evidence start
        (labels ++ [label])) := by
  have hDb := db_of_passes hPass
  have hEvidence :
      (before.pass cluster).evidence start
          (labels ++ [label]) =
        before.evidence start (labels ++ [label]) := by
    unfold evidence History.pass
    dsimp only
    rw [hDb]
  rw [hEvidence]
  refine
    { db := hDb.symm
      origins := hBefore.origins
      read := hBefore.read
      found := hBefore.found
      maps := ?maps
      table := ?table
      flying := ?flying }
  case maps =>
    cases hPass with
    | skip id found read => exact hBefore.maps
    | environment event =>
        intro id userid conn hConn
        unfold History.pass at hConn
        dsimp only at hConn
        rw [World.connOf_environment] at hConn
        exact hBefore.maps id userid conn hConn
  case table =>
    unfold History.pass
    dsimp only
    rw [hDb]
    exact hBefore.table
  case flying =>
    cases hPass with
    | skip id found read =>
        exact fun entry hEntry =>
          hBefore.flying entry
            ((mem_of_taken found).2 entry hEntry)
    | environment event =>
        intro entry hEntry userid text hRead
        rcases Cluster.environment_eq before.world.cluster
            event with
          ⟨nodes, subscriptions, confirmations, hSame,
            hConfirms⟩
        unfold History.pass at hEntry
        dsimp only at hEntry
        rw [hSame] at hEntry
        rcases List.mem_append.mp hEntry with hOld | hNew
        · exact hBefore.flying entry hOld userid text hRead
        · rcases hConfirms entry hNew with
            ⟨kind, channel, count, hConfirmation⟩
          rw [hConfirmation, hPasses.confirmation] at hRead
          cases hRead

theorem Guarded.perform
    (hPasses : observer.PassesOn)
    (hNoNull : env.codec.PrintsNoNull)
    (hTraced : before.Traced env)
    {index ticket : Nat}
    {thread : Thread}
    {op : ServerOp}
    {next : op.Res → Handler Unit}
    (hBefore :
      before.Guarded env observer
        (before.evidence start labels))
    (hRunning : before.world.threads[index]? = some thread)
    (hHeld : before.tickets[index]? = some ticket)
    (hDue : thread.process = .act op next) :
    (before.perform env index ticket thread op next).Guarded
      env observer
      ((before.perform env index ticket thread op
        next).evidence start (labels ++ [.run index])) := by
  let later : History :=
    before.perform env index ticket thread op next
  have hGrows :
      Evidence.Grows (before.evidence start labels)
        (later.evidence start (labels ++ [.run index])) :=
    Evidence.grows_answer env thread.node op
      before.world.cluster start
      (List.subset_append_left _ _)
  have hAnswer :=
    (Evidence.reads_answer hBefore.db hBefore.maps
      hBefore.table thread.node op).mono hGrows
  have hOrigins :
      ∀ other ∈ later.started,
        Origin env
          (later.evidence start (labels ++ [.run index]))
          other :=
    fun other hOther =>
      (hBefore.origins other hOther).mono hGrows
  have hRead :
      ∀ event ∈ later.events,
        (later.evidence start (labels ++ [.run index])).Reads
          env event.op (event.answer env) := by
    intro event hEvent
    rcases List.mem_append.mp hEvent with hOld | hNew
    · exact (hBefore.read event hOld).mono hGrows
    · rw [List.mem_singleton.mp hNew]
      exact hAnswer
  have hAllows :=
    Guarded.allows hNoNull hOrigins hRead
      (traced_perform hTraced hRunning hHeld hDue)
      (List.mem_append_right _ List.mem_cons_self)
  refine
    { db := rfl
      origins := hOrigins
      read := hRead
      found := ?found
      maps := ?maps
      table := ?table
      flying := ?flying }
  case found =>
    intro event hEvent
    rcases List.mem_append.mp hEvent with hOld | hNew
    · exact (hBefore.found event hOld).mono hGrows
    · rw [List.mem_singleton.mp hNew]
      exact hBefore.maps.mono hGrows
  case maps =>
    intro id userid conn hConn
    rcases Cluster.connOf_of_answer hConn with hOld | hInsert
    · exact (hBefore.maps id userid conn hOld).mono hGrows
    · rw [hInsert] at hAllows
      exact hAllows
  case table =>
    intro userid text hPositive hStored
    rcases (Cluster.stored_answer_iff env _ _ _ _ _).mp
        hStored with
      ⟨hOld, _⟩ | hInsert
    · exact
        (hBefore.table userid text hPositive hOld).mono hGrows
    · rw [hInsert] at hAllows
      exact hAllows hPositive
  case flying =>
    intro entry hEntry userid text hObserved hPositive
    rcases Cluster.replies_of_answer hEntry with
      hOld | ⟨channel, message, hPublish, hReply⟩
    · exact
        (hBefore.flying entry hOld userid text hObserved
          hPositive).mono hGrows
    · rw [hPublish] at hAllows
      rw [hReply] at hObserved
      have hText := hPasses.message _ _ _ _ hObserved
      rw [cString_cString, hAllows.2.cString_eq] at hText
      rcases hPasses.channel _ _ _ _ hObserved with
        hChannel | hNobody
      · rw [hText, hChannel]
        exact hAllows.1
      · omega

/- Every step of a run. -/
theorem guarded_step
    (hPasses : observer.PassesOn)
    (hNoNull : env.codec.PrintsNoNull)
    (hTraced : before.Traced env)
    (hBefore :
      before.Guarded env observer
        (before.evidence start labels))
    (hStep :
      before.step env observer label = some after) :
    after.Guarded env observer
      (after.evidence start (labels ++ [label])) := by
  have hLonger :=
    hBefore.grows (grows_label before label) rfl
  cases advance_of_step hTraced.aligned hStep with
  | spawn spawns => exact hLonger.spawn spawns
  | pass passes =>
      exact hLonger.pass hPasses.toPassesText passes
  | perform index running held due =>
      exact
        Guarded.perform hPasses hNoNull hTraced hBefore
          running held due
  | finish index running held done =>
      exact
        { db := hLonger.db
          origins := hLonger.origins
          read := hLonger.read
          found := hLonger.found
          maps := hLonger.maps
          table := hLonger.table
          flying := hLonger.flying }

end Steps

/- The whole run. -/
theorem guarded_run
    (hPasses : observer.PassesOn)
    (hNoNull : env.codec.PrintsNoNull)
    {world : World}
    (hThreads : world.threads = [])
    (hMaps :
      ∀ id userid, world.cluster.connOf id userid = none)
    (hReplies : world.cluster.replies = [])
    {labels : List Label}
    {final : History}
    (hRun :
      Transition.Run (step env observer) (fun _ _ => True)
        (begin world) labels final) :
    final.Traced env ∧
      final.Guarded env observer
        (final.evidence world.cluster.db labels) := by
  induction hRun with
  | nil =>
      exact
        ⟨traced_begin world,
          guarded_begin hThreads hMaps hReplies⟩
  | snoc front met stepped ih =>
      exact
        ⟨traced_step ih.1 stepped,
          guarded_step hPasses hNoNull ih.1 ih.2 stepped⟩

/- What was written to a connection was allowed there. -/
theorem Guarded.entitled
    (hNoNull : env.codec.PrintsNoNull)
    {evidence : Evidence}
    {history : History}
    (hGuarded : history.Guarded env observer evidence)
    (hTraced : history.Traced env)
    {conn : ConnId}
    {text : String}
    (hText : text ∈ history.framesOn conn) :
    evidence.Entitled env conn text := by
  rcases List.mem_filterMap.mp hText with
    ⟨event, hEvent, hFrame⟩
  have hAllows :=
    Guarded.allows hNoNull hGuarded.origins hGuarded.read
      hTraced hEvent
  unfold Performed.frameOn at hFrame
  split at hFrame
  · rename_i other body hOp
    split_ifs at hFrame with hWritten
    rw [hOp, hWritten.1, Option.some.inj hFrame] at hAllows
    exact hAllows
  · rename_i userid payload hOp
    split_ifs at hFrame with hWritten
    rw [hOp, Option.some.inj hFrame] at hAllows
    have hLoggedIn :=
      hGuarded.found event hEvent _ userid conn hWritten.1
    exact Or.inl ⟨userid, hLoggedIn, hAllows⟩
  · cases hFrame

end History

------------------------------------------------------------
-- Runs
------------------------------------------------------------

namespace World

variable {env : Externals} {observer : Observer}
variable {start final : World} {labels : List Label}

/- A connection stands for a user only after somebody has
logged in on it with the password of this user. -/
theorem sessions_are_authenticated
    (hPasses : observer.PassesOn)
    (hNoNull : env.codec.PrintsNoNull)
    (hThreads : start.threads = [])
    (hMaps :
      ∀ id userid, start.cluster.connOf id userid = none)
    (hReplies : start.cluster.replies = [])
    (hRun :
      Transition.Run (step env observer) (fun _ _ => True)
        start labels final)
    {id : NodeId}
    {userid : Int}
    {conn : ConnId}
    (hConn : final.cluster.connOf id userid = some conn) :
    Evidence.LoggedIn env
      ⟨start.cluster.db, labels, final.cluster.db⟩ conn
      userid := by
  rcases History.exists_run hRun with
    ⟨history, hHistory, rfl⟩
  rcases History.guarded_run hPasses hNoNull hThreads hMaps
      hReplies hHistory with
    ⟨_, hGuarded⟩
  exact hGuarded.maps id userid conn hConn

/- Everything that a run writes to a connection is for a user
who has logged in on it, or answers what came in there. -/
theorem nobody_reads_along
    (hPasses : observer.PassesOn)
    (hNoNull : env.codec.PrintsNoNull)
    (hThreads : start.threads = [])
    (hMaps :
      ∀ id userid, start.cluster.connOf id userid = none)
    (hReplies : start.cluster.replies = [])
    (hRun :
      Transition.Run (step env observer) (fun _ _ => True)
        start labels final)
    (conn : ConnId) :
    ∃ written,
      final.cluster.wire conn =
          start.cluster.wire conn ++ written ∧
        ∀ text ∈ written,
          Evidence.Entitled env
            ⟨start.cluster.db, labels, final.cluster.db⟩ conn
            text := by
  rcases History.exists_run hRun with
    ⟨history, hHistory, rfl⟩
  rcases History.guarded_run hPasses hNoNull hThreads hMaps
      hReplies hHistory with
    ⟨hTraced, hGuarded⟩
  refine
    ⟨history.framesOn conn,
      History.wire_of_run hHistory conn, ?_⟩
  exact fun text hText =>
    hGuarded.entitled hNoNull hTraced hText

------------------------------------------------------------
-- A Login and a Message
------------------------------------------------------------

def privacyExternals : Externals :=
  sampleExternals
    [.object (sampleLogin "ann"), .object (sampleChat 2 1)]

def privacyStart : World where
  cluster := sampleCluster []
  threads := []
  log := []

/- User 1 logs in, and user 2 writes to user 1. -/
def loginAndMessage : List Label :=
  [.frame 5 (Json.object (sampleLogin "ann")).text
      sampleReadings] ++
    List.replicate 9 (.run 0) ++
      [.frame 6 (Json.object (sampleChat 2 1)).text
          sampleReadings] ++
        List.replicate 3 (.run 0)

/- The user has an entry, and the connection carries the
answer and the message. -/
def HasRead (world : World) : Prop :=
  world.cluster.connOf 1 1 = some 5 ∧
    (world.cluster.wire 5).length = 2

instance : DecidablePred HasRead := fun world =>
  inferInstanceAs
    (Decidable
      (world.cluster.connOf 1 1 = some 5 ∧
        (world.cluster.wire 5).length = 2))

theorem exists_loginAndMessage :
    ∃ final,
      Transition.Run (step privacyExternals Redis.observe)
          (fun _ _ => True) privacyStart loginAndMessage
          final ∧
        HasRead final :=
  Transition.exists_run_of_execute
    (step privacyExternals Redis.observe) (fun _ _ => True)
    HasRead
    (show
      ∃ final ∈
        Transition.execute
          (step privacyExternals Redis.observe)
          (fun _ _ => True) privacyStart loginAndMessage,
        HasRead final by decide +kernel)

theorem loginAndMessage_authenticated :
    ∃ final,
      HasRead final ∧
        Evidence.LoggedIn privacyExternals
          ⟨privacyStart.cluster.db, loginAndMessage,
            final.cluster.db⟩ 5 1 := by
  rcases exists_loginAndMessage with ⟨final, hRun, hRead⟩
  exact
    ⟨final, hRead,
      sessions_are_authenticated passesOn_observe
        (JsonCodec.printsNoNull_ofTable _) rfl
        (fun _ _ => rfl) rfl hRun hRead.1⟩

theorem loginAndMessage_entitled :
    ∃ final,
      HasRead final ∧
        ∃ written,
          final.cluster.wire 5 =
              privacyStart.cluster.wire 5 ++ written ∧
            ∀ text ∈ written,
              Evidence.Entitled privacyExternals
                ⟨privacyStart.cluster.db, loginAndMessage,
                  final.cluster.db⟩ 5 text := by
  rcases exists_loginAndMessage with ⟨final, hRun, hRead⟩
  exact
    ⟨final, hRead,
      nobody_reads_along passesOn_observe
        (JsonCodec.printsNoNull_ofTable _) rfl
        (fun _ _ => rfl) rfl hRun 5⟩

end World

end ClusterChat
