import ClusterChat.Server.Cluster
import ClusterChat.Server.Indifference

/-
  Two clusters that differ in what one connection has done
  without a session.

  The connection may have been written to, it may have been
  shut down, and users may have been registered on it, whose
  ids the other database has left out.  The operations of the
  others get answers that are alike from both clusters, which
  go on differing in nothing else, unless they use the name
  of such a user or read a list that has one.

  Main declarations:
    * `Cluster.overlay`
    * `Cluster.Unseen`
    * `ServerOp.Avoids` and `Cluster.Unseen.answer`
    * `ServerOp.Own` and `Cluster.OwnEffect`
    * `Cluster.Absent`
-/

------------------------------------------------------------
-- Clusters with Other Users and Connections
------------------------------------------------------------

namespace ClusterChat

namespace Cluster

/- Replace the users, the connections, and what was written
to them. -/
def overlay
    (cluster : Cluster)
    (users : UserTable)
    (conns : ConnId → ConnState)
    (wire : ConnId → List String) : Cluster :=
  { cluster with
    db := { cluster.db with users := users }
    conns := conns
    wire := wire }

end Cluster

/- The operation neither reads nor changes what `overlay`
replaces. -/
def ServerOp.Aside : ServerOp → Prop
| findAndSend _ _ => False
| send _ _ => False
| shutdown _ => False
| insertUser _ => False
| queryUser _ => False
| queryUserByName _ => False
| updateState _ _ => False
| resetState => False
| queryFriends _ => False
| queryMembersOf _ => False
| _ => True

namespace Cluster

variable {env : Externals} {id : NodeId}

theorem answer_overlay
    {op : ServerOp}
    (hAside : op.Aside)
    (cluster : Cluster)
    (users : UserTable)
    (conns : ConnId → ConnState)
    (wire : ConnId → List String) :
    answer env id op (cluster.overlay users conns wire) =
      ((answer env id op cluster).1,
        (answer env id op cluster).2.overlay users conns
          wire) := by
  cases op with
  | findAndSend userid payload => exact hAside.elim
  | send conn body => exact hAside.elim
  | shutdown conn => exact hAside.elim
  | insertUser user => exact hAside.elim
  | queryUser userid => exact hAside.elim
  | queryUserByName name => exact hAside.elim
  | updateState userid state => exact hAside.elim
  | resetState => exact hAside.elim
  | queryFriends userid => exact hAside.elim
  | queryMembersOf groupid => exact hAside.elim
  | insertConn userid conn =>
      have hConn :
          (cluster.overlay users conns wire).connOf id
              userid =
            cluster.connOf id userid := rfl
      simp only [answer, insertConn]
      rw [hConn]
      cases cluster.connOf id userid with
      | none => rfl
      | some found => rfl
  | eraseConnOf conn =>
      have hFirst :
          (cluster.overlay users conns wire).firstUserOf id
              conn =
            cluster.firstUserOf id conn := rfl
      simp only [answer, eraseConnOf]
      rw [hFirst]
      cases cluster.firstUserOf id conn with
      | none => rfl
      | some found => rfl
  | publish channel message =>
      have hLink :
          ((cluster.overlay users conns wire).nodes
              id).publishLink =
            (cluster.nodes id).publishLink := rfl
      simp only [answer]
      rw [hLink]
      cases (cluster.nodes id).publishLink with
      | false => rfl
      | true => rfl
  | subscribe channel =>
      have hLink :
          ((cluster.overlay users conns wire).nodes
              id).subscribeLink =
            (cluster.nodes id).subscribeLink := rfl
      simp only [answer, appendCommand]
      rw [hLink]
      cases (cluster.nodes id).subscribeLink with
      | false => rfl
      | true => rfl
  | unsubscribe channel =>
      have hLink :
          ((cluster.overlay users conns wire).nodes
              id).subscribeLink =
            (cluster.nodes id).subscribeLink := rfl
      simp only [answer, appendCommand]
      rw [hLink]
      cases (cluster.nodes id).subscribeLink with
      | false => rfl
      | true => rfl
  | _ => rfl

end Cluster

------------------------------------------------------------
-- Users Registered Unseen
------------------------------------------------------------

/- The rows under some ids. -/
def UserTable.rowsOf
    (users : UserTable)
    (ids : List Int) : List User :=
  users.rows.filter fun user => user.id ∈ ids

namespace Cluster

/-
  The second cluster is the first one without what the
  connection has done: the users registered on it have the
  ids, and these are left out in the second cluster.
-/
structure Unseen
    (conn : ConnId)
    (ids : List Int)
    (high low : Cluster) : Prop where
  same :
    low = high.overlay low.db.users low.conns low.wire
  conns :
    ∀ other,
      other ≠ conn → low.conns other = high.conns other
  wire :
    ∀ other, other ≠ conn → low.wire other = high.wire other
  rows :
    low.db.users.rows =
      high.db.users.rows.filter fun user => user.id ∉ ids
  nextId : low.db.users.nextId = high.db.users.nextId
  offline :
    ∀ user ∈ high.db.users.rowsOf ids, user.state = .offline

variable {env : Externals} {id : NodeId}
variable {conn : ConnId} {ids : List Int}
variable {high low : Cluster}

theorem unseen_refl
    (hNew : ∀ userid ∈ ids, ¬ high.db.users.Has userid) :
    Unseen conn ids high high where
  same := rfl
  conns := fun _ _ => rfl
  wire := fun _ _ => rfl
  rows := by
    symm
    apply List.filter_eq_self.mpr
    intro user hUser
    rw [decide_eq_true_eq]
    exact fun hId => hNew user.id hId ⟨user, hUser, rfl⟩
  nextId := rfl
  offline := by
    intro user hUser
    rcases List.mem_filter.mp hUser with ⟨hMember, hId⟩
    exact
      absurd ⟨user, hMember, rfl⟩
        (hNew user.id (of_decide_eq_true hId))

/- The connections change alike, up to the one. -/
theorem Unseen.links
    (hUnseen : Unseen conn ids high low)
    {highConns lowConns : ConnId → ConnState}
    {highWire lowWire : ConnId → List String}
    (hConns :
      ∀ other,
        other ≠ conn → lowConns other = highConns other)
    (hWire :
      ∀ other,
        other ≠ conn → lowWire other = highWire other) :
    Unseen conn ids
      (high.overlay high.db.users highConns highWire)
      (low.overlay low.db.users lowConns lowWire) where
  same := by
    conv_lhs => rw [hUnseen.same]
    rfl
  conns := hConns
  wire := hWire
  rows := hUnseen.rows
  nextId := hUnseen.nextId
  offline := hUnseen.offline

/- The users change alike. -/
theorem Unseen.setUsers
    (hUnseen : Unseen conn ids high low)
    {highUsers lowUsers : UserTable}
    (hRows :
      lowUsers.rows =
        highUsers.rows.filter fun user => user.id ∉ ids)
    (hNextId : lowUsers.nextId = highUsers.nextId)
    (hOffline :
      ∀ user ∈ highUsers.rowsOf ids, user.state = .offline) :
    Unseen conn ids (high.setUsers highUsers)
      (low.setUsers lowUsers) where
  same := by
    conv_lhs => rw [hUnseen.same]
    rfl
  conns := hUnseen.conns
  wire := hUnseen.wire
  rows := hRows
  nextId := hNextId
  offline := hOffline

/- A search that passes by the rows of the ids. -/
theorem Unseen.find?_rows
    (hUnseen : Unseen conn ids high low)
    {found : User → Bool}
    (hAvoids :
      ∀ user ∈ high.db.users.rowsOf ids,
        found user = false) :
    low.db.users.rows.find? found =
      high.db.users.rows.find? found := by
  rw [hUnseen.rows, List.find?_filter]
  apply List.find?_congr
  intro user hUser
  by_cases hId : user.id ∈ ids
  · have hMember : user ∈ high.db.users.rowsOf ids :=
      List.mem_filter.mpr ⟨hUser, decide_eq_true hId⟩
    simp [hAvoids user hMember]
  · simp [hId]

/- The rows with an id that none of these users has. -/
theorem Unseen.filter_rows
    (hUnseen : Unseen conn ids high low)
    {userid : Int}
    (hAvoids :
      ∀ user ∈ high.db.users.rowsOf ids, user.id ≠ userid) :
    (low.db.users.rows.filter fun user =>
        user.id = userid) =
      high.db.users.rows.filter fun user =>
        user.id = userid := by
  rw [hUnseen.rows, List.filter_filter]
  apply List.filter_congr
  intro user hUser
  by_cases hId : user.id ∈ ids
  · have hMember : user ∈ high.db.users.rowsOf ids :=
      List.mem_filter.mpr ⟨hUser, decide_eq_true hId⟩
    simp [hAvoids user hMember]
  · simp [hId]

/- New states for all rows, which leave those under the ids
offline. -/
theorem Unseen.withStates
    (hUnseen : Unseen conn ids high low)
    {change : User → UserState}
    (hOffline :
      ∀ user : User,
        user.id ∈ ids →
          user.state = .offline → change user = .offline) :
    Unseen conn ids
      (high.setUsers (high.db.users.withStates change))
      (low.setUsers (low.db.users.withStates change)) := by
  apply hUnseen.setUsers
  · unfold UserTable.withStates
    dsimp only
    rw [hUnseen.rows, List.filter_map]
    rfl
  · exact hUnseen.nextId
  · intro user hUser
    rcases List.mem_filter.mp hUser with ⟨hRow, hId⟩
    rcases List.mem_map.mp hRow with ⟨row, hMember, hSame⟩
    rw [← hSame] at hId ⊢
    apply hOffline row (of_decide_eq_true hId)
    exact
      hUnseen.offline row (List.mem_filter.mpr ⟨hMember, hId⟩)

/- The row under an id, or the default user, has the same
state. -/
theorem Unseen.query
    (hUnseen : Unseen conn ids high low)
    (userid : Int) :
    ServerOp.Alike ids (.queryUser userid)
      (high.db.users.query userid)
      (low.db.users.query userid) := by
  by_cases hId : userid ∈ ids
  · have hHigh :
        (high.db.users.query userid).state = .offline := by
      by_cases hHas : high.db.users.Has userid
      · rcases hHas with ⟨user, hMember, hSame⟩
        rw [← hSame, UserTable.query_of_mem hMember]
        apply hUnseen.offline user
        apply List.mem_filter.mpr
        exact ⟨hMember, decide_eq_true (hSame ▸ hId)⟩
      · rw [UserTable.query_of_missing hHas]
    have hLow : ¬ low.db.users.Has userid := by
      rintro ⟨user, hMember, hSame⟩
      rw [hUnseen.rows] at hMember
      have hOther := (List.mem_filter.mp hMember).2
      exact of_decide_eq_true hOther (hSame ▸ hId)
    refine ⟨?_, fun hOther => absurd hId hOther⟩
    rw [hHigh, UserTable.query_of_missing hLow]
  · have hSame :
        low.db.users.query userid =
          high.db.users.query userid := by
      unfold UserTable.query
      rw [hUnseen.find?_rows]
      intro user hUser
      apply decide_eq_false
      intro hFound
      have hMember := (List.mem_filter.mp hUser).2
      exact hId (hFound ▸ of_decide_eq_true hMember)
    rw [hSame]
    exact ⟨rfl, fun _ => rfl⟩

end Cluster

------------------------------------------------------------
-- Operations of the Other Connections
------------------------------------------------------------

/- The operation uses no name of a user with one of the ids,
and reads no list of friends or members with such a user. -/
def ServerOp.Avoids
    (env : Externals)
    (ids : List Int)
    (db : Database) : ServerOp → Prop
| insertUser other =>
    ∀ user ∈ db.users.rowsOf ids,
      env.collate user.name ≠ env.collate other.name
| queryUserByName name =>
    ∀ user ∈ db.users.rowsOf ids,
      env.collate user.name ≠ env.collate name
| queryFriends userid =>
    ∀ user ∈ db.users.rowsOf ids,
      (userid, user.id) ∉ db.friends
| queryMembersOf groupid =>
    ∀ user ∈ db.users.rowsOf ids,
      ∀ row ∈ db.groupUsers,
        row.groupid = groupid → user.id ≠ row.userid
| _ => True

/- The operation registers a user. -/
def ServerOp.registers
    (env : Externals)
    (db : Database) : ServerOp → Bool
| insertUser user =>
    (db.users.insert env.collate user).isSome
| _ => false

namespace Cluster

variable {env : Externals} {id : NodeId}
variable {conn : ConnId} {ids : List Int}
variable {high low : Cluster}

/- The clusters change in the same way, whatever users and
connections they have. -/
theorem Unseen.change
    (hUnseen : Unseen conn ids high low)
    (change : Cluster → Cluster)
    (hOverlay :
      ∀ (cluster : Cluster) users conns wire,
        change (cluster.overlay users conns wire) =
          (change cluster).overlay users conns wire) :
    Unseen conn ids (change high) (change low) := by
  have hLow :
      change low =
        (change high).overlay low.db.users low.conns
          low.wire := by
    conv_lhs => rw [hUnseen.same]
    exact hOverlay high _ _ _
  have hHigh :
      change high =
        (change high).overlay high.db.users high.conns
          high.wire :=
    hOverlay high _ _ _
  rw [hLow, hHigh]
  exact
    { same := rfl
      conns := hUnseen.conns
      wire := hUnseen.wire
      rows := hUnseen.rows
      nextId := hUnseen.nextId
      offline := hUnseen.offline }

theorem Unseen.aside
    (hUnseen : Unseen conn ids high low)
    {op : ServerOp}
    (hAside : op.Aside) :
    op.Alike ids (answer env id op high).1
        (answer env id op low).1 ∧
      Unseen conn ids (answer env id op high).2
        (answer env id op low).2 := by
  constructor
  · rw [hUnseen.same, answer_overlay hAside]
    exact ServerOp.alike_refl ids op _
  · apply
      hUnseen.change fun cluster => (answer env id op cluster).2
    intro cluster users conns wire
    rw [answer_overlay hAside]

theorem Unseen.sendWithHeader
    (hUnseen : Unseen conn ids high low)
    (other : ConnId)
    (body : String) :
    Unseen conn ids (high.sendWithHeader other body)
      (low.sendWithHeader other body) := by
  have hForm :
      ∀ cluster : Cluster,
        cluster.sendWithHeader other body =
          cluster.overlay cluster.db.users cluster.conns
            (if cluster.conns other = .connected then
              Function.update cluster.wire other
                (cluster.wire other ++ [body])
            else
              cluster.wire) := by
    intro cluster
    unfold Cluster.sendWithHeader
    split <;> rfl
  rw [hForm high, hForm low]
  apply hUnseen.links hUnseen.conns
  intro third hThird
  by_cases hSame : third = other
  · have hOther : other ≠ conn := hSame ▸ hThird
    rw [hUnseen.conns other hOther, hSame]
    split
    · simp [hUnseen.wire other hOther]
    · exact hUnseen.wire other hOther
  · have hStays :
        ∀ cluster : Cluster,
          (if cluster.conns other = .connected then
              Function.update cluster.wire other
                (cluster.wire other ++ [body])
            else
              cluster.wire) third =
            cluster.wire third := by
      intro cluster
      split
      · exact Function.update_of_ne hSame _ _
      · rfl
    rw [hStays, hStays, hUnseen.wire third hThird]

theorem Unseen.shutdown
    (hUnseen : Unseen conn ids high low)
    (other : ConnId) :
    Unseen conn ids (high.shutdown other)
      (low.shutdown other) := by
  have hForm :
      ∀ cluster : Cluster,
        cluster.shutdown other =
          cluster.overlay cluster.db.users
            (if cluster.conns other = .connected then
              Function.update cluster.conns other
                .disconnecting
            else
              cluster.conns)
            cluster.wire := by
    intro cluster
    unfold Cluster.shutdown
    split <;> rfl
  rw [hForm high, hForm low]
  refine hUnseen.links ?_ hUnseen.wire
  intro third hThird
  by_cases hSame : third = other
  · have hOther : other ≠ conn := hSame ▸ hThird
    rw [hUnseen.conns other hOther, hSame]
    split
    · simp
    · exact hUnseen.conns other hOther
  · have hStays :
        ∀ cluster : Cluster,
          (if cluster.conns other = .connected then
              Function.update cluster.conns other
                .disconnecting
            else
              cluster.conns) third =
            cluster.conns third := by
      intro cluster
      split
      · exact Function.update_of_ne hSame _ _
      · rfl
    rw [hStays, hStays, hUnseen.conns third hThird]

theorem Unseen.disconnect
    (hUnseen : Unseen conn ids high low)
    (other : ConnId) :
    Unseen conn ids (high.disconnect other)
      (low.disconnect other) := by
  refine hUnseen.links ?_ hUnseen.wire
  intro third hThird
  by_cases hSame : third = other
  · rw [hSame, Function.update_self, Function.update_self]
  · rw [Function.update_of_ne hSame,
      Function.update_of_ne hSame,
      hUnseen.conns third hThird]

theorem Unseen.connOf_eq
    (hUnseen : Unseen conn ids high low)
    (node : NodeId)
    (userid : Int) :
    low.connOf node userid = high.connOf node userid := by
  rw [hUnseen.same]
  rfl

/- A registration under a new name, which gets an id that is
not one of the ids. -/
theorem Unseen.insertUser
    (hUnseen : Unseen conn ids high low)
    {user : User}
    (hAvoids :
      (ServerOp.insertUser user).Avoids env ids high.db)
    (hOther :
      (ServerOp.insertUser user).registers env high.db =
          true →
        (high.db.users.nextId : Int) ∉ ids) :
    (answer env id (.insertUser user) high).1 =
        (answer env id (.insertUser user) low).1 ∧
      Unseen conn ids
        (answer env id (.insertUser user) high).2
        (answer env id (.insertUser user) low).2 := by
  have hTaken :
      (low.db.users.rows.any fun row =>
          decide
            (env.collate row.name = env.collate user.name)) =
        high.db.users.rows.any fun row =>
          decide
            (env.collate row.name =
              env.collate user.name) := by
    rw [← List.isSome_find?, ← List.isSome_find?,
      hUnseen.find?_rows]
    intro row hRow
    exact decide_eq_false (hAvoids row hRow)
  simp only [ServerOp.registers, UserTable.insert] at hOther
  simp only [answer, UserTable.insert]
  rw [hTaken]
  split_ifs at hOther ⊢ with hRefused
  · exact ⟨rfl, hUnseen⟩
  have hNew := hOther rfl
  have hAppended :
      (high.db.users.append user).rows =
        high.db.users.rows ++
          [{ user with id := high.db.users.nextId }] := rfl
  rw [hUnseen.nextId]
  refine ⟨rfl, hUnseen.setUsers ?_ ?_ ?_⟩
  · unfold UserTable.append
    dsimp only
    rw [hUnseen.nextId, hUnseen.rows, List.filter_append]
    simp [hNew]
  · exact congrArg (· + 1) hUnseen.nextId
  · intro row hRow
    unfold UserTable.rowsOf at hRow
    rw [hAppended, List.filter_append] at hRow
    apply hUnseen.offline row
    simpa [UserTable.rowsOf, hNew] using hRow

/- A user found by name is none of those of the ids. -/
theorem spared_queryByName
    (env : Externals)
    {name : String}
    (hAvoids :
      (ServerOp.queryUserByName name).Avoids env ids
        high.db) :
    ServerOp.Spared ids (.queryUserByName name)
      (high.db.users.queryByName env.collate name) := by
  intro hId
  unfold UserTable.queryByName at hId ⊢
  cases hFound :
      high.db.users.rows.find? fun user =>
        decide (env.collate user.name = env.collate name) with
  | none => rfl
  | some user =>
      rw [hFound] at hId
      have hMember : user ∈ high.db.users.rowsOf ids :=
        List.mem_filter.mpr
          ⟨List.mem_of_find?_eq_some hFound,
            decide_eq_true hId⟩
      have hName := List.find?_some hFound
      exact
        absurd (of_decide_eq_true hName)
          (hAvoids user hMember)

/- The states are updated alike. -/
theorem Unseen.updateState
    (hUnseen : Unseen conn ids high low)
    {userid : Int}
    {state : UserState}
    (hSpares : (ServerOp.updateState userid state).Spares ids) :
    Unseen conn ids
      (high.setUsers (high.db.users.updateState userid state))
      (low.setUsers
        (low.db.users.updateState userid state)) := by
  apply hUnseen.withStates
  intro user hId hState
  split_ifs with hUser
  · cases state with
    | online => exact absurd (hUser ▸ hId) (hSpares rfl)
    | offline => rfl
  · exact hState

/- No node has an entry for one of the ids. -/
def Absent
    (ids : List Int)
    (cluster : Cluster) : Prop :=
  ∀ userid ∈ ids, ∀ id, cluster.connOf id userid = none

theorem Absent.answer
    {cluster : Cluster}
    (hAbsent : cluster.Absent ids)
    {op : ServerOp}
    (hNoEntry :
      ∀ userid ∈ ids, ∀ conn, op ≠ .insertConn userid conn) :
    (Cluster.answer env id op cluster).2.Absent ids := by
  intro userid hId node
  rw [Option.eq_none_iff_forall_ne_some]
  intro conn hConn
  rcases connOf_of_answer hConn with hOld | hNew
  · rw [hAbsent userid hId node] at hOld
    cases hOld
  · exact hNoEntry userid hId conn hNew

/- The answer of an operation of another connection. -/
theorem spared_answer
    (env : Externals)
    (id : NodeId)
    {op : ServerOp}
    (hAvoids : op.Avoids env ids high.db)
    (hAbsent : high.Absent ids) :
    op.Spared ids (Cluster.answer env id op high).1 := by
  cases op with
  | queryUserByName name =>
      exact spared_queryByName env hAvoids
  | eraseConnOf conn =>
      intro userid hFound hId
      simp only [answer, eraseConnOf] at hFound
      rcases firstUserOf_cases high id conn with
        ⟨other, hFirst, hConn⟩ | ⟨hFirst, _⟩
      · rw [hFirst] at hFound
        have hSame : other = userid :=
          Option.some.inj hFound
        rw [hSame, hAbsent userid hId id] at hConn
        cases hConn
      · rw [hFirst] at hFound
        cases hFound
  | _ => trivial

/-
  An operation of another connection.  It gets answers from
  the clusters that are alike, and they differ as before.
-/
theorem Unseen.answer
    (hUnseen : Unseen conn ids high low)
    (id : NodeId)
    {op : ServerOp}
    (hSpares : op.Spares ids)
    (hAvoids : op.Avoids env ids high.db)
    (hOther :
      op.registers env high.db = true →
        (high.db.users.nextId : Int) ∉ ids) :
    op.Alike ids (Cluster.answer env id op high).1
        (Cluster.answer env id op low).1 ∧
      Unseen conn ids (Cluster.answer env id op high).2
        (Cluster.answer env id op low).2 := by
  have hFriends : low.db.friends = high.db.friends := by
    rw [hUnseen.same]
    rfl
  have hGroupUsers :
      low.db.groupUsers = high.db.groupUsers := by
    rw [hUnseen.same]
    rfl
  by_cases hAside : op.Aside
  · exact hUnseen.aside hAside
  cases op with
  | findAndSend userid payload =>
      simp only [Cluster.answer]
      rw [hUnseen.connOf_eq]
      cases high.connOf id userid with
      | none => exact ⟨rfl, hUnseen⟩
      | some found =>
          exact ⟨rfl, hUnseen.sendWithHeader found payload⟩
  | send other body =>
      exact ⟨rfl, hUnseen.sendWithHeader other body⟩
  | shutdown other => exact ⟨rfl, hUnseen.shutdown other⟩
  | insertUser user => exact hUnseen.insertUser hAvoids hOther
  | queryUser userid => exact ⟨hUnseen.query userid, hUnseen⟩
  | queryUserByName name =>
      refine ⟨?_, hUnseen⟩
      simp only [Cluster.answer, UserTable.queryByName]
      rw [hUnseen.find?_rows]
      · rfl
      · intro user hUser
        exact decide_eq_false (hAvoids user hUser)
  | updateState userid state =>
      exact ⟨rfl, hUnseen.updateState hSpares⟩
  | resetState =>
      refine ⟨rfl, hUnseen.withStates ?_⟩
      intro user _ hState
      rw [hState]
      rfl
  | queryFriends userid =>
      refine ⟨?_, hUnseen⟩
      simp only [Cluster.answer, FriendModel.query]
      rw [hFriends]
      apply List.flatMap_congr
      intro row hRow
      symm
      apply hUnseen.filter_rows
      intro user hUser hId
      rcases List.mem_filter.mp hRow with ⟨hMember, hFirst⟩
      apply hAvoids user hUser
      rw [hId, ← of_decide_eq_true hFirst]
      exact hMember
  | queryMembersOf groupid =>
      refine ⟨?_, hUnseen⟩
      simp only [Cluster.answer, GroupModel.membersOf]
      rw [hGroupUsers]
      apply List.flatMap_congr
      intro row hRow
      rw [hUnseen.filter_rows]
      intro user hUser
      rcases List.mem_filter.mp hRow with ⟨hMember, hGroup⟩
      exact
        hAvoids user hUser row hMember
          (of_decide_eq_true hGroup)
  | _ => exact absurd trivial hAside

end Cluster

------------------------------------------------------------
-- Operations of the Connection
------------------------------------------------------------

/- What the handlers of the connection perform before a login
has succeeded: the last one is that of the login. -/
def ServerOp.Own (conn : ConnId) : ServerOp → Prop
| queryUserByName _ => True
| insertUser user => user.state = .offline
| send other _ => other = conn
| shutdown other => other = conn
| eraseConnOf other => other = conn
| insertConn _ other => other = conn
| _ => False

/- What such an operation answers as long as the connection
has no session. -/
def ServerOp.AnswersNoSession
    (op : ServerOp)
    (answer : op.Res) : Prop :=
  match op, answer with
  | insertConn _ _, _ => False
  | eraseConnOf _, found => found = none
  | _, _ => True

namespace Cluster

/- No node has the connection in its map. -/
def Unmapped
    (conn : ConnId)
    (cluster : Cluster) : Prop :=
  ∀ id userid, cluster.connOf id userid ≠ some conn

/- Only the connection's own link changes. -/
structure OwnLink
    (conn : ConnId)
    (before after : Cluster) : Prop where
  same :
    after =
      before.overlay before.db.users after.conns after.wire
  conns :
    ∀ other,
      other ≠ conn → after.conns other = before.conns other
  wire :
    ∀ other,
      other ≠ conn → after.wire other = before.wire other

/-
  What the connection does to the cluster: it changes its own
  link, or it registers a user.
-/
inductive OwnEffect
    (conn : ConnId)
    (before : Cluster) : Cluster → Prop where
| link
    {after : Cluster}
    (changed : OwnLink conn before after) :
    OwnEffect conn before after
| registers (user : User) :
    OwnEffect conn before
      (before.setUsers (before.db.users.append user))

variable {env : Externals} {id : NodeId}
variable {conn : ConnId} {ids : List Int}
variable {cluster : Cluster}

theorem ownLink_refl : OwnLink conn cluster cluster where
  same := rfl
  conns := fun _ _ => rfl
  wire := fun _ _ => rfl

theorem ownLink_sendWithHeader (body : String) :
    OwnLink conn cluster
      (cluster.sendWithHeader conn body) := by
  unfold sendWithHeader
  split
  · exact
      { same := rfl
        conns := fun _ _ => rfl
        wire := fun _ hOther =>
          Function.update_of_ne hOther _ _ }
  · exact ownLink_refl

theorem ownLink_shutdown :
    OwnLink conn cluster (cluster.shutdown conn) := by
  unfold shutdown
  split
  · exact
      { same := rfl
        conns := fun _ hOther =>
          Function.update_of_ne hOther _ _
        wire := fun _ _ => rfl }
  · exact ownLink_refl

theorem ownLink_disconnect :
    OwnLink conn cluster (cluster.disconnect conn) where
  same := rfl
  conns := fun _ hOther => Function.update_of_ne hOther _ _
  wire := fun _ _ => rfl

/- No entry of the node is found. -/
theorem firstUserOf_of_unmapped
    (hUnmapped : cluster.Unmapped conn)
    (id : NodeId) :
    cluster.firstUserOf id conn = none := by
  rcases firstUserOf_cases cluster id conn with
    ⟨userid, _, hConn⟩ | ⟨hNone, _⟩
  · exact absurd hConn (hUnmapped id userid)
  · exact hNone

/- An operation that registers nobody, and its answer. -/
theorem ownLink_answer
    (env : Externals)
    (id : NodeId)
    {op : ServerOp}
    (hOwn : op.Own conn)
    (hNoLogin : ∀ userid, op ≠ .insertConn userid conn)
    (hNoReg : ∀ user, op ≠ .insertUser user)
    (hUnmapped : cluster.Unmapped conn) :
    OwnLink conn cluster (answer env id op cluster).2 ∧
      op.AnswersNoSession (answer env id op cluster).1 := by
  cases op with
  | queryUserByName name => exact ⟨ownLink_refl, trivial⟩
  | insertUser user => exact absurd rfl (hNoReg user)
  | send other body =>
      have hSame : other = conn := hOwn
      rw [hSame]
      exact ⟨ownLink_sendWithHeader body, trivial⟩
  | shutdown other =>
      have hSame : other = conn := hOwn
      rw [hSame]
      exact ⟨ownLink_shutdown, trivial⟩
  | eraseConnOf other =>
      have hSame : other = conn := hOwn
      have hNone := firstUserOf_of_unmapped hUnmapped id
      rw [hSame]
      simp only [answer, eraseConnOf]
      rw [hNone]
      exact ⟨ownLink_refl, rfl⟩
  | insertConn userid other =>
      have hSame : other = conn := hOwn
      exact absurd (by rw [hSame]) (hNoLogin userid)
  | _ => exact hOwn.elim

/- What any operation of the connection does, and answers. -/
theorem ownEffect_answer
    (env : Externals)
    (id : NodeId)
    {op : ServerOp}
    (hOwn : op.Own conn)
    (hNoLogin : ∀ userid, op ≠ .insertConn userid conn)
    (hUnmapped : cluster.Unmapped conn) :
    OwnEffect conn cluster (answer env id op cluster).2 ∧
      op.AnswersNoSession (answer env id op cluster).1 := by
  by_cases hReg : ∃ user, op = .insertUser user
  · rcases hReg with ⟨user, hUser⟩
    subst hUser
    refine ⟨?_, trivial⟩
    simp only [answer, UserTable.insert]
    split_ifs
    · exact OwnEffect.link ownLink_refl
    · exact OwnEffect.registers user
  · rcases
      ownLink_answer env id hOwn hNoLogin
        (fun user hUser => hReg ⟨user, hUser⟩) hUnmapped
      with ⟨hLink, hAnswer⟩
    exact ⟨OwnEffect.link hLink, hAnswer⟩

end Cluster

namespace Cluster

variable {env : Externals} {id : NodeId}
variable {conn : ConnId} {ids : List Int}
variable {high low : Cluster}

/- The link of the connection is not seen. -/
theorem Unseen.link
    (hUnseen : Unseen conn ids high low)
    {after : Cluster}
    (hLink : OwnLink conn high after) :
    Unseen conn ids after low := by
  rw [hLink.same]
  have hConns :
      ∀ other,
        other ≠ conn →
          low.conns other = after.conns other := by
    intro other hOther
    rw [hUnseen.conns other hOther,
      hLink.conns other hOther]
  have hWire :
      ∀ other,
        other ≠ conn →
          low.wire other = after.wire other := by
    intro other hOther
    rw [hUnseen.wire other hOther, hLink.wire other hOther]
  exact hUnseen.links hConns hWire

/- A user with one of the ids is not seen where the database
leaves the id out. -/
theorem Unseen.registers
    (hUnseen : Unseen conn ids high low)
    (hId : (high.db.users.nextId : Int) ∈ ids)
    {user : User}
    (hOffline : user.state = .offline) :
    Unseen conn ids
      (high.setUsers (high.db.users.append user))
      (low.setUsers low.db.users.leaveOut) := by
  have hNew :
      (high.db.users.append user).rows =
        high.db.users.rows ++
          [{ user with id := high.db.users.nextId }] := rfl
  apply hUnseen.setUsers
  · have hLow :
        low.db.users.leaveOut.rows = low.db.users.rows := rfl
    rw [hLow, hUnseen.rows, hNew, List.filter_append]
    simp [hId]
  · exact congrArg (· + 1) hUnseen.nextId
  · intro row hRow
    unfold UserTable.rowsOf at hRow
    rw [hNew, List.filter_append] at hRow
    rcases List.mem_append.mp hRow with hOld | hLast
    · exact hUnseen.offline row hOld
    · have hMember := (List.mem_filter.mp hLast).1
      rw [List.mem_singleton.mp hMember]
      exact hOffline

/- The database leaves out an id in both clusters. -/
theorem Unseen.leaveOut
    (hUnseen : Unseen conn ids high low) :
    Unseen conn ids
      (high.setUsers high.db.users.leaveOut)
      (low.setUsers low.db.users.leaveOut) :=
  hUnseen.setUsers hUnseen.rows
    (congrArg (· + 1) hUnseen.nextId) hUnseen.offline

/- An operation of the connection is not seen. -/
theorem Unseen.own
    (hUnseen : Unseen conn ids high low)
    {op : ServerOp}
    (hOwn : op.Own conn)
    (hNoLogin : ∀ userid, op ≠ .insertConn userid conn)
    (hUnmapped : high.Unmapped conn)
    (hNobody : op.registers env high.db = false) :
    Unseen conn ids (Cluster.answer env id op high).2
      low := by
  by_cases hReg : ∃ user, op = .insertUser user
  · rcases hReg with ⟨user, hUser⟩
    subst hUser
    simp only [Cluster.answer]
    cases hInsert :
        high.db.users.insert env.collate user with
    | none => exact hUnseen
    | some inserted =>
        simp [ServerOp.registers, hInsert] at hNobody
  · have hLink :=
      ownLink_answer env id hOwn hNoLogin
        (fun user hUser => hReg ⟨user, hUser⟩) hUnmapped
    exact hUnseen.link hLink.1

/- A registration on the connection is an id that is left
out. -/
theorem Unseen.ownRegistration
    (hUnseen : Unseen conn ids high low)
    {op : ServerOp}
    (hOwn : op.Own conn)
    (hRegisters : op.registers env high.db = true)
    (hId : (high.db.users.nextId : Int) ∈ ids) :
    Unseen conn ids (Cluster.answer env id op high).2
      (low.setUsers low.db.users.leaveOut) := by
  cases op with
  | insertUser user =>
      simp only [Cluster.answer]
      simp only [ServerOp.registers, UserTable.insert]
        at hRegisters ⊢
      split_ifs at hRegisters ⊢ with hRefused
      · cases hRegisters
      · exact hUnseen.registers hId hOwn
  | _ => cases hRegisters

/- The connection stays out of the maps. -/
theorem Unmapped.answer
    {cluster : Cluster}
    (hUnmapped : cluster.Unmapped conn)
    {op : ServerOp}
    (hNoLogin : ∀ userid, op ≠ .insertConn userid conn) :
    (Cluster.answer env id op cluster).2.Unmapped conn := by
  intro node userid hConn
  rcases connOf_of_answer hConn with hOld | hNew
  · exact hUnmapped node userid hOld
  · exact hNoLogin userid hNew

end Cluster

end ClusterChat
