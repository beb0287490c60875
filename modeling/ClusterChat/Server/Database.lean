import Mathlib
import ClusterChat.Protocol
import ClusterChat.Server.Crypto

/-
  The tables of `chat.sql` and the statements that the model
  classes run on them.  Every statement succeeds, and every
  value fits into its column.

  Text columns are compared by their collation, a parameter
  that gives each text its comparison key.  A query without
  an `order by` returns rows in the order of their insertion.

  Main declarations:
    * `User` and `UserTable`
    * `Database`
    * `UserModel`, `OfflineMessageModel`, `FriendModel`, and
      `GroupModel`
-/

------------------------------------------------------------
-- Rows
------------------------------------------------------------

namespace ClusterChat

/- The column `state`. -/
inductive UserState where
| online
| offline
deriving DecidableEq, Repr

/- The text of a state. -/
def UserState.text : UserState → String
| online => "online"
| offline => "offline"

/- `User`; a query without result returns the default. -/
structure User where
  id : Int := -1
  name : String := ""
  password : Bytes := []
  salt : Bytes := []
  state : UserState := .offline
deriving DecidableEq, Repr

/- The user table: its ids are positive and distinct. -/
structure UserTable where
  rows : List User
  nextId : Nat
  started : 0 < nextId
  nodup : (rows.map User.id).Nodup
  positive : ∀ user ∈ rows, 0 < user.id
  below : ∀ user ∈ rows, user.id < nextId

/- A row of `AllGroup`. -/
structure GroupRow where
  id : Int
  groupname : String
  groupdesc : String
deriving DecidableEq, Repr

/- A row of `GroupUser`. -/
structure GroupUserRow where
  groupid : Int
  userid : Int
  role : String
deriving DecidableEq, Repr

/- A row of `OfflineMessage`. -/
structure OfflineRow where
  id : Nat
  userid : Int
  convid : String
  seq : Nat
  message : String
deriving DecidableEq, Repr

/- The database. -/
structure Database where
  users : UserTable
  friends : List (Int × Int)
  groups : List GroupRow
  nextGroup : Nat
  groupUsers : List GroupUserRow
  offline : List OfflineRow
  nextOffline : Nat

------------------------------------------------------------
-- Users
------------------------------------------------------------

namespace UserTable

/- `select ... from User where id=?` -/
def query
    (users : UserTable)
    (id : Int) : User :=
  (users.rows.find? fun user => user.id = id).getD {}

/- `select ... from User where name=?` -/
def queryByName
    (collate : String → String)
    (users : UserTable)
    (name : String) : User :=
  (users.rows.find? fun user =>
    collate user.name = collate name).getD {}

theorem map_state_ids
    (rows : List User)
    (change : User → UserState) :
    (rows.map fun user =>
        { user with state := change user }).map User.id =
      rows.map User.id := by
  simp [Function.comp_def]

/- Rows with new states. -/
def withStates
    (users : UserTable)
    (change : User → UserState) : UserTable where
  rows :=
    users.rows.map fun user =>
      { user with state := change user }
  nextId := users.nextId
  started := users.started
  nodup := by
    rw [map_state_ids]
    exact users.nodup
  positive := by
    intro user hUser
    rcases List.mem_map.mp hUser with ⟨row, hRow, rfl⟩
    exact users.positive row hRow
  below := by
    intro user hUser
    rcases List.mem_map.mp hUser with ⟨row, hRow, rfl⟩
    exact users.below row hRow

/- `update User set state=? where id=?` -/
def updateState
    (users : UserTable)
    (id : Int)
    (state : UserState) : UserTable :=
  users.withStates fun user =>
    if user.id = id then state else user.state

/- The update of `resetState`: everyone goes offline. -/
def resetState (users : UserTable) : UserTable :=
  users.withStates fun user =>
    if user.state = .online then .offline else user.state

/- Add a row under the next id. -/
def append
    (users : UserTable)
    (user : User) : UserTable where
  rows := users.rows ++ [{ user with id := users.nextId }]
  nextId := users.nextId + 1
  started := Nat.succ_pos _
  nodup := by
    rw [List.map_append, List.nodup_append]
    refine ⟨users.nodup, List.nodup_singleton _, ?_⟩
    intro a hA b hB
    rcases List.mem_map.mp hA with ⟨row, hRow, rfl⟩
    have hBelow := users.below row hRow
    rw [List.mem_singleton.mp hB]
    exact hBelow.ne
  positive := by
    intro row hRow
    rcases List.mem_append.mp hRow with hOld | hNew
    · exact users.positive row hOld
    · rw [List.mem_singleton.mp hNew]
      exact Int.natCast_pos.mpr users.started
  below := by
    intro row hRow
    rcases List.mem_append.mp hRow with hOld | hNew
    · have := users.below row hOld
      omega
    · rw [List.mem_singleton.mp hNew]
      exact Int.ofNat_lt.mpr (Nat.lt_succ_self _)

/- Pass over an id, as the database may. -/
def leaveOut (users : UserTable) : UserTable where
  rows := users.rows
  nextId := users.nextId + 1
  started := Nat.succ_pos _
  nodup := users.nodup
  positive := users.positive
  below := by
    intro row hRow
    have hBelow := users.below row hRow
    omega

/-
  `insert into User(...)`: refused when the name exists.  A
  refused insert passes over no id here; in MySQL it may.
-/
def insert
    (collate : String → String)
    (users : UserTable)
    (user : User) : Option (Int × UserTable) :=
  if (users.rows.any fun row =>
      collate row.name = collate user.name) then
    none
  else
    some (users.nextId, users.append user)

/- The table has a row with the id. -/
def Has
    (users : UserTable)
    (id : Int) : Prop :=
  ∃ user ∈ users.rows, user.id = id

theorem query_of_mem
    {users : UserTable}
    {user : User}
    (hMember : user ∈ users.rows) :
    users.query user.id = user := by
  unfold query
  cases hFound :
      users.rows.find? (fun row => row.id = user.id) with
  | none =>
      have := List.find?_eq_none.mp hFound user hMember
      simp at this
  | some row =>
      have hRow := List.mem_of_find?_eq_some hFound
      have hId : row.id = user.id := by
        simpa using List.find?_some hFound
      exact
        List.inj_on_of_nodup_map users.nodup hRow hMember hId

/- A query without result returns the default user. -/
theorem query_of_missing
    {users : UserTable}
    {id : Int}
    (hMissing : ¬ users.Has id) :
    users.query id = {} := by
  unfold query
  rw [List.find?_eq_none.mpr]
  · rfl
  · intro user hMember hId
    exact hMissing ⟨user, hMember, of_decide_eq_true hId⟩

/- A user found by name is a row, or the default user. -/
theorem queryByName_cases
    (collate : String → String)
    (users : UserTable)
    (name : String) :
    users.queryByName collate name ∈ users.rows ∨
      users.queryByName collate name = {} := by
  unfold queryByName
  cases hFound :
      users.rows.find?
        (fun user => collate user.name = collate name) with
  | none => exact Or.inr rfl
  | some user =>
      exact Or.inl (List.mem_of_find?_eq_some hFound)

theorem has_withStates
    (users : UserTable)
    (change : User → UserState)
    (id : Int) :
    (users.withStates change).Has id ↔ users.Has id := by
  unfold Has withStates
  simp

/- The states after an update. -/
theorem state_withStates
    (users : UserTable)
    (change : User → UserState)
    {id : Int}
    (hHas : users.Has id) :
    ((users.withStates change).query id).state =
      change (users.query id) := by
  rcases hHas with ⟨user, hMember, rfl⟩
  have hUpdated :
      { user with state := change user } ∈
        (users.withStates change).rows :=
    List.mem_map.mpr ⟨user, hMember, rfl⟩
  have hQuery := query_of_mem hUpdated
  dsimp only at hQuery
  rw [hQuery, query_of_mem hMember]

theorem id_query_of_has
    {users : UserTable}
    {id : Int}
    (hHas : users.Has id) :
    (users.query id).id = id := by
  rcases hHas with ⟨user, hMember, rfl⟩
  rw [query_of_mem hMember]

/- Updating one user's state leaves the others alone. -/
theorem state_updateState
    (users : UserTable)
    (id other : Int)
    (state : UserState)
    (hHas : users.Has id) :
    ((users.updateState id state).query other).state =
      if other = id then
        state
      else
        (users.query other).state := by
  by_cases hOther : users.Has other
  · unfold updateState
    rw [state_withStates users _ hOther,
      id_query_of_has hOther]
  · have hNe : other ≠ id := by
      intro hSame
      exact hOther (hSame ▸ hHas)
    have hStill :
        ¬ (users.updateState id state).Has other := by
      unfold updateState
      rw [has_withStates]
      exact hOther
    rw [if_neg hNe, query_of_missing hOther,
      query_of_missing hStill]

/- An update of a missing user changes nothing. -/
theorem state_updateState_of_missing
    (users : UserTable)
    {id : Int}
    (other : Int)
    (state : UserState)
    (hMissing : ¬ users.Has id) :
    ((users.updateState id state).query other).state =
      (users.query other).state := by
  by_cases hOther : users.Has other
  · have hNe : other ≠ id := by
      intro hSame
      exact hMissing (hSame ▸ hOther)
    unfold updateState
    rw [state_withStates users _ hOther,
      id_query_of_has hOther, if_neg hNe]
  · have hStill :
        ¬ (users.updateState id state).Has other := by
      unfold updateState
      rw [has_withStates]
      exact hOther
    rw [query_of_missing hOther, query_of_missing hStill]

/- Taking a user offline leaves the others alone, whether
the table has the user or not. -/
theorem state_updateState_offline
    (users : UserTable)
    (id other : Int) :
    ((users.updateState id .offline).query other).state =
      if other = id then
        .offline
      else
        (users.query other).state := by
  by_cases hHas : users.Has id
  · exact state_updateState users id other .offline hHas
  · have hSame :=
      state_updateState_of_missing users other .offline hHas
    split
    · rename_i hOther
      rw [hSame, hOther, query_of_missing hHas]
    · exact hSame

/- After a reset, nobody is online. -/
theorem state_resetState
    (users : UserTable)
    (id : Int) :
    (users.resetState.query id).state = .offline := by
  by_cases hHas : users.Has id
  · unfold resetState
    rw [state_withStates users _ hHas]
    cases (users.query id).state <;> rfl
  · have hStill : ¬ users.resetState.Has id := by
      unfold resetState
      rw [has_withStates]
      exact hHas
    rw [query_of_missing hStill]

/- A new row hides no other one. -/
theorem query_append
    (users : UserTable)
    (user : User)
    {id : Int}
    (hHas : users.Has id) :
    (users.append user).query id = users.query id := by
  rcases hHas with ⟨row, hMember, rfl⟩
  have hStill : row ∈ (users.append user).rows :=
    List.mem_append_left _ hMember
  rw [query_of_mem hMember, query_of_mem hStill]

theorem has_append
    (users : UserTable)
    (user : User)
    {id : Int}
    (hHas : users.Has id) :
    (users.append user).Has id := by
  rcases hHas with ⟨row, hMember, hId⟩
  exact ⟨row, List.mem_append_left _ hMember, hId⟩

/- A query answers the default user exactly for an id that
the table does not have. -/
theorem id_query_eq_neg_one_iff
    (users : UserTable)
    (id : Int) :
    (users.query id).id = -1 ↔ ¬ users.Has id := by
  constructor
  · intro hDefault hHas
    rcases hHas with ⟨user, hMember, rfl⟩
    have hPositive := users.positive user hMember
    rw [query_of_mem hMember] at hDefault
    omega
  · intro hMissing
    rw [query_of_missing hMissing]

end UserTable

------------------------------------------------------------
-- Stored Messages
------------------------------------------------------------

namespace OfflineMessageModel

/- The columns that `insert` reads from the message. -/
def columns
    (codec : JsonCodec)
    (msg : String) : String × Nat :=
  match codec.parse msg with
  | none => ("", 0)
  | some j =>
      (match j.find? msgFieldConvid with
        | some (.string convid) => convid
        | _ => "",
        match j.find? msgFieldSeq with
        | some (.unsigned seq) => seq
        | _ => 0)

/- `OfflineMessageModel::insert` -/
def insert
    (codec : JsonCodec)
    (db : Database)
    (userid : Int)
    (msg : String) : Database :=
  let columns := columns codec msg
  { db with
    offline :=
      db.offline ++
        [{ id := db.nextOffline, userid := userid,
           convid := columns.1, seq := columns.2,
           message := msg }]
    nextOffline := db.nextOffline + 1 }

/- `OfflineMessageModel::remove` -/
def remove
    (db : Database)
    (userid : Int) : Database :=
  { db with
    offline := db.offline.filter fun row =>
      row.userid ≠ userid }

/- `order by convid asc, seq asc, id asc` -/
def rowBefore
    (collate : String → String)
    (a b : OfflineRow) : Prop :=
  collate a.convid < collate b.convid ∨
    collate a.convid = collate b.convid ∧
      (a.seq < b.seq ∨ a.seq = b.seq ∧ a.id ≤ b.id)

instance (collate : String → String) :
    DecidableRel (rowBefore collate) :=
  fun a b =>
    inferInstanceAs
      (Decidable
        (collate a.convid < collate b.convid ∨
          collate a.convid = collate b.convid ∧
            (a.seq < b.seq ∨
              a.seq = b.seq ∧ a.id ≤ b.id)))

/- `OfflineMessageModel::query` -/
def query
    (collate : String → String)
    (db : Database)
    (userid : Int) : List String :=
  ((db.offline.filter fun row =>
      row.userid = userid).insertionSort
    (rowBefore collate)).map OfflineRow.message

/- The messages stored for a user. -/
def Stored
    (db : Database)
    (userid : Int)
    (message : String) : Prop :=
  ∃ row ∈ db.offline,
    row.userid = userid ∧ row.message = message

/- A query returns all messages stored for the user. -/
theorem mem_query_iff
    {collate : String → String}
    {db : Database}
    {userid : Int}
    {message : String} :
    message ∈ query collate db userid ↔
      Stored db userid message := by
  simp [query, Stored, and_assoc]

theorem stored_insert_iff
    (codec : JsonCodec)
    (db : Database)
    (userid other : Int)
    (msg message : String) :
    Stored (insert codec db userid msg) other message ↔
      Stored db other message ∨
        (other = userid ∧ message = msg) := by
  unfold Stored insert
  simp only [List.mem_append, List.mem_singleton]
  constructor
  · intro hStored
    rcases hStored with ⟨row, hOld | hNew, hUser, hText⟩
    · exact Or.inl ⟨row, hOld, hUser, hText⟩
    · rw [hNew] at hUser hText
      exact Or.inr ⟨hUser.symm, hText.symm⟩
  · intro hStored
    rcases hStored with ⟨row, hOld, hRest⟩ | ⟨hUser, hText⟩
    · exact ⟨row, Or.inl hOld, hRest⟩
    · exact
        ⟨_, Or.inr rfl, hUser.symm, hText.symm⟩

theorem stored_remove_iff
    (db : Database)
    (userid other : Int)
    (message : String) :
    Stored (remove db userid) other message ↔
      Stored db other message ∧ other ≠ userid := by
  unfold Stored remove
  simp only [List.mem_filter, decide_eq_true_eq]
  constructor
  · intro hStored
    rcases hStored with ⟨row, ⟨hRow, hKept⟩, hUser, hText⟩
    exact ⟨⟨row, hRow, hUser, hText⟩, hUser ▸ hKept⟩
  · intro hStored
    rcases hStored with ⟨⟨row, hRow, hUser, hText⟩, hKept⟩
    exact ⟨row, ⟨hRow, hUser ▸ hKept⟩, hUser, hText⟩

end OfflineMessageModel

------------------------------------------------------------
-- Friends and Groups
------------------------------------------------------------

namespace FriendModel

/- `FriendModel::insert` -/
def insert
    (db : Database)
    (userid friendid : Int) : Database :=
  { db with friends := db.friends ++ [(userid, friendid)] }

/- `FriendModel::query` -/
def query
    (db : Database)
    (userid : Int) : List User :=
  (db.friends.filter fun row => row.1 = userid).flatMap
    fun row => db.users.rows.filter fun user =>
      user.id = row.2

end FriendModel

namespace GroupModel

/- `GroupModel::createGroupWithCreator`: two inserts in one
transaction. -/
def createGroupWithCreator
    (db : Database)
    (groupname groupdesc : String)
    (creatorId : Int) : Database :=
  { db with
    groups :=
      db.groups ++
        [{ id := db.nextGroup, groupname := groupname,
           groupdesc := groupdesc }]
    nextGroup := db.nextGroup + 1
    groupUsers :=
      db.groupUsers ++
        [{ groupid := db.nextGroup, userid := creatorId,
           role := "creator" }] }

/- `GroupModel::addGroup` -/
def addGroup
    (db : Database)
    (userid groupid : Int)
    (role : String) : Database :=
  { db with
    groupUsers :=
      db.groupUsers ++
        [{ groupid := groupid, userid := userid,
           role := role }] }

/- The first statement of `GroupModel::queryGroups`. -/
def groupsOf
    (db : Database)
    (userid : Int) : List GroupRow :=
  (db.groupUsers.filter fun row =>
    row.userid = userid).flatMap
      fun row => db.groups.filter fun group =>
        group.id = row.groupid

/- The second statement, run once for each group. -/
def membersOf
    (db : Database)
    (groupid : Int) : List (User × String) :=
  (db.groupUsers.filter fun row =>
    row.groupid = groupid).flatMap
      fun row =>
        (db.users.rows.filter fun user =>
          user.id = row.userid).map fun user =>
            (user, row.role)

/- `GroupModel::queryGroupUsers` -/
def queryGroupUsers
    (db : Database)
    (userid groupid : Int) : List Int :=
  (db.groupUsers.filter fun row =>
    row.groupid = groupid ∧ row.userid ≠ userid).map
      GroupUserRow.userid

end GroupModel

end ClusterChat
