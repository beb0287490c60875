import ClusterChat.Library.Journal
import ClusterChat.Server.Cluster

/-
  The directory: who has an account, who has added whom as a
  friend, and who has founded or joined which group.

  The tables `User`, `Friend`, `AllGroup`, and `GroupUser`
  represent a directory, next to the states of the users.
  Four statements record something in the directory, and all
  the others leave it as it is.

  Main declarations:
    * `Directory`, `Request`, and `Directory.record`
    * `Directory.Sound` and `Directory.replay_keeps`
    * `Database.Represents`
    * `Database.represents_answer`
    * `Database.Consistent` and `Represents.consistent`
-/

------------------------------------------------------------
-- The Directory
------------------------------------------------------------

namespace ClusterChat

/- An account, whatever the state of its user. -/
structure Account where
  id : Int
  name : String
  password : Bytes
  salt : Bytes
deriving DecidableEq, Repr

/- A group and who has founded it. -/
structure FoundedGroup where
  id : Int
  groupname : String
  groupdesc : String
  creator : Int
deriving DecidableEq, Repr

/- What is known, in the order in which it came in.  A pair in
`joined` is a group with a user who has joined it. -/
structure Directory where
  accounts : List Account := []
  nextAccount : Nat := 1
  friends : List (Int × Int) := []
  groups : List FoundedGroup := []
  nextGroup : Nat := 1
  joined : List (Int × Int) := []
deriving DecidableEq, Repr

/- What can be asked of the directory. -/
inductive Request where
| register (name : String) (password salt : Bytes)
| befriend (userid friendid : Int)
| found (groupname groupdesc : String) (creator : Int)
| join (groupid userid : Int)
deriving DecidableEq, Repr

namespace Directory

/- The name belongs to an account. -/
def Taken
    (collate : String → String)
    (directory : Directory)
    (name : String) : Prop :=
  ∃ account ∈ directory.accounts,
    collate account.name = collate name

instance
    (collate : String → String)
    (directory : Directory)
    (name : String) :
    Decidable (directory.Taken collate name) :=
  inferInstanceAs
    (Decidable
      (∃ account ∈ directory.accounts,
        collate account.name = collate name))

/- A name is registered once; everything else is recorded
however often it is asked for. -/
def record
    (collate : String → String)
    (directory : Directory) : Request → Directory
| .register name password salt =>
    if directory.Taken collate name then
      directory
    else
      { directory with
        accounts :=
          directory.accounts ++
            [{ id := directory.nextAccount, name := name,
               password := password, salt := salt }]
        nextAccount := directory.nextAccount + 1 }
| .befriend userid friendid =>
    { directory with
      friends := directory.friends ++ [(userid, friendid)] }
| .found groupname groupdesc creator =>
    { directory with
      groups :=
        directory.groups ++
          [{ id := directory.nextGroup
             groupname := groupname
             groupdesc := groupdesc
             creator := creator }]
      nextGroup := directory.nextGroup + 1 }
| .join groupid userid =>
    { directory with
      joined := directory.joined ++ [(groupid, userid)] }

/- No name and no id is given twice. -/
structure Sound
    (collate : String → String)
    (directory : Directory) : Prop where
  names :
    (directory.accounts.map fun account =>
      collate account.name).Nodup
  groupIds : (directory.groups.map FoundedGroup.id).Nodup
  groupsBelow :
    ∀ group ∈ directory.groups,
      group.id < directory.nextGroup

theorem sound_empty
    (collate : String → String) :
    Sound collate {} where
  names := List.nodup_nil
  groupIds := List.nodup_nil
  groupsBelow := List.forall_mem_nil _

theorem sound_record
    {collate : String → String}
    {directory : Directory}
    (hSound : directory.Sound collate)
    (request : Request) :
    (directory.record collate request).Sound collate := by
  cases request with
  | register name password salt =>
      unfold record
      dsimp only
      split
      · exact hSound
      · rename_i hFree
        refine ⟨?_, hSound.groupIds, hSound.groupsBelow⟩
        rw [List.map_append, List.nodup_append]
        refine ⟨hSound.names, List.nodup_singleton _, ?_⟩
        intro key hOld new hNew hSame
        rcases List.mem_map.mp hOld with
          ⟨account, hAccount, rfl⟩
        rw [List.mem_singleton.mp hNew] at hSame
        exact hFree ⟨account, hAccount, hSame⟩
  | befriend userid friendid =>
      exact
        ⟨hSound.names, hSound.groupIds, hSound.groupsBelow⟩
  | found groupname groupdesc creator =>
      refine ⟨hSound.names, ?_, ?_⟩
      · unfold record
        dsimp only
        rw [List.map_append, List.nodup_append]
        refine
          ⟨hSound.groupIds, List.nodup_singleton _, ?_⟩
        intro id hOld new hNew
        rcases List.mem_map.mp hOld with ⟨group, hGroup, rfl⟩
        rw [List.mem_singleton.mp hNew]
        exact (hSound.groupsBelow group hGroup).ne
      · intro group hGroup
        unfold record at hGroup ⊢
        dsimp only at hGroup ⊢
        rcases List.mem_append.mp hGroup with hOld | hNew
        · have := hSound.groupsBelow group hOld
          omega
        · rw [List.mem_singleton.mp hNew]
          exact Int.ofNat_lt.mpr (Nat.lt_succ_self _)
  | join groupid userid =>
      exact
        ⟨hSound.names, hSound.groupIds, hSound.groupsBelow⟩

/- Nothing that was recorded is changed or taken away. -/
structure Extends (later earlier : Directory) : Prop where
  accounts : earlier.accounts <+: later.accounts
  friends : earlier.friends <+: later.friends
  groups : earlier.groups <+: later.groups
  joined : earlier.joined <+: later.joined

theorem extends_refl (directory : Directory) :
    directory.Extends directory where
  accounts := List.prefix_rfl
  friends := List.prefix_rfl
  groups := List.prefix_rfl
  joined := List.prefix_rfl

theorem Extends.trans
    {first second third : Directory}
    (hThird : third.Extends second)
    (hSecond : second.Extends first) :
    third.Extends first where
  accounts := hSecond.accounts.trans hThird.accounts
  friends := hSecond.friends.trans hThird.friends
  groups := hSecond.groups.trans hThird.groups
  joined := hSecond.joined.trans hThird.joined

theorem extends_record
    (collate : String → String)
    (directory : Directory)
    (request : Request) :
    (directory.record collate request).Extends directory := by
  have hSame := extends_refl directory
  cases request with
  | register name password salt =>
      unfold record
      dsimp only
      split
      · exact hSame
      · exact
          { hSame with accounts := List.prefix_append _ _ }
  | befriend userid friendid =>
      exact { hSame with friends := List.prefix_append _ _ }
  | found groupname groupdesc creator =>
      exact { hSame with groups := List.prefix_append _ _ }
  | join groupid userid =>
      exact { hSame with joined := List.prefix_append _ _ }

/- What a journal makes of a directory. -/
theorem replay_keeps
    {collate : String → String}
    {directory : Directory}
    (hSound : directory.Sound collate)
    (requests : List Request) :
    (Journal.replay (record collate) directory
        requests).Sound collate ∧
      (Journal.replay (record collate) directory
        requests).Extends directory :=
  Journal.replay_invariant
    (fun view =>
      view.Sound collate ∧ view.Extends directory)
    (fun view request hView =>
      ⟨sound_record hView.1 request,
        (extends_record collate view request).trans hView.2⟩)
    ⟨hSound, extends_refl directory⟩ requests

end Directory

------------------------------------------------------------
-- The Tables
------------------------------------------------------------

/- The account in a row of `User`. -/
def User.account (user : User) : Account where
  id := user.id
  name := user.name
  password := user.password
  salt := user.salt

namespace FoundedGroup

/- The row of `AllGroup`, and the creator's row of
`GroupUser`. -/
def row (group : FoundedGroup) : GroupRow where
  id := group.id
  groupname := group.groupname
  groupdesc := group.groupdesc

def creatorRow (group : FoundedGroup) : GroupUserRow where
  groupid := group.id
  userid := group.creator
  role := "creator"

end FoundedGroup

/- The row of `GroupUser` of somebody who has joined. -/
def normalRow (member : Int × Int) : GroupUserRow where
  groupid := member.1
  userid := member.2
  role := "normal"

/-
  The tables hold what the directory knows.  In `GroupUser`,
  the rows of the creators and those of the others are mixed
  in any way.
-/
structure Database.Represents
    (db : Database)
    (directory : Directory) : Prop where
  accounts :
    db.users.rows.map User.account = directory.accounts
  nextAccount : db.users.nextId = directory.nextAccount
  friends : db.friends = directory.friends
  groups :
    db.groups = directory.groups.map FoundedGroup.row
  nextGroup : db.nextGroup = directory.nextGroup
  creators :
    (db.groupUsers.filter fun row => row.role = "creator") =
      directory.groups.map FoundedGroup.creatorRow
  joined :
    (db.groupUsers.filter fun row => row.role ≠ "creator") =
      directory.joined.map normalRow

namespace ServerOp

/- What an operation asks of the directory. -/
def request? : ServerOp → Option Request
| insertUser user =>
    some (.register user.name user.password user.salt)
| insertFriend userid friendid =>
    some (.befriend userid friendid)
| createGroupWithCreator groupname groupdesc creator =>
    some (.found groupname groupdesc creator)
| addGroup userid groupid _ => some (.join groupid userid)
| _ => none

/- Whoever joins a group becomes a normal member. -/
def JoinsAsNormal : ServerOp → Prop
| addGroup _ _ role => role = "normal"
| _ => True

/- The operation changes no table. -/
def KeepsTables : ServerOp → Prop
| insertUser _ => False
| updateState _ _ => False
| resetState => False
| insertOffline _ _ => False
| removeOffline _ => False
| insertFriend _ _ => False
| createGroupWithCreator _ _ _ => False
| addGroup _ _ _ => False
| _ => True

theorem KeepsTables.request?_eq
    {op : ServerOp}
    (hKeeps : op.KeepsTables) : op.request? = none := by
  cases op with
  | insertUser user => exact hKeeps.elim
  | insertFriend userid friendid => exact hKeeps.elim
  | createGroupWithCreator name desc creator =>
      exact hKeeps.elim
  | addGroup userid groupid role => exact hKeeps.elim
  | _ => rfl

end ServerOp

theorem Cluster.db_answer
    (env : Externals)
    (id : NodeId)
    {op : ServerOp}
    (hKeeps : op.KeepsTables)
    (cluster : Cluster) :
    (cluster.answer env id op).2.db = cluster.db := by
  cases op with
  | findAndSend userid payload =>
      simp only [answer, sendWithHeader]
      split
      · split <;> rfl
      · rfl
  | insertConn userid conn =>
      simp only [answer, insertConn]
      split <;> rfl
  | eraseConnOf conn =>
      simp only [answer, eraseConnOf]
      split <;> rfl
  | send conn body =>
      simp only [answer, sendWithHeader]
      split <;> rfl
  | shutdown conn =>
      simp only [answer, shutdown]
      split <;> rfl
  | publish channel message =>
      simp only [answer, publish]
      split
      · split <;> rfl
      · rfl
  | subscribe channel =>
      simp only [answer, appendCommand]
      split <;> rfl
  | unsubscribe channel =>
      simp only [answer, appendCommand]
      split <;> rfl
  | insertUser user => exact hKeeps.elim
  | updateState userid state => exact hKeeps.elim
  | resetState => exact hKeeps.elim
  | insertOffline userid msg => exact hKeeps.elim
  | removeOffline userid => exact hKeeps.elim
  | insertFriend userid friendid => exact hKeeps.elim
  | createGroupWithCreator name desc creator =>
      exact hKeeps.elim
  | addGroup userid groupid role => exact hKeeps.elim
  | _ => rfl

namespace Database

variable {collate : String → String}
variable {db : Database} {directory : Directory}

/- Only the states of the users are different. -/
theorem Represents.of_same
    {other : Database}
    (hRepresents : db.Represents directory)
    (hAccounts :
      other.users.rows.map User.account =
        db.users.rows.map User.account)
    (hNext : other.users.nextId = db.users.nextId)
    (hFriends : other.friends = db.friends)
    (hGroups : other.groups = db.groups)
    (hNextGroup : other.nextGroup = db.nextGroup)
    (hGroupUsers : other.groupUsers = db.groupUsers) :
    other.Represents directory where
  accounts := hAccounts.trans hRepresents.accounts
  nextAccount := hNext.trans hRepresents.nextAccount
  friends := hFriends.trans hRepresents.friends
  groups := hGroups.trans hRepresents.groups
  nextGroup := hNextGroup.trans hRepresents.nextGroup
  creators := by
    rw [hGroupUsers]
    exact hRepresents.creators
  joined := by
    rw [hGroupUsers]
    exact hRepresents.joined

theorem accounts_withStates
    (users : UserTable)
    (change : User → UserState) :
    (users.withStates change).rows.map User.account =
      users.rows.map User.account := by
  unfold UserTable.withStates
  simp [User.account, Function.comp_def]

theorem Represents.withStates
    (hRepresents : db.Represents directory)
    (change : User → UserState) :
    Represents
      { db with users := db.users.withStates change }
      directory :=
  hRepresents.of_same (accounts_withStates _ _) rfl rfl rfl
    rfl rfl

/- The table refuses exactly the names that are taken. -/
theorem Represents.taken_iff
    (hRepresents : db.Represents directory)
    (name : String) :
    directory.Taken collate name ↔
      (db.users.rows.any fun row =>
        collate row.name = collate name) = true := by
  unfold Directory.Taken
  rw [← hRepresents.accounts, List.any_eq_true]
  simp [User.account]

theorem insert_of_taken
    (hRepresents : db.Represents directory)
    {user : User}
    (hTaken : directory.Taken collate user.name) :
    db.users.insert collate user = none :=
  if_pos ((hRepresents.taken_iff user.name).mp hTaken)

theorem insert_of_free
    (hRepresents : db.Represents directory)
    {user : User}
    (hFree : ¬ directory.Taken collate user.name) :
    db.users.insert collate user =
      some ((db.users.nextId : Int), db.users.append user) :=
  if_neg (mt (hRepresents.taken_iff user.name).mpr hFree)

theorem Represents.append
    (hRepresents : db.Represents directory)
    {user : User}
    (hFree : ¬ directory.Taken collate user.name) :
    Represents { db with users := db.users.append user }
      (directory.record collate
        (.register user.name user.password user.salt)) := by
  unfold Directory.record
  dsimp only
  rw [if_neg hFree]
  exact
    { accounts := by
        have hNew :
            (db.users.append user).rows.map User.account =
              db.users.rows.map User.account ++
                [{ id := db.users.nextId, name := user.name,
                   password := user.password
                   salt := user.salt }] :=
          List.map_append
        rw [hNew, hRepresents.accounts,
          hRepresents.nextAccount]
      nextAccount :=
        congrArg (· + 1) hRepresents.nextAccount
      friends := hRepresents.friends
      groups := hRepresents.groups
      nextGroup := hRepresents.nextGroup
      creators := hRepresents.creators
      joined := hRepresents.joined }

theorem Represents.createGroup
    (hRepresents : db.Represents directory)
    (collate : String → String)
    (groupname groupdesc : String)
    (creator : Int) :
    (GroupModel.createGroupWithCreator db groupname
      groupdesc creator).Represents
      (directory.record collate
        (.found groupname groupdesc creator)) := by
  unfold GroupModel.createGroupWithCreator Directory.record
  exact
    { accounts := hRepresents.accounts
      nextAccount := hRepresents.nextAccount
      friends := hRepresents.friends
      groups := by
        rw [hRepresents.groups, hRepresents.nextGroup,
          List.map_append]
        rfl
      nextGroup := congrArg (· + 1) hRepresents.nextGroup
      creators := by
        rw [List.filter_append, hRepresents.creators,
          hRepresents.nextGroup, List.map_append]
        rfl
      joined := by
        rw [List.filter_append, hRepresents.joined]
        exact List.append_nil _ }

theorem Represents.addGroup
    (hRepresents : db.Represents directory)
    (collate : String → String)
    (userid groupid : Int) :
    (GroupModel.addGroup db userid groupid
      "normal").Represents
      (directory.record collate (.join groupid userid)) := by
  unfold GroupModel.addGroup Directory.record
  exact
    { accounts := hRepresents.accounts
      nextAccount := hRepresents.nextAccount
      friends := hRepresents.friends
      groups := hRepresents.groups
      nextGroup := hRepresents.nextGroup
      creators := by
        rw [List.filter_append, hRepresents.creators]
        exact List.append_nil _
      joined := by
        rw [List.filter_append, hRepresents.joined,
          List.map_append]
        rfl }

/- An operation records in the directory what it asks for,
and nothing else. -/
theorem represents_answer
    (env : Externals)
    (id : NodeId)
    {op : ServerOp}
    (hOp : op.JoinsAsNormal)
    {cluster : Cluster}
    (hRepresents : cluster.db.Represents directory) :
    (cluster.answer env id op).2.db.Represents
      (Journal.replay (Directory.record env.collate)
        directory op.request?.toList) := by
  by_cases hKeeps : op.KeepsTables
  · rw [Cluster.db_answer env id hKeeps cluster,
      hKeeps.request?_eq]
    exact hRepresents
  cases op with
  | insertUser user =>
      by_cases hTaken :
          directory.Taken env.collate user.name
      · have hSame :
            Journal.replay (Directory.record env.collate)
                directory
                (ServerOp.insertUser user).request?.toList =
              directory :=
          if_pos hTaken
        rw [hSame]
        simp only [Cluster.answer]
        rw [insert_of_taken hRepresents hTaken]
        exact hRepresents
      · simp only [Cluster.answer]
        rw [insert_of_free hRepresents hTaken]
        exact hRepresents.append hTaken
  | insertFriend userid friendid =>
      exact
        { hRepresents with
          friends :=
            congrArg (· ++ [(userid, friendid)])
              hRepresents.friends }
  | createGroupWithCreator groupname groupdesc creator =>
      exact
        hRepresents.createGroup env.collate groupname
          groupdesc creator
  | addGroup userid groupid role =>
      have hRole : role = "normal" := hOp
      rw [hRole]
      exact hRepresents.addGroup env.collate userid groupid
  | updateState userid state =>
      exact hRepresents.withStates _
  | resetState => exact hRepresents.withStates _
  | insertOffline userid msg =>
      exact hRepresents.of_same rfl rfl rfl rfl rfl rfl
  | removeOffline userid =>
      exact hRepresents.of_same rfl rfl rfl rfl rfl rfl
  | _ => exact absurd trivial hKeeps

/-
  What the tables say beyond their rows: a name finds one
  user, an id one group, and every group has exactly one
  creator.
-/
structure Consistent
    (collate : String → String)
    (db : Database) : Prop where
  names :
    ∀ a ∈ db.users.rows, ∀ b ∈ db.users.rows,
      collate a.name = collate b.name → a = b
  groupIds : (db.groups.map GroupRow.id).Nodup
  oneCreator :
    ∀ group ∈ db.groups,
      (db.groupUsers.countP fun row =>
        row.groupid = group.id ∧ row.role = "creator") = 1
  founded :
    ∀ row ∈ db.groupUsers,
      row.role = "creator" →
        ∃ group ∈ db.groups, group.id = row.groupid
  roles :
    ∀ row ∈ db.groupUsers,
      row.role = "creator" ∨ row.role = "normal"

theorem Represents.countP_creators
    (hRepresents : db.Represents directory)
    (groupid : Int) :
    (db.groupUsers.countP fun row =>
        row.groupid = groupid ∧ row.role = "creator") =
      (directory.groups.map FoundedGroup.id).count
        groupid := by
  have hSplit :
      (db.groupUsers.countP fun row =>
          row.groupid = groupid ∧ row.role = "creator") =
        (db.groupUsers.filter fun row =>
          row.role = "creator").countP fun row =>
            row.groupid = groupid := by
    rw [List.countP_filter]
    congr 1
    funext row
    exact Bool.decide_and _ _
  rw [hSplit, hRepresents.creators, List.countP_map,
    List.count, List.countP_map]
  rfl

theorem Represents.consistent
    (hRepresents : db.Represents directory)
    (hSound : directory.Sound collate) :
    db.Consistent collate := by
  have hIds :
      db.groups.map GroupRow.id =
        directory.groups.map FoundedGroup.id := by
    rw [hRepresents.groups, List.map_map]
    rfl
  constructor
  · have hNames := hSound.names
    rw [← hRepresents.accounts, List.map_map] at hNames
    intro a hA b hB hSame
    exact List.inj_on_of_nodup_map hNames hA hB hSame
  · rw [hIds]
    exact hSound.groupIds
  · intro group hGroup
    rw [hRepresents.countP_creators]
    apply List.count_eq_one_of_mem hSound.groupIds
    rw [← hIds]
    exact List.mem_map_of_mem hGroup
  · intro row hRow hRole
    have hCreator :
        row ∈
          db.groupUsers.filter fun row =>
            row.role = "creator" :=
      List.mem_filter.mpr ⟨hRow, decide_eq_true hRole⟩
    rw [hRepresents.creators] at hCreator
    rcases List.mem_map.mp hCreator with ⟨group, hGroup, rfl⟩
    refine ⟨group.row, ?_, rfl⟩
    rw [hRepresents.groups]
    exact List.mem_map_of_mem hGroup
  · intro row hRow
    by_cases hRole : row.role = "creator"
    · exact Or.inl hRole
    · have hJoined :
          row ∈
            db.groupUsers.filter fun row =>
              row.role ≠ "creator" :=
        List.mem_filter.mpr ⟨hRow, decide_eq_true hRole⟩
      rw [hRepresents.joined] at hJoined
      rcases List.mem_map.mp hJoined with ⟨member, _, rfl⟩
      exact Or.inr rfl

end Database

end ClusterChat
