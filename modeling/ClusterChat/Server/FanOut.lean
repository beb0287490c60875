import ClusterChat.Server.Payloads
import ClusterChat.Server.Rejection

/-
  Who gets a copy of a group message.

  The table `GroupUser` has a row for each time a user was
  put into a group, and `groupchat` makes one copy for each
  row of the group with another user.

  Main declarations:
    * `ServerOp.IsCopyFor`, `Copied`, and `CopiedOnce`
    * `ChatService.copies_routeGroup`
    * `GroupRequest` and `GroupRequest.memberships`
    * `copiedOnce_iff_memberRows`
    * `group_fan_out`
-/

------------------------------------------------------------
-- Copies
------------------------------------------------------------

namespace ClusterChat

/-
  The operation hands the text over to the user: on the
  connection that was found, or, when there is none, by
  publishing or storing it.
-/
def ServerOp.IsCopyFor
    (found : Int → Option ConnId)
    (text : String)
    (user : Int) : ServerOp → Prop
| send conn body => found user = some conn ∧ body = text
| publish channel message =>
    found user = none ∧ channel = user ∧ message = text
| insertOffline userid msg =>
    found user = none ∧ userid = user ∧ msg = text
| _ => False

/- The operations that hand a text over. -/
def copies
    (steps : List (Sigma ServerOp.Res)) : List ServerOp :=
  (steps.map Sigma.fst).filter fun op => op.text?.isSome

theorem copies_append
    (front back : List (Sigma ServerOp.Res)) :
    copies (front ++ back) = copies front ++ copies back := by
  unfold copies
  rw [List.map_append, List.filter_append]

/- A publish is answered by success. -/
def PublishSucceeds (step : Sigma ServerOp.Res) : Prop :=
  match step with
  | ⟨.publish _ _, published⟩ => published = true
  | _ => True

/- With each user listed as often as given, the operations
are one copy for each entry. -/
def Copied
    (found : Int → Option ConnId)
    (text : String)
    (times : Int → Nat)
    (ops : List ServerOp) : Prop :=
  ∃ users : List Int,
    (∀ user, users.count user = times user) ∧
      List.Forall₂
        (fun user op => op.IsCopyFor found text user)
        users ops

/- Each of the users is listed once. -/
def CopiedOnce
    (found : Int → Option ConnId)
    (text : String)
    (receives : Int → Prop)
    (ops : List ServerOp) : Prop :=
  ∃ users : List Int,
    users.Nodup ∧
      (∀ user, user ∈ users ↔ receives user) ∧
        List.Forall₂
          (fun user op => op.IsCopyFor found text user)
          users ops

/- When there is one copy for each entry of a list, each
user gets one exactly when the list has no repetition. -/
theorem copiedOnce_iff
    {found : Int → Option ConnId}
    {text : String}
    {receives : Int → Prop}
    {ops : List ServerOp}
    {users : List Int}
    (hCopies :
      List.Forall₂
        (fun user op => op.IsCopyFor found text user)
        users ops)
    (hUsers : ∀ user, user ∈ users ↔ receives user) :
    CopiedOnce found text receives ops ↔ users.Nodup := by
  constructor
  · intro hOnce
    rcases hOnce with ⟨others, hNodup, hOthers, hOps⟩
    have hSubset : others ⊆ users := by
      intro user hUser
      exact (hUsers user).mpr ((hOthers user).mp hUser)
    have hLength : users.length = others.length :=
      hCopies.length_eq.trans hOps.length_eq.symm
    have hPerm : others.Perm users :=
      (List.subperm_of_subset hNodup hSubset).perm_of_length_le
        hLength.le
    exact hPerm.nodup_iff.mp hNodup
  · intro hNodup
    exact ⟨users, hNodup, hUsers, hCopies⟩

namespace ChatService

variable {payload : String}

/- A forwarded message is published or stored, once. -/
theorem copies_forward
    {id : Int}
    {steps : List (Sigma ServerOp.Res)}
    (hTrace :
      Process.Trace steps (forward id payload) (.ret ()))
    (hPublishes : ∀ step ∈ steps, PublishSucceeds step) :
    copies steps = [.publish id payload] ∨
      copies steps = [.insertOffline id payload] := by
  unfold forward at hTrace
  rw [ask_bind] at hTrace
  cases hTrace with
  | @cons _ _ user steps _ hRest =>
  change User at user
  dsimp only at hRest
  by_cases hOnline : user.state = .online
  · rw [if_pos hOnline, ask_bind] at hRest
    cases hRest with
    | @cons _ _ published steps _ hRest =>
    change Bool at published
    dsimp only at hRest
    have hPublished : published = true :=
      hPublishes ⟨.publish id payload, published⟩ (by simp)
    rw [hPublished, if_pos rfl] at hRest
    cases hRest
    exact Or.inl rfl
  · rw [if_neg hOnline] at hRest
    cases hRest with
    | @cons _ _ answer steps _ hRest =>
    cases hRest
    exact Or.inr rfl

/- One copy for each user that is forwarded to. -/
theorem copies_forwardAll
    {found : Int → Option ConnId}
    {ids : List Int}
    (hMissing : ∀ id ∈ ids, found id = none)
    {steps : List (Sigma ServerOp.Res)}
    (hTrace :
      Process.Trace steps (forwardAll payload ids) (.ret ()))
    (hPublishes : ∀ step ∈ steps, PublishSucceeds step) :
    List.Forall₂
      (fun user op => op.IsCopyFor found payload user)
      ids (copies steps) := by
  induction ids generalizing steps with
  | nil =>
      rw [Process.trace_ret hTrace]
      exact List.Forall₂.nil
  | cons id ids ih =>
      have hHere : found id = none :=
        hMissing id List.mem_cons_self
      rcases Process.trace_bind_ret hTrace with
        ⟨front, back, _, hSteps, hFront, hBack⟩
      rw [hSteps] at hPublishes ⊢
      rw [copies_append]
      have hRest :=
        ih
          (fun other hOther =>
            hMissing other (List.mem_cons_of_mem _ hOther))
          hBack
          (fun step hStep =>
            hPublishes step (List.mem_append_right _ hStep))
      rcases copies_forward hFront
          (fun step hStep =>
            hPublishes step (List.mem_append_left _ hStep)) with
        hCopy | hCopy
      · rw [hCopy]
        exact List.Forall₂.cons ⟨hHere, rfl, rfl⟩ hRest
      · rw [hCopy]
        exact List.Forall₂.cons ⟨hHere, rfl, rfl⟩ hRest

/- One copy for each connection that is written to. -/
theorem copies_sendAll
    {conns : List ConnId}
    {steps : List (Sigma ServerOp.Res)}
    (hTrace :
      Process.Trace steps (sendAll payload conns) (.ret ())) :
    copies steps =
      conns.map fun conn => .send conn payload := by
  induction conns generalizing steps with
  | nil =>
      rw [Process.trace_ret hTrace]
      rfl
  | cons conn conns ih =>
      unfold sendAll at hTrace
      rw [ask_bind] at hTrace
      cases hTrace with
      | @cons _ _ answer steps _ hRest =>
      rw [List.map_cons, ← ih hRest]
      rfl

/- The users as `routeGroup` goes through them. -/
def routed
    (found : Int → Option ConnId)
    (useridVec : List Int) : List Int :=
  (useridVec.filter fun id => (found id).isSome) ++
    useridVec.filter fun id => (found id).isNone

theorem routed_perm
    (found : Int → Option ConnId)
    (useridVec : List Int) :
    (routed found useridVec).Perm useridVec := by
  have hSplit :=
    List.filter_append_perm (fun id => (found id).isSome)
      useridVec
  simpa [routed, Bool.not_eq_true] using hSplit

/- The writes to the connections that were found. -/
theorem sends_are_copies
    (found : Int → Option ConnId)
    (useridVec : List Int) :
    List.Forall₂
      (fun user op => op.IsCopyFor found payload user)
      (useridVec.filter fun id => (found id).isSome)
      ((useridVec.filterMap found).map
        fun conn => ServerOp.send conn payload) := by
  induction useridVec with
  | nil => exact List.Forall₂.nil
  | cons id ids ih =>
      cases hFound : found id with
      | none =>
          rw [List.filterMap_cons_none hFound,
            List.filter_cons_of_neg (by simp [hFound])]
          exact ih
      | some conn =>
          rw [List.filterMap_cons_some hFound,
            List.filter_cons_of_pos (by simp [hFound]),
            List.map_cons]
          exact List.Forall₂.cons ⟨hFound, rfl⟩ ih

/- One copy for each user in the list. -/
theorem copies_routeGroup
    {found : Int → Option ConnId}
    {useridVec : List Int}
    {steps : List (Sigma ServerOp.Res)}
    (hTrace :
      Process.Trace (⟨.findConns useridVec, found⟩ :: steps)
        (routeGroup useridVec payload) (.ret ()))
    (hPublishes : ∀ step ∈ steps, PublishSucceeds step) :
    List.Forall₂
      (fun user op => op.IsCopyFor found payload user)
      (routed found useridVec) (copies steps) := by
  unfold routeGroup at hTrace
  rw [ask_bind] at hTrace
  cases hTrace with
  | cons _ hRest =>
  rcases Process.trace_bind_ret hRest with
    ⟨front, back, _, hSteps, hFront, hBack⟩
  rw [hSteps, copies_append, copies_sendAll hFront]
  apply List.rel_append
  · exact sends_are_copies found useridVec
  · apply copies_forwardAll _ hBack
    · intro step hStep
      apply hPublishes
      rw [hSteps]
      exact List.mem_append_right _ hStep
    · intro id hId
      simpa using (List.mem_filter.mp hId).2

end ChatService

------------------------------------------------------------
-- Memberships
------------------------------------------------------------

/- A request that puts a user into a group. -/
inductive GroupRequest where
| creategroup (js : JsonObject)
| addgroup (js : JsonObject)

namespace GroupRequest

/- The handler of the request. -/
def handler : GroupRequest → Handler Unit
| creategroup js => ChatService.creategroup js
| addgroup js => ChatService.addgroup js

/- The creator, when the request can be read. -/
def creator? (js : JsonObject) : Option Int :=
  match (js.field "id").getInt,
    (js.field "groupname").getString,
    (js.field "groupdesc").getString with
  | .ok userid, .ok _, .ok _ => some userid
  | _, _, _ => none

/- The group and the user, when the request can be read. -/
def joining? (js : JsonObject) : Option (Int × Int) :=
  match (js.field "id").getInt,
    (js.field "groupid").getInt with
  | .ok userid, .ok groupid => some (groupid, userid)
  | _, _ => none

/- Who is put into which group, when the next new group has
the given id. -/
def membership? (nextGroup : Nat) :
    GroupRequest → Option (Int × Int)
| creategroup js =>
    (creator? js).map fun userid => (nextGroup, userid)
| addgroup js => joining? js

/- The id of the next new group after the request. -/
def groupAfter (nextGroup : Nat) : GroupRequest → Nat
| creategroup js =>
    if (creator? js).isSome then nextGroup + 1 else nextGroup
| addgroup _ => nextGroup

/- Who is put into which group by several requests. -/
def memberships :
    Nat → List GroupRequest → List (Int × Int)
| _, [] => []
| nextGroup, request :: requests =>
    (request.membership? nextGroup).toList ++
      memberships (request.groupAfter nextGroup) requests

end GroupRequest

/- The groups and users of the table `GroupUser`. -/
def Database.memberRows (db : Database) : List (Int × Int) :=
  db.groupUsers.map fun row => (row.groupid, row.userid)

/- The table says that the user is in the group. -/
def Database.HasMember
    (db : Database)
    (groupid user : Int) : Prop :=
  (groupid, user) ∈ db.memberRows

namespace Cluster

variable (env : Externals)

/- Nodes handle requests from connections, one after
another. -/
def serveRequests
    (requests : List (NodeId × ConnId × GroupRequest))
    (cluster : Cluster) : Cluster :=
  requests.foldl
    (fun cluster entry =>
      cluster.execute env entry.1
        (ChatServer.guarded entry.2.1 entry.2.2.handler))
    cluster

variable {env}

/- A request adds its row. -/
theorem memberRows_execute
    (id : NodeId)
    (conn : ConnId)
    (request : GroupRequest)
    (cluster : Cluster) :
    (cluster.execute env id
          (ChatServer.guarded conn
            request.handler)).db.memberRows =
        cluster.db.memberRows ++
          (request.membership?
            cluster.db.nextGroup).toList ∧
      (cluster.execute env id
          (ChatServer.guarded conn
            request.handler)).db.nextGroup =
        request.groupAfter cluster.db.nextGroup := by
  have hShutdown :
      (cluster.shutdown conn).db = cluster.db := by
    unfold shutdown
    split <;> rfl
  unfold execute ChatServer.guarded ask Process.perform
  cases request with
  | creategroup js =>
      unfold GroupRequest.handler GroupRequest.membership?
        GroupRequest.groupAfter GroupRequest.creator?
        ChatService.creategroup ask Process.perform
      cases hId : (JsonObject.field js "id").getInt with
      | error error => simp [hId, answer, hShutdown]
      | ok userid =>
      cases hName :
          (JsonObject.field js "groupname").getString with
      | error error => simp [hId, hName, answer, hShutdown]
      | ok groupname =>
      cases hDesc :
          (JsonObject.field js "groupdesc").getString with
      | error error =>
          simp [hId, hName, hDesc, answer, hShutdown]
      | ok groupdesc =>
          simp [hId, hName, hDesc, answer, setDb,
            Database.memberRows,
            GroupModel.createGroupWithCreator]
  | addgroup js =>
      unfold GroupRequest.handler GroupRequest.membership?
        GroupRequest.groupAfter GroupRequest.joining?
        ChatService.addgroup ask Process.perform
      cases hId : (JsonObject.field js "id").getInt with
      | error error => simp [hId, answer, hShutdown]
      | ok userid =>
      cases hGroupid :
          (JsonObject.field js "groupid").getInt with
      | error error =>
          simp [hId, hGroupid, answer, hShutdown]
      | ok groupid =>
          simp [hId, hGroupid, answer, setDb,
            Database.memberRows, GroupModel.addGroup]

/- The table lists what the requests have asked for. -/
theorem memberRows_serveRequests
    (requests : List (NodeId × ConnId × GroupRequest))
    (cluster : Cluster) :
    (serveRequests env requests cluster).db.memberRows =
      cluster.db.memberRows ++
        GroupRequest.memberships cluster.db.nextGroup
          (requests.map fun entry => entry.2.2) := by
  induction requests generalizing cluster with
  | nil => simp [serveRequests, GroupRequest.memberships]
  | cons entry requests ih =>
      rcases memberRows_execute entry.1 entry.2.1 entry.2.2
          cluster with
        ⟨hRows, hNext⟩
      unfold serveRequests at ih ⊢
      rw [List.foldl_cons, ih, hRows, hNext, List.map_cons,
        GroupRequest.memberships, List.append_assoc]

end Cluster

namespace GroupModel

variable {db : Database} {sender groupid user : Int}

/- The other members of a group. -/
theorem mem_queryGroupUsers_iff :
    user ∈ queryGroupUsers db sender groupid ↔
      user ≠ sender ∧ db.HasMember groupid user := by
  unfold queryGroupUsers Database.HasMember
    Database.memberRows
  simp only [List.mem_map, List.mem_filter,
    decide_eq_true_eq, Prod.mk.injEq]
  constructor
  · intro hUser
    rcases hUser with ⟨row, ⟨hRow, hGroup, hOther⟩, hSame⟩
    rw [hSame] at hOther
    exact ⟨hOther, row, hRow, hGroup, hSame⟩
  · intro hUser
    rcases hUser with ⟨hOther, row, hRow, hGroup, hSame⟩
    rw [← hSame] at hOther
    exact ⟨row, ⟨hRow, hGroup, hOther⟩, hSame⟩

/- They are listed once for each of their rows. -/
theorem count_queryGroupUsers (hOther : user ≠ sender) :
    (queryGroupUsers db sender groupid).count user =
      db.memberRows.count (groupid, user) := by
  unfold queryGroupUsers Database.memberRows
  rw [List.count, List.count, List.countP_map,
    List.countP_map, List.countP_filter]
  apply List.countP_congr
  intro row _
  simp only [Function.comp_apply, Bool.and_eq_true,
    beq_iff_eq, decide_eq_true_eq, Prod.mk.injEq]
  constructor
  · exact fun hRow => ⟨hRow.2.1, hRow.1⟩
  · intro hRow
    refine ⟨hRow.2, hRow.1, ?_⟩
    rw [hRow.2]
    exact hOther

theorem count_queryGroupUsers_eq (user : Int) :
    (queryGroupUsers db sender groupid).count user =
      if user = sender then
        0
      else
        db.memberRows.count (groupid, user) := by
  by_cases hSender : user = sender
  · have hMissing :
        user ∉ queryGroupUsers db sender groupid := by
      intro hMember
      exact (mem_queryGroupUsers_iff.mp hMember).1 hSender
    rw [if_pos hSender, List.count_eq_zero.mpr hMissing]
  · rw [if_neg hSender, count_queryGroupUsers hSender]

/- Nobody is listed twice when nobody has two rows. -/
theorem nodup_queryGroupUsers_iff :
    (queryGroupUsers db sender groupid).Nodup ↔
      ∀ user,
        user ≠ sender →
          db.memberRows.count (groupid, user) ≤ 1 := by
  rw [List.nodup_iff_count_le_one]
  constructor
  · intro hCount user hOther
    rw [← count_queryGroupUsers hOther]
    exact hCount user
  · intro hCount user
    rw [count_queryGroupUsers_eq]
    split
    · exact Nat.zero_le 1
    · rename_i hOther
      exact hCount user hOther

end GroupModel

------------------------------------------------------------
-- Fan-Out
------------------------------------------------------------

/- The handler of a frame for a group gets through: it takes
a number, reads the members from the table, finds their
connections, and performs the steps. -/
def ChatFrame.GetsThrough
    {env : Externals}
    (frame : ChatFrame env)
    (groupid : Int)
    (db : Database)
    (seq : Nat)
    (found : Int → Option ConnId)
    (steps : List (Sigma ServerOp.Res)) : Prop :=
  let members :=
    GroupModel.queryGroupUsers db frame.sender groupid
  Process.Trace
    (⟨.incrSeq frame.convId, seq⟩ ::
      ⟨.queryGroupUsers frame.sender groupid, members⟩ ::
        ⟨.findConns members, found⟩ :: steps)
    (ChatServer.onMessage env frame.conn frame.body
      frame.readings) (.ret ())

/- What is left is the routing. -/
theorem ChatFrame.getsThrough_iff
    {env : Externals}
    (frame : ChatFrame env)
    {groupid : Int}
    (hGroup : frame.addressee = .group groupid)
    (db : Database)
    (seq : Nat)
    (found : Int → Option ConnId)
    (steps : List (Sigma ServerOp.Res)) :
    frame.GetsThrough groupid db seq found steps ↔
      Process.Trace
        (⟨.findConns
            (GroupModel.queryGroupUsers db frame.sender
              groupid), found⟩ :: steps)
        (ChatService.routeGroup
          (GroupModel.queryGroupUsers db frame.sender groupid)
          (frame.payload seq)) (.ret ()) := by
  have hReturns : frame.handler.Returns fun _ => True := by
    rw [frame.handler_eq]
    intro seq
    unfold ChatFrame.route
    rw [hGroup]
    intro users
    exact
      ChatService.returns_routeGroup users
        (frame.payload seq)
  have hHandler :
      ChatServer.onMessage env frame.conn frame.body
          frame.readings =
        (ask (.incrSeq frame.convId) >>= fun seq =>
          ask (.queryGroupUsers frame.sender groupid) >>=
            fun users =>
              ChatService.routeGroup users
                (frame.payload seq)) := by
    rw [frame.onMessage_eq]
    unfold ChatServer.guarded
    rw [Process.tryCatch_of_returns hReturns,
      frame.handler_eq]
    unfold ChatFrame.route
    rw [hGroup]
  unfold ChatFrame.GetsThrough
  rw [hHandler]
  dsimp only
  rw [ask_bind]
  constructor
  · intro hTrace
    cases hTrace with
    | cons _ hRest =>
    cases hRest with
    | cons _ hRouted => exact hRouted
  · intro hRouted
    apply Process.Trace.cons
    apply Process.Trace.cons
    exact hRouted

section Requests

variable {env : Externals}
variable {start : Cluster}
variable {requests : List (NodeId × ConnId × GroupRequest)}
variable {db : Database}

/- A table that only the requests have written. -/
theorem memberRows_of_requests
    (hEmpty : start.db.groupUsers = [])
    (hTable :
      db.groupUsers =
        (start.serveRequests env requests).db.groupUsers) :
    db.memberRows =
      GroupRequest.memberships start.db.nextGroup
        (requests.map fun entry => entry.2.2) := by
  have hServed :=
    @Cluster.memberRows_serveRequests env requests start
  unfold Database.memberRows at hServed ⊢
  rw [hTable, hServed, hEmpty]
  rfl

variable {frame : ChatFrame env} {groupid : Int}
variable {seq : Nat} {found : Int → Option ConnId}
variable {steps : List (Sigma ServerOp.Res)}

theorem ChatFrame.GetsThrough.copies
    (hThrough :
      frame.GetsThrough groupid db seq found steps)
    (hGroup : frame.addressee = .group groupid)
    (hPublishes : ∀ step ∈ steps, PublishSucceeds step) :
    List.Forall₂
      (fun user op =>
        op.IsCopyFor found (frame.payload seq) user)
      (ChatService.routed found
        (GroupModel.queryGroupUsers db frame.sender groupid))
      (copies steps) :=
  ChatService.copies_routeGroup
    ((frame.getsThrough_iff hGroup db seq found steps).mp
      hThrough)
    hPublishes

/- Exactly once means that no other user has two rows. -/
theorem copiedOnce_iff_memberRows
    (hThrough :
      frame.GetsThrough groupid db seq found steps)
    (hGroup : frame.addressee = .group groupid)
    (hPublishes : ∀ step ∈ steps, PublishSucceeds step) :
    CopiedOnce found (frame.payload seq)
        (fun user =>
          user ≠ frame.sender ∧ db.HasMember groupid user)
        (copies steps) ↔
      ∀ user,
        user ≠ frame.sender →
          db.memberRows.count (groupid, user) ≤ 1 := by
  have hPerm :=
    ChatService.routed_perm found
      (GroupModel.queryGroupUsers db frame.sender groupid)
  rw [← GroupModel.nodup_queryGroupUsers_iff,
    ← hPerm.nodup_iff]
  apply copiedOnce_iff
    (hThrough.copies hGroup hPublishes)
  intro user
  rw [hPerm.mem_iff]
  exact GroupModel.mem_queryGroupUsers_iff

/-
  After any requests, a group message makes one copy for each
  time that another user was put into the group, and none for
  anyone else, however the members are split.
-/
theorem group_fan_out
    (hEmpty : start.db.groupUsers = [])
    (hTable :
      db.groupUsers =
        (start.serveRequests env requests).db.groupUsers)
    (hGroup : frame.addressee = .group groupid)
    (hThrough :
      frame.GetsThrough groupid db seq found steps)
    (hPublishes : ∀ step ∈ steps, PublishSucceeds step) :
    Copied found (frame.payload seq)
      (fun user =>
        if user = frame.sender then
          0
        else
          (GroupRequest.memberships start.db.nextGroup
            (requests.map fun entry => entry.2.2)).count
              (groupid, user))
      (copies steps) := by
  refine ⟨_, ?_, hThrough.copies hGroup hPublishes⟩
  intro user
  have hPerm :=
    ChatService.routed_perm found
      (GroupModel.queryGroupUsers db frame.sender groupid)
  rw [hPerm.count_eq, GroupModel.count_queryGroupUsers_eq,
    memberRows_of_requests hEmpty hTable]

end Requests

------------------------------------------------------------
-- Two Members
------------------------------------------------------------

/- User 1 creates a group. -/
def opening : GroupRequest :=
  .creategroup
    [("groupdesc", .string ""), ("groupname", .string "us"),
      ("id", .integer 1)]

/- User 2 joins it. -/
def joining : GroupRequest :=
  .addgroup [("groupid", .integer 1), ("id", .integer 2)]

/- User 1 writes to the group. -/
def groupFields : JsonObject :=
  [("groupid", .unsigned 1), ("id", .unsigned 1),
    ("msg", .string "hi"),
    ("msgid", .unsigned EnMsgType.groupChatMsg.code)]

def groupExternals : Externals :=
  sampleExternals [.object groupFields]

def groupFrame : ChatFrame groupExternals where
  conn := 5
  body := (Json.object groupFields).text
  readings := sampleReadings
  fields := groupFields
  sender := 1
  addressee := .group 1
  parsed :=
    JsonCodec.roundTrips_ofTable (by decide +kernel)
      List.mem_cons_self
  isInteger := rfl
  typed := rfl
  named := rfl
  addressed := rfl

/- The database after the requests, all of node 1. -/
def groupDatabase (requests : List GroupRequest) : Database :=
  (Cluster.serveRequests groupExternals
    (requests.map fun request => (1, 5, request))
    (sampleCluster [])).db

/- What is done for a member who is offline. -/
def storing : List (Sigma ServerOp.Res) :=
  [⟨.queryUser 2, ({} : User)⟩,
    ⟨.insertOffline 2 (groupFrame.payload 1), ()⟩]

theorem storing_publishes :
    ∀ step ∈ storing ++ storing, PublishSucceeds step := by
  intro step hStep
  simp only [storing, List.cons_append, List.nil_append,
    List.mem_cons, List.not_mem_nil, or_false] at hStep
  rcases hStep with rfl | rfl | rfl | rfl <;> trivial

/- User 2 has joined twice. -/
def joinedTwice : Database :=
  groupDatabase [opening, joining, joining]

theorem joinedTwice_getsThrough :
    groupFrame.GetsThrough 1 joinedTwice 1 (fun _ => none)
      (storing ++ storing) := by
  have hMembers :
      GroupModel.queryGroupUsers joinedTwice
          groupFrame.sender 1 = [2, 2] := by
    decide +kernel
  rw [groupFrame.getsThrough_iff rfl, hMembers]
  apply Process.Trace.cons
  apply Process.Trace.cons
  apply Process.Trace.cons
  apply Process.Trace.cons
  apply Process.Trace.cons
  exact Process.Trace.nil _

/- There is a copy for each of the two times. -/
theorem joinedTwice_fan_out :
    Copied (fun _ => none) (groupFrame.payload 1)
      (fun user =>
        if user = 1 then
          0
        else
          (GroupRequest.memberships 1
            [opening, joining, joining]).count (1, user))
      (copies (storing ++ storing)) := by
  have hEmpty : (sampleCluster []).db.groupUsers = [] := rfl
  have hTable :
      joinedTwice.groupUsers =
        (Cluster.serveRequests groupExternals
          ([opening, joining, joining].map
            fun request => (1, 5, request))
          (sampleCluster [])).db.groupUsers := rfl
  exact
    group_fan_out hEmpty hTable rfl joinedTwice_getsThrough
      storing_publishes

/- So the message is not copied exactly once. -/
theorem joinedTwice_not_copied_once :
    groupFrame.GetsThrough 1 joinedTwice 1 (fun _ => none)
        (storing ++ storing) ∧
      ¬ CopiedOnce (fun _ => none) (groupFrame.payload 1)
          (fun user =>
            user ≠ 1 ∧ joinedTwice.HasMember 1 user)
          (copies (storing ++ storing)) := by
  refine ⟨joinedTwice_getsThrough, ?_⟩
  intro hOnce
  have hRows :=
    (copiedOnce_iff_memberRows joinedTwice_getsThrough rfl
      storing_publishes).mp hOnce
  have hTwo : joinedTwice.memberRows.count (1, 2) = 2 := by
    decide +kernel
  have hBound := hRows 2 (by decide)
  omega

end ClusterChat
