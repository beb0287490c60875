import Mathlib
import ClusterChat.Redis.Sequence
import ClusterChat.Server.ChatService

/-
  The state that the handlers work on: the nodes, Redis, the
  database, and the connections of the clients.

  A node writes its subscription commands to a connection
  that Redis reads later.  A published message reaches the
  nodes that are subscribed when Redis executes the command.

  Main declarations:
    * `ConnState`, `Node`, `Subscriptions`, and `Cluster`
    * `Cluster.publish` and `Cluster.serveSubscription`
    * `Cluster.answer`
    * `Cluster.execute`
-/

------------------------------------------------------------
-- State
------------------------------------------------------------

namespace ClusterChat

/- A server process. -/
abbrev NodeId := Nat

/- The states of a connection in the network library. -/
inductive ConnState where
| connected
| disconnecting
| disconnected
deriving DecidableEq, Repr

/- `_userConnMap` with its entries in iteration order. -/
abbrev UserConnMap := AList fun _ : Int => ConnId

/-
  A server process with its Redis connections: how `INCR` is
  answered, whether the other two connections work, and the
  subscription commands that Redis has not read yet.
-/
structure Node where
  userConnMap : UserConnMap := ∅
  redis : RedisClient := RedisClient.connected true
  incrOutcome : IncrOutcome := .integer
  publishLink : Bool := true
  subscribeLink : Bool := true
  commands : List (List String) := []

/- Which node is subscribed to which channel. -/
structure Subscriptions where
  entries : List (NodeId × String)
  nodup : entries.Nodup

namespace Subscriptions

def empty : Subscriptions where
  entries := []
  nodup := List.nodup_nil

def insert
    (subscriptions : Subscriptions)
    (id : NodeId)
    (channel : String) : Subscriptions where
  entries := subscriptions.entries.insert (id, channel)
  nodup := subscriptions.nodup.insert

def erase
    (subscriptions : Subscriptions)
    (id : NodeId)
    (channel : String) : Subscriptions where
  entries := subscriptions.entries.erase (id, channel)
  nodup := subscriptions.nodup.erase _

/- The number of channels of a node. -/
def count
    (subscriptions : Subscriptions)
    (id : NodeId) : Nat :=
  subscriptions.entries.countP fun entry => entry.1 = id

/- The nodes that are subscribed to a channel. -/
def subscribers
    (subscriptions : Subscriptions)
    (channel : String) : List NodeId :=
  (subscriptions.entries.filter fun entry =>
    entry.2 = channel).map Prod.fst

theorem mem_subscribers_iff
    {subscriptions : Subscriptions}
    {id : NodeId}
    {channel : String} :
    id ∈ subscriptions.subscribers channel ↔
      (id, channel) ∈ subscriptions.entries := by
  simp [subscribers]

/- A node receives a message only once. -/
theorem nodup_subscribers
    (subscriptions : Subscriptions)
    (channel : String) :
    (subscriptions.subscribers channel).Nodup := by
  unfold subscribers
  apply List.Nodup.map_on
  · intro a hA b hB hSame
    have hFirst := of_decide_eq_true (List.mem_filter.mp hA).2
    have hSecond :=
      of_decide_eq_true (List.mem_filter.mp hB).2
    exact Prod.ext hSame (hFirst.trans hSecond.symm)
  · exact subscriptions.nodup.filter _

end Subscriptions

/-
  The whole system between two operations.  Redis knows the
  counters and who is subscribed to what; `replies` are on
  their way to the subscription of a node.
-/
structure Cluster where
  nodes : NodeId → Node
  counters : String → Nat
  subscriptions : Subscriptions
  replies : List (NodeId × RedisReply)
  db : Database
  home : ConnId → NodeId
  conns : ConnId → ConnState
  wire : ConnId → List String

namespace Cluster

/- Replace the state of one node. -/
def setNode
    (cluster : Cluster)
    (id : NodeId)
    (node : Node) : Cluster :=
  { cluster with
    nodes := Function.update cluster.nodes id node }

------------------------------------------------------------
-- Redis
------------------------------------------------------------

/- Redis executes a command of a subscription and confirms
it with the number of channels that are left. -/
def executeCommand
    (cluster : Cluster)
    (id : NodeId)
    (command : List String) : Cluster :=
  match command with
  | [verb, channel] =>
      if verb = "SUBSCRIBE" then
        let subscriptions :=
          cluster.subscriptions.insert id channel
        { cluster with
          subscriptions := subscriptions
          replies :=
            cluster.replies ++
              [(id,
                Redis.confirmationReply "subscribe" channel
                  (subscriptions.count id))] }
      else if verb = "UNSUBSCRIBE" then
        let subscriptions :=
          cluster.subscriptions.erase id channel
        { cluster with
          subscriptions := subscriptions
          replies :=
            cluster.replies ++
              [(id,
                Redis.confirmationReply "unsubscribe" channel
                  (subscriptions.count id))] }
      else
        cluster
  | _ => cluster

/- Redis reads the next command of a subscription. -/
def serveSubscription
    (cluster : Cluster)
    (id : NodeId) : Cluster :=
  match (cluster.nodes id).commands with
  | [] => cluster
  | command :: commands =>
      (cluster.setNode id
        { cluster.nodes id with
          commands := commands }).executeCommand id command

/- Redis executes a `PUBLISH`: the message goes to the nodes
that are subscribed at this moment. -/
def publish
    (cluster : Cluster)
    (command : List String) : Cluster :=
  match command with
  | [_, channel, message] =>
      { cluster with
        replies :=
          cluster.replies ++
            (cluster.subscriptions.subscribers channel).map
              fun id =>
                (id, Redis.messageReply channel message) }
  | _ => cluster

/- A node takes a number; the counters are shared. -/
def takeNumber
    (cluster : Cluster)
    (id : NodeId)
    (conversationId : String) : Nat × Cluster :=
  let node := cluster.nodes id
  let taken :=
    Numbering.takeNumber
      { client := node.redis, counters := cluster.counters }
      conversationId node.incrOutcome
  (taken.2,
    { cluster.setNode id
        { node with redis := taken.1.client } with
      counters := taken.1.counters })

------------------------------------------------------------
-- Connections
------------------------------------------------------------

/- The connection of a user on a node. -/
def connOf
    (cluster : Cluster)
    (id : NodeId)
    (userid : Int) : Option ConnId :=
  (cluster.nodes id).userConnMap.lookup userid

/-
  `sendWithHeader`: only a connected one is sent to.  The wire
  lists the frames in the order of the calls of `send`; when
  they are written is in `Sending`.
-/
def sendWithHeader
    (cluster : Cluster)
    (conn : ConnId)
    (body : String) : Cluster :=
  if cluster.conns conn = .connected then
    { cluster with
      wire :=
        Function.update cluster.wire conn
          (cluster.wire conn ++ [body]) }
  else
    cluster

/- `shutdown()` of the network library. -/
def shutdown
    (cluster : Cluster)
    (conn : ConnId) : Cluster :=
  if cluster.conns conn = .connected then
    { cluster with
      conns :=
        Function.update cluster.conns conn .disconnecting }
  else
    cluster

/- The connection is down. -/
def disconnect
    (cluster : Cluster)
    (conn : ConnId) : Cluster :=
  { cluster with
    conns :=
      Function.update cluster.conns conn .disconnected }

/- Replace `_userConnMap` of a node. -/
def setMap
    (cluster : Cluster)
    (id : NodeId)
    (userConnMap : UserConnMap) : Cluster :=
  cluster.setNode id
    { cluster.nodes id with userConnMap := userConnMap }

/- `insert({id,conn})`: an existing entry stays. -/
def insertConn
    (cluster : Cluster)
    (id : NodeId)
    (userid : Int)
    (conn : ConnId) : Cluster :=
  match cluster.connOf id userid with
  | some _ => cluster
  | none =>
      cluster.setMap id
        ((cluster.nodes id).userConnMap.insert userid conn)

/- The first entry with the connection, in map order. -/
def firstUserOf
    (cluster : Cluster)
    (id : NodeId)
    (conn : ConnId) : Option Int :=
  ((cluster.nodes id).userConnMap.entries.find?
    fun entry => entry.2 = conn).map Sigma.fst

/- Erase the first entry with the connection. -/
def eraseConnOf
    (cluster : Cluster)
    (id : NodeId)
    (conn : ConnId) : Option Int × Cluster :=
  match cluster.firstUserOf id conn with
  | some userid =>
      (some userid,
        cluster.setMap id
          ((cluster.nodes id).userConnMap.erase userid))
  | none => (none, cluster)

/- Write a command to the subscription of a node. -/
def appendCommand
    (cluster : Cluster)
    (id : NodeId)
    (command : List String) : Bool × Cluster :=
  let node := cluster.nodes id
  if node.subscribeLink then
    (true,
      cluster.setNode id
        { node with commands := node.commands ++ [command] })
  else
    (false, cluster)

/- Replace the database. -/
def setDb
    (cluster : Cluster)
    (db : Database) : Cluster :=
  { cluster with db := db }

/- Replace the table of users. -/
def setUsers
    (cluster : Cluster)
    (users : UserTable) : Cluster :=
  cluster.setDb { cluster.db with users := users }

------------------------------------------------------------
-- Operations
------------------------------------------------------------

/- What an operation of a node answers and changes. -/
def answer
    (env : Externals)
    (id : NodeId) :
    (op : ServerOp) → Cluster → op.Res × Cluster
| .findConn userid, cluster =>
    (cluster.connOf id userid, cluster)
| .findConns _, cluster =>
    (fun userid => cluster.connOf id userid, cluster)
| .findAndSend userid payload, cluster =>
    match cluster.connOf id userid with
    | some conn =>
        (true, cluster.sendWithHeader conn payload)
    | none => (false, cluster)
| .insertConn userid conn, cluster =>
    ((), cluster.insertConn id userid conn)
| .eraseConn userid, cluster =>
    ((), cluster.setMap id
      ((cluster.nodes id).userConnMap.erase userid))
| .eraseConnOf conn, cluster =>
    cluster.eraseConnOf id conn
| .send conn body, cluster =>
    ((), cluster.sendWithHeader conn body)
| .shutdown conn, cluster =>
    ((), cluster.shutdown conn)
| .incrSeq conversationId, cluster =>
    cluster.takeNumber id conversationId
| .publish channel message, cluster =>
    if (cluster.nodes id).publishLink then
      (true,
        cluster.publish
          (Redis.publishCommand channel message))
    else
      (false, cluster)
| .subscribe channel, cluster =>
    cluster.appendCommand id (Redis.subscribeCommand channel)
| .unsubscribe channel, cluster =>
    cluster.appendCommand id
      (Redis.unsubscribeCommand channel)
| .insertUser user, cluster =>
    match cluster.db.users.insert env.collate user with
    | some (userid, users) =>
        (some userid, cluster.setUsers users)
    | none => (none, cluster)
| .queryUser userid, cluster =>
    (cluster.db.users.query userid, cluster)
| .queryUserByName name, cluster =>
    (cluster.db.users.queryByName env.collate name, cluster)
| .updateState userid state, cluster =>
    (true, cluster.setUsers
      (cluster.db.users.updateState userid state))
| .resetState, cluster =>
    ((), cluster.setUsers cluster.db.users.resetState)
| .insertOffline userid msg, cluster =>
    ((), cluster.setDb
      (OfflineMessageModel.insert env.codec cluster.db userid
        msg))
| .removeOffline userid, cluster =>
    ((), cluster.setDb
      (OfflineMessageModel.remove cluster.db userid))
| .queryOffline userid, cluster =>
    (OfflineMessageModel.query env.collate cluster.db userid,
      cluster)
| .insertFriend userid friendid, cluster =>
    ((), cluster.setDb
      (FriendModel.insert cluster.db userid friendid))
| .queryFriends userid, cluster =>
    (FriendModel.query cluster.db userid, cluster)
| .createGroupWithCreator groupname groupdesc creator,
    cluster =>
    (true, cluster.setDb
      (GroupModel.createGroupWithCreator cluster.db groupname
        groupdesc creator))
| .addGroup userid groupid role, cluster =>
    ((), cluster.setDb
      (GroupModel.addGroup cluster.db userid groupid role))
| .queryGroupsOf userid, cluster =>
    (GroupModel.groupsOf cluster.db userid, cluster)
| .queryMembersOf groupid, cluster =>
    (GroupModel.membersOf cluster.db groupid, cluster)
| .queryGroupUsers userid groupid, cluster =>
    (GroupModel.queryGroupUsers cluster.db userid groupid,
      cluster)

/- Execute a handler without interruption. -/
def execute
    (env : Externals)
    (id : NodeId)
    (handler : Handler Unit)
    (cluster : Cluster) : Cluster :=
  (Process.exec (answer env id) handler cluster).2

end Cluster

------------------------------------------------------------
-- What an Operation Leaves Alone
------------------------------------------------------------

/- The operation leaves every `_userConnMap` alone. -/
def ServerOp.KeepsMaps : ServerOp → Prop
| insertConn _ _ => False
| eraseConn _ => False
| eraseConnOf _ => False
| _ => True

/- The operation leaves the user table alone. -/
def ServerOp.KeepsUsers : ServerOp → Prop
| insertUser _ => False
| updateState _ _ => False
| resetState => False
| _ => True

/- The operation leaves the stored messages alone. -/
def ServerOp.KeepsOffline : ServerOp → Prop
| insertOffline _ _ => False
| removeOffline _ => False
| _ => True

/- The operation neither writes to a connection nor shuts one
down. -/
def ServerOp.KeepsLinks : ServerOp → Prop
| findAndSend _ _ => False
| send _ _ => False
| shutdown _ => False
| _ => True

/- The operation takes no number. -/
def ServerOp.TakesNothing : ServerOp → Prop
| incrSeq _ => False
| _ => True

/- The operation publishes no message. -/
def ServerOp.PublishesNothing : ServerOp → Prop
| publish _ _ => False
| _ => True

namespace Cluster

/-
  What an operation cannot change.  No operation takes a
  connection down or takes a reply away.
-/
structure Frame
    (op : ServerOp)
    (before after : Cluster) : Prop where
  maps :
    op.KeepsMaps →
      ∀ id userid,
        after.connOf id userid = before.connOf id userid
  users :
    op.KeepsUsers → after.db.users = before.db.users
  offline :
    op.KeepsOffline → after.db.offline = before.db.offline
  down :
    ∀ conn,
      after.conns conn = .disconnected ↔
        before.conns conn = .disconnected
  replies :
    ∀ entry ∈ before.replies, entry ∈ after.replies

/- A user's entry after the map was replaced. -/
theorem connOf_setMap_self
    (cluster : Cluster)
    (id : NodeId)
    (userConnMap : UserConnMap)
    (userid : Int) :
    (cluster.setMap id userConnMap).connOf id userid =
      userConnMap.lookup userid := by
  simp [connOf, setMap, setNode]

section Frames

variable (cluster : Cluster) (op : ServerOp) (id : NodeId)

theorem frame_refl : Frame op cluster cluster where
  maps := fun _ _ _ => rfl
  users := fun _ => rfl
  offline := fun _ => rfl
  down := fun _ => Iff.rfl
  replies := fun _ hReply => hReply

/- A node with the same map. -/
theorem frame_setNode
    (node : Node)
    (hMap :
      op.KeepsMaps →
        node.userConnMap =
          (cluster.nodes id).userConnMap) :
    Frame op cluster (cluster.setNode id node) where
  maps := by
    intro hKeeps other userid
    unfold connOf setNode
    by_cases hOther : other = id
    · rw [hOther]
      simp [hMap hKeeps]
    · simp [hOther]
  users := fun _ => rfl
  offline := fun _ => rfl
  down := fun _ => Iff.rfl
  replies := fun _ hReply => hReply

theorem frame_sendWithHeader
    (conn : ConnId)
    (body : String) :
    Frame op cluster (cluster.sendWithHeader conn body) := by
  unfold sendWithHeader
  split
  · exact
      { maps := fun _ _ _ => rfl
        users := fun _ => rfl
        offline := fun _ => rfl
        down := fun _ => Iff.rfl
        replies := fun _ hReply => hReply }
  · exact frame_refl cluster op

theorem frame_shutdown (conn : ConnId) :
    Frame op cluster (cluster.shutdown conn) := by
  unfold shutdown
  split
  · rename_i hConnected
    exact
      { maps := fun _ _ _ => rfl
        users := fun _ => rfl
        offline := fun _ => rfl
        down := by
          intro other
          by_cases hSame : other = conn
          · rw [hSame, hConnected]
            simp
          · simp [hSame]
        replies := fun _ hReply => hReply }
  · exact frame_refl cluster op

theorem frame_publish
    (channel : Int)
    (message : String) :
    Frame op cluster
      (cluster.publish
        (Redis.publishCommand channel message)) := by
  unfold publish Redis.publishCommand
  exact
    { maps := fun _ _ _ => rfl
      users := fun _ => rfl
      offline := fun _ => rfl
      down := fun _ => Iff.rfl
      replies := fun _ hReply =>
        List.mem_append_left _ hReply }

theorem frame_appendCommand (command : List String) :
    Frame op cluster
      (cluster.appendCommand id command).2 := by
  unfold appendCommand
  dsimp only
  split
  · exact frame_setNode _ _ _ _ fun _ => rfl
  · exact frame_refl cluster op

theorem frame_takeNumber (conversationId : String) :
    Frame op cluster
      (cluster.takeNumber id conversationId).2 := by
  have hNode :=
    frame_setNode cluster op id
      { cluster.nodes id with
        redis :=
          (Numbering.takeNumber
            { client := (cluster.nodes id).redis
              counters := cluster.counters }
            conversationId
            (cluster.nodes id).incrOutcome).1.client }
      fun _ => rfl
  exact
    { maps := hNode.maps
      users := hNode.users
      offline := hNode.offline
      down := hNode.down
      replies := hNode.replies }

theorem frame_setMap
    (hMaps : ¬ op.KeepsMaps)
    (userConnMap : UserConnMap) :
    Frame op cluster (cluster.setMap id userConnMap) :=
  frame_setNode _ _ _ _ fun hKeeps => absurd hKeeps hMaps

theorem frame_insertConn
    (userid : Int)
    (conn : ConnId) :
    Frame (.insertConn userid conn) cluster
      (cluster.insertConn id userid conn) := by
  unfold insertConn
  split
  · exact frame_refl _ _
  · apply frame_setMap
    exact fun hKeeps => hKeeps

theorem frame_setDb
    {db : Database}
    (hUsers :
      op.KeepsUsers → db.users = cluster.db.users)
    (hOffline :
      op.KeepsOffline → db.offline = cluster.db.offline) :
    Frame op cluster (cluster.setDb db) where
  maps := fun _ _ _ => rfl
  users := hUsers
  offline := hOffline
  down := fun _ => Iff.rfl
  replies := fun _ hReply => hReply

end Frames

/- Every operation stays within its frame. -/
theorem answer_frame
    (env : Externals)
    (id : NodeId)
    (op : ServerOp)
    (cluster : Cluster) :
    Frame op cluster (answer env id op cluster).2 := by
  cases op
  case findAndSend userid payload =>
    simp only [answer]
    split
    · exact frame_sendWithHeader _ _ _ _
    · exact frame_refl _ _
  case insertConn => exact frame_insertConn _ _ _ _
  case eraseConn =>
    apply frame_setMap
    exact fun hKeeps => hKeeps
  case eraseConnOf conn =>
    simp only [answer, eraseConnOf]
    split
    · apply frame_setMap
      exact fun hKeeps => hKeeps
    · exact frame_refl _ _
  case send => exact frame_sendWithHeader _ _ _ _
  case shutdown => exact frame_shutdown _ _ _
  case incrSeq => exact frame_takeNumber _ _ _ _
  case publish channel message =>
    simp only [answer]
    split
    · exact frame_publish _ _ _ _
    · exact frame_refl _ _
  case subscribe => exact frame_appendCommand _ _ _ _
  case unsubscribe => exact frame_appendCommand _ _ _ _
  case insertUser user =>
    simp only [answer]
    split
    · exact frame_setDb _ _ False.elim fun _ => rfl
    · exact frame_refl _ _
  case updateState =>
    exact frame_setDb _ _ False.elim fun _ => rfl
  case resetState =>
    exact frame_setDb _ _ False.elim fun _ => rfl
  case insertOffline =>
    exact frame_setDb _ _ (fun _ => rfl) False.elim
  case removeOffline =>
    exact frame_setDb _ _ (fun _ => rfl) False.elim
  case insertFriend =>
    exact frame_setDb _ _ (fun _ => rfl) fun _ => rfl
  case createGroupWithCreator =>
    exact frame_setDb _ _ (fun _ => rfl) fun _ => rfl
  case addGroup =>
    exact frame_setDb _ _ (fun _ => rfl) fun _ => rfl
  all_goals exact frame_refl _ _

/- What one node does leaves the maps of the others alone, and
every connection at its node. -/
structure Apart
    (id : NodeId)
    (before after : Cluster) : Prop where
  maps :
    ∀ other,
      other ≠ id →
        ∀ userid,
          after.connOf other userid =
            before.connOf other userid
  home : after.home = before.home

theorem apart_of_nodes
    {id : NodeId}
    {before after : Cluster}
    (hNodes : after.nodes = before.nodes)
    (hHome : after.home = before.home) :
    Apart id before after where
  maps := by
    intro other _ userid
    unfold connOf
    rw [hNodes]
  home := hHome

theorem apart_setNode
    (cluster : Cluster)
    (id : NodeId)
    (node : Node) :
    Apart id cluster (cluster.setNode id node) where
  maps := by
    intro other hOther userid
    unfold connOf setNode
    dsimp only
    rw [Function.update_of_ne hOther]
  home := rfl

/- Every operation of a node. -/
theorem answer_apart
    (env : Externals)
    (id : NodeId)
    (op : ServerOp)
    (cluster : Cluster) :
    Apart id cluster (answer env id op cluster).2 := by
  cases op
  case findAndSend userid payload =>
    simp only [answer, sendWithHeader]
    split
    · split <;> exact apart_of_nodes rfl rfl
    · exact apart_of_nodes rfl rfl
  case insertConn userid conn =>
    simp only [answer, insertConn]
    split
    · exact apart_of_nodes rfl rfl
    · exact apart_setNode _ _ _
  case eraseConn => exact apart_setNode _ _ _
  case eraseConnOf conn =>
    simp only [answer, eraseConnOf]
    split
    · exact apart_setNode _ _ _
    · exact apart_of_nodes rfl rfl
  case send =>
    simp only [answer, sendWithHeader]
    split <;> exact apart_of_nodes rfl rfl
  case shutdown =>
    simp only [answer, shutdown]
    split <;> exact apart_of_nodes rfl rfl
  case incrSeq conversationId =>
    have hNode :=
      apart_setNode cluster id
        { cluster.nodes id with
          redis :=
            (Numbering.takeNumber
              { client := (cluster.nodes id).redis
                counters := cluster.counters }
              conversationId
              (cluster.nodes id).incrOutcome).1.client }
    exact ⟨hNode.maps, hNode.home⟩
  case publish channel message =>
    simp only [answer, publish, Redis.publishCommand]
    split <;> exact apart_of_nodes rfl rfl
  case subscribe =>
    simp only [answer, appendCommand]
    split
    · exact apart_setNode _ _ _
    · exact apart_of_nodes rfl rfl
  case unsubscribe =>
    simp only [answer, appendCommand]
    split
    · exact apart_setNode _ _ _
    · exact apart_of_nodes rfl rfl
  case insertUser user =>
    simp only [answer]
    split <;> exact apart_of_nodes rfl rfl
  all_goals exact apart_of_nodes rfl rfl

/- Every handler of a node. -/
theorem execute_apart
    (env : Externals)
    (id : NodeId)
    (handler : Handler Unit)
    (cluster : Cluster) :
    Apart id cluster (cluster.execute env id handler) := by
  unfold execute
  induction handler generalizing cluster with
  | ret value => exact apart_of_nodes rfl rfl
  | throw error => exact apart_of_nodes rfl rfl
  | act op next ih =>
      rw [Process.exec_act]
      have hFirst := answer_apart env id op cluster
      have hRest :=
        ih (cluster.answer env id op).1
          (cluster.answer env id op).2
      exact
        { maps := fun other hOther userid =>
            (hRest.maps other hOther userid).trans
              (hFirst.maps other hOther userid)
          home := hRest.home.trans hFirst.home }

/- The connections and what was written to them. -/
structure SameLinks (before after : Cluster) : Prop where
  wire : after.wire = before.wire
  conns : after.conns = before.conns

/- What an operation leaves as it was: the connections, the
counters, and the replies on their way. -/
structure Keeps
    (op : ServerOp)
    (before after : Cluster) : Prop where
  links : op.KeepsLinks → SameLinks before after
  counters :
    op.TakesNothing → after.counters = before.counters
  replies :
    op.PublishesNothing → after.replies = before.replies

theorem keeps_of_eq
    {op : ServerOp}
    {before after : Cluster}
    (hWire : after.wire = before.wire)
    (hConns : after.conns = before.conns)
    (hCounters : after.counters = before.counters)
    (hReplies : after.replies = before.replies) :
    Keeps op before after :=
  ⟨fun _ => ⟨hWire, hConns⟩, fun _ => hCounters,
    fun _ => hReplies⟩

/- Every operation of a node. -/
theorem answer_keeps
    (env : Externals)
    (id : NodeId)
    (op : ServerOp)
    (cluster : Cluster) :
    Keeps op cluster (answer env id op cluster).2 := by
  cases op
  case findAndSend userid payload =>
    refine ⟨False.elim, fun _ => ?_, fun _ => ?_⟩
    all_goals
      simp only [answer, sendWithHeader]
      split
      · split <;> rfl
      · rfl
  case send conn body =>
    refine ⟨False.elim, fun _ => ?_, fun _ => ?_⟩
    all_goals
      simp only [answer, sendWithHeader]
      split <;> rfl
  case shutdown conn =>
    refine ⟨False.elim, fun _ => ?_, fun _ => ?_⟩
    all_goals
      simp only [answer, shutdown]
      split <;> rfl
  case incrSeq conversationId =>
    exact
      ⟨fun _ => ⟨rfl, rfl⟩, False.elim, fun _ => rfl⟩
  case publish channel message =>
    simp only [answer, publish, Redis.publishCommand]
    split <;>
      exact
        ⟨fun _ => ⟨rfl, rfl⟩, fun _ => rfl, False.elim⟩
  case insertConn userid conn =>
    simp only [answer, insertConn]
    split <;> exact keeps_of_eq rfl rfl rfl rfl
  case eraseConnOf conn =>
    simp only [answer, eraseConnOf]
    split <;> exact keeps_of_eq rfl rfl rfl rfl
  case subscribe channel =>
    simp only [answer, appendCommand]
    split <;> exact keeps_of_eq rfl rfl rfl rfl
  case unsubscribe channel =>
    simp only [answer, appendCommand]
    split <;> exact keeps_of_eq rfl rfl rfl rfl
  case insertUser user =>
    simp only [answer]
    split <;> exact keeps_of_eq rfl rfl rfl rfl
  all_goals exact keeps_of_eq rfl rfl rfl rfl

theorem stored_answer_of_keeps
    (env : Externals)
    {op : ServerOp}
    (hKeeps : op.KeepsOffline)
    (id : NodeId)
    (cluster : Cluster)
    (userid : Int)
    (msg : String) :
    OfflineMessageModel.Stored
        (cluster.answer env id op).2.db userid msg ↔
      OfflineMessageModel.Stored cluster.db userid msg := by
  have hFrame := answer_frame env id op cluster
  unfold OfflineMessageModel.Stored
  rw [hFrame.offline hKeeps]

/- The table after an operation, one message at a time. -/
theorem stored_answer_iff
    (env : Externals)
    (id : NodeId)
    (op : ServerOp)
    (cluster : Cluster)
    (userid : Int)
    (msg : String) :
    OfflineMessageModel.Stored
        (cluster.answer env id op).2.db userid msg ↔
      (OfflineMessageModel.Stored cluster.db userid msg ∧
          op ≠ .removeOffline userid) ∨
        op = .insertOffline userid msg := by
  cases op
  case insertOffline other text =>
    refine
      (OfflineMessageModel.stored_insert_iff _ _ _ _ _
        _).trans ?_
    simp [eq_comm]
  case removeOffline other =>
    refine
      (OfflineMessageModel.stored_remove_iff _ _ _ _).trans ?_
    simp [eq_comm]
  all_goals
    refine (stored_answer_of_keeps env ?_ id _ _ _).trans ?_
    · trivial
    · simp

/- The user that a closing finds is mapped to the connection;
where none is found, nobody is. -/
theorem firstUserOf_cases
    (cluster : Cluster)
    (id : NodeId)
    (conn : ConnId) :
    (∃ userid,
      cluster.firstUserOf id conn = some userid ∧
        cluster.connOf id userid = some conn) ∨
      (cluster.firstUserOf id conn = none ∧
        ∀ userid, cluster.connOf id userid ≠ some conn) := by
  unfold firstUserOf
  cases hFound :
      (cluster.nodes id).userConnMap.entries.find?
        (fun entry => entry.2 = conn) with
  | some entry =>
      refine Or.inl ⟨entry.1, rfl, ?_⟩
      have hMember := List.mem_of_find?_eq_some hFound
      have hConn : entry.2 = conn := by
        simpa using List.find?_some hFound
      rw [← hConn]
      exact AList.mem_lookup_iff.mpr hMember
  | none =>
      refine Or.inr ⟨rfl, ?_⟩
      intro userid hConn
      have hMember := AList.mem_lookup_iff.mp hConn
      have := List.find?_eq_none.mp hFound _ hMember
      simp at this

/- Every entry of a map was there, or it is the one that is
inserted. -/
theorem connOf_of_answer
    {env : Externals}
    {id node : NodeId}
    {op : ServerOp}
    {cluster : Cluster}
    {userid : Int}
    {conn : ConnId}
    (hConn :
      (cluster.answer env node op).2.connOf id userid =
        some conn) :
    cluster.connOf id userid = some conn ∨
      op = .insertConn userid conn := by
  by_cases hKeeps : op.KeepsMaps
  · rw [(answer_frame env node op cluster).maps hKeeps]
      at hConn
    exact Or.inl hConn
  by_cases hNode : id = node
  · rw [hNode] at hConn ⊢
    cases op with
    | insertConn other mapped =>
        simp only [answer, insertConn] at hConn
        split at hConn
        · exact Or.inl hConn
        · rw [connOf_setMap_self] at hConn
          by_cases hUser : userid = other
          · rw [hUser, AList.lookup_insert] at hConn
            rw [hUser, Option.some.inj hConn]
            exact Or.inr rfl
          · rw [AList.lookup_insert_ne hUser] at hConn
            exact Or.inl hConn
    | eraseConn other =>
        simp only [answer] at hConn
        rw [connOf_setMap_self] at hConn
        by_cases hUser : userid = other
        · rw [hUser, AList.lookup_erase] at hConn
          cases hConn
        · rw [AList.lookup_erase_ne hUser] at hConn
          exact Or.inl hConn
    | eraseConnOf other =>
        simp only [answer, eraseConnOf] at hConn
        split at hConn
        · rename_i first _
          rw [connOf_setMap_self] at hConn
          by_cases hUser : userid = first
          · rw [hUser, AList.lookup_erase] at hConn
            cases hConn
          · rw [AList.lookup_erase_ne hUser] at hConn
            exact Or.inl hConn
        · exact Or.inl hConn
    | _ => exact absurd trivial hKeeps
  · rw [(answer_apart env node op cluster).maps id hNode]
      at hConn
    exact Or.inl hConn

end Cluster

------------------------------------------------------------
-- Two Accounts
------------------------------------------------------------

/- The digests of the two salted passwords below. -/
def sampleSha256 (input : Bytes) : Bytes :=
  if input = utf8 "0123456789abcdef0123456789abcdefsecret" then
    [11, 204, 165, 79, 228, 188, 104, 29, 49, 221, 25, 34,
      209, 207, 78, 142, 61, 69, 72, 164, 188, 202, 143, 211,
      61, 71, 203, 236, 6, 253, 65, 224]
  else if
      input =
        utf8 "fedcba9876543210fedcba9876543210secret" then
    [51, 225, 69, 95, 136, 80, 199, 85, 111, 19, 211, 8, 142,
      68, 102, 50, 179, 7, 231, 53, 119, 150, 35, 175, 32,
      215, 37, 220, 46, 206, 60, 67]
  else
    []

/- A codec for the given frames, and plain comparison. -/
def sampleExternals (known : List Json) : Externals where
  codec := JsonCodec.ofTable known
  sha256 := sampleSha256
  collate := fun text => text

/- The row that `reg` stores for an account. -/
def sampleUser
    (id : Int)
    (name salt : String) : User where
  id := id
  name := name
  password :=
    crypto.hashPassword sampleSha256 (utf8 salt)
      (utf8 "secret")
  salt := utf8 salt

/- Two registered users who are offline. -/
def sampleUsers : UserTable where
  rows :=
    [sampleUser 1 "ann" "0123456789abcdef0123456789abcdef",
      sampleUser 2 "bob" "fedcba9876543210fedcba9876543210"]
  nextId := 3
  started := by decide
  nodup := by decide
  positive := by decide
  below := by decide

/- A database with two users and some stored messages. -/
def sampleDatabase (offline : List OfflineRow) : Database where
  users := sampleUsers
  friends := []
  groups := []
  nextGroup := 1
  groupUsers := []
  offline := offline
  nextOffline := offline.length + 1

/- Freshly started nodes; every connection ends at node 1. -/
def sampleCluster (offline : List OfflineRow) : Cluster where
  nodes := fun _ => {}
  counters := fun _ => 0
  subscriptions := Subscriptions.empty
  replies := []
  db := sampleDatabase offline
  home := fun _ => 1
  conns := fun _ => .connected
  wire := fun _ => []

/- The members of a login frame. -/
def sampleLogin (name : String) : JsonObject :=
  [("msgid", .unsigned EnMsgType.loginMsg.code),
    ("name", .string name), ("password", .string "secret")]

/- The members of a chat frame. -/
def sampleChat (fromid toid : Int) : JsonObject :=
  [("id", .integer fromid), ("msg", .string "hi"),
    ("msgid", .unsigned EnMsgType.oneChatMsg.code),
    ("toid", .integer toid)]

/- The readings of every handler. -/
def sampleReadings : Readings where
  time := 1700000000000000
  salt := []

end ClusterChat
