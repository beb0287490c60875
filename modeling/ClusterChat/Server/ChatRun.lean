import ClusterChat.Library.NumberedCopies
import ClusterChat.Server.World

/-
  Chat frames that one node handles, in the order in which
  they take their numbers.

  Everyone who is written to is logged in on the node, so
  each frame puts its payload on the connections of its
  recipients and does nothing else.

  Main declarations:
    * `ChatFrame` and `ChatFrame.payload`
    * `Cluster.Serves` and `Cluster.handleFrames`
    * `Cluster.execute_frame`
    * `Cluster.wire_handleFrames`
    * `World.run_frames`
-/

------------------------------------------------------------
-- Chat Frames
------------------------------------------------------------

namespace ClusterChat

/- Whom a chat frame is for. -/
inductive Addressee where
| user (toid : Int)
| group (groupid : Int)

namespace Addressee

/- The message type of the frame. -/
def msgid : Addressee → Nat
| user _ => EnMsgType.oneChatMsg.code
| group _ => EnMsgType.groupChatMsg.code

/- The member with the addressee. -/
def key : Addressee → String
| user _ => "toid"
| group _ => "groupid"

/- The value of this member. -/
def id : Addressee → Int
| user toid => toid
| group groupid => groupid

end Addressee

/- A frame that reaches `onechat` or `groupchat`, with what
the handler reads from it. -/
structure ChatFrame (env : Externals) where
  conn : ConnId
  body : String
  readings : Readings
  fields : JsonObject
  sender : Int
  addressee : Addressee
  parsed : env.codec.parse body = some (.object fields)
  isInteger :
    (JsonObject.field fields "msgid").isNumberInteger = true
  typed :
    (JsonObject.field fields "msgid").getInt =
      .ok addressee.msgid
  named :
    (JsonObject.field fields "id").getInt = .ok sender
  addressed :
    (JsonObject.field fields addressee.key).getInt =
      .ok addressee.id

namespace ChatFrame

variable {env : Externals}

/- The conversation of a frame. -/
def convId (frame : ChatFrame env) : String :=
  match frame.addressee with
  | .user toid => conv.p2p frame.sender toid
  | .group groupid => conv.group groupid

/- The message that is sent on with a number. -/
def message
    (frame : ChatFrame env)
    (seq : Nat) : Json :=
  .object
    (ChatService.stamp frame.convId seq frame.readings.time
      frame.fields)

def payload
    (frame : ChatFrame env)
    (seq : Nat) : String :=
  env.codec.dump (frame.message seq)

/- The users the payload is for. -/
def recipients
    (frame : ChatFrame env)
    (db : Database) : List Int :=
  match frame.addressee with
  | .user toid => [toid]
  | .group groupid =>
      GroupModel.queryGroupUsers db frame.sender groupid

/- The handler of the frame. -/
def handler (frame : ChatFrame env) : Handler Unit :=
  match frame.addressee with
  | .user _ =>
      ChatService.onechat env frame.fields frame.readings
  | .group _ =>
      ChatService.groupchat env frame.fields frame.readings

theorem onMessage_eq (frame : ChatFrame env) :
    ChatServer.onMessage env frame.conn frame.body
        frame.readings =
      ChatServer.guarded frame.conn frame.handler := by
  unfold ChatServer.onMessage ChatServer.dispatch
  rw [frame.parsed]
  dsimp only
  rw [if_pos frame.isInteger, frame.typed, orThrow_ok,
    Process.ret_bind]
  unfold handler
  cases frame.addressee <;> rfl

/- What the handler does with its payload. -/
def route
    (frame : ChatFrame env)
    (payload : String) : Handler Unit :=
  match frame.addressee with
  | .user toid => ChatService.routeOne toid payload
  | .group groupid => do
      let useridVec : List Int ←
        ask (.queryGroupUsers frame.sender groupid)
      ChatService.routeGroup useridVec payload

/- Every handler takes a number first. -/
theorem handler_eq (frame : ChatFrame env) :
    frame.handler = (do
      let seq : Nat ← ask (.incrSeq frame.convId)
      frame.route (frame.payload seq)) := by
  have hAddressed := frame.addressed
  unfold handler
  cases hAddressee : frame.addressee with
  | user toid =>
      have hToid :
          (JsonObject.field frame.fields "toid").getInt =
            .ok toid := by
        rw [hAddressee] at hAddressed
        exact hAddressed
      have hConv :
          frame.convId = conv.p2p frame.sender toid := by
        unfold convId
        rw [hAddressee]
      dsimp only
      unfold ChatService.onechat payload message route
      rw [hAddressee, frame.named, hToid, hConv]
      rfl
  | group groupid =>
      have hGroupid :
          (JsonObject.field frame.fields "groupid").getInt =
            .ok groupid := by
        rw [hAddressee] at hAddressed
        exact hAddressed
      have hConv : frame.convId = conv.group groupid := by
        unfold convId
        rw [hAddressee]
      dsimp only
      unfold ChatService.groupchat payload message route
      rw [hAddressee, frame.named, hGroupid, hConv]
      rfl

/- The message arrives with its conversation and number. -/
theorem numbered?_message
    (frame : ChatFrame env)
    (seq : Nat) :
    (frame.message seq).normalize.numbered? =
      some (frame.convId, seq) :=
  Json.numbered?_normalize
    (ChatService.numbered?_stamp _ _ _ _)

end ChatFrame

namespace Cluster

------------------------------------------------------------
-- One Frame
------------------------------------------------------------

/- Redis has counted one more message. -/
def counted
    (cluster : Cluster)
    (conversationId : String) : Cluster :=
  { cluster with
    counters :=
      Numbering.increment cluster.counters conversationId }

/- Write a payload to several connections. -/
def deliver
    (payload : String)
    (conns : List ConnId)
    (cluster : Cluster) : Cluster :=
  conns.foldl
    (fun cluster conn => cluster.sendWithHeader conn payload)
    cluster

/- Nothing but the wire changes. -/
theorem deliver_eq
    (payload : String)
    (conns : List ConnId)
    (cluster : Cluster) :
    deliver payload conns cluster =
      { cluster with
        wire := (deliver payload conns cluster).wire } := by
  unfold deliver
  induction conns generalizing cluster with
  | nil => rfl
  | cons conn conns ih =>
      rw [List.foldl_cons, ih]
      unfold sendWithHeader
      split <;> rfl

/- A connected client gets one copy for each time its
connection is listed. -/
theorem wire_deliver
    {cluster : Cluster}
    {conn : ConnId}
    (hConnected : cluster.conns conn = .connected)
    (payload : String)
    (conns : List ConnId) :
    (deliver payload conns cluster).wire conn =
      cluster.wire conn ++
        List.replicate (conns.count conn) payload := by
  unfold deliver
  induction conns generalizing cluster with
  | nil => simp
  | cons first conns ih =>
      have hStill :
          (cluster.sendWithHeader first payload).conns conn =
            .connected := by
        unfold sendWithHeader
        split <;> exact hConnected
      rw [List.foldl_cons, ih hStill]
      by_cases hFirst : first = conn
      · rw [hFirst, List.count_cons_self,
          List.replicate_succ]
        unfold sendWithHeader
        rw [if_pos hConnected]
        simp
      · rw [List.count_cons_of_ne hFirst]
        unfold sendWithHeader
        split
        · simp [Function.update_of_ne (Ne.symm hFirst)]
        · rfl

variable {env : Externals} {id : NodeId}

theorem exec_sendAll
    (payload : String)
    (conns : List ConnId)
    (cluster : Cluster) :
    Process.exec (answer env id)
        (ChatService.sendAll payload conns) cluster =
      (.ok (), deliver payload conns cluster) := by
  induction conns generalizing cluster with
  | nil => rfl
  | cons conn conns ih => exact ih _

/- Redis answers with the next number. -/
theorem takeNumber_counted
    {cluster : Cluster}
    {conversationId : String}
    (hSends : (cluster.nodes id).redis.sendsIncr = true)
    (hInteger : (cluster.nodes id).incrOutcome = .integer)
    (hRoom :
      cluster.counters conversationId + 1 < 2 ^ 64) :
    cluster.takeNumber id conversationId =
      (cluster.counters conversationId + 1,
        cluster.counted conversationId) := by
  have hCounts :
      Numbering.countsCall
          (cluster.nodes id).redis.sendsIncr
          (cluster.nodes id).incrOutcome = true := by
    rw [hSends, hInteger]
    rfl
  have hStep :
      Numbering.step
          { client := (cluster.nodes id).redis
            counters := cluster.counters }
          (.call conversationId
            (cluster.nodes id).incrOutcome) = _ :=
    Numbering.step_counted hCounts hRoom
  have hState := congrArg Prod.fst hStep
  have hNumber := congrArg Prod.snd hStep
  simp only [Numbering.step, List.cons.injEq, Prod.mk.injEq,
    true_and, and_true] at hState hNumber
  unfold takeNumber counted setNode
  dsimp only
  rw [hState, hNumber, Function.update_eq_self]

/- The message of `onechat` goes to the one recipient. -/
theorem exec_routeOne
    {cluster : Cluster}
    {toid : Int}
    {conn : ConnId}
    (hConn : cluster.connOf id toid = some conn)
    (payload : String) :
    Process.exec (answer env id)
        (ChatService.routeOne toid payload) cluster =
      (.ok (), deliver payload [conn] cluster) := by
  have hAnswer :
      answer env id (.findAndSend toid payload) cluster =
        (true, cluster.sendWithHeader conn payload) := by
    simp only [answer]
    rw [hConn]
  unfold ChatService.routeOne
  rw [ask_bind, Process.exec_act, hAnswer]
  rfl

/- The message of `groupchat` goes to every recipient. -/
theorem exec_routeGroup
    {cluster : Cluster}
    {users : List Int}
    (hLoggedIn :
      ∀ user ∈ users,
        (cluster.connOf id user).isSome = true)
    (payload : String) :
    Process.exec (answer env id)
        (ChatService.routeGroup users payload) cluster =
      (.ok (),
        deliver payload
          (users.filterMap (cluster.connOf id)) cluster) := by
  have hNobody :
      (users.filter fun user =>
        (cluster.connOf id user).isNone) = [] := by
    apply List.filter_eq_nil_iff.mpr
    intro user hUser
    simp [Option.isSome_iff_ne_none.mp (hLoggedIn user hUser)]
  unfold ChatService.routeGroup
  rw [ask_bind, Process.exec_act]
  simp only [answer]
  rw [hNobody, Process.exec_bind, exec_sendAll]
  rfl

/- What the handler of a frame does with its number. -/
theorem exec_handler
    (frame : ChatFrame env)
    {cluster : Cluster}
    (hSends : (cluster.nodes id).redis.sendsIncr = true)
    (hInteger : (cluster.nodes id).incrOutcome = .integer)
    (hRoom : cluster.counters frame.convId + 1 < 2 ^ 64)
    (hLoggedIn :
      ∀ user ∈ frame.recipients cluster.db,
        (cluster.connOf id user).isSome = true) :
    Process.exec (answer env id) frame.handler cluster =
      (.ok (),
        (cluster.counted frame.convId).deliver
          (frame.payload
            (cluster.counters frame.convId + 1))
          ((frame.recipients cluster.db).filterMap
            (cluster.connOf id))) := by
  have hAnswer :
      answer env id (.incrSeq frame.convId) cluster =
        (cluster.counters frame.convId + 1,
          cluster.counted frame.convId) :=
    takeNumber_counted hSends hInteger hRoom
  rw [frame.handler_eq, ask_bind, Process.exec_act, hAnswer]
  unfold ChatFrame.recipients ChatFrame.route at *
  cases hAddressee : frame.addressee with
  | user toid =>
      rw [hAddressee] at hLoggedIn
      rcases Option.isSome_iff_exists.mp
          (hLoggedIn toid List.mem_cons_self) with
        ⟨conn, hConn⟩
      have hThere :
          (cluster.counted frame.convId).connOf id toid =
            some conn :=
        hConn
      have hConns :
          [toid].filterMap (cluster.connOf id) = [conn] := by
        simp [hConn]
      dsimp only
      rw [hConns]
      exact exec_routeOne hThere _
  | group groupid =>
      rw [hAddressee] at hLoggedIn
      have hThere :
          ∀ user ∈
            GroupModel.queryGroupUsers cluster.db
              frame.sender groupid,
            ((cluster.counted frame.convId).connOf id
              user).isSome = true :=
        hLoggedIn
      dsimp only
      rw [ask_bind, Process.exec_act]
      exact exec_routeGroup hThere _

/- A frame puts its payload on the connections of its
recipients. -/
theorem execute_frame
    (frame : ChatFrame env)
    {cluster : Cluster}
    (hSends : (cluster.nodes id).redis.sendsIncr = true)
    (hInteger : (cluster.nodes id).incrOutcome = .integer)
    (hRoom : cluster.counters frame.convId + 1 < 2 ^ 64)
    (hLoggedIn :
      ∀ user ∈ frame.recipients cluster.db,
        (cluster.connOf id user).isSome = true) :
    cluster.execute env id
        (ChatServer.onMessage env frame.conn frame.body
          frame.readings) =
      (cluster.counted frame.convId).deliver
        (frame.payload (cluster.counters frame.convId + 1))
        ((frame.recipients cluster.db).filterMap
          (cluster.connOf id)) := by
  unfold execute
  rw [frame.onMessage_eq]
  unfold ChatServer.guarded
  rw [Process.exec_tryCatch,
    exec_handler frame hSends hInteger hRoom hLoggedIn]

------------------------------------------------------------
-- A Run of Frames
------------------------------------------------------------

/- A node handles frames one after another. -/
def handleFrames
    (env : Externals)
    (id : NodeId)
    (frames : List (ChatFrame env))
    (cluster : Cluster) : Cluster :=
  frames.foldl
    (fun cluster frame =>
      cluster.execute env id
        (ChatServer.onMessage env frame.conn frame.body
          frame.readings))
    cluster

/-
  `INCR` never fails: Redis is available, and every number
  fits into its signed 64 bits.  Everyone who is written to
  is logged in on the node.
-/
structure Serves
    (id : NodeId)
    (cluster : Cluster)
    (frames : List (ChatFrame env)) : Prop where
  sends : (cluster.nodes id).redis.sendsIncr = true
  integer : (cluster.nodes id).incrOutcome = .integer
  room :
    ∀ conversationId,
      cluster.counters conversationId +
          frames.countP (fun frame =>
            frame.convId = conversationId) <
        2 ^ 63
  loggedIn :
    ∀ frame ∈ frames,
      ∀ user ∈ frame.recipients cluster.db,
        (cluster.connOf id user).isSome = true

/- The copies of a frame's payload on a connection. -/
def copiesOn
    (cluster : Cluster)
    (id : NodeId)
    (conn : ConnId)
    (frame : ChatFrame env) : Nat :=
  ((frame.recipients cluster.db).filterMap
    (cluster.connOf id)).count conn

/- The recipients that share the connection of a user; for
a connection of one's own these are one's own entries. -/
def copiesFor
    (cluster : Cluster)
    (id : NodeId)
    (u : Int)
    (frame : ChatFrame env) : Nat :=
  (frame.recipients cluster.db).countP fun user =>
    cluster.connOf id user = cluster.connOf id u

theorem copiesOn_eq_copiesFor
    {cluster : Cluster}
    {u : Int}
    {conn : ConnId}
    (hConn : cluster.connOf id u = some conn)
    (frame : ChatFrame env) :
    cluster.copiesOn id conn frame =
      cluster.copiesFor id u frame := by
  unfold copiesOn copiesFor
  rw [List.count_filterMap, hConn]
  apply List.countP_congr
  intro user _
  simp

/- The frames with their numbers, once for each copy. -/
def pushed
    (copies : ChatFrame env → Nat) :
    (counters : String → Nat) →
      List (ChatFrame env) → List (ChatFrame env × Nat)
| _, [] => []
| counters, frame :: frames =>
    List.replicate (copies frame)
        (frame, counters frame.convId + 1) ++
      pushed copies
        (Numbering.increment counters frame.convId) frames

variable {cluster : Cluster}
variable {frame : ChatFrame env}
variable {frames : List (ChatFrame env)}

/- The first frame of a run. -/
theorem execute_first_frame
    (hServes : cluster.Serves id (frame :: frames)) :
    ∃ wire,
      cluster.execute env id
          (ChatServer.onMessage env frame.conn frame.body
            frame.readings) =
        { cluster.counted frame.convId with wire := wire } ∧
      ∀ conn,
        cluster.conns conn = .connected →
          wire conn =
            cluster.wire conn ++
              List.replicate (cluster.copiesOn id conn frame)
                (frame.payload
                  (cluster.counters frame.convId + 1)) := by
  have hFits := hServes.room frame.convId
  rw [List.countP_cons_of_pos (by simp)] at hFits
  have hRoom :
      cluster.counters frame.convId + 1 < 2 ^ 64 := by
    omega
  rw [execute_frame frame hServes.sends hServes.integer hRoom
    (hServes.loggedIn frame List.mem_cons_self)]
  refine ⟨_, deliver_eq _ _ _, ?_⟩
  intro conn hConnected
  have hStill :
      (cluster.counted frame.convId).conns conn =
        .connected :=
    hConnected
  exact wire_deliver hStill _ _

/- The rest of a run starts from the state that the first
frame leaves. -/
theorem Serves.tail
    (hServes : cluster.Serves id (frame :: frames))
    (wire : ConnId → List String) :
    Serves id
      { cluster.counted frame.convId with wire := wire }
      frames where
  sends := hServes.sends
  integer := hServes.integer
  room := by
    intro conversationId
    have hFits := hServes.room conversationId
    unfold counted
    dsimp only
    by_cases hSame : frame.convId = conversationId
    · rw [List.countP_cons_of_pos (by simpa using hSame)]
        at hFits
      rw [hSame, Numbering.increment_self]
      omega
    · rw [List.countP_cons_of_neg (by simpa using hSame)]
        at hFits
      rw [Numbering.increment_of_ne _ (Ne.symm hSame)]
      exact hFits
  loggedIn := by
    intro other hOther
    exact
      hServes.loggedIn other (List.mem_cons_of_mem _ hOther)

/- A connection gets the payloads with their numbers. -/
theorem wire_handleFrames
    (hServes : cluster.Serves id frames)
    {conn : ConnId}
    (hConnected : cluster.conns conn = .connected) :
    (handleFrames env id frames cluster).wire conn =
      cluster.wire conn ++
        (pushed (cluster.copiesOn id conn) cluster.counters
          frames).map fun entry =>
            entry.1.payload entry.2 := by
  induction frames generalizing cluster with
  | nil => simp [handleFrames, pushed]
  | cons frame frames ih =>
      rcases execute_first_frame hServes with
        ⟨wire, hExecute, hWire⟩
      have hBehind := ih (hServes.tail wire) hConnected
      unfold handleFrames at hBehind ⊢
      rw [List.foldl_cons, hExecute, hBehind]
      dsimp only
      rw [hWire conn hConnected, pushed, List.map_append,
        List.map_replicate, List.append_assoc]
      rfl

/- A number comes from the frame's own counter. -/
theorem of_mem_pushed
    {copies : ChatFrame env → Nat}
    {counters : String → Nat}
    {entry : ChatFrame env × Nat}
    (hEntry : entry ∈ pushed copies counters frames) :
    entry.1 ∈ frames ∧
      counters entry.1.convId < entry.2 ∧
        entry.2 ≤
          counters entry.1.convId +
            frames.countP fun frame =>
              frame.convId = entry.1.convId := by
  induction frames generalizing counters with
  | nil => simp [pushed] at hEntry
  | cons frame frames ih =>
      rcases List.mem_append.mp hEntry with hHere | hThere
      · rw [List.eq_of_mem_replicate hHere]
        refine ⟨List.mem_cons_self, by simp, ?_⟩
        rw [List.countP_cons_of_pos (by simp)]
        dsimp only
        omega
      · rcases ih hThere with ⟨hMember, hAbove, hBelow⟩
        refine ⟨List.mem_cons_of_mem _ hMember, ?_⟩
        by_cases hSame : frame.convId = entry.1.convId
        · rw [hSame, Numbering.increment_self]
            at hAbove hBelow
          rw [List.countP_cons_of_pos (by simpa using hSame)]
          omega
        · rw [Numbering.increment_of_ne _ (Ne.symm hSame)]
            at hAbove hBelow
          rw [List.countP_cons_of_neg (by simpa using hSame)]
          exact ⟨hAbove, hBelow⟩

/- The numbers in one conversation are those of its frames,
once for each copy. -/
theorem numbersIn_pushed
    (copies : ChatFrame env → Nat)
    (counters : String → Nat)
    (frames : List (ChatFrame env))
    (conversationId : String) :
    numbersIn conversationId
        ((pushed copies counters frames).map fun entry =>
          (entry.1.message entry.2).normalize) =
      NumberedCopies.numberCopies
        (counters conversationId + 1)
        ((frames.filter fun frame =>
          frame.convId = conversationId).map copies) := by
  induction frames generalizing counters with
  | nil => rfl
  | cons frame frames ih =>
      have hNumbered := frame.numbered?_message
      rw [pushed, List.map_append, numbersIn_append, ih,
        List.map_replicate]
      by_cases hSame : frame.convId = conversationId
      · rw [hSame] at hNumbered
        have hSeq :
            (frame.message
              (counters conversationId + 1)).normalize.seqIn
                conversationId =
              some (counters conversationId + 1) :=
          Json.seqIn_eq_some_iff.mpr (hNumbered _)
        rw [List.filter_cons_of_pos (by simpa using hSame),
          List.map_cons, NumberedCopies.numberCopies, hSame,
          Numbering.increment_self]
        congr 1
        exact List.filterMap_replicate_of_some hSeq
      · have hSeq :
            (frame.message
              (counters frame.convId + 1)).normalize.seqIn
                conversationId = none := by
          unfold Json.seqIn
          rw [hNumbered]
          exact if_neg hSame
        rw [List.filter_cons_of_neg (by simpa using hSame),
          Numbering.increment_of_ne _ (Ne.symm hSame)]
        unfold numbersIn
        rw [List.filterMap_replicate_of_none hSeq]
        rfl

end Cluster

------------------------------------------------------------
-- The Frames as a Run
------------------------------------------------------------

namespace World

/- A node whose handlers are through handles the frames of
its connections one after another. -/
theorem run_frames
    {env : Externals}
    {id : NodeId}
    (observer : Observer)
    {cluster : Cluster}
    {frames : List (ChatFrame env)}
    (hServes : cluster.Serves id frames)
    (hSenders :
      ∀ frame ∈ frames,
        cluster.home frame.conn = id ∧
          cluster.conns frame.conn ≠ .disconnected)
    (log : List Performed) :
    ∃ labels final,
      Transition.Run (step env observer) (fun _ _ => True)
          { cluster := cluster
            threads := []
            log := log } labels final ∧
        final.cluster =
          cluster.handleFrames env id frames ∧
          final.threads = [] := by
  induction frames generalizing cluster log with
  | nil => exact ⟨[], _, Transition.Run.nil, rfl, rfl⟩
  | cons frame frames ih =>
      rcases Cluster.execute_first_frame hServes with
        ⟨wire, hExecute, _⟩
      rcases hSenders frame List.mem_cons_self with
        ⟨hHome, hUp⟩
      rcases run_alone env observer id
          (.connection frame.conn)
          (ChatServer.onMessage env frame.conn frame.body
            frame.readings) cluster log with
        ⟨labels, middle, hHandled, hCluster, hThreads⟩
      have hFirst :
          Transition.Run (step env observer)
            (fun _ _ => True)
            { cluster := cluster
              threads := []
              log := log }
            [.frame frame.conn frame.body frame.readings]
            { cluster := cluster
              threads :=
                [⟨id, .connection frame.conn,
                  ChatServer.onMessage env frame.conn
                    frame.body frame.readings⟩]
              log := log } := by
        apply Transition.Run.single trivial
        simp only [step, busy, List.any_nil, hUp,
          Bool.false_eq_true, or_self, if_false]
        unfold spawn frameThread
        rw [hHome]
        rfl
      have hMiddle :
          middle =
            { cluster :=
                { cluster.counted frame.convId with
                  wire := wire }
              threads := []
              log := middle.log } := by
        rw [← hExecute, ← hCluster, ← hThreads]
      have hBehind :=
        ih (hServes.tail wire)
          (fun other hOther =>
            hSenders other (List.mem_cons_of_mem _ hOther))
          middle.log
      rw [← hMiddle] at hBehind
      rcases hBehind with ⟨others, final, hRun, hFinal⟩
      refine
        ⟨_, final, (hFirst.append hHandled).append hRun, ?_⟩
      unfold Cluster.handleFrames
      rw [List.foldl_cons, hExecute]
      exact hFinal

end World

end ClusterChat
