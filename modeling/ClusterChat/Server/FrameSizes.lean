import ClusterChat.Client.FrameLoop
import ClusterChat.JsonSize
import ClusterChat.Server.ChatRun
import ClusterChat.Server.Fetch
import ClusterChat.Server.FrameLoop

/-
  The sizes of the frames that the server sends.

  The limit is tested where frames are read.  What a handler
  sends may be larger: a chat message gets three members, and
  a login answer holds all stored messages, friends, and
  groups.  `sendWithHeader` writes any size, and the client
  takes a size above the limit for the end of the connection.

  The sizes are computed from the members of the frame and
  from the rows of the tables.

  Main declarations:
    * `Client.Accepts` and `Client.accepts_iff`
    * `Cluster.writes` and `Cluster.wire_handled`
    * `stampedSize` and `allAccepted_chatFrame_iff`
    * `loginMembers` and `allAccepted_loginFrame_iff`
-/

------------------------------------------------------------
-- What the Client Accepts
------------------------------------------------------------

namespace ClusterChat

/- When the frame is all that comes, `recvFrame` returns its
body. -/
def Client.Accepts (body : String) : Prop :=
  Client.recvFrames [] [ChatServer.frameOf (utf8 body)] =
    ([utf8 body], [])

theorem length_utf8 (text : String) :
    (utf8 text).length = text.utf8ByteSize := rfl

theorem Client.accepts_iff (body : String) :
    Client.Accepts body ↔
      1 ≤ body.utf8ByteSize ∧
        body.utf8ByteSize ≤ kMaxFrameLen := by
  have hStream :
      [] ++ [ChatServer.frameOf (utf8 body)].flatten =
        ([utf8 body].map frameFormat.frame).flatten ++
          [] := by
    simp only [List.flatten_cons, List.flatten_nil,
      List.map_cons, List.map_nil, List.append_nil,
      List.nil_append]
    rfl
  unfold Client.Accepts
  rw [Client.recvFrames_eq, ← length_utf8, ← legal_iff]
  constructor
  · intro hSame
    have hBodies := congrArg Prod.fst hSame
    dsimp only at hBodies
    apply LengthPrefixed.legal_of_mem_parse
    rw [hBodies]
    exact List.mem_singleton_self _
  · intro hLegal
    have hParse :=
      LengthPrefixed.parse_frames
        (fun other hOther => by
          rw [List.mem_singleton.mp hOther]
          exact hLegal)
        []
    dsimp only
    rw [hStream, hParse,
      LengthPrefixed.parse_of_drained
        LengthPrefixed.drained_nil]
    simp [stopped, LengthPrefixed.front_nil]

------------------------------------------------------------
-- What the Server Sends
------------------------------------------------------------

/- The operation writes to no connection. -/
def ServerOp.SendsNothing : ServerOp → Prop
| findAndSend _ _ => False
| send _ _ => False
| _ => True

namespace Cluster

/- What `sendWithHeader` writes: only a connected connection
is written to. -/
def writeTo
    (cluster : Cluster)
    (body : String)
    (conn : ConnId) : List (ConnId × String) :=
  if cluster.conns conn = .connected then
    [(conn, body)]
  else
    []

/- What an operation of a node writes. -/
def emits
    (id : NodeId)
    (cluster : Cluster) :
    ServerOp → List (ConnId × String)
| .send conn body => cluster.writeTo body conn
| .findAndSend userid payload =>
    (cluster.connOf id userid).toList.flatMap
      (cluster.writeTo payload)
| _ => []

/- What a handler writes that is not interrupted. -/
def writes
    {α : Type}
    (env : Externals)
    (id : NodeId)
    (handler : Handler α)
    (cluster : Cluster) : List (ConnId × String) :=
  Process.collect (answerFetched env id) (emits id) handler
    cluster

/- The state that it leaves. -/
def handled
    (env : Externals)
    (id : NodeId)
    (handler : Handler Unit)
    (cluster : Cluster) : Cluster :=
  (Process.exec (answerFetched env id) handler cluster).2

section Writes

variable {env : Externals} {id : NodeId}
variable {cluster : Cluster}

theorem state_answerFetched
    (op : ServerOp)
    (cluster : Cluster) :
    (answerFetched env id op cluster).2 =
      (answer env id op cluster).2 := by
  cases op <;> rfl

theorem emits_of_sendsNothing
    {op : ServerOp}
    (hNothing : op.SendsNothing)
    (cluster : Cluster) :
    cluster.emits id op = [] := by
  cases op with
  | findAndSend userid payload => exact hNothing.elim
  | send conn body => exact hNothing.elim
  | _ => rfl

/- Connections are the same after all but `shutdown`. -/
theorem conns_written
    (cluster : Cluster)
    (conn : ConnId)
    (body : String) :
    (cluster.sendWithHeader conn body).conns =
      cluster.conns := by
  unfold sendWithHeader
  split <;> rfl

theorem wire_writeTo
    (cluster : Cluster)
    (target conn : ConnId)
    (body : String) :
    (cluster.sendWithHeader target body).wire conn =
      cluster.wire conn ++
        ((cluster.writeTo body target).filter fun entry =>
          entry.1 = conn).map Prod.snd := by
  unfold sendWithHeader writeTo
  split_ifs
  · by_cases hSame : target = conn
    · simp [hSame]
    · simp [hSame, Function.update_of_ne (Ne.symm hSame)]
  · simp

/- What was written to a connection is what is on its wire. -/
theorem wire_emits
    (op : ServerOp)
    (cluster : Cluster)
    (conn : ConnId) :
    (answer env id op cluster).2.wire conn =
      cluster.wire conn ++
        ((cluster.emits id op).filter fun entry =>
          entry.1 = conn).map Prod.snd := by
  by_cases hKeeps : op.KeepsLinks
  · have hLinks :=
      (answer_keeps env id op cluster).links hKeeps
    have hNothing : cluster.emits id op = [] := by
      cases op with
      | send other body => exact hKeeps.elim
      | findAndSend userid payload => exact hKeeps.elim
      | _ => rfl
    rw [hLinks.wire, hNothing]
    simp
  cases op with
  | send other body =>
      exact wire_writeTo cluster other conn body
  | findAndSend userid payload =>
      simp only [answer, emits]
      cases cluster.connOf id userid with
      | none => simp
      | some other =>
          rw [Option.toList_some, List.flatMap_singleton]
          exact
            wire_writeTo cluster other conn payload
  | shutdown other =>
      simp only [answer, emits, shutdown]
      split_ifs <;> simp
  | _ => exact absurd trivial hKeeps

theorem wire_handled
    (handler : Handler Unit)
    (cluster : Cluster)
    (conn : ConnId) :
    (cluster.handled env id handler).wire conn =
      cluster.wire conn ++
        ((cluster.writes env id handler).filter fun entry =>
          entry.1 = conn).map Prod.snd := by
  unfold handled writes
  induction handler generalizing cluster with
  | ret value => simp [Process.collect]
  | throw error => simp [Process.collect]
  | act op next ih =>
      rw [Process.exec_act, Process.collect, ih,
        state_answerFetched, wire_emits,
        List.filter_append, List.map_append,
        List.append_assoc]

theorem writes_of_always
    {α : Type}
    {handler : Handler α}
    (hNothing : handler.Always ServerOp.SendsNothing)
    (cluster : Cluster) :
    cluster.writes env id handler = [] :=
  Process.collect_of_always
    (fun _ state hOp => emits_of_sendsNothing hOp state)
    hNothing cluster

/- A first part that returns. -/
theorem writes_bind
    {α β : Type}
    {first : Handler α}
    {value : α}
    {next : Cluster}
    (hFirst :
      Process.exec (answerFetched env id) first cluster =
        (.ok value, next))
    (rest : α → Handler β) :
    cluster.writes env id (first >>= rest) =
      cluster.writes env id first ++
        next.writes env id (rest value) := by
  unfold writes
  rw [Process.collect_bind, hFirst]

theorem writes_ask
    {α : Type}
    (op : ServerOp)
    (rest : op.Res → Handler α)
    (cluster : Cluster) :
    cluster.writes env id (ask op >>= rest) =
      cluster.emits id op ++
        (answerFetched env id op cluster).2.writes env id
          (rest (answerFetched env id op cluster).1) := rfl

theorem writes_guarded
    (conn : ConnId)
    (handler : Handler Unit)
    (cluster : Cluster) :
    cluster.writes env id (ChatServer.guarded conn handler) =
      cluster.writes env id handler := by
  apply Process.collect_tryCatch
  intro error state
  have hShutdown :
      (ask (.shutdown conn)).Always
        ServerOp.SendsNothing :=
    ⟨trivial, fun _ => trivial⟩
  exact writes_of_always hShutdown state

theorem writes_respond
    (conn : ConnId)
    (response : JsonObject)
    (cluster : Cluster) :
    cluster.writes env id
        (ChatService.respond env conn response) =
      cluster.writeTo (env.codec.dump (.object response))
        conn := by
  unfold ChatService.respond
  exact List.append_nil _

/- Every frame that is written is one the client accepts. -/
def AllAccepted (frames : List (ConnId × String)) : Prop :=
  ∀ entry ∈ frames, Client.Accepts entry.2

theorem allAccepted_writeTo_iff
    (body : String)
    (conn : ConnId)
    (cluster : Cluster) :
    AllAccepted (cluster.writeTo body conn) ↔
      (cluster.conns conn = .connected →
        Client.Accepts body) := by
  unfold AllAccepted writeTo
  by_cases hConnected : cluster.conns conn = .connected
  · simp [hConnected]
  · simp [hConnected]

theorem allAccepted_append_iff
    (first second : List (ConnId × String)) :
    AllAccepted (first ++ second) ↔
      AllAccepted first ∧ AllAccepted second := by
  unfold AllAccepted
  rw [List.forall_mem_append]

end Writes

end Cluster

/- The size of a message decides whether it is accepted. -/
theorem accepts_dump_iff
    {codec : JsonCodec}
    {fraction : Rat → String}
    (hPrints : codec.Prints fraction)
    {js : JsonObject}
    {members : List (String × Nat)}
    (hSizes : HasSizes fraction 0 js members) :
    Client.Accepts (codec.dump (.object js)) ↔
      membersSize 0 members ≤ kMaxFrameLen := by
  have hBraces := two_le_membersSize 0 members
  rw [Client.accepts_iff, hPrints.dump_eq,
    Json.utf8ByteSize_print, hSizes.size_eq]
  omega

------------------------------------------------------------
-- Chat Messages
------------------------------------------------------------

/-
  The size of a chat message that is sent on: the members of
  the frame, but for those that the server sets, and the
  members that it sets.
-/
def stampedSize
    (fraction : Rat → String)
    (convId : String)
    (seq : Nat)
    (time : Timestamp)
    (js : JsonObject) : Nat :=
  membersSize 0
    ((Json.fieldSizes fraction 0 js).filter
        (fun member =>
          member.1 ≠ msgFieldTs ∧
            member.1 ≠ msgFieldSeq ∧
              member.1 ≠ msgFieldConvid) ++
      [(msgFieldConvid, stringSize 0 convId),
        (msgFieldSeq, digits seq),
        (msgFieldTs, digits (time.tdiv 1000))])

theorem accepts_stamped_iff
    {codec : JsonCodec}
    {fraction : Rat → String}
    (hPrints : codec.Prints fraction)
    {js : JsonObject}
    (hAscending : JsonObject.Ascending js)
    (convId : String)
    (seq : Nat)
    (time : Timestamp) :
    Client.Accepts
        (codec.dump
          (.object (ChatService.stamp convId seq time js))) ↔
      stampedSize fraction convId seq time js ≤
        kMaxFrameLen := by
  have hFields :
      HasSizes fraction 0 js (Json.fieldSizes fraction 0 js) :=
    ⟨hAscending, List.Perm.refl _⟩
  have hStamped :=
    ((hFields.assign msgFieldConvid (.string convId)).assign
      msgFieldSeq (.unsigned seq)).assign msgFieldTs
        (.integer (time.tdiv 1000))
  have hSeqConvid : msgFieldConvid ≠ msgFieldSeq := by decide
  have hTsConvid : msgFieldConvid ≠ msgFieldTs := by decide
  have hTsSeq : msgFieldSeq ≠ msgFieldTs := by decide
  simp only [List.filter_append, List.filter_filter,
    List.filter_cons, List.filter_nil, hSeqConvid, hTsConvid,
    hTsSeq, ne_eq, not_false_eq_true, decide_true, if_true,
    List.append_assoc, List.cons_append, List.nil_append]
    at hStamped
  refine (accepts_dump_iff hPrints hStamped).trans ?_
  unfold stampedSize
  simp only [Json.size, ne_eq, Bool.decide_and]

namespace Cluster

/- A user of a node can be written to. -/
def Reaches
    (cluster : Cluster)
    (id : NodeId)
    (userid : Int) : Prop :=
  ∃ conn,
    cluster.connOf id userid = some conn ∧
      cluster.conns conn = .connected

section Chat

variable {env : Externals} {id : NodeId}

theorem allAccepted_sendAll_iff
    (payload : String)
    (conns : List ConnId)
    (cluster : Cluster) :
    AllAccepted
        (cluster.writes env id
          (ChatService.sendAll payload conns)) ↔
      ∀ conn ∈ conns,
        cluster.conns conn = .connected →
          Client.Accepts payload := by
  induction conns generalizing cluster with
  | nil =>
      exact iff_of_true (fun _ => nofun) fun _ => nofun
  | cons first conns ih =>
      have hConns :=
        conns_written cluster first payload
      rw [ChatService.sendAll, writes_ask,
        allAccepted_append_iff, List.forall_mem_cons]
      refine
        and_congr (allAccepted_writeTo_iff _ _ _) ?_
      refine (ih _).trans ?_
      rw [← hConns]
      rfl

theorem writes_forward
    (userid : Int)
    (payload : String)
    (cluster : Cluster) :
    cluster.writes env id
        (ChatService.forward userid payload) = [] :=
  writes_of_always
    (ChatService.always_forward trivial trivial trivial)
    cluster

/- `onechat` writes to the recipient. -/
theorem allAccepted_routeOne_iff
    (toid : Int)
    (payload : String)
    (cluster : Cluster) :
    AllAccepted
        (cluster.writes env id
          (ChatService.routeOne toid payload)) ↔
      (cluster.Reaches id toid → Client.Accepts payload) := by
  have hLater :
      ∀ (sent : Bool) (next : Cluster),
        next.writes env id
            (if sent then
              return ()
            else
              ChatService.forward toid payload) = [] := by
    intro sent next
    cases sent with
    | true => rfl
    | false => exact writes_forward toid payload next
  have hEmits :
      cluster.emits id (.findAndSend toid payload) =
        (cluster.connOf id toid).toList.flatMap
          (cluster.writeTo payload) := rfl
  unfold ChatService.routeOne Reaches
  rw [writes_ask, hLater, List.append_nil, hEmits]
  cases cluster.connOf id toid with
  | none => simp [AllAccepted]
  | some conn =>
      rw [Option.toList_some, List.flatMap_singleton,
        allAccepted_writeTo_iff]
      simp

/- `groupchat` writes to the members of the group. -/
theorem allAccepted_routeGroup_iff
    (users : List Int)
    (payload : String)
    (cluster : Cluster) :
    AllAccepted
        (cluster.writes env id
          (ChatService.routeGroup users payload)) ↔
      ∀ user ∈ users,
        cluster.Reaches id user → Client.Accepts payload := by
  let conns := users.filterMap (cluster.connOf id)
  let others :=
    users.filter fun user => (cluster.connOf id user).isNone
  have hRoute :
      cluster.writes env id
          (ChatService.routeGroup users payload) =
        cluster.writes env id
          (ChatService.sendAll payload conns >>= fun _ =>
            ChatService.forwardAll payload others) := rfl
  have hLater :
      ∀ next : Cluster,
        next.writes env id
          (ChatService.forwardAll payload others) = [] :=
    writes_of_always
      (ChatService.always_forwardAll (fun _ => trivial)
        (fun _ => trivial) (fun _ => trivial) others)
  rcases
    Process.exec_of_returns
      (ChatService.returns_sendAll payload conns) cluster
    with ⟨_, next, hExec, _⟩
  rw [hRoute, writes_bind hExec, hLater, List.append_nil,
    allAccepted_sendAll_iff]
  constructor
  · intro hConns user hUser hReaches
    rcases hReaches with ⟨conn, hConn, hConnected⟩
    exact
      hConns conn
        (List.mem_filterMap.mpr ⟨user, hUser, hConn⟩)
        hConnected
  · intro hUsers conn hConn hConnected
    rcases List.mem_filterMap.mp hConn with
      ⟨user, hUser, hSame⟩
    exact hUsers user hUser ⟨conn, hSame, hConnected⟩

/- An operation that changes neither maps nor connections
changes nobody's being reached. -/
theorem reaches_answer_iff
    {op : ServerOp}
    (hMaps : op.KeepsMaps)
    (hLinks : op.KeepsLinks)
    (cluster : Cluster)
    (userid : Int) :
    (answer env id op cluster).2.Reaches id userid ↔
      cluster.Reaches id userid := by
  have hFrame := answer_frame env id op cluster
  have hKeeps := answer_keeps env id op cluster
  unfold Reaches
  rw [hFrame.maps hMaps, (hKeeps.links hLinks).conns]

/- A chat frame is sent on to the recipients who are reached
on the node. -/
theorem allAccepted_route_iff
    (frame : ChatFrame env)
    (payload : String)
    (cluster : Cluster) :
    AllAccepted
        (cluster.writes env id (frame.route payload)) ↔
      ∀ user ∈ frame.recipients cluster.db,
        cluster.Reaches id user → Client.Accepts payload := by
  unfold ChatFrame.route ChatFrame.recipients
  cases frame.addressee with
  | user toid =>
      dsimp only
      rw [allAccepted_routeOne_iff, List.forall_mem_singleton]
  | group groupid =>
      exact allAccepted_routeGroup_iff _ payload cluster

theorem allAccepted_chatFrame_iff
    {fraction : Rat → String}
    (hPrints : env.codec.Prints fraction)
    (frame : ChatFrame env)
    (cluster : Cluster) :
    AllAccepted
        (cluster.writes env id
          (ChatServer.onMessage env frame.conn frame.body
            frame.readings)) ↔
      ∀ user ∈ frame.recipients cluster.db,
        cluster.Reaches id user →
          stampedSize fraction frame.convId
              (cluster.takeNumber id frame.convId).1
              frame.readings.time frame.fields ≤
            kMaxFrameLen := by
  have hAscending :=
    hPrints.ascending frame.body frame.fields frame.parsed
  have hCounted :
      cluster.writes env id frame.handler =
        (cluster.takeNumber id frame.convId).2.writes env id
          (frame.route
            (frame.payload
              (cluster.takeNumber id frame.convId).1)) := by
    rw [frame.handler_eq, writes_ask]
    rfl
  rw [frame.onMessage_eq, writes_guarded, hCounted,
    allAccepted_route_iff]
  have hReaches :=
    @reaches_answer_iff env id (.incrSeq frame.convId)
      trivial trivial cluster
  apply forall₂_congr
  intro user _
  refine imp_congr (hReaches user) ?_
  exact accepts_stamped_iff hPrints hAscending _ _ _

end Chat

end Cluster

------------------------------------------------------------
-- Login Answers
------------------------------------------------------------

/- An array among the members, if it has elements. -/
def arrayMember
    (key : String)
    (sizes : List Nat) : List (String × Nat) :=
  if sizes = [] then [] else [(key, elementsSize sizes)]

/- The text for a friend, inside one string. -/
def friendSize (user : User) : Nat :=
  membersSize 1
    [("id", digits user.id), ("name", stringSize 1 user.name),
      ("state", stringSize 1 user.state.text)]

/- The text for a member of a group, inside two strings. -/
def memberSize (member : User × String) : Nat :=
  membersSize 2
    [("id", digits member.1.id),
      ("name", stringSize 2 member.1.name),
      ("state", stringSize 2 member.1.state.text),
      ("role", stringSize 2 member.2)]

/- The text for a group, inside one string. -/
def groupSize
    (group : GroupRow)
    (members : List (User × String)) : Nat :=
  membersSize 1
    [("id", digits group.id),
      ("groupname", stringSize 1 group.groupname),
      ("groupdesc", stringSize 1 group.groupdesc),
      ("users",
        elementsSize
          (members.map fun member => 4 + memberSize member))]

/- The members of a login answer, from the rows of the
tables. -/
def loginMembers
    (collate : String → String)
    (db : Database)
    (user : User) : List (String × Nat) :=
  [("msgid", digits EnMsgType.loginAckMsg.code),
      ("errno", digits 0), ("id", digits user.id),
      ("name", stringSize 0 user.name)] ++
    arrayMember "offlinemsg"
      ((OfflineMessageModel.fetch collate db user.id).map
        (stringSize 0)) ++
    arrayMember "friends"
      ((FriendModel.query db user.id).map fun friend =>
        2 + friendSize friend) ++
    arrayMember "groups"
      ((GroupModel.groupsOf db user.id).map fun group =>
        2 +
          groupSize group (GroupModel.membersOf db group.id))

theorem absent_arrayMember
    {key other : String}
    (hNe : key ≠ other)
    (sizes : List Nat) :
    ∀ member ∈ arrayMember key sizes, member.1 ≠ other := by
  intro member hMember
  unfold arrayMember at hMember
  split at hMember
  · cases hMember
  · rw [List.mem_singleton.mp hMember]
    exact hNe

section Texts

variable {env : Externals} {fraction : Rat → String}

/- The text of an object, put into a string. -/
theorem stringSize_dump
    (hPrints : env.codec.Prints fraction)
    {depth : Nat}
    {js : JsonObject}
    {members : List (String × Nat)}
    (hSizes : HasSizes fraction (depth + 1) js members) :
    stringSize depth (env.codec.dump (.object js)) =
      2 ^ (depth + 1) + membersSize (depth + 1) members := by
  unfold stringSize
  rw [hPrints.dump_eq, Json.textSize_print, hSizes.size_eq]

theorem stringSize_friendText
    (hPrints : env.codec.Prints fraction)
    (user : User) :
    stringSize 0 (ChatService.friendText env user) =
      2 + friendSize user := by
  apply stringSize_dump hPrints
  exact
    ((hasSizes_nil.assign_new (by simp) _).assign_new
      (by simp) _).assign_new (by simp) _

theorem stringSize_memberText
    (hPrints : env.codec.Prints fraction)
    (member : User × String) :
    stringSize 1 (ChatService.memberText env member) =
      4 + memberSize member := by
  apply stringSize_dump hPrints
  exact
    (((hasSizes_nil.assign_new (by simp) _).assign_new
      (by simp) _).assign_new (by simp) _).assign_new
        (by simp) _

theorem sizes_strings
    {α : Type}
    (text : α → String)
    (depth : Nat)
    (items : List α) :
    Json.sizes fraction depth
        (items.map fun item => .string (text item)) =
      items.map fun item => stringSize depth (text item) := by
  rw [Json.sizes_eq_map, List.map_map]
  rfl

theorem stringSize_groupText
    (hPrints : env.codec.Prints fraction)
    (group : GroupRow)
    (members : List (User × String)) :
    stringSize 0
        (ChatService.groupText env (group, members)) =
      2 + groupSize group members := by
  have hUsers :
      (Json.array
            (members.map fun member =>
              .string
                (ChatService.memberText env member))).size
          fraction 1 =
        elementsSize
          (members.map fun member =>
            4 + memberSize member) := by
    rw [Json.size, sizes_strings]
    simp only [stringSize_memberText hPrints]
  unfold groupSize
  rw [← hUsers]
  apply stringSize_dump hPrints
  exact
    (((hasSizes_nil.assign_new (by simp) _).assign_new
      (by simp) _).assign_new (by simp) _).assign_new
        (by simp) _

/- An array of texts is added when there are any. -/
theorem HasSizes.assign_texts
    {js : JsonObject}
    {members : List (String × Nat)}
    (hSizes : HasSizes fraction 0 js members)
    (key : String)
    (hNew : ∀ member ∈ members, member.1 ≠ key)
    {α : Type}
    (items : List α)
    (text : α → String) :
    HasSizes fraction 0
      (if items.isEmpty then
        js
      else
        JsonObject.assign key
          (.array (items.map fun item => .string (text item)))
          js)
      (members ++
        arrayMember key
          (items.map fun item => stringSize 0 (text item))) := by
  unfold arrayMember
  by_cases hNil : items = []
  · rw [hNil]
    simpa using hSizes
  · rw [if_neg (by simpa using hNil),
      if_neg (by simpa using hNil), ← sizes_strings text 0]
    exact hSizes.assign_new hNew _

/- The first members of the answer, and the stored messages
in any order. -/
theorem hasSizes_withOfflineMessages
    (id : Int)
    (name : String)
    (vec : List String) :
    HasSizes fraction 0
      (ChatService.withOfflineMessages env.codec vec
        (ChatService.loginAccepted id name))
      ([("msgid", digits EnMsgType.loginAckMsg.code),
          ("errno", digits 0), ("id", digits id),
          ("name", stringSize 0 name)] ++
        arrayMember "offlinemsg"
          (vec.map (stringSize 0))) := by
  have hAccepted :
      HasSizes fraction 0
        (ChatService.loginAccepted id name)
        [("msgid", digits EnMsgType.loginAckMsg.code),
          ("errno", digits 0), ("id", digits id),
          ("name", stringSize 0 name)] :=
    (((hasSizes_nil.assign_new (by simp) _).assign_new
      (by simp) _).assign_new (by simp) _).assign_new
        (by simp) _
  have hSorted :=
    (ChatService.stableSort_sortOfflineMessages env.codec
      vec).perm
  unfold ChatService.withOfflineMessages arrayMember
  by_cases hNil : vec = []
  · rw [hNil]
    simpa using hAccepted
  · rw [if_neg (by simpa using hNil),
      if_neg (by simpa using hNil),
      ← elementsSize_perm (hSorted.map (stringSize 0)),
      ← sizes_strings (fun text => text) 0]
    exact hAccepted.assign_new (by simp) _

end Texts

namespace ChatService

variable {env : Externals} {id : NodeId}

theorem exec_addFriends
    (userid : Int)
    (response : JsonObject)
    (cluster : Cluster) :
    Process.exec (Cluster.answerFetched env id)
        (addFriends env userid response) cluster =
      (.ok
          (if (FriendModel.query cluster.db userid).isEmpty
          then
            response
          else
            JsonObject.assign "friends"
              (.array
                ((FriendModel.query cluster.db userid).map
                  fun user =>
                    .string (friendText env user)))
              response),
        cluster) := by
  unfold addFriends
  rw [ask_bind, Process.exec_act]
  have hAnswer :
      Cluster.answerFetched env id (.queryFriends userid)
          cluster =
        (FriendModel.query cluster.db userid, cluster) := rfl
  rw [hAnswer]
  dsimp only
  split <;> rfl

theorem exec_queryMembers
    (groups : List GroupRow)
    (cluster : Cluster) :
    Process.exec (Cluster.answerFetched env id)
        (queryMembers groups) cluster =
      (.ok
          (groups.map fun group =>
            (group,
              GroupModel.membersOf cluster.db group.id)),
        cluster) := by
  induction groups with
  | nil => rfl
  | cons group groups ih =>
      have hAnswer :
          Cluster.answerFetched env id
              (.queryMembersOf group.id) cluster =
            (GroupModel.membersOf cluster.db group.id,
              cluster) := rfl
      unfold queryMembers
      rw [ask_bind, Process.exec_act, hAnswer,
        Process.exec_bind, ih]
      rfl

theorem exec_addGroups
    (userid : Int)
    (response : JsonObject)
    (cluster : Cluster) :
    Process.exec (Cluster.answerFetched env id)
        (addGroups env userid response) cluster =
      (.ok
          (if (GroupModel.groupsOf cluster.db userid).isEmpty
          then
            response
          else
            JsonObject.assign "groups"
              (.array
                ((GroupModel.groupsOf cluster.db userid).map
                  fun group =>
                    .string
                      (groupText env
                        (group,
                          GroupModel.membersOf cluster.db
                            group.id))))
              response),
        cluster) := by
  have hAnswer :
      Cluster.answerFetched env id (.queryGroupsOf userid)
          cluster =
        (GroupModel.groupsOf cluster.db userid, cluster) :=
    rfl
  unfold addGroups
  rw [ask_bind, Process.exec_act, hAnswer, Process.exec_bind,
    exec_queryMembers]
  dsimp only
  rw [List.isEmpty_map, List.map_map]
  split <;> rfl

/- The answer that a login composes alone. -/
theorem exec_loginResponse_sizes
    {fraction : Rat → String}
    (hPrints : env.codec.Prints fraction)
    (user : User)
    (cluster : Cluster) :
    ∃ response answered,
      Process.exec (Cluster.answerFetched env id)
          (loginResponse env user) cluster =
        (.ok response, answered) ∧
      HasSizes fraction 0 response
        (loginMembers env.collate cluster.db user) := by
  unfold loginResponse
  rw [Process.exec_bind, exec_takeOffline]
  dsimp only
  have hOther :
      ∀ nothing : Prop, [Decidable nothing] →
        ∃ other offline,
          (if nothing then
              cluster
            else
              cluster.setDb
                (OfflineMessageModel.remove cluster.db
                  user.id)) =
              other ∧
            other.db =
              { cluster.db with offline := offline } := by
    intro nothing _
    split
    · exact ⟨_, _, rfl, rfl⟩
    · exact ⟨_, _, rfl, rfl⟩
  rcases hOther
      (OfflineMessageModel.fetch env.collate cluster.db
        user.id = []) with
    ⟨other, offline, hSame, hDb⟩
  rw [hSame, Process.exec_bind, exec_addFriends]
  dsimp only
  rw [exec_addGroups, hDb]
  refine ⟨_, other, rfl, ?_⟩
  have hOffline :=
    @hasSizes_withOfflineMessages env fraction user.id
      user.name
      (OfflineMessageModel.fetch env.collate cluster.db
        user.id)
  have hFriends :=
    hOffline.assign_texts "friends"
      (List.forall_mem_append.mpr
        ⟨by simp, absent_arrayMember (by decide) _⟩)
      (FriendModel.query cluster.db user.id)
      (friendText env)
  have hGroups :=
    hFriends.assign_texts "groups"
      (List.forall_mem_append.mpr
        ⟨List.forall_mem_append.mpr
          ⟨by simp, absent_arrayMember (by decide) _⟩,
          absent_arrayMember (by decide) _⟩)
      (GroupModel.groupsOf cluster.db user.id)
      fun group =>
        groupText env
          (group, GroupModel.membersOf cluster.db group.id)
  simp only [stringSize_friendText hPrints,
    stringSize_groupText hPrints] at hGroups
  exact hGroups

/- The answer only reads, but for the stored messages. -/
theorem always_loginResponse
    {allowed : ServerOp → Prop}
    {user : User}
    (hQuery : allowed (.queryOffline user.id))
    (hRemove : allowed (.removeOffline user.id))
    (hFriends : allowed (.queryFriends user.id))
    (hGroups : allowed (.queryGroupsOf user.id))
    (hMembers :
      ∀ groupid, allowed (.queryMembersOf groupid)) :
    (loginResponse env user).Always allowed := by
  unfold loginResponse
  apply Process.always_bind
  · exact always_takeOffline env hQuery hRemove _
  intro stored
  apply Process.always_bind
  · exact always_addFriends env hFriends stored
  intro friends
  exact always_addGroups env hGroups hMembers friends

/- Refusals are short. -/
theorem accepts_loginRefused
    {fraction : Rat → String}
    (hPrints : env.codec.Prints fraction)
    {errno : Int}
    {errmsg : String}
    (hShort :
      membersSize 0
          [("msgid", digits EnMsgType.loginAckMsg.code),
            ("errno", digits errno),
            ("errmsg", stringSize 0 errmsg)] ≤
        kMaxFrameLen) :
    Client.Accepts
      (env.codec.dump
        (.object (loginRefused errno errmsg))) := by
  refine (accepts_dump_iff hPrints ?_).mpr hShort
  exact
    ((hasSizes_nil.assign_new (by simp) _).assign_new
      (by simp) _).assign_new (by simp) _

end ChatService

/- The tables after the user's state was set. -/
def Database.setOnline
    (db : Database)
    (userid : Int) : Database :=
  { db with users := db.users.updateState userid .online }

namespace Cluster

section Login

variable {env : Externals} {id : NodeId}

theorem db_entered
    (userid : Int)
    (conn : ConnId)
    (cluster : Cluster) :
    (cluster.entered env id userid conn).db =
      cluster.db.setOnline userid := by
  have hInsert :
      (cluster.insertConn id userid conn).db = cluster.db := by
    unfold insertConn
    split <;> rfl
  have hSubscribe :
      ∀ (other : Cluster) (command : List String),
        (other.appendCommand id command).2.db = other.db := by
    intro other command
    unfold appendCommand
    dsimp only
    split <;> rfl
  have hEntered :
      (cluster.entered env id userid conn).db =
        ((cluster.insertConn id userid conn).appendCommand id
            (Redis.subscribeCommand userid)).2.db.setOnline
          userid := rfl
  rw [hEntered, hSubscribe, hInsert]

theorem conns_entered
    (userid : Int)
    (conn : ConnId)
    (cluster : Cluster) :
    (cluster.entered env id userid conn).conns =
      cluster.conns := by
  unfold entered
  dsimp only
  rw [((answer_keeps env id (.updateState userid .online)
      _).links trivial).conns,
    ((answer_keeps env id (.subscribe userid) _).links
      trivial).conns,
    ((answer_keeps env id (.insertConn userid conn) _).links
      trivial).conns]

/- Nothing is written before the answer is composed. -/
theorem writes_entered
    (userid : Int)
    (conn : ConnId)
    (rest : Handler Unit)
    (cluster : Cluster) :
    cluster.writes env id
        (do
          ask (.insertConn userid conn)
          let _ ← ask (.subscribe userid)
          let _ ← ask (.updateState userid .online)
          rest) =
      (cluster.entered env id userid conn).writes env id
        rest := rfl

theorem conns_exec
    {α : Type}
    {handler : Handler α}
    (hLinks : handler.Always ServerOp.KeepsLinks)
    {cluster after : Cluster}
    {outcome : Except JsonException α}
    (hExec :
      Process.exec (answerFetched env id) handler cluster =
        (outcome, after)) :
    after.conns = cluster.conns := by
  have hAfter :
      after =
        (Process.exec (answerFetched env id) handler
          cluster).2 := by
    rw [hExec]
  rw [hAfter]
  apply
    Process.exec_invariant
      (fun state : Cluster => state.conns = cluster.conns)
      _ hLinks rfl
  intro op state hOp hState
  have hKeeps := answer_keeps env id op state
  rw [state_answerFetched]
  exact (hKeeps.links hOp).conns.trans hState

/- What a login that is let through writes. -/
theorem allAccepted_answerLogin_iff
    {fraction : Rat → String}
    (hPrints : env.codec.Prints fraction)
    (conn : ConnId)
    (user : User)
    (cluster : Cluster) :
    AllAccepted
        (cluster.writes env id
          (ChatService.answerLogin env conn user)) ↔
      (cluster.conns conn = .connected →
        membersSize 0
            (loginMembers env.collate cluster.db user) ≤
          kMaxFrameLen) := by
  rcases
    @ChatService.exec_loginResponse_sizes env id fraction
      hPrints user cluster with
    ⟨response, answered, hExec, hSizes⟩
  have hLinks :
      (ChatService.loginResponse env user).Always
        ServerOp.KeepsLinks :=
    ChatService.always_loginResponse trivial trivial trivial
      trivial fun _ => trivial
  have hConns := conns_exec hLinks hExec
  have hReads :
      cluster.writes env id
        (ChatService.loginResponse env user) = [] :=
    writes_of_always
      (ChatService.always_loginResponse trivial trivial
        trivial trivial fun _ => trivial)
      cluster
  rw [ChatService.answerLogin_eq, writes_bind hExec, hReads,
    List.nil_append, writes_respond,
    allAccepted_writeTo_iff, hConns,
    accepts_dump_iff hPrints hSizes]

theorem allAccepted_refused
    {fraction : Rat → String}
    (hPrints : env.codec.Prints fraction)
    {errno : Int}
    {errmsg : String}
    (hShort :
      membersSize 0
          [("msgid", digits EnMsgType.loginAckMsg.code),
            ("errno", digits errno),
            ("errmsg", stringSize 0 errmsg)] ≤
        kMaxFrameLen)
    (conn : ConnId)
    (cluster : Cluster) :
    AllAccepted
      (cluster.writes env id
        (ChatService.respond env conn
          (ChatService.loginRefused errno errmsg))) := by
  rw [writes_respond, allAccepted_writeTo_iff]
  intro _
  exact ChatService.accepts_loginRefused hPrints hShort

/- A login frame is answered with one frame. -/
theorem allAccepted_loginFrame_iff
    {fraction : Rat → String}
    (hPrints : env.codec.Prints fraction)
    (frame : LoginFrame env)
    (cluster : Cluster) :
    AllAccepted
        (cluster.writes env id
          (ChatServer.onMessage env frame.conn frame.body
            frame.readings)) ↔
      ∀ user,
        frame.Succeeds cluster user →
          cluster.conns frame.conn = .connected →
            membersSize 0
                (loginMembers env.collate
                  (cluster.db.setOnline user.id) user) ≤
              kMaxFrameLen := by
  let found :=
    cluster.db.users.queryByName env.collate frame.name
  have hQuery :
      cluster.writes env id
          (ask (.queryUserByName frame.name) >>= fun user =>
            ChatService.afterQuery env frame.conn
              frame.password user) =
        cluster.writes env id
          (ChatService.afterQuery env frame.conn
            frame.password found) := rfl
  rw [frame.onMessage_eq, writes_guarded, hQuery]
  unfold ChatService.afterQuery
  by_cases hAccepted :
      ChatService.accepts env found frame.password = true
  · rw [if_pos hAccepted]
    by_cases hOnline : found.state = .online
    · rw [if_pos hOnline]
      refine iff_of_true ?_ ?_
      · exact allAccepted_refused hPrints (by decide +kernel) _ _
      · intro user hSucceeds
        have hOffline := hSucceeds.offline
        rw [← hSucceeds.found] at hOffline
        exact absurd hOnline hOffline
    · rw [if_neg hOnline]
      rw [writes_entered,
        allAccepted_answerLogin_iff hPrints,
        conns_entered, db_entered]
      constructor
      · intro hSize user hSucceeds hConnected
        rw [← hSucceeds.found]
        exact hSize hConnected
      · intro hSize
        exact hSize found ⟨rfl, hAccepted, hOnline⟩
  · rw [if_neg hAccepted]
    refine iff_of_true ?_ ?_
    · exact allAccepted_refused hPrints (by decide +kernel) _ _
    · intro user hSucceeds
      have hAccepts := hSucceeds.accepted
      rw [← hSucceeds.found] at hAccepts
      exact absurd hAccepts hAccepted

end Login

end Cluster

end ClusterChat
