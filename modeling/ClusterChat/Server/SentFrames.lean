import ClusterChat.Server.BadFrames
import ClusterChat.Server.FrameSizes

/-
  Which frames of the server the clients accept, over runs in
  which every handler is executed without interruption.

  Chat messages, login answers, and registration answers are
  put together by the server, and a published message is
  passed on as it is.  Nothing else is sent.

  Main declarations:
    * `RegFrame`
    * `FrameKind` and `ChatServer.kind`
    * `Arrival` and `Cluster.sentInRun`
    * `Cluster.Fits` and `Cluster.frames_accepted_iff`
-/

------------------------------------------------------------
-- Registrations
------------------------------------------------------------

namespace ClusterChat

/- A registration frame, with what the handler reads from
it. -/
structure RegFrame (env : Externals) where
  conn : ConnId
  body : String
  readings : Readings
  fields : JsonObject
  name : String
  password : String
  parsed : env.codec.parse body = some (.object fields)
  isInteger :
    (JsonObject.field fields "msgid").isNumberInteger = true
  typed :
    (JsonObject.field fields "msgid").getInt =
      .ok EnMsgType.regMsg.code
  named :
    (JsonObject.field fields "name").getString = .ok name
  secret :
    (JsonObject.field fields "password").getString =
      .ok password

namespace RegFrame

variable {env : Externals}

/- The row that the handler inserts. -/
def user (frame : RegFrame env) : User where
  name := frame.name
  password :=
    crypto.hashPassword env.sha256 frame.readings.salt
      (utf8 frame.password)
  salt := frame.readings.salt
  state := .offline

theorem onMessage_eq (frame : RegFrame env) :
    ChatServer.onMessage env frame.conn frame.body
        frame.readings =
      ChatServer.guarded frame.conn
        (ask (.insertUser frame.user) >>= fun id =>
          ChatService.respond env frame.conn
            (ChatService.regAnswer id)) := by
  have hNotLogin :
      (EnMsgType.regMsg.code : Int) ≠
        EnMsgType.loginMsg.code := by
    decide
  have hNotLoginout :
      (EnMsgType.regMsg.code : Int) ≠
        EnMsgType.loginoutMsg.code := by
    decide
  unfold ChatServer.onMessage ChatServer.dispatch
    ChatService.getHandler
  rw [frame.parsed]
  dsimp only
  rw [if_pos frame.isInteger, frame.typed, orThrow_ok,
    Process.ret_bind, if_neg hNotLogin, if_neg hNotLoginout,
    if_pos rfl]
  unfold ChatService.reg
  rw [frame.named, frame.secret]
  rfl

end RegFrame

/- The size of the answer with a new id. -/
def registeredSize (id : Int) : Nat :=
  membersSize 0
    [("msgid", digits EnMsgType.regAckMsg.code),
      ("id", digits id), ("errno", digits 0)]

/- The name of a registration is in use. -/
def UserTable.NameTaken
    (collate : String → String)
    (users : UserTable)
    (name : String) : Prop :=
  ∃ row ∈ users.rows, collate row.name = collate name

namespace Cluster

variable {env : Externals} {id : NodeId}
variable {fraction : Rat → String}

theorem allAccepted_regAnswer_iff
    (hPrints : env.codec.Prints fraction)
    (answered : Option Int)
    (conn : ConnId)
    (cluster : Cluster) :
    AllAccepted
        (cluster.writes env id
          (ChatService.respond env conn
            (ChatService.regAnswer answered))) ↔
      ∀ userid,
        answered = some userid →
          cluster.conns conn = .connected →
            registeredSize userid ≤ kMaxFrameLen := by
  rw [writes_respond, allAccepted_writeTo_iff]
  cases answered with
  | none =>
      refine iff_of_true (fun _ => ?_) fun _ => nofun
      have hSizes :
          HasSizes fraction 0 (ChatService.regAnswer none)
            [("msgid", digits EnMsgType.regAckMsg.code),
              ("errno", digits 1)] :=
        (hasSizes_nil.assign_new (by simp) _).assign_new
          (by simp) _
      exact
        (accepts_dump_iff hPrints hSizes).mpr
          (by decide +kernel)
  | some userid =>
      have hSizes :
          HasSizes fraction 0
            (ChatService.regAnswer (some userid))
            [("msgid", digits EnMsgType.regAckMsg.code),
              ("id", digits userid), ("errno", digits 0)] :=
        ((hasSizes_nil.assign_new (by simp) _).assign_new
          (by simp) _).assign_new (by simp) _
      rw [accepts_dump_iff hPrints hSizes]
      constructor
      · intro hSize other hOther
        rw [← Option.some.inj hOther]
        exact hSize
      · intro hSize
        exact hSize userid rfl

/- A new user gets the next id, unless the name is taken. -/
theorem insertUser_eq_some_iff
    (user : User)
    (cluster : Cluster)
    (userid : Int) :
    (answer env id (.insertUser user) cluster).1 =
        some userid ↔
      ¬ cluster.db.users.NameTaken env.collate user.name ∧
        (cluster.db.users.nextId : Int) = userid := by
  have hTaken :
      (cluster.db.users.rows.any fun row =>
            decide
              (env.collate row.name =
                env.collate user.name)) =
          true ↔
        cluster.db.users.NameTaken env.collate user.name := by
    simp [UserTable.NameTaken]
  simp only [answer, UserTable.insert]
  by_cases hName :
      cluster.db.users.NameTaken env.collate user.name
  · rw [if_pos (hTaken.mpr hName)]
    simp [hName]
  · rw [if_neg (mt hTaken.mp hName)]
    simp [hName]

/- A registration frame is answered with one frame. -/
theorem allAccepted_regFrame_iff
    (hPrints : env.codec.Prints fraction)
    (frame : RegFrame env)
    (cluster : Cluster) :
    AllAccepted
        (cluster.writes env id
          (ChatServer.onMessage env frame.conn frame.body
            frame.readings)) ↔
      (¬ cluster.db.users.NameTaken env.collate frame.name →
        cluster.conns frame.conn = .connected →
          registeredSize cluster.db.users.nextId ≤
            kMaxFrameLen) := by
  have hConns :
      (answer env id (.insertUser frame.user)
          cluster).2.conns =
        cluster.conns :=
    ((answer_keeps env id (.insertUser frame.user)
      cluster).links trivial).conns
  have hAnswered :
      ∀ userid,
        (answer env id (.insertUser frame.user)
              cluster).1 =
            some userid ↔
          ¬ cluster.db.users.NameTaken env.collate
                frame.name ∧
            (cluster.db.users.nextId : Int) = userid := by
    intro userid
    exact insertUser_eq_some_iff frame.user cluster userid
  have hWrites :
      cluster.writes env id
          (ask (.insertUser frame.user) >>= fun answered =>
            ChatService.respond env frame.conn
              (ChatService.regAnswer answered)) =
        (answer env id (.insertUser frame.user)
          cluster).2.writes env id
            (ChatService.respond env frame.conn
              (ChatService.regAnswer
                (answer env id (.insertUser frame.user)
                  cluster).1)) := rfl
  rw [frame.onMessage_eq, writes_guarded, hWrites,
    allAccepted_regAnswer_iff hPrints, hConns]
  simp only [hAnswered]
  constructor
  · intro hSize hFree
    exact hSize _ ⟨hFree, rfl⟩
  · intro hSize userid hUserid
    rw [← hUserid.2]
    exact hSize hUserid.1

end Cluster

------------------------------------------------------------
-- The Kinds of Frames
------------------------------------------------------------

/- A frame that the server answers or sends on, or one that
makes it send nothing. -/
inductive FrameKind (env : Externals) :
    ConnId → String → Readings → Prop where
| chat (frame : ChatFrame env) :
    FrameKind env frame.conn frame.body frame.readings
| login (frame : LoginFrame env) :
    FrameKind env frame.conn frame.body frame.readings
| reg (frame : RegFrame env) :
    FrameKind env frame.conn frame.body frame.readings
| silent
    (conn : ConnId)
    (body : String)
    (readings : Readings)
    (sendsNothing :
      (ChatServer.onMessage env conn body readings).Always
        ServerOp.SendsNothing) :
    FrameKind env conn body readings

theorem FrameKind.of_handler
    {env : Externals}
    {conn : ConnId}
    {body : String}
    {readings : Readings}
    {handler : Handler Unit}
    (hSame :
      ChatServer.onMessage env conn body readings =
        ChatServer.guarded conn handler)
    (hNothing : handler.Always ServerOp.SendsNothing) :
    FrameKind env conn body readings := by
  refine FrameKind.silent conn body readings ?_
  rw [hSame]
  exact
    Process.always_tryCatch hNothing fun _ =>
      ⟨trivial, fun _ => trivial⟩

theorem exists_of_toBool
    {ε α : Type}
    {value : Except ε α}
    (hOk : value.toBool = true) :
    ∃ found, value = .ok found := by
  cases value with
  | error error => cases hOk
  | ok found => exact ⟨found, rfl⟩

namespace ChatService

/- The handlers that write to nobody. -/
theorem sendsNothing_getHandler
    (env : Externals)
    {msgid : Int}
    (hLogin : msgid ≠ EnMsgType.loginMsg.code)
    (hReg : msgid ≠ EnMsgType.regMsg.code)
    (hOneChat : msgid ≠ EnMsgType.oneChatMsg.code)
    (hGroupChat : msgid ≠ EnMsgType.groupChatMsg.code)
    (conn : ConnId)
    (js : JsonObject)
    (readings : Readings) :
    (getHandler env msgid conn js readings).Always
      ServerOp.SendsNothing := by
  unfold getHandler
  rw [if_neg hLogin]
  -- The other three conditions are refuted on the way.
  split
  · apply always_orThrow
    exact fun _ =>
      ⟨trivial, fun _ =>
        ⟨trivial, fun _ => ⟨trivial, fun _ => trivial⟩⟩⟩
  split
  · apply always_orThrow
    intro userid
    apply always_orThrow
    exact fun _ => ⟨trivial, fun _ => trivial⟩
  split
  · apply always_orThrow
    intro userid
    apply always_orThrow
    intro groupname
    apply always_orThrow
    exact fun _ => ⟨trivial, fun _ => trivial⟩
  split
  · apply always_orThrow
    intro userid
    apply always_orThrow
    exact fun _ => ⟨trivial, fun _ => trivial⟩
  · trivial

end ChatService

namespace ChatServer

variable {env : Externals}

theorem onMessage_of_msgid
    {body : String}
    {fields : JsonObject}
    (hParsed : env.codec.parse body = some (.object fields))
    (hInteger :
      (JsonObject.field fields "msgid").isNumberInteger =
        true)
    {msgid : Int}
    (hMsgid :
      (JsonObject.field fields "msgid").getInt = .ok msgid)
    (conn : ConnId)
    (readings : Readings) :
    onMessage env conn body readings =
      guarded conn
        (ChatService.getHandler env msgid conn fields
          readings) := by
  unfold onMessage dispatch
  rw [hParsed]
  dsimp only
  rw [if_pos hInteger, hMsgid, orThrow_ok, Process.ret_bind]

theorem kind_of_msgid
    {body : String}
    {fields : JsonObject}
    (hParsed : env.codec.parse body = some (.object fields))
    (hInteger :
      (JsonObject.field fields "msgid").isNumberInteger =
        true)
    {msgid : Int}
    (hMsgid :
      (JsonObject.field fields "msgid").getInt = .ok msgid)
    (conn : ConnId)
    (readings : Readings) :
    FrameKind env conn body readings := by
  have hSame :=
    onMessage_of_msgid hParsed hInteger hMsgid conn readings
  cases hReadable : ChatService.readable msgid fields with
  | false =>
      -- The handler throws before it does anything.
      rcases
        ChatService.throws_getHandler hReadable env conn
          readings with ⟨error, hThrows⟩
      rw [hThrows] at hSame
      exact FrameKind.of_handler hSame trivial
  | true =>
  have hFields := List.all_eq_true.mp hReadable
  by_cases hLogin : msgid = EnMsgType.loginMsg.code
  · rw [hLogin] at hFields hMsgid
    rcases exists_of_toBool
        (hFields ("name", .text) List.mem_cons_self) with
      ⟨name, hName⟩
    rcases exists_of_toBool
        (hFields ("password", .text)
          (List.mem_cons_of_mem _ List.mem_cons_self)) with
      ⟨password, hPassword⟩
    exact
      FrameKind.login
        ⟨conn, body, readings, fields, name, password,
          hParsed, hInteger, hMsgid, hName, hPassword⟩
  by_cases hReg : msgid = EnMsgType.regMsg.code
  · rw [hReg] at hFields hMsgid
    rcases exists_of_toBool
        (hFields ("name", .text) List.mem_cons_self) with
      ⟨name, hName⟩
    rcases exists_of_toBool
        (hFields ("password", .text)
          (List.mem_cons_of_mem _ List.mem_cons_self)) with
      ⟨password, hPassword⟩
    exact
      FrameKind.reg
        ⟨conn, body, readings, fields, name, password,
          hParsed, hInteger, hMsgid, hName, hPassword⟩
  by_cases hOneChat : msgid = EnMsgType.oneChatMsg.code
  · rw [hOneChat] at hFields hMsgid
    rcases exists_of_toBool
        (hFields ("id", .number) List.mem_cons_self) with
      ⟨fromid, hFrom⟩
    rcases exists_of_toBool
        (hFields ("toid", .number)
          (List.mem_cons_of_mem _ List.mem_cons_self)) with
      ⟨toid, hTo⟩
    exact
      FrameKind.chat
        ⟨conn, body, readings, fields, fromid, .user toid,
          hParsed, hInteger, hMsgid, hFrom, hTo⟩
  by_cases hGroupChat : msgid = EnMsgType.groupChatMsg.code
  · rw [hGroupChat] at hFields hMsgid
    rcases exists_of_toBool
        (hFields ("id", .number) List.mem_cons_self) with
      ⟨userid, hUser⟩
    rcases exists_of_toBool
        (hFields ("groupid", .number)
          (List.mem_cons_of_mem _ List.mem_cons_self)) with
      ⟨groupid, hGroup⟩
    exact
      FrameKind.chat
        ⟨conn, body, readings, fields, userid,
          .group groupid, hParsed, hInteger, hMsgid, hUser,
          hGroup⟩
  · exact
      FrameKind.of_handler hSame
        (ChatService.sendsNothing_getHandler env hLogin hReg
          hOneChat hGroupChat conn fields readings)

/- Every frame is of one of these kinds. -/
theorem kind
    (env : Externals)
    (conn : ConnId)
    (body : String)
    (readings : Readings) :
    FrameKind env conn body readings := by
  cases hParsed : env.codec.parse body with
  | none =>
      apply
        @FrameKind.of_handler _ _ _ _
          (orThrow (.error .parseError))
      · unfold onMessage
        rw [hParsed]
      · trivial
  | some js =>
  cases js with
  | object fields =>
      by_cases hInteger :
          (JsonObject.field fields "msgid").isNumberInteger =
            true
      · rcases getInt_of_isNumberInteger hInteger with
          ⟨msgid, hMsgid⟩
        exact
          kind_of_msgid hParsed hInteger hMsgid conn readings
      · apply @FrameKind.of_handler _ _ _ _ (return ())
        · unfold onMessage dispatch
          rw [hParsed]
          dsimp only
          rw [if_neg hInteger]
        · trivial
  | _ =>
      apply @FrameKind.of_handler _ _ _ _ (return ())
      · unfold onMessage
        rw [hParsed]
        rfl
      · trivial

end ChatServer

------------------------------------------------------------
-- Runs
------------------------------------------------------------

/- What happens to the server from outside.  Every handler is
executed without interruption. -/
inductive Arrival where
| frame
    (conn : ConnId) (body : String) (readings : Readings)
| closing (conn : ConnId)
| message (id : NodeId)
| environment (event : EnvironmentEvent)

namespace Cluster

section Runs

variable (env : Externals) (observer : Observer)

/- The handler of an arrival with its node, and the cluster
that it finds. -/
def served
    (cluster : Cluster) :
    Arrival → NodeId × Handler Unit × Cluster
| .frame conn body readings =>
    (cluster.home conn,
      ChatServer.onMessage env conn body readings, cluster)
| .closing conn =>
    (cluster.home conn, ChatServer.onConnection conn,
      cluster.disconnect conn)
| .message id =>
    match takeReply id cluster.replies with
    | none => (id, return (), cluster)
    | some (reply, rest) =>
        (id,
          match observer reply with
          | some (userid, msg) =>
              ChatService.handleredissubscribemessage userid
                msg
          | none => return (),
          { cluster with replies := rest })
| .environment event =>
    (0, return (), cluster.environment event)

/- The cluster after an arrival. -/
def arrive
    (cluster : Cluster)
    (arrival : Arrival) : Cluster :=
  let found := cluster.served env observer arrival
  found.2.2.handled env found.1 found.2.1

/- The frames that the server sends upon an arrival. -/
def sent
    (cluster : Cluster)
    (arrival : Arrival) : List (ConnId × String) :=
  let found := cluster.served env observer arrival
  found.2.2.writes env found.1 found.2.1

/- The frames of a run. -/
def sentInRun :
    Cluster → List Arrival → List (ConnId × String)
| _, [] => []
| cluster, arrival :: arrivals =>
    cluster.sent env observer arrival ++
      sentInRun (cluster.arrive env observer arrival) arrivals

variable (fraction : Rat → String)

/-
  What the server makes of a frame is not too large.  A chat
  message counts when somebody is reached on the node, and an
  answer when its connection is up.
-/
structure FrameFits
    (id : NodeId)
    (cluster : Cluster)
    (conn : ConnId)
    (body : String)
    (readings : Readings) : Prop where
  chat :
    ∀ frame : ChatFrame env,
      frame.conn = conn → frame.body = body →
        frame.readings = readings →
          ∀ user ∈ frame.recipients cluster.db,
            cluster.Reaches id user →
              stampedSize fraction frame.convId
                  (cluster.takeNumber id frame.convId).1
                  readings.time frame.fields ≤
                kMaxFrameLen
  login :
    ∀ frame : LoginFrame env,
      frame.conn = conn → frame.body = body →
        frame.readings = readings →
          ∀ user,
            frame.Succeeds cluster user →
              cluster.conns conn = .connected →
                membersSize 0
                    (loginMembers env.collate
                      (cluster.db.setOnline user.id) user) ≤
                  kMaxFrameLen
  reg :
    ∀ frame : RegFrame env,
      frame.conn = conn → frame.body = body →
        frame.readings = readings →
          ¬ cluster.db.users.NameTaken env.collate
              frame.name →
            cluster.conns conn = .connected →
              registeredSize cluster.db.users.nextId ≤
                kMaxFrameLen

/- What the server makes of an arrival is not too large.  A
published message is passed on as it is. -/
def Fits
    (cluster : Cluster) : Arrival → Prop
| .frame conn body readings =>
    cluster.FrameFits env fraction (cluster.home conn) conn
      body readings
| .closing _ => True
| .message id =>
    ∀ reply rest userid msg,
      takeReply id cluster.replies = some (reply, rest) →
        observer reply = some (userid, msg) →
          cluster.Reaches id userid →
            1 ≤ msg.utf8ByteSize ∧
              msg.utf8ByteSize ≤ kMaxFrameLen
| .environment _ => True

/- So it is for every arrival of a run. -/
def FitsAlong : Cluster → List Arrival → Prop
| _, [] => True
| cluster, arrival :: arrivals =>
    cluster.Fits env observer fraction arrival ∧
      FitsAlong (cluster.arrive env observer arrival) arrivals

end Runs

variable {env : Externals} {fraction : Rat → String}

theorem allAccepted_frame_iff
    (hPrints : env.codec.Prints fraction)
    (id : NodeId)
    (cluster : Cluster)
    (conn : ConnId)
    (body : String)
    (readings : Readings) :
    AllAccepted
        (cluster.writes env id
          (ChatServer.onMessage env conn body readings)) ↔
      FrameFits env fraction id cluster conn body
        readings := by
  constructor
  · intro hAccepted
    constructor
    · rintro frame rfl rfl rfl
      exact
        (allAccepted_chatFrame_iff hPrints frame cluster).mp
          hAccepted
    · rintro frame rfl rfl rfl
      exact
        (allAccepted_loginFrame_iff hPrints frame cluster).mp
          hAccepted
    · rintro frame rfl rfl rfl
      exact
        (allAccepted_regFrame_iff hPrints frame cluster).mp
          hAccepted
  · intro hFits
    cases ChatServer.kind env conn body readings with
    | chat frame =>
        exact
          (allAccepted_chatFrame_iff hPrints frame
            cluster).mpr (hFits.chat frame rfl rfl rfl)
    | login frame =>
        exact
          (allAccepted_loginFrame_iff hPrints frame
            cluster).mpr (hFits.login frame rfl rfl rfl)
    | reg frame =>
        exact
          (allAccepted_regFrame_iff hPrints frame
            cluster).mpr (hFits.reg frame rfl rfl rfl)
    | silent _ _ _ sendsNothing =>
        rw [writes_of_always sendsNothing]
        exact fun _ => nofun

/- A published message is passed on to the user. -/
theorem allAccepted_notify_iff
    (id : NodeId)
    (userid : Int)
    (msg : String)
    (cluster : Cluster) :
    AllAccepted
        (cluster.writes env id
          (ChatService.handleredissubscribemessage userid
            msg)) ↔
      (cluster.Reaches id userid →
        1 ≤ msg.utf8ByteSize ∧
          msg.utf8ByteSize ≤ kMaxFrameLen) := by
  have hFound :
      answerFetched env id (.findConn userid) cluster =
        (cluster.connOf id userid, cluster) := rfl
  have hQuiet : cluster.emits id (.findConn userid) = [] :=
    rfl
  unfold Reaches ChatService.handleredissubscribemessage
  rw [← Client.accepts_iff, writes_ask, hQuiet,
    List.nil_append, hFound]
  cases cluster.connOf id userid with
  | none =>
      have hStored :
          (ask (.insertOffline userid msg)).Always
            ServerOp.SendsNothing :=
        ⟨trivial, fun _ => trivial⟩
      have hNothing :=
        @writes_of_always env id _ _ hStored cluster
      refine iff_of_true ?_ ?_
      · dsimp only
        rw [hNothing]
        exact List.forall_mem_nil _
      · rintro ⟨conn, hConn, _⟩
        cases hConn
  | some conn =>
      have hSend :
          cluster.writes env id (ask (.send conn msg)) =
            cluster.writeTo msg conn := List.append_nil _
      dsimp only
      rw [hSend, allAccepted_writeTo_iff]
      simp

theorem sent_frame
    (observer : Observer)
    (conn : ConnId)
    (body : String)
    (readings : Readings)
    (cluster : Cluster) :
    cluster.sent env observer (.frame conn body readings) =
      cluster.writes env (cluster.home conn)
        (ChatServer.onMessage env conn body readings) := rfl

theorem sent_message
    (observer : Observer)
    (id : NodeId)
    (cluster : Cluster) :
    cluster.sent env observer (.message id) =
      match takeReply id cluster.replies with
      | none => []
      | some (reply, rest) =>
          match observer reply with
          | none => []
          | some (userid, msg) =>
              { cluster with replies := rest }.writes env id
                (ChatService.handleredissubscribemessage
                  userid msg) := by
  simp only [sent, served]
  generalize takeReply id cluster.replies = taken
  cases taken with
  | none => rfl
  | some taken =>
      rcases taken with ⟨reply, rest⟩
      dsimp only
      cases observer reply <;> rfl

theorem allAccepted_message_iff
    (observer : Observer)
    (id : NodeId)
    (cluster : Cluster) :
    AllAccepted (cluster.sent env observer (.message id)) ↔
      cluster.Fits env observer fraction (.message id) := by
  rw [sent_message]
  dsimp only [Fits]
  generalize takeReply id cluster.replies = taken
  cases taken with
  | none =>
      refine iff_of_true (fun _ => nofun) ?_
      intro reply rest userid msg hTake
      cases hTake
  | some taken =>
  rcases taken with ⟨reply, rest⟩
  dsimp only
  cases hMessage : observer reply with
  | none =>
      refine iff_of_true (fun _ => nofun) ?_
      intro other others userid msg hTake hOther
      cases hTake
      rw [hMessage] at hOther
      cases hOther
  | some notice =>
      rcases notice with ⟨userid, msg⟩
      refine (allAccepted_notify_iff id _ _ _).trans ?_
      constructor
      · intro hSize other others user text hTake hOther
        cases hTake
        rw [hMessage] at hOther
        cases hOther
        exact hSize
      · intro hSize
        exact hSize reply rest userid msg rfl hMessage

theorem allAccepted_sent_iff
    (hPrints : env.codec.Prints fraction)
    (observer : Observer)
    (cluster : Cluster)
    (arrival : Arrival) :
    AllAccepted (cluster.sent env observer arrival) ↔
      cluster.Fits env observer fraction arrival := by
  cases arrival with
  | frame conn body readings =>
      rw [sent_frame]
      exact
        allAccepted_frame_iff hPrints _ cluster conn body
          readings
  | closing conn =>
      have hClosing :
          (ChatServer.onConnection conn).Always
            ServerOp.SendsNothing :=
        ChatService.always_onConnection trivial
          (fun _ => trivial) (fun _ => trivial)
          (fun _ => trivial) trivial
      have hNothing :
          cluster.sent env observer (.closing conn) = [] :=
        writes_of_always hClosing _
      rw [hNothing]
      exact iff_of_true (fun _ => nofun) trivial
  | message id => exact allAccepted_message_iff observer id _
  | environment event =>
      exact iff_of_true (fun _ => nofun) trivial

/- What is written to a connection. -/
def onWire
    (conn : ConnId)
    (frames : List (ConnId × String)) : List String :=
  (frames.filter fun entry => entry.1 = conn).map Prod.snd

theorem wire_arrive
    (observer : Observer)
    (cluster : Cluster)
    (arrival : Arrival)
    (conn : ConnId) :
    (cluster.arrive env observer arrival).wire conn =
      cluster.wire conn ++
        onWire conn (cluster.sent env observer arrival) := by
  have hFound :
      (cluster.served env observer arrival).2.2.wire =
        cluster.wire := by
    cases arrival with
    | frame conn body readings => rfl
    | closing conn => rfl
    | message id =>
        dsimp only [served]
        cases takeReply id cluster.replies <;> rfl
    | environment event =>
        rcases cluster.environment_eq event with
          ⟨_, _, _, hSame, _⟩
        dsimp only [served]
        rw [hSame]
  unfold arrive
  dsimp only
  rw [wire_handled, hFound]
  rfl

/- The frames of a run are what its connections carry. -/
theorem wire_run
    (observer : Observer)
    (cluster : Cluster)
    (arrivals : List Arrival)
    (conn : ConnId) :
    (arrivals.foldl (arrive env observer) cluster).wire
        conn =
      cluster.wire conn ++
        onWire conn
          (cluster.sentInRun env observer arrivals) := by
  induction arrivals generalizing cluster with
  | nil => exact (List.append_nil _).symm
  | cons arrival arrivals ih =>
      rw [List.foldl_cons, ih, wire_arrive, sentInRun]
      unfold onWire
      rw [List.filter_append, List.map_append,
        List.append_assoc]

/-
  The frames that the server sends in a run are accepted by
  the clients if and only if what it makes of each arrival is
  not too large.
-/
theorem frames_accepted_iff
    (hPrints : env.codec.Prints fraction)
    (observer : Observer)
    (cluster : Cluster)
    (arrivals : List Arrival) :
    (∀ entry ∈ cluster.sentInRun env observer arrivals,
        Client.Accepts entry.2) ↔
      cluster.FitsAlong env observer fraction arrivals := by
  induction arrivals generalizing cluster with
  | nil => exact iff_of_true (fun _ => nofun) trivial
  | cons arrival arrivals ih =>
      rw [sentInRun, List.forall_mem_append, FitsAlong]
      exact
        and_congr
          (allAccepted_sent_iff hPrints observer cluster
            arrival)
          (ih _)

end Cluster

------------------------------------------------------------
-- A Message That Grows
------------------------------------------------------------

/- A chat message with so many letters, from user 1 to
user 2. -/
def lettersChat (count : Nat) : JsonObject :=
  [("id", .unsigned 1), ("msg", .string (letters count)),
    ("msgid", .unsigned EnMsgType.oneChatMsg.code),
    ("toid", .unsigned 2)]

def lettersEnv (count : Nat) : Externals :=
  sampleExternals [.object (lettersChat count)]

theorem normalize_lettersChat (count : Nat) :
    (Json.object (lettersChat count)).normalize =
      .object (lettersChat count) := by
  simp [lettersChat, Json.normalize, Json.normalizeFields]

theorem parse_lettersChat (count : Nat) :
    (lettersEnv count).codec.parse
        (Json.object (lettersChat count)).text =
      some (.object (lettersChat count)) := by
  have hTexts :
      ([Json.object (lettersChat count)].map
        Json.text).Nodup :=
    List.nodup_singleton _
  have hParse :=
    JsonCodec.roundTrips_ofTable hTexts
      (List.mem_singleton_self _)
  rw [← normalize_lettersChat]
  exact hParse

def lettersFrame
    (count : Nat) : ChatFrame (lettersEnv count) where
  conn := 5
  body := (Json.object (lettersChat count)).text
  readings := sampleReadings
  fields := lettersChat count
  sender := 1
  addressee := .user 2
  parsed := parse_lettersChat count
  isInteger := rfl
  typed := rfl
  named := rfl
  addressed := rfl

/- User 2 is on connection 6. -/
def lettersCluster : Cluster :=
  { sampleCluster [] with
    nodes := fun _ =>
      { userConnMap := (∅ : UserConnMap).insert 2 6 } }

theorem prints_lettersEnv (count : Nat) :
    (lettersEnv count).codec.Prints ratioText := by
  apply JsonCodec.prints_ofTable
  intro fields hFields
  have hSame :=
    Json.object.inj (List.mem_singleton.mp hFields)
  rw [hSame, JsonObject.ascending_iff_keys]
  change ["id", "msg", "msgid", "toid"].Pairwise _
  decide

theorem stringSize_letters (count : Nat) :
    stringSize 0 (letters count) = count + 2 := by
  have hPlain : ∀ c ∈ (letters count).toList, Plain c := by
    intro c hC
    unfold letters at hC
    rw [String.toList_ofList] at hC
    rw [List.eq_of_mem_replicate hC]
    decide
  unfold stringSize
  rw [textSize_of_plain hPlain, utf8ByteSize_letters]
  omega

/- The members of the message, behind one another. -/
theorem fieldSizes_lettersChat (count : Nat) :
    Json.fieldSizes ratioText 0 (lettersChat count) =
      [("id", 1), ("msg", count + 2), ("msgid", 1),
        ("toid", 1)] := by
  have hOne : digits 1 = 1 := by decide
  have hTwo : digits 2 = 1 := by decide
  have hType : digits EnMsgType.oneChatMsg.code = 1 := by
    decide
  rw [← stringSize_letters]
  simp only [lettersChat, Json.fieldSizes, Json.size,
    Nat.cast_one, Nat.cast_ofNat, hOne, hTwo, hType]

theorem size_lettersFrame (count : Nat) :
    (lettersFrame count).body.utf8ByteSize = count + 36 := by
  have hText :
      (lettersFrame count).body =
        (Json.object (lettersChat count)).print ratioText :=
    (Json.print_ratioText _).symm
  have hKeys :
      stringSize 0 "id" = 4 ∧ stringSize 0 "msg" = 5 ∧
        stringSize 0 "msgid" = 7 ∧
          stringSize 0 "toid" = 6 := by
    decide
  rw [hText, Json.utf8ByteSize_print, Json.size,
    fieldSizes_lettersChat]
  simp only [membersSize, elementsSize, List.map_cons,
    List.map_nil, List.sum_cons, List.sum_nil,
    List.length_cons, List.length_nil, hKeys]
  omega

/- The stamps make it longer. -/
theorem lt_stampedSize_lettersChat
    (count : Nat)
    (convId : String)
    (seq : Nat)
    (time : Timestamp) :
    count + 36 <
      stampedSize ratioText convId seq time
        (lettersChat count) := by
  have hKeys :
      stringSize 0 "id" = 4 ∧ stringSize 0 "msg" = 5 ∧
        stringSize 0 "msgid" = 7 ∧
          stringSize 0 "toid" = 6 := by
    decide
  have hKept :
      [("id", 1), ("msg", count + 2), ("msgid", 1),
          ("toid", 1)].filter
        (fun member : String × Nat =>
          member.1 ≠ msgFieldTs ∧
            member.1 ≠ msgFieldSeq ∧
              member.1 ≠ msgFieldConvid) =
        [("id", 1), ("msg", count + 2), ("msgid", 1),
          ("toid", 1)] := by
    simp [msgFieldTs, msgFieldSeq, msgFieldConvid]
  unfold stampedSize
  rw [fieldSizes_lettersChat, hKept]
  simp only [membersSize, elementsSize, List.cons_append,
    List.nil_append, List.map_cons, List.map_nil,
    List.sum_cons, List.sum_nil, List.length_cons,
    List.length_nil, hKeys]
  omega

/- The message is sent on to user 2, and is too large. -/
theorem refused_lettersFrame
    (observer : Observer)
    {count : Nat}
    (hLarge : kMaxFrameLen ≤ count + 36) :
    ∃ entry ∈
        lettersCluster.sent (lettersEnv count) observer
          (.frame 5 (lettersFrame count).body
            sampleReadings),
      ¬ Client.Accepts entry.2 := by
  have hIff :=
    @Cluster.allAccepted_chatFrame_iff (lettersEnv count) 1
      ratioText (prints_lettersEnv count)
      (lettersFrame count) lettersCluster
  have hReached : lettersCluster.Reaches 1 2 :=
    ⟨6, AList.lookup_insert _, rfl⟩
  have hHome : lettersCluster.home 5 = 1 := rfl
  rw [Cluster.sent_frame, hHome]
  by_contra hAccepted
  push Not at hAccepted
  have hSize := hIff.mp hAccepted 2 List.mem_cons_self hReached
  have hGrows :=
    lt_stampedSize_lettersChat count
      (lettersFrame count).convId
      (lettersCluster.takeNumber 1
        (lettersFrame count).convId).1
      (lettersFrame count).readings.time
  have hFields :
      (lettersFrame count).fields = lettersChat count := rfl
  rw [hFields] at hSize
  omega

/- A message of the largest size that the server reads is
sent on in a frame that the client refuses. -/
theorem largest_message_is_refused :
    (lettersFrame 65500).body.utf8ByteSize =
        kMaxFrameLen ∧
      ∃ entry ∈
          lettersCluster.sent (lettersEnv 65500)
            (fun _ => none)
            (.frame 5 (lettersFrame 65500).body
              sampleReadings),
        ¬ Client.Accepts entry.2 := by
  rw [size_lettersFrame]
  exact ⟨rfl, refused_lettersFrame _ (by decide)⟩

theorem largest_message_does_not_fit :
    ¬ lettersCluster.FitsAlong (lettersEnv 65500)
      (fun _ => none) ratioText
        [.frame 5 (lettersFrame 65500).body
          sampleReadings] := by
  intro hFits
  have hAccepted :=
    (Cluster.frames_accepted_iff (prints_lettersEnv 65500)
      (fun _ => none) lettersCluster _).mpr hFits
  rcases
    @refused_lettersFrame (fun _ => none) 65500 (by decide)
    with ⟨entry, hEntry, hRefused⟩
  exact
    hRefused
      (hAccepted entry (List.mem_append_left _ hEntry))

end ClusterChat
