import ClusterChat.Server.ChatService

/-
  The operations that the handlers can perform.

  Only a login deletes stored messages.  After it has set the
  state of the user, a login only reads, answers, and deletes
  what it has read.

  Main declarations:
    * `ChatService.always_answerLogin`
    * `ServerOp.RemovesNothing` and `ServerOp.Sessionless`
    * `ChatService.sessionless_getHandler`
    * `ChatService.keepsStored_getHandler`
    * `FrameHandler`, `onMessage_cases`, and
      `ChatService.session_cases`
-/

------------------------------------------------------------
-- The Answer of a Login
------------------------------------------------------------

namespace ClusterChat

namespace ChatService

variable (env : Externals)
variable {allowed : ServerOp → Prop}

/- One operation, then the rest. -/
theorem always_ask
    {α : Type}
    {op : ServerOp}
    {rest : op.Res → Handler α}
    (hOp : allowed op)
    (hRest : ∀ answer, (rest answer).Always allowed) :
    (ask op >>= rest).Always allowed :=
  ⟨hOp, hRest⟩

theorem always_takeOffline
    {id : Int}
    (hQuery : allowed (.queryOffline id))
    (hRemove : allowed (.removeOffline id))
    (response : JsonObject) :
    (takeOffline env id response).Always allowed := by
  unfold takeOffline
  apply always_ask hQuery
  intro vec
  split
  · trivial
  · exact ⟨hRemove, fun _ => trivial⟩

theorem always_addFriends
    {id : Int}
    (hQuery : allowed (.queryFriends id))
    (response : JsonObject) :
    (addFriends env id response).Always allowed := by
  unfold addFriends
  apply always_ask hQuery
  intro friends
  split <;> trivial

theorem always_queryMembers
    (hQuery : ∀ groupid, allowed (.queryMembersOf groupid))
    (groups : List GroupRow) :
    (queryMembers groups).Always allowed := by
  induction groups with
  | nil => trivial
  | cons group groups ih =>
      unfold queryMembers
      apply always_ask (hQuery group.id)
      intro users
      exact Process.always_bind ih fun _ => trivial

theorem always_addGroups
    {id : Int}
    (hQuery : allowed (.queryGroupsOf id))
    (hMembers : ∀ groupid, allowed (.queryMembersOf groupid))
    (response : JsonObject) :
    (addGroups env id response).Always allowed := by
  unfold addGroups
  apply always_ask hQuery
  intro groups
  apply Process.always_bind
  · exact always_queryMembers hMembers groups
  · intro members
    split <;> trivial

/- What a login does after the state update. -/
theorem always_answerLogin
    {conn : ConnId}
    {user : User}
    (hQuery : allowed (.queryOffline user.id))
    (hRemove : allowed (.removeOffline user.id))
    (hFriends : allowed (.queryFriends user.id))
    (hGroups : allowed (.queryGroupsOf user.id))
    (hMembers : ∀ groupid, allowed (.queryMembersOf groupid))
    (hSend : ∀ body, allowed (.send conn body)) :
    (answerLogin env conn user).Always allowed := by
  unfold answerLogin
  apply Process.always_bind
  · exact always_takeOffline env hQuery hRemove _
  intro stored
  apply Process.always_bind
  · exact always_addFriends env hFriends stored
  intro friends
  apply Process.always_bind
  · exact always_addGroups env hGroups hMembers friends
  intro response
  exact ⟨hSend _, fun _ => trivial⟩

end ChatService

------------------------------------------------------------
-- Handlers That Touch No Session
------------------------------------------------------------

/- The operation deletes no stored message. -/
def ServerOp.RemovesNothing : ServerOp → Prop
| removeOffline _ => False
| _ => True

/- The operation belongs to no login, logout, closing, or
shutdown, and registers nobody who is online. -/
def ServerOp.Sessionless : ServerOp → Prop
| insertConn _ _ => False
| eraseConn _ => False
| eraseConnOf _ => False
| subscribe _ => False
| unsubscribe _ => False
| queryUserByName _ => False
| updateState _ _ => False
| resetState => False
| removeOffline _ => False
| shutdown _ => False
| insertUser user => user.state = .offline
| _ => True

theorem ServerOp.Sessionless.removesNothing
    {op : ServerOp}
    (hOp : op.Sessionless) :
    op.RemovesNothing := by
  cases op with
  | removeOffline userid => exact hOp
  | _ => trivial

namespace ChatService

variable (env : Externals)
variable {allowed : ServerOp → Prop}

/- A handler that deletes no stored message. -/
abbrev KeepsStored (handler : Handler Unit) : Prop :=
  handler.Always ServerOp.RemovesNothing

/- A handler that touches no session. -/
abbrev Sessionless (handler : Handler Unit) : Prop :=
  handler.Always ServerOp.Sessionless

theorem Sessionless.keepsStored
    {handler : Handler Unit}
    (hHandler : Sessionless handler) :
    KeepsStored handler :=
  Process.Always.mono hHandler fun _ hOp =>
    ServerOp.Sessionless.removesNothing hOp

/- Reading a value from a frame is no operation. -/
theorem always_orThrow
    {α : Type}
    (value : Except JsonException α)
    {rest : α → Handler Unit}
    (hRest : ∀ value, (rest value).Always allowed) :
    (orThrow value >>= rest).Always allowed :=
  Process.always_bind (Process.always_ofExcept value) hRest

/- What brings a payload to one user, or to several. -/
theorem always_forward
    {id : Int}
    {payload : String}
    (hQuery : allowed (.queryUser id))
    (hPublish : allowed (.publish id payload))
    (hInsert : allowed (.insertOffline id payload)) :
    (forward id payload).Always allowed := by
  unfold forward
  apply always_ask hQuery
  intro (user : User)
  split
  · apply always_ask hPublish
    intro (published : Bool)
    split
    · trivial
    · exact ⟨hInsert, fun _ => trivial⟩
  · exact ⟨hInsert, fun _ => trivial⟩

theorem always_routeOne
    {toid : Int}
    {payload : String}
    (hFind : allowed (.findAndSend toid payload))
    (hQuery : allowed (.queryUser toid))
    (hPublish : allowed (.publish toid payload))
    (hInsert : allowed (.insertOffline toid payload)) :
    (routeOne toid payload).Always allowed := by
  unfold routeOne
  apply always_ask hFind
  intro sent
  split
  · trivial
  · exact always_forward hQuery hPublish hInsert

theorem always_sendAll
    {payload : String}
    (hSend : ∀ conn, allowed (.send conn payload))
    (conns : List ConnId) :
    (sendAll payload conns).Always allowed := by
  induction conns with
  | nil => trivial
  | cons conn conns ih => exact ⟨hSend conn, fun _ => ih⟩

theorem always_forwardAll
    {payload : String}
    (hQuery : ∀ id, allowed (.queryUser id))
    (hPublish : ∀ id, allowed (.publish id payload))
    (hInsert : ∀ id, allowed (.insertOffline id payload))
    (ids : List Int) :
    (forwardAll payload ids).Always allowed := by
  induction ids with
  | nil => trivial
  | cons id ids ih =>
      apply Process.always_bind
      · exact
          always_forward (hQuery id) (hPublish id)
            (hInsert id)
      · exact fun _ => ih

theorem always_routeGroup
    {payload : String}
    (hFind : ∀ userids, allowed (.findConns userids))
    (hSend : ∀ conn, allowed (.send conn payload))
    (hQuery : ∀ id, allowed (.queryUser id))
    (hPublish : ∀ id, allowed (.publish id payload))
    (hInsert : ∀ id, allowed (.insertOffline id payload))
    (useridVec : List Int) :
    (routeGroup useridVec payload).Always allowed := by
  unfold routeGroup
  apply always_ask (hFind useridVec)
  intro found
  apply Process.always_bind
  · exact always_sendAll hSend _
  · exact fun _ =>
      always_forwardAll hQuery hPublish hInsert _

theorem sessionless_routeOne
    (toid : Int)
    (payload : String) :
    Sessionless (routeOne toid payload) :=
  always_routeOne trivial trivial trivial trivial

theorem sessionless_routeGroup
    (useridVec : List Int)
    (payload : String) :
    Sessionless (routeGroup useridVec payload) :=
  always_routeGroup (fun _ => trivial) (fun _ => trivial)
    (fun _ => trivial) (fun _ => trivial)
    (fun _ => trivial) useridVec

theorem always_loginout
    (hErase : ∀ id, allowed (.eraseConn id))
    (hUnsubscribe : ∀ id, allowed (.unsubscribe id))
    (hOffline : ∀ id, allowed (.updateState id .offline))
    (js : JsonObject) :
    (loginout js).Always allowed := by
  apply always_orThrow
  intro userid
  exact
    ⟨hErase userid, fun _ =>
      ⟨hUnsubscribe userid, fun _ =>
        ⟨hOffline userid, fun _ => trivial⟩⟩⟩

theorem keepsStored_loginout (js : JsonObject) :
    KeepsStored (loginout js) :=
  always_loginout (fun _ => trivial) (fun _ => trivial)
    (fun _ => trivial) js

theorem always_clientCloseException
    {conn : ConnId}
    (hErase : allowed (.eraseConnOf conn))
    (hQuery : ∀ id, allowed (.queryUser id))
    (hOffline : ∀ id, allowed (.updateState id .offline))
    (hUnsubscribe : ∀ id, allowed (.unsubscribe id)) :
    (clientCloseException conn).Always allowed := by
  unfold clientCloseException
  apply always_ask hErase
  intro found
  dsimp only
  split
  · trivial
  · apply always_ask (hQuery _)
    intro (user : User)
    split
    · exact
        ⟨hOffline _, fun _ =>
          ⟨hUnsubscribe _, fun _ => trivial⟩⟩
    · exact ⟨hUnsubscribe _, fun _ => trivial⟩

/- What the server does when a connection is down. -/
theorem always_onConnection
    {conn : ConnId}
    (hErase : allowed (.eraseConnOf conn))
    (hQuery : ∀ id, allowed (.queryUser id))
    (hOffline : ∀ id, allowed (.updateState id .offline))
    (hUnsubscribe : ∀ id, allowed (.unsubscribe id))
    (hShutdown : allowed (.shutdown conn)) :
    (ChatServer.onConnection conn).Always allowed := by
  apply Process.always_bind
  · exact
      always_clientCloseException hErase hQuery hOffline
        hUnsubscribe
  · exact fun _ => ⟨hShutdown, fun _ => trivial⟩

theorem keepsStored_onConnection (conn : ConnId) :
    KeepsStored (ChatServer.onConnection conn) :=
  always_onConnection trivial (fun _ => trivial)
    (fun _ => trivial) (fun _ => trivial) trivial

theorem sessionless_handleredissubscribemessage
    (userid : Int)
    (msg : String) :
    Sessionless (handleredissubscribemessage userid msg) := by
  unfold handleredissubscribemessage
  apply always_ask trivial
  intro target
  split <;> exact ⟨trivial, fun _ => trivial⟩

/- A registration; the new user is offline. -/
theorem always_reg
    {conn : ConnId}
    (hInsert :
      ∀ user : User,
        user.state = .offline → allowed (.insertUser user))
    (hSend : ∀ body, allowed (.send conn body))
    (js : JsonObject)
    (readings : Readings) :
    (reg env conn js readings).Always allowed := by
  apply always_orThrow
  intro name
  apply always_orThrow
  intro password
  exact
    ⟨hInsert _ rfl, fun _ => ⟨hSend _, fun _ => trivial⟩⟩

theorem sessionless_reg
    (conn : ConnId)
    (js : JsonObject)
    (readings : Readings) :
    Sessionless (reg env conn js readings) :=
  always_reg env (fun _ hState => hState) (fun _ => trivial)
    js readings

theorem sessionless_onechat
    (js : JsonObject)
    (readings : Readings) :
    Sessionless (onechat env js readings) := by
  apply always_orThrow
  intro fromid
  apply always_orThrow
  intro toid
  exact ⟨trivial, fun _ => sessionless_routeOne toid _⟩

theorem sessionless_groupchat
    (js : JsonObject)
    (readings : Readings) :
    Sessionless (groupchat env js readings) := by
  apply always_orThrow
  intro userid
  apply always_orThrow
  intro groupid
  exact
    ⟨trivial, fun _ =>
      ⟨trivial, fun users => sessionless_routeGroup users _⟩⟩

theorem always_addfriend
    (hInsert :
      ∀ userid friendid,
        allowed (.insertFriend userid friendid))
    (js : JsonObject) :
    (addfriend js).Always allowed := by
  apply always_orThrow
  intro userid
  apply always_orThrow
  exact fun _ => ⟨hInsert _ _, fun _ => trivial⟩

theorem always_creategroup
    (hCreate :
      ∀ name desc userid,
        allowed (.createGroupWithCreator name desc userid))
    (js : JsonObject) :
    (creategroup js).Always allowed := by
  apply always_orThrow
  intro userid
  apply always_orThrow
  intro groupname
  apply always_orThrow
  exact fun _ => ⟨hCreate _ _ _, fun _ => trivial⟩

theorem always_addgroup
    (hAdd :
      ∀ userid groupid,
        allowed (.addGroup userid groupid "normal"))
    (js : JsonObject) :
    (addgroup js).Always allowed := by
  apply always_orThrow
  intro userid
  apply always_orThrow
  exact fun _ => ⟨hAdd _ _, fun _ => trivial⟩

theorem sessionless_addfriend (js : JsonObject) :
    Sessionless (addfriend js) :=
  always_addfriend (fun _ _ => trivial) js

theorem sessionless_creategroup (js : JsonObject) :
    Sessionless (creategroup js) :=
  always_creategroup (fun _ _ _ => trivial) js

theorem sessionless_addgroup (js : JsonObject) :
    Sessionless (addgroup js) :=
  always_addgroup (fun _ _ => trivial) js

/- Every handler but those for logins and logouts. -/
theorem sessionless_getHandler
    {msgid : Int}
    (hNotLogin : msgid ≠ EnMsgType.loginMsg.code)
    (hNotLoginout : msgid ≠ EnMsgType.loginoutMsg.code)
    (conn : ConnId)
    (js : JsonObject)
    (readings : Readings) :
    Sessionless (getHandler env msgid conn js readings) := by
  unfold getHandler
  rw [if_neg hNotLogin, if_neg hNotLoginout]
  split
  · exact sessionless_reg env conn js readings
  split
  · exact sessionless_onechat env js readings
  split
  · exact sessionless_addfriend js
  split
  · exact sessionless_creategroup js
  split
  · exact sessionless_addgroup js
  split
  · exact sessionless_groupchat env js readings
  · trivial

/- Every handler but the one for logins. -/
theorem keepsStored_getHandler
    {msgid : Int}
    (hNotLogin : msgid ≠ EnMsgType.loginMsg.code)
    (conn : ConnId)
    (js : JsonObject)
    (readings : Readings) :
    KeepsStored
      (getHandler env msgid conn js readings) := by
  by_cases hLoginout : msgid = EnMsgType.loginoutMsg.code
  · unfold getHandler
    rw [if_neg hNotLogin, if_pos hLoginout]
    exact keepsStored_loginout js
  · exact
      (sessionless_getHandler env hNotLogin hLoginout conn js
        readings).keepsStored

end ChatService

------------------------------------------------------------
-- The Handler of a Frame
------------------------------------------------------------

/- What a frame makes the server do, by the kind of frame. -/
inductive FrameHandler
    (env : Externals)
    (conn : ConnId)
    (body : String)
    (readings : Readings) : Handler Unit → Prop where
| login
    (js : JsonObject)
    (parsed : env.codec.parse body = some (.object js)) :
    FrameHandler env conn body readings
      (ChatService.login env conn js)
| loginout
    (js : JsonObject)
    (parsed : env.codec.parse body = some (.object js)) :
    FrameHandler env conn body readings
      (ChatService.loginout js)
| onechat
    (js : JsonObject)
    (parsed : env.codec.parse body = some (.object js))
    (isInteger : (js.field "msgid").isNumberInteger = true)
    (typed :
      (js.field "msgid").getInt =
        .ok EnMsgType.oneChatMsg.code) :
    FrameHandler env conn body readings
      (ChatService.onechat env js readings)
| groupchat
    (js : JsonObject)
    (parsed : env.codec.parse body = some (.object js))
    (isInteger : (js.field "msgid").isNumberInteger = true)
    (typed :
      (js.field "msgid").getInt =
        .ok EnMsgType.groupChatMsg.code) :
    FrameHandler env conn body readings
      (ChatService.groupchat env js readings)
| reg
    (js : JsonObject)
    (parsed : env.codec.parse body = some (.object js)) :
    FrameHandler env conn body readings
      (ChatService.reg env conn js readings)
| addfriend
    (js : JsonObject)
    (parsed : env.codec.parse body = some (.object js)) :
    FrameHandler env conn body readings
      (ChatService.addfriend js)
| creategroup
    (js : JsonObject)
    (parsed : env.codec.parse body = some (.object js)) :
    FrameHandler env conn body readings
      (ChatService.creategroup js)
| addgroup
    (js : JsonObject)
    (parsed : env.codec.parse body = some (.object js)) :
    FrameHandler env conn body readings
      (ChatService.addgroup js)
| nothing :
    FrameHandler env conn body readings (.ret ())
| fails (error : JsonException) :
    FrameHandler env conn body readings (.throw error)

theorem frameHandler_getHandler
    {env : Externals}
    {conn : ConnId}
    {body : String}
    {readings : Readings}
    {js : JsonObject}
    (hParsed : env.codec.parse body = some (.object js))
    (hInteger : (js.field "msgid").isNumberInteger = true)
    {msgid : Int}
    (hMsgid : (js.field "msgid").getInt = .ok msgid) :
    FrameHandler env conn body readings
      (ChatService.getHandler env msgid conn js
        readings) := by
  unfold ChatService.getHandler
  split
  · exact FrameHandler.login js hParsed
  split
  · exact FrameHandler.loginout js hParsed
  split
  · exact FrameHandler.reg js hParsed
  split
  · rename_i hOneChat
    rw [hOneChat] at hMsgid
    exact FrameHandler.onechat js hParsed hInteger hMsgid
  split
  · exact FrameHandler.addfriend js hParsed
  split
  · exact FrameHandler.creategroup js hParsed
  split
  · exact FrameHandler.addgroup js hParsed
  split
  · rename_i hGroupChat
    rw [hGroupChat] at hMsgid
    exact FrameHandler.groupchat js hParsed hInteger hMsgid
  · exact FrameHandler.nothing

/- Every frame has one of these handlers. -/
theorem onMessage_cases
    (env : Externals)
    (conn : ConnId)
    (body : String)
    (readings : Readings) :
    ∃ handler,
      FrameHandler env conn body readings handler ∧
        ChatServer.onMessage env conn body readings =
          ChatServer.guarded conn handler := by
  unfold ChatServer.onMessage
  cases hParsed : env.codec.parse body with
  | none => exact ⟨_, FrameHandler.fails .parseError, rfl⟩
  | some js =>
  cases js with
  | object fields =>
      unfold ChatServer.dispatch
      dsimp only
      split
      · rename_i hInteger
        cases hMsgid :
            (JsonObject.field fields "msgid").getInt with
        | error error =>
            exact ⟨_, FrameHandler.fails error, rfl⟩
        | ok msgid =>
            exact
              ⟨_,
                frameHandler_getHandler hParsed hInteger
                  hMsgid,
                rfl⟩
      · exact ⟨_, FrameHandler.nothing, rfl⟩
  | _ => exact ⟨_, FrameHandler.nothing, rfl⟩

namespace ChatService

/- A frame is a login, a logout, or touches no session. -/
theorem session_cases
    {env : Externals}
    {conn : ConnId}
    {body : String}
    {readings : Readings}
    {handler : Handler Unit}
    (hFrame : FrameHandler env conn body readings handler) :
    (∃ js, handler = login env conn js) ∨
      (∃ js, handler = loginout js) ∨ Sessionless handler := by
  cases hFrame with
  | login js parsed => exact Or.inl ⟨js, rfl⟩
  | loginout js parsed => exact Or.inr (Or.inl ⟨js, rfl⟩)
  | onechat js parsed isInteger typed =>
      exact
        Or.inr (Or.inr (sessionless_onechat env js readings))
  | groupchat js parsed isInteger typed =>
      exact
        Or.inr
          (Or.inr (sessionless_groupchat env js readings))
  | reg js parsed =>
      exact
        Or.inr (Or.inr (sessionless_reg env conn js readings))
  | addfriend js parsed =>
      exact Or.inr (Or.inr (sessionless_addfriend js))
  | creategroup js parsed =>
      exact Or.inr (Or.inr (sessionless_creategroup js))
  | addgroup js parsed =>
      exact Or.inr (Or.inr (sessionless_addgroup js))
  | nothing => exact Or.inr (Or.inr trivial)
  | fails error => exact Or.inr (Or.inr trivial)

end ChatService

end ClusterChat
