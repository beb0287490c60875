import ClusterChat.Library.Process
import ClusterChat.Server.Database
import ClusterChat.Server.OfflineMessages

/-
  The request handlers of `chatservice.cpp`.

  A handler is a process over the operations of the server:
  each critical section of `_connMutex`, each call of
  `sendWithHeader`, each Redis command, and each SQL
  statement is one operation.

  Main declarations:
    * `ServerOp` and its answers
    * `ChatService.login`, `ChatService.loginout`
    * `ChatService.onechat`, `ChatService.groupchat`
    * `ChatService.clientCloseException`
    * `ChatService.handleredissubscribemessage`
    * `ChatService.getHandler`
    * `ChatServer.onMessage` and `ChatServer.onConnection`
-/

------------------------------------------------------------
-- Operations
------------------------------------------------------------

namespace ClusterChat

/- A connection of a client. -/
abbrev ConnId := Nat

/- What the handlers do to the rest of the system. -/
inductive ServerOp where
| findConn (userid : Int)
| findConns (userids : List Int)
| findAndSend (userid : Int) (payload : String)
| insertConn (userid : Int) (conn : ConnId)
| eraseConn (userid : Int)
| eraseConnOf (conn : ConnId)
| send (conn : ConnId) (body : String)
| shutdown (conn : ConnId)
| incrSeq (conversationId : String)
| publish (channel : Int) (message : String)
| subscribe (channel : Int)
| unsubscribe (channel : Int)
| insertUser (user : User)
| queryUser (id : Int)
| queryUserByName (name : String)
| updateState (id : Int) (state : UserState)
| resetState
| insertOffline (userid : Int) (msg : String)
| removeOffline (userid : Int)
| queryOffline (userid : Int)
| insertFriend (userid friendid : Int)
| queryFriends (userid : Int)
| createGroupWithCreator
    (groupname groupdesc : String) (creatorId : Int)
| addGroup (userid groupid : Int) (role : String)
| queryGroupsOf (userid : Int)
| queryMembersOf (groupid : Int)
| queryGroupUsers (userid groupid : Int)
deriving DecidableEq

/-
  What an operation answers.  `findConns` copies the entries
  of the given users.
-/
@[reducible] def ServerOp.Res : ServerOp → Type
| findConn _ => Option ConnId
| findConns _ => Int → Option ConnId
| findAndSend _ _ => Bool
| insertConn _ _ => Unit
| eraseConn _ => Unit
| eraseConnOf _ => Option Int
| send _ _ => Unit
| shutdown _ => Unit
| incrSeq _ => Nat
| publish _ _ => Bool
| subscribe _ => Bool
| unsubscribe _ => Bool
| insertUser _ => Option Int
| queryUser _ => User
| queryUserByName _ => User
| updateState _ _ => Bool
| resetState => Unit
| insertOffline _ _ => Unit
| removeOffline _ => Unit
| queryOffline _ => List String
| insertFriend _ _ => Unit
| queryFriends _ => List User
| createGroupWithCreator _ _ _ => Bool
| addGroup _ _ _ => Unit
| queryGroupsOf _ => List GroupRow
| queryMembersOf _ => List (User × String)
| queryGroupUsers _ _ => List Int

/- A handler, which may throw a JSON exception. -/
abbrev Handler :=
  Process ServerOp ServerOp.Res JsonException

/- Perform one operation. -/
def ask (op : ServerOp) : Handler op.Res :=
  Process.perform op

/- Continue with a value that was read from a frame. -/
def orThrow
    {α : Type}
    (value : Except JsonException α) : Handler α :=
  Process.ofExcept value

@[simp] theorem ask_bind
    {α : Type}
    (op : ServerOp)
    (rest : op.Res → Handler α) :
    (ask op >>= rest) = Process.act op rest := rfl

@[simp] theorem orThrow_ok
    {α : Type}
    (value : α) :
    orThrow (.ok value) = Process.ret value := rfl

@[simp] theorem orThrow_error
    {α : Type}
    (error : JsonException) :
    (orThrow (.error error) : Handler α) =
      Process.throw error := rfl

/- What lies outside the repository. -/
structure Externals where
  codec : JsonCodec
  sha256 : Bytes → Bytes
  collate : String → String

/- What a handler reads from outside: the receive time and
the random salt of `makeSalt`. -/
structure Readings where
  time : Timestamp
  salt : Bytes

namespace ChatService

variable (env : Externals)

/- `ChatServer::sendWithHeader` of a response. -/
def respond
    (conn : ConnId)
    (response : JsonObject) : Handler Unit :=
  ask (.send conn (env.codec.dump (.object response)))

------------------------------------------------------------
-- Login
------------------------------------------------------------

/- The answer to a refused login. -/
def loginRefused
    (errno : Int)
    (errmsg : String) : JsonObject :=
  JsonObject.assign "errmsg" (.string errmsg)
    (JsonObject.assign "errno" (.integer errno)
      (JsonObject.assign "msgid"
        (.integer EnMsgType.loginAckMsg.code) []))

/- The stored messages: read them, then delete them. -/
def takeOffline
    (id : Int)
    (response : JsonObject) : Handler JsonObject := do
  let vec : List String ← ask (.queryOffline id)
  if vec.isEmpty then
    return response
  else
    ask (.removeOffline id)
    return withOfflineMessages env.codec vec response

/- The text for one friend. -/
def friendText (user : User) : String :=
  env.codec.dump
    (.object
      (JsonObject.assign "state" (.string user.state.text)
        (JsonObject.assign "name" (.string user.name)
          (JsonObject.assign "id" (.integer user.id) []))))

/- The friends of the answer. -/
def addFriends
    (id : Int)
    (response : JsonObject) : Handler JsonObject := do
  let vecFriend : List User ← ask (.queryFriends id)
  if vecFriend.isEmpty then
    return response
  else
    return JsonObject.assign "friends"
      (.array (vecFriend.map fun user =>
        .string (friendText env user))) response

/- The text for one member of a group. -/
def memberText (member : User × String) : String :=
  env.codec.dump
    (.object
      (JsonObject.assign "role" (.string member.2)
        (JsonObject.assign "state"
          (.string member.1.state.text)
          (JsonObject.assign "name" (.string member.1.name)
            (JsonObject.assign "id"
              (.integer member.1.id) [])))))

/- The text for one group. -/
def groupText
    (group : GroupRow × List (User × String)) : String :=
  env.codec.dump
    (.object
      (JsonObject.assign "users"
        (.array (group.2.map fun member =>
          .string (memberText env member)))
        (JsonObject.assign "groupdesc"
          (.string group.1.groupdesc)
          (JsonObject.assign "groupname"
            (.string group.1.groupname)
            (JsonObject.assign "id"
              (.integer group.1.id) [])))))

/- The members of each group, one statement for each. -/
def queryMembers :
    List GroupRow →
      Handler (List (GroupRow × List (User × String)))
| [] => return []
| group :: groups => do
    let users : List (User × String) ←
      ask (.queryMembersOf group.id)
    let rest ← queryMembers groups
    return (group, users) :: rest

/- The groups of the answer. -/
def addGroups
    (id : Int)
    (response : JsonObject) : Handler JsonObject := do
  let groups : List GroupRow ← ask (.queryGroupsOf id)
  let groupuserVec ← queryMembers groups
  if groupuserVec.isEmpty then
    return response
  else
    return JsonObject.assign "groups"
      (.array (groupuserVec.map fun group =>
        .string (groupText env group))) response

/- Everything a login sends after it has set the state. -/
def answerLogin
    (conn : ConnId)
    (user : User) : Handler Unit := do
  let response ←
    takeOffline env user.id
      (loginAccepted user.id user.name)
  let response ← addFriends env user.id response
  let response ← addGroups env user.id response
  respond env conn response

/- The password of the request fits the row. -/
def accepts
    (user : User)
    (password : String) : Bool :=
  decide (user.id ≠ -1) &&
    crypto.safeEqual
      (crypto.hashPassword env.sha256 user.salt
        (utf8 password))
      user.password

/- `login` -/
def login
    (conn : ConnId)
    (js : JsonObject) : Handler Unit := do
  let name ← orThrow (js.field "name").getString
  let password ← orThrow (js.field "password").getString
  let user : User ← ask (.queryUserByName name)
  if accepts env user password then
    if user.state = .online then
      respond env conn
        (loginRefused 2 "该账号已经登录，不能重复登录")
    else
      ask (.insertConn user.id conn)
      let _ ← ask (.subscribe user.id)
      let _ ← ask (.updateState user.id .online)
      answerLogin env conn user
  else
    respond env conn (loginRefused 1 "用户名或密码错误")

------------------------------------------------------------
-- Registration and Leaving
------------------------------------------------------------

/- The answer to a registration. -/
def regAnswer (id : Option Int) : JsonObject :=
  match id with
  | some id =>
      JsonObject.assign "errno" (.integer 0)
        (JsonObject.assign "id" (.integer id)
          (JsonObject.assign "msgid"
            (.integer EnMsgType.regAckMsg.code) []))
  | none =>
      JsonObject.assign "errno" (.integer 1)
        (JsonObject.assign "msgid"
          (.integer EnMsgType.regAckMsg.code) [])

/- `reg`, with the salt of `UserModel::insert`. -/
def reg
    (conn : ConnId)
    (js : JsonObject)
    (readings : Readings) : Handler Unit := do
  let name ← orThrow (js.field "name").getString
  let password ← orThrow (js.field "password").getString
  let id : Option Int ← ask
    (.insertUser
      { name := name
        password :=
          crypto.hashPassword env.sha256 readings.salt
            (utf8 password)
        salt := readings.salt
        state := .offline })
  respond env conn (regAnswer id)

/- `loginout` -/
def loginout (js : JsonObject) : Handler Unit := do
  let userid ← orThrow (js.field "id").getInt
  ask (.eraseConn userid)
  let _ ← ask (.unsubscribe userid)
  let _ ← ask (.updateState userid .offline)
  return ()

/- `clientCloseException` -/
def clientCloseException (conn : ConnId) : Handler Unit := do
  let found : Option Int ← ask (.eraseConnOf conn)
  let userid := Option.getD found (-1)
  if userid = -1 then
    return ()
  else
    let user : User ← ask (.queryUser userid)
    if user.id ≠ -1 then
      let _ ← ask (.updateState user.id .offline)
      let _ ← ask (.unsubscribe userid)
      return ()
    else
      let _ ← ask (.unsubscribe userid)
      return ()

------------------------------------------------------------
-- Chat
------------------------------------------------------------

/-
  For a user who is not on this node: publish when the user
  is online elsewhere, store otherwise or when that fails.
-/
def forward
    (id : Int)
    (payload : String) : Handler Unit := do
  let user : User ← ask (.queryUser id)
  if user.state = .online then
    let published : Bool ← ask (.publish id payload)
    if published then
      return ()
    else
      ask (.insertOffline id payload)
  else
    ask (.insertOffline id payload)

/- `onechat` from the lookup of the recipient on. -/
def routeOne
    (toid : Int)
    (payload : String) : Handler Unit := do
  let sent : Bool ← ask (.findAndSend toid payload)
  if sent then
    return ()
  else
    forward toid payload

/- `onechat` -/
def onechat
    (js : JsonObject)
    (readings : Readings) : Handler Unit := do
  let fromid ← orThrow (js.field "id").getInt
  let toid ← orThrow (js.field "toid").getInt
  let convId := conv.p2p fromid toid
  let seq : Nat ← ask (.incrSeq convId)
  let payload :=
    env.codec.dump
      (.object (stamp convId seq readings.time js))
  routeOne toid payload

/- Send to every connection, in order. -/
def sendAll (payload : String) :
    List ConnId → Handler Unit
| [] => return ()
| conn :: conns => do
    ask (.send conn payload)
    sendAll payload conns

/- Forward to every user, in order. -/
def forwardAll (payload : String) :
    List Int → Handler Unit
| [] => return ()
| id :: ids => do
    forward id payload
    forwardAll payload ids

/- `groupchat` from the lookup of the members on. -/
def routeGroup
    (useridVec : List Int)
    (payload : String) : Handler Unit := do
  let found : Int → Option ConnId ←
    ask (.findConns useridVec)
  sendAll payload (useridVec.filterMap found)
  forwardAll payload
    (useridVec.filter fun id => (found id).isNone)

/- `groupchat` -/
def groupchat
    (js : JsonObject)
    (readings : Readings) : Handler Unit := do
  let userid ← orThrow (js.field "id").getInt
  let groupid ← orThrow (js.field "groupid").getInt
  let convId := conv.group groupid
  let seq : Nat ← ask (.incrSeq convId)
  let payload :=
    env.codec.dump
      (.object (stamp convId seq readings.time js))
  let useridVec : List Int ←
    ask (.queryGroupUsers userid groupid)
  routeGroup useridVec payload

/- `handleredissubscribemessage` -/
def handleredissubscribemessage
    (userid : Int)
    (msg : String) : Handler Unit := do
  let target : Option ConnId ← ask (.findConn userid)
  match target with
  | some conn => ask (.send conn msg)
  | none => ask (.insertOffline userid msg)

------------------------------------------------------------
-- Friends, Groups, and Shutdown
------------------------------------------------------------

/- `addfriend` -/
def addfriend (js : JsonObject) : Handler Unit := do
  let userid ← orThrow (js.field "id").getInt
  let friendid ← orThrow (js.field "friendid").getInt
  ask (.insertFriend userid friendid)

/- `creategroup` -/
def creategroup (js : JsonObject) : Handler Unit := do
  let userid ← orThrow (js.field "id").getInt
  let groupname ← orThrow (js.field "groupname").getString
  let groupdesc ← orThrow (js.field "groupdesc").getString
  let _ ← ask
    (.createGroupWithCreator groupname groupdesc userid)
  return ()

/- `addgroup` -/
def addgroup (js : JsonObject) : Handler Unit := do
  let userid ← orThrow (js.field "id").getInt
  let groupid ← orThrow (js.field "groupid").getInt
  ask (.addGroup userid groupid "normal")

/- `reset` -/
def reset : Handler Unit :=
  ask .resetState

/-
  `getHandler`: the handler registered for a message type; an
  unknown type has one that does nothing.
-/
def getHandler
    (msgid : Int)
    (conn : ConnId)
    (js : JsonObject)
    (readings : Readings) : Handler Unit :=
  if msgid = EnMsgType.loginMsg.code then
    login env conn js
  else if msgid = EnMsgType.loginoutMsg.code then
    loginout js
  else if msgid = EnMsgType.regMsg.code then
    reg env conn js readings
  else if msgid = EnMsgType.oneChatMsg.code then
    onechat env js readings
  else if msgid = EnMsgType.addFriendMsg.code then
    addfriend js
  else if msgid = EnMsgType.createGroupMsg.code then
    creategroup js
  else if msgid = EnMsgType.addGroupMsg.code then
    addgroup js
  else if msgid = EnMsgType.groupChatMsg.code then
    groupchat env js readings
  else
    return ()

end ChatService

namespace ChatServer

/- A JSON exception shuts the connection down. -/
def guarded
    (conn : ConnId)
    (handler : Handler Unit) : Handler Unit :=
  Process.tryCatch handler fun _ => ask (.shutdown conn)

/-
  The part of `onMessage` behind `json::parse`: an object
  with an integer `msgid` goes to its handler, anything else
  is ignored.
-/
def dispatch
    (env : Externals)
    (conn : ConnId)
    (js : Json)
    (readings : Readings) : Handler Unit :=
  match js with
  | .object fields =>
      let msgid := JsonObject.field fields "msgid"
      if msgid.isNumberInteger then do
        let msgid ← orThrow msgid.getInt
        ChatService.getHandler env msgid conn fields readings
      else
        return ()
  | _ => return ()

/- `onMessage` for one complete frame. -/
def onMessage
    (env : Externals)
    (conn : ConnId)
    (body : String)
    (readings : Readings) : Handler Unit :=
  guarded conn
    (match env.codec.parse body with
      | some js => dispatch env conn js readings
      | none => orThrow (.error .parseError))

/- `onConnection` when a connection is down. -/
def onConnection (conn : ConnId) : Handler Unit := do
  ChatService.clientCloseException conn
  ask (.shutdown conn)

end ChatServer

end ClusterChat
