import ClusterChat.Library.Trace
import ClusterChat.Server.Cluster
import ClusterChat.Server.HandlerOps

/-
  Frames that end in a JSON exception.

  Every handler reads the fields it needs before it performs
  its first operation, and nothing behind that throws.  So a
  frame is either rejected before anything has happened, or
  its handler returns.

  Main declarations:
    * `ChatService.requires` and `ChatService.readable`
    * `ChatService.throws_getHandler`
    * `ChatService.returns_getHandler`
    * `ChatService.rejected_frame_has_no_effect`
-/

------------------------------------------------------------
-- Handlers That Return
------------------------------------------------------------

namespace ClusterChat

/- The answer to a successful login. -/
def IsLoginAck (response : JsonObject) : Prop :=
  JsonObject.find? "msgid" response =
      some (.integer EnMsgType.loginAckMsg.code) ∧
    JsonObject.find? "errno" response = some (.integer 0)

theorem isLoginAck_loginAccepted
    (id : Int)
    (name : String) :
    IsLoginAck (ChatService.loginAccepted id name) := by
  unfold ChatService.loginAccepted
  constructor
  · rw [JsonObject.find?_assign_of_ne (by decide),
      JsonObject.find?_assign_of_ne (by decide),
      JsonObject.find?_assign_of_ne (by decide),
      JsonObject.find?_assign_self]
  · rw [JsonObject.find?_assign_of_ne (by decide),
      JsonObject.find?_assign_of_ne (by decide),
      JsonObject.find?_assign_self]

/- Other members may be added. -/
theorem IsLoginAck.assign
    {response : JsonObject}
    (hAck : IsLoginAck response)
    {key : String}
    (hMsgid : "msgid" ≠ key)
    (hErrno : "errno" ≠ key)
    (value : Json) :
    IsLoginAck (JsonObject.assign key value response) := by
  constructor
  · rw [JsonObject.find?_assign_of_ne hMsgid]
    exact hAck.1
  · rw [JsonObject.find?_assign_of_ne hErrno]
    exact hAck.2

namespace ChatService

variable {env : Externals}

/- One operation, then the rest. -/
theorem returns_ask
    {α : Type}
    {post : α → Prop}
    {op : ServerOp}
    {rest : op.Res → Handler α}
    (hRest : ∀ answer, (rest answer).Returns post) :
    (ask op >>= rest).Returns post := hRest

theorem returns_takeOffline
    (id : Int)
    {response : JsonObject}
    (hAck : IsLoginAck response) :
    (takeOffline env id response).Returns IsLoginAck := by
  apply returns_ask
  intro vec
  split
  · exact hAck
  · intro _
    unfold withOfflineMessages
    split
    · exact hAck
    · exact hAck.assign (by decide) (by decide) _

theorem returns_addFriends
    (id : Int)
    {response : JsonObject}
    (hAck : IsLoginAck response) :
    (addFriends env id response).Returns IsLoginAck := by
  apply returns_ask
  intro friends
  split
  · exact hAck
  · exact hAck.assign (by decide) (by decide) _

theorem returns_queryMembers (groups : List GroupRow) :
    (queryMembers groups).Returns fun _ => True := by
  induction groups with
  | nil => trivial
  | cons group groups ih =>
      apply returns_ask
      intro users
      exact Process.returns_bind ih fun _ _ => trivial

theorem returns_addGroups
    (id : Int)
    {response : JsonObject}
    (hAck : IsLoginAck response) :
    (addGroups env id response).Returns IsLoginAck := by
  apply returns_ask
  intro groups
  apply Process.returns_bind (returns_queryMembers groups)
  intro members _
  split
  · exact hAck
  · exact hAck.assign (by decide) (by decide) _

theorem returns_respond
    (conn : ConnId)
    (response : JsonObject) :
    (respond env conn response).Returns fun _ => True :=
  fun _ => trivial

theorem returns_answerLogin
    (conn : ConnId)
    (user : User) :
    (answerLogin env conn user).Returns fun _ => True := by
  unfold answerLogin
  apply Process.returns_bind
    (returns_takeOffline user.id
      (isLoginAck_loginAccepted user.id user.name))
  intro stored hStored
  apply Process.returns_bind
    (returns_addFriends user.id hStored)
  intro friends hFriends
  apply Process.returns_bind
    (returns_addGroups user.id hFriends)
  intro response _
  exact returns_respond conn response

theorem returns_forward
    (id : Int)
    (payload : String) :
    (forward id payload).Returns fun _ => True := by
  apply returns_ask
  intro (user : User)
  split
  · apply returns_ask
    intro (published : Bool)
    split
    · trivial
    · exact fun _ => trivial
  · exact fun _ => trivial

theorem returns_routeOne
    (toid : Int)
    (payload : String) :
    (routeOne toid payload).Returns fun _ => True := by
  apply returns_ask
  intro (sent : Bool)
  split
  · trivial
  · exact returns_forward toid payload

theorem returns_sendAll
    (payload : String)
    (conns : List ConnId) :
    (sendAll payload conns).Returns fun _ => True := by
  induction conns with
  | nil => trivial
  | cons conn conns ih => exact returns_ask fun _ => ih

theorem returns_forwardAll
    (payload : String)
    (ids : List Int) :
    (forwardAll payload ids).Returns fun _ => True := by
  induction ids with
  | nil => trivial
  | cons id ids ih =>
      exact
        Process.returns_bind (returns_forward id payload)
          fun _ _ => ih

theorem returns_routeGroup
    (useridVec : List Int)
    (payload : String) :
    (routeGroup useridVec payload).Returns
      fun _ => True := by
  apply returns_ask
  intro found
  exact
    Process.returns_bind (returns_sendAll payload _)
      fun _ _ => returns_forwardAll payload _

end ChatService

------------------------------------------------------------
-- The Fields of a Frame
------------------------------------------------------------

/- What a handler wants a field to be. -/
inductive FieldKind where
| number
| text
deriving DecidableEq, Repr

/- The conversion to `int` or `string` succeeds. -/
def FieldKind.fits : FieldKind → Json → Bool
| number, js => js.getInt.toBool
| text, js => js.getString.toBool

namespace ChatService

/- The fields that the handler of a message type reads. -/
def requires (msgid : Int) : List (String × FieldKind) :=
  if msgid = EnMsgType.loginMsg.code then
    [("name", .text), ("password", .text)]
  else if msgid = EnMsgType.loginoutMsg.code then
    [("id", .number)]
  else if msgid = EnMsgType.regMsg.code then
    [("name", .text), ("password", .text)]
  else if msgid = EnMsgType.oneChatMsg.code then
    [("id", .number), ("toid", .number)]
  else if msgid = EnMsgType.addFriendMsg.code then
    [("id", .number), ("friendid", .number)]
  else if msgid = EnMsgType.createGroupMsg.code then
    [("id", .number), ("groupname", .text),
      ("groupdesc", .text)]
  else if msgid = EnMsgType.addGroupMsg.code then
    [("id", .number), ("groupid", .number)]
  else if msgid = EnMsgType.groupChatMsg.code then
    [("id", .number), ("groupid", .number)]
  else
    []

/- Every field that the handler reads is there and has its
type. -/
def readable
    (msgid : Int)
    (js : JsonObject) : Bool :=
  (requires msgid).all fun field =>
    field.2.fits (js.field field.1)

/- The process throws before it performs anything, or it
returns; which of them, the condition tells. -/
structure Reads
    (fits : Bool)
    (handler : Handler Unit) : Prop where
  returns : fits = true → handler.Returns fun _ => True
  throws :
    fits = false → ∃ error, handler = Process.throw error

theorem reads_of_returns
    {handler : Handler Unit}
    (hHandler : handler.Returns fun _ => True) :
    Reads true handler where
  returns := fun _ => hHandler
  throws := fun hFits => absurd hFits (by decide)

/- One field, then the rest. -/
theorem reads_orThrow
    {α : Type}
    {value : Except JsonException α}
    {rest : α → Handler Unit}
    {fits : Bool}
    (hRest : ∀ found, Reads fits (rest found)) :
    Reads (value.toBool && fits)
      (orThrow value >>= rest) := by
  cases value with
  | error error =>
      exact
        { returns := fun hFits => Bool.noConfusion hFits
          throws := fun _ => ⟨error, rfl⟩ }
  | ok found => exact hRest found

theorem reads_login
    (env : Externals)
    (conn : ConnId)
    (js : JsonObject) :
    Reads
      ((js.field "name").getString.toBool &&
        ((js.field "password").getString.toBool && true))
      (login env conn js) := by
  apply reads_orThrow
  intro name
  apply reads_orThrow
  intro password
  apply reads_of_returns
  apply returns_ask
  intro (user : User)
  split
  · split
    · exact returns_respond conn _
    · apply returns_ask
      intro _
      apply returns_ask
      intro _
      apply returns_ask
      intro _
      exact returns_answerLogin conn user
  · exact returns_respond conn _

theorem reads_loginout (js : JsonObject) :
    Reads ((js.field "id").getInt.toBool && true)
      (loginout js) := by
  apply reads_orThrow
  intro userid
  apply reads_of_returns
  exact fun _ _ _ => trivial

theorem reads_reg
    (env : Externals)
    (conn : ConnId)
    (js : JsonObject)
    (readings : Readings) :
    Reads
      ((js.field "name").getString.toBool &&
        ((js.field "password").getString.toBool && true))
      (reg env conn js readings) := by
  apply reads_orThrow
  intro name
  apply reads_orThrow
  intro password
  apply reads_of_returns
  exact returns_ask fun _ => returns_respond conn _

theorem reads_onechat
    (env : Externals)
    (js : JsonObject)
    (readings : Readings) :
    Reads
      ((js.field "id").getInt.toBool &&
        ((js.field "toid").getInt.toBool && true))
      (onechat env js readings) := by
  apply reads_orThrow
  intro fromid
  apply reads_orThrow
  intro toid
  apply reads_of_returns
  exact returns_ask fun _ => returns_routeOne toid _

theorem reads_addfriend (js : JsonObject) :
    Reads
      ((js.field "id").getInt.toBool &&
        ((js.field "friendid").getInt.toBool && true))
      (addfriend js) := by
  apply reads_orThrow
  intro userid
  apply reads_orThrow
  intro friendid
  apply reads_of_returns
  exact fun _ => trivial

theorem reads_creategroup (js : JsonObject) :
    Reads
      ((js.field "id").getInt.toBool &&
        ((js.field "groupname").getString.toBool &&
          ((js.field "groupdesc").getString.toBool && true)))
      (creategroup js) := by
  apply reads_orThrow
  intro userid
  apply reads_orThrow
  intro groupname
  apply reads_orThrow
  intro groupdesc
  apply reads_of_returns
  exact fun _ => trivial

theorem reads_addgroup (js : JsonObject) :
    Reads
      ((js.field "id").getInt.toBool &&
        ((js.field "groupid").getInt.toBool && true))
      (addgroup js) := by
  apply reads_orThrow
  intro userid
  apply reads_orThrow
  intro groupid
  apply reads_of_returns
  exact fun _ => trivial

theorem reads_groupchat
    (env : Externals)
    (js : JsonObject)
    (readings : Readings) :
    Reads
      ((js.field "id").getInt.toBool &&
        ((js.field "groupid").getInt.toBool && true))
      (groupchat env js readings) := by
  apply reads_orThrow
  intro userid
  apply reads_orThrow
  intro groupid
  apply reads_of_returns
  apply returns_ask
  intro seq
  exact returns_ask fun users => returns_routeGroup users _

/- The handler that a message type is registered with. -/
theorem reads_getHandler
    (env : Externals)
    (msgid : Int)
    (conn : ConnId)
    (js : JsonObject)
    (readings : Readings) :
    Reads (readable msgid js)
      (getHandler env msgid conn js readings) := by
  unfold readable requires getHandler
  by_cases hLogin : msgid = EnMsgType.loginMsg.code
  · rw [if_pos hLogin, if_pos hLogin]
    exact reads_login env conn js
  rw [if_neg hLogin, if_neg hLogin]
  by_cases hLoginout : msgid = EnMsgType.loginoutMsg.code
  · rw [if_pos hLoginout, if_pos hLoginout]
    exact reads_loginout js
  rw [if_neg hLoginout, if_neg hLoginout]
  by_cases hReg : msgid = EnMsgType.regMsg.code
  · rw [if_pos hReg, if_pos hReg]
    exact reads_reg env conn js readings
  rw [if_neg hReg, if_neg hReg]
  by_cases hOneChat : msgid = EnMsgType.oneChatMsg.code
  · rw [if_pos hOneChat, if_pos hOneChat]
    exact reads_onechat env js readings
  rw [if_neg hOneChat, if_neg hOneChat]
  by_cases hAddFriend : msgid = EnMsgType.addFriendMsg.code
  · rw [if_pos hAddFriend, if_pos hAddFriend]
    exact reads_addfriend js
  rw [if_neg hAddFriend, if_neg hAddFriend]
  by_cases hCreate : msgid = EnMsgType.createGroupMsg.code
  · rw [if_pos hCreate, if_pos hCreate]
    exact reads_creategroup js
  rw [if_neg hCreate, if_neg hCreate]
  by_cases hAddGroup : msgid = EnMsgType.addGroupMsg.code
  · rw [if_pos hAddGroup, if_pos hAddGroup]
    exact reads_addgroup js
  rw [if_neg hAddGroup, if_neg hAddGroup]
  by_cases hGroupChat : msgid = EnMsgType.groupChatMsg.code
  · rw [if_pos hGroupChat, if_pos hGroupChat]
    exact reads_groupchat env js readings
  rw [if_neg hGroupChat, if_neg hGroupChat]
  exact reads_of_returns trivial

theorem returns_getHandler
    {msgid : Int}
    {js : JsonObject}
    (hReadable : readable msgid js = true)
    (env : Externals)
    (conn : ConnId)
    (readings : Readings) :
    (getHandler env msgid conn js readings).Returns
      fun _ => True :=
  (reads_getHandler env msgid conn js readings).returns
    hReadable

theorem throws_getHandler
    {msgid : Int}
    {js : JsonObject}
    (hReadable : readable msgid js = false)
    (env : Externals)
    (conn : ConnId)
    (readings : Readings) :
    ∃ error,
      getHandler env msgid conn js readings =
        Process.throw error :=
  (reads_getHandler env msgid conn js readings).throws
    hReadable

/-
  A rejected frame has no effect.  A handler that raises an
  exception has performed no operation before, whatever else
  happens on the cluster meanwhile, so the maps, the tables,
  the counters, the subscriptions, and the frames on the
  connections are what they were.
-/
theorem rejected_frame_has_no_effect
    (env : Externals)
    (msgid : Int)
    (conn : ConnId)
    (js : JsonObject)
    (readings : Readings) :
    (∀ steps error,
      Process.Trace steps
          (getHandler env msgid conn js readings)
          (Process.throw error) →
        steps = []) ∧
      ∀ (id : NodeId) (cluster after : Cluster) error,
        Process.exec (Cluster.answer env id)
            (getHandler env msgid conn js readings)
            cluster = (.error error, after) →
          after = cluster := by
  cases hReadable : readable msgid js with
  | false =>
      rcases throws_getHandler hReadable env conn readings
        with ⟨thrown, hThrows⟩
      rw [hThrows]
      constructor
      · intro steps error hTrace
        exact Process.trace_throw hTrace
      · intro id cluster after error hExec
        rw [Process.exec_throw] at hExec
        exact (congrArg Prod.snd hExec).symm
  | true =>
      have hReturns :=
        returns_getHandler hReadable env conn readings
      constructor
      · intro steps error hTrace
        exact
          (Process.returns_of_trace hTrace hReturns).elim
      · intro id cluster after error hExec
        rcases Process.exec_of_returns hReturns cluster with
          ⟨value, final, hReturned, _⟩
        rw [hReturned] at hExec
        cases hExec

end ChatService

end ClusterChat
