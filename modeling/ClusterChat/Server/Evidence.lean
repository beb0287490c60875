import ClusterChat.Server.Directory
import ClusterChat.Server.FanOut
import ClusterChat.Server.LoginAnswer

/-
  Who may read what.

  The evidence for it are the frames that have come in and
  the tables.  A connection belongs to a user when a login
  frame with the right password came in on it.  A text is for
  a user when it is the payload of a chat frame to the user,
  or to a group of the user.

  Main declarations:
    * `Evidence.LoggedIn` and `Evidence.Addressed`
    * `Evidence.Entitled`
    * `Evidence.Reads` and `Evidence.Allows`
    * `Evidence.safe_onMessage`
-/

------------------------------------------------------------
-- Evidence
------------------------------------------------------------

namespace ClusterChat

/- The name and the password of a login frame. -/
def ChatServer.loginOf
    (env : Externals)
    (body : String) : Option (String × String) :=
  match env.codec.parse body with
  | some (.object fields) =>
      let msgid := JsonObject.field fields "msgid"
      if msgid.isNumberInteger ∧
          msgid.getInt = .ok EnMsgType.loginMsg.code then do
        let name ←
          (JsonObject.field fields "name").getString.toOption
        let password ←
          (JsonObject.field fields
            "password").getString.toOption
        return (name, password)
      else
        none
  | _ => none

/- The tables at the start, the steps so far, and the tables
now. -/
structure Evidence where
  start : Database
  labels : List Label
  db : Database

namespace Evidence

variable (env : Externals)

/- A login frame with the right password of the user came in
on the connection. -/
def LoggedIn
    (evidence : Evidence)
    (conn : ConnId)
    (userid : Int) : Prop :=
  ∃ (body : String) (readings : Readings)
      (name password : String),
    Label.frame conn body readings ∈ evidence.labels ∧
      ChatServer.loginOf env body = some (name, password) ∧
        ∃ user ∈ evidence.db.users.rows,
          user.id = userid ∧
            env.collate user.name = env.collate name ∧
              ChatService.accepts env user password = true

/- A login frame came in on the connection. -/
def AskedToLogIn
    (evidence : Evidence)
    (conn : ConnId) : Prop :=
  ∃ (body : String) (readings : Readings)
      (credentials : String × String),
    Label.frame conn body readings ∈ evidence.labels ∧
      ChatServer.loginOf env body = some credentials

/- A registration frame came in on the connection. -/
def AskedToRegister
    (evidence : Evidence)
    (conn : ConnId) : Prop :=
  ∃ (body : String) (readings : Readings) (js : JsonObject),
    Label.frame conn body readings ∈ evidence.labels ∧
      env.codec.parse body = some (.object js) ∧
        (js.field "msgid").isNumberInteger = true ∧
          (js.field "msgid").getInt =
            .ok EnMsgType.regMsg.code

/- The user is in the table, in whatever state. -/
def Known
    (evidence : Evidence)
    (user : User) : Prop :=
  user.account ∈ evidence.db.users.rows.map User.account

/- The two answers to a refused login. -/
def refusals : List JsonObject :=
  [ChatService.loginRefused 1 "用户名或密码错误",
    ChatService.loginRefused 2
      "该账号已经登录，不能重复登录"]

/- The text was stored for the user at the start, or it is
the payload of a frame that has the user as recipient. -/
def Addressed
    (evidence : Evidence)
    (userid : Int)
    (text : String) : Prop :=
  OfflineMessageModel.Stored evidence.start userid text ∨
    ∃ (frame : ChatFrame env) (seq : Nat),
      Label.frame frame.conn frame.body frame.readings ∈
          evidence.labels ∧
        userid ∈ frame.recipients evidence.db ∧
          text = frame.payload seq

/-
  What may be answered on a connection: a login or a
  registration that came in there.  A login answer tells the
  user of the connection what the tables say of friends and
  groups of this user, and hands over texts for this user.
-/
inductive Answers
    (evidence : Evidence)
    (conn : ConnId) : JsonObject → Prop where
| refused
    (asked : evidence.AskedToLogIn env conn)
    {response : JsonObject}
    (refusal : response ∈ refusals) :
    Answers evidence conn response
| registered
    (asked : evidence.AskedToRegister env conn)
    (id : Option Int) :
    Answers evidence conn (ChatService.regAnswer id)
| accepted
    {user : User}
    (known : evidence.Known user)
    (loggedIn : evidence.LoggedIn env conn user.id)
    {vec : List String}
    (messages :
      ∀ msg ∈ vec, evidence.Addressed env user.id msg)
    {vecFriend : List User}
    (friends :
      ∀ friend ∈ vecFriend,
        (user.id, friend.id) ∈ evidence.db.friends ∧
          evidence.Known friend)
    {groupuserVec : List (GroupRow × List (User × String))}
    (groups :
      ∀ group ∈ groupuserVec,
        group.1 ∈ evidence.db.groups ∧
          evidence.db.HasMember group.1.id user.id)
    (members :
      ∀ group ∈ groupuserVec,
        ∀ member ∈ group.2,
          ⟨group.1.id, member.1.id, member.2⟩ ∈
              evidence.db.groupUsers ∧
            evidence.Known member.1) :
    Answers evidence conn
      (ChatService.loginAnswer env user vec vecFriend
        groupuserVec)

/- What may be written to a connection. -/
def Entitled
    (evidence : Evidence)
    (conn : ConnId)
    (text : String) : Prop :=
  (∃ userid,
    evidence.LoggedIn env conn userid ∧
      evidence.Addressed env userid text) ∨
    ∃ response,
      evidence.Answers env conn response ∧
        text = env.codec.dump (.object response)

------------------------------------------------------------
-- Answers and Operations
------------------------------------------------------------

/- The answer of an operation is backed by the evidence. -/
def Reads
    (evidence : Evidence) : (op : ServerOp) → op.Res → Prop
| .findConn userid, found =>
    ∀ conn,
      found = some conn → evidence.LoggedIn env conn userid
| .findConns _, found =>
    ∀ userid conn,
      found userid = some conn →
        evidence.LoggedIn env conn userid
| .queryUserByName name, user =>
    user.id ≠ -1 →
      ∃ row ∈ evidence.db.users.rows,
        row.account = user.account ∧
          env.collate row.name = env.collate name
| .queryOffline userid, vec =>
    0 < userid →
      ∀ msg ∈ vec, evidence.Addressed env userid msg
| .queryGroupUsers sender groupid, users =>
    ∀ userid ∈ users,
      userid ∈
        GroupModel.queryGroupUsers evidence.db sender groupid
| .queryFriends userid, vecFriend =>
    ∀ friend ∈ vecFriend,
      (userid, friend.id) ∈ evidence.db.friends ∧
        evidence.Known friend
| .queryGroupsOf userid, groups =>
    ∀ group ∈ groups,
      group ∈ evidence.db.groups ∧
        evidence.db.HasMember group.id userid
| .queryMembersOf groupid, members =>
    ∀ member ∈ members,
      ⟨groupid, member.1.id, member.2⟩ ∈
          evidence.db.groupUsers ∧
        evidence.Known member.1
| _, _ => True

/- The evidence allows the operation. -/
def Allows (evidence : Evidence) : ServerOp → Prop
| .insertConn userid conn =>
    evidence.LoggedIn env conn userid
| .send conn text => evidence.Entitled env conn text
| .findAndSend userid text =>
    evidence.Addressed env userid text
| .publish channel text =>
    evidence.Addressed env channel text ∧ HasNoNull text
| .insertOffline userid text =>
    0 < userid → evidence.Addressed env userid text
| _ => True

/- A handler that the evidence allows, as long as the answers
are backed by it. -/
abbrev Safe
    (evidence : Evidence)
    (handler : Handler Unit) : Prop :=
  handler.Ensures (evidence.Reads env) (evidence.Allows env)
    fun _ => True

/- Nothing is taken back. -/
structure Grows (earlier later : Evidence) : Prop where
  start : later.start = earlier.start
  labels : earlier.labels ⊆ later.labels
  accounts :
    earlier.db.users.rows.map User.account <+:
      later.db.users.rows.map User.account
  friends : earlier.db.friends <+: later.db.friends
  groups : earlier.db.groups <+: later.db.groups
  groupUsers :
    earlier.db.groupUsers <+: later.db.groupUsers

section Growing

variable {env : Externals}
variable {earlier later : Evidence}

theorem accepts_of_account
    {user other : User}
    (hAccount : user.account = other.account)
    (password : String) :
    ChatService.accepts env user password =
      ChatService.accepts env other password := by
  have hId : user.id = other.id :=
    congrArg Account.id hAccount
  have hSalt : user.salt = other.salt :=
    congrArg Account.salt hAccount
  have hPassword : user.password = other.password :=
    congrArg Account.password hAccount
  unfold ChatService.accepts
  rw [hId, hSalt, hPassword]

theorem Grows.row
    (hGrows : Grows earlier later)
    {user : User}
    (hUser : user ∈ earlier.db.users.rows) :
    ∃ row ∈ later.db.users.rows,
      row.account = user.account := by
  have hOld :
      user.account ∈
        earlier.db.users.rows.map User.account :=
    List.mem_map_of_mem hUser
  exact List.mem_map.mp (hGrows.accounts.subset hOld)

theorem Known.mono
    {user : User}
    (hKnown : earlier.Known user)
    (hGrows : Grows earlier later) :
    later.Known user :=
  hGrows.accounts.subset hKnown

theorem LoggedIn.mono
    {conn : ConnId}
    {userid : Int}
    (hLoggedIn : earlier.LoggedIn env conn userid)
    (hGrows : Grows earlier later) :
    later.LoggedIn env conn userid := by
  rcases hLoggedIn with
    ⟨body, readings, name, password, hCame, hLogin, user,
      hUser, hId, hName, hAccepts⟩
  rcases hGrows.row hUser with ⟨row, hRow, hAccount⟩
  refine
    ⟨body, readings, name, password, hGrows.labels hCame,
      hLogin, row, hRow, ?_, ?_, ?_⟩
  · rw [← hId]
    exact congrArg Account.id hAccount
  · rw [← hName]
    exact
      congrArg (fun account => env.collate account.name)
        hAccount
  · rw [accepts_of_account hAccount]
    exact hAccepts

theorem Grows.hasMember
    (hGrows : Grows earlier later)
    {groupid userid : Int}
    (hMember : earlier.db.HasMember groupid userid) :
    later.db.HasMember groupid userid := by
  have hRows :
      earlier.db.memberRows ⊆ later.db.memberRows :=
    List.map_subset _ hGrows.groupUsers.subset
  exact hRows hMember

theorem Grows.groupUser
    (hGrows : Grows earlier later)
    {sender groupid userid : Int}
    (hUser :
      userid ∈
        GroupModel.queryGroupUsers earlier.db sender
          groupid) :
    userid ∈
      GroupModel.queryGroupUsers later.db sender groupid := by
  rw [GroupModel.mem_queryGroupUsers_iff] at hUser ⊢
  exact ⟨hUser.1, hGrows.hasMember hUser.2⟩

theorem Addressed.mono
    {userid : Int}
    {text : String}
    (hAddressed : earlier.Addressed env userid text)
    (hGrows : Grows earlier later) :
    later.Addressed env userid text := by
  rcases hAddressed with
    hStored | ⟨frame, seq, hCame, hRecipient, hText⟩
  · left
    rw [hGrows.start]
    exact hStored
  · right
    refine
      ⟨frame, seq, hGrows.labels hCame, ?_, hText⟩
    unfold ChatFrame.recipients at hRecipient ⊢
    split
    · rename_i toid hAddressee
      rw [hAddressee] at hRecipient
      exact hRecipient
    · rename_i groupid hAddressee
      rw [hAddressee] at hRecipient
      exact hGrows.groupUser hRecipient

theorem Reads.mono
    {op : ServerOp}
    {answer : op.Res}
    (hReads : earlier.Reads env op answer)
    (hGrows : Grows earlier later) :
    later.Reads env op answer := by
  cases op with
  | findConn userid =>
      exact fun conn hFound =>
        (hReads conn hFound).mono hGrows
  | findConns userids =>
      exact fun userid conn hFound =>
        (hReads userid conn hFound).mono hGrows
  | queryUserByName name =>
      intro hId
      rcases hReads hId with ⟨row, hRow, hAccount, hName⟩
      rcases hGrows.row hRow with ⟨other, hOther, hSame⟩
      refine ⟨other, hOther, hSame.trans hAccount, ?_⟩
      rw [← hName]
      exact
        congrArg (fun account => env.collate account.name)
          hSame
  | queryOffline userid =>
      exact fun hPositive msg hMsg =>
        (hReads hPositive msg hMsg).mono hGrows
  | queryGroupUsers sender groupid =>
      exact fun userid hUser =>
        hGrows.groupUser (hReads userid hUser)
  | queryFriends userid =>
      intro friend hFriend
      rcases hReads friend hFriend with ⟨hRow, hKnown⟩
      exact
        ⟨hGrows.friends.subset hRow, hKnown.mono hGrows⟩
  | queryGroupsOf userid =>
      intro group hGroup
      rcases hReads group hGroup with ⟨hRow, hMember⟩
      exact
        ⟨hGrows.groups.subset hRow, hGrows.hasMember hMember⟩
  | queryMembersOf groupid =>
      intro member hMember
      rcases hReads member hMember with ⟨hRow, hKnown⟩
      exact
        ⟨hGrows.groupUsers.subset hRow, hKnown.mono hGrows⟩
  | _ => trivial

end Growing

------------------------------------------------------------
-- Chat Handlers
------------------------------------------------------------

section Handlers

variable {env : Externals} {evidence : Evidence}

theorem safe_forward
    {id : Int}
    {payload : String}
    (hAddressed : evidence.Addressed env id payload)
    (hNoNull : HasNoNull payload) :
    evidence.Safe env (ChatService.forward id payload) := by
  apply Process.ensures_of_always
  exact
    ChatService.always_forward trivial
      ⟨hAddressed, hNoNull⟩ fun _ => hAddressed

theorem safe_forwardAll
    {payload : String}
    (hNoNull : HasNoNull payload)
    {ids : List Int}
    (hAddressed :
      ∀ id ∈ ids, evidence.Addressed env id payload) :
    evidence.Safe env
      (ChatService.forwardAll payload ids) := by
  induction ids with
  | nil => trivial
  | cons id ids ih =>
      unfold ChatService.forwardAll
      apply Process.ensures_bind
        (safe_forward
          (hAddressed id List.mem_cons_self) hNoNull)
      intro _ _
      exact
        ih fun other hOther =>
          hAddressed other (List.mem_cons_of_mem _ hOther)

theorem safe_sendAll
    {payload : String}
    {conns : List ConnId}
    (hEntitled :
      ∀ conn ∈ conns, evidence.Entitled env conn payload) :
    evidence.Safe env
      (ChatService.sendAll payload conns) := by
  induction conns with
  | nil => trivial
  | cons conn conns ih =>
      refine ⟨hEntitled conn List.mem_cons_self, ?_⟩
      intro _ _
      exact
        ih fun other hOther =>
          hEntitled other (List.mem_cons_of_mem _ hOther)

/- The members that are found get it on their connections,
the others by way of their ids. -/
theorem safe_routeGroup
    {payload : String}
    (hNoNull : HasNoNull payload)
    {useridVec : List Int}
    (hAddressed :
      ∀ id ∈ useridVec, evidence.Addressed env id payload) :
    evidence.Safe env
      (ChatService.routeGroup useridVec payload) := by
  unfold ChatService.routeGroup
  refine ChatService.ensures_ask trivial ?_
  intro (found : Int → Option ConnId) hFound
  apply Process.ensures_bind (safe_sendAll ?_)
  · intro _ _
    refine safe_forwardAll hNoNull ?_
    intro id hId
    exact hAddressed id (List.mem_filter.mp hId).1
  · intro conn hConn
    rcases List.mem_filterMap.mp hConn with
      ⟨id, hId, hSome⟩
    exact
      Or.inl ⟨id, hFound id conn hSome, hAddressed id hId⟩

/- A chat frame goes to its recipients and nowhere else. -/
theorem safe_chatFrame
    (hNoNull : env.codec.PrintsNoNull)
    (frame : ChatFrame env)
    (hCame :
      Label.frame frame.conn frame.body frame.readings ∈
        evidence.labels) :
    evidence.Safe env frame.handler := by
  rw [frame.handler_eq]
  refine ChatService.ensures_ask trivial ?_
  intro (seq : Nat) _
  have hRecipients :
      ∀ id ∈ frame.recipients evidence.db,
        evidence.Addressed env id (frame.payload seq) :=
    fun id hId => Or.inr ⟨frame, seq, hCame, hId, rfl⟩
  have hWhole : HasNoNull (frame.payload seq) :=
    hNoNull (frame.message seq)
  unfold ChatFrame.recipients at hRecipients
  unfold ChatFrame.route
  cases hAddressee : frame.addressee with
  | user toid =>
      rw [hAddressee] at hRecipients
      have hOne := hRecipients toid List.mem_cons_self
      apply Process.ensures_of_always
      exact
        ChatService.always_routeOne hOne trivial
          ⟨hOne, hWhole⟩ fun _ => hOne
  | group groupid =>
      rw [hAddressee] at hRecipients
      refine ChatService.ensures_ask trivial ?_
      intro (useridVec : List Int) hVec
      refine safe_routeGroup hWhole ?_
      exact fun id hId => hRecipients id (hVec id hId)

theorem safe_notify
    {userid : Int}
    {msg : String}
    (hPositive :
      ∀ conn,
        evidence.LoggedIn env conn userid → 0 < userid)
    (hAddressed :
      0 < userid → evidence.Addressed env userid msg) :
    evidence.Safe env
      (ChatService.handleredissubscribemessage userid
        msg) := by
  unfold ChatService.handleredissubscribemessage
  refine ChatService.ensures_ask trivial ?_
  intro (target : Option ConnId) hTarget
  cases target with
  | none => exact ⟨hAddressed, fun _ _ => trivial⟩
  | some conn =>
      have hLoggedIn := hTarget conn rfl
      refine ⟨Or.inl ⟨userid, hLoggedIn, ?_⟩, ?_⟩
      · exact hAddressed (hPositive conn hLoggedIn)
      · exact fun _ _ => trivial

------------------------------------------------------------
-- All Handlers
------------------------------------------------------------

/- A login maps the connection to the user only when the
password was right, and it tells this user only. -/
theorem safe_login
    {conn : ConnId}
    {body name password : String}
    {readings : Readings}
    {js : JsonObject}
    (hCame :
      Label.frame conn body readings ∈ evidence.labels)
    (hName : (js.field "name").getString = .ok name)
    (hPassword :
      (js.field "password").getString = .ok password)
    (hLogin :
      ChatServer.loginOf env body = some (name, password)) :
    evidence.Safe env (ChatService.login env conn js) := by
  have hAsked : evidence.AskedToLogIn env conn :=
    ⟨body, readings, (name, password), hCame, hLogin⟩
  unfold ChatService.login
  rw [hName, hPassword]
  refine ChatService.ensures_ask trivial ?_
  intro (user : User) hUser
  split
  · rename_i hAccepts
    split
    · have hRefused : Answers env evidence conn _ :=
        Answers.refused hAsked
          (List.mem_cons_of_mem _ List.mem_cons_self)
      exact
        ⟨Or.inr ⟨_, hRefused, rfl⟩, fun _ _ => trivial⟩
    have hKnown : user.id ≠ -1 :=
      of_decide_eq_true (Bool.and_eq_true_iff.mp hAccepts).1
    rcases hUser hKnown with ⟨row, hRow, hAccount, hSame⟩
    have hTabled : evidence.Known user :=
      List.mem_map.mpr ⟨row, hRow, hAccount⟩
    have hId : row.id = user.id :=
      congrArg Account.id hAccount
    have hPositive : 0 < user.id := by
      rw [← hId]
      exact evidence.db.users.positive row hRow
    have hLoggedIn : evidence.LoggedIn env conn user.id := by
      refine
        ⟨body, readings, name, password, hCame, hLogin, row,
          hRow, hId, hSame, ?_⟩
      rw [accepts_of_account hAccount]
      exact hAccepts
    refine ChatService.ensures_ask hLoggedIn ?_
    intro _ _
    refine ChatService.ensures_ask trivial ?_
    intro _ _
    refine ChatService.ensures_ask trivial ?_
    intro _ _
    refine
      ChatService.ensures_answerLogin env trivial trivial
        trivial trivial (fun _ => trivial) ?_
    intro vec vecFriend groupuserVec hVec hFriends hGroups
      hMembers
    right
    refine
      ⟨_, Answers.accepted hTabled hLoggedIn (hVec hPositive)
        hFriends ?_ hMembers, rfl⟩
    intro group hGroup
    exact hGroups group.1 (List.mem_map_of_mem hGroup)
  · have hRefused : Answers env evidence conn _ :=
      Answers.refused hAsked List.mem_cons_self
    exact ⟨Or.inr ⟨_, hRefused, rfl⟩, fun _ _ => trivial⟩

/- What reads a field may assume that it can be read. -/
theorem safe_orThrow
    {α : Type}
    {value : Except JsonException α}
    {rest : α → Handler Unit}
    (hRest :
      ∀ result,
        value = .ok result →
          evidence.Safe env (rest result)) :
    evidence.Safe env (orThrow value >>= rest) := by
  cases value with
  | error error => trivial
  | ok result => exact hRest result rfl

theorem safe_reg
    {conn : ConnId}
    (hAsked : evidence.AskedToRegister env conn)
    (js : JsonObject)
    (readings : Readings) :
    evidence.Safe env
      (ChatService.reg env conn js readings) := by
  unfold ChatService.reg
  apply safe_orThrow
  intro name _
  apply safe_orThrow
  intro password _
  refine ChatService.ensures_ask trivial ?_
  intro (id : Option Int) _
  exact
    ⟨Or.inr ⟨_, Answers.registered hAsked id, rfl⟩,
      fun _ _ => trivial⟩

section Typed

variable {conn : ConnId} {body : String}
variable {readings : Readings} {js : JsonObject}
variable
  (hCame : Label.frame conn body readings ∈ evidence.labels)
  (hParsed : env.codec.parse body = some (.object js))
  (hInteger : (js.field "msgid").isNumberInteger = true)

include hCame hParsed hInteger

theorem safe_loginFrame
    (hTyped :
      (js.field "msgid").getInt =
        .ok EnMsgType.loginMsg.code) :
    evidence.Safe env (ChatService.login env conn js) := by
  cases hName : (js.field "name").getString with
  | error error =>
      unfold ChatService.login
      rw [hName]
      trivial
  | ok name =>
  cases hPassword : (js.field "password").getString with
  | error error =>
      unfold ChatService.login
      rw [hName, hPassword]
      trivial
  | ok password =>
      refine safe_login hCame hName hPassword ?_
      unfold ChatServer.loginOf
      rw [hParsed]
      dsimp only
      rw [if_pos ⟨hInteger, hTyped⟩, hName, hPassword]
      rfl

variable (hNoNull : env.codec.PrintsNoNull)

include hNoNull

theorem safe_onechat
    (hTyped :
      (js.field "msgid").getInt =
        .ok EnMsgType.oneChatMsg.code) :
    evidence.Safe env
      (ChatService.onechat env js readings) := by
  cases hSender : (js.field "id").getInt with
  | error error =>
      unfold ChatService.onechat
      rw [hSender]
      trivial
  | ok sender =>
  cases hToid : (js.field "toid").getInt with
  | error error =>
      unfold ChatService.onechat
      rw [hSender, hToid]
      trivial
  | ok toid =>
      exact
        safe_chatFrame hNoNull
          { conn := conn
            body := body
            readings := readings
            fields := js
            sender := sender
            addressee := .user toid
            parsed := hParsed
            isInteger := hInteger
            typed := hTyped
            named := hSender
            addressed := hToid } hCame

theorem safe_groupchat
    (hTyped :
      (js.field "msgid").getInt =
        .ok EnMsgType.groupChatMsg.code) :
    evidence.Safe env
      (ChatService.groupchat env js readings) := by
  cases hSender : (js.field "id").getInt with
  | error error =>
      unfold ChatService.groupchat
      rw [hSender]
      trivial
  | ok sender =>
  cases hGroupid : (js.field "groupid").getInt with
  | error error =>
      unfold ChatService.groupchat
      rw [hSender, hGroupid]
      trivial
  | ok groupid =>
      exact
        safe_chatFrame hNoNull
          { conn := conn
            body := body
            readings := readings
            fields := js
            sender := sender
            addressee := .group groupid
            parsed := hParsed
            isInteger := hInteger
            typed := hTyped
            named := hSender
            addressed := hGroupid } hCame

theorem safe_getHandler
    {msgid : Int}
    (hMsgid : (js.field "msgid").getInt = .ok msgid) :
    evidence.Safe env
      (ChatService.getHandler env msgid conn js
        readings) := by
  unfold ChatService.getHandler
  split
  · rename_i hType
    rw [hType] at hMsgid
    exact
      safe_loginFrame hCame hParsed hInteger hMsgid
  split
  · apply safe_orThrow
    intro userid _
    exact
      ⟨trivial, fun _ _ =>
        ⟨trivial, fun _ _ => ⟨trivial, fun _ _ => trivial⟩⟩⟩
  split
  · rename_i hType
    rw [hType] at hMsgid
    exact
      safe_reg
        ⟨body, readings, js, hCame, hParsed, hInteger,
          hMsgid⟩
        js readings
  split
  · rename_i hType
    rw [hType] at hMsgid
    exact safe_onechat hCame hParsed hInteger hNoNull hMsgid
  split
  · apply safe_orThrow
    intro userid _
    apply safe_orThrow
    exact fun _ _ => ⟨trivial, fun _ _ => trivial⟩
  split
  · apply safe_orThrow
    intro userid _
    apply safe_orThrow
    intro groupname _
    apply safe_orThrow
    exact fun _ _ => ⟨trivial, fun _ _ => trivial⟩
  split
  · apply safe_orThrow
    intro userid _
    apply safe_orThrow
    exact fun _ _ => ⟨trivial, fun _ _ => trivial⟩
  split
  · rename_i hType
    rw [hType] at hMsgid
    exact
      safe_groupchat hCame hParsed hInteger hNoNull hMsgid
  · trivial

end Typed

/- Every handler of a frame that came in. -/
theorem safe_onMessage
    (hNoNull : env.codec.PrintsNoNull)
    {conn : ConnId}
    {body : String}
    {readings : Readings}
    (hCame :
      Label.frame conn body readings ∈ evidence.labels) :
    evidence.Safe env
      (ChatServer.onMessage env conn body readings) := by
  unfold ChatServer.onMessage
  refine
    Process.ensures_tryCatch ?_ fun _ =>
      ⟨trivial, fun _ _ => trivial⟩
  cases hParsed : env.codec.parse body with
  | none => trivial
  | some js =>
  cases js with
  | object fields =>
      unfold ChatServer.dispatch
      dsimp only
      split
      · rename_i hInteger
        apply safe_orThrow
        intro msgid hMsgid
        exact
          safe_getHandler hCame hParsed hInteger hNoNull
            hMsgid
      · trivial
  | _ => trivial

theorem safe_onConnection (conn : ConnId) :
    evidence.Safe env (ChatServer.onConnection conn) := by
  apply Process.ensures_of_always
  exact
    ChatService.always_onConnection trivial
      (fun _ => trivial) (fun _ => trivial)
      (fun _ => trivial) trivial

end Handlers

end Evidence

end ClusterChat
