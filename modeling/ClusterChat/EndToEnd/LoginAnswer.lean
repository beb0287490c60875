import ClusterChat.Client.LoginResponse
import ClusterChat.EndToEnd.TypedRequests
import ClusterChat.Server.LoginAnswer

/-
  From the tables to the lists of the client.

  The members of a group are texts in the text of the group,
  which is a text in the answer.  The client gets back what
  the queries of the login have returned.

  Main declarations:
    * `ChatService.ensures_login`
    * `Client.readGroup_groupText`
    * `Client.readLogin_loginAnswer`
    * `Client.login_answer_arrives`
-/

------------------------------------------------------------
-- Rows with Ints
------------------------------------------------------------

namespace ClusterChat

/- The number is an int. -/
def IsInt (value : Int) : Prop :=
  -2 ^ 31 ≤ value ∧ value < 2 ^ 31

theorem IsInt.storable
    {value : Int}
    (hInt : IsInt value) :
    Json.Storable (.integer value) :=
  Client.storable_int hInt.1 hInt.2

theorem IsInt.getInt_eq
    {value : Int}
    (hInt : IsInt value) :
    (Json.integer value).getInt = .ok value :=
  Json.getInt_integer hInt.1 hInt.2

namespace Client

/- What the client keeps of a row. -/
def friendOf (user : User) : Friend where
  id := user.id
  name := user.name
  state := user.state.text

def groupuserOf (user : User × String) : Groupuser where
  toFriend := friendOf user.1
  role := user.2

def groupOf (group : GroupRow × List (User × String)) :
    Group where
  id := group.1.id
  name := group.1.groupname
  desc := group.1.groupdesc
  users := group.2.map groupuserOf

/- The ids of a group and of its members are ints. -/
def GroupInts (group : GroupRow × List (User × String)) :
    Prop :=
  IsInt group.1.id ∧ ∀ user ∈ group.2, IsInt user.1.id

------------------------------------------------------------
-- Texts in Texts
------------------------------------------------------------

variable {env : Externals} {strtod : String → Option Rat}

/- An object that was printed is read member by member. -/
theorem parseOrThrow_dump
    (hCodec : env.codec = JsonCodec.library strtod)
    {js : JsonObject}
    (hStorable : JsonObject.Storable js) :
    parseOrThrow env.codec (env.codec.dump (.object js)) =
      .ok (Json.object js).normalize := by
  have hParse :
      env.codec.RoundTrips (.object js) := by
    rw [hCodec]
    exact
      JsonCodec.library_roundTrips_storable strtod hStorable
  unfold parseOrThrow
  rw [hParse]

section Members

variable {js : JsonObject} {key : String}

theorem getInt_member
    {value : Int}
    (hField : js.field key = .integer value)
    (hInt : IsInt value) :
    (member (Json.object js).normalize key).getInt =
      .ok value := by
  have hSame : member (.object js) key = js.field key := rfl
  rw [member_normalize, Json.getInt_normalize, hSame, hField]
  exact hInt.getInt_eq

theorem getString_member
    {text : String}
    (hField : js.field key = .string text) :
    (member (Json.object js).normalize key).getString =
      .ok text := by
  have hSame : member (.object js) key = js.field key := rfl
  rw [member_normalize, Json.getString_normalize, hSame,
    hField]
  rfl

theorem getStrings_member
    {vec : List String}
    (hField : js.field key = .array (vec.map .string)) :
    (member (Json.object js).normalize key).getStrings =
      .ok vec := by
  have hSame : member (.object js) key = js.field key := rfl
  rw [member_normalize, hSame, hField, normalize_strings,
    getStrings_strings]

end Members

theorem readFriend_friendText
    (hCodec : env.codec = JsonCodec.library strtod)
    {user : User}
    (hInt : IsInt user.id) :
    readFriend env.codec (ChatService.friendText env user) =
      .ok (friendOf user) := by
  have hId :=
    JsonObject.storable_nil.assign "id" hInt.storable
  have hName :=
    hId.assign "name" (Json.storable_string user.name)
  have hStorable :=
    hName.assign "state"
      (Json.storable_string user.state.text)
  unfold readFriend ChatService.friendText
  rw [parseOrThrow_dump hCodec hStorable]
  dsimp only [bind, Except.bind]
  rw [getInt_member (by simp [JsonObject.field_assign]) hInt,
    getString_member (by simp [JsonObject.field_assign]; rfl),
    getString_member (by simp [JsonObject.field_assign]; rfl)]
  rfl

theorem readGroupuser_memberText
    (hCodec : env.codec = JsonCodec.library strtod)
    {user : User × String}
    (hInt : IsInt user.1.id) :
    readGroupuser env.codec
        (ChatService.memberText env user) =
      .ok (groupuserOf user) := by
  have hId :=
    JsonObject.storable_nil.assign "id" hInt.storable
  have hName :=
    hId.assign "name" (Json.storable_string user.1.name)
  have hState :=
    hName.assign "state"
      (Json.storable_string user.1.state.text)
  have hStorable :=
    hState.assign "role" (Json.storable_string user.2)
  unfold readGroupuser ChatService.memberText
  rw [parseOrThrow_dump hCodec hStorable]
  dsimp only [bind, Except.bind]
  rw [getInt_member (by simp [JsonObject.field_assign]) hInt,
    getString_member (by simp [JsonObject.field_assign]; rfl),
    getString_member (by simp [JsonObject.field_assign]; rfl),
    getString_member (by simp [JsonObject.field_assign]; rfl)]
  rfl

theorem map_string_map
    {α : Type}
    (rows : List α)
    (write : α → String) :
    (rows.map fun row => Json.string (write row)) =
      (rows.map write).map .string := by
  rw [List.map_map]
  rfl

theorem readUsers_users
    (hCodec : env.codec = JsonCodec.library strtod)
    {js : JsonObject}
    {users : List (User × String)}
    (hUsers :
      JsonObject.find? "users" js =
        some (.array ((users.map (ChatService.memberText
          env)).map .string)))
    (hInts : ∀ user ∈ users, IsInt user.1.id) :
    readUsers env.codec (Json.object js).normalize =
      .ok (users.map groupuserOf) := by
  have hField :
      js.field "users" =
        .array ((users.map (ChatService.memberText
          env)).map .string) := by
    unfold JsonObject.field
    rw [hUsers]
    rfl
  have hContains :
      (Json.object js).contains "users" = true := by
    unfold Json.contains
    rw [Json.find?_object, hUsers]
    rfl
  unfold readUsers
  rw [contains_normalize, hContains, if_pos rfl,
    getStrings_member hField]
  exact
    mapM_read_ok fun user hUser =>
      readGroupuser_memberText hCodec (hInts user hUser)

theorem readGroup_groupText
    (hCodec : env.codec = JsonCodec.library strtod)
    {group : GroupRow × List (User × String)}
    (hInts : GroupInts group) :
    readGroup env.codec (ChatService.groupText env group) =
      .ok (groupOf group) := by
  have hId :=
    JsonObject.storable_nil.assign "id" hInts.1.storable
  have hName :=
    hId.assign "groupname"
      (Json.storable_string group.1.groupname)
  have hDesc :=
    hName.assign "groupdesc"
      (Json.storable_string group.1.groupdesc)
  have hStorable :=
    hDesc.assign "users"
      (Json.storable_strings
        (group.2.map (ChatService.memberText env)))
  unfold readGroup ChatService.groupText
  rw [map_string_map, parseOrThrow_dump hCodec hStorable]
  dsimp only [bind, Except.bind]
  rw [getInt_member (by simp [JsonObject.field_assign])
      hInts.1,
    getString_member (by simp [JsonObject.field_assign]; rfl),
    getString_member (by simp [JsonObject.field_assign]; rfl),
    readUsers_users hCodec
      (JsonObject.find?_assign_self _ _ _) hInts.2]
  rfl

------------------------------------------------------------
-- The Whole Answer
------------------------------------------------------------

/- Texts in the answer, when there are any. -/
def addList
    (key : String)
    (texts : List String)
    (response : JsonObject) : JsonObject :=
  if texts.isEmpty then
    response
  else
    JsonObject.assign key (.array (texts.map .string)) response

theorem find?_addList
    (key other : String)
    (texts : List String)
    (response : JsonObject) :
    JsonObject.find? other (addList key texts response) =
      if other = key ∧ texts.isEmpty = false then
        some (.array (texts.map .string))
      else
        JsonObject.find? other response := by
  unfold addList
  cases hEmpty : texts.isEmpty with
  | true => simp
  | false =>
      by_cases hOther : other = key
      · simp [hOther]
      · simp [hOther, JsonObject.find?_assign_of_ne hOther]

theorem storable_addList
    {response : JsonObject}
    (hResponse : JsonObject.Storable response)
    (key : String)
    (texts : List String) :
    JsonObject.Storable (addList key texts response) := by
  unfold addList
  split
  · exact hResponse
  · exact hResponse.assign key (Json.storable_strings texts)

theorem isEmpty_sortOfflineMessages
    (codec : JsonCodec)
    (vec : List String) :
    (ChatService.sortOfflineMessages codec vec).isEmpty =
      vec.isEmpty := by
  have hLength :
      (ChatService.sortOfflineMessages codec vec).length =
        vec.length := by
    unfold ChatService.sortOfflineMessages
    rw [List.length_map, List.length_insertionSort,
      List.length_map]
  rw [Bool.eq_iff_iff, List.isEmpty_iff_length_eq_zero,
    List.isEmpty_iff_length_eq_zero, hLength]

/- The answer to an accepted login. -/
theorem loginAnswer_eq
    (user : User)
    (vec : List String)
    (vecFriend : List User)
    (groupuserVec :
      List (GroupRow × List (User × String))) :
    ChatService.loginAnswer env user vec vecFriend
        groupuserVec =
      addList "groups"
        (groupuserVec.map (ChatService.groupText env))
        (addList "friends"
          (vecFriend.map (ChatService.friendText env))
          (addList "offlinemsg"
            (ChatService.sortOfflineMessages env.codec vec)
            (ChatService.loginAccepted user.id
              user.name))) := by
  unfold ChatService.loginAnswer ChatService.withGroups
    ChatService.withFriends ChatService.withOfflineMessages
    addList
  rw [isEmpty_sortOfflineMessages, List.isEmpty_map,
    List.isEmpty_map,
    map_string_map vecFriend (ChatService.friendText env),
    map_string_map groupuserVec (ChatService.groupText env)]

section Lists

variable {js : JsonObject} {key : String}
variable {texts : List String}

/- The member is there exactly when there are texts. -/
def Lists
    (js : JsonObject)
    (key : String)
    (texts : List String) : Prop :=
  JsonObject.find? key js =
    if texts.isEmpty then
      none
    else
      some (.array (texts.map .string))

theorem readList_of_lists
    {α : Type}
    {read : String → Except JsonException α}
    (hLists : Lists js key texts)
    (old : List α) :
    readList read (Json.object js).normalize key old =
      if texts.isEmpty then .ok old else texts.mapM read := by
  have hContains :
      (Json.object js).contains key = !texts.isEmpty := by
    unfold Json.contains
    rw [Json.find?_object, hLists]
    cases texts <;> rfl
  unfold readList
  rw [contains_normalize, hContains]
  cases texts with
  | nil => rfl
  | cons text texts =>
      have hField :
          js.field key =
            .array ((text :: texts).map .string) := by
        unfold JsonObject.field
        rw [hLists]
        rfl
      rw [getStrings_member hField]
      rfl

/- The rows come back as the client keeps them. -/
theorem readList_rows
    {α β : Type}
    {rows : List α}
    {write : α → String}
    {read : String → Except JsonException β}
    {value : α → β}
    (hLists : Lists js key (rows.map write))
    (hRead : ∀ row ∈ rows, read (write row) = .ok (value row))
    (old : List β) :
    readList read (Json.object js).normalize key old =
      .ok (if rows.isEmpty then old else rows.map value) := by
  rw [readList_of_lists hLists, List.isEmpty_map,
    mapM_read_ok hRead]
  split <;> rfl

theorem offlineMessages_of_lists
    {codec : JsonCodec}
    (hLists : Lists js "offlinemsg" texts) :
    offlineMessages codec (Json.object js).normalize =
      .ok (if texts.isEmpty then
        none
      else
        some (texts.filterMap codec.parse)) := by
  cases texts with
  | nil =>
      unfold offlineMessages
      rw [Json.find?_normalize, Json.find?_object, hLists]
      rfl
  | cons text texts =>
      exact offlineMessages_of_strings codec hLists

end Lists

/- What the client has after an accepted login. -/
def loggedIn
    (session : Session)
    (user : User)
    (vecFriend : List User)
    (groupuserVec :
      List (GroupRow × List (User × String))) : Session where
  id := user.id
  name := user.name
  state := .online
  friendList :=
    if vecFriend.isEmpty then
      session.friendList
    else
      vecFriend.map friendOf
  groupList :=
    if groupuserVec.isEmpty then
      session.groupList
    else
      groupuserVec.map groupOf

/- The offline messages that it shows. -/
def shownOffline
    (codec : JsonCodec)
    (vec : List String) : Option (List Json) :=
  if vec.isEmpty then
    none
  else
    some ((ChatService.sortOfflineMessages codec
      vec).filterMap codec.parse)

theorem storable_loginAccepted
    {user : User}
    (hInt : IsInt user.id) :
    JsonObject.Storable
      (ChatService.loginAccepted user.id user.name) := by
  have hType :=
    JsonObject.storable_nil.assign "msgid"
      (storable_code .loginAckMsg)
  have hErrno :=
    hType.assign "errno"
      (@storable_int 0 (by decide) (by decide))
  have hId := hErrno.assign "id" hInt.storable
  exact hId.assign "name" (Json.storable_string user.name)

section Accepted

variable (user : User) (vec : List String)
variable (vecFriend : List User)
variable (groupuserVec : List (GroupRow × List (User × String)))

theorem storable_loginAnswer
    (hUser : IsInt user.id) :
    JsonObject.Storable
      (ChatService.loginAnswer env user vec vecFriend
        groupuserVec) := by
  rw [loginAnswer_eq]
  exact
    storable_addList
      (storable_addList
        (storable_addList (storable_loginAccepted hUser)
          _ _) _ _) _ _

theorem loginAnswer_errno :
    (ChatService.loginAnswer env user vec vecFriend
      groupuserVec).field "errno" = .integer 0 := by
  rw [loginAnswer_eq]
  simp [JsonObject.field, find?_addList,
    ChatService.loginAccepted, JsonObject.find?_assign_of_ne]

theorem loginAnswer_id :
    (ChatService.loginAnswer env user vec vecFriend
      groupuserVec).field "id" = .integer user.id := by
  rw [loginAnswer_eq]
  simp [JsonObject.field, find?_addList,
    ChatService.loginAccepted, JsonObject.find?_assign_of_ne]

theorem loginAnswer_name :
    (ChatService.loginAnswer env user vec vecFriend
      groupuserVec).field "name" = .string user.name := by
  rw [loginAnswer_eq]
  simp [JsonObject.field, find?_addList,
    ChatService.loginAccepted]

end Accepted

/- The client reads the rows from the text of the answer. -/
theorem readLogin_loginAnswer
    (hCodec : env.codec = JsonCodec.library strtod)
    {user : User}
    {vec : List String}
    {vecFriend : List User}
    {groupuserVec : List (GroupRow × List (User × String))}
    (hUser : IsInt user.id)
    (hFriends : ∀ friend ∈ vecFriend, IsInt friend.id)
    (hGroups : ∀ group ∈ groupuserVec, GroupInts group)
    (session : Session) :
    readLogin env.codec session
        (env.codec.dump
          (.object
            (ChatService.loginAnswer env user vec vecFriend
              groupuserVec))) =
      .ok (.accepted
        (loggedIn session user vecFriend groupuserVec)
        (shownOffline env.codec vec)) := by
  have hAnswer :=
    @loginAnswer_eq env user vec vecFriend groupuserVec
  have hStorable :=
    @storable_loginAnswer env user vec vecFriend groupuserVec
      hUser
  have hErrno :=
    @loginAnswer_errno env user vec vecFriend groupuserVec
  have hId :=
    @loginAnswer_id env user vec vecFriend groupuserVec
  have hName :=
    @loginAnswer_name env user vec vecFriend groupuserVec
  generalize
    ChatService.loginAnswer env user vec vecFriend
      groupuserVec = answer
        at hAnswer hStorable hErrno hId hName ⊢
  have hFriendTexts :
      Lists answer "friends"
        (vecFriend.map (ChatService.friendText env)) := by
    unfold Lists
    rw [hAnswer]
    simp [find?_addList, ChatService.loginAccepted,
      JsonObject.find?_assign_of_ne, JsonObject.find?]
  have hGroupTexts :
      Lists answer "groups"
        (groupuserVec.map (ChatService.groupText env)) := by
    unfold Lists
    rw [hAnswer]
    simp [find?_addList, ChatService.loginAccepted,
      JsonObject.find?_assign_of_ne, JsonObject.find?]
  have hOfflineTexts :
      Lists answer "offlinemsg"
        (ChatService.sortOfflineMessages env.codec vec) := by
    unfold Lists
    rw [hAnswer]
    simp [find?_addList, ChatService.loginAccepted,
      JsonObject.find?_assign_of_ne, JsonObject.find?]
  unfold readLogin
  rw [parseOrThrow_dump hCodec hStorable]
  dsimp only [bind, Except.bind]
  rw [getInt_member hErrno ⟨by decide, by decide⟩]
  dsimp only
  rw [if_pos rfl, getInt_member hId hUser,
    getString_member hName,
    readList_rows hFriendTexts fun friend hFriend =>
      readFriend_friendText hCodec (hFriends friend hFriend),
    readList_rows hGroupTexts fun group hGroup =>
      readGroup_groupText hCodec (hGroups group hGroup),
    offlineMessages_of_lists hOfflineTexts,
    isEmpty_sortOfflineMessages]
  rfl

/- Whatever else the client makes of the answer, it takes
the id of the user from it. -/
theorem readLogin_id
    (hCodec : env.codec = JsonCodec.library strtod)
    {user : User}
    {vec : List String}
    {vecFriend : List User}
    {groupuserVec : List (GroupRow × List (User × String))}
    (hUser : IsInt user.id)
    {session : Session}
    {outcome : LoginOutcome}
    (hRead :
      readLogin env.codec session
          (env.codec.dump
            (.object
              (ChatService.loginAnswer env user vec vecFriend
                groupuserVec))) =
        .ok outcome) :
    ∃ session offline,
      outcome = .accepted session offline ∧
        session.id = user.id := by
  have hErrno :=
    @loginAnswer_errno env user vec vecFriend groupuserVec
  have hId :=
    @loginAnswer_id env user vec vecFriend groupuserVec
  have hName :=
    @loginAnswer_name env user vec vecFriend groupuserVec
  unfold readLogin at hRead
  rw [parseOrThrow_dump hCodec
    (storable_loginAnswer user vec vecFriend groupuserVec
      hUser)] at hRead
  dsimp only [bind, Except.bind] at hRead
  rw [getInt_member hErrno ⟨by decide, by decide⟩] at hRead
  dsimp only at hRead
  rw [if_pos rfl, getInt_member hId hUser,
    getString_member hName] at hRead
  dsimp only at hRead
  split at hRead
  · cases hRead
  · split at hRead
    · cases hRead
    · split at hRead
      · cases hRead
      · cases hRead
        exact ⟨_, _, rfl, rfl⟩

/- The client reads why a login was refused. -/
theorem readLogin_loginRefused
    (hCodec : env.codec = JsonCodec.library strtod)
    {errno : Int}
    (hInt : IsInt errno)
    (hError : errno ≠ 0)
    (errmsg : String)
    (session : Session) :
    readLogin env.codec session
        (env.codec.dump
          (.object (ChatService.loginRefused errno errmsg))) =
      .ok (.refused (.string errmsg)) := by
  have hType :=
    JsonObject.storable_nil.assign "msgid"
      (storable_code .loginAckMsg)
  have hErrno := hType.assign "errno" hInt.storable
  have hStorable :
      JsonObject.Storable
        (ChatService.loginRefused errno errmsg) :=
    hErrno.assign "errmsg" (Json.storable_string errmsg)
  have hField :
      (ChatService.loginRefused errno errmsg).field "errno" =
        .integer errno := by
    simp [ChatService.loginRefused, JsonObject.field_assign]
  have hText :
      (ChatService.loginRefused errno errmsg).field "errmsg" =
        .string errmsg := by
    simp [ChatService.loginRefused, JsonObject.field_assign]
  unfold readLogin
  rw [parseOrThrow_dump hCodec hStorable]
  dsimp only [bind, Except.bind]
  rw [getInt_member hField hInt]
  dsimp only
  rw [if_neg hError, member_normalize]
  have hSame :
      member
          (.object (ChatService.loginRefused errno errmsg))
          "errmsg" =
        .string errmsg := hText
  rw [hSame]
  rfl

------------------------------------------------------------
-- The Exchange
------------------------------------------------------------

/- What happened in a run of a handler, so far. -/
abbrev Steps := List (Sigma ServerOp.Res)

/- The ids in the rows that the queries return are ints. -/
structure IntRows (steps : Steps) : Prop where
  users :
    ∀ name row,
      ⟨.queryUserByName name, row⟩ ∈ steps → IsInt row.id
  friends :
    ∀ id rows,
      ⟨.queryFriends id, rows⟩ ∈ steps →
        ∀ friend ∈ rows, IsInt friend.id
  groups :
    ∀ id rows,
      ⟨.queryGroupsOf id, rows⟩ ∈ steps →
        ∀ group ∈ rows, IsInt group.id
  members :
    ∀ id rows,
      ⟨.queryMembersOf id, rows⟩ ∈ steps →
        ∀ user ∈ rows, IsInt user.1.id

/- What the client reads is what the queries returned. -/
def ReadsRows
    (env : Externals)
    (steps : Steps)
    (session : Session)
    (user : User)
    (text : String) : Prop :=
  ∃ vec vecFriend groupuserVec,
    ⟨.queryOffline user.id, vec⟩ ∈ steps ∧
      ⟨.queryFriends user.id, vecFriend⟩ ∈ steps ∧
        ⟨.queryGroupsOf user.id,
            groupuserVec.map Prod.fst⟩ ∈ steps ∧
          (∀ group ∈ groupuserVec,
            ⟨.queryMembersOf group.1.id, group.2⟩ ∈ steps) ∧
            readLogin env.codec session text =
              .ok (.accepted
                (loggedIn session user vecFriend groupuserVec)
                (shownOffline env.codec vec))

/- What the client reads from the answer to a login, when the
query for the name has returned this row. -/
def AnsweredWith
    (env : Externals)
    (steps : Steps)
    (session : Session)
    (password : String)
    (text : String)
    (row : User) : Prop :=
  if ChatService.accepts env row password then
    if row.state = .online then
      readLogin env.codec session text =
        .ok (.refused (.string
          "该账号已经登录，不能重复登录"))
    else
      ReadsRows env steps session row text
  else
    readLogin env.codec session text =
      .ok (.refused (.string "用户名或密码错误"))

/- What `login` may do. -/
def LoginAllows
    (env : Externals)
    (steps : Steps)
    (session : Session)
    (conn : ConnId)
    (name password : String) : ServerOp → Prop
| .send receiver text =>
    receiver = conn ∧
      ∃ row,
        ⟨.queryUserByName name, row⟩ ∈ steps ∧
          AnsweredWith env steps session password text row
| _ => True

theorem ensures_login
    (hCodec : env.codec = JsonCodec.library strtod)
    {steps : Steps}
    (hRows : IntRows steps)
    (session : Session)
    {conn : ConnId}
    {js : JsonObject}
    {name password : String}
    (hName : (js.field "name").getString = .ok name)
    (hPassword :
      (js.field "password").getString = .ok password) :
    (ChatService.login env conn js).Ensures
      (fun op res => ⟨op, res⟩ ∈ steps)
      (LoginAllows env steps session conn name password)
      fun _ => True := by
  unfold ChatService.login
  rw [hName, hPassword]
  refine ChatService.ensures_ask trivial ?_
  intro (row : User) hRow
  split
  · rename_i hAccepts
    split
    · rename_i hOnline
      refine ⟨⟨rfl, row, hRow, ?_⟩, fun _ _ => trivial⟩
      unfold AnsweredWith
      rw [if_pos hAccepts, if_pos hOnline]
      exact
        readLogin_loginRefused hCodec ⟨by decide, by decide⟩
          (by decide) _ session
    · rename_i hOffline
      refine ChatService.ensures_ask trivial ?_
      intro _ _
      refine ChatService.ensures_ask trivial ?_
      intro _ _
      refine ChatService.ensures_ask trivial ?_
      intro _ _
      refine
        ChatService.ensures_answerLogin env trivial trivial
          trivial trivial (fun _ => trivial) ?_
      intro vec vecFriend groupuserVec hVec hFriends hGroups
        hMembers
      refine ⟨rfl, row, hRow, ?_⟩
      unfold AnsweredWith
      rw [if_pos hAccepts, if_neg hOffline]
      refine
        ⟨vec, vecFriend, groupuserVec, hVec, hFriends,
          hGroups, hMembers, ?_⟩
      refine
        readLogin_loginAnswer hCodec
          (hRows.users name row hRow)
          (hRows.friends _ _ hFriends) ?_ session
      intro group hGroup
      exact
        ⟨hRows.groups _ _ hGroups group.1
            (List.mem_map_of_mem hGroup),
          hRows.members _ _ (hMembers group hGroup)⟩
  · rename_i hRejects
    refine ⟨⟨rfl, row, hRow, ?_⟩, fun _ _ => trivial⟩
    unfold AnsweredWith
    rw [if_neg hRejects]
    exact
      readLogin_loginRefused hCodec ⟨by decide, by decide⟩
        (by decide) _ session

/- What the server reads from the frame of a login. -/
theorem Sends.login_fields
    {name password : Bytes}
    {js : JsonObject}
    (hSends : Sends (.login name password) js) :
    js.field "msgid" = .integer EnMsgType.loginMsg.code ∧
      ∃ nameText passwordText,
        text? name = some nameText ∧
          text? password = some passwordText ∧
            (JsonObject.field (Json.normalizeFields js)
                "name").getString = .ok nameText ∧
              (JsonObject.field (Json.normalizeFields js)
                "password").getString = .ok passwordText := by
  cases hSends with
  | @login _ _ nameText passwordText hName hPassword =>
      refine
        ⟨by simp [JsonObject.field_assign], nameText,
          passwordText, hName, hPassword, ?_, ?_⟩
      · rw [JsonObject.field_normalizeFields,
          Json.getString_normalize]
        simp [JsonObject.field_assign]
        rfl
      · rw [JsonObject.field_normalizeFields,
          Json.getString_normalize]
        simp [JsonObject.field_assign]
        rfl

/-
  The login of a user, from the typed name and password to
  the lists of the client: every text that the handler sends
  is the answer on this connection, and the client reads from
  it what the queries of the handler have returned.
-/
theorem login_answer_arrives
    (hCodec : env.codec = JsonCodec.library strtod)
    {name password : Bytes}
    {js : JsonObject}
    (hSent :
      (Typed.login name password).sent = .ok (some js))
    {conn : ConnId}
    {readings : Readings}
    {steps : Steps}
    {final : Handler Unit}
    (hTrace :
      Process.Trace steps
        (ChatServer.onMessage env conn
          (env.codec.dump (.object js)) readings) final)
    (hRows : IntRows steps)
    (session : Session) :
    ∃ nameText passwordText,
      utf8 nameText = name ∧
        utf8 passwordText = password ∧
          ∀ receiver text res,
            ⟨.send receiver text, res⟩ ∈ steps →
              receiver = conn ∧
                ∃ row,
                  ⟨.queryUserByName nameText, row⟩ ∈ steps ∧
                    AnsweredWith env steps session
                      passwordText text row := by
  have hSends := sends_of_sent hSent
  rcases hSends.login_fields with
    ⟨hType, nameText, passwordText, hName, hPassword,
      hNameField, hPasswordField⟩
  refine
    ⟨nameText, passwordText, utf8_of_text? hName,
      utf8_of_text? hPassword, ?_⟩
  intro receiver text res hSend
  rw [ChatServer.onMessage_dump hCodec
    (hSends.storable trivial) hType] at hTrace
  have hHandler :=
    @ensures_login env strtod hCodec steps hRows session conn
      (Json.normalizeFields js) nameText passwordText
      hNameField hPasswordField
  have hAll :=
    Process.ensures_trace hTrace
      (Process.ensures_tryCatch hHandler
        fun _ => ⟨trivial, fun _ _ => trivial⟩)
      fun step hStep => hStep
  exact hAll _ hSend

------------------------------------------------------------
-- A Login with a Friend and a Group
------------------------------------------------------------

def typedAnn : Typed := .login (utf8 "ann") (utf8 "secret")

/- What the command line makes of it. -/
def annRequest : JsonObject :=
  JsonObject.assign "password" (.string "secret")
    (JsonObject.assign "name" (.string "ann")
      (JsonObject.assign "msgid"
        (.integer EnMsgType.loginMsg.code) []))

def ann : User :=
  sampleUser 1 "ann" "0123456789abcdef0123456789abcdef"

def bob : User :=
  sampleUser 2 "bob" "fedcba9876543210fedcba9876543210"

def chessClub : GroupRow := ⟨7, "club", "chess"⟩

/- Both are members of the group. -/
def clubMembers : List (User × String) :=
  [(ann, "creator"), (bob, "normal")]

def annAnswer : String :=
  libraryExternals.codec.dump
    (.object
      (ChatService.loginAnswer libraryExternals ann [] [bob]
        [(chessClub, clubMembers)]))

def annSteps : Steps :=
  [⟨.queryUserByName "ann", ann⟩, ⟨.insertConn 1 5, ()⟩,
    ⟨.subscribe 1, true⟩, ⟨.updateState 1 .online, true⟩,
    ⟨.queryOffline 1, []⟩, ⟨.queryFriends 1, [bob]⟩,
    ⟨.queryGroupsOf 1, [chessClub]⟩,
    ⟨.queryMembersOf 7, clubMembers⟩, ⟨.send 5 annAnswer, ()⟩]

theorem typedAnn_sent :
    typedAnn.sent = .ok (some annRequest) := by
  have hName : text? (utf8 "ann") = some "ann" := by
    decide +kernel
  have hPassword : text? (utf8 "secret") = some "secret" := by
    decide +kernel
  change credentials .loginMsg (utf8 "ann") (utf8 "secret") = _
  unfold credentials
  rw [dumpedText_of_text? hName, dumpedText_of_text? hPassword]
  rfl

theorem ann_accepted :
    ChatService.accepts libraryExternals ann "secret" =
      true := by
  decide +kernel

theorem annSteps_login
    {js : JsonObject}
    (hName : (js.field "name").getString = .ok "ann")
    (hPassword :
      (js.field "password").getString = .ok "secret") :
    Process.Trace annSteps
      (ChatServer.guarded 5
        (ChatService.login libraryExternals 5 js))
      (.ret ()) := by
  unfold ChatService.login annSteps
  rw [hName, hPassword]
  apply Process.Trace.cons
  dsimp only [Process.bind]
  rw [if_pos ann_accepted]
  repeat apply Process.Trace.cons
  exact Process.Trace.nil _

/- A run of the handler. -/
theorem annSteps_trace :
    Process.Trace annSteps
      (ChatServer.onMessage libraryExternals 5
        (libraryExternals.codec.dump (.object annRequest))
        sampleReadings)
      (.ret ()) := by
  have hStorable : JsonObject.Storable annRequest :=
    (sends_of_sent typedAnn_sent).storable trivial
  have hType :
      annRequest.field "msgid" =
        .integer EnMsgType.loginMsg.code := by
    simp [annRequest, JsonObject.field_assign]
  rw [ChatServer.onMessage_dump rfl hStorable hType]
  refine annSteps_login ?_ ?_
  · rw [JsonObject.field_normalizeFields,
      Json.getString_normalize]
    simp [annRequest, JsonObject.field_assign]
    rfl
  · rw [JsonObject.field_normalizeFields,
      Json.getString_normalize]
    simp [annRequest, JsonObject.field_assign]
    rfl

theorem annSteps_intRows : IntRows annSteps where
  users := by
    intro name row hRow
    simp [annSteps] at hRow
    rw [hRow.2]
    exact ⟨by decide, by decide⟩
  friends := by
    intro id rows hRows friend hFriend
    simp [annSteps] at hRows
    rw [hRows.2] at hFriend
    rw [List.mem_singleton.mp hFriend]
    exact ⟨by decide, by decide⟩
  groups := by
    intro id rows hRows group hGroup
    simp [annSteps] at hRows
    rw [hRows.2] at hGroup
    rw [List.mem_singleton.mp hGroup]
    exact ⟨by decide, by decide⟩
  members := by
    intro id rows hRows user hUser
    simp [annSteps] at hRows
    rw [hRows.2] at hUser
    rcases List.mem_pair.mp hUser with hAnn | hBob
    · rw [hAnn]
      exact ⟨by decide, by decide⟩
    · rw [hBob]
      exact ⟨by decide, by decide⟩

/- The client fills its lists from the answer in this run. -/
theorem typedAnn_arrives :
    ∃ nameText passwordText row,
      utf8 nameText = utf8 "ann" ∧
        utf8 passwordText = utf8 "secret" ∧
          ⟨.queryUserByName nameText, row⟩ ∈ annSteps ∧
            AnsweredWith libraryExternals annSteps
              ⟨-1, "", .offline, [], []⟩ passwordText annAnswer
              row := by
  rcases login_answer_arrives rfl typedAnn_sent annSteps_trace
      annSteps_intRows ⟨-1, "", .offline, [], []⟩ with
    ⟨nameText, passwordText, hName, hPassword, hAnswers⟩
  have hSend : ⟨.send 5 annAnswer, ()⟩ ∈ annSteps := by
    unfold annSteps
    simp
  rcases hAnswers 5 annAnswer () hSend with
    ⟨_, row, hRow, hRead⟩
  exact
    ⟨nameText, passwordText, row, hName, hPassword, hRow,
      hRead⟩

end Client

end ClusterChat
