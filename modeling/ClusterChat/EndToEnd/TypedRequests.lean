import ClusterChat.Client.Session
import ClusterChat.JsonParse.Codec
import ClusterChat.Server.Narrowing
import ClusterChat.Server.Requests

/-
  What users type, and what the directory records of it.

  A frame of the client is printed by the JSON library, and
  the server parses it with the same library.  What a handler
  then reads is what was typed.

  Main declarations:
    * `Client.Typed.request?`
    * `Client.Sends` and `Client.sends_of_sent`
    * `Client.typed_requests_are_read`
-/

------------------------------------------------------------
-- Reading Fields
------------------------------------------------------------

namespace ClusterChat

namespace JsonObject

theorem field_assign
    (key other : String)
    (value : Json)
    (js : JsonObject) :
    field (assign key value js) other =
      if other = key then value else field js other := by
  unfold field
  split
  · rename_i hSame
    rw [hSame, find?_assign_self]
    rfl
  · rename_i hOther
    rw [find?_assign_of_ne hOther]

/- Parsing does not change what a field is read as. -/
theorem field_normalizeFields
    (js : JsonObject)
    (key : String) :
    field (Json.normalizeFields js) key =
      (field js key).normalize := by
  unfold field
  rw [Json.find?_normalizeFields]
  cases find? key js <;> rfl

end JsonObject

namespace Json

theorem getString_normalize (js : Json) :
    js.normalize.getString = js.getString := by
  cases js with
  | integer value =>
      unfold normalize
      split <;> rfl
  | _ => rfl

theorem isNumberInteger_normalize (js : Json) :
    js.normalize.isNumberInteger = js.isNumberInteger := by
  cases js with
  | integer value =>
      unfold normalize
      split <;> rfl
  | _ => rfl

/- An int is read as itself. -/
theorem getInt_integer
    {value : Int}
    (hLow : -2 ^ 31 ≤ value)
    (hHigh : value < 2 ^ 31) :
    (Json.integer value).getInt = .ok value := by
  have hSame := (toInt32_eq_self_iff value).mpr ⟨hLow, hHigh⟩
  calc
    _ = Except.ok (toInt32 value) := rfl
    _ = Except.ok value := by rw [hSame]

theorem getInt_code (type : EnMsgType) :
    (Json.integer type.code).getInt = .ok type.code := by
  cases type <;> rfl

end Json

/- The handlers read the same from a parsed object. -/
theorem ChatService.requestOf_normalizeFields
    (env : Externals)
    (msgid : Int)
    (js : JsonObject)
    (readings : Readings) :
    requestOf env msgid (Json.normalizeFields js) readings =
      requestOf env msgid js readings := by
  unfold requestOf
  simp only [JsonObject.field_normalizeFields,
    Json.getString_normalize, Json.getInt_normalize]

/- The library parses what it has printed. -/
theorem Externals.parse_dump
    {env : Externals}
    {strtod : String → Option Rat}
    (hCodec : env.codec = JsonCodec.library strtod)
    {js : JsonObject}
    (hStorable : JsonObject.Storable js) :
    env.codec.parse (env.codec.dump (.object js)) =
      some (.object (Json.normalizeFields js)) := by
  rw [hCodec]
  exact JsonCodec.library_roundTrips_storable strtod hStorable

/- What a printed object asks for. -/
theorem ChatServer.requestOf_dump
    {env : Externals}
    {strtod : String → Option Rat}
    (hCodec : env.codec = JsonCodec.library strtod)
    {js : JsonObject}
    (hStorable : JsonObject.Storable js)
    {type : EnMsgType}
    (hType : js.field "msgid" = .integer type.code)
    (readings : Readings) :
    requestOf env (env.codec.dump (.object js)) readings =
      ChatService.requestOf env type.code js readings := by
  unfold requestOf
  rw [Externals.parse_dump hCodec hStorable]
  simp only [JsonObject.field_normalizeFields, hType,
    Json.isNumberInteger_normalize, Json.getInt_normalize,
    Json.getInt_code, ChatService.requestOf_normalizeFields]
  rfl

/- The handler that runs for a printed object. -/
theorem ChatServer.onMessage_dump
    {env : Externals}
    {strtod : String → Option Rat}
    (hCodec : env.codec = JsonCodec.library strtod)
    {js : JsonObject}
    (hStorable : JsonObject.Storable js)
    {type : EnMsgType}
    (hType : js.field "msgid" = .integer type.code)
    (conn : ConnId)
    (readings : Readings) :
    onMessage env conn (env.codec.dump (.object js))
        readings =
      guarded conn
        (ChatService.getHandler env type.code conn
          (Json.normalizeFields js) readings) := by
  have hInteger :
      (Json.integer type.code).isNumberInteger = true := rfl
  unfold onMessage dispatch
  rw [Externals.parse_dump hCodec hStorable]
  dsimp only
  rw [JsonObject.field_normalizeFields, hType,
    Json.isNumberInteger_normalize, hInteger, if_pos rfl,
    Json.getInt_normalize, Json.getInt_code, orThrow_ok,
    Process.ret_bind]

------------------------------------------------------------
-- What Is Typed
------------------------------------------------------------

namespace Client

/- The text of some bytes, if they are UTF-8. -/
def text? (bytes : Bytes) : Option String :=
  String.fromUTF8? ⟨bytes.toArray⟩

theorem utf8_of_text?
    {bytes : Bytes}
    {text : String}
    (hText : text? bytes = some text) :
    utf8 text = bytes := by
  unfold text? String.fromUTF8? at hText
  split at hText
  · rename_i hValid
    rw [← Option.some.inj hText]
    rfl
  · cases hText

theorem text?_of_dumpedText
    {bytes : Bytes}
    {js : Json}
    (hDumped : dumpedText bytes = .ok js) :
    ∃ text, text? bytes = some text ∧ js = .string text := by
  unfold dumpedText at hDumped
  unfold text?
  split at hDumped
  · rename_i text hText
    cases hDumped
    exact ⟨text, hText, rfl⟩
  · cases hDumped

theorem dumpedText_of_text?
    {bytes : Bytes}
    {text : String}
    (hText : text? bytes = some text) :
    dumpedText bytes = .ok (.string text) := by
  unfold text? at hText
  unfold dumpedText
  rw [hText]

/- What the directory is asked to record. -/
def Typed.request?
    (env : Externals)
    (readings : Readings) : Typed → Option Request
| .register name password => do
    let name ← text? name
    return .register name
      (crypto.hashPassword env.sha256 readings.salt password)
      readings.salt
| .command user _ .addfriend args =>
    (stoi args).map (.befriend user.id)
| .command user _ .creategroup args => do
    let (groupname, groupdesc) ← splitColon args
    let groupname ← text? groupname
    let groupdesc ← text? groupdesc
    return .found groupname groupdesc user.id
| .command user _ .addgroup args =>
    (stoi args).map fun groupid => .join groupid user.id
| _ => none

/- The id of the user is an int. -/
def Typed.HasInt : Typed → Prop
| .command user _ _ _ => -2 ^ 31 ≤ user.id ∧ user.id < 2 ^ 31
| _ => True

------------------------------------------------------------
-- Frames Are Storable
------------------------------------------------------------

theorem storable_int
    {value : Int}
    (hLow : -2 ^ 31 ≤ value)
    (hHigh : value < 2 ^ 31) :
    Json.Storable (.integer value) :=
  Json.storable_integer (by omega) (by omega)

theorem storable_code (type : EnMsgType) :
    Json.Storable (.integer type.code) := by
  refine storable_int ?_ ?_ <;> cases type <;> decide

theorem storable_request
    {user : CurrentUser}
    (hLow : -2 ^ 31 ≤ user.id)
    (hHigh : user.id < 2 ^ 31)
    (type : EnMsgType)
    {members : List (String × Json)}
    (hMembers : ∀ member ∈ members, member.2.Storable) :
    JsonObject.Storable (request user type members) := by
  have hType :=
    JsonObject.storable_nil.assign "msgid" (storable_code type)
  have hStart := hType.assign "id" (storable_int hLow hHigh)
  unfold request
  revert hStart
  generalize JsonObject.assign "id" _ _ = js
  intro hStart
  induction members generalizing js with
  | nil => exact hStart
  | cons member members ih =>
      rcases List.forall_mem_cons.mp hMembers with
        ⟨hFirst, hOthers⟩
      exact ih hOthers _ (hStart.assign member.1 hFirst)

theorem stoi_bounds
    {text : Bytes}
    {value : Int}
    (hValue : stoi text = some value) :
    -2 ^ 31 ≤ value ∧ value < 2 ^ 31 := by
  unfold stoi at hValue
  split at hValue
  · cases hValue
  · split at hValue
    · rename_i hBounds
      rw [← Option.some.inj hValue]
      exact hBounds
    · cases hValue

theorem atoi_bounds (text : Bytes) :
    -2 ^ 31 ≤ atoi text ∧ atoi text < 2 ^ 31 := by
  unfold atoi
  split
  · decide
  · exact toInt32_bounds _

/- The frame for what was typed, with the texts and numbers
that were read. -/
inductive Sends : Typed → JsonObject → Prop where
| login
    {name password : Bytes} {nameText passwordText : String}
    (named : text? name = some nameText)
    (secret : text? password = some passwordText) :
    Sends (.login name password)
      (JsonObject.assign "password" (.string passwordText)
        (JsonObject.assign "name" (.string nameText)
          (JsonObject.assign "msgid"
            (.integer EnMsgType.loginMsg.code) [])))
| register
    {name password : Bytes} {nameText passwordText : String}
    (named : text? name = some nameText)
    (secret : text? password = some passwordText) :
    Sends (.register name password)
      (JsonObject.assign "password" (.string passwordText)
        (JsonObject.assign "name" (.string nameText)
          (JsonObject.assign "msgid"
            (.integer EnMsgType.regMsg.code) [])))
| chat
    {user : CurrentUser} {time : String}
    {args friendid message : Bytes} {text : String}
    (split : splitColon args = some (friendid, message))
    (read : text? message = some text) :
    Sends (.command user time .chat args)
      (request user .oneChatMsg
        [("name", .string user.name),
          ("toid", .integer (atoi friendid)),
          ("msg", .string text), ("time", .string time)])
| addfriend
    {user : CurrentUser} {time : String}
    {args : Bytes} {friendid : Int}
    (number : stoi args = some friendid) :
    Sends (.command user time .addfriend args)
      (request user .addFriendMsg
        [("friendid", .integer friendid)])
| creategroup
    {user : CurrentUser} {time : String}
    {args groupname groupdesc : Bytes}
    {name desc : String}
    (split : splitColon args = some (groupname, groupdesc))
    (named : text? groupname = some name)
    (described : text? groupdesc = some desc) :
    Sends (.command user time .creategroup args)
      (request user .createGroupMsg
        [("groupname", .string name),
          ("groupdesc", .string desc)])
| addgroup
    {user : CurrentUser} {time : String}
    {args : Bytes} {groupid : Int}
    (number : stoi args = some groupid) :
    Sends (.command user time .addgroup args)
      (request user .addGroupMsg
        [("groupid", .integer groupid)])
| groupchat
    {user : CurrentUser} {time : String}
    {args target message : Bytes} {groupid : Int}
    {text : String}
    (split : splitColon args = some (target, message))
    (number : stoi target = some groupid)
    (read : text? message = some text) :
    Sends (.command user time .groupchat args)
      (request user .groupChatMsg
        [("name", .string user.name),
          ("groupid", .integer groupid),
          ("msg", .string text), ("time", .string time)])
| loginout
    (user : CurrentUser) (time : String) (args : Bytes) :
    Sends (.command user time .loginout args)
      (request user .loginoutMsg [])

theorem credentials_eq_some
    {type : EnMsgType}
    {name password : Bytes}
    {js : JsonObject}
    (hSent : credentials type name password = .ok (some js)) :
    ∃ nameText passwordText,
      text? name = some nameText ∧
        text? password = some passwordText ∧
          js =
            JsonObject.assign "password"
              (.string passwordText)
              (JsonObject.assign "name" (.string nameText)
                (JsonObject.assign "msgid"
                  (.integer type.code) [])) := by
  unfold credentials at hSent
  cases hName : dumpedText name with
  | error error =>
      rw [hName] at hSent
      cases hSent
  | ok first =>
      cases hPassword : dumpedText password with
      | error error =>
          rw [hName, hPassword] at hSent
          cases hSent
      | ok second =>
          rw [hName, hPassword] at hSent
          cases hSent
          rcases text?_of_dumpedText hName with
            ⟨nameText, hNameText, rfl⟩
          rcases text?_of_dumpedText hPassword with
            ⟨passwordText, hPasswordText, rfl⟩
          exact
            ⟨nameText, passwordText, hNameText, hPasswordText,
              rfl⟩

theorem sends_of_sent
    {typed : Typed}
    {js : JsonObject}
    (hSent : typed.sent = .ok (some js)) :
    Sends typed js := by
  cases typed with
  | login name password =>
      rcases credentials_eq_some hSent with
        ⟨_, _, hName, hPassword, rfl⟩
      exact .login hName hPassword
  | register name password =>
      rcases credentials_eq_some hSent with
        ⟨_, _, hName, hPassword, rfl⟩
      exact .register hName hPassword
  | command user time handler args =>
      unfold Typed.sent at hSent
      cases handler with
      | help => cases hSent
      | chat =>
          dsimp only [Command.handle, chat] at hSent
          split at hSent
          · cases hSent
          · rename_i friendid message hSplit
            cases hDumped : dumpedText message with
            | error error =>
                rw [hDumped] at hSent
                cases hSent
            | ok msg =>
                rw [hDumped] at hSent
                cases hSent
                rcases text?_of_dumpedText hDumped with
                  ⟨text, hText, rfl⟩
                exact .chat hSplit hText
      | addfriend =>
          dsimp only [Command.handle, addfriend] at hSent
          split at hSent
          · cases hSent
          · split at hSent
            · cases hSent
            · rename_i friendid hNumber
              cases hSent
              exact .addfriend hNumber
      | creategroup =>
          dsimp only [Command.handle, creategroup] at hSent
          split at hSent
          · cases hSent
          · rename_i groupname groupdesc hSplit
            cases hName : dumpedText groupname with
            | error error =>
                rw [hName] at hSent
                cases hSent
            | ok name =>
                cases hDesc : dumpedText groupdesc with
                | error error =>
                    rw [hName, hDesc] at hSent
                    cases hSent
                | ok desc =>
                    rw [hName, hDesc] at hSent
                    cases hSent
                    rcases text?_of_dumpedText hName with
                      ⟨nameText, hNameText, rfl⟩
                    rcases text?_of_dumpedText hDesc with
                      ⟨descText, hDescText, rfl⟩
                    exact
                      .creategroup hSplit hNameText hDescText
      | addgroup =>
          dsimp only [Command.handle, addgroup] at hSent
          split at hSent
          · cases hSent
          · split at hSent
            · cases hSent
            · rename_i groupid hNumber
              cases hSent
              exact .addgroup hNumber
      | groupchat =>
          dsimp only [Command.handle, groupchat] at hSent
          split at hSent
          · cases hSent
          · rename_i target message hSplit
            split at hSent
            · cases hSent
            · rename_i groupid hNumber
              cases hDumped : dumpedText message with
              | error error =>
                  rw [hDumped] at hSent
                  cases hSent
              | ok msg =>
                  rw [hDumped] at hSent
                  cases hSent
                  rcases text?_of_dumpedText hDumped with
                    ⟨text, hText, rfl⟩
                  exact .groupchat hSplit hNumber hText
      | loginout =>
          cases hSent
          exact .loginout user time args

/- Every frame can be printed and parsed. -/
theorem Sends.storable
    {typed : Typed}
    {js : JsonObject}
    (hSends : Sends typed js)
    (hInt : typed.HasInt) :
    JsonObject.Storable js := by
  have hCredentials :
      ∀ (type : EnMsgType) (name password : String),
        JsonObject.Storable
          (JsonObject.assign "password" (.string password)
            (JsonObject.assign "name" (.string name)
              (JsonObject.assign "msgid"
                (.integer type.code) []))) := by
    intro type name password
    have hType :=
      JsonObject.storable_nil.assign "msgid"
        (storable_code type)
    have hName :=
      hType.assign "name" (Json.storable_string name)
    exact
      hName.assign "password" (Json.storable_string password)
  cases hSends with
  | login _ _ => exact hCredentials _ _ _
  | register _ _ => exact hCredentials _ _ _
  | @chat user time args friendid message text _ _ =>
      have hTo := atoi_bounds friendid
      refine storable_request hInt.1 hInt.2 _ ?_
      simp [Json.storable_string, storable_int hTo.1 hTo.2]
  | addfriend hNumber =>
      have hFriend := stoi_bounds hNumber
      refine storable_request hInt.1 hInt.2 _ ?_
      simp [storable_int hFriend.1 hFriend.2]
  | creategroup _ _ _ =>
      refine storable_request hInt.1 hInt.2 _ ?_
      simp [Json.storable_string]
  | addgroup hNumber =>
      have hGroup := stoi_bounds hNumber
      refine storable_request hInt.1 hInt.2 _ ?_
      simp [storable_int hGroup.1 hGroup.2]
  | groupchat _ hNumber _ =>
      have hGroup := stoi_bounds hNumber
      refine storable_request hInt.1 hInt.2 _ ?_
      simp [Json.storable_string,
        storable_int hGroup.1 hGroup.2]
  | loginout _ _ _ =>
      refine storable_request hInt.1 hInt.2 _ ?_
      simp

theorem getInt_id
    {user : CurrentUser}
    (hLow : -2 ^ 31 ≤ user.id)
    (hHigh : user.id < 2 ^ 31) :
    (Json.integer user.id).getInt.toOption = some user.id := by
  rw [Json.getInt_integer hLow hHigh]
  rfl

theorem getInt_stoi
    {text : Bytes}
    {value : Int}
    (hNumber : stoi text = some value) :
    (Json.integer value).getInt.toOption = some value := by
  have hBounds := stoi_bounds hNumber
  rw [Json.getInt_integer hBounds.1 hBounds.2]
  rfl

theorem getString_string (text : String) :
    (Json.string text).getString.toOption = some text := rfl

/-
  Whatever the client sends for what was typed: the server
  that parses it is asked for exactly what was typed.
-/
theorem typed_requests_are_read
    {env : Externals}
    {strtod : String → Option Rat}
    (hCodec : env.codec = JsonCodec.library strtod)
    {typed : Typed}
    {js : JsonObject}
    (hSent : typed.sent = .ok (some js))
    (hInt : typed.HasInt)
    (readings : Readings) :
    ChatServer.requestOf env (env.codec.dump (.object js))
        readings =
      typed.request? env readings := by
  have hSends := sends_of_sent hSent
  have hStorable := hSends.storable hInt
  have hDump :
      ∀ type : EnMsgType,
        js.field "msgid" = .integer type.code →
          ChatServer.requestOf env
              (env.codec.dump (.object js)) readings =
            ChatService.requestOf env type.code js readings :=
    fun type hType =>
      ChatServer.requestOf_dump hCodec hStorable hType readings
  cases hSends with
  | login _ _ =>
      rw [hDump .loginMsg (by simp [JsonObject.field_assign])]
      rfl
  | register hName hPassword =>
      rw [hDump .regMsg (by simp [JsonObject.field_assign])]
      simp [ChatService.requestOf, JsonObject.field_assign,
        Typed.request?, getString_string, hName,
        utf8_of_text? hPassword]
  | chat _ _ =>
      rw [hDump .oneChatMsg
        (by simp [request, JsonObject.field_assign])]
      rfl
  | addfriend hNumber =>
      rw [hDump .addFriendMsg
        (by simp [request, JsonObject.field_assign])]
      simp [ChatService.requestOf, request,
        JsonObject.field_assign, Typed.request?, hNumber,
        EnMsgType.code, getInt_id hInt.1 hInt.2,
        getInt_stoi hNumber]
  | creategroup hSplit hName hDesc =>
      rw [hDump .createGroupMsg
        (by simp [request, JsonObject.field_assign])]
      simp [ChatService.requestOf, request,
        JsonObject.field_assign, Typed.request?, hSplit,
        hName, hDesc, getString_string, EnMsgType.code,
        getInt_id hInt.1 hInt.2]
  | addgroup hNumber =>
      rw [hDump .addGroupMsg
        (by simp [request, JsonObject.field_assign])]
      simp [ChatService.requestOf, request,
        JsonObject.field_assign, Typed.request?, hNumber,
        EnMsgType.code, getInt_id hInt.1 hInt.2,
        getInt_stoi hNumber]
  | groupchat _ _ _ =>
      rw [hDump .groupChatMsg
        (by simp [request, JsonObject.field_assign])]
      rfl
  | loginout _ _ _ =>
      rw [hDump .loginoutMsg
        (by simp [request, JsonObject.field_assign])]
      rfl

------------------------------------------------------------
-- A Typed Friend
------------------------------------------------------------

def sampleCurrentUser : CurrentUser where
  id := 1
  name := "ann"

/- User 1 types `addfriend:2`. -/
def typedFriend : Typed :=
  .command sampleCurrentUser "" .addfriend (utf8 "2")

theorem typedFriend_sent :
    typedFriend.sent =
      .ok (some (request sampleCurrentUser .addFriendMsg
        [("friendid", .integer 2)])) := by
  have hNumber : stoi (utf8 "2") = some 2 := by
    decide +kernel
  change addfriend sampleCurrentUser (utf8 "2") = _
  unfold addfriend
  rw [if_neg (by decide +kernel), hNumber]

/- The server is asked to make 2 a friend of 1. -/
theorem typedFriend_is_read :
    ChatServer.requestOf libraryExternals
        (libraryExternals.codec.dump
          (.object (request sampleCurrentUser .addFriendMsg
            [("friendid", .integer 2)])))
        sampleReadings =
      typedFriend.request? libraryExternals
        sampleReadings :=
  typed_requests_are_read rfl typedFriend_sent
    ⟨by decide, by decide⟩ sampleReadings

end Client

end ClusterChat
