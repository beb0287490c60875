import ClusterChat.EndToEnd.Rendering
import ClusterChat.EndToEnd.TypedRequests

/-
  A chat message, from the line that is typed to the line that
  is shown.

  On its way the text is put into a frame that is printed,
  parsed by the server, stamped, printed again, and parsed by
  the client of the recipient.

  Main declarations:
    * `Client.Chat` and `Client.Typed.chat?`
    * `Client.Chat.frame`
    * `Client.Chat.rendered`
    * `Client.typed_chat_is_shown`
-/

------------------------------------------------------------
-- Typed Messages
------------------------------------------------------------

namespace ClusterChat

/- The id of an addressee is an int. -/
def Addressee.HasInt (addressee : Addressee) : Prop :=
  -2 ^ 31 ≤ addressee.id ∧ addressee.id < 2 ^ 31

namespace Client

/- What one user writes to another, or to a group. -/
structure Chat where
  user : CurrentUser
  time : String
  addressee : Addressee
  text : String

/- What the commands `chat` and `groupchat` make of a line. -/
def Typed.chat? : Typed → Option Chat
| .command user time .chat args => do
    let (friendid, message) ← splitColon args
    let text ← text? message
    return ⟨user, time, .user (atoi friendid), text⟩
| .command user time .groupchat args => do
    let (target, message) ← splitColon args
    let groupid ← stoi target
    let text ← text? message
    return ⟨user, time, .group groupid, text⟩
| _ => none

namespace Chat

/- The message type. -/
def type (chat : Chat) : EnMsgType :=
  match chat.addressee with
  | .user _ => .oneChatMsg
  | .group _ => .groupChatMsg

/- The members of its frame. -/
def fields (chat : Chat) : JsonObject :=
  request chat.user chat.type
    [("name", .string chat.user.name),
      (chat.addressee.key, .integer chat.addressee.id),
      ("msg", .string chat.text), ("time", .string chat.time)]

/- The conversation of the message. -/
def convId (chat : Chat) : String :=
  match chat.addressee with
  | .user toid => conv.p2p chat.user.id toid
  | .group groupid => conv.group groupid

/- The line that is shown for the message with a number. -/
def line (chat : Chat) (seq : Nat) : String :=
  let sender :=
    chat.time ++ " [#" ++ toString seq ++ "][" ++
      toString chat.user.id ++ "]" ++ chat.user.name
  match chat.addressee with
  | .user _ => sender ++ " said:" ++ chat.text
  | .group groupid =>
      sender ++ " in group[" ++ toString groupid ++
        "] said:" ++ chat.text

end Chat

/- The frame that is sent is the one of the message. -/
theorem Sends.chat_fields
    {typed : Typed}
    {js : JsonObject}
    {chat : Chat}
    (hSends : Sends typed js)
    (hInt : typed.HasInt)
    (hChat : typed.chat? = some chat) :
    js = chat.fields ∧
      (-2 ^ 31 ≤ chat.user.id ∧ chat.user.id < 2 ^ 31) ∧
        chat.addressee.HasInt := by
  cases hSends with
  | chat hSplit hText =>
      simp only [Typed.chat?, hSplit, hText,
        Option.bind_eq_bind, Option.bind_some,
        Option.pure_def, Option.some.injEq] at hChat
      subst hChat
      exact ⟨rfl, hInt, atoi_bounds _⟩
  | groupchat hSplit hNumber hText =>
      simp only [Typed.chat?, hSplit, hText, hNumber,
        Option.bind_eq_bind, Option.bind_some,
        Option.pure_def, Option.some.injEq] at hChat
      subst hChat
      exact ⟨rfl, hInt, stoi_bounds hNumber⟩
  | _ => cases hChat

------------------------------------------------------------
-- The Frame at the Server
------------------------------------------------------------

namespace Chat

variable {env : Externals} {strtod : String → Option Rat}

/- The ids in a message are ints. -/
structure HasInts (chat : Chat) : Prop where
  low : -2 ^ 31 ≤ chat.user.id
  high : chat.user.id < 2 ^ 31
  addressee : chat.addressee.HasInt

theorem HasInts.storable
    {chat : Chat}
    (hInts : chat.HasInts) :
    JsonObject.Storable chat.fields := by
  refine storable_request hInts.low hInts.high _ ?_
  simp [Json.storable_string,
    storable_int hInts.addressee.1 hInts.addressee.2]

theorem code_type (chat : Chat) :
    chat.type.code = chat.addressee.msgid := by
  unfold type
  cases chat.addressee <;> rfl

/- A field of the frame, behind the parser. -/
theorem field_parsed (chat : Chat) (key : String) :
    JsonObject.field (Json.normalizeFields chat.fields) key =
      (chat.fields.field key).normalize :=
  JsonObject.field_normalizeFields _ _

theorem field_msgid (chat : Chat) :
    chat.fields.field "msgid" = .integer chat.type.code := by
  unfold fields Addressee.key
  cases chat.addressee <;>
    simp [request, JsonObject.field_assign]

theorem field_id (chat : Chat) :
    chat.fields.field "id" = .integer chat.user.id := by
  unfold fields Addressee.key
  cases chat.addressee <;>
    simp [request, JsonObject.field_assign]

theorem field_addressee (chat : Chat) :
    chat.fields.field chat.addressee.key =
      .integer chat.addressee.id := by
  unfold fields Addressee.key
  cases chat.addressee <;>
    simp [request, JsonObject.field_assign]

/- The server takes the printed frame for this chat frame. -/
def frame
    (chat : Chat)
    (hCodec : env.codec = JsonCodec.library strtod)
    (hInts : chat.HasInts)
    (conn : ConnId)
    (readings : Readings) : ChatFrame env where
  conn := conn
  body := env.codec.dump (.object chat.fields)
  readings := readings
  fields := Json.normalizeFields chat.fields
  sender := chat.user.id
  addressee := chat.addressee
  parsed := by
    rw [hCodec]
    exact
      JsonCodec.library_roundTrips_storable strtod
        hInts.storable
  isInteger := by
    rw [chat.field_parsed, chat.field_msgid,
      Json.isNumberInteger_normalize]
    rfl
  typed := by
    rw [chat.field_parsed, chat.field_msgid,
      Json.getInt_normalize, Json.getInt_code, chat.code_type]
  named := by
    rw [chat.field_parsed, chat.field_id,
      Json.getInt_normalize]
    exact Json.getInt_integer hInts.low hInts.high
  addressed := by
    rw [chat.field_parsed, chat.field_addressee,
      Json.getInt_normalize]
    exact
      Json.getInt_integer hInts.addressee.1
        hInts.addressee.2

------------------------------------------------------------
-- The Message at the Client
------------------------------------------------------------

section Received

variable {chat : Chat}
variable (hCodec : env.codec = JsonCodec.library strtod)
variable (hInts : chat.HasInts)
variable (conn : ConnId) (readings : Readings) (seq : Nat)

/- A member that the client shows, behind both parsers. -/
theorem find?_received
    {key : String}
    {value : Json}
    (hTs : key ≠ msgFieldTs)
    (hSeq : key ≠ msgFieldSeq)
    (hConvid : key ≠ msgFieldConvid)
    (hValue : JsonObject.find? key chat.fields = some value) :
    ((chat.frame hCodec hInts conn readings).message
        seq).normalize.find? key =
      some value.normalize.normalize := by
  rw [ChatFrame.find?_message _ seq hTs hSeq hConvid]
  change
    (JsonObject.find? key
      (Json.normalizeFields chat.fields)).map _ = _
  rw [Json.find?_normalizeFields, hValue]
  rfl

theorem constText_received
    {key text : String}
    (hTs : key ≠ msgFieldTs)
    (hSeq : key ≠ msgFieldSeq)
    (hConvid : key ≠ msgFieldConvid)
    (hText :
      JsonObject.find? key chat.fields =
        some (.string text)) :
    constText
        ((chat.frame hCodec hInts conn readings).message
          seq).normalize key =
      .ok text := by
  unfold constText constMember
  rw [chat.find?_received hCodec hInts conn readings seq hTs
    hSeq hConvid hText]
  rfl

/- The client's parser gets the message that was stamped. -/
theorem parse_payload
    (hTime : ChatFrame.InTime readings)
    (hSeq : seq < 2 ^ 64) :
    env.codec.parse
        ((chat.frame hCodec hInts conn readings).payload
          seq) =
      some
        ((chat.frame hCodec hInts conn readings).message
          seq).normalize := by
  refine
    ChatFrame.stamped_roundTrips hCodec
      (chat.frame hCodec hInts conn readings) ?_ hSeq hTime
  exact Json.noFraction_normalize hInts.storable.noFraction

theorem find?_fields (chat : Chat) :
    JsonObject.find? "time" chat.fields =
        some (.string chat.time) ∧
      JsonObject.find? "name" chat.fields =
          some (.string chat.user.name) ∧
        JsonObject.find? "msg" chat.fields =
            some (.string chat.text) ∧
          JsonObject.find? "id" chat.fields =
            some (.integer chat.user.id) := by
  unfold fields Addressee.key
  cases chat.addressee <;>
    simp [request, JsonObject.find?_assign_of_ne]

/- The id is shown as its digits. -/
theorem dump_id
    (hCodec : env.codec = JsonCodec.library strtod)
    (value : Int) :
    env.codec.dump (Json.integer value).normalize.normalize =
      toString value := by
  calc
    _ = (Json.integer value).normalize.normalize.text := by
        rw [hCodec]
        rfl
    _ = (Json.integer value).text := by
        rw [Json.text_normalize, Json.text_normalize]
    _ = toString value := rfl

/- What the client prints for it. -/
theorem rendered :
    renderChatMessage env.codec
        ((chat.frame hCodec hInts conn readings).message
          seq).normalize =
      .ok (some (chat.line seq)) := by
  have hMsgtype :=
    valueInt_message
      (chat.frame hCodec hInts conn readings) seq
  have hNumber :=
    ChatFrame.valueUInt64_message
      (chat.frame hCodec hInts conn readings) seq
  rcases chat.find?_fields with ⟨hTime, hName, hMsg, hId⟩
  have hShownTime :=
    chat.constText_received hCodec hInts conn readings seq
      (by decide) (by decide) (by decide) hTime
  have hShownName :=
    chat.constText_received hCodec hInts conn readings seq
      (by decide) (by decide) (by decide) hName
  have hShownMsg :=
    chat.constText_received hCodec hInts conn readings seq
      (by decide) (by decide) (by decide) hMsg
  have hShownId :=
    chat.find?_received hCodec hInts conn readings seq
      (by decide) (by decide) (by decide) hId
  have hMember :
      constMember
          ((chat.frame hCodec hInts conn readings).message
            seq).normalize "id" =
        .ok (Json.integer chat.user.id).normalize.normalize := by
    unfold constMember
    rw [hShownId]
  have hDump := dump_id hCodec chat.user.id
  unfold renderChatMessage line
  rw [hMsgtype, hNumber, hShownTime, hShownName, hShownMsg,
    hMember]
  have hSame :
      (chat.frame hCodec hInts conn readings).addressee =
        chat.addressee := rfl
  rw [hSame]
  cases hAddressee : chat.addressee with
  | user toid =>
      have hUser :
          ((Addressee.user toid).msgid : Int) =
            EnMsgType.oneChatMsg.code := rfl
      dsimp only [uncaught, Except.mapError, bind,
        Except.bind]
      rw [if_pos hUser, hDump]
      rfl
  | group groupid =>
      have hGroup :
          ((Addressee.group groupid).msgid : Int) =
            EnMsgType.groupChatMsg.code := rfl
      have hNotUser :
          ((Addressee.group groupid).msgid : Int) ≠
            EnMsgType.oneChatMsg.code := by
        rw [hGroup]
        decide
      have hAddressed :=
        (chat.frame hCodec hInts conn readings).addressed
      rw [hSame, hAddressee] at hAddressed
      change
        (JsonObject.field
            (chat.frame hCodec hInts conn readings).fields
            "groupid").getInt =
          .ok groupid at hAddressed
      have hGroupid :=
        (ChatFrame.constInt_message
          (chat.frame hCodec hInts conn readings) seq
          (by decide) (by decide) (by decide) hAddressed).2
      dsimp only [uncaught, Except.mapError, bind,
        Except.bind]
      rw [if_neg hNotUser, if_pos hGroup, hDump, hGroupid]
      rfl

end Received

end Chat

------------------------------------------------------------
-- From Line to Line
------------------------------------------------------------

/-
  Whatever a server does for a typed message: it takes a
  number for the conversation, if anything, and each text
  that it then sends, publishes, or stores is shown by the
  client that parses it as the typed text, with the number.
-/
theorem typed_chat_is_shown
    {env : Externals}
    {strtod : String → Option Rat}
    (hCodec : env.codec = JsonCodec.library strtod)
    {typed : Typed}
    {js : JsonObject}
    {chat : Chat}
    (hSent : typed.sent = .ok (some js))
    (hInt : typed.HasInt)
    (hChat : typed.chat? = some chat)
    {conn : ConnId}
    {readings : Readings}
    (hTime : ChatFrame.InTime readings)
    {steps : List (Sigma ServerOp.Res)}
    {final : Handler Unit}
    (hTrace :
      Process.Trace steps
        (ChatServer.onMessage env conn
          (env.codec.dump (.object js)) readings) final) :
    steps = [] ∨
      ∃ (seq : Nat) (rest : List (Sigma ServerOp.Res)),
        steps = ⟨.incrSeq chat.convId, seq⟩ :: rest ∧
          (seq < 2 ^ 64 →
            ∀ step ∈ rest,
              ∀ text,
                step.1.text? = some text →
                  ∃ received,
                    env.codec.parse text = some received ∧
                      renderChatMessage env.codec received =
                        .ok (some (chat.line seq))) := by
  rcases (sends_of_sent hSent).chat_fields hInt hChat with
    ⟨hFields, hUser, hAddressee⟩
  have hInts : chat.HasInts := ⟨hUser.1, hUser.2, hAddressee⟩
  rw [hFields] at hTrace
  rcases (chat.frame hCodec hInts conn readings).trace_chat
      hTrace with
    hNothing | ⟨seq, rest, hSteps, hRest⟩
  · exact Or.inl hNothing
  · refine Or.inr ⟨seq, rest, hSteps, ?_⟩
    intro hSeq step hStep text hText
    have hPayload := (hRest step hStep).text_eq hText
    refine
      ⟨_, ?_, chat.rendered hCodec hInts conn readings seq⟩
    rw [hPayload]
    exact
      chat.parse_payload hCodec hInts conn readings seq hTime
        hSeq

------------------------------------------------------------
-- A Typed Message
------------------------------------------------------------

/- User 1 types `chat:2:hi`. -/
def typedHi : Typed :=
  .command sampleCurrentUser "noon" .chat (utf8 "2:hi")

def hi : Chat where
  user := sampleCurrentUser
  time := "noon"
  addressee := .user 2
  text := "hi"

theorem splitColon_hi :
    splitColon (utf8 "2:hi") = some (utf8 "2", utf8 "hi") := by
  decide +kernel

theorem text?_hi : text? (utf8 "hi") = some "hi" := by
  decide +kernel

theorem atoi_two : atoi (utf8 "2") = 2 := by
  decide +kernel

theorem typedHi_sent :
    typedHi.sent = .ok (some hi.fields) := by
  have hText := dumpedText_of_text? text?_hi
  change chat sampleCurrentUser "noon" (utf8 "2:hi") = _
  unfold chat
  rw [splitColon_hi]
  dsimp only
  rw [hText, atoi_two]
  rfl

theorem typedHi_chat : typedHi.chat? = some hi := by
  have hChat :
      typedHi.chat? =
        ((splitColon (utf8 "2:hi")).bind fun parts =>
          (text? parts.2).bind fun text =>
            some ⟨sampleCurrentUser, "noon",
              .user (atoi parts.1), text⟩) := rfl
  rw [hChat, splitColon_hi, Option.bind_some, text?_hi,
    Option.bind_some, atoi_two]
  rfl

/- Some run of the handler passes the message on, and the
client that gets it shows what was typed. -/
theorem typedHi_is_shown :
    ∃ steps final,
      Process.Trace (⟨.incrSeq hi.convId, 1⟩ :: steps)
          (ChatServer.onMessage libraryExternals 5
            (libraryExternals.codec.dump (.object hi.fields))
            sampleReadings) final ∧
        ∃ step ∈ steps,
          ∃ text received,
            step.1.text? = some text ∧
              libraryExternals.codec.parse text =
                  some received ∧
                renderChatMessage libraryExternals.codec
                    received =
                  .ok (some "noon [#1][1]ann said:hi") := by
  have hInts : hi.HasInts :=
    ⟨by decide, by decide, by decide, by decide⟩
  rcases (@Chat.frame libraryExternals _ hi rfl hInts 5
      sampleReadings).exists_trace 1 with
    ⟨steps, final, hTrace, step, hStep, hText⟩
  refine ⟨steps, final, hTrace, step, hStep, ?_⟩
  have hTime : ChatFrame.InTime sampleReadings :=
    ⟨by decide, by decide⟩
  rcases typed_chat_is_shown rfl typedHi_sent
      ⟨by decide, by decide⟩ typedHi_chat hTime hTrace with
    hNothing | ⟨seq, rest, hSteps, hRest⟩
  · cases hNothing
  · rcases List.cons.inj hSteps with ⟨hHead, hTail⟩
    have hNumber : 1 = seq :=
      eq_of_heq (Sigma.mk.inj_iff.mp hHead).2
    rw [hTail] at hStep
    rw [← hNumber] at hRest
    rcases hRest (by decide) step hStep _ hText with
      ⟨received, hParsed, hShown⟩
    exact ⟨_, received, hText, hParsed, hShown⟩

end Client

end ClusterChat
