import ClusterChat.JsonText
import ClusterChat.Server.HandlerOps
import ClusterChat.Server.Numbers
import ClusterChat.Server.OfflineSort

/-
  What the handlers carry.

  A chat handler takes one number, and then it carries the
  payload with this number.  Every other handler carries no
  text but its answers, and what these hand over from the
  table of stored messages.

  Main declarations:
    * `ServerOp.Carries` and `ServerOp.text?`
    * `ServerOp.Replies` and `IsAnswer`
    * `ChatFrame.trace_chat` and `ChatFrame.exists_trace`
    * `chat_or_reply`
-/

------------------------------------------------------------
-- What the Operations Carry
------------------------------------------------------------

namespace ClusterChat

namespace ServerOp

/- Whatever text the operation carries is the payload. -/
def Carries (payload : String) : ServerOp → Prop
| findAndSend _ text => text = payload
| send _ text => text = payload
| publish _ text => text = payload
| insertOffline _ text => text = payload
| incrSeq _ => False
| _ => True

/- The text of a message that the operation carries. -/
def text? : ServerOp → Option String
| findAndSend _ text => some text
| send _ text => some text
| publish _ text => some text
| insertOffline _ text => some text
| _ => none

theorem Carries.text_eq
    {payload text : String}
    {op : ServerOp}
    (hCarries : op.Carries payload)
    (hText : op.text? = some text) :
    text = payload := by
  cases op with
  | findAndSend userid other =>
      exact (Option.some.inj hText).symm.trans hCarries
  | send conn other =>
      exact (Option.some.inj hText).symm.trans hCarries
  | publish channel other =>
      exact (Option.some.inj hText).symm.trans hCarries
  | insertOffline userid other =>
      exact (Option.some.inj hText).symm.trans hCarries
  | _ => cases hText

/- A query returns known texts. -/
def ReadsKnown
    (known : String → Prop) :
    (op : ServerOp) → op.Res → Prop
| queryOffline _, vec => ∀ msg ∈ vec, known msg
| _, _ => True

end ServerOp

/- The answer to a request; what it hands over from the
table are known texts. -/
def IsAnswer
    (known : String → Prop)
    (response : JsonObject) : Prop :=
  (JsonObject.find? "msgid" response =
        some (.integer EnMsgType.loginAckMsg.code) ∨
      JsonObject.find? "msgid" response =
        some (.integer EnMsgType.regAckMsg.code)) ∧
    ∀ value,
      JsonObject.find? "offlinemsg" response = some value →
        ∃ msgs : List String,
          value = .array (msgs.map .string) ∧
            ∀ msg ∈ msgs, known msg

namespace ServerOp

/- The operation carries no text but such an answer. -/
def Replies
    (env : Externals)
    (known : String → Prop) : ServerOp → Prop
| findAndSend _ _ => False
| publish _ _ => False
| insertOffline _ _ => False
| incrSeq _ => False
| send _ body =>
    ∃ response,
      IsAnswer known response ∧
        body = env.codec.dump (.object response)
| _ => True

end ServerOp

------------------------------------------------------------
-- Chat Handlers
------------------------------------------------------------

namespace ChatFrame

variable {env : Externals}

theorem carries_route
    (frame : ChatFrame env)
    (payload : String) :
    (frame.route payload).Always
      (ServerOp.Carries payload) := by
  unfold route
  split
  · exact
      ChatService.always_routeOne rfl trivial rfl rfl
  · apply ChatService.always_ask trivial
    intro users
    exact
      ChatService.always_routeGroup (fun _ => trivial)
        (fun _ => rfl) (fun _ => trivial) (fun _ => rfl)
        (fun _ => rfl) users

/- A chat handler takes one number, and then it carries the
payload with this number. -/
theorem trace_chat
    {frame : ChatFrame env}
    {steps : List (Sigma ServerOp.Res)}
    {final : Handler Unit}
    (hTrace :
      Process.Trace steps
        (ChatServer.onMessage env frame.conn frame.body
          frame.readings) final) :
    steps = [] ∨
      ∃ (seq : Nat) (rest : List (Sigma ServerOp.Res)),
        steps = ⟨.incrSeq frame.convId, seq⟩ :: rest ∧
          ∀ step ∈ rest,
            step.1.Carries (frame.payload seq) := by
  rw [frame.onMessage_eq, frame.handler_eq] at hTrace
  rcases Process.trace_act hTrace with
    hNothing | ⟨seq, rest, hSteps, hRest⟩
  · exact Or.inl hNothing
  · refine Or.inr ⟨seq, rest, hSteps, ?_⟩
    refine (Process.allowed_of_trace hRest ?_).1
    exact
      Process.always_tryCatch
        (frame.carries_route (frame.payload seq))
        fun _ => ⟨trivial, fun _ => trivial⟩

/- Some path of the handler carries the payload. -/
theorem exists_trace
    (frame : ChatFrame env)
    (seq : Nat) :
    ∃ steps final,
      Process.Trace (⟨.incrSeq frame.convId, seq⟩ :: steps)
          (ChatServer.onMessage env frame.conn frame.body
            frame.readings) final ∧
        ∃ step ∈ steps,
          step.1.text? = some (frame.payload seq) := by
  rw [frame.onMessage_eq, frame.handler_eq]
  unfold route
  cases frame.addressee with
  | user toid =>
      refine
        ⟨[⟨.findAndSend toid (frame.payload seq), true⟩],
          ?final, ?trace,
          ⟨_, List.mem_cons_self, rfl⟩⟩
      case trace =>
      apply Process.Trace.cons
      apply Process.Trace.cons
      exact Process.Trace.nil _
  | group groupid =>
      refine
        ⟨[⟨.queryGroupUsers frame.sender groupid, [0]⟩,
            ⟨.findConns [0], fun _ => some 0⟩,
            ⟨.send 0 (frame.payload seq), ()⟩],
          ?last, ?path,
          ⟨⟨.send 0 (frame.payload seq), ()⟩, by simp, rfl⟩⟩
      case path =>
      apply Process.Trace.cons
      apply Process.Trace.cons
      apply Process.Trace.cons
      apply Process.Trace.cons
      exact Process.Trace.nil _

end ChatFrame

------------------------------------------------------------
-- Other Handlers
------------------------------------------------------------

section Answers

variable {env : Externals} {known : String → Prop}

/- Every answer starts with its type. -/
theorem isAnswer_type
    {type : EnMsgType}
    (hType : type = .loginAckMsg ∨ type = .regAckMsg) :
    IsAnswer known
      (JsonObject.assign "msgid" (.integer type.code) []) := by
  constructor
  · rw [JsonObject.find?_assign_self]
    rcases hType with hLogin | hReg
    · exact Or.inl (by rw [hLogin])
    · exact Or.inr (by rw [hReg])
  · intro value hValue
    rw [JsonObject.find?_assign_of_ne (by decide)] at hValue
    simp [JsonObject.find?] at hValue

/- Other members may be added. -/
theorem IsAnswer.assign
    {response : JsonObject}
    (hAnswer : IsAnswer known response)
    {key : String}
    (hMsgid : "msgid" ≠ key)
    (hOffline : "offlinemsg" ≠ key)
    (value : Json) :
    IsAnswer known
      (JsonObject.assign key value response) := by
  unfold IsAnswer
  rw [JsonObject.find?_assign_of_ne hMsgid,
    JsonObject.find?_assign_of_ne hOffline]
  exact hAnswer

theorem isAnswer_loginAccepted
    (id : Int)
    (name : String) :
    IsAnswer known (ChatService.loginAccepted id name) :=
  (((isAnswer_type (Or.inl rfl)).assign (by decide)
      (by decide) _).assign (by decide) (by decide) _).assign
    (by decide) (by decide) _

theorem isAnswer_loginRefused
    (errno : Int)
    (errmsg : String) :
    IsAnswer known
      (ChatService.loginRefused errno errmsg) :=
  ((isAnswer_type (Or.inl rfl)).assign (by decide)
    (by decide) _).assign (by decide) (by decide) _

theorem isAnswer_regAnswer (id : Option Int) :
    IsAnswer known (ChatService.regAnswer id) := by
  have hType :
      IsAnswer known
        (JsonObject.assign "msgid"
          (.integer EnMsgType.regAckMsg.code) []) :=
    isAnswer_type (Or.inr rfl)
  cases id with
  | some id =>
      exact
        (hType.assign (by decide) (by decide) _).assign
          (by decide) (by decide) _
  | none => exact hType.assign (by decide) (by decide) _

/- So may known messages. -/
theorem IsAnswer.withOfflineMessages
    {response : JsonObject}
    (hAnswer : IsAnswer known response)
    (codec : JsonCodec)
    {vec : List String}
    (hKnown : ∀ msg ∈ vec, known msg) :
    IsAnswer known
      (ChatService.withOfflineMessages codec vec
        response) := by
  unfold ChatService.withOfflineMessages
  split
  · exact hAnswer
  · constructor
    · rw [JsonObject.find?_assign_of_ne (by decide)]
      exact hAnswer.1
    · intro value hValue
      rw [JsonObject.find?_assign_self] at hValue
      refine ⟨_, (Option.some.inj hValue).symm, ?_⟩
      intro msg hMsg
      exact
        hKnown msg
          (ChatService.mem_sortOfflineMessages_iff.mp hMsg)

end Answers

namespace ChatService

variable {env : Externals} {known : String → Prop}

/- One operation, then the rest. -/
theorem ensures_ask
    {assumed : (op : ServerOp) → op.Res → Prop}
    {allowed : ServerOp → Prop}
    {α : Type}
    {post : α → Prop}
    {op : ServerOp}
    {rest : op.Res → Handler α}
    (hOp : allowed op)
    (hRest :
      ∀ answer,
        assumed op answer →
          (rest answer).Ensures assumed allowed post) :
    (ask op >>= rest).Ensures assumed allowed post :=
  ⟨hOp, hRest⟩

/- The handler carries no text but its answers. -/
abbrev OnlyReplies
    (env : Externals)
    (known : String → Prop)
    (handler : Handler Unit) : Prop :=
  handler.Ensures (ServerOp.ReadsKnown known)
    (ServerOp.Replies env known) fun _ => True

theorem onlyReplies_respond
    (conn : ConnId)
    {response : JsonObject}
    (hAnswer : IsAnswer known response) :
    OnlyReplies env known (respond env conn response) :=
  ⟨⟨response, hAnswer, rfl⟩, fun _ _ => trivial⟩

theorem onlyReplies_orThrow
    {α : Type}
    (value : Except JsonException α)
    {rest : α → Handler Unit}
    (hRest :
      ∀ value, OnlyReplies env known (rest value)) :
    OnlyReplies env known (orThrow value >>= rest) := by
  cases value with
  | error error => trivial
  | ok value => exact hRest value

theorem answers_takeOffline
    (id : Int)
    {response : JsonObject}
    (hAnswer : IsAnswer known response) :
    (takeOffline env id response).Ensures
      (ServerOp.ReadsKnown known)
      (ServerOp.Replies env known) (IsAnswer known) := by
  unfold takeOffline
  apply ensures_ask trivial
  intro vec hKnown
  split
  · exact hAnswer
  · exact
      ⟨trivial, fun _ _ =>
        hAnswer.withOfflineMessages env.codec hKnown⟩

theorem answers_addFriends
    (id : Int)
    {response : JsonObject}
    (hAnswer : IsAnswer known response) :
    (addFriends env id response).Ensures
      (ServerOp.ReadsKnown known)
      (ServerOp.Replies env known) (IsAnswer known) := by
  unfold addFriends
  apply ensures_ask trivial
  intro friends _
  split
  · exact hAnswer
  · exact hAnswer.assign (by decide) (by decide) _

theorem answers_addGroups
    (id : Int)
    {response : JsonObject}
    (hAnswer : IsAnswer known response) :
    (addGroups env id response).Ensures
      (ServerOp.ReadsKnown known)
      (ServerOp.Replies env known) (IsAnswer known) := by
  unfold addGroups
  apply ensures_ask trivial
  intro groups _
  apply Process.ensures_bind
    (Process.ensures_of_always
      (always_queryMembers (fun _ => trivial) groups))
  intro members _
  split
  · exact hAnswer
  · exact hAnswer.assign (by decide) (by decide) _

theorem onlyReplies_login
    (conn : ConnId)
    (js : JsonObject) :
    OnlyReplies env known (login env conn js) := by
  apply onlyReplies_orThrow
  intro name
  apply onlyReplies_orThrow
  intro password
  apply ensures_ask trivial
  intro (user : User) _
  split
  · split
    · exact
        onlyReplies_respond conn (isAnswer_loginRefused _ _)
    · apply ensures_ask trivial
      intro _ _
      apply ensures_ask trivial
      intro _ _
      apply ensures_ask trivial
      intro _ _
      unfold answerLogin
      apply Process.ensures_bind
        (answers_takeOffline user.id
          (isAnswer_loginAccepted user.id user.name))
      intro stored hStored
      apply Process.ensures_bind
        (answers_addFriends user.id hStored)
      intro friends hFriends
      apply Process.ensures_bind
        (answers_addGroups user.id hFriends)
      intro response hResponse
      exact onlyReplies_respond conn hResponse
  · exact
      onlyReplies_respond conn (isAnswer_loginRefused _ _)

theorem onlyReplies_reg
    (conn : ConnId)
    (js : JsonObject)
    (readings : Readings) :
    OnlyReplies env known (reg env conn js readings) := by
  apply onlyReplies_orThrow
  intro name
  apply onlyReplies_orThrow
  intro password
  apply ensures_ask trivial
  intro id _
  exact onlyReplies_respond conn (isAnswer_regAnswer id)

end ChatService

open ChatService in
/- A frame is a chat message, or it is only answered. -/
theorem chat_or_reply
    (env : Externals)
    (conn : ConnId)
    (body : String)
    (readings : Readings) :
    (∃ frame : ChatFrame env,
        frame.conn = conn ∧
          frame.body = body ∧ frame.readings = readings) ∨
      ∀ known,
        OnlyReplies env known
          (ChatServer.onMessage env conn body readings) := by
  rcases onMessage_cases env conn body readings with
    ⟨handler, hFrame, hSame⟩
  rw [hSame]
  have hGuarded :
      (∀ known, OnlyReplies env known handler) →
        ∀ known,
          OnlyReplies env known
            (ChatServer.guarded conn handler) := by
    intro hHandler known
    exact
      Process.ensures_tryCatch (hHandler known) fun _ =>
        ⟨trivial, fun _ _ => trivial⟩
  cases hFrame with
  | login js parsed =>
      exact
        Or.inr (hGuarded fun _ => onlyReplies_login conn js)
  | loginout js parsed =>
      refine Or.inr (hGuarded fun _ => ?_)
      apply onlyReplies_orThrow
      intro userid
      exact
        ⟨trivial, fun _ _ =>
          ⟨trivial, fun _ _ => ⟨trivial, fun _ _ => trivial⟩⟩⟩
  | reg js parsed =>
      exact
        Or.inr
          (hGuarded fun _ => onlyReplies_reg conn js readings)
  | addfriend js parsed =>
      refine Or.inr (hGuarded fun _ => ?_)
      apply onlyReplies_orThrow
      intro userid
      apply onlyReplies_orThrow
      exact fun _ => ⟨trivial, fun _ _ => trivial⟩
  | creategroup js parsed =>
      refine Or.inr (hGuarded fun _ => ?_)
      apply onlyReplies_orThrow
      intro userid
      apply onlyReplies_orThrow
      intro groupname
      apply onlyReplies_orThrow
      exact fun _ => ⟨trivial, fun _ _ => trivial⟩
  | addgroup js parsed =>
      refine Or.inr (hGuarded fun _ => ?_)
      apply onlyReplies_orThrow
      intro userid
      apply onlyReplies_orThrow
      exact fun _ => ⟨trivial, fun _ _ => trivial⟩
  | nothing => exact Or.inr (hGuarded fun _ => trivial)
  | fails error => exact Or.inr (hGuarded fun _ => trivial)
  | onechat js parsed isInteger typed =>
      cases hSender : (JsonObject.field js "id").getInt with
      | error error =>
          refine Or.inr (hGuarded fun _ => ?_)
          unfold onechat
          rw [hSender]
          trivial
      | ok sender =>
      cases hToid : (JsonObject.field js "toid").getInt with
      | error error =>
          refine Or.inr (hGuarded fun _ => ?_)
          unfold onechat
          rw [hSender, hToid]
          trivial
      | ok toid =>
          exact
            Or.inl
              ⟨{ conn := conn
                 body := body
                 readings := readings
                 fields := js
                 sender := sender
                 addressee := .user toid
                 parsed := parsed
                 isInteger := isInteger
                 typed := typed
                 named := hSender
                 addressed := hToid }, rfl, rfl, rfl⟩
  | groupchat js parsed isInteger typed =>
      cases hSender : (JsonObject.field js "id").getInt with
      | error error =>
          refine Or.inr (hGuarded fun _ => ?_)
          unfold groupchat
          rw [hSender]
          trivial
      | ok sender =>
      cases hGroupid :
          (JsonObject.field js "groupid").getInt with
      | error error =>
          refine Or.inr (hGuarded fun _ => ?_)
          unfold groupchat
          rw [hSender, hGroupid]
          trivial
      | ok groupid =>
          exact
            Or.inl
              ⟨{ conn := conn
                 body := body
                 readings := readings
                 fields := js
                 sender := sender
                 addressee := .group groupid
                 parsed := parsed
                 isInteger := isInteger
                 typed := typed
                 named := hSender
                 addressed := hGroupid }, rfl, rfl, rfl⟩

end ClusterChat
