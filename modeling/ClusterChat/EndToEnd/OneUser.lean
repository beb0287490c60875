import ClusterChat.Client.Program
import ClusterChat.EndToEnd.TypedRequests

/-
  The frames of one run of the client: logins and
  registrations first, and then the frames of one user.

  Main declarations:
    * `Client.Typed.type?`
    * `Client.Sends.field_msgid` and `Client.Sends.field_id`
    * `Client.Program.sends_for_one_user`
-/

------------------------------------------------------------
-- Types and Ids of Frames
------------------------------------------------------------

namespace ClusterChat

namespace Client

/- The type of the frame of a command. -/
def Command.type? : Command → Option EnMsgType
| help => none
| chat => some .oneChatMsg
| addfriend => some .addFriendMsg
| creategroup => some .createGroupMsg
| addgroup => some .addGroupMsg
| groupchat => some .groupChatMsg
| loginout => some .loginoutMsg

def Typed.type? : Typed → Option EnMsgType
| .login _ _ => some .loginMsg
| .register _ _ => some .regMsg
| .command _ _ handler _ => handler.type?

theorem Sends.field_msgid
    {typed : Typed}
    {js : JsonObject}
    (hSends : Sends typed js) :
    ∃ type,
      typed.type? = some type ∧
        js.field "msgid" = .integer type.code := by
  cases hSends with
  | login _ _ =>
      exact ⟨_, rfl, by simp [JsonObject.field_assign]⟩
  | register _ _ =>
      exact ⟨_, rfl, by simp [JsonObject.field_assign]⟩
  | _ =>
      exact
        ⟨_, rfl, by simp [request, JsonObject.field_assign]⟩

theorem Sends.field_id
    {user : CurrentUser}
    {time : String}
    {handler : Command}
    {args : Bytes}
    {js : JsonObject}
    (hSends : Sends (.command user time handler args) js) :
    js.field "id" = .integer user.id := by
  cases hSends <;>
    simp [request, JsonObject.field_assign]

/- No command is a login or a registration. -/
theorem Command.type?_ne
    {handler : Command}
    {type : EnMsgType}
    (hType : handler.type? = some type) :
    type ≠ .loginMsg ∧ type ≠ .regMsg := by
  cases handler <;> cases hType <;> decide

namespace Program

/-
  In every run of the client, whatever is typed and whatever
  is answered, logins and registrations come before all other
  frames, and all other frames carry the id of one user, whose
  login the client has accepted.
-/
theorem sends_for_one_user
    (codec : JsonCodec)
    (gapTimeoutMs : Int)
    (input : Bytes)
    (events : List Event) :
    let final :=
      Transducer.run (step codec)
        (start gapTimeoutMs input) events
    ∃ before after,
      final.2 = before ++ after ∧
        (∀ js ∈ before, ∃ type : EnMsgType,
          js.field "msgid" = .integer type.code ∧
            (type = .loginMsg ∨ type = .regMsg)) ∧
          (∀ js ∈ after, ∃ type : EnMsgType,
            js.field "msgid" = .integer type.code ∧
              type ≠ .loginMsg ∧ type ≠ .regMsg ∧
                js.field "id" =
                  .integer final.1.session.id) ∧
            (after ≠ [] →
              Accepted codec events final.1.user) := by
  rcases logsInOnce_run gapTimeoutMs input events with
    ⟨before, after, hOnce⟩
  refine ⟨before, after, hOnce.frames, ?_, ?_, hOnce.login⟩
  · intro js hFrame
    rcases hOnce.credentials js hFrame with
      ⟨typed, hKind, hSent⟩
    rcases (sends_of_sent hSent).field_msgid with
      ⟨type, hType, hField⟩
    refine ⟨type, hField, ?_⟩
    cases typed with
    | login name password =>
        exact Or.inl (Option.some.inj hType).symm
    | register name password =>
        exact Or.inr (Option.some.inj hType).symm
    | command user time handler args => exact hKind.elim
  · intro js hFrame
    rcases hOnce.commands js hFrame with
      ⟨time, handler, args, hSent⟩
    have hSends := sends_of_sent hSent
    rcases hSends.field_msgid with ⟨type, hType, hField⟩
    have hOther := Command.type?_ne hType
    exact
      ⟨type, hField, hOther.1, hOther.2, hSends.field_id⟩

end Program

end Client

end ClusterChat
