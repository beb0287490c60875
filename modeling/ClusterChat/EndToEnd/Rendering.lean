import ClusterChat.Client.Render
import ClusterChat.EndToEnd.Numbering
import ClusterChat.Server.Payloads

/-
  Whether the clients can show what the server forwards.

  The server checks the ids of a chat frame and forwards the
  rest of it.  The client shows three more fields, and goes
  on exactly when they are strings.

  Main declarations:
    * `ChatFrame.Forwards` and `ChatFrame.Displayable`
    * `ChatFrame.renders_iff`
    * `forwarded_frames_render_iff`
-/

------------------------------------------------------------
-- What a Frame Needs
------------------------------------------------------------

namespace ClusterChat

/- A sequence succeeds when both parts do. -/
theorem exists_ok_bind
    {ε α β : Type}
    {value : Except ε α}
    {rest : α → Except ε β} :
    (∃ result, (value >>= rest) = .ok result) ↔
      ∃ first,
        value = .ok first ∧
          ∃ result, rest first = .ok result := by
  cases value with
  | error error =>
      constructor
      · intro hResult
        rcases hResult with ⟨result, hResult⟩
        cases hResult
      · intro hFirst
        rcases hFirst with ⟨first, hFirst, _⟩
        cases hFirst
  | ok first =>
      constructor
      · exact fun hResult => ⟨first, rfl, hResult⟩
      · intro hFirst
        rcases hFirst with ⟨other, hSame, hResult⟩
        cases hSame
        exact hResult

namespace ChatFrame

variable {env : Externals}

/- Some schedule of the frame's handler that takes the number
sends, publishes, or stores the text. -/
def Forwards
    (frame : ChatFrame env)
    (seq : Nat)
    (text : String) : Prop :=
  ∃ steps final,
    Process.Trace (⟨.incrSeq frame.convId, seq⟩ :: steps)
        (ChatServer.onMessage env frame.conn frame.body
          frame.readings) final ∧
      ∃ step ∈ steps, step.1.text? = some text

/- It is the payload with the number. -/
theorem forwards_iff
    (frame : ChatFrame env)
    (seq : Nat)
    (text : String) :
    frame.Forwards seq text ↔ text = frame.payload seq := by
  constructor
  · intro hForwards
    rcases hForwards with
      ⟨steps, final, hTrace, step, hStep, hText⟩
    rcases frame.trace_chat hTrace with
      hNothing | ⟨number, rest, hSteps, hRest⟩
    · cases hNothing
    · rcases List.cons.inj hSteps with ⟨hHead, hTail⟩
      have hNumber : seq = number :=
        eq_of_heq (Sigma.mk.inj_iff.mp hHead).2
      rw [hTail] at hStep
      rw [(hRest step hStep).text_eq hText, hNumber]
  · intro hText
    rcases frame.exists_trace seq with
      ⟨steps, final, hTrace, step, hStep, hCarries⟩
    rw [hText]
    exact ⟨steps, final, hTrace, step, hStep, hCarries⟩

/- The fields that only the client reads are strings. -/
structure Displayable (frame : ChatFrame env) : Prop where
  time : (frame.fields.field "time").isString = true
  name : (frame.fields.field "name").isString = true
  msg : (frame.fields.field "msg").isString = true

/- A member that the server does not set. -/
theorem find?_message
    (frame : ChatFrame env)
    (seq : Nat)
    {key : String}
    (hTs : key ≠ msgFieldTs)
    (hSeq : key ≠ msgFieldSeq)
    (hConvid : key ≠ msgFieldConvid) :
    (frame.message seq).normalize.find? key =
      (JsonObject.find? key frame.fields).map
        Json.normalize := by
  rw [Json.find?_normalize]
  unfold message ChatService.stamp
  rw [Json.find?_object, JsonObject.find?_assign_of_ne hTs,
    JsonObject.find?_assign_of_ne hSeq,
    JsonObject.find?_assign_of_ne hConvid]

/- A string is read exactly where there is one. -/
theorem constText_iff
    (frame : ChatFrame env)
    (seq : Nat)
    {key : String}
    (hTs : key ≠ msgFieldTs)
    (hSeq : key ≠ msgFieldSeq)
    (hConvid : key ≠ msgFieldConvid) :
    (∃ text,
        Client.constText (frame.message seq).normalize key =
          .ok text) ↔
      (frame.fields.field key).isString = true := by
  unfold Client.constText Client.constMember
    JsonObject.field
  rw [frame.find?_message seq hTs hSeq hConvid]
  cases JsonObject.find? key frame.fields with
  | none =>
      refine iff_of_false ?_ (by simp [Json.isString])
      intro hText
      rcases hText with ⟨text, hText⟩
      cases hText
  | some value =>
      cases value with
      | string text => exact iff_of_true ⟨text, rfl⟩ rfl
      | integer number =>
          refine iff_of_false ?_ (by simp [Json.isString])
          intro hText
          rcases hText with ⟨text, hText⟩
          by_cases hSign : 0 ≤ number
          · rw [Option.map_some, Json.normalize,
              if_pos hSign] at hText
            cases hText
          · rw [Option.map_some, Json.normalize,
              if_neg hSign] at hText
            cases hText
      | _ =>
          refine iff_of_false ?_ (by simp [Json.isString])
          intro hText
          rcases hText with ⟨text, hText⟩
          simp only [Option.map_some, Json.normalize] at hText
          cases hText

/- What the server reads as an int is there for the client,
as the same int. -/
theorem constInt_message
    (frame : ChatFrame env)
    (seq : Nat)
    {key : String}
    (hTs : key ≠ msgFieldTs)
    (hSeq : key ≠ msgFieldSeq)
    (hConvid : key ≠ msgFieldConvid)
    {value : Int}
    (hRead : (frame.fields.field key).getInt = .ok value) :
    (∃ js,
        Client.constMember (frame.message seq).normalize
          key = .ok js) ∧
      Client.constInt (frame.message seq).normalize key =
        .ok value := by
  unfold JsonObject.field at hRead
  unfold Client.constInt Client.constMember
  rw [frame.find?_message seq hTs hSeq hConvid]
  cases hFound : JsonObject.find? key frame.fields with
  | none =>
      rw [hFound] at hRead
      cases hRead
  | some js =>
      rw [hFound, Option.getD_some] at hRead
      refine ⟨⟨js.normalize, rfl⟩, ?_⟩
      dsimp only [Option.map_some, bind, Except.bind]
      rw [Json.getInt_normalize, hRead]
      rfl

theorem valueUInt64_message
    (frame : ChatFrame env)
    (seq : Nat) :
    Client.valueUInt64 (frame.message seq).normalize "seq" =
      .ok seq := by
  have hFound :
      (frame.message seq).normalize.find? msgFieldSeq =
        some (.unsigned seq) := by
    rw [Json.find?_normalize]
    unfold message ChatService.stamp
    rw [Json.find?_object,
      JsonObject.find?_assign_of_ne (by decide),
      JsonObject.find?_assign_self]
    rfl
  unfold message Json.normalize at hFound ⊢
  unfold Client.valueUInt64
  rw [Json.find?_object] at hFound
  dsimp only
  rw [show "seq" = msgFieldSeq from rfl, hFound]
  rfl

/- The display callback shows the message exactly when the
three fields are strings. -/
theorem renders_iff
    (frame : ChatFrame env)
    (seq : Nat) :
    Client.Renders env.codec (frame.message seq).normalize ↔
      frame.Displayable := by
  have hTime :=
    @constText_iff _ frame seq "time" (by decide) (by decide)
      (by decide)
  have hName :=
    @constText_iff _ frame seq "name" (by decide) (by decide)
      (by decide)
  have hMsg :=
    @constText_iff _ frame seq "msg" (by decide) (by decide)
      (by decide)
  have hId :=
    (frame.constInt_message seq (by decide) (by decide)
      (by decide) frame.named).1
  have hType :
      Client.uncaught
          ((frame.message seq).normalize.valueInt "msgid") =
        .ok (frame.addressee.msgid : Int) := by
    rw [valueInt_message]
    rfl
  have hSeq :
      Client.uncaught
          (Client.valueUInt64 (frame.message seq).normalize
            "seq") = .ok seq := by
    rw [valueUInt64_message]
    rfl
  have hDisplayable :
      frame.Displayable ↔
        (frame.fields.field "time").isString = true ∧
          (frame.fields.field "name").isString = true ∧
            (frame.fields.field "msg").isString = true :=
    ⟨fun h => ⟨h.time, h.name, h.msg⟩,
      fun h => ⟨h.1, h.2.1, h.2.2⟩⟩
  have hDone :
      ∀ line : Option String,
        ∃ result,
          (pure line : Except ClientFailure (Option String)) =
            .ok result :=
    fun line => ⟨line, rfl⟩
  rw [hDisplayable, ← hTime, ← hName, ← hMsg]
  unfold Client.Renders Client.renderChatMessage
  simp only [exists_ok_bind, hType, hSeq, Except.ok.injEq,
    exists_eq_left']
  cases hAddressee : frame.addressee with
  | user toid =>
      have hUser :
          ((Addressee.user toid).msgid : Int) =
            EnMsgType.oneChatMsg.code := rfl
      rw [if_pos hUser]
      simp only [exists_ok_bind, hDone, and_true]
      constructor
      · intro hLine
        rcases hLine with
          ⟨time, hTime, id, _, name, hName, hMsg⟩
        exact ⟨⟨time, hTime⟩, ⟨name, hName⟩, hMsg⟩
      · intro hTexts
        rcases hTexts with ⟨⟨time, hTime⟩, ⟨name, hName⟩, hMsg⟩
        rcases hId with ⟨id, hId⟩
        exact ⟨time, hTime, id, hId, name, hName, hMsg⟩
  | group groupid =>
      have hAddressed := frame.addressed
      rw [hAddressee] at hAddressed
      change
        (frame.fields.field "groupid").getInt = .ok groupid
          at hAddressed
      have hGroupid :=
        (frame.constInt_message seq (by decide) (by decide)
          (by decide) hAddressed).2
      have hGroup :
          ((Addressee.group groupid).msgid : Int) =
            EnMsgType.groupChatMsg.code := rfl
      have hNotUser :
          ((Addressee.group groupid).msgid : Int) ≠
            EnMsgType.oneChatMsg.code := by
        rw [hGroup]
        decide
      rw [if_neg hNotUser, if_pos hGroup]
      simp only [exists_ok_bind, hDone, and_true, hGroupid,
        Except.ok.injEq, exists_eq_left']
      constructor
      · intro hLine
        rcases hLine with
          ⟨time, hTime, id, _, name, hName, hMsg⟩
        exact ⟨⟨time, hTime⟩, ⟨name, hName⟩, hMsg⟩
      · intro hTexts
        rcases hTexts with ⟨⟨time, hTime⟩, ⟨name, hName⟩, hMsg⟩
        rcases hId with ⟨id, hId⟩
        exact ⟨time, hTime, id, hId, name, hName, hMsg⟩

end ChatFrame

------------------------------------------------------------
-- What the Clients Are Given
------------------------------------------------------------

namespace Client

variable {codec : JsonCodec}

/- A client that goes on has shown what was displayed. -/
theorem renders_of_process
    {client : Client}
    {arrival : Arrival}
    {turn : Turn}
    (hTurn : client.readTask codec arrival = .ok turn)
    {result : Client × List (Option String)}
    (hProcess :
      client.process codec (.frame arrival) = .ok result)
    {js : Json}
    (hShown : Effect.emit js ∈ turn.shown) :
    Renders codec js := by
  have hEmitted : js ∈ emitted (turn.ticked ++ turn.shown) :=
    mem_emitted_iff.mpr (List.mem_append_right _ hShown)
  cases hLines :
      render codec (turn.ticked ++ turn.shown) with
  | error failure =>
      unfold process at hProcess
      dsimp only at hProcess
      rw [hTurn] at hProcess
      dsimp only [uncaught, Except.mapError, bind,
        Except.bind] at hProcess
      rw [hLines] at hProcess
      cases hProcess
  | ok lines =>
      unfold render at hLines
      generalize emitted (turn.ticked ++ turn.shown) =
        messages at hEmitted hLines
      induction messages generalizing lines with
      | nil => cases hEmitted
      | cons first messages ih =>
          rw [List.mapM_cons] at hLines
          have hBoth := exists_ok_bind.mp ⟨lines, hLines⟩
          rcases hBoth with ⟨line, hLine, others, hRest⟩
          rcases exists_ok_bind.mp ⟨others, hRest⟩ with
            ⟨tail, hTail, _⟩
          rcases List.mem_cons.mp hEmitted with
            hHere | hThere
          · rw [hHere]
            exact ⟨line, hLine⟩
          · exact ih tail hThere hTail

/- The first message of a conversation is displayed. -/
theorem emitted_of_fresh
    (gapTimeoutMs : Int)
    {js : Json}
    {conv : String}
    {seq : Nat}
    (hNumbered : js.numbered? = some (conv, seq))
    (now : TimePoint) :
    Effect.emit js ∈
      ((ConversationOrderer.fresh gapTimeoutMs).apply
        (.message js now)).2 := by
  rw [ConversationOrderer.apply_numbered _ now hNumbered]
  have hStart :
      ((ConversationOrderer.fresh gapTimeoutMs).channels
          conv).startAt seq =
        { initialized := true, expect := seq } := rfl
  unfold Channel.receive
  dsimp only
  rw [hStart, if_neg (by simp), if_pos rfl]
  exact List.mem_cons_self

end Client

/-
  Consider any chat frames with the numbers they are given.
  Every client to which only their payloads are delivered,
  live or as offline messages, in any order and with any
  repetitions, goes on, exactly when each frame has the three
  strings that the server does not ask for.
-/
theorem forwarded_frames_render_iff
    {env : Externals}
    (given : ChatFrame env → Nat → Prop)
    (hCodec :
      ∀ frame seq,
        given frame seq →
          env.codec.RoundTrips (frame.message seq)) :
    (∀ gapTimeoutMs userId state inputs,
      (∀ input ∈ inputs,
        ∀ text ∈ Client.Input.texts input,
          ∃ frame seq,
            given frame seq ∧
              ChatFrame.Forwards frame seq text) →
        ∃ result,
          (Client.started gapTimeoutMs userId
              state).processAll env.codec inputs =
            .ok result) ↔
      ∀ frame seq, given frame seq → frame.Displayable := by
  constructor
  · intro hGoesOn frame seq hGiven
    rcases hGoesOn 800 0 .online
        [.frame
          { body := frame.payload seq
            tickedAt := 1
            visits := []
            now := 1 }]
        (by
          intro input hInput text hText
          rw [List.mem_singleton.mp hInput] at hText
          exact
            ⟨frame, seq, hGiven,
              (frame.forwards_iff seq text).mpr
                (List.mem_singleton.mp hText)⟩)
      with ⟨result, hResult⟩
    rcases exists_ok_bind.mp ⟨result, hResult⟩ with
      ⟨first, hProcess, _⟩
    have hNumbered := frame.numbered?_message seq
    have hParsed :
        env.codec.parse
            { body := frame.payload seq
              tickedAt := 1
              visits := []
              now := 1 : Client.Arrival }.body =
          some (frame.message seq).normalize :=
      hCodec frame seq hGiven
    have hTurn :=
      Client.readTask_of_typed hParsed
        (valueInt_message frame seq)
        (by cases frame.addressee <;> simp [Addressee.msgid])
        (Json.convidIsString_of_numbered hNumbered)
        (Client.started 800 0 .online)
    exact
      (frame.renders_iff seq).mp
        (Client.renders_of_process hTurn hProcess
          (Client.emitted_of_fresh 800 hNumbered 1))
  · intro hDisplayable gapTimeoutMs userId state inputs hTexts
    apply Client.processAll_succeeds
    · exact ConversationOrderer.keeps_fresh gapTimeoutMs
    · intro input hInput text hText
      rcases hTexts input hInput text hText with
        ⟨frame, seq, hGiven, hForwards⟩
      rw [(frame.forwards_iff seq text).mp hForwards]
      refine
        ⟨(frame.message seq).normalize, _,
          hCodec frame seq hGiven, valueInt_message frame seq,
          ?_,
          Json.convidIsString_of_numbered
            (frame.numbered?_message seq),
          (frame.renders_iff seq).mpr
            (hDisplayable frame seq hGiven)⟩
      cases frame.addressee <;> simp [Addressee.msgid]

------------------------------------------------------------
-- A Frame with the Texts and One Without
------------------------------------------------------------

/- What ends a client, if one of the inputs does. -/
def Client.failure?
    (codec : JsonCodec)
    (client : Client)
    (inputs : List Client.Input) : Option ClientFailure :=
  match client.processAll codec inputs with
  | .error failure => some failure
  | .ok _ => none

/- The members of a chat frame as the client writes it. -/
def signedChat (fromid toid : Int) : JsonObject :=
  [("id", .integer fromid), ("msg", .string "hi"),
    ("msgid", .unsigned EnMsgType.oneChatMsg.code),
    ("name", .string "ann"),
    ("time", .string "2024-01-01 00:00:00"),
    ("toid", .integer toid)]

def signedTable : List Json :=
  [.object (signedChat 1 2),
    .object
      (ChatService.stamp (conv.p2p 1 2) 1
        sampleReadings.time
        (Json.normalizeFields (signedChat 1 2)))]

def signedExternals : Externals :=
  sampleExternals signedTable

theorem signedTable_roundTrips
    {js : Json}
    (hKnown : js ∈ signedTable) :
    signedExternals.codec.RoundTrips js :=
  JsonCodec.roundTrips_ofTable (by decide +kernel) hKnown

theorem parse_signedChat :
    signedExternals.codec.parse
        (Json.object (signedChat 1 2)).text =
      some (.object (Json.normalizeFields (signedChat 1 2))) :=
  signedTable_roundTrips List.mem_cons_self

/- User 1 writes to user 2 and signs it. -/
def signed : ChatFrame signedExternals where
  conn := 5
  body := (Json.object (signedChat 1 2)).text
  readings := sampleReadings
  fields := Json.normalizeFields (signedChat 1 2)
  sender := 1
  addressee := .user 2
  parsed := parse_signedChat
  isInteger := rfl
  typed := rfl
  named := rfl
  addressed := rfl

/- The client of user 2 shows it. -/
theorem signed_frame_renders :
    ∃ result,
      (Client.started 800 2 .online).processAll
          signedExternals.codec
          [.frame
            { body := signed.payload 1
              tickedAt := 1
              visits := []
              now := 1 }] =
        .ok result := by
  have hCodec :
      ∀ frame seq,
        frame = signed ∧ seq = 1 →
          signedExternals.codec.RoundTrips
            (frame.message seq) := by
    intro frame seq hGiven
    rw [hGiven.1, hGiven.2]
    exact
      signedTable_roundTrips
        (List.mem_cons_of_mem _ List.mem_cons_self)
  refine
    (forwarded_frames_render_iff
        (fun frame seq => frame = signed ∧ seq = 1)
        hCodec).mpr ?_ 800 2 .online _ ?_
  · intro frame seq hGiven
    rw [hGiven.1]
    exact ⟨rfl, rfl, rfl⟩
  · intro input hInput text hText
    rw [List.mem_singleton.mp hInput] at hText
    exact
      ⟨signed, 1, ⟨rfl, rfl⟩,
        (signed.forwards_iff 1 text).mpr
          (List.mem_singleton.mp hText)⟩

/- The server also forwards a frame without a time, which
ends the client of user 2. -/
theorem bare_frame_ends_client :
    ChatFrame.Forwards forth 1 (forth.payload 1) ∧
      chatExternals.codec.RoundTrips (forth.message 1) ∧
        (Client.started 800 2 .online).failure?
            chatExternals.codec
            [.frame (chatArrival forth 1)] =
          some (.missingKey "time") := by
  refine
    ⟨(forth.forwards_iff 1 _).mpr rfl, ?_, by decide +kernel⟩
  apply chatTable_roundTrips
  change chatMessage 1 2 1 ∈ chatTable
  simp [chatTable]

end ClusterChat
