import ClusterChat.Library.NumberedCopies
import ClusterChat.Orderer.Batch
import ClusterChat.Orderer.Projection
import ClusterChat.Server.Database

/-
  The loop in which the client receives messages, translated
  from `main.cpp` of the client.

  Main declarations:
    * `Client.readTask` and `Client.readTaskHandler`
    * `Client.Turn.DisplaysOnArrival`
    * `Client.displaysOnArrival_iff`
-/

------------------------------------------------------------
-- The Loop
------------------------------------------------------------

namespace ClusterChat

/- `g_orderer` and `g_currentUser`. -/
structure Client where
  orderer : ConversationOrderer
  userId : Int
  state : UserState

namespace Client

/- A frame with the clock readings of its turn: for `tick`,
for the channels that it visits, and for `onMessage`. -/
structure Arrival where
  body : String
  tickedAt : TimePoint
  visits : Visits
  now : TimePoint

/-
  What one turn of the loop did: the effects of `tick`, the
  message that was handed to `onMessage`, if any, and the
  effects of that call.
-/
structure Turn where
  ticked : List Effect
  handed : Option Json
  shown : List Effect
  after : Client

/- `js["id"]` on a message: a missing member reads as null. -/
def member
    (js : Json)
    (key : String) : Json :=
  (js.find? key).getD .null

/- The branch for `LOGINOUT_MSG`: only the own one counts. -/
def loginoutMessage
    (client : Client)
    (js : Json) : Except JsonException Client := do
  let id ← (member js "id").getInt
  if id = client.userId then
    return { client with state := .offline }
  else
    let _ ← (member js "name").getString
    return client

/- A turn without a call of `onMessage`. -/
def quietTurn
    (ticked : List Effect)
    (after : Client) : Turn where
  ticked := ticked
  handed := none
  shown := []
  after := after

/- One turn of `readTaskHandler`. -/
def readTask
    (codec : JsonCodec)
    (client : Client)
    (arrival : Arrival) : Except JsonException Turn :=
  let ticked :=
    client.orderer.tick arrival.tickedAt arrival.visits
  let client := { client with orderer := ticked.1 }
  match codec.parse arrival.body with
  | none => .ok (quietTurn ticked.2 client)
  | some js => do
      let msgtype ← js.valueInt "msgid"
      if msgtype = EnMsgType.oneChatMsg.code ∨
          msgtype = EnMsgType.groupChatMsg.code then
        let received ←
          client.orderer.onMessage js arrival.now
        return (
          { ticked := ticked.2
            handed := some js
            shown := received.2
            after := { client with orderer := received.1 } } :
          Turn)
      else if msgtype = EnMsgType.loginoutMsg.code then
        let client ← client.loginoutMessage js
        return quietTurn ticked.2 client
      else
        return quietTurn ticked.2 client

/- `readTaskHandler` on the frames that arrive. -/
def readTaskHandler
    (codec : JsonCodec)
    (client : Client) :
    List Arrival → Except JsonException (List Turn)
| [] => return []
| arrival :: arrivals => do
    let turn ← client.readTask codec arrival
    let turns ← readTaskHandler codec turn.after arrivals
    return turn :: turns

/- A message of the conversation is displayed by the call
that receives it, and then nothing is pending. -/
def Turn.DisplaysOnArrival
    (conv : String)
    (turn : Turn) : Prop :=
  ∀ js seq,
    turn.handed = some js →
      js.numbered? = some (conv, seq) →
        Effect.emit js ∈ turn.shown ∧
          (turn.after.orderer.channels
            conv).pending.entries = []

------------------------------------------------------------
-- One Call of the Orderer
------------------------------------------------------------

/- Nothing of the conversation is pending. -/
structure Waiting
    (conv : String)
    (orderer : ConversationOrderer) : Prop where
  stamped :
    ConversationOrderer.AllStamped orderer.gapTimeoutMs
      orderer
  ordered : Channel.Ordered conv (orderer.channels conv)
  clear : (orderer.channels conv).pending.entries = []

theorem waiting_fresh
    (gapTimeoutMs : Int)
    (conv : String) :
    Waiting conv (ConversationOrderer.fresh gapTimeoutMs) where
  stamped :=
    ConversationOrderer.allStamped_fresh gapTimeoutMs
  ordered := Channel.ordered_default conv
  clear := rfl

variable {conv : String} {orderer : ConversationOrderer}

/- An event that the conversation's channel does not see. -/
theorem waiting_of_unselected
    (hWaiting : Waiting conv orderer)
    {event : OrdererEvent}
    (hIdle :
      Transducer.run Channel.step (orderer.channels conv)
          (ConversationOrderer.select orderer.gapTimeoutMs
            conv event) =
        (orderer.channels conv, [])) :
    Waiting conv (orderer.apply event).1 ∧
      (orderer.apply event).1.channels conv =
        orderer.channels conv := by
  rcases ConversationOrderer.apply_projects event
      hWaiting.stamped conv with
    ⟨hStamped, hChannel⟩
  have hSame :
      (orderer.apply event).1.channels conv =
        orderer.channels conv := by
    rw [hIdle] at hChannel
    exact (congrArg Prod.fst hChannel).symm
  refine ⟨?_, hSame⟩
  exact
    { stamped := hStamped.1.symm ▸ hStamped
      ordered := hSame.symm ▸ hWaiting.ordered
      clear := hSame.symm ▸ hWaiting.clear }

/- A channel without pending messages ignores `tick`. -/
theorem run_ticks_of_clear
    {ch : Channel}
    (hClear : ch.pending.entries = [])
    (gapTimeoutMs : Int)
    (now : TimePoint)
    (visits : Visits) :
    Transducer.run Channel.step ch
        (visits.map fun visit =>
          .tick gapTimeoutMs now visit.2) =
      (ch, []) := by
  have hTick :
      ∀ drainNow,
        ch.step (.tick gapTimeoutMs now drainNow) =
          (ch, []) := by
    intro drainNow
    unfold Channel.step Channel.tick
    dsimp only
    rw [if_pos hClear]
  induction visits with
  | nil => rfl
  | cons visit visits ih =>
      rw [List.map_cons, Transducer.run_cons, hTick]
      dsimp only
      rw [ih]
      rfl

theorem waiting_tick
    (hWaiting : Waiting conv orderer)
    (now : TimePoint)
    (visits : Visits) :
    Waiting conv (orderer.tick now visits).1 ∧
      (orderer.tick now visits).1.channels conv =
        orderer.channels conv := by
  have hIdle :
      Transducer.run Channel.step (orderer.channels conv)
          (ConversationOrderer.select orderer.gapTimeoutMs
            conv (.tick now visits)) =
        (orderer.channels conv, []) :=
    run_ticks_of_clear hWaiting.clear _ _ _
  exact waiting_of_unselected hWaiting hIdle

theorem waiting_other_message
    (hWaiting : Waiting conv orderer)
    {js : Json}
    (hOther : js.seqIn conv = none)
    (now : TimePoint) :
    Waiting conv (orderer.apply (.message js now)).1 ∧
      (orderer.apply (.message js now)).1.channels conv =
        orderer.channels conv := by
  apply waiting_of_unselected hWaiting
  simp [ConversationOrderer.select, hOther]

/- The message that is expected is displayed alone. -/
theorem waiting_expected
    (hWaiting : Waiting conv orderer)
    {js : Json}
    {seq : Nat}
    (hNumbered : js.numbered? = some (conv, seq))
    (hBound : seq < seqBound)
    (hExpected :
      (orderer.channels conv).initialized = true →
        seq = (orderer.channels conv).expect)
    (now : TimePoint) :
    Waiting conv (orderer.apply (.message js now)).1 ∧
      Effect.emit js ∈ (orderer.apply (.message js now)).2 ∧
        ((orderer.apply (.message js now)).1.channels
          conv).initialized = true ∧
          ((orderer.apply (.message js now)).1.channels
            conv).expect = seq + 1 := by
  have hStamped :=
    (ConversationOrderer.apply_projects (.message js now)
      hWaiting.stamped conv).1
  have hAdmits :
      Channel.Admits conv (.receive js seq now) :=
    ⟨hNumbered, hBound⟩
  have hNext := Channel.step_ordered hWaiting.ordered hAdmits
  rcases Channel.receive_expected hWaiting.ordered
      hWaiting.clear hAdmits hExpected with
    ⟨hShown, hEmpty, hExpect, hInitialized⟩
  have hStays := hStamped.1.symm ▸ hStamped
  have hApply :=
    ConversationOrderer.apply_numbered orderer now hNumbered
  have hChannel :
      (orderer.apply (.message js now)).1.channels conv =
        ((orderer.channels conv).step
          (.receive js seq now)).1 := by
    rw [hApply]
    exact ConversationOrderer.setChannel_self _ _ _
  rw [hChannel]
  refine
    ⟨{ stamped := hStays
       ordered := hChannel.symm ▸ hNext
       clear := hChannel.symm ▸ hEmpty },
      ?_, hInitialized, hExpect⟩
  rw [hApply, ← mem_emitted_iff]
  change
    js ∈ emitted
      ((orderer.channels conv).step (.receive js seq now)).2
  rw [hShown]
  exact List.mem_singleton.mpr rfl

/- Any other number is not displayed by its own call. -/
theorem not_emitted_of_unexpected
    {js : Json}
    {seq : Nat}
    (hNumbered : js.numbered? = some (conv, seq))
    (hInitialized :
      (orderer.channels conv).initialized = true)
    (hUnexpected : seq ≠ (orderer.channels conv).expect)
    (now : TimePoint) :
    Effect.emit js ∉ (orderer.apply (.message js now)).2 := by
  rw [ConversationOrderer.apply_numbered orderer now
    hNumbered]
  unfold Channel.receive Channel.startAt
  rw [if_pos hInitialized]
  dsimp only
  split
  · simp
  · simp

------------------------------------------------------------
-- The Whole Loop
------------------------------------------------------------

/- A turn on a chat message calls `onMessage` after `tick`. -/
theorem readTask_of_typed
    {codec : JsonCodec}
    {arrival : Arrival}
    {js : Json}
    (hParsed : codec.parse arrival.body = some js)
    {msgtype : Int}
    (hType : js.valueInt "msgid" = .ok msgtype)
    (hChat :
      msgtype = EnMsgType.oneChatMsg.code ∨
        msgtype = EnMsgType.groupChatMsg.code)
    (hString : js.ConvidIsString)
    (client : Client) :
    client.readTask codec arrival =
      .ok
        { ticked :=
            (client.orderer.tick arrival.tickedAt
              arrival.visits).2
          handed := some js
          shown :=
            ((client.orderer.tick arrival.tickedAt
              arrival.visits).1.apply
                (.message js arrival.now)).2
          after :=
            { client with
              orderer :=
                ((client.orderer.tick arrival.tickedAt
                  arrival.visits).1.apply
                    (.message js arrival.now)).1 } } := by
  have hCall :=
    ConversationOrderer.onMessage_eq_apply
      (client.orderer.tick arrival.tickedAt arrival.visits).1
      arrival.now hString
  unfold readTask
  dsimp only
  rw [hParsed]
  dsimp only
  rw [hType]
  dsimp only [bind, Except.bind]
  rw [if_pos hChat, hCall]
  rfl

/- A frame with a chat message that the orderer takes. -/
structure Brings
    (codec : JsonCodec)
    (arrival : Arrival)
    (js : Json) : Prop where
  parsed : codec.parse arrival.body = some js
  typed :
    ∃ msgtype : Int,
      js.valueInt "msgid" = .ok msgtype ∧
        (msgtype = EnMsgType.oneChatMsg.code ∨
          msgtype = EnMsgType.groupChatMsg.code)
  deliverable : js.Deliverable

/- A chat message is handed to the orderer after `tick`. -/
theorem readTask_of_brings
    {codec : JsonCodec}
    {arrival : Arrival}
    {js : Json}
    (hBrings : Brings codec arrival js)
    (client : Client) :
    ∃ turn,
      client.readTask codec arrival = .ok turn ∧
        turn.handed = some js ∧
          turn.shown =
            ((client.orderer.tick arrival.tickedAt
              arrival.visits).1.apply
                (.message js arrival.now)).2 ∧
            turn.after.orderer =
              ((client.orderer.tick arrival.tickedAt
                arrival.visits).1.apply
                  (.message js arrival.now)).1 := by
  rcases hBrings.typed with ⟨msgtype, hType, hChat⟩
  exact
    ⟨_,
      readTask_of_typed hBrings.parsed hType hChat
        hBrings.deliverable.1 client,
      rfl, rfl, rfl⟩

/-
  The number that comes next continues what the channel has
  displayed, and every other one continues the one before.
-/
def Continues
    (ch : Channel)
    (numbers : List Nat) : Prop :=
  (ch.initialized = true →
    ∀ n ∈ numbers.head?, n = ch.expect) ∧
    NumberedCopies.Consecutive numbers

/- Behind a displayed number. -/
theorem continues_behind_iff
    {ch : Channel}
    {seq : Nat}
    {numbers : List Nat}
    (hInitialized : ch.initialized = true)
    (hExpect : ch.expect = seq + 1) :
    Continues ch numbers ↔
      NumberedCopies.Consecutive (seq :: numbers) := by
  unfold Continues NumberedCopies.Consecutive
  rw [List.isChain_cons, hExpect]
  simp [hInitialized]

theorem readTaskHandler_cons
    {codec : JsonCodec}
    {client : Client}
    {arrival : Arrival}
    {arrivals : List Arrival}
    {turn : Turn}
    {turns : List Turn}
    (hTurn : client.readTask codec arrival = .ok turn)
    (hTurns :
      turn.after.readTaskHandler codec arrivals =
        .ok turns) :
    client.readTaskHandler codec (arrival :: arrivals) =
      .ok (turn :: turns) := by
  unfold readTaskHandler
  rw [hTurn]
  dsimp only [bind, Except.bind]
  rw [hTurns]
  rfl

/- Chat messages never throw. -/
theorem readTaskHandler_succeeds
    {codec : JsonCodec}
    {arrivals : List Arrival}
    {messages : List Json}
    (hBrings : List.Forall₂ (Brings codec) arrivals messages)
    (client : Client) :
    ∃ turns,
      client.readTaskHandler codec arrivals = .ok turns := by
  induction hBrings generalizing client with
  | nil => exact ⟨[], rfl⟩
  | cons hHead hTail ih =>
      rcases readTask_of_brings hHead client with
        ⟨turn, hTurn, _⟩
      rcases ih turn.after with ⟨turns, hTurns⟩
      exact ⟨turn :: turns, readTaskHandler_cons hTurn hTurns⟩

/-
  Chat messages are displayed on arrival exactly if their
  numbers continue what the channel has displayed.
-/
theorem readTaskHandler_displays_iff
    {codec : JsonCodec}
    {arrivals : List Arrival}
    {messages : List Json}
    (hBrings : List.Forall₂ (Brings codec) arrivals messages)
    {client : Client}
    (hWaiting : Waiting conv client.orderer) :
    ∃ turns,
      client.readTaskHandler codec arrivals = .ok turns ∧
        ((∀ turn ∈ turns, turn.DisplaysOnArrival conv) ↔
          Continues (client.orderer.channels conv)
            (numbersIn conv messages)) := by
  induction hBrings generalizing client with
  | nil =>
      refine ⟨[], rfl, iff_of_true (by simp) ?_⟩
      exact ⟨by simp, NumberedCopies.consecutive_nil⟩
  | @cons arrival js arrivals messages hHead hTail ih =>
      rcases readTask_of_brings hHead client with
        ⟨turn, hTurn, hHanded, hShown, hAfter⟩
      rcases waiting_tick hWaiting arrival.tickedAt
          arrival.visits with
        ⟨hTicked, hChannel⟩
      cases hSeq : js.seqIn conv with
      | none =>
          have hVacuous : turn.DisplaysOnArrival conv := by
            intro message seq hMessage hNumbered
            rw [hHanded] at hMessage
            rw [← Option.some.inj hMessage,
              ← Json.seqIn_eq_some_iff, hSeq] at hNumbered
            simp at hNumbered
          rcases waiting_other_message hTicked hSeq
              arrival.now with
            ⟨hStill, hSame⟩
          rw [← hAfter] at hStill hSame
          rcases ih hStill with ⟨turns, hTurns, hIff⟩
          refine
            ⟨turn :: turns,
              readTaskHandler_cons hTurn hTurns, ?_⟩
          have hNumbers :
              numbersIn conv (js :: messages) =
                numbersIn conv messages :=
            List.filterMap_cons_none hSeq
          rw [List.forall_mem_cons, hIff, hSame, hChannel,
            hNumbers]
          exact and_iff_right hVacuous
      | some seq =>
          have hNumbered := Json.seqIn_eq_some_iff.mp hSeq
          have hBound :=
            hHead.deliverable.2 conv seq hNumbered
          have hNumbers :
              numbersIn conv (js :: messages) =
                seq :: numbersIn conv messages :=
            List.filterMap_cons_some hSeq
          rw [hNumbers]
          by_cases hExpected :
              (client.orderer.channels conv).initialized =
                  true →
                seq = (client.orderer.channels conv).expect
          · rcases waiting_expected hTicked hNumbered hBound
                (hChannel.symm ▸ hExpected) arrival.now with
              ⟨hStill, hEmitted, hInitialized, hExpect⟩
            rw [← hAfter] at hStill hInitialized hExpect
            rw [← hShown] at hEmitted
            rcases ih hStill with ⟨turns, hTurns, hIff⟩
            refine
              ⟨turn :: turns,
                readTaskHandler_cons hTurn hTurns, ?_⟩
            have hDisplays :
                turn.DisplaysOnArrival conv := by
              intro message number hMessage _
              rw [hHanded] at hMessage
              rw [← Option.some.inj hMessage]
              exact ⟨hEmitted, hStill.clear⟩
            rw [List.forall_mem_cons, hIff,
              continues_behind_iff hInitialized hExpect]
            have hHead :
                ∀ n ∈ (seq :: numbersIn conv messages).head?,
                  n = seq := by
              simp
            constructor
            · rintro ⟨_, hConsecutive⟩
              refine ⟨?_, hConsecutive⟩
              intro hInit n hMember
              rw [hHead n hMember]
              exact hExpected hInit
            · rintro ⟨_, hConsecutive⟩
              exact ⟨hDisplays, hConsecutive⟩
          · rcases readTaskHandler_succeeds hTail turn.after
              with ⟨turns, hTurns⟩
            refine
              ⟨turn :: turns,
                readTaskHandler_cons hTurn hTurns,
                iff_of_false ?_ ?_⟩
            · intro hAll
              have hDisplays :=
                hAll turn List.mem_cons_self js seq hHanded
                  hNumbered
              rcases Classical.not_imp.mp hExpected with
                ⟨hInit, hUnexpected⟩
              rw [← hChannel] at hInit hUnexpected
              rw [hShown] at hDisplays
              exact
                not_emitted_of_unexpected hNumbered hInit
                  hUnexpected arrival.now hDisplays.1
            · rintro ⟨hFirst, _⟩
              apply hExpected
              intro hInit
              exact hFirst hInit seq rfl

end Client

end ClusterChat
