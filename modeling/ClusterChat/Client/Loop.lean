import ClusterChat.Client.Receive
import ClusterChat.Orderer.Guarantees

/-
  What one turn of the client's receive loop does to one
  conversation, and what holds of the orderer whenever a
  frame arrives.

  Main declarations:
    * `Client.chatMessage?`
    * `Client.moments`
    * `Client.Healthy` and `Client.healthy_moments`
    * `Client.readTask_of_chat`
-/

------------------------------------------------------------
-- Chat Frames
------------------------------------------------------------

namespace ClusterChat

namespace Client

variable {codec : JsonCodec}

/- The message of a chat frame, which goes to `onMessage`. -/
def chatMessage?
    (codec : JsonCodec)
    (body : String) : Option Json :=
  match codec.parse body with
  | none => none
  | some js =>
      match js.valueInt "msgid" with
      | .error _ => none
      | .ok msgtype =>
          if msgtype = EnMsgType.oneChatMsg.code ∨
              msgtype = EnMsgType.groupChatMsg.code then
            some js
          else
            none

/- The orderer when `tick` has returned. -/
def ticked
    (client : Client)
    (arrival : Arrival) : ConversationOrderer :=
  (client.orderer.tick arrival.tickedAt arrival.visits).1

/- A turn on a chat frame calls `onMessage` after `tick`. -/
theorem readTask_of_chat
    {arrival : Arrival}
    {js : Json}
    (hChat : chatMessage? codec arrival.body = some js)
    (hString : js.ConvidIsString)
    (client : Client) :
    ∃ turn,
      client.readTask codec arrival = .ok turn ∧
        turn.shown =
            ((client.ticked arrival).apply
              (.message js arrival.now)).2 ∧
          turn.after.orderer =
            ((client.ticked arrival).apply
              (.message js arrival.now)).1 := by
  unfold chatMessage? at hChat
  split at hChat
  · cases hChat
  · rename_i parsed hParse
    split at hChat
    · cases hChat
    · rename_i msgtype hType
      split at hChat
      · rename_i hCode
        cases hChat
        exact
          ⟨_, readTask_of_typed hParse hType hCode hString client,
            rfl, rfl⟩
      · cases hChat

theorem loginoutMessage_orderer
    {client after : Client}
    {js : Json}
    (hOk : client.loginoutMessage js = .ok after) :
    after.orderer = client.orderer := by
  unfold loginoutMessage at hOk
  cases hId : (member js "id").getInt with
  | error exception =>
      rw [hId] at hOk
      cases hOk
  | ok id =>
      rw [hId] at hOk
      dsimp only [bind, Except.bind] at hOk
      split at hOk
      · cases hOk
        rfl
      · cases hName : (member js "name").getString with
        | error exception =>
            rw [hName] at hOk
            cases hOk
        | ok name =>
            rw [hName] at hOk
            cases hOk
            rfl

/- A turn on any other frame leaves the orderer to `tick`. -/
theorem readTask_of_other
    {arrival : Arrival}
    (hOther : chatMessage? codec arrival.body = none)
    {client : Client}
    {turn : Turn}
    (hTurn : client.readTask codec arrival = .ok turn) :
    turn.after.orderer = client.ticked arrival := by
  unfold chatMessage? at hOther
  unfold readTask at hTurn
  dsimp only at hTurn
  split at hTurn
  · cases hTurn
    rfl
  · rename_i js hParse
    rw [hParse] at hOther
    dsimp only at hOther
    cases hType : js.valueInt "msgid" with
    | error exception =>
        rw [hType] at hTurn
        cases hTurn
    | ok msgtype =>
        rw [hType] at hOther hTurn
        dsimp only [bind, Except.bind] at hOther hTurn
        by_cases hCode :
            msgtype = EnMsgType.oneChatMsg.code ∨
              msgtype = EnMsgType.groupChatMsg.code
        · rw [if_pos hCode] at hOther
          cases hOther
        · rw [if_neg hCode] at hTurn
          split at hTurn
          · rename_i hLoginout
            have hAfter :=
              fun after =>
                @loginoutMessage_orderer
                  { client with
                    orderer := client.ticked arrival }
                  after js
            cases hMessage :
                { client with
                  orderer :=
                    client.ticked arrival }.loginoutMessage
                    js with
            | error exception =>
                unfold ticked at hMessage
                rw [hMessage] at hTurn
                cases hTurn
            | ok after =>
                have hSame := hAfter after hMessage
                unfold ticked at hMessage
                rw [hMessage] at hTurn
                cases hTurn
                exact hSame
          · cases hTurn
            rfl

------------------------------------------------------------
-- The Orderer When a Frame Arrives
------------------------------------------------------------

/- Every channel keeps the orderer's invariant. -/
structure Healthy (orderer : ConversationOrderer) : Prop where
  stamped :
    ConversationOrderer.AllStamped orderer.gapTimeoutMs
      orderer
  ordered :
    ∀ conv, Channel.Ordered conv (orderer.channels conv)

theorem healthy_fresh (gapTimeoutMs : Int) :
    Healthy (ConversationOrderer.fresh gapTimeoutMs) where
  stamped :=
    ConversationOrderer.allStamped_fresh gapTimeoutMs
  ordered := Channel.ordered_default

variable {orderer : ConversationOrderer}

theorem admits_of_deliverable
    {event : OrdererEvent}
    (hDeliverable :
      ∀ js, event.message? = some js → js.Deliverable)
    (gapTimeoutMs : Int)
    (conv : String) :
    ∀ selected ∈
        ConversationOrderer.select gapTimeoutMs conv event,
      Channel.Admits conv selected := by
  intro selected hSelected
  have hBound :
      ∀ seq ∈ numbersIn conv (receivedMessages [event]),
        seq < seqBound := by
    apply ConversationOrderer.numbers_bounded
    intro js hReceived
    rcases List.mem_filterMap.mp hReceived with
      ⟨source, hSource, hMessage⟩
    rw [List.mem_singleton.mp hSource] at hMessage
    exact hDeliverable js hMessage
  have hAdmits :=
    @ConversationOrderer.select_admits gapTimeoutMs conv
      [event] hBound
  apply hAdmits
  simpa using hSelected

/- A deliverable event preserves the invariant. -/
theorem healthy_apply
    (hHealthy : Healthy orderer)
    {event : OrdererEvent}
    (hDeliverable :
      ∀ js, event.message? = some js → js.Deliverable) :
    Healthy (orderer.apply event).1 := by
  have hStamped :=
    (ConversationOrderer.apply_projects event
      hHealthy.stamped "").1
  refine ⟨hStamped.1.symm ▸ hStamped, ?_⟩
  intro conv
  have hStep :=
    (ConversationOrderer.apply_projects event
      hHealthy.stamped conv).2
  have hOrdered :=
    Channel.run_ordered
      (admits_of_deliverable hDeliverable
        orderer.gapTimeoutMs conv)
      (hHealthy.ordered conv)
  rw [hStep] at hOrdered
  exact hOrdered

theorem healthy_ticked
    {client : Client}
    (hHealthy : Healthy client.orderer)
    (arrival : Arrival) :
    Healthy (client.ticked arrival) := by
  have hQuiet :
      ∀ js,
        (OrdererEvent.tick arrival.tickedAt
            arrival.visits).message? = some js →
          js.Deliverable := by
    intro js hMessage
    cases hMessage
  exact healthy_apply hHealthy hQuiet

/- Chat frames carry what the server guarantees. -/
def ChatDeliverable
    (codec : JsonCodec)
    (arrival : Arrival) : Prop :=
  ∀ js,
    chatMessage? codec arrival.body = some js →
      js.Deliverable

theorem healthy_readTask
    {client : Client}
    (hHealthy : Healthy client.orderer)
    {arrival : Arrival}
    (hDeliverable : ChatDeliverable codec arrival)
    {turn : Turn}
    (hTurn : client.readTask codec arrival = .ok turn) :
    Healthy turn.after.orderer := by
  have hTicked := healthy_ticked hHealthy arrival
  cases hChat : chatMessage? codec arrival.body with
  | none =>
      rw [readTask_of_other hChat hTurn]
      exact hTicked
  | some js =>
      have hMessage := hDeliverable js hChat
      rcases readTask_of_chat hChat hMessage.1 client with
        ⟨other, hOther, _, hAfter⟩
      rw [hTurn] at hOther
      cases hOther
      rw [hAfter]
      apply healthy_apply hTicked
      intro received hReceived
      cases hReceived
      exact hMessage

theorem readTask_gapTimeoutMs
    {client : Client}
    (hHealthy : Healthy client.orderer)
    {arrival : Arrival}
    (hDeliverable : ChatDeliverable codec arrival)
    {turn : Turn}
    (hTurn : client.readTask codec arrival = .ok turn) :
    turn.after.orderer.gapTimeoutMs =
      client.orderer.gapTimeoutMs := by
  have hTicked :
      (client.ticked arrival).gapTimeoutMs =
        client.orderer.gapTimeoutMs :=
    (ConversationOrderer.apply_projects
      (.tick arrival.tickedAt arrival.visits)
      hHealthy.stamped "").1.1
  cases hChat : chatMessage? codec arrival.body with
  | none =>
      rw [readTask_of_other hChat hTurn]
      exact hTicked
  | some js =>
      have hMessage := hDeliverable js hChat
      rcases readTask_of_chat hChat hMessage.1 client with
        ⟨other, hOther, _, hAfter⟩
      rw [hTurn] at hOther
      cases hOther
      rw [hAfter, ← hTicked]
      exact
        (ConversationOrderer.apply_projects
          (.message js arrival.now)
          (healthy_ticked hHealthy arrival).stamped "").1.1

/-
  A run of calls of the orderer on deliverable messages, such
  as the offline batch of a login, keeps the invariant.
-/
theorem healthy_runCalls
    {gapTimeoutMs : Int}
    {calls : List Call}
    (hDeliverable :
      ∀ js ∈ calls.flatMap Call.messages, js.Deliverable)
    {effects : List Effect}
    (hRun :
      (ConversationOrderer.fresh gapTimeoutMs).runCalls
          calls =
        .ok (orderer, effects)) :
    Healthy orderer := by
  have hString :
      ∀ js ∈ calls.flatMap Call.messages,
        js.ConvidIsString :=
    fun js hMember => (hDeliverable js hMember).1
  rw [ConversationOrderer.runCalls_eq_run _ hString]
    at hRun
  have hOrderer :=
    congrArg Prod.fst (Except.ok.inj hRun)
  rw [← ConversationOrderer.receivedMessages_calls]
    at hDeliverable
  change _ = orderer at hOrderer
  rw [← hOrderer]
  apply
    Transducer.run_invariant
      (fun event : OrdererEvent =>
        ∀ js, event.message? = some js → js.Deliverable)
      Healthy
      (fun _ _ hEvent hState => healthy_apply hState hEvent)
      ?_ (healthy_fresh gapTimeoutMs)
  intro event hEvent js hMessage
  apply hDeliverable
  exact List.mem_filterMap.mpr ⟨event, hEvent, hMessage⟩

/-
  The frames of a run, each with the client as it is when
  `recvFrame` returns the frame.
-/
def moments
    (codec : JsonCodec)
    (client : Client) : List Arrival → List (Client × Arrival)
| [] => []
| arrival :: arrivals =>
    (client, arrival) ::
      match client.readTask codec arrival with
      | .error _ => []
      | .ok turn => moments codec turn.after arrivals

/- The invariant holds whenever a frame arrives. -/
theorem healthy_moments
    {client : Client}
    (hHealthy : Healthy client.orderer)
    {arrivals : List Arrival}
    (hDeliverable :
      ∀ arrival ∈ arrivals, ChatDeliverable codec arrival) :
    ∀ moment ∈ moments codec client arrivals,
      Healthy moment.1.orderer ∧ moment.2 ∈ arrivals := by
  induction arrivals generalizing client with
  | nil => simp [moments]
  | cons arrival arrivals ih =>
      intro moment hMoment
      unfold moments at hMoment
      rcases List.mem_cons.mp hMoment with hNow | hLater
      · rw [hNow]
        exact ⟨hHealthy, List.mem_cons_self⟩
      · cases hTurn : client.readTask codec arrival with
        | error exception => simp [hTurn] at hLater
        | ok turn =>
            rw [hTurn] at hLater
            have hNext :=
              healthy_readTask hHealthy
                (hDeliverable arrival List.mem_cons_self)
                hTurn
            rcases
                ih hNext
                  (fun other hOther =>
                    hDeliverable other
                      (List.mem_cons_of_mem _ hOther))
                  moment hLater with
              ⟨hState, hMember⟩
            exact ⟨hState, List.mem_cons_of_mem _ hMember⟩

------------------------------------------------------------
-- One Channel
------------------------------------------------------------

/- `tick` visits every channel that is in use once. -/
theorem ticked_channel
    {client : Client}
    (hHealthy : Healthy client.orderer)
    {arrival : Arrival}
    (hVisits : client.orderer.Enumerates arrival.visits)
    {conv : String}
    (hInitialized :
      (client.orderer.channels conv).initialized = true) :
    ∃ drainNow,
      (conv, drainNow) ∈ arrival.visits ∧
        (client.ticked arrival).channels conv =
          ((client.orderer.channels conv).tick
            client.orderer.gapTimeoutMs arrival.tickedAt
            drainNow).1 := by
  rcases
      ConversationOrderer.visit_once hVisits.1
        ((hVisits.2 conv).mpr hInitialized) with
    ⟨drainNow, hOne⟩
  have hListed : (conv, drainNow) ∈ arrival.visits := by
    apply List.mem_of_mem_filter
    rw [hOne]
    exact List.mem_singleton_self _
  have hStep :=
    (ConversationOrderer.apply_projects
      (.tick arrival.tickedAt arrival.visits)
      hHealthy.stamped conv).2
  simp only [ConversationOrderer.select] at hStep
  rw [hOne, List.map_singleton, Transducer.run_singleton]
    at hStep
  exact
    ⟨drainNow, hListed, (congrArg Prod.fst hStep).symm⟩

------------------------------------------------------------
-- Runs in One Conversation
------------------------------------------------------------

/- The channel table holds this conversation at most. -/
def OnlyKnows
    (conv : String)
    (orderer : ConversationOrderer) : Prop :=
  ∀ other,
    other ≠ conv →
      (orderer.channels other).initialized = false

theorem enumerates_of_onlyKnows
    {conv : String}
    (hOnly : OnlyKnows conv orderer)
    {visits : Visits}
    (hVisits :
      visits.map Prod.fst =
        if (orderer.channels conv).initialized then
          [conv]
        else
          []) :
    orderer.Enumerates visits := by
  unfold ConversationOrderer.Enumerates
  rw [hVisits]
  constructor
  · split <;> simp
  · intro other
    by_cases hOther : other = conv
    · rw [hOther]
      split <;> simp_all
    · rw [hOnly other hOther]
      split <;> simp [hOther]

/- Each frame brings a message of the conversation, and
`tick` visits its channel from the second frame on. -/
def SingleRun
    (codec : JsonCodec)
    (conv : String)
    (known : Bool) : List Arrival → Prop
| [] => True
| arrival :: arrivals =>
    arrival.visits.map Prod.fst =
        (if known then [conv] else []) ∧
      (∃ js seq,
        chatMessage? codec arrival.body = some js ∧
          js.numbered? = some (conv, seq) ∧
            seq < seqBound) ∧
        SingleRun codec conv true arrivals

theorem chatDeliverable_of_single
    {conv : String}
    {known : Bool}
    {arrivals : List Arrival}
    (hSingle : SingleRun codec conv known arrivals) :
    ∀ arrival ∈ arrivals, ChatDeliverable codec arrival := by
  induction arrivals generalizing known with
  | nil => simp
  | cons arrival arrivals ih =>
      rcases hSingle with
        ⟨_, ⟨js, seq, hChat, hNumbered, hBound⟩, hRest⟩
      intro other hOther
      rcases List.mem_cons.mp hOther with hHead | hTail
      · intro message hMessage
        rw [hHead, hChat] at hMessage
        cases hMessage
        exact Json.deliverable_of_numbered hNumbered hBound
      · exact ih hRest other hTail

theorem onlyKnows_readTask
    {conv : String}
    {client : Client}
    (hHealthy : Healthy client.orderer)
    (hOnly : OnlyKnows conv client.orderer)
    {arrival : Arrival}
    (hVisits :
      ∀ other ∈ arrival.visits.map Prod.fst, other = conv)
    {js : Json}
    {seq : Nat}
    (hChat : chatMessage? codec arrival.body = some js)
    (hNumbered : js.numbered? = some (conv, seq))
    (hBound : seq < seqBound) :
    ∃ turn,
      client.readTask codec arrival = .ok turn ∧
        OnlyKnows conv turn.after.orderer ∧
          (turn.after.orderer.channels conv).initialized =
            true := by
  rcases
      readTask_of_chat hChat
        (Json.convidIsString_of_numbered hNumbered)
        client with
    ⟨turn, hTurn, _, hAfter⟩
  rw [ConversationOrderer.apply_numbered _ _ hNumbered]
    at hAfter
  refine ⟨turn, hTurn, ?_, ?_⟩
  · intro other hOther
    have hNotVisited :
        other ∉ arrival.visits.map Prod.fst :=
      fun hVisited => hOther (hVisits other hVisited)
    rw [hAfter,
      ConversationOrderer.setChannel_of_ne _ hOther]
    unfold ticked ConversationOrderer.tick
    rw [ConversationOrderer.forChannels_of_not_mem _ _
      hNotVisited]
    exact hOnly other hOther
  · rw [hAfter, ConversationOrderer.setChannel_self]
    have hOutcome :=
      @Channel.receive_outcome conv
        ((client.ticked arrival).channels conv)
        ((healthy_ticked hHealthy arrival).ordered conv)
        js seq arrival.now hBound
    generalize
      ((client.ticked arrival).channels conv).receive js
        seq arrival.now = result at hOutcome ⊢
    cases hOutcome with
    | idle hNoArrival => cases hNoArrival
    | discarded hInitialized => exact hInitialized
    | buffered hInitialized => exact hInitialized
    | delivered _ _ hInitialized => exact hInitialized
    | released hNoArrival => cases hNoArrival

/- In such a run `tick` always visits the whole table. -/
theorem enumerates_of_single
    {conv : String}
    {client : Client}
    (hHealthy : Healthy client.orderer)
    (hOnly : OnlyKnows conv client.orderer)
    {arrivals : List Arrival}
    (hSingle :
      SingleRun codec conv
        (client.orderer.channels conv).initialized
        arrivals) :
    ∀ moment ∈ moments codec client arrivals,
      moment.1.orderer.Enumerates moment.2.visits := by
  induction arrivals generalizing client with
  | nil => simp [moments]
  | cons arrival arrivals ih =>
      have hDeliverable :=
        chatDeliverable_of_single hSingle arrival
          List.mem_cons_self
      rcases hSingle with
        ⟨hVisits, ⟨js, seq, hChat, hNumbered, hBound⟩, hRest⟩
      have hOwn :
          ∀ other ∈ arrival.visits.map Prod.fst,
            other = conv := by
        intro other hOther
        rw [hVisits] at hOther
        split at hOther <;> simp_all
      rcases
          onlyKnows_readTask hHealthy hOnly hOwn hChat
            hNumbered hBound with
        ⟨turn, hTurn, hNextOnly, hNextInitialized⟩
      intro moment hMoment
      unfold moments at hMoment
      rcases List.mem_cons.mp hMoment with hNow | hLater
      · rw [hNow]
        exact enumerates_of_onlyKnows hOnly hVisits
      · rw [hTurn] at hLater
        rw [← hNextInitialized] at hRest
        exact
          ih (healthy_readTask hHealthy hDeliverable hTurn)
            hNextOnly hRest moment hLater

end Client

end ClusterChat
