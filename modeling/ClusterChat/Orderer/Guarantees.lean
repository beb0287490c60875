import ClusterChat.Orderer.Projection
import ClusterChat.Orderer.ChannelRun

/-
  What the orderer guarantees over whole runs.

  Messages of a conversation are displayed in ascending order
  of their numbers.  Without ticks and batches, every arrival
  order of consecutive numbers is displayed in sent order.
  Every number received is displayed once, pending, or came
  too late.

  Main declarations:
    * `ConversationOrderer.calls_display_ascending`
    * `ConversationOrderer.messages_restore_order`
    * `ConversationOrderer.calls_account_for_numbers`
-/

------------------------------------------------------------
-- From the Orderer to One Channel
------------------------------------------------------------

namespace ClusterChat

namespace ConversationOrderer

/- Only visible effects count in a conversation. -/
theorem numbersIn_emitted_visible
    (conv : String)
    (log : List Effect) :
    numbersIn conv (emitted (log.filter (visible conv))) =
      numbersIn conv (emitted log) := by
  induction log with
  | nil => rfl
  | cons effect log ih =>
      have hSplit :
          ∀ rest : List Effect,
            numbersIn conv (emitted (effect :: rest)) =
              numbersIn conv (emitted [effect]) ++
                numbersIn conv (emitted rest) := by
        intro rest
        rw [← numbersIn_append, ← emitted_append]
        rfl
      by_cases hVisible : visible conv effect = true
      · rw [List.filter_cons_of_pos hVisible, hSplit, ih,
          ← hSplit]
      · have hNone :
            numbersIn conv (emitted [effect]) = [] := by
          cases effect with
          | emit js =>
              simpa [visible, Effect.message, numbersIn]
                using hVisible
          | discard js => rfl
          | expire js => rfl
        rw [List.filter_cons_of_neg hVisible, hSplit,
          hNone, ih, List.nil_append]

/- Events of a channel that deliverable messages make. -/
theorem select_admits
    {gapTimeoutMs : Int}
    {conv : String}
    {events : List OrdererEvent}
    (hBound :
      ∀ seq ∈ numbersIn conv (receivedMessages events),
        seq < seqBound) :
    ∀ event ∈ events.flatMap (select gapTimeoutMs conv),
      Channel.Admits conv event := by
  intro event hEvent
  rcases List.mem_flatMap.mp hEvent with
    ⟨source, hSource, hSelected⟩
  cases source with
  | message js now =>
      cases hSeq : js.seqIn conv with
      | none => simp [select, hSeq] at hSelected
      | some seq =>
          have hReceived : js ∈ receivedMessages events :=
            List.mem_filterMap.mpr ⟨_, hSource, rfl⟩
          have hNumbered :=
            Json.seqIn_eq_some_iff.mp hSeq
          have hSelf : event = .receive js seq now := by
            simpa [select, hSeq] using hSelected
          rw [hSelf]
          refine ⟨hNumbered, ?_⟩
          apply hBound
          exact mem_numbersIn_iff.mpr
            ⟨js, hReceived, hNumbered⟩
  | tick now visits =>
      rcases List.mem_map.mp hSelected with
        ⟨visit, _, hMade⟩
      rw [← hMade]
      trivial
  | flush visits =>
      rcases List.mem_map.mp hSelected with
        ⟨visit, _, hMade⟩
      rw [← hMade]
      trivial

theorem numbers_bounded
    {conv : String}
    {messages : List Json}
    (hDeliverable : ∀ js ∈ messages, js.Deliverable) :
    ∀ seq ∈ numbersIn conv messages, seq < seqBound := by
  intro seq hSeq
  rcases mem_numbersIn_iff.mp hSeq with
    ⟨js, hMember, hNumbered⟩
  exact (hDeliverable js hMember).2 conv seq hNumbered

/- The numbers displayed are those its channel displays. -/
theorem displayed_eq_channel
    (gapTimeoutMs : Int)
    (events : List OrdererEvent)
    (conv : String) :
    numbersIn conv
        (emitted
          ((fresh gapTimeoutMs).runFrom events).2) =
      numbersIn conv
        (emitted
          (Channel.runFresh
            (events.flatMap
              (select gapTimeoutMs conv))).2) := by
  rw [run_projects, numbersIn_emitted_visible]

/- A message that reaches a channel was received. -/
theorem received_of_arrived
    {gapTimeoutMs : Int}
    {conv : String}
    {events : List OrdererEvent}
    {seq : Nat}
    {js : Json}
    (hArrived :
      Channel.Arrived seq js
        (events.flatMap (select gapTimeoutMs conv))) :
    js ∈ receivedMessages events ∧
      js.numbered? = some (conv, seq) := by
  rcases hArrived with ⟨event, hEvent, hArrival⟩
  rcases List.mem_flatMap.mp hEvent with
    ⟨source, hSource, hSelected⟩
  cases source with
  | message received now =>
      cases hSeq : received.seqIn conv with
      | none => simp [select, hSeq] at hSelected
      | some number =>
          have hSelf :
              event = .receive received number now := by
            simpa [select, hSeq] using hSelected
          rw [hSelf] at hArrival
          simp only [ChannelEvent.arrival?,
            Option.some.injEq, Prod.mk.injEq] at hArrival
          rcases hArrival with ⟨hNumber, hJs⟩
          rw [← hNumber, ← hJs]
          refine ⟨?_, Json.seqIn_eq_some_iff.mp hSeq⟩
          exact List.mem_filterMap.mpr ⟨_, hSource, rfl⟩
  | tick now visits =>
      rcases List.mem_map.mp hSelected with
        ⟨visit, _, hMade⟩
      simp [← hMade, ChannelEvent.arrival?] at hArrival
  | flush visits =>
      rcases List.mem_map.mp hSelected with
        ⟨visit, _, hMade⟩
      simp [← hMade, ChannelEvent.arrival?] at hArrival

/- A received message of a conversation reaches its
channel. -/
theorem arrived_of_received
    (gapTimeoutMs : Int)
    {conv : String}
    {events : List OrdererEvent}
    {seq : Nat}
    {js : Json}
    (hReceived : js ∈ receivedMessages events)
    (hNumbered : js.numbered? = some (conv, seq)) :
    Channel.Arrived seq js
      (events.flatMap (select gapTimeoutMs conv)) := by
  rcases List.mem_filterMap.mp hReceived with
    ⟨source, hSource, hMessage⟩
  cases source with
  | message received now =>
      have hJs : received = js := Option.some.inj hMessage
      subst hJs
      refine ⟨.receive received seq now, ?_, rfl⟩
      apply List.mem_flatMap.mpr
      refine ⟨_, hSource, ?_⟩
      simp [select, Json.seqIn_eq_some_iff.mpr hNumbered]
  | tick now visits =>
      simp [OrdererEvent.message?] at hMessage
  | flush visits =>
      simp [OrdererEvent.message?] at hMessage

/- A message displayed in a conversation is displayed by its
channel. -/
theorem displayed_by_channel
    {gapTimeoutMs : Int}
    {events : List OrdererEvent}
    {js : Json}
    {conv : String}
    {seq : Nat}
    (hNumbered : js.numbered? = some (conv, seq)) :
    js ∈ emitted ((fresh gapTimeoutMs).runFrom events).2 ↔
      js ∈ emitted
        (Channel.runFresh
          (events.flatMap (select gapTimeoutMs conv))).2 := by
  rw [run_projects, mem_emitted_iff, mem_emitted_iff]
  have hVisible : visible conv (Effect.emit js) = true :=
    visible_of_belongsTo ⟨seq, hNumbered⟩
  constructor
  · intro hDisplayed
    exact List.mem_filter.mpr ⟨hDisplayed, hVisible⟩
  · intro hFiltered
    exact List.mem_of_mem_filter hFiltered

/- A displayed message was received. -/
theorem received_of_displayed
    {gapTimeoutMs : Int}
    {events : List OrdererEvent}
    {js : Json}
    (hDisplayed :
      js ∈ emitted
        ((fresh gapTimeoutMs).runFrom events).2) :
    js ∈ receivedMessages events := by
  rcases run_effects gapTimeoutMs events _
      (mem_emitted_iff.mp hDisplayed) with
    ⟨conv, seq, hNumbered⟩ | ⟨other, hReceived, hEmit⟩
  · have hShown :=
      (displayed_by_channel hNumbered).mp hDisplayed
    rcases (Channel.run_provenance _).2 js hShown with
      ⟨number, hArrived⟩
    exact (received_of_arrived hArrived).1
  · rw [Effect.emit.inj hEmit]
    exact hReceived

------------------------------------------------------------
-- Ascending Display
------------------------------------------------------------

/- A minimal chat message, for the examples of runs. -/
def numberedMessage
    (conv : String)
    (seq : Nat) : Json :=
  .object
    [(msgFieldConvid, .string conv),
      (msgFieldSeq, .unsigned seq)]

theorem numbered?_numberedMessage
    (conv : String)
    (seq : Nat) :
    (numberedMessage conv seq).numbered? =
      some (conv, seq) := by
  simp [numberedMessage, Json.numbered?, Json.find?,
    JsonObject.find?, msgFieldConvid, msgFieldSeq]

theorem deliverable_numberedMessage
    (conv : String)
    {seq : Nat}
    (hBound : seq < seqBound) :
    (numberedMessage conv seq).Deliverable :=
  Json.deliverable_of_numbered
    (numbered?_numberedMessage conv seq) hBound

/-
  A run with a duplicate, a timeout and a batch, in two
  conversations.
-/
def exampleCalls : List Call :=
  [.onMessage (numberedMessage "p1_2" 3) 10,
    .onMessage (numberedMessage "p1_2" 5) 20,
    .onMessage (numberedMessage "g7" 1) 25,
    .tick 4000000000 [("g7", 30), ("p1_2", 31)],
    .onMessage (numberedMessage "p1_2" 4) 40,
    .onOfflineBatch
      [(numberedMessage "p1_2" 9, 50),
        (numberedMessage "p1_2" 7, 51)]
      [("p1_2", 60), ("g7", 61)]]

theorem deliverable_exampleCalls :
    ∀ js ∈ exampleCalls.flatMap Call.messages,
      js.Deliverable := by
  intro js hMember
  have hMessage :
      ∃ conv seq,
        seq < 10 ∧ js = numberedMessage conv seq := by
    simp only [exampleCalls, Call.messages,
      List.flatMap_cons, List.flatMap_nil, List.map_cons,
      List.map_nil, List.cons_append, List.nil_append,
      List.mem_cons, List.not_mem_nil, or_false] at hMember
    rcases hMember with h | h | h | h | h | h <;>
      exact ⟨_, _, by decide, h⟩
  rcases hMessage with ⟨conv, seq, hSmall, hJs⟩
  rw [hJs]
  apply deliverable_numberedMessage
  unfold seqBound
  omega

/-
  Over any run of calls, the numbers displayed in each
  conversation are strictly increasing.
-/
theorem calls_display_ascending
    (gapTimeoutMs : Int)
    {calls : List Call}
    (hDeliverable :
      ∀ js ∈ calls.flatMap Call.messages, js.Deliverable) :
    ∃ orderer log,
      (fresh gapTimeoutMs).runCalls calls =
          .ok (orderer, log) ∧
        ∀ conv,
          (numbersIn conv (emitted log)).Pairwise
            (· < ·) := by
  have hRun :=
    runCalls_eq_run (fresh gapTimeoutMs)
      (fun js hMember => (hDeliverable js hMember).1)
  refine ⟨_, _, hRun, ?_⟩
  intro conv
  rw [displayed_eq_channel]
  have hBound :
      ∀ seq ∈ numbersIn conv
          (receivedMessages (calls.flatMap Call.events)),
        seq < seqBound := by
    rw [receivedMessages_calls]
    exact numbers_bounded hDeliverable
  exact
    (Channel.run_numbers_sorted (select_admits hBound)).1

theorem exampleCalls_display_ascending :
    ∃ orderer log,
      (fresh 3000).runCalls exampleCalls =
          .ok (orderer, log) ∧
        ∀ conv,
          (numbersIn conv (emitted log)).Pairwise
            (· < ·) :=
  calls_display_ascending 3000 deliverable_exampleCalls

------------------------------------------------------------
-- Restoring the Sent Order
------------------------------------------------------------

/- The calls that hand over the messages one by one. -/
abbrev messageCalls
    (messages : List (Json × TimePoint)) : List Call :=
  messages.map fun m => .onMessage m.1 m.2

theorem events_messageCalls
    (messages : List (Json × TimePoint)) :
    (messageCalls messages).flatMap Call.events =
      messages.map fun m => .message m.1 m.2 := by
  induction messages with
  | nil => rfl
  | cons m messages ih =>
      unfold messageCalls at ih ⊢
      rw [List.map_cons, List.flatMap_cons, ih]
      rfl

theorem receivedMessages_messageCalls
    (messages : List (Json × TimePoint)) :
    receivedMessages
        ((messageCalls messages).flatMap Call.events) =
      messages.map Prod.fst := by
  rw [events_messageCalls]
  unfold receivedMessages
  rw [List.filterMap_map]
  simp [OrdererEvent.message?, Function.comp_def]

/- A run of messages brings one arrival for each number. -/
theorem arrivals_messageCalls
    (gapTimeoutMs : Int)
    (conv : String)
    (messages : List (Json × TimePoint)) :
    (((messageCalls messages).flatMap Call.events).flatMap
        (select gapTimeoutMs conv)).map
          (fun event => event.arrival?.map Prod.fst) =
      (numbersIn conv (messages.map Prod.fst)).map some := by
  rw [events_messageCalls]
  induction messages with
  | nil => rfl
  | cons m messages ih =>
      rw [List.map_cons, List.flatMap_cons, List.map_append,
        ih, List.map_cons]
      unfold numbersIn
      cases hSeq : m.1.seqIn conv with
      | none =>
          rw [List.filterMap_cons_none hSeq]
          simp [select, hSeq]
      | some seq =>
          rw [List.filterMap_cons_some hSeq]
          simp [select, hSeq, ChannelEvent.arrival?]

/-
  However the messages numbered `start .. start + count`
  arrive, with `start` first, with repetitions, and among
  messages of other conversations, they are displayed once
  each and in this order.
-/
theorem messages_restore_order
    (gapTimeoutMs : Int)
    (conv : String)
    {start count : Nat}
    (hBound : start + count < seqBound)
    {messages : List (Json × TimePoint)}
    (hString : ∀ m ∈ messages, m.1.ConvidIsString)
    (hFirst :
      (numbersIn conv (messages.map Prod.fst)).head? =
        some start)
    (hEach :
      ∀ seq,
        start ≤ seq → seq ≤ start + count →
          seq ∈ numbersIn conv (messages.map Prod.fst))
    (hOnly :
      ∀ seq ∈ numbersIn conv (messages.map Prod.fst),
        start ≤ seq ∧ seq ≤ start + count) :
    ∃ orderer log,
      (fresh gapTimeoutMs).runCalls
            (messageCalls messages) = .ok (orderer, log) ∧
        numbersIn conv (emitted log) =
          List.range' start (count + 1) ∧
        (∀ js ∈ emitted log,
          ∀ seq, js.numbered? = some (conv, seq) →
            js ∈ messages.map Prod.fst) ∧
        (orderer.channels conv).pending.entries = [] ∧
        (orderer.channels conv).expect =
          start + count + 1 := by
  have hReceived := receivedMessages_messageCalls messages
  have hRun :
      (fresh gapTimeoutMs).runCalls
          (messageCalls messages) =
        .ok ((fresh gapTimeoutMs).runFrom
          ((messageCalls messages).flatMap Call.events)) := by
    apply runCalls_eq_run
    rw [← receivedMessages_calls, hReceived]
    intro js hMember
    rcases List.mem_map.mp hMember with ⟨m, hM, rfl⟩
    exact hString m hM
  refine ⟨_, _, hRun, ?_⟩
  have hProjects :=
    run_projects gapTimeoutMs
      ((messageCalls messages).flatMap Call.events) conv
  have hArrivals :=
    arrivals_messageCalls gapTimeoutMs conv messages
  have hAdmits :
      ∀ event ∈
          ((messageCalls messages).flatMap
            Call.events).flatMap (select gapTimeoutMs conv),
        Channel.Admits conv event := by
    apply select_admits
    rw [hReceived]
    intro seq hSeq
    have hUpper := (hOnly seq hSeq).2
    omega
  have hArrivedEach :
      ∀ seq,
        start ≤ seq → seq ≤ start + count →
          ∃ js,
            Channel.Arrived seq js
              (((messageCalls messages).flatMap
                Call.events).flatMap
                  (select gapTimeoutMs conv)) := by
    intro seq hLower hUpper
    rcases mem_numbersIn_iff.mp (hEach seq hLower hUpper)
      with ⟨js, hMember, hNumbered⟩
    rw [← hReceived] at hMember
    exact
      ⟨js, arrived_of_received gapTimeoutMs hMember
        hNumbered⟩
  have hDisplayed :=
    displayed_eq_channel gapTimeoutMs
      ((messageCalls messages).flatMap Call.events) conv
  generalize
    ((messageCalls messages).flatMap Call.events).flatMap
      (select gapTimeoutMs conv) = events at *
  have hNumbers :
      ∀ event ∈ events,
        ∃ seq message,
          event.arrival? = some (seq, message) ∧
            seq ≤ start + count := by
    intro event hEvent
    have hMapped := List.mem_map_of_mem
      (f := fun event : ChannelEvent =>
        event.arrival?.map Prod.fst) hEvent
    rw [hArrivals] at hMapped
    rcases List.mem_map.mp hMapped with
      ⟨seq, hSeq, hArrival⟩
    rcases Option.map_eq_some_iff.mp hArrival.symm with
      ⟨entry, hEntry, hNumber⟩
    refine ⟨entry.1, entry.2, hEntry, ?_⟩
    rw [hNumber]
    exact (hOnly seq hSeq).2
  cases events with
  | nil =>
      have hNil :
          numbersIn conv (messages.map Prod.fst) = [] := by
        simpa using hArrivals.symm
      simp [hNil] at hFirst
  | cons first events =>
      have hHead :
          first.arrival?.map Prod.fst = some start := by
        have := congrArg List.head? hArrivals
        rw [List.head?_map, List.head?_map, hFirst] at this
        simpa using this
      rcases Option.map_eq_some_iff.mp hHead with
        ⟨⟨number, js⟩, hFirstArrival, hStart⟩
      have hNumber : number = start := hStart
      subst hNumber
      rcases Channel.runFresh_restores_order hAdmits
          hFirstArrival hNumbers hArrivedEach with
        ⟨hShown, hPending, hExpect⟩
      rw [hProjects] at hPending hExpect
      refine ⟨hDisplayed.trans hShown, ?_, hPending, hExpect⟩
      intro js hMember seq hNumbered
      rw [← hReceived]
      exact received_of_displayed hMember

/- Four messages of one conversation out of order, with a
repetition, around one of another conversation. -/
def exampleMessages : List (Json × TimePoint) :=
  [(numberedMessage "p1_2" 3, 10),
    (numberedMessage "p1_2" 5, 20),
    (numberedMessage "g7" 8, 30),
    (numberedMessage "p1_2" 5, 40),
    (numberedMessage "p1_2" 4, 50)]

theorem exampleMessages_restore_order :
    ∃ orderer log,
      (fresh 3000).runCalls
            (messageCalls exampleMessages) =
          .ok (orderer, log) ∧
        numbersIn "p1_2" (emitted log) =
          List.range' 3 (2 + 1) ∧
        (∀ js ∈ emitted log,
          ∀ seq, js.numbered? = some ("p1_2", seq) →
            js ∈ exampleMessages.map Prod.fst) ∧
        (orderer.channels "p1_2").pending.entries = [] ∧
        (orderer.channels "p1_2").expect = 3 + 2 + 1 := by
  have hNumbers :
      numbersIn "p1_2" (exampleMessages.map Prod.fst) =
        [3, 5, 5, 4] := by
    decide
  apply messages_restore_order
  · decide
  · intro m hMember
    have hNumbered :
        ∃ conv seq, m.1 = numberedMessage conv seq := by
      simp only [exampleMessages, List.mem_cons,
        List.not_mem_nil, or_false] at hMember
      rcases hMember with h | h | h | h | h <;>
        exact ⟨_, _, by rw [h]⟩
    rcases hNumbered with ⟨conv, seq, hMessage⟩
    rw [hMessage]
    intro value hValue
    simp only [numberedMessage, Json.find?,
      JsonObject.find?] at hValue
    simp at hValue
    rw [← hValue]
    rfl
  · rw [hNumbers]
    rfl
  · intro seq hLower hUpper
    rw [hNumbers]
    simp only [List.mem_cons, List.not_mem_nil]
    omega
  · rw [hNumbers]
    decide

------------------------------------------------------------
-- Accounting for Every Number
------------------------------------------------------------

/- Exactly one of three propositions holds. -/
def ExactlyOne (p q r : Prop) : Prop :=
  (p ∧ ¬ q ∧ ¬ r) ∨ (¬ p ∧ q ∧ ¬ r) ∨ (¬ p ∧ ¬ q ∧ r)

/- Displayed once, with a message that was received. -/
def DisplayedOnce
    (conv : String)
    (seq : Nat)
    (received : List Json)
    (log : List Effect) : Prop :=
  (numbersIn conv (emitted log)).count seq = 1 ∧
    ∀ js ∈ emitted log,
      js.numbered? = some (conv, seq) → js ∈ received

/- Waiting above `expect`, and not displayed. -/
def StillPending
    (conv : String)
    (seq : Nat)
    (orderer : ConversationOrderer)
    (log : List Effect) : Prop :=
  seq ∈ (orderer.channels conv).pending.keys ∧
    (orderer.channels conv).expect < seq ∧
    seq ∉ numbersIn conv (emitted log)

/-
  Neither displayed nor pending: every message with the
  number found `expect` above it when it came.
-/
def CameTooLate
    (gapTimeoutMs : Int)
    (conv : String)
    (seq : Nat)
    (events : List OrdererEvent)
    (orderer : ConversationOrderer)
    (log : List Effect) : Prop :=
  seq ∉ numbersIn conv (emitted log) ∧
    seq ∉ (orderer.channels conv).pending.keys ∧
    ∀ front js now back,
      events = front ++ .message js now :: back →
        js.numbered? = some (conv, seq) →
          ∃ before shown,
            (fresh gapTimeoutMs).runEvents front =
                .ok (before, shown) ∧
              seq < (before.channels conv).expect

/- Late arrivals at the channel are late at the orderer. -/
theorem late_of_alwaysLate
    {gapTimeoutMs : Int}
    {conv : String}
    {seq : Nat}
    {events : List OrdererEvent}
    (hString :
      ∀ js ∈ receivedMessages events, js.ConvidIsString)
    (hLate :
      Channel.AlwaysLate seq
        (events.flatMap (select gapTimeoutMs conv)))
    {front back : List OrdererEvent}
    {js : Json}
    {now : TimePoint}
    (hSplit : events = front ++ .message js now :: back)
    (hNumbered : js.numbered? = some (conv, seq)) :
    ∃ before shown,
      (fresh gapTimeoutMs).runEvents front =
          .ok (before, shown) ∧
        seq < (before.channels conv).expect := by
  have hFront :
      ∀ other ∈ receivedMessages front,
        other.ConvidIsString := by
    intro other hOther
    apply hString
    rw [hSplit]
    unfold receivedMessages at hOther ⊢
    rw [List.filterMap_append]
    exact List.mem_append_left _ hOther
  refine ⟨_, _, runEvents_eq_run _ hFront, ?_⟩
  have hSelected :
      events.flatMap (select gapTimeoutMs conv) =
        front.flatMap (select gapTimeoutMs conv) ++
          .receive js seq now ::
            back.flatMap (select gapTimeoutMs conv) := by
    rw [hSplit, List.flatMap_append, List.flatMap_cons]
    simp [select, Json.seqIn_eq_some_iff.mpr hNumbered]
  have hBelow := hLate _ _ _ js hSelected rfl
  rw [run_projects] at hBelow
  exact hBelow

/- What a channel accounts for, the orderer accounts for. -/
theorem exactlyOne_of_channel
    {gapTimeoutMs : Int}
    {conv : String}
    {events : List OrdererEvent}
    (hString :
      ∀ js ∈ receivedMessages events, js.ConvidIsString)
    (hAdmits :
      ∀ event ∈ events.flatMap (select gapTimeoutMs conv),
        Channel.Admits conv event)
    (seq : Nat) :
    ExactlyOne
      (DisplayedOnce conv seq (receivedMessages events)
        ((fresh gapTimeoutMs).runFrom events).2)
      (StillPending conv seq
        ((fresh gapTimeoutMs).runFrom events).1
        ((fresh gapTimeoutMs).runFrom events).2)
      (CameTooLate gapTimeoutMs conv seq events
        ((fresh gapTimeoutMs).runFrom events).1
        ((fresh gapTimeoutMs).runFrom events).2) := by
  rcases Channel.run_numbers_sorted hAdmits with
    ⟨hSorted, hBelow⟩
  have hAbove := (Channel.runFresh_ordered hAdmits).above
  have hAccounts := Channel.run_accounts hAdmits seq
  rw [← displayed_eq_channel] at hSorted hBelow hAccounts
  rw [run_projects] at hBelow hAbove hAccounts
  dsimp only at hBelow hAbove hAccounts
  by_cases hShown :
      seq ∈ numbersIn conv
        (emitted ((fresh gapTimeoutMs).runFrom events).2)
  · have hOnce :
        DisplayedOnce conv seq (receivedMessages events)
          ((fresh gapTimeoutMs).runFrom events).2 := by
      refine ⟨?_, ?_⟩
      · exact
          List.count_eq_one_of_mem (hSorted.imp Nat.ne_of_lt)
            hShown
      · intro js hMember _
        exact received_of_displayed hMember
    exact
      Or.inl
        ⟨hOnce, fun hPending => hPending.2.2 hShown,
          fun hLate => hLate.1 hShown⟩
  · have hNotOnce :
        ¬ DisplayedOnce conv seq (receivedMessages events)
          ((fresh gapTimeoutMs).runFrom events).2 := by
      intro hOnce
      have hCount := hOnce.1
      rw [List.count_eq_zero_of_not_mem hShown] at hCount
      simp at hCount
    apply Or.inr
    by_cases hPending :
        seq ∈ (((fresh gapTimeoutMs).runFrom events).1.channels
          conv).pending.keys
    · rcases SortedMap.mem_keys_iff.mp hPending with
        ⟨stored, hStored⟩
      have hStill := hAbove _ hStored
      exact
        Or.inl
          ⟨hNotOnce, ⟨hPending, hStill, hShown⟩,
            fun hLate => hLate.2.1 hPending⟩
    · have hLate :
          Channel.AlwaysLate seq
            (events.flatMap (select gapTimeoutMs conv)) := by
        rcases hAccounts with hA | hB | hC
        · exact absurd hA hShown
        · exact absurd hB hPending
        · exact hC
      refine Or.inr ⟨hNotOnce, fun h => hPending h.1, ?_⟩
      refine ⟨hShown, hPending, ?_⟩
      intro front js now back hSplit hNumbered
      exact
        late_of_alwaysLate hString hLate hSplit hNumbered

/-
  Every number received in a conversation is displayed once,
  or still pending, or came too late; and no pending entry is
  ever erased as expired.
-/
theorem calls_account_for_numbers
    (gapTimeoutMs : Int)
    {calls : List Call}
    (hDeliverable :
      ∀ js ∈ calls.flatMap Call.messages, js.Deliverable) :
    ∃ orderer log,
      (fresh gapTimeoutMs).runCalls calls =
          .ok (orderer, log) ∧
        (∀ effect ∈ log, ¬ effect.IsExpire) ∧
        ∀ conv seq,
          seq ∈ numbersIn conv
              (calls.flatMap Call.messages) →
            ExactlyOne
              (DisplayedOnce conv seq
                (calls.flatMap Call.messages) log)
              (StillPending conv seq orderer log)
              (CameTooLate gapTimeoutMs conv seq
                (calls.flatMap Call.events) orderer
                log) := by
  have hRun :=
    runCalls_eq_run (fresh gapTimeoutMs)
      (fun js hMember => (hDeliverable js hMember).1)
  have hReceived := receivedMessages_calls calls
  rw [← hReceived] at hDeliverable ⊢
  have hAdmits :
      ∀ conv,
        ∀ event ∈
            (calls.flatMap Call.events).flatMap
              (select gapTimeoutMs conv),
          Channel.Admits conv event :=
    fun conv => select_admits (numbers_bounded hDeliverable)
  refine ⟨_, _, hRun, ?_, ?_⟩
  · intro effect hEffect hExpire
    rcases run_effects gapTimeoutMs _ effect hEffect with
      ⟨conv, hBelongs⟩ | ⟨js, _, hEmit⟩
    · have hEffects :=
        congrArg Prod.snd (run_projects gapTimeoutMs
          (calls.flatMap Call.events) conv)
      apply
        Channel.run_never_expires (hAdmits conv) effect _
          hExpire
      rw [hEffects]
      exact
        List.mem_filter.mpr
          ⟨hEffect, visible_of_belongsTo hBelongs⟩
    · rw [hEmit] at hExpire
      exact hExpire
  · intro conv seq _
    exact
      exactlyOne_of_channel
        (fun js hMember => (hDeliverable js hMember).1)
        (hAdmits conv) seq

theorem exampleCalls_account_for_numbers :
    ∃ orderer log,
      (fresh 3000).runCalls exampleCalls =
          .ok (orderer, log) ∧
        (∀ effect ∈ log, ¬ effect.IsExpire) ∧
        ∀ conv seq,
          seq ∈ numbersIn conv
              (exampleCalls.flatMap Call.messages) →
            ExactlyOne
              (DisplayedOnce conv seq
                (exampleCalls.flatMap Call.messages) log)
              (StillPending conv seq orderer log)
              (CameTooLate 3000 conv seq
                (exampleCalls.flatMap Call.events) orderer
                log) :=
  calls_account_for_numbers 3000 deliverable_exampleCalls

end ConversationOrderer

end ClusterChat
