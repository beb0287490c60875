import ClusterChat.Orderer.ChannelRun

/-
  Whole runs of the orderer, and their projection to one
  conversation.

  Calls are broken into events, so that a message of an
  offline batch is an arrival like any other.  On events that
  do not throw, a run of the orderer shows in one conversation
  exactly what that channel shows alone.

  Main declarations:
    * `ConversationOrderer.runCalls`
    * `ConversationOrderer.runEvents`
    * `Json.Deliverable`
    * `ConversationOrderer.runEvents_eq_run`
    * `ConversationOrderer.run_projects`
-/

------------------------------------------------------------
-- Events and Calls
------------------------------------------------------------

namespace ClusterChat

/- One message, one `tick`, or the end of a batch. -/
inductive OrdererEvent where
| message (js : Json) (now : TimePoint)
| tick (now : TimePoint) (visits : Visits)
| flush (visits : Visits)

/- A call of the orderer's public interface. -/
inductive Call where
| onMessage (js : Json) (now : TimePoint)
| tick (now : TimePoint) (visits : Visits)
| onOfflineBatch
    (messages : List (Json × TimePoint))
    (visits : Visits)

/- The events that make up a call. -/
def Call.events : Call → List OrdererEvent
| onMessage js now => [.message js now]
| tick now visits => [.tick now visits]
| onOfflineBatch messages visits =>
    (messages.map fun m => .message m.1 m.2) ++
      [.flush visits]

/- The messages handed over by a call. -/
def Call.messages : Call → List Json
| onMessage js _ => [js]
| tick _ _ => []
| onOfflineBatch messages _ => messages.map Prod.fst

/- The message an event brings, if any. -/
def OrdererEvent.message? : OrdererEvent → Option Json
| message js _ => some js
| tick _ _ => none
| flush _ => none

/- The messages that a list of events brings. -/
def receivedMessages
    (events : List OrdererEvent) : List Json :=
  events.filterMap OrdererEvent.message?

/-
  What the server guarantees of a message: a conversation id
  is a string, and a number has a successor in 64 bits.
-/
def Json.Deliverable (js : Json) : Prop :=
  js.ConvidIsString ∧
    ∀ conv seq,
      js.numbered? = some (conv, seq) → seq < seqBound

/- A message with a small enough number is deliverable. -/
theorem Json.deliverable_of_numbered
    {js : Json}
    {conv : String}
    {seq : Nat}
    (hNumbered : js.numbered? = some (conv, seq))
    (hBound : seq < seqBound) :
    js.Deliverable := by
  refine ⟨convidIsString_of_numbered hNumbered, ?_⟩
  intro other number hOther
  rw [hNumbered] at hOther
  have hSeq : seq = number := by
    simpa using congrArg (Option.map Prod.snd) hOther
  omega

namespace ConversationOrderer

/- Run one call. -/
def call
    (orderer : ConversationOrderer) :
    Call →
      Except JsonException
        (ConversationOrderer × List Effect)
| .onMessage js now => orderer.onMessage js now
| .tick now visits => return orderer.tick now visits
| .onOfflineBatch messages visits =>
    orderer.onOfflineBatch messages visits

/- Run the calls in order. -/
def runCalls
    (orderer : ConversationOrderer) :
    List Call →
      Except JsonException
        (ConversationOrderer × List Effect)
| [] => return (orderer, [])
| first :: calls => do
    let result ← orderer.call first
    let rest ← runCalls result.1 calls
    return (rest.1, result.2 ++ rest.2)

/- Run one event. -/
def event
    (orderer : ConversationOrderer) :
    OrdererEvent →
      Except JsonException
        (ConversationOrderer × List Effect)
| .message js now => orderer.onMessage js now
| .tick now visits => return orderer.tick now visits
| .flush visits => return orderer.flush visits

/- Run the events in order. -/
def runEvents
    (orderer : ConversationOrderer) :
    List OrdererEvent →
      Except JsonException
        (ConversationOrderer × List Effect)
| [] => return (orderer, [])
| first :: events => do
    let result ← orderer.event first
    let rest ← runEvents result.1 events
    return (rest.1, result.2 ++ rest.2)

/-
  An event on messages that do not throw: numbered messages
  go to their channel, the others are emitted at once.
-/
def apply
    (orderer : ConversationOrderer) :
    OrdererEvent → ConversationOrderer × List Effect
| .message js now =>
    match js.numbered? with
    | some (conv, seq) =>
        let received :=
          (orderer.channels conv).receive js seq now
        (orderer.setChannel conv received.1, received.2)
    | none => (orderer, [.emit js])
| .tick now visits => orderer.tick now visits
| .flush visits => orderer.flush visits

theorem apply_numbered
    (orderer : ConversationOrderer)
    {js : Json}
    {conv : String}
    {seq : Nat}
    (now : TimePoint)
    (hNumbered : js.numbered? = some (conv, seq)) :
    orderer.apply (.message js now) =
      (orderer.setChannel conv
        ((orderer.channels conv).receive js seq now).1,
        ((orderer.channels conv).receive js seq now).2) := by
  simp [apply, hNumbered]

theorem apply_unnumbered
    (orderer : ConversationOrderer)
    {js : Json}
    (now : TimePoint)
    (hNumbered : js.numbered? = none) :
    orderer.apply (.message js now) =
      (orderer, [.emit js]) := by
  simp [apply, hNumbered]

/- The orderer after a run that does not throw. -/
abbrev runFrom
    (orderer : ConversationOrderer)
    (events : List OrdererEvent) :
    ConversationOrderer × List Effect :=
  Transducer.run apply orderer events

------------------------------------------------------------
-- Calls and Their Events
------------------------------------------------------------

/- The events of a second list follow those of a first. -/
theorem runEvents_append
    (orderer : ConversationOrderer)
    (front back : List OrdererEvent) :
    orderer.runEvents (front ++ back) = do
      let first ← orderer.runEvents front
      let rest ← first.1.runEvents back
      return (rest.1, first.2 ++ rest.2) := by
  induction front generalizing orderer with
  | nil => simp [runEvents]
  | cons event front ih =>
      simp [runEvents, ih, List.append_assoc]

theorem runEvents_singleton
    (orderer : ConversationOrderer)
    (event : OrdererEvent) :
    orderer.runEvents [event] = orderer.event event := by
  simp [runEvents]

theorem onMessages_eq_runEvents
    (orderer : ConversationOrderer)
    (messages : List (Json × TimePoint)) :
    orderer.onMessages messages =
      orderer.runEvents
        (messages.map fun m => .message m.1 m.2) := by
  induction messages generalizing orderer with
  | nil => rfl
  | cons m messages ih =>
      simp only [onMessages, List.map_cons, runEvents, ih]
      rfl

/- A call is the run of its events, whether it throws or
not. -/
theorem call_eq_runEvents
    (orderer : ConversationOrderer)
    (call : Call) :
    orderer.call call = orderer.runEvents call.events := by
  cases call with
  | onMessage js now =>
      change _ = orderer.runEvents [.message js now]
      rw [runEvents_singleton]
      rfl
  | tick now visits =>
      change _ = orderer.runEvents [.tick now visits]
      rw [runEvents_singleton]
      rfl
  | onOfflineBatch messages visits =>
      unfold Call.events
      rw [runEvents_append, ← onMessages_eq_runEvents]
      simp only [runEvents_singleton]
      simp [call, onOfflineBatch, event]

theorem runCalls_eq_runEvents
    (orderer : ConversationOrderer)
    (calls : List Call) :
    orderer.runCalls calls =
      orderer.runEvents (calls.flatMap Call.events) := by
  induction calls generalizing orderer with
  | nil => rfl
  | cons call calls ih =>
      rw [List.flatMap_cons, runEvents_append,
        ← call_eq_runEvents]
      simp only [runCalls, ih]

------------------------------------------------------------
-- Calls That Do Not Throw
------------------------------------------------------------

theorem onMessage_eq_apply
    (orderer : ConversationOrderer)
    {js : Json}
    (now : TimePoint)
    (hString : js.ConvidIsString) :
    orderer.onMessage js now =
      .ok (orderer.apply (.message js now)) := by
  cases hConvid : js.find? msgFieldConvid with
  | none =>
      simp only [onMessage, apply, Json.numbered?, hConvid]
      rfl
  | some convid =>
      have hIsString := hString convid hConvid
      cases hSeq : js.find? msgFieldSeq with
      | none =>
          simp only [onMessage, apply, Json.numbered?,
            hConvid, hSeq]
          rfl
      | some seqField =>
          cases convid with
          | string conv =>
              simp only [onMessage, apply, Json.numbered?,
                hConvid, hSeq]
              cases seqField <;> rfl
          | _ => simp [Json.isString] at hIsString

theorem event_eq_apply
    (orderer : ConversationOrderer)
    {event : OrdererEvent}
    (hString :
      ∀ js, event.message? = some js → js.ConvidIsString) :
    orderer.event event = .ok (orderer.apply event) := by
  cases event with
  | message js now =>
      exact onMessage_eq_apply orderer now (hString js rfl)
  | tick now visits => rfl
  | flush visits => rfl

/- Messages with string ids never make a run throw. -/
theorem runEvents_eq_run
    (orderer : ConversationOrderer)
    {events : List OrdererEvent}
    (hString :
      ∀ js ∈ receivedMessages events, js.ConvidIsString) :
    orderer.runEvents events =
      .ok (orderer.runFrom events) := by
  induction events generalizing orderer with
  | nil => rfl
  | cons first events ih =>
      have hFirst :
          ∀ js,
            first.message? = some js →
              js.ConvidIsString := by
        intro js hMessage
        apply hString
        exact
          List.mem_filterMap.mpr
            ⟨first, List.mem_cons_self, hMessage⟩
      have hRest :
          ∀ js ∈ receivedMessages events,
            js.ConvidIsString := by
        intro js hMember
        apply hString
        rcases List.mem_filterMap.mp hMember with
          ⟨event, hEvent, hMessage⟩
        exact
          List.mem_filterMap.mpr
            ⟨event, List.mem_cons_of_mem _ hEvent,
              hMessage⟩
      unfold runEvents
      rw [event_eq_apply orderer hFirst]
      change
        (do
          let rest ← runEvents (orderer.apply first).1 events
          return (rest.1, (orderer.apply first).2 ++ rest.2))
          = _
      rw [ih _ hRest]
      rfl

theorem receivedMessages_call (call : Call) :
    receivedMessages call.events = call.messages := by
  cases call with
  | onMessage js now => rfl
  | tick now visits => rfl
  | onOfflineBatch messages visits =>
      unfold receivedMessages Call.events Call.messages
      rw [List.filterMap_append, List.filterMap_map]
      simp [OrdererEvent.message?, Function.comp_def]

theorem receivedMessages_calls (calls : List Call) :
    receivedMessages (calls.flatMap Call.events) =
      calls.flatMap Call.messages := by
  induction calls with
  | nil => rfl
  | cons call calls ih =>
      rw [List.flatMap_cons, List.flatMap_cons, ← ih,
        ← receivedMessages_call]
      unfold receivedMessages
      rw [List.filterMap_append]

theorem onMessages_eq_run
    (orderer : ConversationOrderer)
    {messages : List (Json × TimePoint)}
    (hString :
      ∀ m ∈ messages, m.1.ConvidIsString) :
    orderer.onMessages messages =
      .ok (orderer.runFrom
        (messages.map fun m => .message m.1 m.2)) := by
  rw [onMessages_eq_runEvents]
  apply runEvents_eq_run
  intro js hReceived
  rcases List.mem_filterMap.mp hReceived with
    ⟨event, hEvent, hMessage⟩
  rcases List.mem_map.mp hEvent with ⟨m, hMember, rfl⟩
  rw [← Option.some.inj hMessage]
  exact hString m hMember

theorem call_eq_run
    (orderer : ConversationOrderer)
    (call : Call)
    (hString : ∀ js ∈ call.messages, js.ConvidIsString) :
    orderer.call call =
      .ok (orderer.runFrom call.events) := by
  rw [call_eq_runEvents]
  apply runEvents_eq_run
  rw [receivedMessages_call]
  exact hString

/- A run of calls is the run of the events they make up. -/
theorem runCalls_eq_run
    (orderer : ConversationOrderer)
    {calls : List Call}
    (hString :
      ∀ js ∈ calls.flatMap Call.messages,
        js.ConvidIsString) :
    orderer.runCalls calls =
      .ok (orderer.runFrom
        (calls.flatMap Call.events)) := by
  rw [runCalls_eq_runEvents]
  apply runEvents_eq_run
  rw [receivedMessages_calls]
  exact hString

/- A message that returned did what `apply` does. -/
theorem onMessage_returned
    {orderer : ConversationOrderer}
    {js : Json}
    {now : TimePoint}
    {result : ConversationOrderer × List Effect}
    (hReturned : orderer.onMessage js now = .ok result) :
    result = orderer.apply (.message js now) := by
  by_cases hString : js.ConvidIsString
  · rw [onMessage_eq_apply orderer now hString] at hReturned
    exact (Except.ok.inj hReturned).symm
  · -- the conversation id is not a string
    simp only [Json.ConvidIsString, not_forall] at hString
    rcases hString with ⟨convid, hConvid, hOther⟩
    have hThrows :
        convid.getString = .error .typeError := by
      cases convid with
      | string conv => exact absurd rfl hOther
      | _ => rfl
    have hUnnumbered : js.numbered? = none := by
      unfold Json.numbered?
      rw [hConvid]
      cases convid with
      | string conv => exact absurd rfl hOther
      | _ => rfl
    rw [apply_unnumbered orderer now hUnnumbered]
    unfold onMessage at hReturned
    rw [hConvid] at hReturned
    cases hSeq : js.find? msgFieldSeq with
    | none =>
        rw [hSeq] at hReturned
        exact (Except.ok.inj hReturned).symm
    | some seqField =>
        rw [hSeq] at hReturned
        dsimp only at hReturned
        split_ifs at hReturned
        · rw [hThrows] at hReturned
          cases hReturned
        · exact (Except.ok.inj hReturned).symm

/- A bind that returned has both parts return. -/
theorem returned_of_bind
    {ε α β : Type}
    {first : Except ε α}
    {next : α → Except ε β}
    {result : β}
    (hReturned : (first >>= next) = .ok result) :
    ∃ value,
      first = .ok value ∧ next value = .ok result := by
  cases first with
  | error exception => cases hReturned
  | ok value => exact ⟨value, rfl, hReturned⟩

/- A run that returned is the run that `apply` makes. -/
theorem runEvents_returned
    {orderer : ConversationOrderer}
    {events : List OrdererEvent}
    {result : ConversationOrderer × List Effect}
    (hReturned : orderer.runEvents events = .ok result) :
    result = orderer.runFrom events := by
  induction events generalizing orderer result with
  | nil => exact (Except.ok.inj hReturned).symm
  | cons event events ih =>
      rw [runEvents] at hReturned
      rcases returned_of_bind hReturned with
        ⟨first, hFirst, hBehind⟩
      rcases returned_of_bind hBehind with
        ⟨rest, hRest, hResult⟩
      have hApply : first = orderer.apply event := by
        cases event with
        | message js now => exact onMessage_returned hFirst
        | tick now visits =>
            exact (Except.ok.inj hFirst).symm
        | flush visits => exact (Except.ok.inj hFirst).symm
      unfold runFrom
      rw [← Except.ok.inj hResult, Transducer.run_cons,
        ← hApply, ih hRest]

------------------------------------------------------------
-- Projection to One Conversation
------------------------------------------------------------

/- The events of one conversation's channel. -/
def select
    (gapTimeoutMs : Int)
    (conv : String) : OrdererEvent → List ChannelEvent
| .message js now =>
    match js.seqIn conv with
    | some seq => [.receive js seq now]
    | none => []
| .tick now visits =>
    (visits.filter fun visit => visit.1 = conv).map
      fun visit => .tick gapTimeoutMs now visit.2
| .flush visits =>
    (visits.filter fun visit => visit.1 = conv).map
      fun visit => .flush visit.2

/- The effect is about a message of the conversation. -/
def visible
    (conv : String)
    (effect : Effect) : Bool :=
  (effect.message.seqIn conv).isSome

theorem visible_of_belongsTo
    {conv : String}
    {effect : Effect}
    (hBelongs : effect.BelongsTo conv) :
    visible conv effect = true := by
  rcases hBelongs with ⟨seq, hNumbered⟩
  simp [visible, Json.seqIn_eq_some_iff.mpr hNumbered]

theorem not_visible_of_belongsTo
    {conv other : String}
    (hNe : other ≠ conv)
    {effect : Effect}
    (hBelongs : effect.BelongsTo other) :
    visible conv effect = false := by
  rcases hBelongs with ⟨seq, hNumbered⟩
  simp [visible, Json.seqIn, hNumbered, hNe]

/- Every channel holds only messages of its own. -/
def AllStamped
    (gapTimeoutMs : Int)
    (orderer : ConversationOrderer) : Prop :=
  orderer.gapTimeoutMs = gapTimeoutMs ∧
    ∀ conv, (orderer.channels conv).Stamped conv

theorem allStamped_fresh (gapTimeoutMs : Int) :
    AllStamped gapTimeoutMs (fresh gapTimeoutMs) :=
  ⟨rfl, Channel.stamped_default⟩

@[simp] theorem setChannel_self
    (orderer : ConversationOrderer)
    (conv : String)
    (ch : Channel) :
    (orderer.setChannel conv ch).channels conv = ch := by
  simp [setChannel]

theorem setChannel_of_ne
    (orderer : ConversationOrderer)
    {conv other : String}
    (hNe : conv ≠ other)
    (ch : Channel) :
    (orderer.setChannel other ch).channels conv =
      orderer.channels conv := by
  simp [setChannel, hNe]

/- A loop leaves the channels that it does not visit. -/
theorem forChannels_of_not_mem
    (body : TimePoint → Channel → Channel × List Effect)
    (orderer : ConversationOrderer)
    {visits : Visits}
    {other : String}
    (hOther : other ∉ visits.map Prod.fst) :
    (orderer.forChannels body visits).1.channels other =
      orderer.channels other := by
  induction visits generalizing orderer with
  | nil => rfl
  | cons visit visits ih =>
      rw [List.map_cons, List.mem_cons, not_or] at hOther
      unfold forChannels
      rw [ih _ hOther.2, setChannel_of_ne orderer hOther.1]

theorem allStamped_setChannel
    {gapTimeoutMs : Int}
    {orderer : ConversationOrderer}
    (hAll : AllStamped gapTimeoutMs orderer)
    {conv : String}
    {ch : Channel}
    (hStamped : ch.Stamped conv) :
    AllStamped gapTimeoutMs
      (orderer.setChannel conv ch) := by
  refine ⟨hAll.1, ?_⟩
  intro other
  by_cases hConv : other = conv
  · subst hConv
    rw [setChannel_self]
    exact hStamped
  · rw [setChannel_of_ne orderer hConv]
    exact hAll.2 other

/- A step of one channel, seen from any conversation. -/
theorem step_projects
    {gapTimeoutMs : Int}
    {orderer : ConversationOrderer}
    (hAll : AllStamped gapTimeoutMs orderer)
    {target : String}
    {event : ChannelEvent}
    (hArrival :
      ∀ entry,
        event.arrival? = some entry →
          entry.2.numbered? = some (target, entry.1))
    (conv : String) :
    AllStamped gapTimeoutMs
        (orderer.setChannel target
          ((orderer.channels target).step event).1) ∧
      Transducer.run Channel.step (orderer.channels conv)
          (if target = conv then [event] else []) =
        ((orderer.setChannel target
            ((orderer.channels target).step event).1).channels
              conv,
          ((orderer.channels target).step event).2.filter
            (visible conv)) := by
  rcases Channel.step_stamped (hAll.2 target) hArrival with
    ⟨hStamped, hBelong⟩
  refine ⟨allStamped_setChannel hAll hStamped, ?_⟩
  by_cases hTarget : target = conv
  · subst hTarget
    have hAllVisible :
        ((orderer.channels target).step event).2.filter
            (visible target) =
          ((orderer.channels target).step event).2 := by
      apply List.filter_eq_self.mpr
      intro effect hEffect
      exact visible_of_belongsTo (hBelong effect hEffect)
    rw [if_pos rfl, Transducer.run_singleton,
      setChannel_self, hAllVisible]
  · have hNoneVisible :
        ((orderer.channels target).step event).2.filter
            (visible conv) = [] := by
      apply List.filter_eq_nil_iff.mpr
      intro effect hEffect
      simp [not_visible_of_belongsTo hTarget
        (hBelong effect hEffect)]
    rw [if_neg hTarget,
      setChannel_of_ne orderer (Ne.symm hTarget),
      hNoneVisible, Transducer.run_nil]

/- A loop over the channels, seen from one conversation. -/
theorem forChannels_projects
    {gapTimeoutMs : Int}
    {orderer : ConversationOrderer}
    (hAll : AllStamped gapTimeoutMs orderer)
    (make : TimePoint → ChannelEvent)
    (hMake : ∀ now, (make now).arrival? = none)
    (visits : Visits)
    (conv : String) :
    let result :=
      orderer.forChannels
        (fun now ch => ch.step (make now)) visits
    AllStamped gapTimeoutMs result.1 ∧
      Transducer.run Channel.step (orderer.channels conv)
          ((visits.filter fun visit => visit.1 = conv).map
            fun visit => make visit.2) =
        (result.1.channels conv,
          result.2.filter (visible conv)) := by
  induction visits generalizing orderer with
  | nil => exact ⟨hAll, rfl⟩
  | cons visit visits ih =>
      have hArrival :
          ∀ entry,
            (make visit.2).arrival? = some entry →
              entry.2.numbered? = some (visit.1, entry.1) := by
        simp [hMake visit.2]
      rcases step_projects hAll hArrival conv with
        ⟨hNext, hStep⟩
      rcases ih hNext with ⟨hFinal, hRest⟩
      refine ⟨hFinal, ?_⟩
      have hSplit :
          ((visit :: visits).filter
              fun v => v.1 = conv).map
              (fun v => make v.2) =
            (if visit.1 = conv then
                [make visit.2]
              else
                []) ++
              (visits.filter fun v => v.1 = conv).map
                fun v => make v.2 := by
        by_cases hConv : visit.1 = conv <;> simp [hConv]
      rw [hSplit, Transducer.run_append, hStep, hRest,
        ← List.filter_append]
      rfl

/- A listed conversation is visited exactly once. -/
theorem visit_once
    {visits : Visits}
    {conv : String}
    (hNodup : (visits.map Prod.fst).Nodup)
    (hListed : conv ∈ visits.map Prod.fst) :
    ∃ now,
      (visits.filter fun visit => visit.1 = conv) =
        [(conv, now)] := by
  induction visits with
  | nil => simp at hListed
  | cons visit visits ih =>
      rw [List.map_cons, List.nodup_cons] at hNodup
      rcases List.mem_cons.mp hListed with hHead | hTail
      · refine ⟨visit.2, ?_⟩
        have hRest :
            (visits.filter fun v => v.1 = conv) = [] := by
          apply List.filter_eq_nil_iff.mpr
          intro v hMember hSame
          apply hNodup.1
          rw [← hHead, ← of_decide_eq_true hSame]
          exact List.mem_map_of_mem hMember
        rw [List.filter_cons_of_pos (by simp [hHead]), hRest,
          hHead]
      · have hNe : visit.1 ≠ conv := by
          intro hSame
          apply hNodup.1
          rw [hSame]
          exact hTail
        rw [List.filter_cons_of_neg (by simpa using hNe)]
        exact ih hNodup.2 hTail

theorem apply_projects
    {gapTimeoutMs : Int}
    {orderer : ConversationOrderer}
    (event : OrdererEvent)
    (hAll : AllStamped gapTimeoutMs orderer)
    (conv : String) :
    AllStamped gapTimeoutMs (orderer.apply event).1 ∧
      Transducer.run Channel.step (orderer.channels conv)
          (select gapTimeoutMs conv event) =
        ((orderer.apply event).1.channels conv,
          (orderer.apply event).2.filter
            (visible conv)) := by
  cases event with
  | message js now =>
      cases hNumbered : js.numbered? with
      | none =>
          simp [apply, select, Json.seqIn, hNumbered,
            visible, Effect.message, hAll]
      | some stamp =>
          rcases stamp with ⟨target, seq⟩
          have hArrival :
              ∀ entry,
                (ChannelEvent.receive js seq now).arrival? =
                    some entry →
                  entry.2.numbered? =
                    some (target, entry.1) := by
            intro entry hEntry
            rw [← Option.some.inj hEntry]
            exact hNumbered
          have hStep := step_projects hAll hArrival conv
          have hSelect :
              select gapTimeoutMs conv (.message js now) =
                if target = conv then
                  [.receive js seq now]
                else
                  [] := by
            by_cases hConv : target = conv <;>
              simp [select, Json.seqIn, hNumbered, hConv]
          rw [hSelect, apply_numbered orderer now hNumbered]
          exact hStep
  | tick now visits =>
      have hLoop :=
        forChannels_projects hAll
          (fun drainNow =>
            .tick orderer.gapTimeoutMs now drainNow)
          (fun _ => rfl) visits conv
      unfold select
      rw [← hAll.1]
      rw [← hAll.1] at hLoop
      exact hLoop
  | flush visits =>
      exact
        forChannels_projects hAll
          (fun drainNow => .flush drainNow)
          (fun _ => rfl) visits conv

/-
  In one conversation, a run of a fresh orderer shows what
  that conversation's channel shows on its own events.
-/
theorem run_projects
    (gapTimeoutMs : Int)
    (events : List OrdererEvent)
    (conv : String) :
    Channel.runFresh
        (events.flatMap (select gapTimeoutMs conv)) =
      (((fresh gapTimeoutMs).runFrom events).1.channels conv,
        ((fresh gapTimeoutMs).runFrom events).2.filter
          (visible conv)) :=
  Transducer.run_simulates
    (fun _ => True)
    (AllStamped gapTimeoutMs)
    (fun orderer => orderer.channels conv)
    (select gapTimeoutMs conv) (visible conv)
    (fun _ event _ hAll =>
      (apply_projects event hAll conv).1)
    (fun _ event _ hAll =>
      (apply_projects event hAll conv).2)
    (fun _ _ => trivial) (allStamped_fresh gapTimeoutMs)

/- Whatever a loop over the channels does is about a
numbered message. -/
theorem forChannels_belongs
    {gapTimeoutMs : Int}
    {orderer : ConversationOrderer}
    (hAll : AllStamped gapTimeoutMs orderer)
    (make : TimePoint → ChannelEvent)
    (hMake : ∀ now, (make now).arrival? = none)
    (visits : Visits) :
    ∀ effect ∈
        (orderer.forChannels
          (fun now ch => ch.step (make now)) visits).2,
      ∃ conv, effect.BelongsTo conv := by
  induction visits generalizing orderer with
  | nil => simp [forChannels]
  | cons visit visits ih =>
      have hArrival :
          ∀ entry,
            (make visit.2).arrival? = some entry →
              entry.2.numbered? = some (visit.1, entry.1) := by
        simp [hMake visit.2]
      rcases Channel.step_stamped (hAll.2 visit.1) hArrival
        with ⟨hStamped, hBelong⟩
      intro effect hEffect
      rcases List.mem_append.mp hEffect with hNow | hLater
      · exact ⟨visit.1, hBelong effect hNow⟩
      · exact
          ih (allStamped_setChannel hAll hStamped) effect
            hLater

/-
  An event acts on numbered messages, or emits the message it
  brings.
-/
theorem apply_effects
    {gapTimeoutMs : Int}
    {orderer : ConversationOrderer}
    (hAll : AllStamped gapTimeoutMs orderer)
    (event : OrdererEvent) :
    ∀ effect ∈ (orderer.apply event).2,
      (∃ conv, effect.BelongsTo conv) ∨
        ∃ js,
          event.message? = some js ∧
            effect = Effect.emit js := by
  intro effect hEffect
  cases event with
  | message js now =>
      cases hNumbered : js.numbered? with
      | none =>
          rw [apply_unnumbered orderer now hNumbered]
            at hEffect
          exact
            Or.inr ⟨js, rfl, List.mem_singleton.mp hEffect⟩
      | some stamp =>
          rw [apply_numbered orderer now hNumbered]
            at hEffect
          have hArrival :
              ∀ entry,
                (ChannelEvent.receive js stamp.2
                      now).arrival? = some entry →
                  entry.2.numbered? =
                    some (stamp.1, entry.1) := by
            intro entry hEntry
            rw [← Option.some.inj hEntry]
            exact hNumbered
          have hStep :=
            Channel.step_stamped (hAll.2 stamp.1) hArrival
          exact Or.inl ⟨stamp.1, hStep.2 effect hEffect⟩
  | tick now visits =>
      apply Or.inl
      exact
        forChannels_belongs hAll
          (fun drainNow =>
            .tick orderer.gapTimeoutMs now drainNow)
          (fun _ => rfl) visits effect hEffect
  | flush visits =>
      apply Or.inl
      exact
        forChannels_belongs hAll
          (fun drainNow => .flush drainNow)
          (fun _ => rfl) visits effect hEffect

theorem allStamped_runFrom
    (gapTimeoutMs : Int)
    (events : List OrdererEvent) :
    AllStamped gapTimeoutMs
      ((fresh gapTimeoutMs).runFrom events).1 :=
  Transducer.run_invariant (fun _ => True)
    (AllStamped gapTimeoutMs)
    (fun _ event _ hState =>
      (apply_projects event hState "").1)
    (fun _ _ => trivial) (allStamped_fresh gapTimeoutMs)

theorem run_effects
    (gapTimeoutMs : Int)
    (events : List OrdererEvent) :
    ∀ effect ∈ ((fresh gapTimeoutMs).runFrom events).2,
      (∃ conv, effect.BelongsTo conv) ∨
        ∃ js ∈ receivedMessages events,
          effect = Effect.emit js := by
  induction events using List.reverseRecOn with
  | nil => simp [runFrom]
  | append_singleton events last ih =>
      have hAll := allStamped_runFrom gapTimeoutMs events
      have hAppend :
          receivedMessages (events ++ [last]) =
            receivedMessages events ++
              receivedMessages [last] :=
        List.filterMap_append
      intro effect hEffect
      unfold runFrom at hEffect
      rw [Transducer.run_snoc] at hEffect
      rw [hAppend]
      rcases List.mem_append.mp hEffect with hOld | hNew
      · rcases ih effect hOld with hBelongs | ⟨js, hJs, hEmit⟩
        · exact Or.inl hBelongs
        · exact
            Or.inr ⟨js, List.mem_append_left _ hJs, hEmit⟩
      · rcases apply_effects hAll last effect hNew with
          hBelongs | ⟨js, hJs, hEmit⟩
        · exact Or.inl hBelongs
        · refine
            Or.inr ⟨js, List.mem_append_right _ ?_, hEmit⟩
          exact
            List.mem_filterMap.mpr
              ⟨last, List.mem_singleton_self last, hJs⟩

end ConversationOrderer

end ClusterChat
