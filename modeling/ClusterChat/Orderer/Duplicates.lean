import ClusterChat.Orderer.Guarantees

/-
  The set of delivered numbers decides nothing.

  The plain orderer keeps no such set and takes a message for
  a duplicate when its number lies below `expect`.  Forgetting
  the set maps every state of the orderer to one of the plain
  orderer, and each operation to the same operation, because
  everything in the set lies below `expect` whenever it is
  looked at.

  Main declarations:
    * `PlainOrderer.runCalls`
    * `Channel.forget` and `Channel.forget_receive`
    * `ConversationOrderer.forget_event`
    * `ConversationOrderer.delivered_set_is_harmless`
-/

------------------------------------------------------------
-- The Plain Orderer
------------------------------------------------------------

namespace ClusterChat

/- One conversation's state, without a set of numbers. -/
structure PlainChannel where
  initialized : Bool := false
  expect : Nat := 0
  pending : SortedMap Nat Json := SortedMap.empty
  gapSince : TimePoint := 0

namespace PlainChannel

def deliver
    (ch : PlainChannel)
    (js : Json)
    (seq : Nat) : PlainChannel × List Effect :=
  ({ ch with
      expect := (seq + 1) % 2 ^ 64
      gapSince := 0 },
    [.emit js])

theorem sorted_of_cons
    {seq : Nat}
    {js : Json}
    {entries : List (Nat × Json)}
    (hSorted :
      ((seq, js) :: entries).Pairwise fun a b => a.1 < b.1) :
    entries.Pairwise fun a b => a.1 < b.1 :=
  hSorted.of_cons

def drainLoop
    (ch : PlainChannel) :
    (entries : List (Nat × Json)) →
      entries.Pairwise (fun a b => a.1 < b.1) →
        PlainChannel × List Effect
| [], hSorted => ({ ch with pending := ⟨[], hSorted⟩ }, [])
| (seq, js) :: entries, hSorted =>
    if seq < ch.expect then
      let rest := drainLoop ch entries (sorted_of_cons hSorted)
      (rest.1, .expire js :: rest.2)
    else if seq ≠ ch.expect then
      ({ ch with pending := ⟨(seq, js) :: entries, hSorted⟩ },
        [])
    else
      let delivery := ch.deliver js ch.expect
      let rest :=
        drainLoop delivery.1 entries (sorted_of_cons hSorted)
      (rest.1, delivery.2 ++ rest.2)

def drainPending
    (ch : PlainChannel)
    (now : TimePoint) : PlainChannel × List Effect :=
  let rest := ch.drainLoop ch.pending.entries ch.pending.sorted
  if rest.1.pending.entries ≠ [] ∧ rest.1.gapSince = 0 then
    ({ rest.1 with gapSince := now }, rest.2)
  else
    rest

def startAt
    (ch : PlainChannel)
    (seq : Nat) : PlainChannel :=
  if ch.initialized then
    ch
  else
    { ch with initialized := true, expect := seq }

/- A duplicate is a message below `expect`. -/
def receive
    (ch : PlainChannel)
    (js : Json)
    (seq : Nat)
    (now : TimePoint) : PlainChannel × List Effect :=
  let ch := ch.startAt seq
  if seq < ch.expect then
    (ch, [.discard js])
  else if seq = ch.expect then
    let delivery := ch.deliver js seq
    let rest := delivery.1.drainPending now
    (rest.1, delivery.2 ++ rest.2)
  else
    ({ ch with
        pending := ch.pending.insert seq js
        gapSince :=
          if ch.gapSince = 0 then now else ch.gapSince },
      [])

def release
    (ch : PlainChannel)
    (now : TimePoint) : PlainChannel × List Effect :=
  match ch.pending.entries with
  | [] => (ch, [])
  | entry :: _ =>
      { ch with expect := entry.1 }.drainPending now

def tick
    (ch : PlainChannel)
    (gapTimeoutMs : Int)
    (now drainNow : TimePoint) :
    PlainChannel × List Effect :=
  if ch.pending.entries = [] then
    (ch, [])
  else if ch.gapSince = 0 then
    (ch, [])
  else if (now - ch.gapSince).tdiv 1000000 < gapTimeoutMs then
    (ch, [])
  else
    ch.release drainNow

def flush
    (ch : PlainChannel)
    (drainNow : TimePoint) : PlainChannel × List Effect :=
  if ch.pending.entries ≠ [] then
    ch.release drainNow
  else
    (ch, [])

end PlainChannel

/- The orderer that keeps no set of delivered numbers. -/
structure PlainOrderer where
  gapTimeoutMs : Int
  channels : String → PlainChannel

namespace PlainOrderer

def fresh (gapTimeoutMs : Int) : PlainOrderer where
  gapTimeoutMs := gapTimeoutMs
  channels := fun _ => {}

def setChannel
    (orderer : PlainOrderer)
    (conv : String)
    (ch : PlainChannel) : PlainOrderer :=
  { orderer with
    channels := Function.update orderer.channels conv ch }

def forChannels
    (body :
      TimePoint → PlainChannel →
        PlainChannel × List Effect)
    (orderer : PlainOrderer) :
    Visits → PlainOrderer × List Effect
| [] => (orderer, [])
| visit :: visits =>
    let visited := body visit.2 (orderer.channels visit.1)
    let rest :=
      forChannels body
        (orderer.setChannel visit.1 visited.1) visits
    (rest.1, visited.2 ++ rest.2)

def onMessage
    (orderer : PlainOrderer)
    (js : Json)
    (now : TimePoint) :
    Except JsonException (PlainOrderer × List Effect) :=
  match js.find? msgFieldConvid, js.find? msgFieldSeq with
  | some convid, some seqField =>
      if seqField.isNumberUnsigned then do
        let conv ← convid.getString
        let seq ← seqField.getUInt64
        let received :=
          (orderer.channels conv).receive js seq now
        return (orderer.setChannel conv received.1,
          received.2)
      else
        return (orderer, [.emit js])
  | _, _ => return (orderer, [.emit js])

def tick
    (orderer : PlainOrderer)
    (now : TimePoint)
    (visits : Visits) : PlainOrderer × List Effect :=
  orderer.forChannels
    (fun drainNow ch =>
      ch.tick orderer.gapTimeoutMs now drainNow)
    visits

def flush
    (orderer : PlainOrderer)
    (visits : Visits) : PlainOrderer × List Effect :=
  orderer.forChannels
    (fun drainNow ch => ch.flush drainNow) visits

def onMessages
    (orderer : PlainOrderer) :
    List (Json × TimePoint) →
      Except JsonException (PlainOrderer × List Effect)
| [] => return (orderer, [])
| (js, now) :: messages => do
    let first ← orderer.onMessage js now
    let rest ← onMessages first.1 messages
    return (rest.1, first.2 ++ rest.2)

def onOfflineBatch
    (orderer : PlainOrderer)
    (messages : List (Json × TimePoint))
    (visits : Visits) :
    Except JsonException (PlainOrderer × List Effect) := do
  let received ← orderer.onMessages messages
  let flushed := received.1.flush visits
  return (flushed.1, received.2 ++ flushed.2)

def call
    (orderer : PlainOrderer) :
    Call →
      Except JsonException (PlainOrderer × List Effect)
| .onMessage js now => orderer.onMessage js now
| .tick now visits => return orderer.tick now visits
| .onOfflineBatch messages visits =>
    orderer.onOfflineBatch messages visits

/- Run the calls in order. -/
def runCalls
    (orderer : PlainOrderer) :
    List Call →
      Except JsonException (PlainOrderer × List Effect)
| [] => return (orderer, [])
| first :: calls => do
    let result ← orderer.call first
    let rest ← runCalls result.1 calls
    return (rest.1, result.2 ++ rest.2)

end PlainOrderer

------------------------------------------------------------
-- Forgetting the Set of One Channel
------------------------------------------------------------

namespace Channel

/- The channel without its set. -/
def forget (ch : Channel) : PlainChannel where
  initialized := ch.initialized
  expect := ch.expect
  pending := ch.pending
  gapSince := ch.gapSince

/- The result of an operation without the set. -/
def forgetResult
    (result : Channel × List Effect) :
    PlainChannel × List Effect :=
  (result.1.forget, result.2)

theorem forget_drainLoop
    (ch : Channel)
    (entries : List (Nat × Json))
    (hSorted : entries.Pairwise (fun a b => a.1 < b.1)) :
    ch.forget.drainLoop entries hSorted =
      forgetResult (ch.drainLoop entries hSorted) := by
  induction entries generalizing ch with
  | nil => rfl
  | cons entry entries ih =>
      rcases entry with ⟨seq, js⟩
      have hExpect : ch.forget.expect = ch.expect := rfl
      unfold PlainChannel.drainLoop drainLoop
      rw [hExpect]
      split_ifs
      · rw [ih ch hSorted.of_cons]
        rfl
      · rfl
      · have hDeliver :
            (ch.forget.deliver js ch.expect).1 =
              (ch.deliver js ch.expect).1.forget := rfl
        dsimp only
        rw [hDeliver, ih _ hSorted.of_cons]
        rfl

theorem forget_drainPending
    (ch : Channel)
    (now : TimePoint) :
    ch.forget.drainPending now =
      forgetResult (ch.drainPending now) := by
  have hLoop :
      ch.forget.drainLoop ch.forget.pending.entries
          ch.forget.pending.sorted =
        forgetResult
          (ch.drainLoop ch.pending.entries
            ch.pending.sorted) :=
    forget_drainLoop ch _ _
  unfold PlainChannel.drainPending drainPending
  rw [hLoop]
  dsimp only [forgetResult, forget]
  split_ifs <;> rfl

theorem forget_release
    (ch : Channel)
    (now : TimePoint) :
    ch.forget.release now =
      forgetResult (ch.release now) := by
  have hPending : ch.forget.pending = ch.pending := rfl
  unfold PlainChannel.release release
  rw [hPending]
  cases ch.pending.entries with
  | nil => rfl
  | cons entry entries =>
      exact
        forget_drainPending { ch with expect := entry.1 } now

theorem forget_tick
    (ch : Channel)
    (gapTimeoutMs : Int)
    (now drainNow : TimePoint) :
    ch.forget.tick gapTimeoutMs now drainNow =
      forgetResult (ch.tick gapTimeoutMs now drainNow) := by
  unfold PlainChannel.tick tick
  simp only [forget_release, apply_ite forgetResult]
  rfl

theorem forget_flush
    (ch : Channel)
    (drainNow : TimePoint) :
    ch.forget.flush drainNow =
      forgetResult (ch.flush drainNow) := by
  unfold PlainChannel.flush flush
  simp only [forget_release, apply_ite forgetResult]
  rfl

theorem forget_startAt
    (ch : Channel)
    (seq : Nat) :
    ch.forget.startAt seq = (ch.startAt seq).forget := by
  unfold PlainChannel.startAt startAt
  rw [apply_ite forget]
  rfl

/- The only test of the set: what it holds lies below
`expect`, so the comparison alone finds every duplicate. -/
theorem forget_receive
    {conv : String}
    {ch : Channel}
    (hOrdered : Ordered conv ch)
    (js : Json)
    (seq : Nat)
    (now : TimePoint) :
    ch.forget.receive js seq now =
      forgetResult (ch.receive js seq now) := by
  have hBelow :
      seq ∈ (ch.startAt seq).delivered →
        seq < (ch.startAt seq).expect := by
    unfold startAt
    split
    · exact hOrdered.below seq
    · rename_i hNot
      have hIdle :=
        hOrdered.idle (Bool.eq_false_iff.mpr hNot)
      simp [hIdle.2.1]
  have hTest :
      (seq < (ch.startAt seq).expect ∨
          seq ∈ (ch.startAt seq).delivered) ↔
        seq < (ch.startAt seq).expect :=
    or_iff_left_of_imp hBelow
  have hDrain :=
    forget_drainPending
      ((ch.startAt seq).deliver js seq).1 now
  have hDelivery :
      ((ch.startAt seq).forget.deliver js seq).1 =
        ((ch.startAt seq).deliver js seq).1.forget := rfl
  unfold PlainChannel.receive receive
  simp only [hTest, forget_startAt, hDelivery, hDrain,
    apply_ite forgetResult]
  rfl

end Channel

------------------------------------------------------------
-- Forgetting the Sets of the Orderer
------------------------------------------------------------

namespace ConversationOrderer

/- The orderer without its sets. -/
def forget (orderer : ConversationOrderer) :
    PlainOrderer where
  gapTimeoutMs := orderer.gapTimeoutMs
  channels := fun conv => (orderer.channels conv).forget

/- The result of an operation without the sets. -/
def forgetResult
    (result : ConversationOrderer × List Effect) :
    PlainOrderer × List Effect :=
  (result.1.forget, result.2)

theorem forget_setChannel
    (orderer : ConversationOrderer)
    (conv : String)
    (ch : Channel) :
    (orderer.setChannel conv ch).forget =
      orderer.forget.setChannel conv ch.forget := by
  unfold forget setChannel PlainOrderer.setChannel
  congr 1
  funext other
  by_cases hConv : other = conv
  · subst hConv
    simp
  · simp [hConv]

theorem forget_forChannels
    {body : TimePoint → Channel → Channel × List Effect}
    {plain :
      TimePoint → PlainChannel →
        PlainChannel × List Effect}
    (hBody :
      ∀ now ch,
        plain now ch.forget =
          Channel.forgetResult (body now ch))
    (orderer : ConversationOrderer)
    (visits : Visits) :
    orderer.forget.forChannels plain visits =
      forgetResult (orderer.forChannels body visits) := by
  induction visits generalizing orderer with
  | nil => rfl
  | cons visit visits ih =>
      have hVisit :
          plain visit.2 (orderer.forget.channels visit.1) =
            Channel.forgetResult
              (body visit.2 (orderer.channels visit.1)) :=
        hBody visit.2 (orderer.channels visit.1)
      unfold PlainOrderer.forChannels forChannels
      dsimp only
      rw [hVisit]
      dsimp only [Channel.forgetResult]
      rw [← forget_setChannel, ih]
      rfl

/- Every channel satisfies its invariant. -/
def AllOrdered (orderer : ConversationOrderer) : Prop :=
  ∀ conv, Channel.Ordered conv (orderer.channels conv)

theorem allOrdered_fresh (gapTimeoutMs : Int) :
    AllOrdered (fresh gapTimeoutMs) :=
  Channel.ordered_default

/- The numbers of the messages leave room for a successor. -/
def Bounded (messages : List Json) : Prop :=
  ∀ conv, ∀ seq ∈ numbersIn conv messages, seq < seqBound

theorem Bounded.of_append
    {front back : List Json}
    (hBounded : Bounded (front ++ back)) :
    Bounded front ∧ Bounded back := by
  constructor
  · intro conv seq hSeq
    apply hBounded conv
    rw [numbersIn_append]
    exact List.mem_append_left _ hSeq
  · intro conv seq hSeq
    apply hBounded conv
    rw [numbersIn_append]
    exact List.mem_append_right _ hSeq

theorem allOrdered_apply
    {orderer : ConversationOrderer}
    (hOrdered : AllOrdered orderer)
    {event : OrdererEvent}
    (hBounded : Bounded (receivedMessages [event])) :
    AllOrdered (orderer.apply event).1 := by
  intro conv
  have hStep :=
    (apply_projects event
      ⟨rfl, fun conv => (hOrdered conv).stamped⟩ conv).2
  have hAdmits :=
    @select_admits orderer.gapTimeoutMs conv [event]
      (hBounded conv)
  rw [List.flatMap_singleton] at hAdmits
  have hRun := Channel.run_ordered hAdmits (hOrdered conv)
  rw [hStep] at hRun
  exact hRun

theorem allOrdered_runFrom
    {orderer : ConversationOrderer}
    (hOrdered : AllOrdered orderer)
    {events : List OrdererEvent}
    (hBounded : Bounded (receivedMessages events)) :
    AllOrdered (orderer.runFrom events).1 := by
  induction events generalizing orderer with
  | nil => exact hOrdered
  | cons event events ih =>
      have hSplit :
          receivedMessages (event :: events) =
            receivedMessages [event] ++
              receivedMessages events := by
        unfold receivedMessages
        rw [← List.filterMap_append]
        rfl
      rw [hSplit] at hBounded
      have hParts := hBounded.of_append
      exact ih (allOrdered_apply hOrdered hParts.1) hParts.2

/- A call that returns keeps the invariant. -/
theorem allOrdered_call
    {orderer : ConversationOrderer}
    (hOrdered : AllOrdered orderer)
    {call : Call}
    (hBounded : Bounded call.messages)
    {result : ConversationOrderer × List Effect}
    (hReturned : orderer.call call = .ok result) :
    AllOrdered result.1 := by
  rw [call_eq_runEvents] at hReturned
  rw [runEvents_returned hReturned]
  apply allOrdered_runFrom hOrdered
  rw [receivedMessages_call]
  exact hBounded

theorem forget_onMessage
    {orderer : ConversationOrderer}
    (hOrdered : AllOrdered orderer)
    (js : Json)
    (now : TimePoint) :
    orderer.forget.onMessage js now =
      forgetResult <$> orderer.onMessage js now := by
  unfold PlainOrderer.onMessage onMessage
  cases js.find? msgFieldConvid with
  | none => rfl
  | some convid =>
      cases js.find? msgFieldSeq with
      | none => rfl
      | some seqField =>
          dsimp only
          split_ifs
          · cases convid.getString with
            | error exception => rfl
            | ok conv =>
                cases seqField.getUInt64 with
                | error exception => rfl
                | ok seq =>
                    have hReceive :
                        (orderer.forget.channels
                            conv).receive js seq now =
                          Channel.forgetResult
                            ((orderer.channels conv).receive
                              js seq now) :=
                      Channel.forget_receive (hOrdered conv)
                        js seq now
                    change Except.ok _ = Except.ok _
                    rw [hReceive]
                    unfold forgetResult
                    rw [forget_setChannel]
                    rfl
          · rfl

theorem forget_onMessages
    {orderer : ConversationOrderer}
    (hOrdered : AllOrdered orderer)
    {messages : List (Json × TimePoint)}
    (hBounded : Bounded (messages.map Prod.fst)) :
    orderer.forget.onMessages messages =
      forgetResult <$> orderer.onMessages messages := by
  induction messages generalizing orderer with
  | nil => rfl
  | cons m messages ih =>
      rcases m with ⟨js, now⟩
      have hParts :=
        @Bounded.of_append [js] (messages.map Prod.fst)
          hBounded
      unfold PlainOrderer.onMessages onMessages
      rw [forget_onMessage hOrdered]
      cases hFirst : orderer.onMessage js now with
      | error exception => rfl
      | ok first =>
          have hNext :=
            @allOrdered_call orderer hOrdered
              (.onMessage js now) hParts.1 first hFirst
          have hRest := ih hNext hParts.2
          change
            (do
              let rest ← first.1.forget.onMessages messages
              return (rest.1, first.2 ++ rest.2)) = _
          rw [hRest]
          change
            _ = forgetResult <$> (do
              let rest ← first.1.onMessages messages
              return (rest.1, first.2 ++ rest.2))
          cases first.1.onMessages messages <;> rfl

theorem forget_tick
    (orderer : ConversationOrderer)
    (now : TimePoint)
    (visits : Visits) :
    orderer.forget.tick now visits =
      forgetResult (orderer.tick now visits) :=
  forget_forChannels
    (fun drainNow ch =>
      Channel.forget_tick ch orderer.gapTimeoutMs now
        drainNow)
    orderer visits

theorem forget_flush
    (orderer : ConversationOrderer)
    (visits : Visits) :
    orderer.forget.flush visits =
      forgetResult (orderer.flush visits) :=
  forget_forChannels
    (fun drainNow ch => Channel.forget_flush ch drainNow)
    orderer visits

/- Every call does without the sets what it does with
them. -/
theorem forget_call
    {orderer : ConversationOrderer}
    (hOrdered : AllOrdered orderer)
    {call : Call}
    (hBounded : Bounded call.messages) :
    orderer.forget.call call =
      forgetResult <$> orderer.call call := by
  cases call with
  | onMessage js now =>
      exact forget_onMessage hOrdered js now
  | tick now visits =>
      exact congrArg Except.ok (forget_tick orderer now visits)
  | onOfflineBatch messages visits =>
      change
        orderer.forget.onOfflineBatch messages visits =
          forgetResult <$>
            orderer.onOfflineBatch messages visits
      unfold PlainOrderer.onOfflineBatch onOfflineBatch
      rw [forget_onMessages hOrdered hBounded]
      cases orderer.onMessages messages with
      | error exception => rfl
      | ok received =>
          change Except.ok _ = Except.ok _
          dsimp only [forgetResult]
          rw [forget_flush]
          rfl

theorem forget_runCalls
    {orderer : ConversationOrderer}
    (hOrdered : AllOrdered orderer)
    {calls : List Call}
    (hBounded : Bounded (calls.flatMap Call.messages)) :
    orderer.forget.runCalls calls =
      forgetResult <$> orderer.runCalls calls := by
  induction calls generalizing orderer with
  | nil => rfl
  | cons call calls ih =>
      rw [List.flatMap_cons] at hBounded
      have hParts := hBounded.of_append
      unfold PlainOrderer.runCalls runCalls
      rw [forget_call hOrdered hParts.1]
      cases hFirst : orderer.call call with
      | error exception => rfl
      | ok first =>
          have hRest :=
            ih (allOrdered_call hOrdered hParts.1 hFirst)
              hParts.2
          change
            (do
              let rest ← first.1.forget.runCalls calls
              return (rest.1, first.2 ++ rest.2)) = _
          rw [hRest]
          change
            _ = forgetResult <$> (do
              let rest ← first.1.runCalls calls
              return (rest.1, first.2 ++ rest.2))
          cases first.1.runCalls calls <;> rfl

/-
  Whatever the calls, the orderer does to messages what the
  plain orderer does, and throws when it throws.  So clearing
  the set changes nothing, and no number is displayed twice.
-/
theorem delivered_set_is_harmless
    (gapTimeoutMs : Int)
    {calls : List Call}
    (hBounded : Bounded (calls.flatMap Call.messages)) :
    Prod.snd <$> (fresh gapTimeoutMs).runCalls calls =
        Prod.snd <$>
          (PlainOrderer.fresh gapTimeoutMs).runCalls
            calls ∧
      ∀ orderer log,
        (fresh gapTimeoutMs).runCalls calls =
            .ok (orderer, log) →
          ∀ conv, (numbersIn conv (emitted log)).Nodup := by
  constructor
  · have hRuns :=
      forget_runCalls (allOrdered_fresh gapTimeoutMs)
        hBounded
    have hFresh :
        (fresh gapTimeoutMs).forget =
          PlainOrderer.fresh gapTimeoutMs := rfl
    rw [hFresh] at hRuns
    rw [hRuns]
    cases (fresh gapTimeoutMs).runCalls calls <;> rfl
  · intro orderer log hRun conv
    rw [runCalls_eq_runEvents] at hRun
    rw [← receivedMessages_calls] at hBounded
    have hLog := congrArg Prod.snd (runEvents_returned hRun)
    change log = _ at hLog
    rw [hLog, displayed_eq_channel]
    apply List.Pairwise.imp Nat.ne_of_lt
    exact
      (Channel.run_numbers_sorted
        (select_admits (hBounded conv))).1

/- More messages than the set holds, each of them twice. -/
def longRun : List Call :=
  (List.range 5000).flatMap fun seq =>
    [.onMessage (numberedMessage "g7" seq) 10,
      .onMessage (numberedMessage "g7" seq) 11]

theorem longRun_is_displayed_once :
    Prod.snd <$> (fresh 800).runCalls longRun =
        Prod.snd <$>
          (PlainOrderer.fresh 800).runCalls longRun ∧
      ∀ orderer log,
        (fresh 800).runCalls longRun =
            .ok (orderer, log) →
          ∀ conv,
            (numbersIn conv (emitted log)).Nodup := by
  apply delivered_set_is_harmless
  intro conv
  apply numbers_bounded
  intro js hMember
  have hMessage :
      ∃ seq < 5000, js = numberedMessage "g7" seq := by
    simp only [longRun, List.flatMap_assoc,
      List.mem_flatMap, List.mem_range, Call.messages,
      List.flatMap_cons, List.flatMap_nil] at hMember
    rcases hMember with ⟨seq, hSeq, hJs⟩
    exact ⟨seq, hSeq, by simpa using hJs⟩
  rcases hMessage with ⟨seq, hSeq, rfl⟩
  apply deliverable_numberedMessage
  unfold seqBound
  omega

end ConversationOrderer

end ClusterChat
