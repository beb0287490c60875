import ClusterChat.Client.Timeouts

/-
  How long a hole blocks the display while the client's loop
  waits for a frame.

  A hole is open since the end of the turn behind which its
  channel had something pending and expected the same number
  ever since.  The loop calls `tick` only when a frame has
  arrived, so the age of a hole is bounded exactly if the time
  since the last call is.

  Main declarations:
    * `Client.openSince`
    * `Client.LoopRun`
    * `Client.holesBounded_iff`
-/

------------------------------------------------------------
-- The Clock of a Channel
------------------------------------------------------------

namespace ClusterChat

/- The readings that an event stores are taken after the
clock's epoch and no later than `last`. -/
def ChannelEvent.ReadUntil
    (last : TimePoint) : ChannelEvent → Prop
| .receive _ _ now => 0 < now ∧ now ≤ last
| .tick _ _ drainNow => 0 < drainNow ∧ drainNow ≤ last
| .flush drainNow => 0 < drainNow ∧ drainNow ≤ last

namespace Channel

/- A channel with pending messages knows since when, and
that was no later than `last`. -/
structure Clocked
    (last : TimePoint)
    (ch : Channel) : Prop where
  started : ch.pending.entries ≠ [] → ch.gapSince ≠ 0
  past : ch.gapSince ≤ last

variable {last : TimePoint} {ch : Channel}

theorem clocked_default
    (hLast : 0 ≤ last) :
    Clocked last {} :=
  ⟨fun hPending => absurd rfl hPending, hLast⟩

theorem Clocked.mono
    {later : TimePoint}
    (hClocked : Clocked last ch)
    (hLe : last ≤ later) :
    Clocked later ch :=
  ⟨hClocked.started, hClocked.past.trans hLe⟩

theorem drainPending_clocked
    {now : TimePoint}
    (hNow : 0 < now ∧ now ≤ last)
    (hPast : ch.gapSince ≤ last) :
    Clocked last (ch.drainPending now).1 := by
  have hLoop :
      (ch.drainLoop ch.pending.entries
          ch.pending.sorted).1.gapSince ≤ last := by
    rcases
        drainLoop_gapSince ch ch.pending.entries
          ch.pending.sorted with hKept | hCleared
    · rw [hKept]
      exact hPast
    · rw [hCleared]
      exact (hNow.1.trans_le hNow.2).le
  unfold drainPending
  dsimp only
  split_ifs with hStart
  · exact ⟨fun _ => hNow.1.ne', hNow.2⟩
  · refine ⟨?_, hLoop⟩
    intro hPending hCleared
    exact hStart ⟨hPending, hCleared⟩

theorem release_clocked
    (hClocked : Clocked last ch)
    {now : TimePoint}
    (hNow : 0 < now ∧ now ≤ last) :
    Clocked last (ch.release now).1 := by
  unfold release
  split
  · exact hClocked
  · exact drainPending_clocked hNow hClocked.past

theorem receive_clocked
    (hClocked : Clocked last ch)
    (js : Json)
    (seq : Nat)
    {now : TimePoint}
    (hNow : 0 < now ∧ now ≤ last) :
    Clocked last (ch.receive js seq now).1 := by
  have hStart :
      (ch.startAt seq).gapSince = ch.gapSince ∧
        (ch.startAt seq).pending = ch.pending := by
    unfold startAt
    split <;> exact ⟨rfl, rfl⟩
  unfold receive
  dsimp only
  split_ifs with hLate hExpected hClear
  · refine ⟨?_, ?_⟩
    · rw [hStart.1, hStart.2]
      exact hClocked.started
    · rw [hStart.1]
      exact hClocked.past
  · exact
      drainPending_clocked hNow (hNow.1.trans_le hNow.2).le
  · exact ⟨fun _ => hNow.1.ne', hNow.2⟩
  · refine ⟨fun _ => hClear, ?_⟩
    rw [hStart.1]
    exact hClocked.past

/- An event read in time keeps the clock right. -/
theorem step_clocked
    (hClocked : Clocked last ch)
    {event : ChannelEvent}
    (hRead : event.ReadUntil last) :
    Clocked last (ch.step event).1 := by
  cases event with
  | receive js seq now =>
      exact receive_clocked hClocked js seq hRead
  | tick gapTimeoutMs now drainNow =>
      by_cases hTimedOut : ch.TimedOut gapTimeoutMs now
      · change
          Clocked last (ch.tick gapTimeoutMs now drainNow).1
        rw [tick_of_timedOut hTimedOut]
        exact release_clocked hClocked hRead
      · change
          Clocked last (ch.tick gapTimeoutMs now drainNow).1
        rw [tick_of_not_timedOut hTimedOut]
        exact hClocked
  | flush drainNow =>
      change Clocked last (ch.flush drainNow).1
      unfold flush
      split_ifs
      · exact release_clocked hClocked hRead
      · exact hClocked

/- As long as the same number is missing, the clock of a
hole runs on. -/
theorem receive_same_hole
    {conv : String}
    (hOrdered : Ordered conv ch)
    (hPending : ch.pending.entries ≠ [])
    (hStarted : ch.gapSince ≠ 0)
    {js : Json}
    {seq : Nat}
    (hBound : seq < seqBound)
    (now : TimePoint)
    (hSame : (ch.receive js seq now).1.expect = ch.expect) :
    (ch.receive js seq now).1.gapSince = ch.gapSince := by
  have hInitialized :=
    hOrdered.initialized_of_pending hPending
  have hStart : ch.startAt seq = ch := by
    simp [startAt, hInitialized]
  by_cases hExpected : seq = ch.expect
  · exfalso
    have hOutcome :=
      @receive_outcome conv ch hOrdered js seq now hBound
    generalize ch.receive js seq now = result
      at hOutcome hSame
    cases hOutcome with
    | idle hNoArrival => cases hNoArrival
    | discarded _ hBelow => omega
    | buffered _ hAbove => omega
    | delivered _ hReleases _ =>
        rw [hReleases.expect,
          ConsecutiveRun.takeRun_cons_self,
          List.length_cons] at hSame
        omega
    | released hNoArrival => cases hNoArrival
  · unfold receive
    dsimp only
    rw [hStart, if_neg hExpected]
    split_ifs <;> rfl

theorem expect_lt_release
    {conv : String}
    (hOrdered : Ordered conv ch)
    (hPending : ch.pending.entries ≠ [])
    (drainNow : TimePoint) :
    ch.expect < (ch.release drainNow).1.expect := by
  cases hEntries : ch.pending.entries with
  | nil => exact absurd hEntries hPending
  | cons entry entries =>
      have hReleases :=
        (release_releases hOrdered hEntries drainNow).1
      have hAbove : ch.expect < entry.1 := by
        apply hOrdered.above
        rw [hEntries]
        exact List.mem_cons_self
      rw [hReleases.expect]
      omega

end Channel

------------------------------------------------------------
-- The Clocks of All Channels
------------------------------------------------------------

/- The readings of an event, in the same sense. -/
def OrdererEvent.ReadUntil
    (last : TimePoint) : OrdererEvent → Prop
| .message _ now => 0 < now ∧ now ≤ last
| .tick _ visits =>
    ∀ visit ∈ visits, 0 < visit.2 ∧ visit.2 ≤ last
| .flush visits =>
    ∀ visit ∈ visits, 0 < visit.2 ∧ visit.2 ≤ last

namespace Client

variable {codec : JsonCodec}
variable {orderer : ConversationOrderer}
variable {last : TimePoint}

theorem select_readUntil
    {event : OrdererEvent}
    (hRead : event.ReadUntil last)
    (gapTimeoutMs : Int)
    (conv : String) :
    ∀ selected ∈
        ConversationOrderer.select gapTimeoutMs conv event,
      selected.ReadUntil last := by
  intro selected hSelected
  cases event with
  | message js now =>
      cases hSeq : js.seqIn conv with
      | none =>
          simp [ConversationOrderer.select, hSeq]
            at hSelected
      | some seq =>
          have hSelf : selected = .receive js seq now := by
            simpa [ConversationOrderer.select, hSeq]
              using hSelected
          rw [hSelf]
          exact hRead
  | tick now visits =>
      rcases List.mem_map.mp hSelected with
        ⟨visit, hVisit, hMade⟩
      rw [← hMade]
      exact hRead visit (List.mem_of_mem_filter hVisit)
  | flush visits =>
      rcases List.mem_map.mp hSelected with
        ⟨visit, hVisit, hMade⟩
      rw [← hMade]
      exact hRead visit (List.mem_of_mem_filter hVisit)

theorem clocked_apply
    (hHealthy : Healthy orderer)
    {event : OrdererEvent}
    (hRead : event.ReadUntil last)
    {conv : String}
    (hClocked :
      Channel.Clocked last (orderer.channels conv)) :
    Channel.Clocked last
      ((orderer.apply event).1.channels conv) := by
  have hStep :=
    (ConversationOrderer.apply_projects event
      hHealthy.stamped conv).2
  have hRun :=
    Transducer.run_invariant
      (ChannelEvent.ReadUntil last) (Channel.Clocked last)
      (fun _ _ hEvent hState =>
        Channel.step_clocked hState hEvent)
      (select_readUntil hRead orderer.gapTimeoutMs conv)
      hClocked
  rw [hStep] at hRun
  exact hRun

/-
  The orderer when the loop starts: after any calls on
  deliverable messages, all read by then.
-/
structure Begins
    (gapTimeoutMs : Int)
    (startedAt : TimePoint)
    (orderer : ConversationOrderer) : Prop where
  afterEpoch : 0 < startedAt
  called :
    ∃ calls effects,
      (∀ js ∈ calls.flatMap Call.messages,
          js.Deliverable) ∧
        (∀ event ∈ calls.flatMap Call.events,
          event.ReadUntil startedAt) ∧
          (ConversationOrderer.fresh gapTimeoutMs).runCalls
              calls =
            .ok (orderer, effects)

theorem begins_fresh (gapTimeoutMs : Int) :
    Begins gapTimeoutMs 1
      (ConversationOrderer.fresh gapTimeoutMs) where
  afterEpoch := by decide
  called := ⟨[], [], by simp, by simp, rfl⟩

theorem Begins.healthy
    {gapTimeoutMs : Int}
    {startedAt : TimePoint}
    (hBegins : Begins gapTimeoutMs startedAt orderer) :
    Healthy orderer := by
  rcases hBegins.called with
    ⟨calls, effects, hDeliverable, _, hRun⟩
  exact healthy_runCalls hDeliverable hRun

theorem Begins.clocked
    {gapTimeoutMs : Int}
    {startedAt : TimePoint}
    (hBegins : Begins gapTimeoutMs startedAt orderer)
    (conv : String) :
    orderer.gapTimeoutMs = gapTimeoutMs ∧
      Channel.Clocked startedAt (orderer.channels conv) := by
  rcases hBegins.called with
    ⟨calls, effects, hDeliverable, hRead, hRun⟩
  have hString :
      ∀ js ∈ calls.flatMap Call.messages,
        js.ConvidIsString :=
    fun js hMember => (hDeliverable js hMember).1
  rw [ConversationOrderer.runCalls_eq_run _ hString]
    at hRun
  have hOrderer :=
    congrArg Prod.fst (Except.ok.inj hRun)
  rw [← ConversationOrderer.receivedMessages_calls]
    at hDeliverable
  change _ = orderer at hOrderer
  rw [← hOrderer]
  have hInvariant :
      Healthy
          ((ConversationOrderer.fresh gapTimeoutMs).runFrom
            (calls.flatMap Call.events)).1 ∧
        ((ConversationOrderer.fresh gapTimeoutMs).runFrom
            (calls.flatMap Call.events)).1.gapTimeoutMs =
          gapTimeoutMs ∧
        Channel.Clocked startedAt
          (((ConversationOrderer.fresh gapTimeoutMs).runFrom
            (calls.flatMap Call.events)).1.channels conv) := by
    apply
      Transducer.run_invariant
        (fun event : OrdererEvent =>
          (∀ js,
              event.message? = some js →
                js.Deliverable) ∧
            event.ReadUntil startedAt)
        (fun state =>
          Healthy state ∧
            state.gapTimeoutMs = gapTimeoutMs ∧
            Channel.Clocked startedAt
              (state.channels conv))
        (fun state event hEvent hState =>
          ⟨healthy_apply hState.1 hEvent.1,
            (ConversationOrderer.apply_projects event
              hState.1.stamped conv).1.1.trans hState.2.1,
            clocked_apply hState.1 hEvent.2 hState.2.2⟩)
    · intro event hEvent
      refine ⟨?_, hRead event hEvent⟩
      intro js hMessage
      apply hDeliverable
      exact
        List.mem_filterMap.mpr ⟨event, hEvent, hMessage⟩
    · exact
        ⟨healthy_fresh gapTimeoutMs, rfl,
          Channel.clocked_default hBegins.afterEpoch.le⟩
  exact hInvariant.2

------------------------------------------------------------
-- Runs With Clock Readings
------------------------------------------------------------

/- The readings of a run never go back. -/
def Chronological : TimePoint → List Arrival → Prop
| _, [] => True
| last, arrival :: arrivals =>
    last ≤ arrival.tickedAt ∧
      (∀ visit ∈ arrival.visits,
        arrival.tickedAt ≤ visit.2 ∧
          visit.2 ≤ arrival.now) ∧
        arrival.tickedAt ≤ arrival.now ∧
          Chronological arrival.now arrivals

/- When `tick` was called last, or else the loop started. -/
def calledAt : TimePoint → List Arrival → TimePoint
| startedAt, [] => startedAt
| _, arrival :: arrivals =>
    calledAt arrival.tickedAt arrivals

/- When the last turn ended, or else the loop started. -/
def endedAt : TimePoint → List Arrival → TimePoint
| startedAt, [] => startedAt
| _, arrival :: arrivals => endedAt arrival.now arrivals

/-
  Since when the hole of a channel is open when a turn has
  ended: as before if the same number is still missing.
-/
def holeAfter
    (before after : Channel)
    (since : Option TimePoint)
    (now : TimePoint) : Option TimePoint :=
  if after.pending.entries = [] then
    none
  else if after.expect = before.expect then
    some (since.getD now)
  else
    some now

/- Since when the hole of a conversation is open when the
frames are handled. -/
def openSince
    (codec : JsonCodec)
    (conv : String)
    (client : Client)
    (since : Option TimePoint) :
    List Arrival → Option TimePoint
| [] => since
| arrival :: arrivals =>
    match client.readTask codec arrival with
    | .error _ => none
    | .ok turn =>
        openSince codec conv turn.after
          (holeAfter (client.orderer.channels conv)
            (turn.after.orderer.channels conv) since
            arrival.now)
          arrivals

/-
  A run of the loop up to a moment at which it waits for the
  next frame.
-/
structure LoopRun
    (codec : JsonCodec)
    (gapTimeoutMs : Int) where
  start : Client
  startedAt : TimePoint
  arrivals : List Arrival
  moment : TimePoint
  begins : Begins gapTimeoutMs startedAt start.orderer
  timed : Chronological startedAt arrivals
  waits : endedAt startedAt arrivals ≤ moment
  deliverable :
    ∀ arrival ∈ arrivals, ChatDeliverable codec arrival
  sweeps :
    ∀ visited ∈ moments codec start arrivals,
      visited.1.orderer.Enumerates visited.2.visits

namespace LoopRun

variable {gapTimeoutMs : Int}

/- The time since the last call of `tick`. -/
def sinceTick (run : LoopRun codec gapTimeoutMs) : Int :=
  run.moment - calledAt run.startedAt run.arrivals

/- Since when a hole of the conversation blocks the display. -/
def blockedSince
    (run : LoopRun codec gapTimeoutMs)
    (conv : String) : Option TimePoint :=
  let first :=
    if (run.start.orderer.channels conv).pending.entries =
        [] then
      none
    else
      some run.startedAt
  openSince codec conv run.start first run.arrivals

/- Some hole is open for longer than the bound. -/
def BlockedLonger
    (run : LoopRun codec gapTimeoutMs)
    (bound : Int) : Prop :=
  ∃ conv since,
    run.blockedSince conv = some since ∧
      bound < run.moment - since

end LoopRun

/-
  One bound holds in all runs that call `tick` often enough:
  never longer ago than the limit, if there is one.
-/
def HolesBounded
    (codec : JsonCodec)
    (gapTimeoutMs : Int)
    (limit : Option Int) : Prop :=
  ∃ bound,
    ∀ run : LoopRun codec gapTimeoutMs,
      (∀ longest ∈ limit, run.sinceTick ≤ longest) →
        ¬ run.BlockedLonger bound

------------------------------------------------------------
-- One Turn
------------------------------------------------------------

/- What a turn leaves of a channel: what `tick` left, or what
the message of the frame made of that. -/
theorem readTask_after_channel
    {client : Client}
    {arrival : Arrival}
    (hDeliverable : ChatDeliverable codec arrival)
    {turn : Turn}
    (hTurn : client.readTask codec arrival = .ok turn)
    (conv : String) :
    turn.after.orderer.channels conv =
        (client.ticked arrival).channels conv ∨
      ∃ js seq,
        Channel.Admits conv (.receive js seq arrival.now) ∧
          turn.after.orderer.channels conv =
            (((client.ticked arrival).channels conv).receive
              js seq arrival.now).1 := by
  cases hChat : chatMessage? codec arrival.body with
  | none =>
      rw [readTask_of_other hChat hTurn]
      exact Or.inl rfl
  | some js =>
      have hMessage := hDeliverable js hChat
      rcases readTask_of_chat hChat hMessage.1 client with
        ⟨other, hOther, _, hAfter⟩
      rw [hTurn] at hOther
      cases hOther
      cases hNumbered : js.numbered? with
      | none =>
          rw [ConversationOrderer.apply_unnumbered _ _
            hNumbered] at hAfter
          rw [hAfter]
          exact Or.inl rfl
      | some stamp =>
          rw [ConversationOrderer.apply_numbered _ _
            hNumbered] at hAfter
          rw [hAfter]
          by_cases hConv : conv = stamp.1
          · have hBound :=
              hMessage.2 stamp.1 stamp.2 hNumbered
            refine
              Or.inr
                ⟨js, stamp.2, ⟨hConv ▸ hNumbered, hBound⟩, ?_⟩
            rw [hConv, ConversationOrderer.setChannel_self]
          · rw [ConversationOrderer.setChannel_of_ne _ hConv]
            exact Or.inl rfl

/- The readings of one turn, after `last`. -/
structure Timed
    (last : TimePoint)
    (arrival : Arrival) : Prop where
  ticked : last ≤ arrival.tickedAt
  drained :
    ∀ visit ∈ arrival.visits,
      arrival.tickedAt ≤ visit.2 ∧ visit.2 ≤ arrival.now
  ended : arrival.tickedAt ≤ arrival.now

theorem clocked_ticked
    {client : Client}
    (hHealthy : Healthy client.orderer)
    {arrival : Arrival}
    (hLast : 0 < last)
    (hTimed : Timed last arrival)
    {conv : String}
    (hClocked :
      Channel.Clocked last
        (client.orderer.channels conv)) :
    Channel.Clocked arrival.now
      ((client.ticked arrival).channels conv) := by
  have hRead :
      (OrdererEvent.tick arrival.tickedAt
        arrival.visits).ReadUntil arrival.now := by
    intro visit hVisit
    have hDrained := hTimed.drained visit hVisit
    have hAfter := hTimed.ticked.trans hDrained.1
    exact ⟨hLast.trans_le hAfter, hDrained.2⟩
  exact
    clocked_apply hHealthy hRead
      (hClocked.mono (hTimed.ticked.trans hTimed.ended))

theorem clocked_readTask
    {client : Client}
    (hHealthy : Healthy client.orderer)
    {arrival : Arrival}
    (hDeliverable : ChatDeliverable codec arrival)
    (hLast : 0 < last)
    (hTimed : Timed last arrival)
    {turn : Turn}
    (hTurn : client.readTask codec arrival = .ok turn)
    {conv : String}
    (hClocked :
      Channel.Clocked last
        (client.orderer.channels conv)) :
    Channel.Clocked arrival.now
      (turn.after.orderer.channels conv) := by
  have hTicked :=
    clocked_ticked hHealthy hLast hTimed hClocked
  rcases readTask_after_channel hDeliverable hTurn conv with
    hSame | ⟨js, seq, _, hReceived⟩
  · rw [hSame]
    exact hTicked
  · rw [hReceived]
    have hAfter := hTimed.ticked.trans hTimed.ended
    exact
      Channel.receive_clocked hTicked js seq
        ⟨hLast.trans_le hAfter, le_refl _⟩

/- The timeout in nanoseconds; it is never negative. -/
def timeoutNs (gapTimeoutMs : Int) : Int :=
  max gapTimeoutMs 0 * 1000000

theorem le_timeoutNs
    {waited gapTimeoutMs : Int}
    (hShort : waited.tdiv 1000000 < gapTimeoutMs) :
    waited ≤ timeoutNs gapTimeoutMs := by
  unfold timeoutNs
  by_cases hSign : 0 ≤ waited
  · rw [Int.tdiv_eq_ediv_of_nonneg hSign] at hShort
    omega
  · omega

theorem age_of_not_timedOut
    {ch : Channel}
    {gapTimeoutMs : Int}
    {now : TimePoint}
    (hInTime : ¬ ch.TimedOut gapTimeoutMs now)
    (hPending : ch.pending.entries ≠ [])
    (hStarted : ch.gapSince ≠ 0) :
    now - ch.gapSince ≤ timeoutNs gapTimeoutMs := by
  apply le_timeoutNs
  by_contra hLong
  exact hInTime ⟨hPending, hStarted, Int.not_lt.mp hLong⟩

/-
  A turn behind which the same number is still missing did
  not time the hole out, and left its clock alone.
-/
theorem readTask_same_hole
    {client : Client}
    (hHealthy : Healthy client.orderer)
    {arrival : Arrival}
    (hDeliverable : ChatDeliverable codec arrival)
    (hVisits : client.orderer.Enumerates arrival.visits)
    {turn : Turn}
    (hTurn : client.readTask codec arrival = .ok turn)
    {conv : String}
    (hClocked :
      Channel.Clocked last
        (client.orderer.channels conv))
    (hPending :
      (client.orderer.channels conv).pending.entries ≠ [])
    (hSame :
      (turn.after.orderer.channels conv).expect =
        (client.orderer.channels conv).expect) :
    (turn.after.orderer.channels conv).gapSince =
        (client.orderer.channels conv).gapSince ∧
      arrival.tickedAt -
          (client.orderer.channels conv).gapSince ≤
        timeoutNs client.orderer.gapTimeoutMs := by
  have hOrdered := hHealthy.ordered conv
  have hTickedOrdered :=
    (healthy_ticked hHealthy arrival).ordered conv
  have hStarted := hClocked.started hPending
  rcases
      ticked_channel hHealthy hVisits
        (hOrdered.initialized_of_pending hPending) with
    ⟨drainNow, _, hTicked⟩
  have hMonotone :
      ((client.ticked arrival).channels conv).expect ≤
        (turn.after.orderer.channels conv).expect := by
    rcases readTask_after_channel hDeliverable hTurn conv
      with hKept | ⟨js, seq, hAdmits, hReceived⟩
    · rw [hKept]
    · rw [hReceived]
      exact Channel.step_expect_le hTickedOrdered hAdmits
  have hInTime :
      ¬ (client.orderer.channels conv).TimedOut
        client.orderer.gapTimeoutMs arrival.tickedAt := by
    intro hTimedOut
    have hPassed :=
      Channel.expect_lt_release hOrdered hPending drainNow
    rw [← Channel.tick_of_timedOut hTimedOut, ← hTicked]
      at hPassed
    omega
  rw [Channel.tick_of_not_timedOut hInTime] at hTicked
  refine
    ⟨?_, age_of_not_timedOut hInTime hPending hStarted⟩
  rcases readTask_after_channel hDeliverable hTurn conv
    with hKept | ⟨js, seq, hAdmits, hReceived⟩
  · rw [hKept, hTicked]
  · rw [hTicked] at hReceived
    rw [hReceived] at hSame ⊢
    exact
      Channel.receive_same_hole hOrdered hPending hStarted
        hAdmits.2 arrival.now hSame

------------------------------------------------------------
-- The Age of a Hole
------------------------------------------------------------

/-
  What a turn preserves: the clock of an open hole started no
  later than it opened, and the last call of `tick` found it
  younger than the timeout, unless it opened later.
-/
def Aging
    (gapTimeoutMs : Int)
    (ch : Channel)
    (called : TimePoint)
    (since : Option TimePoint) : Prop :=
  ∀ opened ∈ since,
    ch.pending.entries ≠ [] ∧ ch.gapSince ≤ opened ∧
      (called ≤ opened ∨
        called - ch.gapSince ≤ timeoutNs gapTimeoutMs)

theorem aging_readTask
    {client : Client}
    (hHealthy : Healthy client.orderer)
    {arrival : Arrival}
    (hDeliverable : ChatDeliverable codec arrival)
    (hVisits : client.orderer.Enumerates arrival.visits)
    (hLast : 0 < last)
    (hTimed : Timed last arrival)
    {turn : Turn}
    (hTurn : client.readTask codec arrival = .ok turn)
    {conv : String}
    (hClocked :
      Channel.Clocked last
        (client.orderer.channels conv))
    {called : TimePoint}
    {since : Option TimePoint}
    (hAging :
      Aging client.orderer.gapTimeoutMs
        (client.orderer.channels conv) called since) :
    Aging client.orderer.gapTimeoutMs
      (turn.after.orderer.channels conv) arrival.tickedAt
      (holeAfter (client.orderer.channels conv)
        (turn.after.orderer.channels conv) since
        arrival.now) := by
  have hNext :=
    clocked_readTask hHealthy hDeliverable hLast hTimed hTurn
      hClocked
  have hNew :
      (turn.after.orderer.channels conv).pending.entries ≠
          [] →
        Aging client.orderer.gapTimeoutMs
          (turn.after.orderer.channels conv)
          arrival.tickedAt (some arrival.now) := by
    intro hPending opened hOpened
    cases hOpened
    exact ⟨hPending, hNext.past, Or.inl hTimed.ended⟩
  unfold holeAfter
  split_ifs with hPending hSame
  · intro opened hOpened
    cases hOpened
  · cases since with
    | none => exact hNew hPending
    | some first =>
        rcases hAging first rfl with ⟨hBefore, hStarted, _⟩
        rcases
            readTask_same_hole hHealthy hDeliverable hVisits
              hTurn hClocked hBefore hSame with
          ⟨hClock, hYoung⟩
        intro opened hOpened
        cases hOpened
        rw [hClock]
        exact ⟨hPending, hStarted, Or.inr hYoung⟩
  · exact hNew hPending

/- The run lemma: what holds of a hole behind a run. -/
theorem aging_run
    {arrivals : List Arrival}
    {client : Client}
    (hHealthy : Healthy client.orderer)
    (hDeliverable :
      ∀ arrival ∈ arrivals, ChatDeliverable codec arrival)
    (hVisits :
      ∀ visited ∈ moments codec client arrivals,
        visited.1.orderer.Enumerates visited.2.visits)
    (hLast : 0 < last)
    (hTimed : Chronological last arrivals)
    {conv : String}
    (hClocked :
      Channel.Clocked last
        (client.orderer.channels conv))
    {called : TimePoint}
    {since : Option TimePoint}
    (hAging :
      Aging client.orderer.gapTimeoutMs
        (client.orderer.channels conv) called since) :
    ∃ ch,
      Aging client.orderer.gapTimeoutMs ch
        (calledAt called arrivals)
        (openSince codec conv client since arrivals) := by
  induction arrivals generalizing client last called since with
  | nil => exact ⟨_, hAging⟩
  | cons arrival arrivals ih =>
      rcases hTimed with ⟨hTicked, hDrained, hEnded, hRest⟩
      have hTurnTimed : Timed last arrival :=
        ⟨hTicked, hDrained, hEnded⟩
      have hFirst :=
        hDeliverable arrival List.mem_cons_self
      unfold openSince calledAt
      unfold moments at hVisits
      cases hTurn : client.readTask codec arrival with
      | error exception =>
          refine ⟨client.orderer.channels conv, ?_⟩
          intro opened hOpened
          cases hOpened
      | ok turn =>
          rw [hTurn] at hVisits
          have hNow :=
            hVisits (client, arrival) List.mem_cons_self
          have hNext :=
            healthy_readTask hHealthy hFirst hTurn
          have hTimeout :
              turn.after.orderer.gapTimeoutMs =
                client.orderer.gapTimeoutMs :=
            readTask_gapTimeoutMs hHealthy hFirst hTurn
          have hClock :=
            clocked_readTask hHealthy hFirst hLast
              hTurnTimed hTurn hClocked
          have hAge :=
            aging_readTask hHealthy hFirst hNow hLast
              hTurnTimed hTurn hClocked hAging
          rw [← hTimeout] at hAge ⊢
          exact
            ih hNext
              (fun other hOther =>
                hDeliverable other
                  (List.mem_cons_of_mem _ hOther))
              (fun visited hVisited =>
                hVisits visited
                  (List.mem_cons_of_mem _ hVisited))
              (hLast.trans_le (hTicked.trans hEnded)) hRest
              hClock hAge

/- A hole is never older than the timeout and the time since
the last call of `tick` together. -/
theorem LoopRun.blocked_at_most
    {gapTimeoutMs : Int}
    (run : LoopRun codec gapTimeoutMs) :
    ¬ run.BlockedLonger
      (timeoutNs gapTimeoutMs + run.sinceTick) := by
  rintro ⟨conv, opened, hOpened, hLonger⟩
  rcases run.begins.clocked conv with ⟨hTimeout, hClocked⟩
  have hFirst :
      Aging run.start.orderer.gapTimeoutMs
        (run.start.orderer.channels conv) run.startedAt
        (if (run.start.orderer.channels
              conv).pending.entries = [] then
          none
        else
          some run.startedAt) := by
    intro first hSince
    split_ifs at hSince with hPending
    · cases hSince
    · cases hSince
      exact
        ⟨hPending, hClocked.past, Or.inl (le_refl _)⟩
  rcases
      aging_run run.begins.healthy run.deliverable run.sweeps
        run.begins.afterEpoch run.timed hClocked hFirst with
    ⟨ch, hAging⟩
  have hAge := hAging opened hOpened
  rw [hTimeout] at hAge
  have hTimeoutNs : 0 ≤ timeoutNs gapTimeoutMs := by
    unfold timeoutNs
    omega
  unfold LoopRun.sinceTick at hLonger
  rcases hAge with ⟨_, hStarted, hRecent | hYoung⟩
  · linarith
  · linarith

/- Messages 1 and 3 of a conversation. -/
def silentArrivals (codec : JsonCodec) : List Arrival :=
  [sampleArrival codec 1 2 false,
    sampleArrival codec 3 10 true]

theorem singleRun_silentArrivals
    (hFirst : codec.RoundTrips (sampleMessage 1))
    (hThird : codec.RoundTrips (sampleMessage 3)) :
    SingleRun codec "p1_2" false (silentArrivals codec) :=
  ⟨rfl, sampleArrival_brings hFirst (by decide) _ _,
    rfl, sampleArrival_brings hThird (by decide) _ _,
    trivial⟩

/- The loop after these messages, waiting for a frame. -/
def silentRun
    (gapTimeoutMs : Int)
    (hFirst : codec.RoundTrips (sampleMessage 1))
    (hThird : codec.RoundTrips (sampleMessage 3))
    (moment : TimePoint)
    (hMoment : 12 ≤ moment) :
    LoopRun codec gapTimeoutMs where
  start :=
    { sampleClient with
      orderer := ConversationOrderer.fresh gapTimeoutMs }
  startedAt := 1
  arrivals := silentArrivals codec
  moment := moment
  begins := begins_fresh gapTimeoutMs
  timed := by
    simp [silentArrivals, Chronological, sampleArrival]
  waits := hMoment
  deliverable :=
    chatDeliverable_of_single
      (singleRun_silentArrivals hFirst hThird)
  sweeps :=
    enumerates_of_single (healthy_fresh gapTimeoutMs)
      (fun _ _ => rfl)
      (singleRun_silentArrivals hFirst hThird)

/- The conversation's channel after message 1, and after
message 3. -/
def firstChannel : Channel :=
  (({} : Channel).receive (sampleMessage 1) 1 4).1

def thirdChannel : Channel :=
  (firstChannel.receive (sampleMessage 3) 3 12).1

theorem silentRun_blockedSince
    (gapTimeoutMs : Int)
    (hFirst : codec.RoundTrips (sampleMessage 1))
    (hThird : codec.RoundTrips (sampleMessage 3))
    (moment : TimePoint)
    (hMoment : 12 ≤ moment) :
    (silentRun gapTimeoutMs hFirst hThird moment
      hMoment).blockedSince "p1_2" = some 12 := by
  let start : Client :=
    { sampleClient with
      orderer := ConversationOrderer.fresh gapTimeoutMs }
  rcases
      readTask_channel
        (chatMessage?_sampleArrival hFirst 2 false)
        (numbered?_sampleMessage 1) start with
    ⟨turn, hTurn, _, hAfter⟩
  change
    turn.after.orderer.channels "p1_2" = firstChannel
    at hAfter
  rcases
      readTask_channel
        (chatMessage?_sampleArrival hThird 10 true)
        (numbered?_sampleMessage 3) turn.after with
    ⟨next, hNext, _, hLast⟩
  have hTicked :
      (turn.after.ticked
          (sampleArrival codec 3 10 true)).channels "p1_2" =
        firstChannel := by
    unfold ticked ConversationOrderer.tick
    simp only [sampleArrival,
      ConversationOrderer.forChannels, if_true,
      ConversationOrderer.setChannel_self, hAfter]
    rfl
  rw [hTicked] at hLast
  change
    next.after.orderer.channels "p1_2" = thirdChannel
    at hLast
  have hQuiet : firstChannel.pending.entries = [] := rfl
  have hOpen : thirdChannel.pending.entries ≠ [] := by
    decide +kernel
  have hExpect :
      thirdChannel.expect = firstChannel.expect := rfl
  change
    openSince codec "p1_2" start none
      (silentArrivals codec) = some 12
  unfold silentArrivals openSince
  rw [hTurn]
  dsimp only
  unfold openSince
  rw [hNext]
  dsimp only
  unfold openSince holeAfter
  rw [hLast, hAfter, if_pos hQuiet, if_neg hOpen,
    if_pos hExpect]
  rfl

/- In silence a hole gets older than any bound. -/
theorem exists_blocked_run
    (hFirst : codec.RoundTrips (sampleMessage 1))
    (hThird : codec.RoundTrips (sampleMessage 3))
    (gapTimeoutMs bound : Int) :
    ∃ run : LoopRun codec gapTimeoutMs,
      run.BlockedLonger bound := by
  have hMoment : (12 : Int) ≤ max bound 0 + 13 := by
    omega
  refine
    ⟨silentRun gapTimeoutMs hFirst hThird _ hMoment, "p1_2",
      12, silentRun_blockedSince _ _ _ _ _, ?_⟩
  change bound < max bound 0 + 13 - 12
  omega

/-
  The age of holes is bounded exactly if the time since the
  last call of `tick` is.
-/
theorem holesBounded_iff
    (hFirst : codec.RoundTrips (sampleMessage 1))
    (hThird : codec.RoundTrips (sampleMessage 3))
    (gapTimeoutMs : Int)
    (limit : Option Int) :
    HolesBounded codec gapTimeoutMs limit ↔
      limit ≠ none := by
  constructor
  · rintro ⟨bound, hBounded⟩ hNoLimit
    rcases
        exists_blocked_run hFirst hThird gapTimeoutMs bound
      with ⟨run, hBlocked⟩
    exact hBounded run (by simp [hNoLimit]) hBlocked
  · intro hLimit
    rcases Option.ne_none_iff_exists'.mp hLimit with
      ⟨longest, hLongest⟩
    refine ⟨timeoutNs gapTimeoutMs + longest, ?_⟩
    rintro run hShort ⟨conv, since, hSince, hLonger⟩
    have hRecent := hShort longest hLongest
    apply run.blocked_at_most
    exact ⟨conv, since, hSince, by linarith⟩

/- Under the timeout of 800 ms, a limit of one second is
enough. -/
theorem holesBounded_with_limit :
    HolesBounded sampleCodec 800 (some 1000000000) :=
  (holesBounded_iff (sampleCodec_roundTrips (by simp))
    (sampleCodec_roundTrips (by simp)) 800
    (some 1000000000)).mpr (by simp)

/- In silence, no bound holds of the shipped client. -/
theorem silence_is_not_bounded :
    ¬ HolesBounded sampleCodec 800 none := by
  rintro ⟨bound, hBounded⟩
  rcases
      exists_blocked_run (sampleCodec_roundTrips (by simp))
        (sampleCodec_roundTrips (by simp)) 800 bound with
    ⟨run, hBlocked⟩
  exact hBounded run (by simp) hBlocked

end Client

end ClusterChat
