import ClusterChat.Client.Loop
import ClusterChat.Orderer.HoleTime

/-
  The timeout of a hole in the client's receive loop.

  The loop waits for a frame, then calls `tick`, and only then
  looks at the frame.  So a message that arrives first after
  the timeout finds its hole given up, and in silence no hole
  is given up at all.

  Main declarations:
    * `Client.KeepsFiller` and `Client.Overtakes`
    * `Client.keepsFiller_iff`
-/

------------------------------------------------------------
-- The Timeout of One Channel
------------------------------------------------------------

namespace ClusterChat

open ConsecutiveRun

namespace Channel

/- From the smallest pending number up to this one, every
number is pending. -/
def Covers (ch : Channel) (seq : Nat) : Prop :=
  ∀ entry ∈ ch.pending.entries.head?,
    ∀ n,
      entry.1 ≤ n → n ≤ seq →
        n ∈ ch.pending.entries.map Prod.fst

variable {conv : String} {ch : Channel}

/- A release passes exactly the numbers that are covered. -/
theorem release_passes_iff
    (hOrdered : Ordered conv ch)
    (hPending : ch.pending.entries ≠ [])
    (drainNow : TimePoint)
    (seq : Nat) :
    seq < (ch.release drainNow).1.expect ↔
      ch.Covers seq := by
  cases hEntries : ch.pending.entries with
  | nil => exact absurd hEntries hPending
  | cons entry entries =>
      have hSorted := ch.pending.sorted
      rw [hEntries] at hSorted
      have hLower :
          ∀ e ∈ entry :: entries, entry.1 ≤ e.1 := by
        intro e hMember
        rcases List.mem_cons.mp hMember with rfl | hTail
        · exact Nat.le_refl _
        · exact (List.rel_of_pairwise_cons hSorted hTail).le
      have hReleases :=
        (release_releases hOrdered hEntries drainNow).1
      rw [hReleases.expect,
        lt_runEnd_iff hSorted hLower seq]
      unfold Covers
      rw [hEntries]
      simp

/- A number that is not below `expect` is not discarded. -/
theorem receive_keeps
    (hOrdered : Ordered conv ch)
    (js : Json)
    {seq : Nat}
    (hBound : seq < seqBound)
    (hLate : ch.expect ≤ seq)
    (now : TimePoint) :
    (Effect.emit js ∈ (ch.receive js seq now).2 ∨
        (seq, js) ∈
          (ch.receive js seq now).1.pending.entries) ∧
      Effect.discard js ∉ (ch.receive js seq now).2 := by
  have hOutcome :=
    @receive_outcome conv ch hOrdered js seq now hBound
  generalize ch.receive js seq now = result at hOutcome ⊢
  cases hOutcome with
  | idle hNoArrival => cases hNoArrival
  | discarded _ hBelow => omega
  | buffered =>
      refine ⟨Or.inr ?_, by simp⟩
      exact SortedMap.mem_insert_iff.mpr (Or.inl rfl)
  | delivered _ hReleases _ =>
      rw [hReleases.effects, takeRun_cons_self]
      simp
  | released hNoArrival => cases hNoArrival

theorem receive_discards
    {js : Json}
    {seq : Nat}
    (hInitialized : ch.initialized = true)
    (hBelow : seq < ch.expect)
    (now : TimePoint) :
    ch.receive js seq now = (ch, [.discard js]) := by
  have hSame : ch.startAt seq = ch := by
    simp [startAt, hInitialized]
  unfold receive
  dsimp only
  rw [hSame, if_pos (Or.inl hBelow)]

end Channel

------------------------------------------------------------
-- A Late Filler
------------------------------------------------------------

namespace Client

variable {codec : JsonCodec}

/-
  A chat message that can still fill a hole of its channel
  when its frame has arrived: it is displayed or pending when
  the turn ends, and is not discarded.
-/
def KeepsFiller
    (codec : JsonCodec)
    (moment : Client × Arrival) : Prop :=
  ∀ js conv seq,
    chatMessage? codec moment.2.body = some js →
      js.numbered? = some (conv, seq) →
        let ch := moment.1.orderer.channels conv
        ch.initialized = true → ch.expect ≤ seq →
          ∃ turn,
            moment.1.readTask codec moment.2 = .ok turn ∧
              (Effect.emit js ∈ turn.ticked ++ turn.shown ∨
                (seq, js) ∈
                  (turn.after.orderer.channels
                    conv).pending.entries) ∧
                Effect.discard js ∉ turn.shown

/-
  The frame is the first one after the timeout of the hole
  that its message could fill, or lies in the run of pending
  messages that the timeout releases.
-/
def Overtakes
    (codec : JsonCodec)
    (moment : Client × Arrival) : Prop :=
  ∃ js conv seq,
    chatMessage? codec moment.2.body = some js ∧
      js.numbered? = some (conv, seq) ∧
        let ch := moment.1.orderer.channels conv
        ch.initialized = true ∧ ch.expect ≤ seq ∧
          ch.TimedOut moment.1.orderer.gapTimeoutMs
              moment.2.tickedAt ∧
            ch.Covers seq

/- What a turn on a chat frame shows of its channel. -/
theorem readTask_channel
    {arrival : Arrival}
    {js : Json}
    (hChat : chatMessage? codec arrival.body = some js)
    {conv : String}
    {seq : Nat}
    (hNumbered : js.numbered? = some (conv, seq))
    (client : Client) :
    ∃ turn,
      client.readTask codec arrival = .ok turn ∧
        turn.shown =
            (((client.ticked arrival).channels conv).receive
              js seq arrival.now).2 ∧
          turn.after.orderer.channels conv =
            (((client.ticked arrival).channels conv).receive
              js seq arrival.now).1 := by
  rcases
      readTask_of_chat hChat
        (Json.convidIsString_of_numbered hNumbered)
        client with
    ⟨turn, hTurn, hShown, hAfter⟩
  rw [ConversationOrderer.apply_numbered _ _ hNumbered]
    at hShown hAfter
  refine ⟨turn, hTurn, hShown, ?_⟩
  rw [hAfter]
  exact ConversationOrderer.setChannel_self _ _ _

/- After `tick`, the message is late exactly if the hole has
timed out and the released run covers the message. -/
theorem ticked_passes_iff
    {client : Client}
    (hHealthy : Healthy client.orderer)
    {arrival : Arrival}
    (hVisits : client.orderer.Enumerates arrival.visits)
    {conv : String}
    {seq : Nat}
    (hInitialized :
      (client.orderer.channels conv).initialized = true)
    (hOpen :
      (client.orderer.channels conv).expect ≤ seq) :
    seq < ((client.ticked arrival).channels conv).expect ↔
      (client.orderer.channels conv).TimedOut
          client.orderer.gapTimeoutMs arrival.tickedAt ∧
        (client.orderer.channels conv).Covers seq := by
  rcases ticked_channel hHealthy hVisits hInitialized with
    ⟨drainNow, _, hTicked⟩
  rw [hTicked]
  by_cases hTimedOut :
      (client.orderer.channels conv).TimedOut
        client.orderer.gapTimeoutMs arrival.tickedAt
  · rw [Channel.tick_of_timedOut hTimedOut,
      Channel.release_passes_iff (hHealthy.ordered conv)
        hTimedOut.1]
    exact (and_iff_right hTimedOut).symm
  · rw [Channel.tick_of_not_timedOut hTimedOut]
    constructor
    · intro hPassed
      exact absurd hPassed (Nat.not_lt.mpr hOpen)
    · intro hBoth
      exact absurd hBoth.1 hTimedOut

theorem ticked_initialized
    {client : Client}
    (hHealthy : Healthy client.orderer)
    {arrival : Arrival}
    {conv : String}
    {seq : Nat}
    (hPassed :
      seq <
        ((client.ticked arrival).channels conv).expect) :
    ((client.ticked arrival).channels conv).initialized =
      true := by
  have hOrdered :=
    (healthy_ticked hHealthy arrival).ordered conv
  by_contra hNot
  have hIdle := hOrdered.idle (Bool.eq_false_iff.mpr hNot)
  omega

/- A frame is kept exactly if no timeout overtakes it. -/
theorem keepsFiller_iff
    {client : Client}
    (hHealthy : Healthy client.orderer)
    {arrival : Arrival}
    (hDeliverable : ChatDeliverable codec arrival)
    (hVisits : client.orderer.Enumerates arrival.visits) :
    KeepsFiller codec (client, arrival) ↔
      ¬ Overtakes codec (client, arrival) := by
  constructor
  · rintro hKeeps
      ⟨js, conv, seq, hChat, hNumbered, hInitialized, hOpen,
        hTimedOut, hCovers⟩
    rcases hKeeps js conv seq hChat hNumbered hInitialized
        hOpen with
      ⟨turn, hTurn, _, hNotDiscarded⟩
    rcases readTask_channel hChat hNumbered client with
      ⟨other, hOther, hShown, _⟩
    rw [hTurn] at hOther
    cases hOther
    have hPassed :=
      (ticked_passes_iff hHealthy hVisits hInitialized
        hOpen).mpr ⟨hTimedOut, hCovers⟩
    apply hNotDiscarded
    rw [hShown,
      Channel.receive_discards
        (ticked_initialized hHealthy hPassed) hPassed]
    exact List.mem_singleton_self _
  · intro hNotOvertaken js conv seq hChat hNumbered ch
      hInitialized hOpen
    have hTicked := healthy_ticked hHealthy arrival
    have hBound :=
      (hDeliverable js hChat).2 conv seq hNumbered
    have hStill :
        ((client.ticked arrival).channels conv).expect ≤
          seq := by
      by_contra hPassed
      have hBoth :=
        (ticked_passes_iff hHealthy hVisits hInitialized
          hOpen).mp (Nat.lt_of_not_le hPassed)
      exact
        hNotOvertaken
          ⟨js, conv, seq, hChat, hNumbered, hInitialized,
            hOpen, hBoth⟩
    rcases readTask_channel hChat hNumbered client with
      ⟨turn, hTurn, hShown, hAfter⟩
    have hKept :=
      Channel.receive_keeps (hTicked.ordered conv) js hBound
        hStill arrival.now
    rw [← hShown, ← hAfter] at hKept
    refine ⟨turn, hTurn, ?_, hKept.2⟩
    rcases hKept.1 with hEmitted | hPending
    · exact Or.inl (List.mem_append_right _ hEmitted)
    · exact Or.inr hPending

/-
  In every run of the loop, each chat frame that can still
  fill its hole is kept, but for those that a timeout
  overtakes: these are thrown away.
-/
theorem moments_keepFiller_iff
    {gapTimeoutMs : Int}
    {calls : List Call}
    (hCalls :
      ∀ js ∈ calls.flatMap Call.messages, js.Deliverable)
    {start : Client}
    {effects : List Effect}
    (hStart :
      (ConversationOrderer.fresh gapTimeoutMs).runCalls
          calls =
        .ok (start.orderer, effects))
    {arrivals : List Arrival}
    (hArrivals :
      ∀ arrival ∈ arrivals, ChatDeliverable codec arrival)
    (hVisits :
      ∀ moment ∈ moments codec start arrivals,
        moment.1.orderer.Enumerates moment.2.visits) :
    ∀ moment ∈ moments codec start arrivals,
      KeepsFiller codec moment ↔ ¬ Overtakes codec moment := by
  intro moment hMoment
  rcases
      healthy_moments (healthy_runCalls hCalls hStart)
        hArrivals moment hMoment with
    ⟨hHealthy, hMember⟩
  exact
    keepsFiller_iff hHealthy (hArrivals moment.2 hMember)
      (hVisits moment hMoment)

/- A chat message with a number, as the client parses it. -/
def sampleMessage (seq : Nat) : Json :=
  .object
    [("convid", .string "p1_2"), ("id", .unsigned 1),
      ("msg", .string "hello"), ("msgid", .unsigned 6),
      ("name", .string "zhang san"), ("seq", .unsigned seq),
      ("time", .string "2024-01-01 10:00:00"),
      ("toid", .unsigned 2)]

/- A codec that knows the first three messages. -/
def sampleCodec : JsonCodec :=
  .ofTable
    [sampleMessage 1, sampleMessage 2, sampleMessage 3]

/- A frame with a message, read at the given time. -/
def sampleArrival
    (codec : JsonCodec)
    (seq : Nat)
    (now : TimePoint)
    (known : Bool) : Arrival where
  body := codec.dump (sampleMessage seq)
  tickedAt := now
  visits := if known then [("p1_2", now + 1)] else []
  now := now + 2

/- The client when the user has logged in. -/
def sampleClient : Client where
  orderer := ConversationOrderer.fresh 800
  userId := 2
  state := .online

/- Number 2 arrives a second after number 3. -/
def lateRun : List Arrival :=
  [sampleArrival sampleCodec 1 1000000000 false,
    sampleArrival sampleCodec 3 2000000000 true,
    sampleArrival sampleCodec 2 3000000000 true]

theorem chatMessage?_sampleArrival
    {seq : Nat}
    (hKnown : codec.RoundTrips (sampleMessage seq))
    (now : TimePoint)
    (known : Bool) :
    chatMessage? codec
        (sampleArrival codec seq now known).body =
      some (sampleMessage seq) := by
  unfold JsonCodec.RoundTrips at hKnown
  unfold chatMessage? sampleArrival
  dsimp only
  rw [hKnown]
  rfl

theorem sampleCodec_roundTrips
    {seq : Nat}
    (hKnown : seq = 1 ∨ seq = 2 ∨ seq = 3) :
    sampleCodec.RoundTrips (sampleMessage seq) := by
  have hListed :
      sampleMessage seq ∈
        [sampleMessage 1, sampleMessage 2,
          sampleMessage 3] := by
    rcases hKnown with rfl | rfl | rfl <;> simp
  exact
    JsonCodec.roundTrips_ofTable (by decide +kernel) hListed

theorem numbered?_sampleMessage (seq : Nat) :
    (sampleMessage seq).numbered? = some ("p1_2", seq) :=
  rfl

/- A frame of a run in the one conversation. -/
theorem sampleArrival_brings
    {seq : Nat}
    (hKnown : codec.RoundTrips (sampleMessage seq))
    (hBound : seq < seqBound)
    (now : TimePoint)
    (known : Bool) :
    ∃ js number,
      chatMessage? codec
            (sampleArrival codec seq now known).body =
          some js ∧
        js.numbered? = some ("p1_2", number) ∧
          number < seqBound :=
  ⟨_, _, chatMessage?_sampleArrival hKnown now known,
    numbered?_sampleMessage seq, hBound⟩

theorem singleRun_lateRun :
    SingleRun sampleCodec "p1_2" false lateRun :=
  ⟨rfl,
    sampleArrival_brings (sampleCodec_roundTrips (by simp))
      (by decide) _ _,
    rfl,
    sampleArrival_brings (sampleCodec_roundTrips (by simp))
      (by decide) _ _,
    rfl,
    sampleArrival_brings (sampleCodec_roundTrips (by simp))
      (by decide) _ _,
    trivial⟩

theorem enumerates_lateRun :
    ∀ moment ∈ moments sampleCodec sampleClient lateRun,
      moment.1.orderer.Enumerates moment.2.visits :=
  enumerates_of_single (healthy_fresh 800)
    (fun _ _ => rfl) singleRun_lateRun

/- The third frame of this run. -/
theorem lateRun_keeps_iff :
    ∃ moment,
      (moments sampleCodec sampleClient lateRun)[2]? =
          some moment ∧
        moment.2.body = (sampleMessage 2).text ∧
          (KeepsFiller sampleCodec moment ↔
            ¬ Overtakes sampleCodec moment) := by
  have hThird :
      ∃ moment ∈
          (moments sampleCodec sampleClient lateRun)[2]?,
        moment.2.body = (sampleMessage 2).text := by
    decide +kernel
  rcases hThird with ⟨moment, hMoment, hBody⟩
  have hKeeps :=
    @moments_keepFiller_iff sampleCodec 800 [] (by simp)
      sampleClient [] rfl lateRun
      (chatDeliverable_of_single singleRun_lateRun)
      enumerates_lateRun moment
      (List.mem_of_getElem? hMoment)
  exact ⟨moment, hMoment, hBody, hKeeps⟩

/- Number 2 wakes the loop up, and is thrown away. -/
theorem late_filler_is_discarded :
    (∀ arrival ∈ lateRun,
        ChatDeliverable sampleCodec arrival) ∧
      (∀ moment ∈ moments sampleCodec sampleClient lateRun,
        moment.1.orderer.Enumerates moment.2.visits) ∧
        ∃ moment ∈ moments sampleCodec sampleClient lateRun,
          ¬ KeepsFiller sampleCodec moment := by
  have hDeliverable :=
    chatDeliverable_of_single singleRun_lateRun
  refine ⟨hDeliverable, enumerates_lateRun, ?_⟩
  have hLate :
      ∃ moment ∈ moments sampleCodec sampleClient lateRun,
        moment.2.body = (sampleMessage 2).text ∧
          (moment.1.orderer.channels "p1_2").initialized =
              true ∧
            (moment.1.orderer.channels "p1_2").expect = 2 ∧
              (moment.1.orderer.channels
                    "p1_2").pending.entries.map Prod.fst =
                  [3] ∧
                (moment.1.orderer.channels "p1_2").TimedOut
                  moment.1.orderer.gapTimeoutMs
                  moment.2.tickedAt := by
    decide +kernel
  rcases hLate with
    ⟨⟨client, arrival⟩, hMoment, hBody, hInitialized,
      hExpect, hPending, hTimedOut⟩
  refine ⟨(client, arrival), hMoment, ?_⟩
  rcases
      healthy_moments (healthy_fresh 800) hDeliverable
        (client, arrival) hMoment with
    ⟨hHealthy, hMember⟩
  rw [keepsFiller_iff hHealthy (hDeliverable arrival hMember)
    (enumerates_lateRun _ hMoment), not_not]
  have hChat :=
    chatMessage?_sampleArrival
      (sampleCodec_roundTrips (Or.inr (Or.inl rfl))) 0 true
  have hSent :
      (sampleArrival sampleCodec 2 0 true).body =
        (sampleMessage 2).text := rfl
  rw [hSent, ← hBody] at hChat
  refine
    ⟨sampleMessage 2, "p1_2", 2, hChat,
      numbered?_sampleMessage 2, hInitialized, hExpect.le,
      hTimedOut, ?_⟩
  intro entry hEntry n hFirst hLast
  have hFirstPending :
      entry.1 ∈ [3] := by
    rw [← hPending]
    exact List.mem_map_of_mem (List.mem_of_mem_head? hEntry)
  have := List.mem_singleton.mp hFirstPending
  omega

end Client

end ClusterChat
