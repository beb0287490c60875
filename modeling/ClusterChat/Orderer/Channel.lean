import ClusterChat.Orderer.Model
import ClusterChat.Library.ConsecutiveRun
import ClusterChat.Library.Transducer

/-
  One channel of the orderer as a machine of its own.

  `Ordered` is the invariant of a channel: everything pending
  lies above `expect`, everything remembered as delivered lies
  below it, and a pending entry carries its own number.
  `Releases` describes a step that displays messages: it takes
  the longest consecutive run from its first number on.

  Main declarations:
    * `Channel.step`
    * `Channel.step_drawsFrom`
    * `Channel.Ordered`
    * `Channel.Releases`
    * `Channel.Outcome` and `Channel.step_outcome`
-/

------------------------------------------------------------
-- Channel Events
------------------------------------------------------------

namespace ClusterChat

open ConsecutiveRun

/- What the orderer's calls ask of one channel. -/
inductive ChannelEvent where
| receive (js : Json) (seq : Nat) (now : TimePoint)
| tick (gapTimeoutMs : Int) (now drainNow : TimePoint)
| flush (drainNow : TimePoint)

/- The numbered message an event brings, if any. -/
def ChannelEvent.arrival? :
    ChannelEvent → Option (Nat × Json)
| receive js seq _ => some (seq, js)
| tick _ _ _ => none
| flush _ => none

/- An effect on a message of the conversation. -/
def Effect.BelongsTo
    (conv : String)
    (effect : Effect) : Prop :=
  ∃ seq, effect.message.numbered? = some (conv, seq)

/- Sequence numbers stay below this bound. -/
def seqBound : Nat := 2 ^ 64 - 1

namespace Channel

/- One event on a channel. -/
def step
    (ch : Channel) : ChannelEvent → Channel × List Effect
| .receive js seq now => ch.receive js seq now
| .tick gapTimeoutMs now drainNow =>
    ch.tick gapTimeoutMs now drainNow
| .flush drainNow => ch.flush drainNow

/-
  A received message belongs to the conversation, carries its
  number, and the number leaves room for a successor.
-/
def Admits
    (conv : String) : ChannelEvent → Prop
| .receive js seq _ =>
    js.numbered? = some (conv, seq) ∧ seq < seqBound
| .tick _ _ _ => True
| .flush _ => True

/- The invariant of a channel of the conversation. -/
structure Ordered
    (conv : String)
    (ch : Channel) : Prop where
  above : ∀ entry ∈ ch.pending.entries, ch.expect < entry.1
  below : ∀ seq ∈ ch.delivered, seq < ch.expect
  stamped :
    ∀ entry ∈ ch.pending.entries,
      entry.2.numbered? = some (conv, entry.1)
  bounded : ∀ entry ∈ ch.pending.entries, entry.1 < seqBound
  idle :
    ch.initialized = false →
      ch.pending.entries = [] ∧ ch.delivered = ∅ ∧
        ch.expect = 0

theorem ordered_default (conv : String) :
    Ordered conv {} where
  above := by simp
  below := by simp
  stamped := by simp
  bounded := by simp
  idle := by simp

------------------------------------------------------------
-- Where Messages Come From
------------------------------------------------------------

/-
  A result keeps and acts on nothing but the entries of a
  source.
-/
structure DrawsFrom
    (source : Nat × Json → Prop)
    (result : Channel × List Effect) : Prop where
  kept : ∀ entry ∈ result.1.pending.entries, source entry
  acted :
    ∀ effect ∈ result.2,
      ∃ entry, source entry ∧ entry.2 = effect.message

/- A larger source. -/
theorem DrawsFrom.mono
    {source larger : Nat × Json → Prop}
    {result : Channel × List Effect}
    (hDraws : DrawsFrom source result)
    (hLarger : ∀ entry, source entry → larger entry) :
    DrawsFrom larger result where
  kept := fun entry hEntry =>
    hLarger entry (hDraws.kept entry hEntry)
  acted := by
    intro effect hEffect
    rcases hDraws.acted effect hEffect with
      ⟨entry, hSource, hMessage⟩
    exact ⟨entry, hLarger entry hSource, hMessage⟩

theorem drainLoop_drawsFrom
    {source : Nat × Json → Prop}
    (ch : Channel)
    {entries : List (Nat × Json)}
    (hSorted : entries.Pairwise (fun a b => a.1 < b.1))
    (hSource : ∀ entry ∈ entries, source entry) :
    DrawsFrom source (ch.drainLoop entries hSorted) := by
  induction entries generalizing ch with
  | nil => exact ⟨by simp [drainLoop], by simp [drainLoop]⟩
  | cons entry entries ih =>
      rcases entry with ⟨seq, js⟩
      have hHead : source (seq, js) :=
        hSource (seq, js) List.mem_cons_self
      have hTail : ∀ e ∈ entries, source e :=
        fun e hMember =>
          hSource e (List.mem_cons_of_mem _ hMember)
      unfold drainLoop
      split_ifs
      · have hRest := ih ch hSorted.of_cons hTail
        refine ⟨hRest.kept, ?_⟩
        intro effect hEffect
        rcases List.mem_cons.mp hEffect with hNow | hLater
        · exact ⟨(seq, js), hHead, by rw [hNow]; rfl⟩
        · exact hRest.acted effect hLater
      · exact ⟨hSource, by simp⟩
      · have hRest :=
          ih (ch.deliver js ch.expect).1 hSorted.of_cons hTail
        refine ⟨hRest.kept, ?_⟩
        intro effect hEffect
        rcases List.mem_cons.mp hEffect with hNow | hLater
        · exact ⟨(seq, js), hHead, by rw [hNow]; rfl⟩
        · exact hRest.acted effect hLater

theorem drainPending_drawsFrom
    {source : Nat × Json → Prop}
    (ch : Channel)
    (now : TimePoint)
    (hSource : ∀ entry ∈ ch.pending.entries, source entry) :
    DrawsFrom source (ch.drainPending now) := by
  have hLoop :=
    drainLoop_drawsFrom ch ch.pending.sorted hSource
  unfold drainPending
  dsimp only
  split_ifs
  · exact ⟨hLoop.kept, hLoop.acted⟩
  · exact hLoop

theorem release_drawsFrom
    {source : Nat × Json → Prop}
    {ch : Channel}
    (now : TimePoint)
    (hSource : ∀ entry ∈ ch.pending.entries, source entry) :
    DrawsFrom source (ch.release now) := by
  unfold release
  split
  · exact ⟨hSource, by simp⟩
  · exact
      drainPending_drawsFrom { ch with expect := _ } now
        hSource

theorem receive_drawsFrom
    {source : Nat × Json → Prop}
    {ch : Channel}
    {js : Json}
    {seq : Nat}
    (now : TimePoint)
    (hArrival : source (seq, js))
    (hSource : ∀ entry ∈ ch.pending.entries, source entry) :
    DrawsFrom source (ch.receive js seq now) := by
  have hStart : (ch.startAt seq).pending = ch.pending := by
    unfold startAt
    split_ifs <;> simp
  rw [← hStart] at hSource
  unfold receive
  dsimp only
  split
  · refine ⟨hSource, ?_⟩
    intro effect hEffect
    rw [List.mem_singleton.mp hEffect]
    exact ⟨(seq, js), hArrival, rfl⟩
  · split
    · have hDrain :
          DrawsFrom source
            (((ch.startAt seq).deliver js seq).1.drainPending
              now) :=
        drainPending_drawsFrom _ now hSource
      refine ⟨hDrain.kept, ?_⟩
      intro effect hEffect
      rcases List.mem_cons.mp hEffect with hNow | hLater
      · exact ⟨(seq, js), hArrival, by rw [hNow]; rfl⟩
      · exact hDrain.acted effect hLater
    · refine ⟨?_, by simp⟩
      intro entry hEntry
      rcases SortedMap.mem_insert_iff.mp hEntry with
        hNew | hOld
      · rw [hNew]
        exact hArrival
      · exact hSource entry hOld.1

/-
  A step keeps and acts on nothing but the message it brings
  and the messages that were pending.
-/
theorem step_drawsFrom
    (ch : Channel)
    (event : ChannelEvent) :
    DrawsFrom
      (fun entry =>
        event.arrival? = some entry ∨
          entry ∈ ch.pending.entries)
      (ch.step event) := by
  have hIdle :
      DrawsFrom
        (fun entry =>
          event.arrival? = some entry ∨
            entry ∈ ch.pending.entries)
        (ch, []) :=
    ⟨fun entry hEntry => Or.inr hEntry, by simp⟩
  cases event with
  | receive js seq now =>
      exact
        receive_drawsFrom now (Or.inl rfl)
          (fun entry hEntry => Or.inr hEntry)
  | tick gapTimeoutMs now drainNow =>
      change DrawsFrom _ (ch.tick gapTimeoutMs now drainNow)
      unfold tick
      split_ifs
      · exact hIdle
      · exact hIdle
      · exact hIdle
      · exact
          release_drawsFrom drainNow
            (fun entry hEntry => Or.inr hEntry)
  | flush drainNow =>
      change DrawsFrom _ (ch.flush drainNow)
      unfold flush
      split_ifs
      · exact
          release_drawsFrom drainNow
            (fun entry hEntry => Or.inr hEntry)
      · exact hIdle

/- Pending entries carry their own numbers. -/
def Stamped
    (conv : String)
    (ch : Channel) : Prop :=
  ∀ entry ∈ ch.pending.entries,
    entry.2.numbered? = some (conv, entry.1)

theorem stamped_default (conv : String) :
    Stamped conv {} := by
  simp [Stamped]

/-
  On a channel whose pending entries carry their numbers, a
  step is about the conversation only.
-/
theorem step_stamped
    {conv : String}
    {ch : Channel}
    (hStamped : Stamped conv ch)
    {event : ChannelEvent}
    (hArrival :
      ∀ entry,
        event.arrival? = some entry →
          entry.2.numbered? = some (conv, entry.1)) :
    Stamped conv (ch.step event).1 ∧
      ∀ effect ∈ (ch.step event).2,
        effect.BelongsTo conv := by
  have hDraws := step_drawsFrom ch event
  have hSource :
      ∀ entry,
        event.arrival? = some entry ∨
            entry ∈ ch.pending.entries →
          entry.2.numbered? = some (conv, entry.1) := by
    intro entry hEntry
    rcases hEntry with hNew | hOld
    · exact hArrival entry hNew
    · exact hStamped entry hOld
  constructor
  · intro entry hEntry
    exact hSource entry (hDraws.kept entry hEntry)
  · intro effect hEffect
    rcases hDraws.acted effect hEffect with
      ⟨entry, hEntry, hMessage⟩
    rw [Effect.BelongsTo, ← hMessage]
    exact ⟨entry.1, hSource entry hEntry⟩

------------------------------------------------------------
-- Draining
------------------------------------------------------------

/-
  The result of a step that displays messages.  From the
  entries `source` it takes the run that starts at `first`,
  leaves the others pending, and expects the run's successor.
-/
structure Releases
    (source : List (Nat × Json))
    (first : Nat)
    (result : Channel × List Effect) : Prop where
  expect :
    result.1.expect = first + (takeRun first source).length
  pending : result.1.pending.entries = dropRun first source
  effects :
    result.2 =
      (takeRun first source).map fun entry =>
        Effect.emit entry.2
  below : ∀ seq ∈ result.1.delivered, seq < result.1.expect

theorem deliver_below
    {ch : Channel}
    (js : Json)
    {seq : Nat}
    (hBelow : ∀ other ∈ ch.delivered, other < ch.expect)
    (hLe : ch.expect ≤ seq)
    (hBound : seq < seqBound) :
    ∀ other ∈ (ch.deliver js seq).1.delivered,
      other < (ch.deliver js seq).1.expect := by
  intro other hOther
  have hExpect :
      (ch.deliver js seq).1.expect = seq + 1 := by
    unfold seqBound at hBound
    simp only [deliver]
    omega
  rw [hExpect]
  simp only [deliver] at hOther
  split at hOther
  · simp at hOther
  · rcases Finset.mem_insert.mp hOther with rfl | hOld
    · omega
    · have := hBelow other hOld
      omega

theorem deliver_expect
    (ch : Channel)
    (js : Json)
    {seq : Nat}
    (hBound : seq < seqBound) :
    (ch.deliver js seq).1.expect = seq + 1 := by
  unfold seqBound at hBound
  simp only [deliver]
  omega

/-
  The loop takes the run that starts at `expect`.  It never
  meets an expired entry when nothing pending lies below.
-/
theorem drainLoop_releases
    (ch : Channel)
    (entries : List (Nat × Json))
    (hSorted : entries.Pairwise (fun a b => a.1 < b.1))
    (hLower : ∀ entry ∈ entries, ch.expect ≤ entry.1)
    (hBound : ∀ entry ∈ entries, entry.1 < seqBound)
    (hBelow : ∀ seq ∈ ch.delivered, seq < ch.expect) :
    Releases entries ch.expect
        (ch.drainLoop entries hSorted) ∧
      (ch.drainLoop entries hSorted).1.initialized =
        ch.initialized := by
  induction entries generalizing ch with
  | nil =>
      refine ⟨⟨?_, ?_, ?_, ?_⟩, ?_⟩ <;>
        simp [drainLoop, takeRun, dropRun]
      exact hBelow
  | cons entry entries ih =>
      rcases entry with ⟨seq, js⟩
      have hHead : ∀ e ∈ entries, seq < e.1 :=
        fun e hMember =>
          List.rel_of_pairwise_cons hSorted hMember
      have hSeqLower : ch.expect ≤ seq :=
        hLower (seq, js) List.mem_cons_self
      have hSeqBound : seq < seqBound :=
        hBound (seq, js) List.mem_cons_self
      unfold drainLoop
      rw [if_neg (Nat.not_lt.mpr hSeqLower)]
      by_cases hNe : seq ≠ ch.expect
      · -- a hole is still open: the loop breaks
        have hTake :
            takeRun ch.expect ((seq, js) :: entries) =
              [] := by
          simp [takeRun, hNe]
        have hDrop :
            dropRun ch.expect ((seq, js) :: entries) =
              (seq, js) :: entries := by
          simp [dropRun, hNe]
        rw [if_pos hNe]
        refine ⟨⟨?_, ?_, ?_, ?_⟩, ?_⟩ <;>
          simp [hTake, hDrop]
        exact hBelow
      · have hEq : seq = ch.expect := not_not.mp hNe
        subst hEq
        rw [if_neg hNe]
        dsimp only
        have hExpect :
            (ch.deliver js ch.expect).1.expect =
              ch.expect + 1 :=
          deliver_expect ch js hSeqBound
        have hRest :=
          ih (ch.deliver js ch.expect).1 hSorted.of_cons
            (fun e hMember => by
              have := hHead e hMember
              omega)
            (fun e hMember =>
              hBound e (List.mem_cons_of_mem _ hMember))
            (deliver_below js hBelow (Nat.le_refl _)
              hSeqBound)
        rw [hExpect] at hRest
        rcases hRest with ⟨hReleases, hInitialized⟩
        refine ⟨⟨?_, ?_, ?_, ?_⟩, ?_⟩
        · rw [hReleases.expect, takeRun_cons_self,
            List.length_cons]
          omega
        · rw [hReleases.pending, dropRun_cons_self]
        · rw [hReleases.effects, takeRun_cons_self]
          rfl
        · exact hReleases.below
        · rw [hInitialized]
          rfl

theorem drainPending_releases
    (ch : Channel)
    (now : TimePoint)
    (hLower :
      ∀ entry ∈ ch.pending.entries, ch.expect ≤ entry.1)
    (hBound :
      ∀ entry ∈ ch.pending.entries, entry.1 < seqBound)
    (hBelow : ∀ seq ∈ ch.delivered, seq < ch.expect) :
    Releases ch.pending.entries ch.expect
        (ch.drainPending now) ∧
      (ch.drainPending now).1.initialized =
        ch.initialized := by
  have hLoop :=
    drainLoop_releases ch ch.pending.entries
      ch.pending.sorted hLower hBound hBelow
  unfold drainPending
  dsimp only
  split
  · rcases hLoop with ⟨hReleases, hInitialized⟩
    exact
      ⟨⟨hReleases.expect, hReleases.pending,
        hReleases.effects, hReleases.below⟩, hInitialized⟩
  · exact hLoop

/-
  What a release leaves behind satisfies the invariant, when
  the released entries were stamped and lay above the start.
-/
theorem Releases.ordered
    {conv : String}
    {source : List (Nat × Json)}
    {first : Nat}
    {result : Channel × List Effect}
    (hReleases : Releases source first result)
    (hSorted : source.Pairwise (fun a b => a.1 < b.1))
    (hLower : ∀ entry ∈ source, first ≤ entry.1)
    (hStamped :
      ∀ entry ∈ source,
        entry.2.numbered? = some (conv, entry.1))
    (hBound : ∀ entry ∈ source, entry.1 < seqBound)
    (hInitialized : result.1.initialized = true) :
    Ordered conv result.1 where
  above := by
    intro entry hEntry
    rw [hReleases.pending] at hEntry
    rw [hReleases.expect]
    exact lt_of_mem_dropRun hSorted hLower hEntry
  below := hReleases.below
  stamped := by
    intro entry hEntry
    rw [hReleases.pending] at hEntry
    exact hStamped entry (mem_of_mem_dropRun hEntry)
  bounded := by
    intro entry hEntry
    rw [hReleases.pending] at hEntry
    exact hBound entry (mem_of_mem_dropRun hEntry)
  idle := by simp [hInitialized]

------------------------------------------------------------
-- What One Step Can Do
------------------------------------------------------------

/-
  The five things a step does: nothing, discard a late
  message, buffer an early one, display the expected one
  together with the run behind it, or release the run that
  starts at the smallest pending number.
-/
inductive Outcome
    (ch : Channel) :
    ChannelEvent → Channel × List Effect → Prop
| idle
    {event : ChannelEvent}
    (hNoArrival : event.arrival? = none) :
    Outcome ch event (ch, [])
| discarded
    {js : Json} {seq : Nat} {now : TimePoint}
    (hInitialized : ch.initialized = true)
    (hLate : seq < ch.expect) :
    Outcome ch (.receive js seq now) (ch, [.discard js])
| buffered
    {js : Json} {seq : Nat} {now gapSince : TimePoint}
    (hInitialized : ch.initialized = true)
    (hEarly : ch.expect < seq) :
    Outcome ch (.receive js seq now)
      ({ ch with
          pending := ch.pending.insert seq js
          gapSince := gapSince },
        [])
| delivered
    {js : Json} {seq : Nat} {now : TimePoint}
    {result : Channel × List Effect}
    (hExpected : ch.initialized = true → seq = ch.expect)
    (hReleases :
      Releases ((seq, js) :: ch.pending.entries) seq result)
    (hInitialized : result.1.initialized = true) :
    Outcome ch (.receive js seq now) result
| released
    {event : ChannelEvent}
    {entry : Nat × Json}
    {entries : List (Nat × Json)}
    {result : Channel × List Effect}
    (hNoArrival : event.arrival? = none)
    (hPending : ch.pending.entries = entry :: entries)
    (hReleases :
      Releases (entry :: entries) entry.1 result)
    (hInitialized : result.1.initialized = true) :
    Outcome ch event result

/- A channel with pending entries is initialized. -/
theorem Ordered.initialized_of_pending
    {conv : String}
    {ch : Channel}
    (hOrdered : Ordered conv ch)
    (hPending : ch.pending.entries ≠ []) :
    ch.initialized = true := by
  by_contra hNot
  have hIdle :=
    hOrdered.idle (Bool.eq_false_iff.mpr hNot)
  exact hPending hIdle.1

theorem release_of_pending
    {ch : Channel}
    {entry : Nat × Json}
    {entries : List (Nat × Json)}
    (hPending : ch.pending.entries = entry :: entries)
    (now : TimePoint) :
    ch.release now =
      { ch with expect := entry.1 }.drainPending now := by
  simp [release, hPending]

/- With something pending, a release takes the first run. -/
theorem release_releases
    {conv : String}
    {ch : Channel}
    (hOrdered : Ordered conv ch)
    {entry : Nat × Json}
    {entries : List (Nat × Json)}
    (hPending : ch.pending.entries = entry :: entries)
    (now : TimePoint) :
    Releases (entry :: entries) entry.1 (ch.release now) ∧
      (ch.release now).1.initialized = true := by
  have hSorted := ch.pending.sorted
  rw [hPending] at hSorted
  have hLower :
      ∀ e ∈ ch.pending.entries, entry.1 ≤ e.1 := by
    intro e hMember
    rw [hPending] at hMember
    rcases List.mem_cons.mp hMember with rfl | hTail
    · exact Nat.le_refl _
    · exact (List.rel_of_pairwise_cons hSorted hTail).le
  have hAbove : ch.expect < entry.1 := by
    apply hOrdered.above
    rw [hPending]
    exact List.mem_cons_self
  have hDrain :=
    drainPending_releases
      { ch with expect := entry.1 } now hLower
      hOrdered.bounded
      (fun seq hSeq =>
        (hOrdered.below seq hSeq).trans hAbove)
  have hInitialized : ch.initialized = true :=
    hOrdered.initialized_of_pending (by simp [hPending])
  rw [release_of_pending hPending, ← hPending]
  refine ⟨hDrain.1, ?_⟩
  rw [hDrain.2]
  exact hInitialized

theorem release_outcome
    {conv : String}
    {ch : Channel}
    (hOrdered : Ordered conv ch)
    {event : ChannelEvent}
    (hNoArrival : event.arrival? = none)
    (now : TimePoint) :
    Outcome ch event (ch.release now) := by
  cases hPending : ch.pending.entries with
  | nil =>
      have hIdle : ch.release now = (ch, []) := by
        simp [release, hPending]
      rw [hIdle]
      exact Outcome.idle hNoArrival
  | cons entry entries =>
      rcases release_releases hOrdered hPending now with
        ⟨hReleases, hInitialized⟩
      exact
        Outcome.released hNoArrival hPending hReleases
          hInitialized

theorem receive_outcome
    {conv : String}
    {ch : Channel}
    (hOrdered : Ordered conv ch)
    {js : Json}
    {seq : Nat}
    (now : TimePoint)
    (hBound : seq < seqBound) :
    Outcome ch (.receive js seq now)
      (ch.receive js seq now) := by
  have hStart :
      (ch.startAt seq).initialized = true ∧
        (ch.startAt seq).pending = ch.pending ∧
        (ch.startAt seq).delivered = ch.delivered ∧
        (ch.startAt seq).gapSince = ch.gapSince := by
    unfold startAt
    split <;> simp_all
  have hBelow :
      ∀ other ∈ (ch.startAt seq).delivered,
        other < (ch.startAt seq).expect := by
    intro other hOther
    rw [hStart.2.2.1] at hOther
    unfold startAt
    split
    · exact hOrdered.below other hOther
    · rename_i hNot
      have hIdle :=
        hOrdered.idle (Bool.eq_false_iff.mpr hNot)
      simp [hIdle.2.1] at hOther
  unfold receive
  dsimp only
  by_cases hExpected : seq = (ch.startAt seq).expect
  · have hFresh :
        ¬ (seq < (ch.startAt seq).expect ∨
          seq ∈ (ch.startAt seq).delivered) := by
      rintro (hLate | hDelivered)
      · omega
      · have := hBelow seq hDelivered
        omega
    rw [if_neg hFresh, if_pos hExpected]
    have hExpect :=
      deliver_expect (ch.startAt seq) js hBound
    have hPending :
        ((ch.startAt seq).deliver js seq).1.pending =
          ch.pending := hStart.2.1
    have hAbove :
        ∀ entry ∈ ch.pending.entries,
          seq + 1 ≤ entry.1 := by
      intro entry hEntry
      have hInitialized : ch.initialized = true :=
        hOrdered.initialized_of_pending
          (List.ne_nil_of_mem hEntry)
      have hSame : ch.startAt seq = ch := by
        simp [startAt, hInitialized]
      rw [hSame] at hExpected
      have := hOrdered.above entry hEntry
      omega
    have hDrain :=
      drainPending_releases
        ((ch.startAt seq).deliver js seq).1 now
        (by rw [hExpect, hPending]; exact hAbove)
        (by rw [hPending]; exact hOrdered.bounded)
        (deliver_below js hBelow hExpected.ge hBound)
    rw [hExpect, hPending] at hDrain
    rcases hDrain with ⟨hReleases, hInitialized⟩
    refine Outcome.delivered ?_ ⟨?_, ?_, ?_, ?_⟩ ?_
    · intro h
      rw [hExpected]
      simp [startAt, h]
    · rw [hReleases.expect, takeRun_cons_self,
        List.length_cons]
      omega
    · rw [hReleases.pending, dropRun_cons_self]
    · rw [hReleases.effects, takeRun_cons_self]
      rfl
    · exact hReleases.below
    · rw [hInitialized]
      exact hStart.1
  · -- a number other than `expect` has seen earlier messages
    have hInitialized : ch.initialized = true := by
      by_contra hNot
      apply hExpected
      simp [startAt, hNot]
    have hSame : ch.startAt seq = ch := by
      simp [startAt, hInitialized]
    rw [hSame] at hExpected ⊢
    by_cases hLate : seq < ch.expect
    · rw [if_pos (Or.inl hLate)]
      exact Outcome.discarded hInitialized hLate
    · have hFresh :
          ¬ (seq < ch.expect ∨ seq ∈ ch.delivered) := by
        rintro (h | hDelivered)
        · exact hLate h
        · exact hLate (hOrdered.below seq hDelivered)
      rw [if_neg hFresh, if_neg hExpected]
      exact Outcome.buffered hInitialized (by omega)

theorem step_outcome
    {conv : String}
    {ch : Channel}
    (hOrdered : Ordered conv ch)
    {event : ChannelEvent}
    (hAdmits : Admits conv event) :
    Outcome ch event (ch.step event) := by
  cases event with
  | receive js seq now =>
      exact receive_outcome hOrdered now hAdmits.2
  | tick gapTimeoutMs now drainNow =>
      change Outcome ch _
        (ch.tick gapTimeoutMs now drainNow)
      unfold tick
      split_ifs
      · exact Outcome.idle rfl
      · exact Outcome.idle rfl
      · exact Outcome.idle rfl
      · exact release_outcome hOrdered rfl drainNow
  | flush drainNow =>
      change Outcome ch _ (ch.flush drainNow)
      unfold flush
      split_ifs
      · exact release_outcome hOrdered rfl drainNow
      · exact Outcome.idle rfl

/- Every step preserves the invariant. -/
theorem step_ordered
    {conv : String}
    {ch : Channel}
    (hOrdered : Ordered conv ch)
    {event : ChannelEvent}
    (hAdmits : Admits conv event) :
    Ordered conv (ch.step event).1 := by
  have hOutcome := step_outcome hOrdered hAdmits
  generalize ch.step event = result at hOutcome ⊢
  cases hOutcome with
  | idle => exact hOrdered
  | discarded => exact hOrdered
  | @buffered js seq now gapSince hInitialized hEarly =>
      refine ⟨?_, hOrdered.below, ?_, ?_, ?_⟩
      · intro entry hEntry
        rcases SortedMap.mem_insert_iff.mp hEntry with
          rfl | hOld
        · exact hEarly
        · exact hOrdered.above entry hOld.1
      · intro entry hEntry
        rcases SortedMap.mem_insert_iff.mp hEntry with
          rfl | hOld
        · exact hAdmits.1
        · exact hOrdered.stamped entry hOld.1
      · intro entry hEntry
        rcases SortedMap.mem_insert_iff.mp hEntry with
          rfl | hOld
        · exact hAdmits.2
        · exact hOrdered.bounded entry hOld.1
      · simp [hInitialized]
  | @delivered js seq now _ hExpected hReleases hInit =>
      have hAbove :
          ∀ entry ∈ ch.pending.entries, seq < entry.1 := by
        intro entry hEntry
        rw [hExpected (hOrdered.initialized_of_pending
          (List.ne_nil_of_mem hEntry))]
        exact hOrdered.above entry hEntry
      refine hReleases.ordered ?_ ?_ ?_ ?_ hInit
      · exact ch.pending.sorted.cons hAbove
      · simpa using fun number js hEntry =>
          (hAbove (number, js) hEntry).le
      · simpa [hAdmits.1] using hOrdered.stamped
      · simpa [hAdmits.2] using hOrdered.bounded
  | @released _ entry entries _ _ hPending hReleases hInit =>
      have hSorted := ch.pending.sorted
      have hStamped := hOrdered.stamped
      have hBounded := hOrdered.bounded
      rw [hPending] at hSorted hStamped hBounded
      refine
        hReleases.ordered hSorted ?_ hStamped hBounded hInit
      intro e hMember
      rcases List.mem_cons.mp hMember with rfl | hTail
      · exact Nat.le_refl _
      · exact (List.rel_of_pairwise_cons hSorted hTail).le

/- Every run of admissible events preserves the invariant. -/
theorem run_ordered
    {conv : String}
    {ch : Channel}
    {events : List ChannelEvent}
    (hEvents : ∀ event ∈ events, Admits conv event)
    (hOrdered : Ordered conv ch) :
    Ordered conv (Transducer.run step ch events).1 :=
  Transducer.run_invariant (Admits conv) (Ordered conv)
    (fun _ _ hAdmits hState => step_ordered hState hAdmits)
    hEvents hOrdered

end Channel

end ClusterChat
