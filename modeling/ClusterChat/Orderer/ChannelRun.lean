import ClusterChat.Orderer.Channel

/-
  Runs of one channel that starts empty.

  The numbers displayed count upwards, and every number that
  arrived is displayed, still pending, or came too late each
  time.  Both follow by induction on the run from what one
  step displays and keeps.

  Main declarations:
    * `Channel.step_numbers`
    * `Channel.run_numbers_sorted`
    * `Channel.AlwaysLate`
    * `Channel.run_accounts`
    * `Channel.run_receives_contiguous`
-/

------------------------------------------------------------
-- What One Step Displays
------------------------------------------------------------

namespace ClusterChat

open ConsecutiveRun

namespace Channel

/- The messages of a released run, in order. -/
theorem emitted_of_releases
    {source : List (Nat × Json)}
    {first : Nat}
    {result : Channel × List Effect}
    (hReleases : Releases source first result) :
    emitted result.2 =
      (takeRun first source).map Prod.snd := by
  rw [hReleases.effects]
  unfold emitted
  rw [List.filterMap_map]
  exact List.filterMap_eq_map ▸ rfl

/- The numbers of stamped entries are their keys. -/
theorem numbersIn_of_stamped
    {conv : String}
    {entries : List (Nat × Json)}
    (hStamped :
      ∀ entry ∈ entries,
        entry.2.numbered? = some (conv, entry.1)) :
    numbersIn conv (entries.map Prod.snd) =
      entries.map Prod.fst := by
  induction entries with
  | nil => rfl
  | cons entry entries ih =>
      have hHead : entry.2.seqIn conv = some entry.1 :=
        Json.seqIn_eq_some_iff.mpr
          (hStamped entry List.mem_cons_self)
      have hTail :=
        ih (fun e hMember =>
          hStamped e (List.mem_cons_of_mem _ hMember))
      unfold numbersIn at hTail ⊢
      rw [List.map_cons, List.filterMap_cons, hHead, hTail]
      rfl

theorem numbersIn_of_releases
    {conv : String}
    {source : List (Nat × Json)}
    {first : Nat}
    {result : Channel × List Effect}
    (hReleases : Releases source first result)
    (hStamped :
      ∀ entry ∈ source,
        entry.2.numbered? = some (conv, entry.1)) :
    numbersIn conv (emitted result.2) =
      List.range' first (result.1.expect - first) := by
  have hLength :
      result.1.expect - first =
        (takeRun first source).length := by
    rw [hReleases.expect]
    omega
  rw [emitted_of_releases hReleases,
    numbersIn_of_stamped
      (fun entry hEntry =>
        hStamped entry (mem_of_mem_takeRun hEntry)),
    map_fst_takeRun, hLength]

theorem stamped_cons
    {conv : String}
    {ch : Channel}
    (hOrdered : Ordered conv ch)
    {js : Json}
    {seq : Nat}
    (hNumbered : js.numbered? = some (conv, seq)) :
    ∀ entry ∈ (seq, js) :: ch.pending.entries,
      entry.2.numbered? = some (conv, entry.1) := by
  intro entry hEntry
  rcases List.mem_cons.mp hEntry with rfl | hPending
  · exact hNumbered
  · exact hOrdered.stamped entry hPending

/-
  A step displays consecutive numbers, none below the old
  `expect` and all below the new one.
-/
theorem step_numbers
    {conv : String}
    {ch : Channel}
    (hOrdered : Ordered conv ch)
    {event : ChannelEvent}
    (hAdmits : Admits conv event) :
    ∃ first,
      numbersIn conv (emitted (ch.step event).2) =
          List.range' first
            ((ch.step event).1.expect - first) ∧
        ch.expect ≤ first ∧
        first ≤ (ch.step event).1.expect := by
  have hOutcome := step_outcome hOrdered hAdmits
  generalize ch.step event = result at hOutcome ⊢
  cases hOutcome with
  | idle =>
      exact ⟨ch.expect, by simp, by simp, by simp⟩
  | discarded =>
      exact
        ⟨ch.expect, by simp [emitted_discard],
          by simp, by simp⟩
  | buffered =>
      exact ⟨ch.expect, by simp, by simp, by simp⟩
  | @delivered js seq now _ hExpected hReleases _ =>
      refine ⟨seq, ?_, ?_, ?_⟩
      · exact
          numbersIn_of_releases hReleases
            (stamped_cons hOrdered hAdmits.1)
      · cases hInitialized : ch.initialized with
        | true => exact (hExpected hInitialized).ge
        | false =>
            rw [(hOrdered.idle hInitialized).2.2]
            exact Nat.zero_le seq
      · rw [hReleases.expect]
        omega
  | @released _ entry entries _ _ hPending hReleases _ =>
      have hStamped := hOrdered.stamped
      rw [hPending] at hStamped
      refine ⟨entry.1, ?_, ?_, ?_⟩
      · exact numbersIn_of_releases hReleases hStamped
      · apply Nat.le_of_lt
        apply hOrdered.above
        rw [hPending]
        exact List.mem_cons_self
      · rw [hReleases.expect]
        omega

theorem step_expect_le
    {conv : String}
    {ch : Channel}
    (hOrdered : Ordered conv ch)
    {event : ChannelEvent}
    (hAdmits : Admits conv event) :
    ch.expect ≤ (ch.step event).1.expect := by
  rcases step_numbers hOrdered hAdmits with
    ⟨first, _, hLower, hUpper⟩
  exact hLower.trans hUpper

/- A step within the invariant never expires an entry. -/
theorem step_never_expires
    {conv : String}
    {ch : Channel}
    (hOrdered : Ordered conv ch)
    {event : ChannelEvent}
    (hAdmits : Admits conv event) :
    ∀ effect ∈ (ch.step event).2, ¬ effect.IsExpire := by
  have hOutcome := step_outcome hOrdered hAdmits
  generalize ch.step event = result at hOutcome ⊢
  intro effect hEffect
  cases hOutcome with
  | idle => simp at hEffect
  | discarded =>
      rw [List.mem_singleton.mp hEffect]
      simp [Effect.IsExpire]
  | buffered => simp at hEffect
  | delivered _ hReleases =>
      rw [hReleases.effects] at hEffect
      rcases List.mem_map.mp hEffect with ⟨entry, _, rfl⟩
      simp [Effect.IsExpire]
  | released _ _ hReleases =>
      rw [hReleases.effects] at hEffect
      rcases List.mem_map.mp hEffect with ⟨entry, _, rfl⟩
      simp [Effect.IsExpire]

------------------------------------------------------------
-- Ascending Numbers
------------------------------------------------------------

/- The run of an empty channel over the events. -/
abbrev runFresh
    (events : List ChannelEvent) :
    Channel × List Effect :=
  Transducer.run step {} events

/- The invariant after a run of an empty channel. -/
theorem runFresh_ordered
    {conv : String}
    {events : List ChannelEvent}
    (hEvents : ∀ event ∈ events, Admits conv event) :
    Ordered conv (runFresh events).1 :=
  run_ordered hEvents (ordered_default conv)

theorem admits_of_snoc
    {conv : String}
    {events : List ChannelEvent}
    {last : ChannelEvent}
    (hEvents :
      ∀ event ∈ events ++ [last], Admits conv event) :
    (∀ event ∈ events, Admits conv event) ∧
      Admits conv last := by
  constructor
  · intro event hEvent
    exact hEvents event (List.mem_append_left _ hEvent)
  · exact hEvents last (by simp)

/- A run of an empty channel never expires an entry. -/
theorem run_never_expires
    {conv : String}
    {events : List ChannelEvent}
    (hEvents : ∀ event ∈ events, Admits conv event) :
    ∀ effect ∈ (runFresh events).2, ¬ effect.IsExpire := by
  induction events using List.reverseRecOn with
  | nil => simp [runFresh]
  | append_singleton events last ih =>
      rcases admits_of_snoc hEvents with
        ⟨hInit, hLast⟩
      unfold runFresh at ih ⊢
      rw [Transducer.run_snoc]
      intro effect hEffect
      rcases List.mem_append.mp hEffect with hOld | hNew
      · exact ih hInit effect hOld
      · exact
          step_never_expires (runFresh_ordered hInit) hLast
            effect hNew

/-
  Over a whole run the displayed numbers are strictly
  increasing and stay below `expect`.
-/
theorem run_numbers_sorted
    {conv : String}
    {events : List ChannelEvent}
    (hEvents : ∀ event ∈ events, Admits conv event) :
    (numbersIn conv (emitted (runFresh events).2)).Pairwise
        (· < ·) ∧
      ∀ seq ∈ numbersIn conv (emitted (runFresh events).2),
        seq < (runFresh events).1.expect := by
  induction events using List.reverseRecOn with
  | nil => simp [runFresh]
  | append_singleton events last ih =>
      rcases admits_of_snoc hEvents with
        ⟨hInit, hLast⟩
      rcases ih hInit with ⟨hSorted, hBelow⟩
      have hOrdered := runFresh_ordered hInit
      rcases step_numbers hOrdered hLast with
        ⟨first, hNumbers, hLower, hUpper⟩
      unfold runFresh at hSorted hBelow hNumbers hLower ⊢
      rw [Transducer.run_snoc]
      simp only [emitted_append, numbersIn_append,
        hNumbers]
      constructor
      · apply List.pairwise_append.mpr
        refine ⟨hSorted, List.pairwise_lt_range', ?_⟩
        intro old hOld new hNew
        have hOldBelow := hBelow old hOld
        have hNewLower := (List.mem_range'_1.mp hNew).1
        omega
      · intro seq hSeq
        rcases List.mem_append.mp hSeq with hOld | hNew
        · have hOldBelow := hBelow seq hOld
          have hExpect := step_expect_le hOrdered hLast
          exact lt_of_lt_of_le hOldBelow hExpect
        · have hRange := List.mem_range'_1.mp hNew
          omega

------------------------------------------------------------
-- Accounting
------------------------------------------------------------

/- A message with the number arrived at the channel. -/
def Arrived
    (seq : Nat)
    (js : Json)
    (events : List ChannelEvent) : Prop :=
  ∃ event ∈ events, event.arrival? = some (seq, js)

/-
  Every arrival of the number found `expect` already above
  it.
-/
def AlwaysLate
    (seq : Nat)
    (events : List ChannelEvent) : Prop :=
  ∀ front event back js,
    events = front ++ event :: back →
      event.arrival? = some (seq, js) →
        seq < (runFresh front).1.expect

/- An admitted message that arrived carries its number. -/
theorem Arrived.numbered
    {conv : String}
    {events : List ChannelEvent}
    (hEvents : ∀ event ∈ events, Admits conv event)
    {seq : Nat}
    {js : Json}
    (hArrived : Arrived seq js events) :
    js.numbered? = some (conv, seq) := by
  rcases hArrived with ⟨event, hEvent, hArrival⟩
  have hAdmits := hEvents event hEvent
  cases event with
  | receive received number now =>
      simp only [ChannelEvent.arrival?, Option.some.injEq,
        Prod.mk.injEq] at hArrival
      rw [← hArrival.1, ← hArrival.2]
      exact hAdmits.1
  | tick => simp [ChannelEvent.arrival?] at hArrival
  | flush => simp [ChannelEvent.arrival?] at hArrival

theorem alwaysLate_snoc
    {seq : Nat}
    {events : List ChannelEvent}
    {last : ChannelEvent}
    (hLate : AlwaysLate seq events)
    (hLast :
      ∀ js,
        last.arrival? = some (seq, js) →
          seq < (runFresh events).1.expect) :
    AlwaysLate seq (events ++ [last]) := by
  intro front event back js hSplit hArrival
  rcases List.eq_nil_or_concat back with
    hNil | ⟨init, final, hConcat⟩
  · rw [hNil] at hSplit
    have hParts := List.append_inj' hSplit rfl
    rw [← hParts.1]
    have hEvent : last = event := by
      simpa using hParts.2
    exact hLast js (hEvent ▸ hArrival)
  · rw [hConcat, List.concat_eq_append,
      ← List.cons_append, ← List.append_assoc] at hSplit
    have hParts := List.append_inj' hSplit rfl
    exact hLate front event init js hParts.1 hArrival

/- What is pending, kept with its messages by one step. -/
theorem step_keeps_pending
    {conv : String}
    {ch : Channel}
    (hOrdered : Ordered conv ch)
    {event : ChannelEvent}
    (hAdmits : Admits conv event)
    {seq : Nat}
    (hPending : seq ∈ ch.pending.keys) :
    seq ∈ (ch.step event).1.pending.keys ∨
      seq ∈ numbersIn conv (emitted (ch.step event).2) := by
  have hOutcome := step_outcome hOrdered hAdmits
  generalize ch.step event = result at hOutcome ⊢
  cases hOutcome with
  | idle => exact Or.inl hPending
  | discarded => exact Or.inl hPending
  | buffered =>
      exact Or.inl
        (SortedMap.mem_keys_insert_iff.mpr
          (Or.inr hPending))
  | @delivered js number now _ hExpected hReleases _ =>
      rcases SortedMap.mem_keys_iff.mp hPending with
        ⟨stored, hStored⟩
      rcases mem_takeRun_or_mem_dropRun number
          (List.mem_cons_of_mem (number, js) hStored) with
        hTaken | hLeft
      · apply Or.inr
        rw [emitted_of_releases hReleases]
        apply mem_numbersIn_iff.mpr
        exact
          ⟨stored, List.mem_map.mpr ⟨_, hTaken, rfl⟩,
            hOrdered.stamped _ hStored⟩
      · apply Or.inl
        apply SortedMap.mem_keys_iff.mpr
        exact ⟨stored, hReleases.pending ▸ hLeft⟩
  | @released _ entry entries _ _ hEntries hReleases _ =>
      rcases SortedMap.mem_keys_iff.mp hPending with
        ⟨stored, hStored⟩
      have hSource := hStored
      rw [hEntries] at hSource
      rcases mem_takeRun_or_mem_dropRun entry.1
          hSource with hTaken | hLeft
      · apply Or.inr
        rw [emitted_of_releases hReleases]
        apply mem_numbersIn_iff.mpr
        exact
          ⟨stored, List.mem_map.mpr ⟨_, hTaken, rfl⟩,
            hOrdered.stamped _ hStored⟩
      · apply Or.inl
        apply SortedMap.mem_keys_iff.mpr
        exact ⟨stored, hReleases.pending ▸ hLeft⟩

/- A message is kept unless it arrives below `expect`. -/
theorem step_keeps_arrival
    {conv : String}
    {ch : Channel}
    (hOrdered : Ordered conv ch)
    {event : ChannelEvent}
    (hAdmits : Admits conv event)
    {seq : Nat}
    {js : Json}
    (hArrival : event.arrival? = some (seq, js)) :
    seq ∈ (ch.step event).1.pending.keys ∨
      seq ∈ numbersIn conv (emitted (ch.step event).2) ∨
      seq < ch.expect := by
  have hOutcome := step_outcome hOrdered hAdmits
  generalize ch.step event = result at hOutcome ⊢
  cases hOutcome with
  | idle hNone => simp [hNone] at hArrival
  | discarded hInitialized hLate =>
      simp only [ChannelEvent.arrival?, Option.some.injEq,
        Prod.mk.injEq] at hArrival
      rw [hArrival.1] at hLate
      exact Or.inr (Or.inr hLate)
  | buffered =>
      simp only [ChannelEvent.arrival?, Option.some.injEq,
        Prod.mk.injEq] at hArrival
      rw [hArrival.1]
      exact Or.inl
        (SortedMap.mem_keys_insert_iff.mpr (Or.inl rfl))
  | @delivered _ number _ _ hExpected hReleases _ =>
      simp only [ChannelEvent.arrival?, Option.some.injEq,
        Prod.mk.injEq] at hArrival
      rcases hArrival with ⟨rfl, rfl⟩
      apply Or.inr
      apply Or.inl
      rw [emitted_of_releases hReleases,
        takeRun_cons_self]
      apply mem_numbersIn_iff.mpr
      exact ⟨_, List.mem_cons_self, hAdmits.1⟩
  | released hNone => simp [hNone] at hArrival

/-
  A number is displayed, still pending, or came too late
  every time.
-/
theorem run_accounts
    {conv : String}
    {events : List ChannelEvent}
    (hEvents : ∀ event ∈ events, Admits conv event)
    (seq : Nat) :
    seq ∈ numbersIn conv (emitted (runFresh events).2) ∨
      seq ∈ (runFresh events).1.pending.keys ∨
      AlwaysLate seq events := by
  induction events using List.reverseRecOn with
  | nil =>
      apply Or.inr
      apply Or.inr
      intro front event back js hSplit
      simp at hSplit
  | append_singleton events last ih =>
      rcases admits_of_snoc hEvents with
        ⟨hInit, hLast⟩
      have hOrdered := runFresh_ordered hInit
      have hSnoc :
          runFresh (events ++ [last]) =
            (((runFresh events).1.step last).1,
              (runFresh events).2 ++
                ((runFresh events).1.step last).2) :=
        Transducer.run_snoc _ _ _
      rw [hSnoc]
      simp only [emitted_append, numbersIn_append,
        List.mem_append]
      rcases ih hInit with hEmitted | hPending | hLate
      · exact Or.inl (Or.inl hEmitted)
      · rcases step_keeps_pending hOrdered hLast
            hPending with hKept | hShown
        · exact Or.inr (Or.inl hKept)
        · exact Or.inl (Or.inr hShown)
      · by_cases hArrival :
            ∃ js, last.arrival? = some (seq, js)
        · rcases hArrival with ⟨js, hArrival⟩
          rcases step_keeps_arrival hOrdered hLast
              hArrival with hKept | hShown | hBelow
          · exact Or.inr (Or.inl hKept)
          · exact Or.inl (Or.inr hShown)
          · apply Or.inr
            apply Or.inr
            exact alwaysLate_snoc hLate (fun _ _ => hBelow)
        · apply Or.inr
          apply Or.inr
          apply alwaysLate_snoc hLate
          intro js hLastArrival
          exact absurd ⟨js, hLastArrival⟩ hArrival

theorem arrived_snoc
    {seq : Nat}
    {js : Json}
    {events : List ChannelEvent}
    (last : ChannelEvent)
    (hArrived : Arrived seq js events) :
    Arrived seq js (events ++ [last]) := by
  rcases hArrived with ⟨event, hMember, hArrival⟩
  exact ⟨event, List.mem_append_left _ hMember, hArrival⟩

/- What a run displays or keeps pending has arrived. -/
theorem run_provenance
    (events : List ChannelEvent) :
    (∀ entry ∈ (runFresh events).1.pending.entries,
      Arrived entry.1 entry.2 events) ∧
    ∀ js ∈ emitted (runFresh events).2,
      ∃ seq, Arrived seq js events := by
  induction events using List.reverseRecOn with
  | nil => simp [runFresh]
  | append_singleton events last ih =>
      rcases ih with ⟨hPending, hShown⟩
      have hDraws :=
        step_drawsFrom (runFresh events).1 last
      have hNew :
          ∀ entry,
            last.arrival? = some entry ∨
                entry ∈
                  (runFresh events).1.pending.entries →
              Arrived entry.1 entry.2
                (events ++ [last]) := by
        intro entry hEntry
        rcases hEntry with hArrival | hOld
        · exact ⟨last, by simp, hArrival⟩
        · exact arrived_snoc last (hPending entry hOld)
      unfold runFresh
      rw [Transducer.run_snoc]
      constructor
      · intro entry hEntry
        exact hNew entry (hDraws.kept entry hEntry)
      · intro js hJs
        rw [emitted_append, List.mem_append] at hJs
        rcases hJs with hOld | hNow
        · rcases hShown js hOld with ⟨seq, hArrived⟩
          exact ⟨seq, arrived_snoc last hArrived⟩
        · rcases hDraws.acted _ (mem_emitted_iff.mp hNow)
            with ⟨entry, hEntry, hMessage⟩
          refine ⟨entry.1, ?_⟩
          have hJs : entry.2 = js := hMessage
          rw [← hJs]
          exact hNew entry hEntry

/- `expect` never moves backwards along a run. -/
theorem run_expect_le
    {conv : String}
    {front back : List ChannelEvent}
    (hEvents :
      ∀ event ∈ front ++ back, Admits conv event) :
    (runFresh front).1.expect ≤
      (runFresh (front ++ back)).1.expect := by
  induction back using List.reverseRecOn with
  | nil => simp
  | append_singleton back last ih =>
      rw [← List.append_assoc] at hEvents ⊢
      rcases admits_of_snoc hEvents with
        ⟨hInit, hLast⟩
      have hStep :=
        step_expect_le (runFresh_ordered hInit) hLast
      unfold runFresh at hStep ⊢
      rw [Transducer.run_snoc]
      exact (ih hInit).trans hStep

------------------------------------------------------------
-- Runs Without Forced Releases
------------------------------------------------------------

/-
  Where every event brings a message, a step displays the
  numbers from `expect` on without a gap.
-/
theorem step_contiguous
    {conv : String}
    {ch : Channel}
    (hOrdered : Ordered conv ch)
    {event : ChannelEvent}
    (hAdmits : Admits conv event)
    {seq : Nat}
    {js : Json}
    (hArrival : event.arrival? = some (seq, js)) :
    (ch.step event).1.initialized = true ∧
      numbersIn conv (emitted (ch.step event).2) =
        List.range' (ch.startAt seq).expect
          ((ch.step event).1.expect -
            (ch.startAt seq).expect) ∧
      (ch.startAt seq).expect ≤
        (ch.step event).1.expect := by
  have hOutcome := step_outcome hOrdered hAdmits
  generalize ch.step event = result at hOutcome ⊢
  cases hOutcome with
  | idle hNone => simp [hNone] at hArrival
  | discarded hInitialized =>
      simp [startAt, hInitialized]
  | buffered hInitialized =>
      simp [startAt, hInitialized]
  | @delivered _ number _ _ hExpected hReleases hResult =>
      simp only [ChannelEvent.arrival?, Option.some.injEq,
        Prod.mk.injEq] at hArrival
      rcases hArrival with ⟨rfl, rfl⟩
      have hStart : (ch.startAt number).expect = number := by
        unfold startAt
        split
        · rename_i hInitialized
          exact (hExpected hInitialized).symm
        · rfl
      rw [hStart]
      refine ⟨hResult, ?_, ?_⟩
      · exact
          numbersIn_of_releases hReleases
            (stamped_cons hOrdered hAdmits.1)
      · rw [hReleases.expect]
        omega
  | released hNone => simp [hNone] at hArrival

/-
  A run of arrivals displays, from its first number on, an
  unbroken sequence that ends right below `expect`.
-/
theorem run_receives_contiguous
    {conv : String}
    {first : ChannelEvent}
    {events : List ChannelEvent}
    {start : Nat}
    {js : Json}
    (hEvents :
      ∀ event ∈ first :: events, Admits conv event)
    (hFirst : first.arrival? = some (start, js))
    (hArrivals :
      ∀ event ∈ events, event.arrival? ≠ none) :
    (runFresh (first :: events)).1.initialized = true ∧
      numbersIn conv
          (emitted (runFresh (first :: events)).2) =
        List.range' start
          ((runFresh (first :: events)).1.expect - start) ∧
      start ≤ (runFresh (first :: events)).1.expect := by
  induction events using List.reverseRecOn with
  | nil =>
      have hStep :=
        step_contiguous (ordered_default conv)
          (hEvents first List.mem_cons_self) hFirst
      unfold runFresh
      rw [Transducer.run_singleton]
      exact hStep
  | append_singleton events last ih =>
      rw [← List.cons_append] at hEvents ⊢
      rcases admits_of_snoc hEvents with
        ⟨hInit, hLast⟩
      have hFront :=
        ih hInit (fun event hEvent =>
          hArrivals event (List.mem_append_left _ hEvent))
      rcases hFront with ⟨hInitialized, hNumbers, hLe⟩
      rcases Option.ne_none_iff_exists'.mp
          (hArrivals last (by simp)) with
        ⟨⟨seq, message⟩, hArrival⟩
      have hStep :=
        step_contiguous (runFresh_ordered hInit) hLast
          hArrival
      have hStart :
          (runFresh (first :: events)).1.startAt seq =
            (runFresh (first :: events)).1 := by
        simp [startAt, hInitialized]
      rw [hStart] at hStep
      rcases hStep with ⟨hStepInit, hStepNumbers, hStepLe⟩
      unfold runFresh at hNumbers hStepNumbers hStepLe hLe ⊢
      rw [Transducer.run_snoc]
      refine ⟨hStepInit, ?_, hLe.trans hStepLe⟩
      rw [emitted_append, numbersIn_append, hNumbers,
        hStepNumbers]
      exact range'_glue hLe hStepLe

/-
  Any arrival order of the numbers `start .. start + count`,
  with repetitions and `start` first, displays each of them
  once and in order.
-/
theorem runFresh_restores_order
    {conv : String}
    {first : ChannelEvent}
    {events : List ChannelEvent}
    {start count : Nat}
    {js : Json}
    (hEvents :
      ∀ event ∈ first :: events, Admits conv event)
    (hFirst : first.arrival? = some (start, js))
    (hOnly :
      ∀ event ∈ first :: events,
        ∃ seq message,
          event.arrival? = some (seq, message) ∧
            seq ≤ start + count)
    (hEach :
      ∀ seq,
        start ≤ seq → seq ≤ start + count →
          ∃ message,
            Arrived seq message (first :: events)) :
    numbersIn conv
          (emitted (runFresh (first :: events)).2) =
        List.range' start (count + 1) ∧
      (runFresh (first :: events)).1.pending.entries = [] ∧
      (runFresh (first :: events)).1.expect =
        start + count + 1 := by
  have hArrivals :
      ∀ event ∈ events, event.arrival? ≠ none := by
    intro event hEvent
    rcases hOnly event (List.mem_cons_of_mem _ hEvent) with
      ⟨seq, message, hArrival, _⟩
    simp [hArrival]
  have hUpper :
      ∀ seq message,
        Arrived seq message (first :: events) →
          seq ≤ start + count := by
    intro seq message hArrived
    rcases hArrived with ⟨event, hMember, hArrival⟩
    rcases hOnly event hMember with
      ⟨number, other, hOther, hLe⟩
    rw [hArrival] at hOther
    have hSame : seq = number := by
      simpa using (congrArg (Option.map Prod.fst) hOther)
    omega
  rcases run_receives_contiguous hEvents hFirst
      hArrivals with ⟨_, hNumbers, hLe⟩
  rcases run_provenance (first :: events) with
    ⟨hPendingArrived, hShownArrived⟩
  have hOrdered := runFresh_ordered hEvents
  have hExpectUpper :
      (runFresh (first :: events)).1.expect ≤
        start + count + 1 := by
    by_contra hGreater
    have hShown :
        start + count + 1 ∈
          numbersIn conv
            (emitted (runFresh (first :: events)).2) := by
      rw [hNumbers, List.mem_range'_1]
      omega
    rcases mem_numbersIn_iff.mp hShown with
      ⟨message, hMember, hNumbered⟩
    rcases hShownArrived message hMember with
      ⟨seq, hArrived⟩
    have hAdmitted := hArrived.numbered hEvents
    rw [hNumbered] at hAdmitted
    have hSeq : start + count + 1 = seq := by
      simpa using hAdmitted
    have := hUpper seq message hArrived
    omega
  have hExpectLower :
      start + count + 1 ≤
        (runFresh (first :: events)).1.expect := by
    by_contra hLess
    have hMissing :
        (runFresh (first :: events)).1.expect ≤
          start + count := by
      omega
    rcases hEach _ hLe hMissing with
      ⟨message, event, hMember, hArrival⟩
    rcases run_accounts hEvents
        (runFresh (first :: events)).1.expect with
      hShown | hPending | hLate
    · have hBelow :=
        (run_numbers_sorted hEvents).2 _ hShown
      omega
    · rcases SortedMap.mem_keys_iff.mp hPending with
        ⟨stored, hStored⟩
      have hAbove := hOrdered.above _ hStored
      omega
    · rcases List.append_of_mem hMember with
        ⟨front, back, hSplit⟩
      have hBefore :=
        hLate front event back message hSplit hArrival
      rw [hSplit] at hEvents
      have hMono := run_expect_le hEvents
      rw [← hSplit] at hMono
      omega
  have hExpect :
      (runFresh (first :: events)).1.expect =
        start + count + 1 := by
    omega
  refine ⟨?_, ?_, hExpect⟩
  · rw [hNumbers, hExpect]
    congr 1
    omega
  · apply List.eq_nil_iff_forall_not_mem.mpr
    intro entry hEntry
    have hAbove := hOrdered.above entry hEntry
    have hArrivedUpper :=
      hUpper _ _ (hPendingArrived entry hEntry)
    omega

end Channel

end ClusterChat
