import ClusterChat.Orderer.ChannelRun

/-
  An ascending batch on one channel that starts empty.

  The channel displays the first run of consecutive numbers
  and keeps the rest pending.  One flush displays the second
  run, so everything is displayed if and only if the batch
  has at most two runs.

  Main declarations:
    * `Channel.Brings`
    * `Channel.run_buffers`
    * `Channel.runFresh_ascending`
    * `Channel.flush_first_run`
-/

------------------------------------------------------------
-- Ascending Arrivals
------------------------------------------------------------

namespace ClusterChat

open ConsecutiveRun

namespace Channel

/- The events bring exactly these messages, in order. -/
def Brings
    (events : List ChannelEvent)
    (entries : List (Nat × Json)) : Prop :=
  events.map ChannelEvent.arrival? = entries.map some

theorem Brings.cons_inv
    {event : ChannelEvent}
    {events : List ChannelEvent}
    {entries : List (Nat × Json)}
    (hBrings : Brings (event :: events) entries) :
    ∃ seq js now rest,
      event = .receive js seq now ∧
        entries = (seq, js) :: rest ∧
        Brings events rest := by
  unfold Brings at hBrings
  cases entries with
  | nil => simp at hBrings
  | cons entry rest =>
      rw [List.map_cons, List.map_cons] at hBrings
      rcases List.cons.inj hBrings with ⟨hEvent, hRest⟩
      cases event with
      | receive js seq now =>
          have hEntry : (seq, js) = entry :=
            Option.some.inj hEvent
          rw [← hEntry]
          exact ⟨seq, js, now, rest, rfl, rfl, hRest⟩
      | tick => simp [ChannelEvent.arrival?] at hEvent
      | flush => simp [ChannelEvent.arrival?] at hEvent

/- A number above `expect` is buffered. -/
theorem receive_above
    {conv : String}
    {ch : Channel}
    (hOrdered : Ordered conv ch)
    (hInitialized : ch.initialized = true)
    {js : Json}
    {seq : Nat}
    {now : TimePoint}
    (hAdmits : Admits conv (.receive js seq now))
    (hAbove : ch.expect < seq) :
    (ch.step (.receive js seq now)).2 = [] ∧
      (ch.step (.receive js seq now)).1.pending =
        ch.pending.insert seq js ∧
      (ch.step (.receive js seq now)).1.expect = ch.expect ∧
      (ch.step (.receive js seq now)).1.initialized =
        true := by
  have hOutcome := step_outcome hOrdered hAdmits
  generalize ch.step (.receive js seq now) = result
    at hOutcome ⊢
  cases hOutcome with
  | idle hNone => simp [ChannelEvent.arrival?] at hNone
  | discarded _ hLate => omega
  | buffered => exact ⟨rfl, rfl, rfl, hInitialized⟩
  | delivered hExpected =>
      have := hExpected hInitialized
      omega
  | released hNone => simp [ChannelEvent.arrival?] at hNone

/- Ascending numbers above everything pending are buffered
behind it. -/
theorem run_buffers
    {conv : String}
    {ch : Channel}
    (hOrdered : Ordered conv ch)
    (hInitialized : ch.initialized = true)
    {events : List ChannelEvent}
    {entries : List (Nat × Json)}
    (hBrings : Brings events entries)
    (hEvents : ∀ event ∈ events, Admits conv event)
    (hSorted : entries.Pairwise (fun a b => a.1 < b.1))
    (hExpect : ∀ entry ∈ entries, ch.expect < entry.1)
    (hPending :
      ∀ old ∈ ch.pending.entries,
        ∀ entry ∈ entries, old.1 < entry.1) :
    (Transducer.run step ch events).1.pending.entries =
        ch.pending.entries ++ entries ∧
      (Transducer.run step ch events).2 = [] := by
  induction events generalizing ch entries with
  | nil =>
      have hNil : entries = [] := by
        simpa [Brings] using hBrings
      simp [hNil]
  | cons event events ih =>
      rcases hBrings.cons_inv with
        ⟨seq, js, now, rest, rfl, rfl, hRest⟩
      have hAdmits := hEvents _ List.mem_cons_self
      rcases receive_above hOrdered hInitialized hAdmits
          (hExpect _ List.mem_cons_self) with
        ⟨hEffects, hInsert, hSame, hInit⟩
      have hEntries :
          (ch.step (.receive js seq now)).1.pending.entries =
            ch.pending.entries ++ [(seq, js)] := by
        rw [hInsert]
        apply SortedMap.insertEntries_of_above
        intro old hOld
        exact hPending old hOld _ List.mem_cons_self
      have hBehind :=
        ih (step_ordered hOrdered hAdmits) hInit hRest
          (fun e hMember =>
            hEvents e (List.mem_cons_of_mem _ hMember))
          hSorted.of_cons
          (fun e hMember => by
            rw [hSame]
            exact hExpect e (List.mem_cons_of_mem _ hMember))
          (fun old hOld e hMember => by
            rw [hEntries] at hOld
            rcases List.mem_append.mp hOld with hOld | hNew
            · exact hPending old hOld e
                (List.mem_cons_of_mem _ hMember)
            · rw [List.mem_singleton.mp hNew]
              exact List.rel_of_pairwise_cons hSorted
                hMember)
      rw [Transducer.run_cons, hBehind.1, hEntries, hEffects,
        hBehind.2]
      simp

/- The expected number, with nothing pending, is displayed
alone. -/
theorem receive_expected
    {conv : String}
    {ch : Channel}
    (hOrdered : Ordered conv ch)
    (hPending : ch.pending.entries = [])
    {js : Json}
    {seq : Nat}
    {now : TimePoint}
    (hAdmits : Admits conv (.receive js seq now))
    (hExpected : ch.initialized = true → seq = ch.expect) :
    emitted (ch.step (.receive js seq now)).2 = [js] ∧
      (ch.step (.receive js seq now)).1.pending.entries =
        [] ∧
      (ch.step (.receive js seq now)).1.expect = seq + 1 ∧
      (ch.step (.receive js seq now)).1.initialized =
        true := by
  have hOutcome := step_outcome hOrdered hAdmits
  generalize ch.step (.receive js seq now) = result
    at hOutcome ⊢
  cases hOutcome with
  | idle hNone => simp [ChannelEvent.arrival?] at hNone
  | discarded hInitialized hLate =>
      have := hExpected hInitialized
      omega
  | buffered hInitialized hEarly =>
      have := hExpected hInitialized
      omega
  | delivered _ hReleases hInitialized =>
      rw [hPending] at hReleases
      refine ⟨?_, ?_, ?_, hInitialized⟩
      · rw [emitted_of_releases hReleases]
        simp [takeRun]
      · rw [hReleases.pending]
        simp [dropRun]
      · rw [hReleases.expect]
        simp [takeRun]
  | released hNone => simp [ChannelEvent.arrival?] at hNone

/-
  Ascending numbers from `expect` on: the run that starts at
  `expect` is displayed, the rest stays pending.
-/
theorem run_ascending
    {conv : String}
    {ch : Channel}
    (hOrdered : Ordered conv ch)
    (hInitialized : ch.initialized = true)
    (hPending : ch.pending.entries = [])
    {events : List ChannelEvent}
    {entries : List (Nat × Json)}
    (hBrings : Brings events entries)
    (hEvents : ∀ event ∈ events, Admits conv event)
    (hSorted : entries.Pairwise (fun a b => a.1 < b.1))
    (hLower : ∀ entry ∈ entries, ch.expect ≤ entry.1) :
    (Transducer.run step ch events).1.pending.entries =
        dropRun ch.expect entries ∧
      emitted (Transducer.run step ch events).2 =
        (takeRun ch.expect entries).map Prod.snd := by
  induction events generalizing ch entries with
  | nil =>
      have hNil : entries = [] := by
        simpa [Brings] using hBrings
      simp [hNil, hPending]
  | cons event events ih =>
      have hBringsAll := hBrings
      rcases hBrings.cons_inv with
        ⟨seq, js, now, rest, rfl, rfl, hRest⟩
      have hAdmits := hEvents _ List.mem_cons_self
      have hSeq := hLower _ List.mem_cons_self
      dsimp only at hSeq
      by_cases hExpected : seq = ch.expect
      · rcases receive_expected hOrdered hPending hAdmits
            (fun _ => hExpected) with
          ⟨hShown, hEmpty, hNext, hInit⟩
        have hBehind :=
          ih (step_ordered hOrdered hAdmits) hInit hEmpty
            hRest
            (fun e hMember =>
              hEvents e (List.mem_cons_of_mem _ hMember))
            hSorted.of_cons
            (fun e hMember => by
              rw [hNext]
              exact List.rel_of_pairwise_cons hSorted
                hMember)
        rw [Transducer.run_cons, emitted_append, hShown,
          hBehind.1, hBehind.2, hNext, ← hExpected,
          takeRun_cons_self, dropRun_cons_self]
        exact ⟨rfl, rfl⟩
      · have hAbove : ∀ e ∈ (seq, js) :: rest,
            ch.expect < e.1 := by
          intro e hMember
          rcases List.mem_cons.mp hMember with hSelf | hTail
          · rw [hSelf]
            change ch.expect < seq
            omega
          · have hLater :=
              List.rel_of_pairwise_cons hSorted hTail
            change seq < e.1 at hLater
            omega
        have hBuffers :=
          run_buffers hOrdered hInitialized hBringsAll
            hEvents hSorted hAbove
            (by simp [hPending])
        rw [hBuffers.1, hBuffers.2, hPending]
        simp [takeRun, dropRun, hExpected]

/- An ascending batch on an empty channel displays its first
run. -/
theorem runFresh_ascending
    {conv : String}
    {events : List ChannelEvent}
    {entries : List (Nat × Json)}
    (hBrings : Brings events entries)
    (hEvents : ∀ event ∈ events, Admits conv event)
    (hSorted : entries.Pairwise (fun a b => a.1 < b.1)) :
    (runFresh events).1.pending.entries =
        dropFirstRun entries ∧
      emitted (runFresh events).2 =
        (takeFirstRun entries).map Prod.snd := by
  cases events with
  | nil =>
      have hNil : entries = [] := by
        simpa [Brings] using hBrings
      simp [hNil, runFresh, takeFirstRun, dropFirstRun]
  | cons event events =>
      rcases hBrings.cons_inv with
        ⟨seq, js, now, rest, rfl, rfl, hRest⟩
      have hAdmits := hEvents _ List.mem_cons_self
      rcases receive_expected (ordered_default conv) rfl
          hAdmits (fun hInit => by simp at hInit) with
        ⟨hShown, hEmpty, hNext, hInit⟩
      have hBehind :=
        run_ascending
          (step_ordered (ordered_default conv) hAdmits) hInit
          hEmpty hRest
          (fun e hMember =>
            hEvents e (List.mem_cons_of_mem _ hMember))
          hSorted.of_cons
          (fun e hMember => by
            rw [hNext]
            exact List.rel_of_pairwise_cons hSorted hMember)
      have hTake :
          takeFirstRun ((seq, js) :: rest) =
            (seq, js) :: takeRun (seq + 1) rest :=
        takeRun_cons_self seq js rest
      have hDrop :
          dropFirstRun ((seq, js) :: rest) =
            dropRun (seq + 1) rest :=
        dropRun_cons_self seq js rest
      unfold runFresh
      rw [Transducer.run_cons, emitted_append, hShown,
        hBehind.1, hBehind.2, hNext, hTake, hDrop]
      exact ⟨rfl, rfl⟩

------------------------------------------------------------
-- One Flush
------------------------------------------------------------

/- A flush displays the first run of the pending entries. -/
theorem flush_first_run
    {conv : String}
    {ch : Channel}
    (hOrdered : Ordered conv ch)
    (now : TimePoint) :
    (ch.step (.flush now)).1.pending.entries =
        dropFirstRun ch.pending.entries ∧
      emitted (ch.step (.flush now)).2 =
        (takeFirstRun ch.pending.entries).map Prod.snd := by
  change
    (ch.flush now).1.pending.entries = _ ∧
      emitted (ch.flush now).2 = _
  unfold flush
  cases hPending : ch.pending.entries with
  | nil => simp [hPending, dropFirstRun, takeFirstRun]
  | cons entry entries =>
      rw [if_pos (by simp)]
      have hReleases :=
        (release_releases hOrdered hPending now).1
      rw [emitted_of_releases hReleases, hReleases.pending]
      exact ⟨rfl, rfl⟩

end Channel

end ClusterChat
