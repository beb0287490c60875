import ClusterChat.Orderer.Guarantees

/-
  When a channel gives up its holes.

  The clock of a hole is the field `gapSince`, which is
  cleared by every delivery and set in two places.  The
  history of a channel says for every event when it happened,
  whether it displayed anything, and whether messages were
  waiting before and after.  What the field holds is the hole
  time that the history shows, so `tick` releases messages
  exactly when their hole is due.

  Main declarations:
    * `Channel.step_clock`
    * `Channel.Happening` and `Channel.holeTime`
    * `Channel.run_holeClock`
    * `ConversationOrderer.tick_releases_when_due`
-/

------------------------------------------------------------
-- The Clock in One Step
------------------------------------------------------------

namespace ClusterChat

open ConsecutiveRun

/- The clock reading of an event on a channel, taken where
the channel stores it. -/
def ChannelEvent.time : ChannelEvent → TimePoint
| receive _ _ now => now
| tick _ _ drainNow => drainNow
| flush drainNow => drainNow

namespace Channel

/- The hole has waited long enough when `tick` reads `now`. -/
def TimedOut
    (ch : Channel)
    (gapTimeoutMs : Int)
    (now : TimePoint) : Prop :=
  ch.pending.entries ≠ [] ∧ ch.gapSince ≠ 0 ∧
    gapTimeoutMs ≤ (now - ch.gapSince).tdiv 1000000

instance
    (ch : Channel)
    (gapTimeoutMs : Int)
    (now : TimePoint) :
    Decidable (ch.TimedOut gapTimeoutMs now) :=
  inferInstanceAs (Decidable (_ ∧ _ ∧ _))

theorem tick_of_timedOut
    {ch : Channel}
    {gapTimeoutMs : Int}
    {now : TimePoint}
    (hTimedOut : ch.TimedOut gapTimeoutMs now)
    (drainNow : TimePoint) :
    ch.tick gapTimeoutMs now drainNow =
      ch.release drainNow := by
  rcases hTimedOut with ⟨hPending, hSince, hWaited⟩
  unfold tick
  rw [if_neg hPending, if_neg hSince,
    if_neg (Int.not_lt.mpr hWaited)]

theorem tick_of_not_timedOut
    {ch : Channel}
    {gapTimeoutMs : Int}
    {now : TimePoint}
    (hInTime : ¬ ch.TimedOut gapTimeoutMs now)
    (drainNow : TimePoint) :
    ch.tick gapTimeoutMs now drainNow = (ch, []) := by
  unfold tick
  split_ifs with hPending hSince hWaited
  · rfl
  · rfl
  · rfl
  · exact
      absurd
        ⟨hPending, hSince, Int.not_lt.mp hWaited⟩ hInTime

/- The loop keeps the clock or clears it. -/
theorem drainLoop_gapSince
    (ch : Channel)
    (entries : List (Nat × Json))
    (hSorted : entries.Pairwise (fun a b => a.1 < b.1)) :
    (ch.drainLoop entries hSorted).1.gapSince =
        ch.gapSince ∨
      (ch.drainLoop entries hSorted).1.gapSince = 0 := by
  induction entries generalizing ch with
  | nil => exact Or.inl rfl
  | cons entry entries ih =>
      rcases entry with ⟨seq, js⟩
      unfold drainLoop
      split_ifs
      · exact ih ch hSorted.of_cons
      · exact Or.inl rfl
      · rcases
            ih (ch.deliver js ch.expect).1
              hSorted.of_cons with hKept | hCleared
        · exact Or.inr hKept
        · exact Or.inr hCleared

variable {ch : Channel}

/- After a delivery, draining starts the clock anew if
something is left. -/
theorem drainPending_restarts
    (hCleared :
      (ch.drainLoop ch.pending.entries
        ch.pending.sorted).1.gapSince = 0)
    (now : TimePoint) :
    (ch.drainPending now).1.gapSince =
      if (ch.drainPending now).1.pending.entries = [] then
        0
      else
        now := by
  unfold drainPending
  dsimp only
  by_cases hLeft :
      (ch.drainLoop ch.pending.entries
        ch.pending.sorted).1.pending.entries = []
  · rw [if_neg (fun hStart => hStart.1 hLeft),
      if_pos hLeft]
    exact hCleared
  · rw [if_pos ⟨hLeft, hCleared⟩, if_neg hLeft]

/- The loop delivers an entry that carries the expected
number, and a delivery clears the clock. -/
theorem drainLoop_delivers
    {entry : Nat × Json}
    {entries source : List (Nat × Json)}
    (hSource : source = entry :: entries)
    (hSorted : source.Pairwise (fun a b => a.1 < b.1))
    (hExpect : ch.expect = entry.1) :
    emitted (ch.drainLoop source hSorted).2 ≠ [] ∧
      (ch.drainLoop source hSorted).1.gapSince = 0 := by
  subst hSource
  rcases entry with ⟨seq, js⟩
  unfold drainLoop
  rw [if_neg hExpect.not_gt, if_neg (by simp [hExpect])]
  dsimp only
  constructor
  · rw [emitted_append]
    simp [deliver]
  · rcases
        drainLoop_gapSince (ch.deliver js ch.expect).1
          entries hSorted.of_cons with hKept | hCleared
    · exact hKept
    · exact hCleared

/- A release displays something and starts the clock anew. -/
theorem release_restarts
    (hPending : ch.pending.entries ≠ [])
    (now : TimePoint) :
    emitted (ch.release now).2 ≠ [] ∧
      (ch.release now).1.gapSince =
        if (ch.release now).1.pending.entries = [] then
          0
        else
          now := by
  rcases List.exists_cons_of_ne_nil hPending with
    ⟨entry, entries, hEntries⟩
  rw [release_of_pending hEntries]
  rcases
      @drainLoop_delivers { ch with expect := entry.1 } _ _ _
        hEntries ch.pending.sorted rfl with
    ⟨hEmits, hCleared⟩
  refine ⟨?_, drainPending_restarts hCleared now⟩
  unfold drainPending
  dsimp only
  split_ifs <;> exact hEmits

/-
  What a step does to the clock.  It displays something and
  leaves the clock started anew or cleared; or it buffers a
  message and starts a clock that stands still; or it leaves
  the pending messages and the clock alone.
-/
theorem step_clock
    (ch : Channel)
    (event : ChannelEvent) :
    let result := ch.step event
    (emitted result.2 ≠ [] ∧
        result.1.gapSince =
          if result.1.pending.entries = [] then
            0
          else
            event.time) ∨
      (emitted result.2 = [] ∧
        result.1.pending.entries ≠ [] ∧
          result.1.gapSince =
            if ch.gapSince = 0 then
              event.time
            else
              ch.gapSince) ∨
        (emitted result.2 = [] ∧
          result.1.pending = ch.pending ∧
            result.1.gapSince = ch.gapSince) := by
  intro result
  cases event with
  | receive js seq now =>
      have hStart :
          (ch.startAt seq).gapSince = ch.gapSince ∧
            (ch.startAt seq).pending = ch.pending := by
        unfold startAt
        split <;> exact ⟨rfl, rfl⟩
      have hBuffered :
          ((ch.startAt seq).pending.insert seq js).entries ≠
            [] :=
        List.ne_nil_of_mem
          (SortedMap.mem_insert_iff.mpr (Or.inl rfl))
      have hResult : result = ch.receive js seq now := rfl
      unfold receive at hResult
      dsimp only at hResult
      split_ifs at hResult with hLate hExpected hClear
      · rw [hResult]
        exact Or.inr (Or.inr ⟨rfl, hStart.2, hStart.1⟩)
      · apply Or.inl
        rw [hResult]
        refine ⟨?_, drainPending_restarts ?_ now⟩
        · rw [emitted_append]
          simp [deliver]
        rcases
            drainLoop_gapSince
              ((ch.startAt seq).deliver js seq).1 _ _ with
          hKept | hCleared
        · exact hKept
        · exact hCleared
      · apply Or.inr
        apply Or.inl
        rw [hResult, if_pos (hStart.1 ▸ hClear)]
        exact ⟨rfl, hBuffered, rfl⟩
      · apply Or.inr
        apply Or.inl
        rw [hResult, if_neg (hStart.1 ▸ hClear)]
        exact ⟨rfl, hBuffered, hStart.1⟩
  | tick gapTimeoutMs now drainNow =>
      by_cases hTimedOut : ch.TimedOut gapTimeoutMs now
      · have hResult : result = ch.release drainNow :=
          tick_of_timedOut hTimedOut drainNow
        rw [hResult]
        exact Or.inl (release_restarts hTimedOut.1 drainNow)
      · have hResult : result = (ch, []) :=
          tick_of_not_timedOut hTimedOut drainNow
        rw [hResult]
        exact Or.inr (Or.inr ⟨rfl, rfl, rfl⟩)
  | flush drainNow =>
      have hResult : result = ch.flush drainNow := rfl
      unfold flush at hResult
      split_ifs at hResult with hPending
      · rw [hResult]
        exact Or.inl (release_restarts hPending drainNow)
      · rw [hResult]
        exact Or.inr (Or.inr ⟨rfl, rfl, rfl⟩)

------------------------------------------------------------
-- The Hole Time
------------------------------------------------------------

/- What is on record of one event of a channel. -/
structure Happening where
  time : TimePoint
  displays : Bool
  waitedBefore : Bool
  waitsAfter : Bool

/- Messages were not waiting before, but are afterwards. -/
def Happening.opens (happening : Happening) : Bool :=
  !happening.waitedBefore && happening.waitsAfter

/- The record of an event that comes next. -/
def happening
    (ch : Channel)
    (event : ChannelEvent) : Happening where
  time := event.time
  displays := decide (emitted (ch.step event).2 ≠ [])
  waitedBefore := decide (ch.pending.entries ≠ [])
  waitsAfter :=
    decide ((ch.step event).1.pending.entries ≠ [])

/- The records of a run, oldest first. -/
def history (ch : Channel) :
    List ChannelEvent → List Happening
| [] => []
| event :: events =>
    ch.happening event :: history (ch.step event).1 events

theorem history_snoc
    (ch : Channel)
    (events : List ChannelEvent)
    (last : ChannelEvent) :
    history ch (events ++ [last]) =
      history ch events ++
        [(Transducer.run step ch events).1.happening
          last] := by
  induction events generalizing ch with
  | nil => rfl
  | cons event events ih =>
      rw [List.cons_append, history, ih, Transducer.run_cons,
        history, List.cons_append]

theorem time_mem_of_mem_history
    {events : List ChannelEvent}
    {happening : Happening}
    (hMember : happening ∈ history ch events) :
    happening.time ∈ events.map ChannelEvent.time := by
  induction events generalizing ch with
  | nil => simp [history] at hMember
  | cons event events ih =>
      rw [List.map_cons]
      rcases List.mem_cons.mp hMember with hHead | hTail
      · rw [hHead]
        exact List.mem_cons_self
      · exact List.mem_cons_of_mem _ (ih hTail)

/- The last event that displayed something. -/
def lastDisplay
    (history : List Happening) : Option Happening :=
  history.reverse.find? Happening.displays

/- The last event before which nothing was waiting. -/
def lastOpening
    (history : List Happening) : Option Happening :=
  history.reverse.find? Happening.opens

/-
  Since when the present hole is open: since the last display
  if it left messages waiting, and otherwise since messages
  began to wait.
-/
def holeTime
    (history : List Happening) : Option TimePoint :=
  match lastDisplay history with
  | some shown =>
      if shown.waitsAfter then
        some shown.time
      else
        (lastOpening history).map Happening.time
  | none => (lastOpening history).map Happening.time

variable {records : List Happening} {last : Happening}

theorem lastDisplay_snoc
    (records : List Happening)
    (last : Happening) :
    lastDisplay (records ++ [last]) =
      if last.displays then
        some last
      else
        lastDisplay records := by
  unfold lastDisplay
  rw [List.reverse_append, List.reverse_singleton,
    List.singleton_append, List.find?_cons]
  cases last.displays <;> rfl

theorem lastOpening_snoc
    (records : List Happening)
    (last : Happening) :
    lastOpening (records ++ [last]) =
      if last.opens then
        some last
      else
        lastOpening records := by
  unfold lastOpening
  rw [List.reverse_append, List.reverse_singleton,
    List.singleton_append, List.find?_cons]
  cases last.opens <;> rfl

theorem holeTime_of_display
    (hDisplays : last.displays = true)
    (hWaits : last.waitsAfter = true) :
    holeTime (records ++ [last]) = some last.time := by
  simp [holeTime, lastDisplay_snoc, hDisplays, hWaits]

theorem holeTime_of_opening
    (hQuiet : last.displays = false)
    (hOpens : last.opens = true)
    (hEmptied :
      ∀ shown ∈ lastDisplay records,
        shown.waitsAfter = false) :
    holeTime (records ++ [last]) = some last.time := by
  unfold holeTime
  rw [lastDisplay_snoc, lastOpening_snoc, if_pos hOpens,
    hQuiet]
  cases hShown : lastDisplay records with
  | none => simp
  | some shown => simp [hEmptied shown hShown]

theorem holeTime_of_other
    (hQuiet : last.displays = false)
    (hOpen : last.opens = false) :
    holeTime (records ++ [last]) = holeTime records := by
  unfold holeTime
  rw [lastDisplay_snoc, lastOpening_snoc, hQuiet, hOpen]
  rfl

/- The hole time is the time of an event on record. -/
theorem exists_of_holeTime
    {since : TimePoint}
    (hSince : holeTime records = some since) :
    ∃ record ∈ records, record.time = since := by
  have hOpening :
      (lastOpening records).map Happening.time =
          some since →
        ∃ record ∈ records, record.time = since := by
    intro hMap
    rcases Option.map_eq_some_iff.mp hMap with
      ⟨record, hFound, hTime⟩
    exact
      ⟨record,
        List.mem_reverse.mp (List.mem_of_find?_eq_some hFound),
        hTime⟩
  unfold holeTime at hSince
  cases hShown : lastDisplay records with
  | none =>
      rw [hShown] at hSince
      exact hOpening hSince
  | some shown =>
      rw [hShown] at hSince
      dsimp only at hSince
      split_ifs at hSince
      · exact
          ⟨shown,
            List.mem_reverse.mp
              (List.mem_of_find?_eq_some hShown),
            Option.some.inj hSince⟩
      · exact hOpening hSince

/-
  The field holds the hole time.  Without waiting messages it
  is cleared, and the last display left none.
-/
structure HoleClock
    (records : List Happening)
    (ch : Channel) : Prop where
  quiet :
    ch.pending.entries = [] →
      ch.gapSince = 0 ∧
        ∀ shown ∈ lastDisplay records,
          shown.waitsAfter = false
  waiting :
    ch.pending.entries ≠ [] →
      ch.gapSince ≠ 0 ∧
        holeTime records = some ch.gapSince

/- A step keeps the clock right. -/
theorem step_holeClock
    (hClock : HoleClock records ch)
    {event : ChannelEvent}
    (hTime : event.time ≠ 0) :
    HoleClock (records ++ [ch.happening event])
      (ch.step event).1 := by
  rcases step_clock ch event with
    ⟨hEmits, hGap⟩ | ⟨hSilent, hLeft, hGap⟩ |
      ⟨hSilent, hSame, hGap⟩
  · -- a display: the clock starts anew if something waits
    have hDisplays :
        (ch.happening event).displays = true :=
      decide_eq_true hEmits
    refine ⟨?_, ?_⟩
    · intro hEmpty
      rw [hGap, if_pos hEmpty, lastDisplay_snoc, hDisplays]
      simp [happening, hEmpty]
    · intro hWaiting
      rw [hGap, if_neg hWaiting]
      refine ⟨hTime, ?_⟩
      exact
        holeTime_of_display hDisplays
          (decide_eq_true hWaiting)
  · -- a buffered message: the hole may be a new one
    have hQuiet :
        (ch.happening event).displays = false :=
      decide_eq_false (not_not.mpr hSilent)
    refine ⟨fun hEmpty => absurd hEmpty hLeft, fun _ => ?_⟩
    by_cases hBefore : ch.pending.entries = []
    · rcases hClock.quiet hBefore with
        ⟨hCleared, hEmptied⟩
      rw [hGap, if_pos hCleared]
      refine ⟨hTime, ?_⟩
      apply holeTime_of_opening hQuiet _ hEmptied
      simp [Happening.opens, happening, hBefore, hLeft]
    · rcases hClock.waiting hBefore with
        ⟨hStarted, hHole⟩
      rw [hGap, if_neg hStarted, holeTime_of_other hQuiet]
      · exact ⟨hStarted, hHole⟩
      · simp [Happening.opens, happening, hBefore]
  · have hQuiet :
        (ch.happening event).displays = false :=
      decide_eq_false (not_not.mpr hSilent)
    have hClosed :
        (ch.happening event).opens = false := by
      simp [Happening.opens, happening, hSame]
    refine ⟨?_, ?_⟩
    · intro hEmpty
      rw [hSame] at hEmpty
      rw [hGap, lastDisplay_snoc, hQuiet]
      exact hClock.quiet hEmpty
    · intro hWaiting
      rw [hSame] at hWaiting
      rw [hGap, holeTime_of_other hQuiet hClosed]
      exact hClock.waiting hWaiting

/- After any run, the field holds the hole time. -/
theorem run_holeClock
    {events : List ChannelEvent}
    (hTimes : ∀ event ∈ events, event.time ≠ 0) :
    HoleClock (history {} events) (runFresh events).1 := by
  induction events using List.reverseRecOn with
  | nil =>
      refine ⟨fun _ => ⟨rfl, ?_⟩, fun hWaiting => ?_⟩
      · simp [history, lastDisplay]
      · exact absurd rfl hWaiting
  | append_singleton events last ih =>
      rw [history_snoc]
      unfold runFresh at ih ⊢
      rw [Transducer.run_snoc]
      apply step_holeClock
      · apply ih
        intro event hEvent
        exact hTimes event (List.mem_append_left _ hEvent)
      · exact hTimes last (by simp)

------------------------------------------------------------
-- Holes That Are Due
------------------------------------------------------------

/- Whole milliseconds reach a limit exactly when the
nanoseconds do. -/
theorem waited_iff
    {waited limit : Int}
    (hWaited : 0 ≤ waited) :
    limit ≤ waited.tdiv 1000000 ↔
      limit * 1000000 ≤ waited := by
  rw [Int.tdiv_eq_ediv_of_nonneg hWaited]
  exact Int.le_ediv_iff_mul_le (by decide)

/- `tick` displays messages exactly when their hole is due. -/
theorem tick_emits_iff
    (hClock : HoleClock records ch)
    {now : TimePoint}
    (hPast : ∀ record ∈ records, record.time ≤ now)
    (gapTimeoutMs : Int)
    (drainNow : TimePoint) :
    emitted (ch.tick gapTimeoutMs now drainNow).2 ≠ [] ↔
      ch.pending.entries ≠ [] ∧
        ∃ since,
          holeTime records = some since ∧
            gapTimeoutMs * 1000000 ≤ now - since := by
  have hDue :
      ch.TimedOut gapTimeoutMs now ↔
        ch.pending.entries ≠ [] ∧
          ∃ since,
            holeTime records = some since ∧
              gapTimeoutMs * 1000000 ≤ now - since := by
    constructor
    · rintro ⟨hPending, _, hWaited⟩
      have hHole := (hClock.waiting hPending).2
      rcases exists_of_holeTime hHole with
        ⟨record, hRecord, hTime⟩
      have hBefore := hPast record hRecord
      rw [hTime] at hBefore
      refine ⟨hPending, _, hHole, ?_⟩
      exact (waited_iff (sub_nonneg.mpr hBefore)).mp hWaited
    · rintro ⟨hPending, since, hSince, hWaited⟩
      rcases hClock.waiting hPending with ⟨hStarted, hHole⟩
      have hSame : since = ch.gapSince :=
        Option.some.inj (hSince.symm.trans hHole)
      rcases exists_of_holeTime hSince with
        ⟨record, hRecord, hTime⟩
      have hBefore := hPast record hRecord
      rw [hTime, hSame] at hBefore
      rw [hSame] at hWaited
      refine ⟨hPending, hStarted, ?_⟩
      exact
        (waited_iff (sub_nonneg.mpr hBefore)).mpr hWaited
  rw [← hDue]
  by_cases hTimedOut : ch.TimedOut gapTimeoutMs now
  · rw [tick_of_timedOut hTimedOut]
    exact
      iff_of_true (release_restarts hTimedOut.1 drainNow).1
        hTimedOut
  · rw [tick_of_not_timedOut hTimedOut]
    exact iff_of_false (fun hEmits => hEmits rfl) hTimedOut

/- What `tick` displays is the first run that waits. -/
theorem tick_first_run
    {conv : String}
    (hOrdered : Ordered conv ch)
    {gapTimeoutMs : Int}
    {now drainNow : TimePoint}
    (hEmits :
      emitted (ch.tick gapTimeoutMs now drainNow).2 ≠ []) :
    emitted (ch.tick gapTimeoutMs now drainNow).2 =
      (takeFirstRun ch.pending.entries).map Prod.snd := by
  by_cases hTimedOut : ch.TimedOut gapTimeoutMs now
  · rcases List.exists_cons_of_ne_nil hTimedOut.1 with
      ⟨entry, entries, hEntries⟩
    rw [tick_of_timedOut hTimedOut, hEntries,
      emitted_of_releases
        (release_releases hOrdered hEntries drainNow).1]
    rfl
  · rw [tick_of_not_timedOut hTimedOut] at hEmits
    exact absurd rfl hEmits

end Channel

------------------------------------------------------------
-- Numbers Without Gaps
------------------------------------------------------------

/- Every number is the successor of the one before it. -/
def Unbroken (numbers : List Nat) : Prop :=
  numbers.IsChain fun before after => after = before + 1

theorem unbroken_range' (first count : Nat) :
    Unbroken (List.range' first count) := by
  induction count generalizing first with
  | zero => exact List.IsChain.nil
  | succ count ih =>
      cases count with
      | zero => exact List.IsChain.singleton first
      | succ count =>
          rw [List.range'_succ, List.range'_succ]
          refine List.IsChain.cons_cons rfl ?_
          rw [← List.range'_succ]
          exact ih (first + 1)

namespace Channel

variable {ch : Channel}

/- A release from a source that carries its first number
displays numbers up to what it then expects. -/
theorem last_of_releases
    {conv : String}
    {entry : Nat × Json}
    {entries : List (Nat × Json)}
    {result : Channel × List Effect}
    (hReleases :
      Releases (entry :: entries) entry.1 result)
    (hStamped :
      ∀ e ∈ entry :: entries,
        e.2.numbered? = some (conv, e.1)) :
    ∃ last,
      (numbersIn conv (emitted result.2)).getLast? =
          some last ∧
        last + 1 = result.1.expect := by
  have hExpect := hReleases.expect
  rw [takeRun_cons_self, List.length_cons] at hExpect
  rw [numbersIn_of_releases hReleases hStamped]
  refine ⟨result.1.expect - 1, ?_, by omega⟩
  rw [List.getLast?_range', if_neg (by omega)]
  congr 1
  omega

/- A step that displays nothing expects what it did before,
any other expects the successor of what it displayed last. -/
theorem step_last
    {conv : String}
    (hOrdered : Ordered conv ch)
    {event : ChannelEvent}
    (hAdmits : Admits conv event) :
    (numbersIn conv (emitted (ch.step event).2) = [] ∧
        (ch.step event).1.expect = ch.expect) ∨
      ∃ last,
        (numbersIn conv
            (emitted (ch.step event).2)).getLast? =
              some last ∧
          last + 1 = (ch.step event).1.expect := by
  have hOutcome := step_outcome hOrdered hAdmits
  generalize ch.step event = result at hOutcome ⊢
  cases hOutcome with
  | idle => exact Or.inl ⟨rfl, rfl⟩
  | discarded => exact Or.inl ⟨rfl, rfl⟩
  | buffered => exact Or.inl ⟨rfl, rfl⟩
  | delivered _ hReleases =>
      apply Or.inr
      exact
        last_of_releases hReleases
          (stamped_cons hOrdered hAdmits.1)
  | released _ hPending hReleases =>
      have hStamped := hOrdered.stamped
      rw [hPending] at hStamped
      exact Or.inr (last_of_releases hReleases hStamped)

/- After any run, the number displayed last comes right
before the expected one. -/
theorem run_last
    {conv : String}
    {events : List ChannelEvent}
    (hEvents : ∀ event ∈ events, Admits conv event) :
    ∀ last ∈
        (numbersIn conv
          (emitted (runFresh events).2)).getLast?,
      last + 1 = (runFresh events).1.expect := by
  induction events using List.reverseRecOn with
  | nil => simp [runFresh]
  | append_singleton events last ih =>
      rcases admits_of_snoc hEvents with ⟨hInit, hLast⟩
      have hOrdered := runFresh_ordered hInit
      have hBefore := ih hInit
      unfold runFresh at hBefore hOrdered ⊢
      rw [Transducer.run_snoc]
      simp only [emitted_append, numbersIn_append]
      intro number hNumber
      rcases step_last hOrdered hLast with
        ⟨hNone, hSame⟩ | ⟨shown, hShown, hNext⟩
      · rw [hNone, List.append_nil] at hNumber
        rw [hSame]
        exact hBefore number hNumber
      · rw [List.getLast?_append, hShown] at hNumber
        rw [← Option.some.inj hNumber]
        exact hNext

/- A message displays numbers that follow the last one
displayed before without a gap. -/
theorem receive_unbroken
    {conv : String}
    {events : List ChannelEvent}
    (hEvents : ∀ event ∈ events, Admits conv event)
    {event : ChannelEvent}
    (hAdmits : Admits conv event)
    {seq : Nat}
    {js : Json}
    (hArrival : event.arrival? = some (seq, js)) :
    Unbroken
      ((numbersIn conv
          (emitted (runFresh events).2)).getLast?.toList ++
        numbersIn conv
          (emitted ((runFresh events).1.step event).2)) := by
  have hOrdered := runFresh_ordered hEvents
  have hBefore := run_last hEvents
  have hNumbers :=
    (step_contiguous hOrdered hAdmits hArrival).2.1
  rw [hNumbers]
  cases hLast :
      (numbersIn conv
        (emitted (runFresh events).2)).getLast? with
  | none => exact unbroken_range' _ _
  | some last =>
      have hExpect := hBefore last hLast
      have hInitialized :
          (runFresh events).1.initialized = true := by
        by_contra hNot
        have hIdle :=
          hOrdered.idle (Bool.eq_false_iff.mpr hNot)
        omega
      have hStart :
          (runFresh events).1.startAt seq =
            (runFresh events).1 := by
        simp [startAt, hInitialized]
      rw [hStart, ← hExpect, Option.toList_some,
        List.singleton_append, ← List.range'_succ]
      exact unbroken_range' _ _

end Channel

------------------------------------------------------------
-- Forced Releases of the Orderer
------------------------------------------------------------

/- The clock readings of an event, in order. -/
def OrdererEvent.readings : OrdererEvent → List TimePoint
| message _ now => [now]
| tick now visits => now :: visits.map Prod.snd
| flush visits => visits.map Prod.snd

/- The clock readings of a run, in order. -/
def readings (events : List OrdererEvent) :
    List TimePoint :=
  events.flatMap OrdererEvent.readings

/- The clock never goes back, and never reads its epoch. -/
structure Steady (readings : List TimePoint) : Prop where
  ordered : readings.Pairwise (· ≤ ·)
  started : ∀ reading ∈ readings, reading ≠ 0

/- The numbered messages of one conversation. -/
def messagesIn
    (conv : String)
    (messages : List Json) : List Json :=
  messages.filter fun js => (js.seqIn conv).isSome

namespace ConversationOrderer

theorem messagesIn_emitted
    (conv : String)
    (log : List Effect) :
    messagesIn conv (emitted log) =
      emitted (log.filter (visible conv)) := by
  unfold messagesIn emitted
  rw [List.filter_filterMap, List.filterMap_filter]
  apply List.filterMap_congr
  intro effect _
  cases effect with
  | emit js => rfl
  | discard js => simp [Effect.emitted?]
  | expire js => simp [Effect.emitted?]

theorem time_mem_readings
    {gapTimeoutMs : Int}
    {conv : String}
    {events : List OrdererEvent}
    {event : ChannelEvent}
    (hEvent :
      event ∈ events.flatMap (select gapTimeoutMs conv)) :
    event.time ∈ readings events := by
  rcases List.mem_flatMap.mp hEvent with
    ⟨source, hSource, hSelected⟩
  apply List.mem_flatMap.mpr
  refine ⟨source, hSource, ?_⟩
  cases source with
  | message js now =>
      cases hSeq : js.seqIn conv with
      | none => simp [select, hSeq] at hSelected
      | some seq =>
          have hSelf : event = .receive js seq now := by
            simpa [select, hSeq] using hSelected
          rw [hSelf]
          exact List.mem_singleton_self now
  | tick now visits =>
      rcases List.mem_map.mp hSelected with
        ⟨visit, hVisit, hMade⟩
      rw [← hMade]
      apply List.mem_cons_of_mem
      exact
        List.mem_map_of_mem (List.mem_of_mem_filter hVisit)
  | flush visits =>
      rcases List.mem_map.mp hSelected with
        ⟨visit, hVisit, hMade⟩
      rw [← hMade]
      exact
        List.mem_map_of_mem (List.mem_of_mem_filter hVisit)

/- What `tick` displays of one conversation is what it makes
of its channel. -/
theorem tick_visible
    {gapTimeoutMs : Int}
    {orderer : ConversationOrderer}
    (hAll : AllStamped gapTimeoutMs orderer)
    (now : TimePoint)
    {visits : Visits}
    (hVisits : orderer.Enumerates visits)
    {conv : String}
    (hInitialized :
      (orderer.channels conv).initialized = true) :
    ∃ drainNow,
      messagesIn conv
          (emitted (orderer.tick now visits).2) =
        emitted
          ((orderer.channels conv).tick gapTimeoutMs now
            drainNow).2 := by
  rcases
      visit_once hVisits.1 ((hVisits.2 conv).mpr hInitialized)
    with ⟨drainNow, hVisit⟩
  refine ⟨drainNow, ?_⟩
  have hStep :=
    (apply_projects (.tick now visits) hAll conv).2
  simp only [select] at hStep
  rw [hVisit, List.map_singleton, Transducer.run_singleton]
    at hStep
  rw [messagesIn_emitted]
  exact congrArg emitted (congrArg Prod.snd hStep).symm

theorem tick_visible_of_fresh
    {gapTimeoutMs : Int}
    {orderer : ConversationOrderer}
    (hAll : AllStamped gapTimeoutMs orderer)
    (now : TimePoint)
    {visits : Visits}
    (hVisits : orderer.Enumerates visits)
    {conv : String}
    (hFresh :
      (orderer.channels conv).initialized = false) :
    messagesIn conv
        (emitted (orderer.tick now visits).2) = [] := by
  have hUnvisited :
      (visits.filter fun visit => visit.1 = conv) = [] := by
    apply List.filter_eq_nil_iff.mpr
    intro visit hVisit hSame
    have hListed : conv ∈ visits.map Prod.fst :=
      of_decide_eq_true hSame ▸ List.mem_map_of_mem hVisit
    rw [hVisits.2 conv, hFresh] at hListed
    simp at hListed
  have hStep :=
    (apply_projects (.tick now visits) hAll conv).2
  simp only [select] at hStep
  rw [hUnvisited, List.map_nil, Transducer.run_nil] at hStep
  rw [messagesIn_emitted]
  exact congrArg emitted (congrArg Prod.snd hStep).symm

/- Since when the present hole of a conversation is open,
after the events of a run. -/
def holeTime
    (gapTimeoutMs : Int)
    (conv : String)
    (events : List OrdererEvent) : Option TimePoint :=
  Channel.holeTime
    (Channel.history {}
      (events.flatMap (select gapTimeoutMs conv)))

/- A `tick` behind any events displays the first run of a
conversation if its hole is due, and nothing otherwise. -/
theorem tick_displays_when_due
    {gapTimeoutMs : Int}
    {events : List OrdererEvent}
    {now : TimePoint}
    (hSteady : Steady (readings events ++ [now]))
    {visits : Visits}
    (hVisits :
      ((fresh gapTimeoutMs).runFrom events).1.Enumerates
        visits)
    {conv : String}
    (hBound :
      ∀ seq ∈ numbersIn conv (receivedMessages events),
        seq < seqBound) :
    let orderer := ((fresh gapTimeoutMs).runFrom events).1
    let waiting := (orderer.channels conv).pending.entries
    let shown :=
      messagesIn conv (emitted (orderer.tick now visits).2)
    (shown ≠ [] ↔
        waiting ≠ [] ∧
          ∃ since,
            holeTime gapTimeoutMs conv events =
                some since ∧
              gapTimeoutMs * 1000000 ≤ now - since) ∧
      (shown ≠ [] →
        shown = (takeFirstRun waiting).map Prod.snd) := by
  intro orderer waiting shown
  have hAll := allStamped_runFrom gapTimeoutMs events
  have hAdmits :=
    @select_admits gapTimeoutMs conv events hBound
  have hChannel :
      (Channel.runFresh
          (events.flatMap (select gapTimeoutMs conv))).1 =
        orderer.channels conv :=
    congrArg Prod.fst (run_projects gapTimeoutMs events conv)
  have hOrdered := Channel.runFresh_ordered hAdmits
  have hClock :
      Channel.HoleClock
        (Channel.history {}
          (events.flatMap (select gapTimeoutMs conv)))
        (Channel.runFresh
          (events.flatMap (select gapTimeoutMs conv))).1 := by
    apply Channel.run_holeClock
    intro event hEvent
    apply hSteady.started
    exact
      List.mem_append_left _ (time_mem_readings hEvent)
  rw [hChannel] at hOrdered hClock
  cases hInitialized :
      (orderer.channels conv).initialized with
  | false =>
      have hNothing : shown = [] :=
        tick_visible_of_fresh hAll now hVisits hInitialized
      have hQuiet := (hOrdered.idle hInitialized).1
      rw [hNothing]
      refine ⟨iff_of_false ?_ ?_, ?_⟩
      · exact fun hShown => hShown rfl
      · exact fun hWaiting => hWaiting.1 hQuiet
      · exact fun hShown => absurd rfl hShown
  | true =>
      rcases tick_visible hAll now hVisits hInitialized with
        ⟨drainNow, hShown⟩
      change shown = _ at hShown
      rw [hShown]
      refine ⟨?_, Channel.tick_first_run hOrdered⟩
      apply Channel.tick_emits_iff hClock
      intro record hRecord
      have hTime := Channel.time_mem_of_mem_history hRecord
      rcases List.mem_map.mp hTime with
        ⟨event, hEvent, hSame⟩
      rw [← hSame]
      exact
        (List.pairwise_append.mp hSteady.ordered).2.2 _
          (time_mem_readings hEvent) now
          (List.mem_singleton_self now)

/- A message that arrives behind any events displays numbers
that follow the last one displayed without a gap. -/
theorem message_unbroken
    {gapTimeoutMs : Int}
    {front : List OrdererEvent}
    {js : Json}
    {now : TimePoint}
    {conv : String}
    (hBound :
      ∀ seq ∈
          numbersIn conv
            (receivedMessages (front ++ [.message js now])),
        seq < seqBound) :
    let before := (fresh gapTimeoutMs).runFrom front
    Unbroken
      ((numbersIn conv (emitted before.2)).getLast?.toList ++
        numbersIn conv
          (emitted
            (before.1.apply (.message js now)).2)) := by
  intro before
  have hAdmits :=
    @select_admits gapTimeoutMs conv _ hBound
  have hStep :=
    (apply_projects (.message js now)
      (allStamped_runFrom gapTimeoutMs front) conv).2
  rw [← numbersIn_emitted_visible conv
    (before.1.apply (.message js now)).2]
  cases hSeq : js.seqIn conv with
  | none =>
      simp only [select, hSeq] at hStep
      rw [Transducer.run_nil] at hStep
      have hShown :
          (before.1.apply (.message js now)).2.filter
              (visible conv) = [] :=
        (congrArg Prod.snd hStep).symm
      rw [hShown]
      cases (numbersIn conv (emitted before.2)).getLast? with
      | none => exact List.IsChain.nil
      | some last => exact List.IsChain.singleton last
  | some seq =>
      simp only [select, hSeq] at hStep
      rw [Transducer.run_singleton] at hStep
      have hShown :
          (before.1.apply (.message js now)).2.filter
              (visible conv) =
            ((before.1.channels conv).step
              (.receive js seq now)).2 :=
        (congrArg Prod.snd hStep).symm
      have hChannel :
          (Channel.runFresh
              (front.flatMap
                (select gapTimeoutMs conv))).1 =
            before.1.channels conv :=
        congrArg Prod.fst
          (run_projects gapTimeoutMs front conv)
      rw [hShown, displayed_eq_channel, ← hChannel]
      have hSelected :
          select gapTimeoutMs conv (.message js now) =
            [.receive js seq now] := by
        simp only [select, hSeq]
      rw [List.flatMap_append, List.flatMap_singleton,
        hSelected] at hAdmits
      rcases Channel.admits_of_snoc hAdmits with
        ⟨hFront, hLast⟩
      exact Channel.receive_unbroken hFront hLast rfl

/-
  Over any run of calls that returns, with a clock that never
  goes back: a `tick` displays messages of a conversation
  exactly if some are waiting and their hole has been open for
  the timeout, and then exactly the run that starts at the
  smallest waiting number.  And no message, alone or in a
  batch, makes the display skip a number.
-/
theorem forced_release_exactly_when_due
    (gapTimeoutMs : Int)
    {calls : List Call}
    {orderer : ConversationOrderer}
    {log : List Effect}
    (hRun :
      (fresh gapTimeoutMs).runCalls calls =
        .ok (orderer, log))
    (hBound :
      ∀ conv,
        ∀ seq ∈ numbersIn conv
            (calls.flatMap Call.messages),
          seq < seqBound) :
    (∀ now visits conv,
      Steady
          (readings (calls.flatMap Call.events) ++ [now]) →
        orderer.Enumerates visits →
          let waiting :=
            (orderer.channels conv).pending.entries
          let shown :=
            messagesIn conv
              (emitted (orderer.tick now visits).2)
          (shown ≠ [] ↔
              waiting ≠ [] ∧
                ∃ since,
                  holeTime gapTimeoutMs conv
                        (calls.flatMap Call.events) =
                      some since ∧
                    gapTimeoutMs * 1000000 ≤
                      now - since) ∧
            (shown ≠ [] →
              shown =
                (takeFirstRun waiting).map Prod.snd)) ∧
      ∀ front js now back,
        calls.flatMap Call.events =
            front ++ .message js now :: back →
          ∃ before shown after displayed,
            (fresh gapTimeoutMs).runEvents front =
                .ok (before, shown) ∧
              before.onMessage js now =
                  .ok (after, displayed) ∧
                ∀ conv,
                  Unbroken
                    ((numbersIn conv
                        (emitted shown)).getLast?.toList ++
                      numbersIn conv
                        (emitted displayed)) := by
  rw [runCalls_eq_runEvents] at hRun
  rw [← receivedMessages_calls] at hBound
  generalize calls.flatMap Call.events = events
    at hRun hBound ⊢
  have hOrderer :
      ((fresh gapTimeoutMs).runFrom events).1 = orderer :=
    (congrArg Prod.fst (runEvents_returned hRun)).symm
  constructor
  · intro now visits conv hSteady hVisits
    rw [← hOrderer] at hVisits ⊢
    exact
      tick_displays_when_due hSteady hVisits (hBound conv)
  · intro front js now back hSplit
    rw [hSplit, runEvents_append] at hRun
    rcases returned_of_bind hRun with
      ⟨before, hFront, hBehind⟩
    rcases returned_of_bind hBehind with
      ⟨rest, hRest, _⟩
    rcases returned_of_bind hRest with
      ⟨after, hMessage, _⟩
    refine
      ⟨before.1, before.2, after.1, after.2, hFront,
        hMessage, ?_⟩
    intro conv
    rw [onMessage_returned hMessage,
      runEvents_returned hFront]
    apply message_unbroken
    intro seq hSeq
    apply hBound conv
    rw [hSplit, List.append_cons]
    unfold receivedMessages at hSeq ⊢
    rw [List.filterMap_append, numbersIn_append]
    exact List.mem_append_left _ hSeq

/- The messages 3 and 5 of a conversation; 4 is missing. -/
def heldCalls : List Call :=
  [.onMessage (numberedMessage "p1_2" 3) 10,
    .onMessage (numberedMessage "p1_2" 5) 20]

/- The orderer that holds message 5 back. -/
def heldOrderer : ConversationOrderer :=
  ((fresh 800).runFrom (heldCalls.flatMap Call.events)).1

theorem heldOrderer_of_ne
    {conv : String}
    (hNe : conv ≠ "p1_2") :
    heldOrderer.channels conv = {} := by
  unfold heldOrderer runFrom heldCalls
  simp only [List.flatMap_cons, List.flatMap_nil,
    Call.events, List.cons_append, List.nil_append,
    Transducer.run_cons, Transducer.run_nil,
    apply_numbered _ _ (numbered?_numberedMessage _ _)]
  rw [setChannel_of_ne _ hNe, setChannel_of_ne _ hNe]
  rfl

theorem heldOrderer_enumerates (drainNow : TimePoint) :
    heldOrderer.Enumerates [("p1_2", drainNow)] := by
  refine ⟨List.nodup_singleton _, ?_⟩
  intro conv
  by_cases hConv : conv = "p1_2"
  · subst hConv
    exact iff_of_true (List.mem_singleton_self _) rfl
  · rw [heldOrderer_of_ne hConv]
    simpa using hConv

/- Message 5 came at 20 ns and is released 800 ms later. -/
theorem held_message_is_released :
    messagesIn "p1_2"
        (emitted
          (heldOrderer.tick 800000020
            [("p1_2", 800000021)]).2) =
      [numberedMessage "p1_2" 5] := by
  have hDeliverable :
      ∀ js ∈ heldCalls.flatMap Call.messages,
        js.Deliverable := by
    intro js hMember
    have hMessage :
        js = numberedMessage "p1_2" 3 ∨
          js = numberedMessage "p1_2" 5 := by
      simpa [heldCalls, Call.messages] using hMember
    rcases hMessage with rfl | rfl <;>
      exact deliverable_numberedMessage _ (by decide)
  have hDue :=
    (forced_release_exactly_when_due 800
      (runCalls_eq_run (fresh 800)
        (fun js hMember => (hDeliverable js hMember).1))
      (fun conv => numbers_bounded hDeliverable)).1
      800000020 [("p1_2", 800000021)] "p1_2"
      ⟨by decide, by decide⟩ (heldOrderer_enumerates _)
  refine hDue.2 (hDue.1.mpr ⟨?_, 20, ?_, by decide⟩)
  · exact List.cons_ne_nil _ _
  · rfl

end ConversationOrderer

end ClusterChat
