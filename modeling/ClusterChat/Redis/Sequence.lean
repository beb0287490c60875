import Mathlib
import ClusterChat.Library.Transducer
import ClusterChat.Redis.Client

/-
  The numbers one server process hands out over a run.

  Numbers come from the Redis counter or from the local
  fallback, which lies above every counter value.  So they
  increase as long as Redis does not answer again after the
  fallback was used.

  Main declarations:
    * `Numbering.step`
    * `Numbering.sources`
    * `Numbering.run_shape`
    * `Numbering.numbers_increase_iff`
-/

------------------------------------------------------------
-- Runs
------------------------------------------------------------

namespace ClusterChat

/- How Redis answers an `INCR`. -/
inductive IncrOutcome where
| integer
| unexpected (text : String)
| null
deriving DecidableEq, Repr

/-
  What happens to the counters: a call of this process, or an
  `INCR` of another node.
-/
inductive NumberingEvent where
| call (conversationId : String) (outcome : IncrOutcome)
| elsewhere (conversationId : String)

/- The process together with the counters in Redis. -/
structure Numbering where
  client : RedisClient
  counters : String → Nat

namespace Numbering

/- Redis increments a counter. -/
def increment
    (counters : String → Nat)
    (conversationId : String) : String → Nat :=
  Function.update counters conversationId
    (counters conversationId + 1)

/- The counters and the reply after an `INCR`. -/
def answerIncr
    (counters : String → Nat)
    (conversationId : String) :
    IncrOutcome → (String → Nat) × Option RedisReply
| .integer =>
    (increment counters conversationId,
      some (.integer (counters conversationId + 1 : Nat)))
| .unexpected text => (counters, some (.error text))
| .null => (counters, none)

/-
  A call of `incrSeq`.  The command is sent only while the
  process takes Redis for available.
-/
def takeNumber
    (state : Numbering)
    (conversationId : String)
    (outcome : IncrOutcome) : Numbering × Nat :=
  if state.client.sendsIncr then
    let answer :=
      answerIncr state.counters conversationId outcome
    let numbered :=
      state.client.incrSeq conversationId answer.2
    ({ client := numbered.1, counters := answer.1 },
      numbered.2)
  else
    let numbered :=
      state.client.incrSeq conversationId none
    ({ state with client := numbered.1 }, numbered.2)

/- One event, with the number it returns. -/
def step
    (state : Numbering) :
    NumberingEvent → Numbering × List (String × Nat)
| .elsewhere conversationId =>
    ({ state with
        counters := increment state.counters conversationId },
      [])
| .call conversationId outcome =>
    let taken := state.takeNumber conversationId outcome
    (taken.1, [(conversationId, taken.2)])

/- The numbers returned for one conversation, in order. -/
def numbersFor
    (conv : String)
    (returned : List (String × Nat)) : List Nat :=
  returned.filterMap fun entry =>
    if entry.1 = conv then some entry.2 else none

/- The outcome marks the process as cut off from Redis. -/
def keepsAvailable : IncrOutcome → Bool
| .integer => true
| .unexpected _ => true
| .null => false

/- Redis answers this call with a number. -/
def countsCall
    (available : Bool)
    (outcome : IncrOutcome) : Bool :=
  available && decide (outcome = .integer)

/-
  For each call on the conversation, in order: does Redis
  answer it with a number?
-/
def sources
    (conv : String) : Bool → List NumberingEvent → List Bool
| _, [] => []
| available, .elsewhere _ :: events =>
    sources conv available events
| available, .call other outcome :: events =>
    let rest :=
      sources conv (available && keepsAvailable outcome)
        events
    if other = conv then
      countsCall available outcome :: rest
    else
      rest

------------------------------------------------------------
-- What One Call Returns
------------------------------------------------------------

@[simp] theorem increment_self
    (counters : String → Nat)
    (conv : String) :
    increment counters conv conv = counters conv + 1 := by
  simp [increment]

theorem increment_of_ne
    (counters : String → Nat)
    {conv other : String}
    (hNe : conv ≠ other) :
    increment counters other conv = counters conv := by
  simp [increment, hNe]

theorem le_increment
    (counters : String → Nat)
    (other conv : String) :
    counters conv ≤ increment counters other conv := by
  by_cases hConv : conv = other
  · rw [hConv, increment_self]
    exact Nat.le_succ _
  · rw [increment_of_ne _ hConv]

theorem toUInt64_small
    {value : Nat}
    (hSmall : value < 2 ^ 64) :
    toUInt64 (value : Int) = value := by
  unfold toUInt64
  omega

/- A number from Redis is the counter's new value. -/
theorem step_counted
    {state : Numbering}
    {conv : String}
    {outcome : IncrOutcome}
    (hCounted :
      countsCall state.client.sendsIncr outcome = true)
    (hSmall : state.counters conv + 1 < 2 ^ 64) :
    state.step (.call conv outcome) =
      ({ state with
          counters := increment state.counters conv },
        [(conv, state.counters conv + 1)]) := by
  have hParts := Bool.and_eq_true_iff.mp hCounted
  have hOutcome : outcome = .integer :=
    of_decide_eq_true hParts.2
  have hNumber := toUInt64_small hSmall
  have hPositive : state.counters conv + 1 ≠ 0 := by
    omega
  rw [hOutcome]
  simp only [step, takeNumber, hParts.1, if_true,
    answerIncr, RedisClient.incrSeq]
  rw [hNumber, if_neg hPositive]

/- Any other number comes from the local fallback. -/
theorem step_fallback
    {state : Numbering}
    {conv : String}
    {outcome : IncrOutcome}
    (hLocal :
      countsCall state.client.sendsIncr outcome = false) :
    (state.step (.call conv outcome)).2 =
        [(conv,
          (state.client.localFallbackSeq conv).2)] ∧
      (state.step (.call conv outcome)).1.counters =
        state.counters ∧
      (state.step (.call conv outcome)).1.client.localSeq =
        (state.client.localFallbackSeq conv).1.localSeq := by
  unfold countsCall at hLocal
  cases hSends : state.client.sendsIncr with
  | false =>
      simp [step, takeNumber, RedisClient.incrSeq, hSends]
  | true =>
      rw [hSends] at hLocal
      cases outcome with
      | integer => simp at hLocal
      | unexpected text =>
          simp [step, takeNumber, RedisClient.incrSeq,
            hSends,
            answerIncr]
      | null =>
          simp [step, takeNumber, RedisClient.incrSeq,
            hSends,
            answerIncr, RedisClient.localFallbackSeq]

theorem step_sendsIncr
    (state : Numbering)
    (conv : String)
    (outcome : IncrOutcome) :
    (state.step (.call conv outcome)).1.client.sendsIncr =
      (state.client.sendsIncr && keepsAvailable outcome) := by
  cases hSends : state.client.sendsIncr with
  | false =>
      simp only [step, takeNumber, RedisClient.incrSeq, hSends,
        Bool.false_eq_true, if_false, Bool.false_and,
        RedisClient.sendsIncr_localFallbackSeq]
  | true =>
      simp only [step, takeNumber, RedisClient.incrSeq,
        hSends, if_true,
        Bool.true_and]
      cases outcome with
      | integer =>
          simp only [answerIncr, keepsAvailable]
          split
          · rw [RedisClient.sendsIncr_localFallbackSeq,
              hSends]
          · exact hSends
      | unexpected text =>
          simp only [answerIncr, keepsAvailable,
            RedisClient.sendsIncr_localFallbackSeq, hSends]
      | null =>
          simp only [answerIncr, keepsAvailable,
            RedisClient.sendsIncr_localFallbackSeq]
          simp [RedisClient.sendsIncr]

/- A call returns one number. -/
theorem step_returns
    (state : Numbering)
    (conv : String)
    (outcome : IncrOutcome) :
    ∃ number,
      (state.step (.call conv outcome)).2 =
        [(conv, number)] := by
  exact ⟨_, rfl⟩

/- A counted call increments the counter. -/
theorem step_increments
    {state : Numbering}
    {conv : String}
    {outcome : IncrOutcome}
    (hCounted :
      countsCall state.client.sendsIncr outcome = true) :
    (state.step (.call conv outcome)).1.counters conv =
      state.counters conv + 1 := by
  have hParts := Bool.and_eq_true_iff.mp hCounted
  have hOutcome : outcome = .integer :=
    of_decide_eq_true hParts.2
  rw [hOutcome]
  simp [step, takeNumber, hParts.1, answerIncr]

/- A call leaves the other conversations alone. -/
theorem step_other
    (state : Numbering)
    {conv other : String}
    (hNe : conv ≠ other)
    (outcome : IncrOutcome) :
    (state.step (.call other outcome)).1.counters conv =
        state.counters conv ∧
      (state.step (.call other outcome)).1.client.localSeq
          conv =
        state.client.localSeq conv := by
  cases hSends : state.client.sendsIncr with
  | false =>
      simp [step, takeNumber, RedisClient.incrSeq,
            hSends,
        RedisClient.localFallbackSeq, hNe]
  | true =>
      cases outcome with
      | integer =>
          simp only [step, takeNumber, RedisClient.incrSeq, hSends,
            answerIncr, if_true]
          split <;>
            simp [RedisClient.localFallbackSeq,
              increment_of_ne, hNe]
      | unexpected text =>
          simp [step, takeNumber, RedisClient.incrSeq,
            hSends,
            answerIncr, RedisClient.localFallbackSeq, hNe]
      | null =>
          simp [step, takeNumber, RedisClient.incrSeq,
            hSends,
            answerIncr, RedisClient.localFallbackSeq, hNe]

------------------------------------------------------------
-- The Shape of a Run
------------------------------------------------------------

/- The numbers of a trace that came from Redis. -/
def counted (trace : List (Bool × Nat)) : List Nat :=
  (trace.filter fun entry => entry.1).map Prod.snd

/- The numbers of a trace that came from the fallback. -/
def fallbacks (trace : List (Bool × Nat)) : List Nat :=
  (trace.filter fun entry => !entry.1).map Prod.snd

/- The first fallback numbers after `used` others. -/
def fallbackNumbers (used count : Nat) : List Nat :=
  (List.range count).map fun i =>
    (RedisClient.fallbackBase + (used + 1 + i)) % 2 ^ 64

theorem fallbackNumbers_succ (used count : Nat) :
    (RedisClient.fallbackBase + (used + 1) % 2 ^ 64) %
          2 ^ 64 ::
        fallbackNumbers ((used + 1) % 2 ^ 64) count =
      fallbackNumbers used (count + 1) := by
  unfold fallbackNumbers
  rw [List.range_succ_eq_map, List.map_cons, List.map_map]
  congr 1
  · rw [Nat.add_mod_mod]
  · apply List.map_congr_left
    intro i _
    simp only [Function.comp_apply]
    omega

/-
  The calls of a run on one conversation, each with its
  source and its number.
-/
structure Shape
    (conv : String)
    (state : Numbering)
    (events : List NumberingEvent)
    (trace : List (Bool × Nat)) : Prop where
  marks :
    trace.map Prod.fst =
      sources conv state.client.sendsIncr events
  numbers :
    trace.map Prod.snd =
      numbersFor conv (Transducer.run step state events).2
  sorted : (counted trace).Pairwise (· < ·)
  above : ∀ n ∈ counted trace, state.counters conv < n
  below : ∀ n ∈ counted trace, n < 2 ^ 40
  fallback :
    fallbacks trace =
      fallbackNumbers (state.client.localSeq conv)
        (fallbacks trace).length

theorem step_counters_le
    (state : Numbering)
    (event : NumberingEvent)
    (conv : String) :
    state.counters conv ≤ (state.step event).1.counters conv := by
  have hIncrement :
      ∀ other,
        state.counters conv ≤
          increment state.counters other conv :=
    fun other => le_increment state.counters other conv
  cases event with
  | elsewhere other => exact hIncrement other
  | call other outcome =>
      cases hSends : state.client.sendsIncr with
      | false => simp [step, takeNumber, hSends]
      | true =>
          simp only [step, takeNumber, hSends, if_true]
          cases outcome with
          | integer => exact hIncrement other
          | unexpected text => exact Nat.le_refl _
          | null => exact Nat.le_refl _

theorem run_counters_le
    (state : Numbering)
    (events : List NumberingEvent)
    (conv : String) :
    state.counters conv ≤
      (Transducer.run step state events).1.counters conv := by
  induction events generalizing state with
  | nil => exact Nat.le_refl _
  | cons event events ih =>
      exact
        (step_counters_le state event conv).trans (ih _)

/- A call on the conversation in front of a shaped run. -/
theorem Shape.cons_call
    {conv : String}
    {state : Numbering}
    {outcome : IncrOutcome}
    {events : List NumberingEvent}
    {trace : List (Bool × Nat)}
    (hRest :
      Shape conv (state.step (.call conv outcome)).1 events
        trace)
    (hSmall : state.counters conv + 1 < 2 ^ 40 ∨
      countsCall state.client.sendsIncr outcome = false) :
    ∃ number,
      Shape conv state (.call conv outcome :: events)
        ((countsCall state.client.sendsIncr outcome, number)
          :: trace) := by
  have hMarks := hRest.marks
  rw [step_sendsIncr] at hMarks
  have hSources :
      sources conv state.client.sendsIncr
          (.call conv outcome :: events) =
        countsCall state.client.sendsIncr outcome ::
          sources conv
            (state.client.sendsIncr &&
              keepsAvailable outcome) events := by
    simp [sources]
  cases hCounts :
      countsCall state.client.sendsIncr outcome with
  | true =>
      have hRoom : state.counters conv + 1 < 2 ^ 40 := by
        simpa [hCounts] using hSmall
      have hFits : state.counters conv + 1 < 2 ^ 64 := by
        omega
      have hStep := step_counted hCounts hFits
      have hAbove := hRest.above
      have hFallback := hRest.fallback
      rw [hStep] at hAbove hFallback
      refine ⟨state.counters conv + 1, ?_, ?_, ?_, ?_, ?_, ?_⟩
      · rw [hSources, List.map_cons, hMarks, hCounts]
      · rw [Transducer.run_cons, List.map_cons,
          hRest.numbers]
        unfold numbersFor
        rw [List.filterMap_append]
        rw [hStep]
        simp
      · exact hRest.sorted.cons fun n hMember => by
          have := hAbove n hMember
          simpa using this
      · intro n hMember
        rcases List.mem_cons.mp hMember with hNew | hOld
        · rw [hNew]
          exact Nat.lt_succ_self _
        · have hLater := hAbove n hOld
          dsimp only at hLater
          rw [increment_self] at hLater
          omega
      · intro n hMember
        rcases List.mem_cons.mp hMember with hNew | hOld
        · rw [hNew]
          exact hRoom
        · exact hRest.below n hOld
      · exact hFallback
  | false =>
      rcases step_fallback hCounts with
        ⟨hReturned, hCounters, hLocal⟩
      have hAbove := hRest.above
      have hFallback := hRest.fallback
      rw [hCounters] at hAbove
      rw [hLocal] at hFallback
      refine
        ⟨(state.client.localFallbackSeq conv).2, ?_, ?_,
          hRest.sorted, hAbove, hRest.below, ?_⟩
      · rw [hSources, List.map_cons, hMarks, hCounts]
      · rw [Transducer.run_cons, List.map_cons,
          hRest.numbers]
        unfold numbersFor
        rw [List.filterMap_append, hReturned]
        simp
      · have hUsed :
            (state.client.localFallbackSeq conv).1.localSeq
                conv =
              (state.client.localSeq conv + 1) % 2 ^ 64 := by
          simp [RedisClient.localFallbackSeq]
        rw [hUsed] at hFallback
        have hCons :
            fallbacks
                ((false,
                  (state.client.localFallbackSeq conv).2)
                  :: trace) =
              (state.client.localFallbackSeq conv).2 ::
                fallbacks trace := rfl
        rw [hCons, List.length_cons, ← fallbackNumbers_succ,
          ← hFallback]
        rfl

/- Every run has a shape, as long as its counter is small. -/
theorem run_shape
    (conv : String)
    (state : Numbering)
    (events : List NumberingEvent)
    (hSmall :
      (Transducer.run step state events).1.counters conv <
        2 ^ 40) :
    ∃ trace, Shape conv state events trace := by
  induction events generalizing state with
  | nil =>
      refine ⟨[], rfl, rfl, List.Pairwise.nil, ?_, ?_, rfl⟩ <;>
        simp [counted]
  | cons event events ih =>
      rcases ih (state.step event).1 hSmall with
        ⟨trace, hRest⟩
      cases event with
      | elsewhere other =>
          refine
            ⟨trace, hRest.marks, ?_, hRest.sorted, ?_,
              hRest.below, hRest.fallback⟩
          · rw [hRest.numbers, Transducer.run_cons]
            rfl
          · intro n hMember
            have hLe :=
              step_counters_le state (.elsewhere other) conv
            have hAbove := hRest.above n hMember
            omega
      | call other outcome =>
          by_cases hConv : other = conv
          · subst hConv
            have hRoom :
                state.counters other + 1 < 2 ^ 40 ∨
                  countsCall state.client.sendsIncr outcome =
                    false := by
              cases hCounts :
                  countsCall state.client.sendsIncr
                    outcome with
              | false => exact Or.inr rfl
              | true =>
                  apply Or.inl
                  rw [← step_increments hCounts]
                  exact
                    lt_of_le_of_lt (run_counters_le _ _ _)
                      hSmall
            rcases hRest.cons_call hRoom with
              ⟨number, hShape⟩
            exact ⟨_, hShape⟩
          · rcases step_other state (Ne.symm hConv) outcome
              with ⟨hCounters, hLocal⟩
            have hAbove := hRest.above
            have hFallback := hRest.fallback
            have hMarks := hRest.marks
            rw [hCounters] at hAbove
            rw [hLocal] at hFallback
            rw [step_sendsIncr] at hMarks
            refine
              ⟨trace, ?_, ?_, hRest.sorted, hAbove,
                hRest.below, hFallback⟩
            · rw [hMarks]
              simp [sources, hConv]
            · rcases step_returns state other outcome with
                ⟨number, hReturned⟩
              rw [hRest.numbers, Transducer.run_cons]
              unfold numbersFor
              rw [List.filterMap_append, hReturned]
              simp [hConv]

------------------------------------------------------------
-- Increasing Numbers
------------------------------------------------------------

/-
  On the conversation, Redis never answers again after a
  number was taken from the fallback, and the fallback does
  not run out of 64-bit numbers.
-/
def StaysOnFallback (marks : List Bool) : Prop :=
  marks.Pairwise (fun a b => b = true → a = true) ∧
    marks.count false < 2 ^ 64 - RedisClient.fallbackBase

/- Without a way back, Redis numbers come first. -/
theorem trace_splits
    {trace : List (Bool × Nat)}
    (hMarks :
      (trace.map Prod.fst).Pairwise
        (fun a b => b = true → a = true)) :
    trace.map Prod.snd = counted trace ++ fallbacks trace := by
  induction trace with
  | nil => rfl
  | cons entry trace ih =>
      rw [List.map_cons, List.pairwise_cons] at hMarks
      have hRest := ih hMarks.2
      rcases entry with ⟨source, number⟩
      cases source with
      | true =>
          rw [List.map_cons, hRest]
          rfl
      | false =>
          have hNone :
              (trace.filter fun e => e.1) = [] := by
            apply List.filter_eq_nil_iff.mpr
            intro e hMember hTrue
            have hBack :=
              hMarks.1 e.1 (List.mem_map_of_mem hMember)
                hTrue
            simp at hBack
          have hCounted : counted trace = [] := by
            simp [counted, hNone]
          have hCons :
              counted ((false, number) :: trace) = [] := by
            simp [counted, hNone]
          rw [List.map_cons, hRest, hCounted, hCons]
          rfl

theorem length_fallbacks
    (trace : List (Bool × Nat)) :
    (fallbacks trace).length =
      (trace.map Prod.fst).count false := by
  induction trace with
  | nil => rfl
  | cons entry trace ih =>
      rcases entry with ⟨source, number⟩
      cases source <;>
        simpa [fallbacks] using ih

theorem fallbackNumbers_eq
    {count : Nat}
    (hRoom : count < 2 ^ 64 - RedisClient.fallbackBase) :
    fallbackNumbers 0 count =
      List.range' (RedisClient.fallbackBase + 1) count := by
  unfold RedisClient.fallbackBase at hRoom
  unfold fallbackNumbers
  rw [List.range'_eq_map_range]
  apply List.map_congr_left
  intro i hMember
  have hBelow := List.mem_range.mp hMember
  unfold RedisClient.fallbackBase
  omega

/- Past the last 64-bit number, the fallback starts over. -/
theorem room_of_increasing
    {count : Nat}
    (hIncreasing :
      (fallbackNumbers 0 count).Pairwise (· < ·)) :
    count < 2 ^ 64 - RedisClient.fallbackBase := by
  by_contra hFull
  have hLength :
      (fallbackNumbers 0 count).length = count := by
    simp [fallbackNumbers]
  unfold RedisClient.fallbackBase at hFull
  have hWrap :=
    List.pairwise_iff_getElem.mp hIncreasing
      (2 ^ 64 - 2 ^ 40 - 2) (2 ^ 64 - 2 ^ 40 - 1)
      (by omega) (by omega) (by omega)
  unfold fallbackNumbers RedisClient.fallbackBase at hWrap
  rw [List.getElem_map, List.getElem_map,
    List.getElem_range, List.getElem_range] at hWrap
  omega

theorem increasing_iff_stays
    {conv : String}
    {counters : String → Nat}
    {ok : Bool}
    {events : List NumberingEvent}
    {trace : List (Bool × Nat)}
    (hShape :
      Shape conv ⟨RedisClient.connected ok, counters⟩ events
        trace) :
    (trace.map Prod.snd).Pairwise (· < ·) ↔
      StaysOnFallback (trace.map Prod.fst) := by
  have hFallback :
      fallbacks trace =
        fallbackNumbers 0 (fallbacks trace).length :=
    hShape.fallback
  constructor
  · intro hIncreasing
    have hLocal :
        (fallbacks trace).Pairwise (· < ·) :=
      hIncreasing.sublist
        (List.filter_sublist.map Prod.snd)
    rw [hFallback] at hLocal
    have hRoom := room_of_increasing hLocal
    refine ⟨?_, ?_⟩
    · apply List.pairwise_map.mpr
      have hEntries := List.pairwise_map.mp hIncreasing
      apply hEntries.imp_of_mem
      intro a b hA hB hLess hCounted
      by_contra hSource
      have hBelow : b.2 < 2 ^ 40 := by
        apply hShape.below
        apply List.mem_map_of_mem
        exact List.mem_filter.mpr ⟨hB, hCounted⟩
      have hAbove : a.2 ∈ fallbacks trace := by
        apply List.mem_map_of_mem
        apply List.mem_filter.mpr
        exact ⟨hA, by simpa using hSource⟩
      rw [hFallback, fallbackNumbers_eq hRoom] at hAbove
      have hRange := List.mem_range'_1.mp hAbove
      unfold RedisClient.fallbackBase at hRange
      omega
    · rw [← length_fallbacks]
      exact hRoom
  · intro hStays
    have hRoom := hStays.2
    rw [← length_fallbacks] at hRoom
    rw [trace_splits hStays.1]
    apply List.pairwise_append.mpr
    refine ⟨hShape.sorted, ?_, ?_⟩
    · rw [hFallback, fallbackNumbers_eq hRoom]
      exact List.pairwise_lt_range'
    · intro a hA b hB
      have hBelow := hShape.below a hA
      rw [hFallback, fallbackNumbers_eq hRoom] at hB
      have hRange := List.mem_range'_1.mp hB
      unfold RedisClient.fallbackBase at hRange
      omega

/-
  The numbers of a conversation increase if and only if Redis
  never answers again after the fallback was used.
-/
theorem numbers_increase_iff
    (conv : String)
    (ok : Bool)
    (counters : String → Nat)
    (events : List NumberingEvent)
    (hSmall :
      (Transducer.run step
          ⟨RedisClient.connected ok, counters⟩
            events).1.counters conv < 2 ^ 40) :
    (numbersFor conv
        (Transducer.run step
          ⟨RedisClient.connected ok, counters⟩
            events).2).Pairwise (· < ·) ↔
      StaysOnFallback (sources conv ok events) := by
  rcases run_shape conv
      ⟨RedisClient.connected ok, counters⟩ events hSmall with
    ⟨trace, hShape⟩
  have hSends :
      (RedisClient.connected ok).sendsIncr = ok :=
    Bool.and_self ok
  have hMarks := hShape.marks
  rw [hSends] at hMarks
  rw [← hShape.numbers, ← hMarks]
  exact increasing_iff_stays hShape

theorem numbers_increase_after_lost_connection :
    (numbersFor "p1_2"
        (Transducer.run step
          ⟨RedisClient.connected true, fun _ => 0⟩
          [.call "p1_2" .integer, .call "g7" .integer,
            .elsewhere "p1_2", .call "p1_2" .integer,
            .call "g7" .null,
            .call "p1_2" .integer]).2).Pairwise (· < ·) ↔
      StaysOnFallback
        (sources "p1_2" true
          [.call "p1_2" .integer, .call "g7" .integer,
            .elsewhere "p1_2", .call "p1_2" .integer,
            .call "g7" .null,
            .call "p1_2" .integer]) :=
  numbers_increase_iff "p1_2" true (fun _ => 0) _ (by decide)

/-
  One error reply: the second number is the fallback's, and
  the third comes from Redis again, far below it.
-/
theorem number_decreases_after_error_reply :
    numbersFor "p1_2"
          (Transducer.run step
            ⟨RedisClient.connected true, fun _ => 0⟩
            [.call "p1_2" .integer,
              .call "p1_2" (.unexpected "LOADING"),
              .call "p1_2" .integer]).2 =
        [1, 2 ^ 40 + 1, 2] ∧
      ¬ (numbersFor "p1_2"
          (Transducer.run step
            ⟨RedisClient.connected true, fun _ => 0⟩
            [.call "p1_2" .integer,
              .call "p1_2" (.unexpected "LOADING"),
              .call "p1_2" .integer]).2).Pairwise
            (· < ·) := by
  decide

end Numbering

end ClusterChat
