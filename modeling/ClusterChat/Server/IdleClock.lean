import ClusterChat.Server.ConnectionPool

/-
  The scanner of the connection pool against real time.

  The pool measures how long a connection has been idle by
  `clock()`, which counts the CPU time of the process.  Beside
  the pool runs the real clock, with the real time at which
  each connection was pushed to the queue.  A pass leaves an
  overdue connection behind exactly if the scanner looks at
  one that the CPU clock does not call overdue.

  Main declarations:
    * `TimedPool` and `TimedPool.step`
    * `TimedPool.Reclaimed`
    * `TimedPool.KeepsUp`
    * `TimedPool.idle_reclaimed_iff`
-/

------------------------------------------------------------
-- The Pool in Real Time
------------------------------------------------------------

namespace ClusterChat

/- The pool, the real time in the unit of `clock()`, and the
real time at which a connection was pushed last. -/
structure TimedPool where
  pool : ConnectionPool
  realTime : Int
  pushedAt : Nat → Int

/- A step of the pool, and the real time when it ends. -/
structure TimedStep where
  step : ConnectionPool.PoolStep
  realTime : Int

/- A reading of both clocks. -/
structure ClockPair where
  cpu : Int
  real : Int

namespace TimedPool

open ConnectionPool

/- The connection that a step pushes to the queue. -/
def pushed (pool : ConnectionPool) : PoolStep → Option Nat
| .release address _ => some address
| .produceConnection (some (.connected _)) =>
    some pool.nextAddress
| _ => none

/- A push is recorded with the real time. -/
def record
    (pushedAt : Nat → Int)
    (realTime : Int) : Option Nat → Nat → Int
| some address => Function.update pushedAt address realTime
| none => pushedAt

def step
    (cfg : PoolConfig)
    (timed : TimedPool)
    (label : TimedStep) : Option TimedPool :=
  match ConnectionPool.step cfg timed.pool label.step with
  | some after =>
      some
        { pool := after
          realTime := label.realTime
          pushedAt :=
            record timed.pushedAt label.realTime
              (pushed timed.pool label.step) }
  | none => none

/- Neither clock goes back. -/
def ClocksAdvance
    (timed : TimedPool)
    (label : TimedStep) : Prop :=
  ClockAdvances timed.pool label.step ∧
    timed.realTime ≤ label.realTime

instance (timed : TimedPool) (label : TimedStep) :
    Decidable (ClocksAdvance timed label) :=
  inferInstanceAs (Decidable (_ ∧ _))

/- A push of the constructor. -/
def pushNew
    (timed : TimedPool)
    (now : ClockPair) : TimedPool where
  pool := timed.pool.pushNew now.cpu
  realTime := now.real
  pushedAt :=
    record timed.pushedAt now.real
      (some timed.pool.nextAddress)

/- The constructor, with its readings of the clocks. -/
def construct
    (start : ClockPair)
    (readings : List ClockPair) : TimedPool :=
  readings.foldl pushNew
    { pool := empty start.cpu
      realTime := start.real
      pushedAt := fun _ => start.real }

/- How long a connection has been idle in real time. -/
def idleTime (timed : TimedPool) (c : Connection) : Int :=
  timed.realTime - timed.pushedAt c.address

/- A connection that has been idle for too long. -/
def Overdue
    (cfg : PoolConfig)
    (timed : TimedPool)
    (c : Connection) : Prop :=
  cfg.maxIdleTime * clocksPerSec ≤ timed.idleTime c

instance (cfg : PoolConfig) (timed : TimedPool) :
    DecidablePred (Overdue cfg timed) := fun c =>
  inferInstanceAs
    (Decidable
      (cfg.maxIdleTime * clocksPerSec ≤ timed.idleTime c))

------------------------------------------------------------
-- The Order of the Queue
------------------------------------------------------------

/- The queue is ordered by the real times of the pushes. -/
structure Queued (timed : TimedPool) : Prop where
  sound : timed.pool.Sound
  ordered :
    timed.pool.connQueue.Pairwise fun first second =>
      timed.pushedAt first.address ≤
        timed.pushedAt second.address
  past :
    ∀ c ∈ timed.pool.connQueue,
      timed.pushedAt c.address ≤ timed.realTime

variable {cfg : PoolConfig}

theorem scanIdleConnection_sublist
    {pool after : ConnectionPool}
    {readings : List Int}
    (hStep :
      scanIdleConnection cfg pool readings = some after) :
    after.connQueue.Sublist pool.connQueue := by
  induction readings generalizing pool with
  | nil =>
      unfold scanIdleConnection at hStep
      split_ifs at hStep
      rw [← Option.some.inj hStep]
  | cons now readings ih =>
      unfold scanIdleConnection at hStep
      cases hQueue : pool.connQueue with
      | nil =>
          rw [hQueue] at hStep
          cases hStep
      | cons c queue =>
          rw [hQueue] at hStep
          dsimp only at hStep
          split_ifs at hStep
          · exact (ih hStep).cons c
          · rw [← Option.some.inj hStep, ← hQueue]

/- A step takes connections out of the queue, or pushes one
that was not queued before. -/
theorem queue_of_step
    {pool after : ConnectionPool}
    (hSound : pool.Sound)
    {label : PoolStep}
    (hStep : ConnectionPool.step cfg pool label = some after) :
    (pushed pool label = none ∧
        after.connQueue.Sublist pool.connQueue) ∨
      ∃ c,
        pushed pool label = some c.address ∧
          after.connQueue = pool.connQueue ++ [c] ∧
            ∀ other ∈ pool.connQueue,
              other.address ≠ c.address := by
  cases label with
  | getConnection ping =>
      refine Or.inl ⟨rfl, ?_⟩
      simp only [ConnectionPool.step,
        ConnectionPool.getConnection] at hStep
      cases hQueue : pool.connQueue with
      | nil =>
          rw [hQueue] at hStep
          cases hStep
      | cons c queue =>
          rw [hQueue] at hStep
          rw [← Option.some.inj hStep]
          exact List.sublist_cons_self c queue
  | timeOut =>
      refine Or.inl ⟨rfl, ?_⟩
      simp only [ConnectionPool.step, timeOut] at hStep
      split_ifs at hStep
      rw [← Option.some.inj hStep]
  | useConnection address now =>
      refine Or.inl ⟨rfl, ?_⟩
      simp only [ConnectionPool.step,
        ConnectionPool.useConnection] at hStep
      split_ifs at hStep
      rw [← Option.some.inj hStep]
  | release address now =>
      apply Or.inr
      simp only [ConnectionPool.step,
        ConnectionPool.release] at hStep
      cases hFound :
          pool.lent.find? fun c => c.address = address with
      | none =>
          rw [hFound] at hStep
          cases hStep
      | some c =>
          rw [hFound] at hStep
          have hAddress : c.address = address := by
            simpa using List.find?_some hFound
          refine
            ⟨c.refreshAliveTime now, ?_, ?_, ?_⟩
          · exact congrArg some hAddress.symm
          · rw [← Option.some.inj hStep]
          · intro other hOther
            have hDisjoint :=
              (List.nodup_append.mp hSound.distinct).2.2
            have hLent :
                c.address ∈ pool.lent.map Connection.address :=
              List.mem_map_of_mem
                (List.mem_of_find?_eq_some hFound)
            exact
              hDisjoint _ (List.mem_map_of_mem hOther) _
                (List.mem_append_left _ hLent)
  | produceConnection attempt =>
      simp only [ConnectionPool.step,
        ConnectionPool.produceConnection] at hStep
      split_ifs at hStep with hWakes hRoom
      · cases attempt with
        | none => cases hStep
        | some result =>
            cases result with
            | connected now =>
                rw [← Option.some.inj hStep]
                refine Or.inr ⟨_, rfl, rfl, ?_⟩
                intro other hOther
                apply ne_of_lt
                apply hSound.below
                apply List.mem_append_left
                exact List.mem_map_of_mem hOther
            | failed =>
                rw [← Option.some.inj hStep]
                exact Or.inl ⟨rfl, List.Sublist.refl _⟩
      · cases attempt with
        | some result => cases hStep
        | none =>
            rw [← Option.some.inj hStep]
            exact Or.inl ⟨rfl, List.Sublist.refl _⟩
  | scanIdleConnection readings =>
      exact Or.inl ⟨rfl, scanIdleConnection_sublist hStep⟩

/- A connection that is pushed now goes behind the others,
which keep their times. -/
theorem Queued.push
    {timed : TimedPool}
    (hQueued : timed.Queued)
    {realTime : Int}
    (hTime : timed.realTime ≤ realTime)
    {c : Connection}
    (hNew :
      ∀ other ∈ timed.pool.connQueue,
        other.address ≠ c.address) :
    let pushedAt :=
      record timed.pushedAt realTime (some c.address)
    (timed.pool.connQueue ++ [c]).Pairwise
        (fun first second =>
          pushedAt first.address ≤
            pushedAt second.address) ∧
      ∀ other ∈ timed.pool.connQueue ++ [c],
        pushedAt other.address ≤ realTime := by
  intro pushedAt
  have hLast : pushedAt c.address = realTime :=
    Function.update_self _ _ _
  have hOld :
      ∀ other ∈ timed.pool.connQueue,
        pushedAt other.address =
          timed.pushedAt other.address :=
    fun other hOther =>
      Function.update_of_ne (hNew other hOther) _ _
  have hOrdered :
      timed.pool.connQueue.Pairwise fun first second =>
        pushedAt first.address ≤ pushedAt second.address := by
    apply hQueued.ordered.imp_of_mem
    intro first second hFirst hSecond hLe
    rw [hOld first hFirst, hOld second hSecond]
    exact hLe
  have hPast :
      ∀ other ∈ timed.pool.connQueue,
        pushedAt other.address ≤ timed.realTime := by
    intro other hOther
    rw [hOld other hOther]
    exact hQueued.past other hOther
  exact pairwise_push hOrdered hPast hTime hLast

theorem Queued.pushNew
    {timed : TimedPool}
    (hQueued : timed.Queued)
    {now : ClockPair}
    (hCpu : timed.pool.now ≤ now.cpu)
    (hReal : timed.realTime ≤ now.real) :
    (timed.pushNew now).Queued := by
  have hNew :
      ∀ other ∈ timed.pool.connQueue,
        other.address ≠ timed.pool.nextAddress := by
    intro other hOther
    apply ne_of_lt
    apply hQueued.sound.below
    apply List.mem_append_left
    exact List.mem_map_of_mem hOther
  rcases
      hQueued.push hReal
        (c :=
          { address := timed.pool.nextAddress
            aliveTime := now.cpu })
        hNew with
    ⟨hOrdered, hPast⟩
  exact ⟨hQueued.sound.pushNew hCpu, hOrdered, hPast⟩

/- A step of the pool, and what it records. -/
theorem exists_of_step
    {timed after : TimedPool}
    {label : TimedStep}
    (hStep : step cfg timed label = some after) :
    ∃ pool,
      ConnectionPool.step cfg timed.pool label.step =
          some pool ∧
        after =
          { pool := pool
            realTime := label.realTime
            pushedAt :=
              record timed.pushedAt label.realTime
                (pushed timed.pool label.step) } := by
  unfold step at hStep
  cases hPool :
      ConnectionPool.step cfg timed.pool label.step with
  | none =>
      rw [hPool] at hStep
      cases hStep
  | some pool =>
      rw [hPool] at hStep
      exact ⟨pool, rfl, (Option.some.inj hStep).symm⟩

/- Every step keeps the queue ordered. -/
theorem queued_step
    {timed after : TimedPool}
    {label : TimedStep}
    (hQueued : timed.Queued)
    (hClocks : ClocksAdvance timed label)
    (hStep : step cfg timed label = some after) :
    after.Queued := by
  rcases exists_of_step hStep with ⟨pool, hPool, hAfter⟩
  have hSound := (hQueued.sound.step hClocks.1 hPool).1
  rw [hAfter]
  rcases queue_of_step hQueued.sound hPool with
    ⟨hNone, hTaken⟩ | ⟨c, hPushed, hQueue, hNew⟩
  · rw [hNone]
    refine ⟨hSound, ?_, ?_⟩
    · exact hQueued.ordered.sublist hTaken
    · intro c hMember
      exact
        (hQueued.past c (hTaken.subset hMember)).trans
          hClocks.2
  · rcases hQueued.push hClocks.2 hNew with
      ⟨hOrdered, hPast⟩
    rw [hPushed]
    refine ⟨hSound, ?_, ?_⟩
    · dsimp only
      rw [hQueue]
      exact hOrdered
    · dsimp only
      rw [hQueue]
      exact hPast

/- The readings of the constructor never go back. -/
structure Advancing
    (start : ClockPair)
    (readings : List ClockPair) : Prop where
  cpu :
    (start.cpu :: readings.map ClockPair.cpu).Pairwise (· ≤ ·)
  real :
    (start.real :: readings.map ClockPair.real).Pairwise
      (· ≤ ·)

theorem queued_pushAll
    {timed : TimedPool}
    (hQueued : timed.Queued)
    {readings : List ClockPair}
    (hAdvancing :
      Advancing
        { cpu := timed.pool.now, real := timed.realTime }
        readings) :
    (readings.foldl TimedPool.pushNew timed).Queued := by
  induction readings generalizing timed with
  | nil => exact hQueued
  | cons now readings ih =>
      rcases hAdvancing with ⟨hCpu, hReal⟩
      rw [List.map_cons, List.pairwise_cons] at hCpu hReal
      rw [List.foldl_cons]
      apply ih
      · exact
          hQueued.pushNew
            (hCpu.1 _ List.mem_cons_self)
            (hReal.1 _ List.mem_cons_self)
      · exact ⟨hCpu.2, hReal.2⟩

theorem queued_construct
    {start : ClockPair}
    {readings : List ClockPair}
    (hAdvancing : Advancing start readings) :
    (construct start readings).Queued := by
  apply queued_pushAll
  · refine ⟨sound_empty start.cpu, List.Pairwise.nil, ?_⟩
    intro c hMember
    cases hMember
  · exact hAdvancing

------------------------------------------------------------
-- A Pass of the Scanner
------------------------------------------------------------

/- The pool is down to its initial size, or no connection of
the queue has been idle for too long in real time. -/
def Reclaimed
    (cfg : PoolConfig)
    (timed : TimedPool) : Prop :=
  timed.pool.connCount ≤ cfg.initSize ∨
    ∀ c ∈ timed.pool.connQueue, ¬ timed.Overdue cfg c

/-
  The CPU clock keeps up with the scanner: of the connections
  it looks at, with these readings, every one that is overdue
  in real time is overdue by the CPU clock.
-/
def KeepsUp
    (cfg : PoolConfig)
    (timed : TimedPool)
    (realTime : Int)
    (readings : List Int) : Prop :=
  ∀ looked ∈ timed.pool.connQueue.zip readings,
    cfg.maxIdleTime * clocksPerSec ≤
        realTime - timed.pushedAt looked.1.address →
      cfg.expires looked.2 looked.1

instance (cfg : PoolConfig) (timed : TimedPool) :
    Decidable (Reclaimed cfg timed) :=
  inferInstanceAs (Decidable (_ ∨ _))

instance
    (cfg : PoolConfig)
    (timed : TimedPool)
    (realTime : Int)
    (readings : List Int) :
    Decidable (KeepsUp cfg timed realTime readings) :=
  inferInstanceAs
    (Decidable
      (∀ looked ∈ timed.pool.connQueue.zip readings, _))

/- The loop deletes from the front, where the connections are
that were pushed first. -/
theorem scan_reclaims_iff
    {pushedAt : Nat → Int}
    {realTime : Int}
    {pool after : ConnectionPool}
    {readings : List Int}
    (hOrdered :
      pool.connQueue.Pairwise fun first second =>
        pushedAt first.address ≤ pushedAt second.address)
    (hStep :
      scanIdleConnection cfg pool readings = some after) :
    Reclaimed cfg
        { pool := after
          realTime := realTime
          pushedAt := pushedAt } ↔
      KeepsUp cfg
        { pool := pool
          realTime := realTime
          pushedAt := pushedAt }
        realTime readings := by
  induction readings generalizing pool with
  | nil =>
      unfold scanIdleConnection at hStep
      split_ifs at hStep with hMore
      rw [← Option.some.inj hStep]
      refine iff_of_true ?_ (by simp [KeepsUp])
      by_cases hLeft : cfg.initSize < pool.connCount
      · apply Or.inr
        have hEmpty : pool.connQueue = [] := by
          by_contra hSome
          exact hMore ⟨hLeft, hSome⟩
        simp [hEmpty]
      · exact Or.inl (not_lt.mp hLeft)
  | cons now readings ih =>
      unfold scanIdleConnection at hStep
      cases hQueue : pool.connQueue with
      | nil =>
          rw [hQueue] at hStep
          cases hStep
      | cons c queue =>
          rw [hQueue] at hStep hOrdered
          rw [List.pairwise_cons] at hOrdered
          dsimp only at hStep
          split_ifs at hStep with hMore hExpires hLast
          · -- the front is deleted, and the loop goes on
            rw [ih hOrdered.2 hStep]
            simp [KeepsUp, hQueue, hExpires]
          · -- the loop stops here, at the oldest one
            rw [← Option.some.inj hStep, hLast]
            have hFront :
                KeepsUp cfg
                    { pool := pool
                      realTime := realTime
                      pushedAt := pushedAt }
                    realTime [now] ↔
                  ¬ cfg.maxIdleTime * clocksPerSec ≤
                    realTime - pushedAt c.address := by
              simp [KeepsUp, hQueue, hExpires]
            rw [hFront]
            constructor
            · rintro (hSmall | hYoung)
              · exact absurd hMore (not_lt.mpr hSmall)
              · exact hYoung c List.mem_cons_self
            · intro hYoung
              refine Or.inr fun other hOther hOverdue => ?_
              rcases List.mem_cons.mp hOther with hHere | hThere
              · rw [hHere] at hOverdue
                exact hYoung hOverdue
              · have hOlder := hOrdered.1 other hThere
                apply hYoung
                apply hOverdue.trans
                exact Int.sub_le_sub_left hOlder realTime

/- A condition on the passes of the scanner. -/
def OfScanner
    (Condition :
      TimedPool → Int → List Int → TimedPool → Prop)
    (before : TimedPool)
    (label : TimedStep)
    (after : TimedPool) : Prop :=
  match label.step with
  | .scanIdleConnection readings =>
      Condition before label.realTime readings after
  | _ => True

instance
    (Condition :
      TimedPool → Int → List Int → TimedPool → Prop)
    [∀ before realTime readings after,
      Decidable (Condition before realTime readings after)]
    (before : TimedPool)
    (label : TimedStep)
    (after : TimedPool) :
    Decidable (OfScanner Condition before label after) :=
  match label with
  | ⟨.scanIdleConnection readings, realTime⟩ =>
      inferInstanceAs
        (Decidable (Condition before realTime readings after))
  | ⟨.getConnection _, _⟩ => isTrue trivial
  | ⟨.timeOut, _⟩ => isTrue trivial
  | ⟨.useConnection _ _, _⟩ => isTrue trivial
  | ⟨.release _ _, _⟩ => isTrue trivial
  | ⟨.produceConnection _, _⟩ => isTrue trivial

/- After a pass everything overdue is reclaimed exactly if
the CPU clock kept up. -/
theorem scanner_reclaims_iff
    {timed after : TimedPool}
    {label : TimedStep}
    (hQueued : timed.Queued)
    (hStep : step cfg timed label = some after) :
    OfScanner (fun _ _ _ final => Reclaimed cfg final)
        timed label after ↔
      OfScanner
        (fun before realTime readings _ =>
          KeepsUp cfg before realTime readings)
        timed label after := by
  rcases label with ⟨action, realTime⟩
  cases action with
  | scanIdleConnection readings =>
      rcases exists_of_step hStep with ⟨pool, hPool, hAfter⟩
      rw [hAfter]
      exact scan_reclaims_iff hQueued.ordered hPool
  | _ => exact Iff.rfl

------------------------------------------------------------
-- Runs
------------------------------------------------------------

/-
  In a run of the pool, every pass of the scanner leaves no
  overdue connection behind exactly if the CPU clock keeps up
  with real time in every pass.
-/
theorem idle_reclaimed_iff
    (cfg : PoolConfig)
    {start : ClockPair}
    {readings : List ClockPair}
    (hAdvancing : Advancing start readings)
    (labels : List TimedStep) :
    Transition.EveryStep (step cfg) ClocksAdvance
        (construct start readings) labels
        (OfScanner fun _ _ _ after => Reclaimed cfg after) ↔
      Transition.EveryStep (step cfg) ClocksAdvance
        (construct start readings) labels
        (OfScanner fun before realTime readings _ =>
          KeepsUp cfg before realTime readings) := by
  apply Transition.everyStep_congr
  intro front before label after hRun _ hStep
  have hQueued : before.Queued :=
    hRun.invariant Queued
      (fun _ _ _ hBefore hClocks hTaken =>
        queued_step hBefore hClocks hTaken)
      (queued_construct hAdvancing)
  exact scanner_reclaims_iff hQueued hStep

------------------------------------------------------------
-- A Minute in a Pool of Three
------------------------------------------------------------

/- One connection more than is ever made, so that the
producer waits. -/
def roomyPool : PoolConfig :=
  { smallPool with maxSize := 3 }

/- The connection is taken, another one is made, the first
one comes back, and a minute later the scanner looks, with
these readings of `clock()`. -/
def minuteSteps (readings : List Int) : List TimedStep :=
  [{ step := .getConnection .alive
     realTime := 10 },
    { step := .produceConnection (some (.connected 10))
      realTime := 10 },
    { step := .release 0 20
      realTime := 20 },
    { step := .scanIdleConnection readings
      realTime := 60000030 }]

def clocksAtStart : ClockPair where
  cpu := 0
  real := 0

/- A process that computes all the time reclaims. -/
theorem busyMinute_reclaims :
    (Transition.execute (step roomyPool) ClocksAdvance
        (construct clocksAtStart [clocksAtStart])
        (minuteSteps [60000030])).isSome = true ∧
      Transition.EveryStep (step roomyPool) ClocksAdvance
        (construct clocksAtStart [clocksAtStart])
        (minuteSteps [60000030])
        (OfScanner fun _ _ _ after =>
          Reclaimed roomyPool after) := by
  have hAdvancing :
      Advancing clocksAtStart [clocksAtStart] :=
    ⟨by decide, by decide⟩
  constructor
  · decide +kernel
  · rw [idle_reclaimed_iff roomyPool hAdvancing,
      Transition.everyStep_iff_checkSteps]
    decide +kernel

/- A process that waits for its clients all the time keeps a
connection that nobody has used for a minute. -/
theorem quietMinute_reclaims_nothing :
    ¬ Transition.EveryStep (step roomyPool) ClocksAdvance
      (construct clocksAtStart [clocksAtStart])
      (minuteSteps [30])
      (OfScanner fun _ _ _ after =>
        Reclaimed roomyPool after) := by
  rw [Transition.everyStep_iff_checkSteps]
  decide +kernel

end TimedPool

end ClusterChat
