import ClusterChat.Server.ConnectionPool

/-
  The wait for a connection, the loop at the start of
  `getConnection`.

  Every turn of the loop waits anew for the whole timeout, and
  only a timeout makes it return without a connection.  So a
  call that finds the queue empty again and again returns by
  its deadline exactly if the first wake-up from the deadline
  on is a timeout and not a notification.

  Main declarations:
    * `ConnectionPool.waitLoop`
    * `ConnectionPool.WaitsFor`
    * `ConnectionPool.waiting_ends_iff`
-/

------------------------------------------------------------
-- The Loop
------------------------------------------------------------

namespace ClusterChat

/- `cv_status` -/
inductive CvStatus where
| noTimeout
| timeout
deriving DecidableEq, Repr

/- A return of `wait_for`: its time in nanoseconds, its
status, and the pool as the thread finds it, with the mutex
locked again. -/
structure WakeUp where
  time : Int
  status : CvStatus
  pool : ConnectionPool

/- How far a call has got: it waits, it returned no
connection, or it left the loop with this pool. -/
inductive WaitResult where
| waiting
| returnedNull
| leftLoop (pool : ConnectionPool)

/- `_connectTimeout` in nanoseconds. -/
def PoolConfig.timeoutNs (cfg : PoolConfig) : Int :=
  cfg.connectTimeout * 1000000

namespace ConnectionPool

/- `while(_connQueue.empty())`, for the wake-ups so far. -/
def waitLoop
    (pool : ConnectionPool) : List WakeUp → WaitResult
| [] =>
    if pool.connQueue.isEmpty then
      .waiting
    else
      .leftLoop pool
| wake :: wakes =>
    if pool.connQueue.isEmpty then
      if wake.status = .timeout then
        if wake.pool.connQueue.isEmpty then
          .returnedNull
        else
          waitLoop wake.pool wakes
      else
        waitLoop wake.pool wakes
    else
      .leftLoop pool

/- The wake-ups of a call: each `wait_for` begins when the
last one returned, and times out after the whole timeout. -/
def WaitsFor
    (cfg : PoolConfig) : Int → List WakeUp → Prop
| _, [] => True
| since, wake :: wakes =>
    since ≤ wake.time ∧
      (wake.status = .timeout →
        since + cfg.timeoutNs ≤ wake.time) ∧
        WaitsFor cfg wake.time wakes

variable {cfg : PoolConfig} {pool : ConnectionPool}
variable {wakes : List WakeUp}

------------------------------------------------------------
-- An Empty Queue
------------------------------------------------------------

/- The queue is empty at every wake-up. -/
def Starved (wakes : List WakeUp) : Prop :=
  ∀ wake ∈ wakes, wake.pool.connQueue = []

/- With an empty queue, only a timeout ends the wait. -/
theorem returnedNull_iff
    (hEmpty : pool.connQueue = [])
    (hStarved : Starved wakes) :
    waitLoop pool wakes = .returnedNull ↔
      ∃ wake ∈ wakes, wake.status = .timeout := by
  induction wakes generalizing pool with
  | nil => simp [waitLoop, hEmpty]
  | cons wake wakes ih =>
      have hHere := hStarved wake List.mem_cons_self
      have hRest :=
        ih hHere fun other hOther =>
          hStarved other (List.mem_cons_of_mem _ hOther)
      unfold waitLoop
      rw [hEmpty, hHere]
      cases hStatus : wake.status with
      | timeout => simp [hStatus]
      | noTimeout => simp [hRest, hStatus]

/- No timeout comes before the whole timeout has passed. -/
theorem WaitsFor.timeout_le
    {since : Int}
    (hWaits : WaitsFor cfg since wakes)
    {wake : WakeUp}
    (hMember : wake ∈ wakes)
    (hTimeout : wake.status = .timeout) :
    since + cfg.timeoutNs ≤ wake.time := by
  induction wakes generalizing since with
  | nil => cases hMember
  | cons first wakes ih =>
      rcases hWaits with ⟨hSince, hFirst, hRest⟩
      rcases List.mem_cons.mp hMember with rfl | hLater
      · exact hFirst hTimeout
      · have hLater := ih hRest hLater
        omega

/- By every wake-up from the deadline on, the call has
returned no connection. -/
def EndsInTime
    (cfg : PoolConfig)
    (called : Int)
    (pool : ConnectionPool)
    (wakes : List WakeUp) : Prop :=
  ∀ front wake back,
    wakes = front ++ wake :: back →
      called + cfg.timeoutNs ≤ wake.time →
        waitLoop pool (front ++ [wake]) = .returnedNull

/- The first wake-up from the deadline on is a timeout. -/
def TimesOutFirst
    (cfg : PoolConfig)
    (called : Int)
    (wakes : List WakeUp) : Prop :=
  ∀ wake ∈
      wakes.find? fun wake =>
        decide (called + cfg.timeoutNs ≤ wake.time),
    wake.status = .timeout

instance (cfg : PoolConfig) (called : Int) :
    DecidablePred (TimesOutFirst cfg called) := fun wakes =>
  inferInstanceAs
    (Decidable
      (∀ wake ∈
          wakes.find? fun wake =>
            decide (called + cfg.timeoutNs ≤ wake.time),
        wake.status = .timeout))

/-
  A call that finds the queue empty at every wake-up returns
  by its deadline exactly if the first wake-up from the
  deadline on is a timeout.
-/
theorem waiting_ends_iff
    {called : Int}
    (hEmpty : pool.connQueue = [])
    (hStarved : Starved wakes)
    (hWaits : WaitsFor cfg called wakes) :
    EndsInTime cfg called pool wakes ↔
      TimesOutFirst cfg called wakes := by
  constructor
  · intro hEnds wake hFirst
    rcases List.find?_eq_some_iff_append.mp hFirst with
      ⟨hDue, front, back, hSplit, hEarly⟩
    have hReturned :=
      hEnds front wake back hSplit (of_decide_eq_true hDue)
    rw [returnedNull_iff hEmpty] at hReturned
    · rcases hReturned with ⟨other, hMember, hTimeout⟩
      rcases List.mem_append.mp hMember with hFront | hLast
      · have hListed : other ∈ wakes := by
          rw [hSplit]
          exact List.mem_append_left _ hFront
        have hLate := hWaits.timeout_le hListed hTimeout
        have hBefore := hEarly other hFront
        simp [hLate] at hBefore
      · rw [← List.mem_singleton.mp hLast]
        exact hTimeout
    · intro other hMember
      apply hStarved
      rw [hSplit, List.append_cons]
      exact List.mem_append_left _ hMember
  · intro hFirst front wake back hSplit hDue
    rw [hSplit, List.append_cons] at hFirst hStarved
    have hShorter : Starved (front ++ [wake]) :=
      fun other hMember =>
        hStarved other (List.mem_append_left _ hMember)
    rw [returnedNull_iff hEmpty hShorter]
    have hSome :
        ((front ++ [wake]).find? fun wake =>
          decide (called + cfg.timeoutNs ≤ wake.time)) ≠
            none := by
      intro hNone
      have hLast :=
        List.find?_eq_none.mp hNone wake (by simp)
      exact hLast (decide_eq_true hDue)
    rcases Option.ne_none_iff_exists'.mp hSome with
      ⟨other, hFound⟩
    refine ⟨other, List.mem_of_find?_eq_some hFound, ?_⟩
    apply hFirst
    rw [List.find?_append, hFound]
    rfl

------------------------------------------------------------
-- Notifications Without End
------------------------------------------------------------

/- Notifications every 60 ms, each with an empty queue. -/
def notifications : Int → Nat → List WakeUp
| _, 0 => []
| since, count + 1 =>
    { time := since + 60000000
      status := .noTimeout
      pool := empty 0 } ::
      notifications (since + 60000000) count

/- With a timeout of 100 ms, such notifications keep the call
waiting however long they go on. -/
theorem notifications_keep_waiting
    (since : Int)
    (count : Nat) :
    WaitsFor {} since (notifications since count) ∧
      waitLoop (empty 0) (notifications since count) =
        .waiting := by
  induction count generalizing since with
  | zero => exact ⟨trivial, rfl⟩
  | succ count ih =>
      rcases ih (since + 60000000) with ⟨hWaits, hWaiting⟩
      refine ⟨⟨?_, ?_, hWaits⟩, hWaiting⟩
      · change since ≤ since + 60000000
        omega
      · intro hTimeout
        cases hTimeout

/- One notification, and then a timeout. -/
def endingWait : List WakeUp :=
  [{ time := 60000000
     status := .noTimeout
     pool := empty 0 },
    { time := 160000000
      status := .timeout
      pool := empty 0 }]

theorem endingWait_ends :
    EndsInTime {} 0 (empty 0) endingWait := by
  have hStarved : Starved endingWait := by
    simp [Starved, endingWait, empty]
  have hWaits : WaitsFor {} 0 endingWait := by
    simp [WaitsFor, endingWait, PoolConfig.timeoutNs]
  exact
    (waiting_ends_iff rfl hStarved hWaits).mpr (by decide)

/- At the second notification the call has been waiting for
120 ms, and it goes on waiting. -/
theorem second_notification_restarts_wait :
    WaitsFor {} 0 (notifications 0 2) ∧
      Starved (notifications 0 2) ∧
        ¬ EndsInTime {} 0 (empty 0) (notifications 0 2) := by
  have hWaiting := notifications_keep_waiting 0 2
  refine ⟨hWaiting.1, ?_, ?_⟩
  · simp [Starved, notifications, empty]
  · intro hEnds
    have hReturned :=
      hEnds (notifications 0 1)
        { time := 120000000
          status := .noTimeout
          pool := empty 0 }
        [] rfl (by decide)
    have hBoth :
        waitLoop (empty 0) (notifications 0 2) =
          .returnedNull := hReturned
    rw [hWaiting.2] at hBoth
    cases hBoth

end ConnectionPool

end ClusterChat
