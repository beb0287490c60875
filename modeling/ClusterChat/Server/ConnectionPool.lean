import ClusterChat.Library.Transition
import Mathlib

/-
  The pool of database connections, translated from
  `connectionpool.cpp`.

  Whatever reads or writes the queue and the counter holds
  `_queueMutex`, and waiting changes nothing, so each of these
  sections is one step: a connection is taken or the wait
  times out, a connection is given back, the producer runs
  through once, the scanner makes a pass.  The clock is read
  by the steps themselves.

  Main declarations:
    * `ConnectionPool` and its operations
    * `ConnectionPool.step` and `ConnectionPool.construct`
    * `ConnectionPool.Sound` and `sound_step`
    * `ConnectionPool.pool_accounting`
-/

------------------------------------------------------------
-- Connections
------------------------------------------------------------

namespace ClusterChat

/- `CLOCKS_PER_SEC` of the C library. -/
def clocksPerSec : Int := 1000000

/- A database connection: its address, and the clock when it
was last used or given back. -/
structure Connection where
  address : Nat
  aliveTime : Int
deriving DecidableEq, Repr

namespace Connection

/- `refreshAliveTime` -/
def refreshAliveTime
    (now : Int)
    (c : Connection) : Connection :=
  { c with aliveTime := now }

/- `idleTime` -/
def idleTime (now : Int) (c : Connection) : Int :=
  now - c.aliveTime

end Connection

/- The numbers of `conf/mysql.cnf`. -/
structure PoolConfig where
  initSize : Int := 10
  maxSize : Int := 64
  maxIdleTime : Int := 60
  connectTimeout : Int := 100

/- The test of the scanner. -/
def PoolConfig.expires
    (cfg : PoolConfig)
    (now : Int)
    (c : Connection) : Prop :=
  cfg.maxIdleTime ≤ (c.idleTime now).tdiv clocksPerSec

instance (cfg : PoolConfig) (now : Int) :
    DecidablePred (cfg.expires now) := fun c =>
  inferInstanceAs
    (Decidable
      (cfg.maxIdleTime ≤ (c.idleTime now).tdiv clocksPerSec))

------------------------------------------------------------
-- The Pool
------------------------------------------------------------

/- The queue and the counter of the pool, the connections in
the hands of its users, the addresses that were deleted, the
next new address, and the last reading of the clock. -/
structure ConnectionPool where
  connQueue : List Connection
  connCount : Int
  lent : List Connection
  deleted : List Nat
  nextAddress : Nat
  now : Int

namespace ConnectionPool

/- A pool without connections. -/
def empty (now : Int) : ConnectionPool where
  connQueue := []
  connCount := 0
  lent := []
  deleted := []
  nextAddress := 0
  now := now

/- A new connection that is connected goes to the end of the
queue. -/
def pushNew
    (now : Int)
    (pool : ConnectionPool) : ConnectionPool :=
  { pool with
    connQueue :=
      pool.connQueue ++
        [{ address := pool.nextAddress, aliveTime := now }]
    connCount := pool.connCount + 1
    nextAddress := pool.nextAddress + 1
    now := now }

/- The constructor, with the clock readings of its loop.  A
connection that fails ends the process. -/
def construct
    (start : Int)
    (readings : List Int) : ConnectionPool :=
  readings.foldl (fun pool now => pool.pushNew now)
    (empty start)

/- What `getConnection` finds out about a connection: it
answers the ping, or it is connected again, or neither. -/
inductive PingResult where
| alive
| reconnected (now : Int)
| failed

/- The connection as its user gets it. -/
def PingResult.refresh
    (c : Connection) : PingResult → Connection
| alive => c
| reconnected now => c.refreshAliveTime now
| failed => c

/- `getConnection` when the queue is not empty. -/
def getConnection
    (pool : ConnectionPool)
    (ping : PingResult) : Option ConnectionPool :=
  match pool.connQueue with
  | [] => none
  | c :: queue =>
      some
        { pool with
          connQueue := queue
          lent := ping.refresh c :: pool.lent
          now :=
            match ping with
            | .reconnected now => now
            | _ => pool.now }

/- `getConnection` when the wait times out: it returns no
connection. -/
def timeOut (pool : ConnectionPool) : Option ConnectionPool :=
  if pool.connQueue.isEmpty then some pool else none

/- A statement of a user refreshes the connection. -/
def useConnection
    (pool : ConnectionPool)
    (address : Nat)
    (now : Int) : Option ConnectionPool :=
  if (pool.lent.any fun c => c.address = address) then
    some
      { pool with
        lent :=
          pool.lent.map fun c =>
            if c.address = address then
              c.refreshAliveTime now
            else
              c
        now := now }
  else
    none

/- The deleter of the shared pointer: the connection goes
back to the queue. -/
def release
    (pool : ConnectionPool)
    (address : Nat)
    (now : Int) : Option ConnectionPool :=
  match pool.lent.find? fun c => c.address = address with
  | none => none
  | some c =>
      some
        { pool with
          connQueue :=
            pool.connQueue ++ [c.refreshAliveTime now]
          lent := pool.lent.erase c
          now := now }

/- How the producer's attempt to connect ends. -/
inductive ConnectResult where
| connected (now : Int)
| failed

/- The predicate of the producer's wait. -/
def producerWakes
    (cfg : PoolConfig)
    (pool : ConnectionPool) : Bool :=
  pool.connQueue.isEmpty ||
    decide (cfg.maxSize ≤ pool.connCount)

/- One iteration of `produceConnection` that gets past the
wait.  There is an attempt to connect when the pool is not
full. -/
def produceConnection
    (cfg : PoolConfig)
    (pool : ConnectionPool)
    (attempt : Option ConnectResult) :
    Option ConnectionPool :=
  if pool.producerWakes cfg then
    if pool.connCount < cfg.maxSize then
      match attempt with
      | some (.connected now) => some (pool.pushNew now)
      | some .failed =>
          some
            { pool with
              deleted := pool.nextAddress :: pool.deleted
              nextAddress := pool.nextAddress + 1 }
      | none => none
    else
      match attempt with
      | some _ => none
      | none => some pool
  else
    none

/- The loop of `scanIdleConnection`, with the readings that
it makes. -/
def scanIdleConnection
    (cfg : PoolConfig)
    (pool : ConnectionPool) :
    List Int → Option ConnectionPool
| [] =>
    if cfg.initSize < pool.connCount ∧
        pool.connQueue ≠ [] then
      none
    else
      some pool
| now :: readings =>
    match pool.connQueue with
    | [] => none
    | c :: queue =>
        if cfg.initSize < pool.connCount then
          if cfg.expires now c then
            scanIdleConnection cfg
              { pool with
                connQueue := queue
                connCount := pool.connCount - 1
                deleted := c.address :: pool.deleted
                now := now }
              readings
          else if readings = [] then
            some { pool with now := now }
          else
            none
        else
          none

/- What happens to the pool. -/
inductive PoolStep where
| getConnection (ping : PingResult)
| timeOut
| useConnection (address : Nat) (now : Int)
| release (address : Nat) (now : Int)
| produceConnection (attempt : Option ConnectResult)
| scanIdleConnection (readings : List Int)

/- The clock readings of a step. -/
def PoolStep.readings : PoolStep → List Int
| getConnection (.reconnected now) => [now]
| getConnection _ => []
| timeOut => []
| useConnection _ now => [now]
| release _ now => [now]
| produceConnection (some (.connected now)) => [now]
| produceConnection _ => []
| scanIdleConnection readings => readings

/- The clock does not go back. -/
def ClockAdvances
    (pool : ConnectionPool)
    (label : PoolStep) : Prop :=
  (pool.now :: label.readings).Pairwise (· ≤ ·)

instance (pool : ConnectionPool) (label : PoolStep) :
    Decidable (ClockAdvances pool label) :=
  inferInstanceAs
    (Decidable
      ((pool.now :: label.readings).Pairwise (· ≤ ·)))

def step
    (cfg : PoolConfig)
    (pool : ConnectionPool) :
    PoolStep → Option ConnectionPool
| .getConnection ping => pool.getConnection ping
| .timeOut => pool.timeOut
| .useConnection address now =>
    pool.useConnection address now
| .release address now => pool.release address now
| .produceConnection attempt =>
    pool.produceConnection cfg attempt
| .scanIdleConnection readings =>
    scanIdleConnection cfg pool readings

------------------------------------------------------------
-- What Every Step Preserves
------------------------------------------------------------

/- The addresses that are or were in use. -/
def addresses (pool : ConnectionPool) : List Nat :=
  pool.connQueue.map Connection.address ++
    (pool.lent.map Connection.address ++ pool.deleted)

/-
  The counter is right; no address is queued twice, queued and
  lent at once, or deleted while queued or lent; and the queue
  is ordered by the times of the last refresh.
-/
structure Sound (pool : ConnectionPool) : Prop where
  counted :
    pool.connCount =
      pool.connQueue.length + pool.lent.length
  distinct : pool.addresses.Nodup
  below : ∀ address ∈ pool.addresses,
    address < pool.nextAddress
  ordered :
    pool.connQueue.Pairwise fun first second =>
      first.aliveTime ≤ second.aliveTime
  past : ∀ c ∈ pool.connQueue, c.aliveTime ≤ pool.now

/- The number of connections is within its limits. -/
structure Bounded
    (cfg : PoolConfig)
    (pool : ConnectionPool) : Prop where
  lower : cfg.initSize ≤ pool.connCount
  upper : pool.connCount ≤ cfg.maxSize

theorem sound_empty (now : Int) : (empty now).Sound where
  counted := rfl
  distinct := List.nodup_nil
  below := by
    intro address hAddress
    cases hAddress
  ordered := List.Pairwise.nil
  past := by
    intro c hQueued
    cases hQueued

section Steps

variable {cfg : PoolConfig} {pool after : ConnectionPool}

/- The same addresses, in another order. -/
theorem Sound.distinct_of_perm
    (hSound : pool.Sound)
    (hPerm : after.addresses.Perm pool.addresses)
    (hNext : pool.nextAddress ≤ after.nextAddress) :
    after.addresses.Nodup ∧
      ∀ address ∈ after.addresses,
        address < after.nextAddress := by
  constructor
  · exact hPerm.nodup_iff.mpr hSound.distinct
  · intro address hAddress
    exact
      (hSound.below address
        (hPerm.mem_iff.mp hAddress)).trans_le hNext

/- What is pushed last has the last time. -/
theorem pairwise_push
    {key : Connection → Int}
    {queue : List Connection}
    (hOrdered :
      queue.Pairwise fun first second =>
        key first ≤ key second)
    {before now : Int}
    (hPast : ∀ other ∈ queue, key other ≤ before)
    (hNow : before ≤ now)
    {c : Connection}
    (hLast : key c = now) :
    (queue ++ [c]).Pairwise
        (fun first second => key first ≤ key second) ∧
      ∀ other ∈ queue ++ [c], key other ≤ now := by
  have hOld : ∀ other ∈ queue, key other ≤ now :=
    fun other hOther => (hPast other hOther).trans hNow
  constructor
  · rw [List.pairwise_append]
    refine ⟨hOrdered, List.pairwise_singleton _ _, ?_⟩
    intro other hOther last hMember
    rw [List.mem_singleton.mp hMember, hLast]
    exact hOld other hOther
  · intro other hOther
    rcases List.mem_append.mp hOther with hQueued | hMember
    · exact hOld other hQueued
    · rw [List.mem_singleton.mp hMember, hLast]

/- A connection that was refreshed just now goes to the end
of an ordered queue. -/
theorem Sound.ordered_push
    (hSound : pool.Sound)
    {now : Int}
    (hNow : pool.now ≤ now)
    {c : Connection}
    (hFresh : c.aliveTime = now) :
    (pool.connQueue ++ [c]).Pairwise
        (fun first second =>
          first.aliveTime ≤ second.aliveTime) ∧
      ∀ other ∈ pool.connQueue ++ [c],
        other.aliveTime ≤ now :=
  pairwise_push hSound.ordered hSound.past hNow hFresh

theorem Sound.pushNew
    (hSound : pool.Sound)
    {now : Int}
    (hNow : pool.now ≤ now) :
    (pool.pushNew now).Sound := by
  have hPerm :
      (pool.pushNew now).addresses.Perm
        (pool.nextAddress :: pool.addresses) := by
    unfold addresses ConnectionPool.pushNew
    dsimp only
    rw [List.map_append, List.append_assoc]
    exact List.perm_middle
  have hNew : pool.nextAddress ∉ pool.addresses :=
    fun hUsed => (hSound.below _ hUsed).false
  have hPushed :=
    hSound.ordered_push hNow
      (c := { address := pool.nextAddress, aliveTime := now })
      rfl
  constructor
  · have hCounted := hSound.counted
    unfold ConnectionPool.pushNew
    dsimp only
    rw [hCounted, List.length_append, List.length_singleton]
    push_cast
    ring
  · rw [hPerm.nodup_iff, List.nodup_cons]
    exact ⟨hNew, hSound.distinct⟩
  · intro address hAddress
    rcases List.mem_cons.mp (hPerm.mem_iff.mp hAddress) with
      hHere | hThere
    · rw [hHere]
      exact Nat.lt_succ_self _
    · exact Nat.lt_succ_of_lt (hSound.below address hThere)
  · exact hPushed.1
  · exact hPushed.2

theorem Sound.getConnection
    (hSound : pool.Sound)
    {ping : PingResult}
    (hClock :
      ClockAdvances pool (.getConnection ping))
    (hStep : pool.getConnection ping = some after) :
    after.Sound ∧ after.connCount = pool.connCount := by
  unfold ConnectionPool.getConnection at hStep
  cases hQueue : pool.connQueue with
  | nil =>
      rw [hQueue] at hStep
      cases hStep
  | cons c queue =>
      rw [hQueue] at hStep
      have hAfter := (Option.some.inj hStep).symm
      have hAddress : (ping.refresh c).address = c.address := by
        cases ping <;> rfl
      have hNow : pool.now ≤ after.now := by
        rw [hAfter]
        cases ping with
        | reconnected now =>
            exact (List.pairwise_cons.mp hClock).1 now
              List.mem_cons_self
        | _ => exact le_rfl
      have hPerm : after.addresses.Perm pool.addresses := by
        rw [hAfter]
        unfold addresses
        dsimp only
        rw [hQueue, List.map_cons, List.map_cons, hAddress]
        exact List.perm_middle
      have hNext : pool.nextAddress ≤ after.nextAddress := by
        rw [hAfter]
      rcases hSound.distinct_of_perm hPerm hNext with
        ⟨hDistinct, hBelow⟩
      have hRest : after.connQueue = queue := by
        rw [hAfter]
      have hOrdered := hSound.ordered
      rw [hQueue, List.pairwise_cons] at hOrdered
      have hCount : after.connCount = pool.connCount := by
        rw [hAfter]
      refine ⟨?_, hCount⟩
      constructor
      · rw [hCount, hSound.counted, hAfter, hQueue]
        dsimp only
        rw [List.length_cons, List.length_cons]
        push_cast
        ring
      · exact hDistinct
      · exact hBelow
      · rw [hRest]
        exact hOrdered.2
      · intro other hOther
        rw [hRest] at hOther
        refine (hSound.past other ?_).trans hNow
        rw [hQueue]
        exact List.mem_cons_of_mem _ hOther

theorem Sound.useConnection
    (hSound : pool.Sound)
    {address : Nat}
    {now : Int}
    (hNow : pool.now ≤ now)
    (hStep : pool.useConnection address now = some after) :
    after.Sound ∧ after.connCount = pool.connCount := by
  unfold ConnectionPool.useConnection at hStep
  split at hStep
  case isFalse => cases hStep
  case isTrue =>
  have hAfter := (Option.some.inj hStep).symm
  have hAddresses : after.addresses = pool.addresses := by
    rw [hAfter]
    unfold addresses
    dsimp only
    congr 2
    rw [List.map_map]
    apply List.map_congr_left
    intro c _
    dsimp only [Function.comp_apply]
    split <;> rfl
  have hNext : pool.nextAddress ≤ after.nextAddress := by
    rw [hAfter]
  rcases hSound.distinct_of_perm
      (hAddresses ▸ List.Perm.refl _) hNext with
    ⟨hDistinct, hBelow⟩
  refine ⟨?_, by rw [hAfter]⟩
  constructor
  · rw [hAfter]
    dsimp only
    rw [List.length_map]
    exact hSound.counted
  · exact hDistinct
  · exact hBelow
  · rw [hAfter]
    exact hSound.ordered
  · rw [hAfter]
    exact fun c hQueued => (hSound.past c hQueued).trans hNow

theorem Sound.release
    (hSound : pool.Sound)
    {address : Nat}
    {now : Int}
    (hNow : pool.now ≤ now)
    (hStep : pool.release address now = some after) :
    after.Sound ∧ after.connCount = pool.connCount := by
  unfold ConnectionPool.release at hStep
  cases hFound :
      pool.lent.find? fun c => c.address = address with
  | none =>
      rw [hFound] at hStep
      cases hStep
  | some c =>
      rw [hFound] at hStep
      have hAfter := (Option.some.inj hStep).symm
      have hLent : c ∈ pool.lent :=
        List.mem_of_find?_eq_some hFound
      have hErased :
          pool.lent.Perm (c :: pool.lent.erase c) :=
        List.perm_cons_erase hLent
      have hPerm : after.addresses.Perm pool.addresses := by
        rw [hAfter]
        unfold addresses
        dsimp only
        rw [List.map_append, List.append_assoc]
        apply List.Perm.append_left
        rw [List.map_singleton, List.singleton_append,
          ← List.cons_append]
        apply List.Perm.append_right
        exact (hErased.map Connection.address).symm
      have hNext : pool.nextAddress ≤ after.nextAddress := by
        rw [hAfter]
      rcases hSound.distinct_of_perm hPerm hNext with
        ⟨hDistinct, hBelow⟩
      have hPushed :=
        hSound.ordered_push hNow
          (c := c.refreshAliveTime now) rfl
      refine ⟨?_, by rw [hAfter]⟩
      constructor
      · have hLength := hErased.length_eq
        rw [hAfter]
        dsimp only
        rw [hSound.counted, hLength, List.length_append,
          List.length_singleton, List.length_cons]
        push_cast
        ring
      · exact hDistinct
      · exact hBelow
      · rw [hAfter]
        exact hPushed.1
      · rw [hAfter]
        exact hPushed.2

/- The attempt of the producer takes a new address, and it
is made below the limit only. -/
theorem Sound.produced
    (hSound : pool.Sound)
    {attempt : Option ConnectResult}
    (hClock :
      ClockAdvances pool (.produceConnection attempt))
    (hStep : pool.produceConnection cfg attempt = some after) :
    after.Sound ∧
      (after.connCount = pool.connCount ∨
        after.connCount = pool.connCount + 1 ∧
          pool.connCount < cfg.maxSize) := by
  unfold ConnectionPool.produceConnection at hStep
  split at hStep
  case isFalse => cases hStep
  case isTrue =>
  split at hStep
  case isFalse hFull =>
    cases attempt with
    | none =>
        rw [← Option.some.inj hStep]
        exact ⟨hSound, Or.inl rfl⟩
    | some result => cases hStep
  case isTrue hRoom =>
    match attempt with
    | none => cases hStep
    | some (.connected now) =>
        have hNow : pool.now ≤ now :=
          (List.pairwise_cons.mp hClock).1 now
            List.mem_cons_self
        rw [← Option.some.inj hStep]
        exact ⟨hSound.pushNew hNow, Or.inr ⟨rfl, hRoom⟩⟩
    | some .failed =>
        have hAfter := (Option.some.inj hStep).symm
        have hPerm :
            after.addresses.Perm
              (pool.nextAddress :: pool.addresses) := by
          rw [hAfter]
          unfold addresses
          dsimp only
          rw [← List.append_assoc, ← List.append_assoc]
          exact List.perm_middle
        have hNew : pool.nextAddress ∉ pool.addresses :=
          fun hUsed => (hSound.below _ hUsed).false
        rw [hAfter] at hPerm ⊢
        refine ⟨?_, Or.inl rfl⟩
        constructor
        · exact hSound.counted
        · rw [hPerm.nodup_iff, List.nodup_cons]
          exact ⟨hNew, hSound.distinct⟩
        · intro address hAddress
          rcases List.mem_cons.mp
              (hPerm.mem_iff.mp hAddress) with
            hHere | hThere
          · rw [hHere]
            exact Nat.lt_succ_self _
          · exact
              Nat.lt_succ_of_lt
                (hSound.below address hThere)
        · exact hSound.ordered
        · exact hSound.past

/- Time goes by. -/
theorem Sound.advance
    (hSound : pool.Sound)
    {now : Int}
    (hNow : pool.now ≤ now) :
    Sound { pool with now := now } where
  counted := hSound.counted
  distinct := hSound.distinct
  below := hSound.below
  ordered := hSound.ordered
  past := fun other hOther =>
    (hSound.past other hOther).trans hNow

/- The first connection of the queue is deleted. -/
theorem Sound.deleteFirst
    (hSound : pool.Sound)
    {c : Connection}
    {queue : List Connection}
    (hQueue : pool.connQueue = c :: queue)
    {now : Int}
    (hNow : pool.now ≤ now) :
    Sound
      { pool with
        connQueue := queue
        connCount := pool.connCount - 1
        deleted := c.address :: pool.deleted
        now := now } := by
  have hPerm :
      (addresses
        { pool with
          connQueue := queue
          connCount := pool.connCount - 1
          deleted := c.address :: pool.deleted
          now := now }).Perm pool.addresses := by
    unfold addresses
    dsimp only
    rw [hQueue, List.map_cons, ← List.append_assoc,
      ← List.append_assoc]
    exact List.perm_middle
  rcases hSound.distinct_of_perm hPerm le_rfl with
    ⟨hDistinct, hBelow⟩
  have hOrdered := hSound.ordered
  rw [hQueue, List.pairwise_cons] at hOrdered
  constructor
  · have hCounted := hSound.counted
    rw [hQueue, List.length_cons] at hCounted
    dsimp only
    rw [hCounted]
    push_cast
    ring
  · exact hDistinct
  · exact hBelow
  · exact hOrdered.2
  · intro other hOther
    refine (hSound.past other ?_).trans hNow
    rw [hQueue]
    exact List.mem_cons_of_mem _ hOther

/- The longer a connection has been idle, the sooner it
expires. -/
theorem expires_of_le
    {now : Int}
    {first second : Connection}
    (hOlder : first.aliveTime ≤ second.aliveTime)
    (hExpires : cfg.expires now second) :
    cfg.expires now first := by
  have hIdle : second.idleTime now ≤ first.idleTime now := by
    unfold Connection.idleTime
    omega
  have hPositive : (0 : Int) < clocksPerSec := by
    decide
  exact hExpires.trans (Int.tdiv_le_tdiv hPositive hIdle)

/- The scanner has nothing left to delete: the pool is down
to its initial size, or nothing in the queue has expired. -/
def Scanned
    (cfg : PoolConfig)
    (pool : ConnectionPool) : Prop :=
  pool.connCount ≤ cfg.initSize ∨
    ∀ c ∈ pool.connQueue, ¬ cfg.expires pool.now c

/- A pass deletes from the front, so it may stop at the first
connection that has not expired. -/
theorem Sound.scanned
    (hSound : pool.Sound)
    {readings : List Int}
    (hClock :
      ClockAdvances pool (.scanIdleConnection readings))
    (hStep :
      scanIdleConnection cfg pool readings = some after) :
    after.Sound ∧
      after.Scanned cfg ∧
        after.connCount ≤ pool.connCount ∧
          (cfg.initSize ≤ pool.connCount →
            cfg.initSize ≤ after.connCount) := by
  induction readings generalizing pool with
  | nil =>
      unfold ConnectionPool.scanIdleConnection at hStep
      split at hStep
      case isTrue => cases hStep
      case isFalse hDone =>
        rw [← Option.some.inj hStep]
        refine ⟨hSound, ?_, le_rfl, id⟩
        by_cases hLeft : cfg.initSize < pool.connCount
        · have hEmpty : pool.connQueue = [] := by
            by_contra hSome
            exact hDone ⟨hLeft, hSome⟩
          refine Or.inr ?_
          rw [hEmpty]
          intro c hQueued
          cases hQueued
        · exact Or.inl (not_lt.mp hLeft)
  | cons now readings ih =>
      rcases List.pairwise_cons.mp hClock with
        ⟨hFirst, hLater⟩
      have hNow : pool.now ≤ now :=
        hFirst now List.mem_cons_self
      unfold ConnectionPool.scanIdleConnection at hStep
      cases hQueue : pool.connQueue with
      | nil =>
          rw [hQueue] at hStep
          cases hStep
      | cons c queue =>
          rw [hQueue] at hStep
          dsimp only at hStep
          split at hStep
          case isFalse => cases hStep
          case isTrue hMore =>
          split at hStep
          case isTrue hExpires =>
            rcases
                ih (hSound.deleteFirst hQueue hNow) hLater
                  hStep with
              ⟨hAfter, hScanned, hUpper, hLower⟩
            refine
              ⟨hAfter, hScanned, ?_, fun _ => hLower ?_⟩
            · exact hUpper.trans (Int.sub_le_self _ (by decide))
            · exact Int.le_sub_one_of_lt hMore
          case isFalse hYoung =>
          split at hStep
          case isFalse => cases hStep
          case isTrue =>
            have hAfter := (Option.some.inj hStep).symm
            rw [← hQueue] at hAfter
            have hOrdered := hSound.ordered
            rw [hQueue, List.pairwise_cons] at hOrdered
            rw [hAfter]
            refine
              ⟨hSound.advance hNow, Or.inr ?_, le_rfl, id⟩
            intro other hOther hExpired
            change other ∈ pool.connQueue at hOther
            rw [hQueue] at hOther
            rcases List.mem_cons.mp hOther with hHere | hThere
            · rw [hHere] at hExpired
              exact hYoung hExpired
            · exact
                hYoung
                  (expires_of_le (hOrdered.1 other hThere)
                    hExpired)

/- Every step keeps the pool sound, and within each limit that
it was within. -/
theorem Sound.step
    (hSound : pool.Sound)
    {label : PoolStep}
    (hClock : ClockAdvances pool label)
    (hStep : ConnectionPool.step cfg pool label = some after) :
    after.Sound ∧
      (cfg.initSize ≤ pool.connCount →
        cfg.initSize ≤ after.connCount) ∧
        (pool.connCount ≤ cfg.maxSize →
          after.connCount ≤ cfg.maxSize) := by
  have hSame :
      after.Sound ∧ after.connCount = pool.connCount →
        after.Sound ∧
          (cfg.initSize ≤ pool.connCount →
            cfg.initSize ≤ after.connCount) ∧
            (pool.connCount ≤ cfg.maxSize →
              after.connCount ≤ cfg.maxSize) := by
    rintro ⟨hAfter, hCount⟩
    rw [hCount]
    exact ⟨hAfter, id, id⟩
  cases label with
  | getConnection ping =>
      exact hSame (hSound.getConnection hClock hStep)
  | timeOut =>
      simp only [ConnectionPool.step, timeOut] at hStep
      split at hStep
      · rw [← Option.some.inj hStep]
        exact ⟨hSound, id, id⟩
      · cases hStep
  | useConnection address now =>
      have hNow : pool.now ≤ now :=
        (List.pairwise_cons.mp hClock).1 now
          List.mem_cons_self
      exact hSame (hSound.useConnection hNow hStep)
  | release address now =>
      have hNow : pool.now ≤ now :=
        (List.pairwise_cons.mp hClock).1 now
          List.mem_cons_self
      exact hSame (hSound.release hNow hStep)
  | produceConnection attempt =>
      rcases hSound.produced hClock hStep with
        ⟨hAfter, hCount | ⟨hMore, hRoom⟩⟩
      · exact hSame ⟨hAfter, hCount⟩
      · exact
          ⟨hAfter, fun hLower => by omega, fun _ => by omega⟩
  | scanIdleConnection readings =>
      rcases hSound.scanned hClock hStep with
        ⟨hAfter, _, hUpper, hLower⟩
      exact ⟨hAfter, hLower, hUpper.trans⟩

/- Every step keeps the pool sound and within its limits. -/
theorem sound_step
    (hSound : pool.Sound)
    (hBounded : pool.Bounded cfg)
    {label : PoolStep}
    (hClock : ClockAdvances pool label)
    (hStep : step cfg pool label = some after) :
    after.Sound ∧ after.Bounded cfg := by
  rcases hSound.step hClock hStep with
    ⟨hAfter, hLower, hUpper⟩
  exact
    ⟨hAfter, hLower hBounded.lower, hUpper hBounded.upper⟩

end Steps

------------------------------------------------------------
-- Runs
------------------------------------------------------------

/- The constructor pushes connections that are younger and
younger. -/
theorem sound_pushAll
    {pool : ConnectionPool}
    (hSound : pool.Sound)
    {readings : List Int}
    (hClock : (pool.now :: readings).Pairwise (· ≤ ·)) :
    (readings.foldl (fun pool now => pool.pushNew now)
        pool).Sound ∧
      (readings.foldl (fun pool now => pool.pushNew now)
          pool).connCount =
        pool.connCount + readings.length := by
  induction readings generalizing pool with
  | nil => exact ⟨hSound, by simp⟩
  | cons now readings ih =>
      rcases List.pairwise_cons.mp hClock with
        ⟨hFirst, hLater⟩
      have hNow : pool.now ≤ now :=
        hFirst now List.mem_cons_self
      rcases ih (hSound.pushNew hNow) hLater with
        ⟨hRest, hCount⟩
      rw [List.foldl_cons]
      refine ⟨hRest, ?_⟩
      rw [hCount, List.length_cons]
      unfold pushNew
      push_cast
      ring

theorem sound_construct
    {start : Int}
    {readings : List Int}
    (hClock : (start :: readings).Pairwise (· ≤ ·)) :
    (construct start readings).Sound ∧
      (construct start readings).connCount =
        readings.length := by
  rcases sound_pushAll (sound_empty start) hClock with
    ⟨hSound, hCount⟩
  refine ⟨hSound, ?_⟩
  unfold construct
  rw [hCount]
  exact zero_add _

/-
  Whatever the users, the producer, and the scanner do in
  whatever order: the pool is sound and within its limits, and
  a pass of the scanner leaves no expired connection behind
  while the pool is above its initial size.
-/
theorem pool_accounting
    {cfg : PoolConfig}
    (hMax : cfg.initSize ≤ cfg.maxSize)
    {start : Int}
    {readings : List Int}
    (hLength : readings.length = cfg.initSize)
    (hClock : (start :: readings).Pairwise (· ≤ ·))
    {labels : List PoolStep}
    {final : ConnectionPool}
    (hRun :
      Transition.Run (step cfg) ClockAdvances
        (construct start readings) labels final) :
    final.Sound ∧
      final.Bounded cfg ∧
        ∀ scanReadings after,
          ClockAdvances final
              (.scanIdleConnection scanReadings) →
            step cfg final
                (.scanIdleConnection scanReadings) =
              some after →
            after.Scanned cfg := by
  rcases sound_construct hClock with ⟨hSound, hCount⟩
  have hStart :
      (construct start readings).Sound ∧
        (construct start readings).Bounded cfg := by
    refine ⟨hSound, ?_, ?_⟩
    · rw [hCount, hLength]
    · rw [hCount, hLength]
      exact hMax
  have hFinal :=
    hRun.invariant
      (fun pool => pool.Sound ∧ pool.Bounded cfg)
      (fun _ _ _ hBefore hAdvances hStep =>
        sound_step hBefore.1 hBefore.2 hAdvances hStep)
      hStart
  refine ⟨hFinal.1, hFinal.2, ?_⟩
  intro scanReadings after hAdvances hStep
  exact (hFinal.1.scanned hAdvances hStep).2.1

------------------------------------------------------------
-- A Pool of Two Connections
------------------------------------------------------------

/- One connection at the start, and at most two. -/
def smallPool : PoolConfig where
  initSize := 1
  maxSize := 2

/- The connection is taken, another one is made and never
used, the first one comes back, and a minute later the
scanner deletes the other one. -/
def busySteps : List PoolStep :=
  [.getConnection .alive,
    .produceConnection (some (.connected 10)),
    .release 0 20, .scanIdleConnection [60000010]]

theorem busyPool_accounting :
    ∃ final,
      Transition.Run (step smallPool) ClockAdvances
          (construct 0 [0]) busySteps final ∧
        final.Sound ∧ final.Bounded smallPool := by
  rcases
      Transition.exists_run_of_execute (step smallPool)
        ClockAdvances (fun pool => pool.connCount = 1)
        (show
          ∃ final ∈
            Transition.execute (step smallPool) ClockAdvances
              (construct 0 [0]) busySteps,
            final.connCount = 1 by decide +kernel) with
    ⟨final, hRun, _⟩
  have hMax : smallPool.initSize ≤ smallPool.maxSize := by
    decide
  have hAccounting :=
    pool_accounting hMax rfl (by decide) hRun
  exact ⟨final, hRun, hAccounting.1, hAccounting.2.1⟩

end ConnectionPool

end ClusterChat
