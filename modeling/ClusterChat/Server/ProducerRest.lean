import ClusterChat.Server.ConnectionPool

/-
  When the producer of the connection pool has something to
  do.

  Its wait ends when the queue is empty or the pool is full,
  and behind the wait it connects only if the pool is not
  full.  So an iteration without an attempt is an iteration
  that finds the pool full, and a full pool lets through any
  number of them.

  Main declarations:
    * `ConnectionPool.Attempts`
    * `ConnectionPool.attempts_iff`
    * `ConnectionPool.producer_rests_iff`
-/

------------------------------------------------------------
-- One Iteration
------------------------------------------------------------

namespace ClusterChat

namespace ConnectionPool

variable {cfg : PoolConfig} {pool after : ConnectionPool}
variable {attempt : Option ConnectResult}

/- An iteration added a connection to the queue, or tried to
connect and failed. -/
def Attempts
    (pool : ConnectionPool)
    (attempt : Option ConnectResult)
    (after : ConnectionPool) : Prop :=
  (∃ c, after.connQueue = pool.connQueue ++ [c]) ∨
    attempt = some .failed

/- An iteration attempts something exactly if the pool is
not full. -/
theorem attempts_iff
    (hStep : pool.produceConnection cfg attempt = some after) :
    Attempts pool attempt after ↔
      pool.connCount < cfg.maxSize := by
  unfold produceConnection at hStep
  split_ifs at hStep with hWakes hRoom
  · refine iff_of_true ?_ hRoom
    match attempt with
    | none => cases hStep
    | some (.connected now) =>
        rw [← Option.some.inj hStep]
        exact Or.inl ⟨_, rfl⟩
    | some .failed => exact Or.inr rfl
  · refine iff_of_false ?_ hRoom
    cases attempt with
    | some result => cases hStep
    | none =>
        rw [← Option.some.inj hStep]
        rintro (⟨c, hPushed⟩ | hFailed)
        · simp at hPushed
        · cases hFailed

/- A full pool does not keep the producer waiting. -/
theorem produceConnection_of_full
    (hFull : cfg.maxSize ≤ pool.connCount) :
    pool.produceConnection cfg none = some pool := by
  have hWakes : pool.producerWakes cfg = true := by
    simp [producerWakes, hFull]
  unfold produceConnection
  rw [if_pos hWakes, if_neg (not_lt.mpr hFull)]

------------------------------------------------------------
-- Runs
------------------------------------------------------------

/- In a full pool the producer runs through without pause. -/
theorem run_spins
    (hFull : cfg.maxSize ≤ pool.connCount)
    (rounds : Nat) :
    Transition.Run (step cfg) ClockAdvances pool
      (List.replicate rounds (.produceConnection none))
      pool := by
  induction rounds with
  | zero => exact Transition.Run.nil
  | succ rounds ih =>
      rw [List.replicate_succ']
      exact
        Transition.Run.snoc ih
          (List.pairwise_singleton _ pool.now)
          (produceConnection_of_full hFull)

/- A condition on the producer's iterations. -/
def OfProducer
    (Condition :
      ConnectionPool → Option ConnectResult →
        ConnectionPool → Prop)
    (before : ConnectionPool)
    (label : PoolStep)
    (after : ConnectionPool) : Prop :=
  ∀ attempt,
    label = .produceConnection attempt →
      Condition before attempt after

/-
  In a run of the pool, every iteration of the producer makes
  an attempt exactly if none of them finds the pool full.
-/
theorem producer_rests_iff
    (cfg : PoolConfig)
    (start : Int)
    (readings : List Int)
    (labels : List PoolStep) :
    Transition.EveryStep (step cfg) ClockAdvances
        (construct start readings) labels
        (OfProducer Attempts) ↔
      Transition.EveryStep (step cfg) ClockAdvances
        (construct start readings) labels
        (OfProducer fun before _ _ =>
          before.connCount < cfg.maxSize) := by
  apply Transition.everyStep_congr
  intro front before label after _ _ hStep
  constructor
  · intro hAttempts attempt hLabel
    subst hLabel
    exact (attempts_iff hStep).mp (hAttempts attempt rfl)
  · intro hRoom attempt hLabel
    subst hLabel
    exact (attempts_iff hStep).mpr (hRoom attempt rfl)

/- The connection is taken, and the pool of two is full. -/
def fillingSteps : List PoolStep :=
  [.getConnection .alive,
    .produceConnection (some (.connected 10))]

/- In a full pool with a connection in the queue, the
producer goes round any number of times and attempts
nothing. -/
theorem producer_spins :
    ∃ pool,
      pool.connQueue ≠ [] ∧
        (∀ rounds,
          Transition.Run (step smallPool) ClockAdvances
            (construct 0 [0])
            (fillingSteps ++
              List.replicate rounds
                (.produceConnection none))
            pool) ∧
          step smallPool pool (.produceConnection none) =
              some pool ∧
            ¬ Attempts pool none pool := by
  rcases
      Transition.exists_run_of_execute (step smallPool)
        ClockAdvances
        (fun pool =>
          pool.connQueue ≠ [] ∧
            smallPool.maxSize ≤ pool.connCount)
        (show
          ∃ final ∈
            Transition.execute (step smallPool) ClockAdvances
              (construct 0 [0]) fillingSteps,
            final.connQueue ≠ [] ∧
              smallPool.maxSize ≤ final.connCount by
          decide +kernel) with
    ⟨pool, hRun, hQueue, hFull⟩
  have hSpins := produceConnection_of_full hFull
  refine
    ⟨pool, hQueue, fun rounds => ?_, hSpins, ?_⟩
  · exact hRun.append (run_spins hFull rounds)
  · rw [attempts_iff hSpins]
    exact not_lt.mpr hFull

end ConnectionPool

end ClusterChat
