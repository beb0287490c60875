import ClusterChat.Server.LeftOutIds

/-
  Runs without a connection that has no session.

  As long as the connection sends no frame that acts for a
  user, a run without it goes on for everybody else as the run
  with it, up to the ids of new users: the run without the
  connection is one in which the database leaves out the ids
  of the users registered on it.

  Main declarations:
    * `World.Unnoticed`
    * `World.Similar` and `World.unwinds_similar`
    * `World.without_session`
-/

------------------------------------------------------------
-- Worlds with and without the Connection
------------------------------------------------------------

namespace ClusterChat

open FilteredList

namespace World

variable {env : Externals} {observer : Observer}
variable {conn : ConnId} {before after : World}
variable {label : Label}

/-
  The others take no notice of users with the ids: they use
  none of the names of these users, and read no list of
  friends or members that has one of them.
-/
def Unnoticed
    (env : Externals)
    (conn : ConnId)
    (ids : List Int)
    (world : World)
    (label : Label) : Prop :=
  world.shown conn label ≠ none →
    ∀ performed,
      world.performs label = some performed →
        performed.op.Avoids env ids world.cluster.db

/- The second world is the first one without the
connection. -/
structure Similar
    (conn : ConnId)
    (ids : List Int)
    (high low : World) : Prop where
  noSession : high.NoSession conn
  cluster : Cluster.Unseen conn ids high.cluster low.cluster
  absent : high.cluster.Absent ids
  threads : low.threads = high.threads.filter (foreign conn)
  indifferent :
    ∀ thread ∈ high.threads,
      foreign conn thread = true →
        ChatService.Indifferent ids thread.process

variable {ids : List Int} {high low : World}

/- The threads of the others after a step of the
connection. -/
theorem Similar.own_threads
    (hSimilar : Similar conn ids high low)
    (hThreads :
      after.threads.filter (foreign conn) =
        high.threads.filter (foreign conn)) :
    ∀ thread ∈ after.threads,
      foreign conn thread = true →
        ChatService.Indifferent ids thread.process := by
  intro thread hThread hForeign
  have hMember :
      thread ∈ after.threads.filter (foreign conn) :=
    List.mem_filter.mpr ⟨hThread, hForeign⟩
  rw [hThreads] at hMember
  exact
    hSimilar.indifferent thread
      (List.mem_filter.mp hMember).1 hForeign

/- No entry for one of the ids comes from the connection. -/
theorem absent_own
    {cluster : Cluster}
    (hAbsent : cluster.Absent ids)
    {op : ServerOp}
    (hOwn : op.Own conn)
    (hNoLogin : ∀ userid, op ≠ .insertConn userid conn)
    (node : NodeId) :
    (cluster.answer env node op).2.Absent ids := by
  apply hAbsent.answer
  intro userid _ other hOp
  subst hOp
  have hSame : other = conn := hOwn
  exact hNoLogin userid (by rw [hSame])

/- A step of the connection that registers nobody. -/
theorem Similar.silent
    (hSimilar : Similar conn ids high low)
    (hActs : NeverActs env conn high label)
    (hNobody : high.registers env (.step label) = false)
    (hStep : high.step env observer label = some after)
    (hOwn : high.shown conn label = none) :
    Similar conn ids after low := by
  rcases own_step hSimilar.noSession hActs hStep hOwn with
    ⟨hThreads, hCluster⟩
  have hNoSession :=
    noSession_step hSimilar.noSession hActs hStep
  have hFiltered :
      low.threads = after.threads.filter (foreign conn) := by
    rw [hThreads, hSimilar.threads]
  rcases hCluster with
    hLink | ⟨node, op, hPerforms, hOp, hNoLogin, hAfter⟩
  · refine
      { noSession := hNoSession
        cluster := hSimilar.cluster.link hLink
        absent := ?_
        threads := hFiltered
        indifferent := hSimilar.own_threads hThreads }
    rw [hLink.same]
    exact hSimilar.absent
  · refine
      { noSession := hNoSession
        cluster := ?_
        absent := ?_
        threads := hFiltered
        indifferent := hSimilar.own_threads hThreads }
    · rw [hAfter]
      apply
        hSimilar.cluster.own hOp hNoLogin
          hSimilar.noSession.unmapped
      simpa [registers, hPerforms] using hNobody
    · rw [hAfter]
      exact absent_own hSimilar.absent hOp hNoLogin node

/- A registration on the connection. -/
theorem Similar.ownRegistration
    (hSimilar : Similar conn ids high low)
    (hActs : NeverActs env conn high label)
    (hRegisters : high.registers env (.step label) = true)
    (hId : high.nextId ∈ ids)
    (hStep : high.step env observer label = some after)
    (hOwn : high.shown conn label = none) :
    Similar conn ids after low.leaveOut := by
  rcases own_step hSimilar.noSession hActs hStep hOwn with
    ⟨hThreads, hCluster⟩
  have hNext := (nextId_step hStep).1 hRegisters
  rcases hCluster with
    hLink | ⟨node, op, hPerforms, hOp, hNoLogin, hAfter⟩
  · have hSame : after.nextId = high.nextId := by
      unfold nextId
      rw [hLink.same]
      rfl
    omega
  · refine
      { noSession :=
          noSession_step hSimilar.noSession hActs hStep
        cluster := ?_
        absent := ?_
        threads := ?_
        indifferent := hSimilar.own_threads hThreads }
    · rw [hAfter]
      apply
        hSimilar.cluster.ownRegistration hOp ?_ hId
      simpa [registers, hPerforms] using hRegisters
    · rw [hAfter]
      exact absent_own hSimilar.absent hOp hNoLogin node
    · rw [hThreads]
      exact hSimilar.threads

theorem Similar.busy
    (hSimilar : Similar conn ids high low)
    {source : Source}
    (hSource : source ≠ .connection conn) :
    low.busy source = high.busy source := by
  unfold World.busy
  rw [hSimilar.threads, List.any_filter]
  congr 1
  funext thread
  by_cases hSame : thread.source = source
  · have hForeign : foreign conn thread = true := by
      unfold foreign
      rw [hSame]
      exact decide_eq_true hSource
    rw [hForeign, Bool.true_and]
  · simp [hSame]

theorem Similar.home
    (hSimilar : Similar conn ids high low) :
    low.cluster.home = high.cluster.home := by
  rw [hSimilar.cluster.same]
  rfl

theorem Similar.replies
    (hSimilar : Similar conn ids high low) :
    low.cluster.replies = high.cluster.replies := by
  rw [hSimilar.cluster.same]
  rfl

/- A thread of the others starts in both worlds. -/
theorem Similar.spawn
    (hSimilar : Similar conn ids high low)
    {first second : Cluster}
    {thread : Thread}
    (hAfter :
      NoSession conn
        (World.spawn { high with cluster := first } thread))
    (hCluster : Cluster.Unseen conn ids first second)
    (hAbsent : first.Absent ids)
    (hForeign : foreign conn thread = true)
    (hIndifferent :
      ChatService.Indifferent ids thread.process) :
    Similar conn ids
      (World.spawn { high with cluster := first } thread)
      (World.spawn { low with cluster := second } thread) where
  noSession := hAfter
  cluster := hCluster
  absent := hAbsent
  threads := by
    unfold World.spawn
    dsimp only
    rw [List.filter_append, hSimilar.threads,
      List.filter_cons_of_pos hForeign]
    rfl
  indifferent := by
    intro other hOther hOtherForeign
    rcases List.mem_append.mp hOther with hOld | hNew
    · exact hSimilar.indifferent other hOld hOtherForeign
    · rw [List.mem_singleton.mp hNew]
      exact hIndifferent

/- A new frame on another connection. -/
theorem Similar.frame
    (hSimilar : Similar conn ids high low)
    {other : ConnId}
    (hOther : other ≠ conn)
    {body : String}
    {readings : Readings}
    (hStep :
      high.step env observer (.frame other body readings) =
        some after)
    (hAfter : after.NoSession conn) :
    ∃ next,
      low.step env observer (.frame other body readings) =
          some next ∧
        Similar conn ids after next := by
  have hSource :
      Source.connection other ≠ .connection conn :=
    fun hSame => hOther (Source.connection.inj hSame)
  simp only [step] at hStep ⊢
  rw [hSimilar.cluster.conns other hOther,
    hSimilar.busy hSource]
  split_ifs at hStep with hRefused
  rw [if_neg hRefused]
  refine ⟨_, rfl, ?_⟩
  rw [← Option.some.inj hStep] at hAfter ⊢
  have hThread :
      low.frameThread env other body readings =
        high.frameThread env other body readings := by
    unfold frameThread
    rw [hSimilar.home]
  rw [hThread]
  exact
    hSimilar.spawn hAfter hSimilar.cluster hSimilar.absent
      (decide_eq_true hSource)
      (ChatService.indifferent_onMessage ids env other body
        readings)

/- The closing of another connection. -/
theorem Similar.disconnect
    (hSimilar : Similar conn ids high low)
    {other : ConnId}
    (hOther : other ≠ conn)
    (hStep :
      high.step env observer (.disconnect other) =
        some after)
    (hAfter : after.NoSession conn) :
    ∃ next,
      low.step env observer (.disconnect other) =
          some next ∧
        Similar conn ids after next := by
  have hSource :
      Source.connection other ≠ .connection conn :=
    fun hSame => hOther (Source.connection.inj hSame)
  simp only [step] at hStep ⊢
  rw [hSimilar.cluster.conns other hOther,
    hSimilar.busy hSource]
  split_ifs at hStep with hRefused
  rw [if_neg hRefused]
  refine ⟨_, rfl, ?_⟩
  rw [← Option.some.inj hStep] at hAfter ⊢
  have hThread :
      low.closeThread other = high.closeThread other := by
    unfold closeThread
    rw [hSimilar.home]
  rw [hThread]
  exact
    hSimilar.spawn hAfter
      (hSimilar.cluster.disconnect other) hSimilar.absent
      (decide_eq_true hSource)
      (ChatService.indifferent_onConnection other)

/- A reply is taken off by a subscription. -/
theorem Similar.observe
    (hSimilar : Similar conn ids high low)
    {id : NodeId}
    (hStep :
      high.step env observer (.observe id) = some after)
    (hAfter : after.NoSession conn) :
    ∃ next,
      low.step env observer (.observe id) = some next ∧
        Similar conn ids after next := by
  have hSource :
      Source.subscription id ≠ .connection conn :=
    fun hSame => by cases hSame
  have hReplies :
      ∀ rest,
        Cluster.Unseen conn ids
          { high.cluster with replies := rest }
          { low.cluster with replies := rest } := by
    intro rest
    exact
      hSimilar.cluster.change
        (fun cluster => { cluster with replies := rest })
        fun _ _ _ _ => rfl
  simp only [step] at hStep ⊢
  rw [hSimilar.busy hSource, hSimilar.replies]
  split_ifs at hStep with hBusy
  rw [if_neg hBusy]
  cases hTaken : takeReply id high.cluster.replies with
  | none =>
      rw [hTaken] at hStep
      cases hStep
  | some taken =>
      rcases taken with ⟨reply, rest⟩
      rw [hTaken] at hStep
      dsimp only at hStep ⊢
      cases hRead : observer reply with
      | none =>
          rw [hRead] at hStep
          refine ⟨_, rfl, ?_⟩
          rw [← Option.some.inj hStep] at hAfter ⊢
          exact
            { noSession := hAfter
              cluster := hReplies rest
              absent := hSimilar.absent
              threads := hSimilar.threads
              indifferent := hSimilar.indifferent }
      | some call =>
          rcases call with ⟨userid, msg⟩
          rw [hRead] at hStep
          refine ⟨_, rfl, ?_⟩
          rw [← Option.some.inj hStep] at hAfter ⊢
          exact
            hSimilar.spawn hAfter (hReplies rest)
              hSimilar.absent (decide_eq_true hSource)
              (ChatService.indifferent_handleredissubscribemessage
                userid msg)

/- A thread of the others ends. -/
theorem Similar.finish
    (hSimilar : Similar conn ids high low)
    {index : Nat}
    {thread : Thread}
    (hRunning : high.threads[index]? = some thread)
    (hForeign : foreign conn thread = true)
    (hAfter :
      NoSession conn
        { high with
          threads := high.threads.eraseIdx index }) :
    Similar conn ids
      { high with threads := high.threads.eraseIdx index }
      { low with
        threads :=
          low.threads.eraseIdx
            (position (foreign conn) high.threads index) } where
  noSession := hAfter
  cluster := hSimilar.cluster
  absent := hSimilar.absent
  threads := by
    dsimp only
    rw [hSimilar.threads]
    exact (filter_eraseIdx_position hRunning hForeign).symm
  indifferent := fun other hOther =>
    hSimilar.indifferent other
      (List.mem_of_mem_eraseIdx hOther)

/- A thread of the others performs an operation.  It goes on
in the same way in both worlds. -/
theorem Similar.perform
    (hSimilar : Similar conn ids high low)
    {index : Nat}
    {thread : Thread}
    (hRunning : high.threads[index]? = some thread)
    (hForeign : foreign conn thread = true)
    {op : ServerOp}
    {next : op.Res → Handler Unit}
    (hDue : thread.process = .act op next)
    (hAvoids : op.Avoids env ids high.cluster.db)
    (hOther :
      op.registers env high.cluster.db = true →
        high.nextId ∉ ids)
    (hAfter :
      (high.perform env index thread op next).NoSession
        conn) :
    Similar conn ids
      (high.perform env index thread op next)
      (low.perform env
        (position (foreign conn) high.threads index) thread op
        next) := by
  have hThread :=
    hSimilar.indifferent thread
      (List.mem_of_getElem? hRunning) hForeign
  rw [hDue] at hThread
  rcases hThread with ⟨hSpares, hAlike, hNext⟩
  have hAnswer :=
    hSimilar.cluster.answer thread.node hSpares hAvoids hOther
  have hSpared :=
    Cluster.spared_answer env thread.node hAvoids
      hSimilar.absent
  have hSame := hAlike _ _ hAnswer.1
  refine
    { noSession := hAfter
      cluster := hAnswer.2
      absent := ?_
      threads := ?_
      indifferent := ?_ }
  · apply hSimilar.absent.answer
    intro userid hId other hOp
    subst hOp
    exact hSpares hId
  · unfold World.perform
    dsimp only
    rw [← hSame, hSimilar.threads]
    refine (filter_set_position hRunning hForeign ?_).symm
    exact hForeign
  · intro other hMember hOtherForeign
    rcases mem_threads_perform hMember with hOld | hNew
    · exact hSimilar.indifferent other hOld hOtherForeign
    · rw [hNew]
      exact hNext _ hSpared

/- A thread of the others goes on. -/
theorem Similar.run
    (hSimilar : Similar conn ids high low)
    {index : Nat}
    {thread : Thread}
    (hRunning : high.threads[index]? = some thread)
    (hForeign : foreign conn thread = true)
    (hAvoids :
      ∀ performed,
        high.performs (.run index) = some performed →
          performed.op.Avoids env ids high.cluster.db)
    (hOther :
      high.registers env (.step (.run index)) = true →
        high.nextId ∉ ids)
    (hStep :
      high.step env observer (.run index) = some after)
    (hAfter : after.NoSession conn) :
    ∃ next,
      low.step env observer
            (.run
              (position (foreign conn) high.threads
                index)) =
          some next ∧
        Similar conn ids after next := by
  have hFound :
      low.threads[position (foreign conn) high.threads
            index]? =
        some thread := by
    rw [hSimilar.threads]
    exact getElem?_position hRunning hForeign
  simp only [step] at hStep ⊢
  rw [hRunning] at hStep
  rw [hFound]
  cases hProcess : thread.process with
  | act op next =>
      have hPerforms := performs_of_due hRunning hProcess
      simp only [hProcess] at hStep ⊢
      refine ⟨_, rfl, ?_⟩
      rw [← Option.some.inj hStep] at hAfter ⊢
      apply
        hSimilar.perform hRunning hForeign hProcess
          (hAvoids _ hPerforms) ?_ hAfter
      intro hRegisters
      apply hOther
      unfold registers
      dsimp only
      rw [hPerforms]
      exact hRegisters
  | ret value =>
      simp only [hProcess] at hStep ⊢
      refine ⟨_, rfl, ?_⟩
      rw [← Option.some.inj hStep] at hAfter ⊢
      exact hSimilar.finish hRunning hForeign hAfter
  | throw error =>
      simp only [hProcess] at hStep ⊢
      refine ⟨_, rfl, ?_⟩
      rw [← Option.some.inj hStep] at hAfter ⊢
      exact hSimilar.finish hRunning hForeign hAfter

/- A step of the others can be taken in both worlds. -/
theorem Similar.common
    (hSimilar : Similar conn ids high low)
    (hActs : NeverActs env conn high label)
    (hUnnoticed : Unnoticed env conn ids high label)
    (hOther :
      high.registers env (.step label) = true →
        high.nextId ∉ ids)
    (hStep : high.step env observer label = some after)
    {left : Label}
    (hShown : high.shown conn label = some left) :
    ∃ next,
      low.step env observer left = some next ∧
        Similar conn ids after next := by
  have hAfter :=
    noSession_step hSimilar.noSession hActs hStep
  have hAvoids := hUnnoticed (by rw [hShown]; simp)
  cases label with
  | frame other body readings =>
      simp only [shown] at hShown
      split_ifs at hShown with hSame
      rw [← Option.some.inj hShown]
      exact hSimilar.frame hSame hStep hAfter
  | disconnect other =>
      simp only [shown] at hShown
      split_ifs at hShown with hSame
      rw [← Option.some.inj hShown]
      exact hSimilar.disconnect hSame hStep hAfter
  | observe id =>
      rw [← Option.some.inj hShown]
      exact hSimilar.observe hStep hAfter
  | run index =>
      simp only [shown] at hShown
      cases hRunning : high.threads[index]? with
      | none =>
          simp only [step] at hStep
          rw [hRunning] at hStep
          cases hStep
      | some thread =>
          rw [hRunning] at hShown
          dsimp only at hShown
          split_ifs at hShown with hForeign
          rw [← Option.some.inj hShown]
          exact
            hSimilar.run hRunning hForeign hAvoids hOther
              hStep hAfter
  | environment event =>
      rw [← Option.some.inj hShown]
      simp only [step] at hStep ⊢
      refine ⟨_, rfl, ?_⟩
      rw [← Option.some.inj hStep] at hAfter ⊢
      refine
        { noSession := hAfter
          cluster :=
            hSimilar.cluster.change
              (fun cluster => cluster.environment event)
              (environment_overlay event)
          absent := ?_
          threads := hSimilar.threads
          indifferent := hSimilar.indifferent }
      intro userid hId node
      rw [connOf_environment]
      exact hSimilar.absent userid hId node

/- The database leaves out an id in both worlds. -/
theorem Similar.leaveOut
    (hSimilar : Similar conn ids high low) :
    Similar conn ids high.leaveOut low.leaveOut where
  noSession :=
    ⟨hSimilar.noSession.unmapped, hSimilar.noSession.threads⟩
  cluster := hSimilar.cluster.leaveOut
  absent := hSimilar.absent
  threads := hSimilar.threads
  indifferent := hSimilar.indifferent

/-
  The ids are those of the users registered on the connection,
  so a registration takes one of them exactly when it is one
  of the connection.
-/
theorem unwinds_similar :
    Transition.Unwinds (stepWithGaps env observer)
      (fun world label =>
        GapLabel.Meets
            (fun world label =>
              NeverActs env conn world label ∧
                Unnoticed env conn ids world label)
            world label ∧
          (world.registers env label = true →
            (world.nextId ∈ ids ↔
              world.registersOn env conn label = true)))
      (shownWithGaps env conn) (Similar conn ids) where
  silent := by
    intro high low label after hSimilar hMeets hStep hSilent
    cases label with
    | leaveOut => cases hSilent
    | step label =>
        rcases hMeets with ⟨⟨hActs, _⟩, _⟩
        simp only [shownWithGaps] at hSilent
        cases hShown : high.shown conn label with
        | some left => simp [hShown] at hSilent
        | none =>
            rw [hShown] at hSilent
            dsimp only at hSilent
            split_ifs at hSilent with hRegisters
            exact
              hSimilar.silent hActs
                (Bool.not_eq_true _ ▸ hRegisters) hStep
                hShown
  common := by
    intro high low label after left hSimilar hMeets hStep
      hLeft
    cases label with
    | leaveOut =>
        rw [← Option.some.inj hLeft, ← Option.some.inj hStep]
        exact ⟨low.leaveOut, rfl, hSimilar.leaveOut⟩
    | step label =>
        rcases hMeets with ⟨⟨hActs, hUnnoticed⟩, hIds⟩
        simp only [shownWithGaps] at hLeft
        cases hShown : high.shown conn label with
        | some moved =>
            rw [hShown] at hLeft
            rw [← Option.some.inj hLeft]
            apply
              hSimilar.common hActs hUnnoticed ?_ hStep
                hShown
            intro hRegisters hId
            have hOwn := (hIds hRegisters).mp hId
            simp [registersOn, hShown] at hOwn
        | none =>
            rw [hShown] at hLeft
            dsimp only at hLeft
            split_ifs at hLeft with hRegisters
            rw [← Option.some.inj hLeft]
            have hOwn :
                high.registersOn env conn (.step label) =
                  true := by
              simp [registersOn, hShown, hRegisters]
            exact
              ⟨low.leaveOut, rfl,
                hSimilar.ownRegistration hActs hRegisters
                  ((hIds hRegisters).mpr hOwn) hStep hShown⟩

------------------------------------------------------------
-- A Connection without a Session
------------------------------------------------------------

/- The connection has sent nothing yet, and is in no map. -/
structure Fresh
    (conn : ConnId)
    (world : World) : Prop where
  unmapped : world.cluster.Unmapped conn
  threads :
    ∀ thread ∈ world.threads,
      thread.source ≠ .connection conn

/- No handler is running, and the maps have users of the
table. -/
structure Started (world : World) : Prop where
  threads : world.threads = []
  known :
    ∀ id userid conn,
      world.cluster.connOf id userid = some conn →
        world.cluster.db.users.Has userid

theorem Fresh.noSession
    {world : World}
    (hFresh : world.Fresh conn) :
    world.NoSession conn where
  unmapped := hFresh.unmapped
  threads := fun thread hThread hSource =>
    absurd hSource (hFresh.threads thread hThread)

theorem Fresh.similar
    {world : World}
    (hFresh : world.Fresh conn)
    (hStarted : world.Started)
    (hNew :
      ∀ userid ∈ ids, ¬ world.cluster.db.users.Has userid) :
    Similar conn ids world world where
  noSession := hFresh.noSession
  cluster := Cluster.unseen_refl hNew
  absent := by
    intro userid hId node
    rw [Option.eq_none_iff_forall_ne_some]
    intro other hConn
    exact
      hNew userid hId (hStarted.known node userid other hConn)
  threads := by
    rw [hStarted.threads]
    rfl
  indifferent := by
    intro thread hThread
    rw [hStarted.threads] at hThread
    cases hThread

/- The ids registered on the connection are new. -/
theorem not_has_of_registeredOn
    {meets : World → GapLabel → Prop}
    {start final : World}
    {labels : List GapLabel}
    (hRun :
      Transition.Run (stepWithGaps env observer) meets start
        labels final)
    {userid : Int}
    (hId :
      userid ∈ registeredOn env observer conn start labels) :
    ¬ start.cluster.db.users.Has userid := by
  have hFresh :=
    takesNames.fresh registers_of_registersOn hRun hId
  rintro ⟨user, hMember, hSame⟩
  have hBelow := start.cluster.db.users.below user hMember
  have hFrom : start.nextId ≤ userid := hFresh.1
  unfold nextId at hFrom
  omega

/- A registration is one of the connection exactly when the
id is one of those. -/
theorem registeredOn_exact
    (conn : ConnId)
    {meets : World → GapLabel → Prop}
    {start final : World}
    {labels : List GapLabel}
    (hRun :
      Transition.Run (stepWithGaps env observer) meets start
        labels final) :
    Transition.Run (stepWithGaps env observer)
      (fun world label =>
        meets world label ∧
          (world.registers env label = true →
            (world.nextId ∈
                registeredOn env observer conn start labels ↔
              world.registersOn env conn label = true)))
      start labels final :=
  takesNames.exact registers_of_registersOn hRun

/-
  A connection on which no login succeeds, in any order of the
  steps of all handlers.

  As long as it sends no frame that acts for a user, its steps
  give it answers and register users, and change nothing else.
  The run without it goes on for everybody else as the run
  with it, where the database leaves out the ids of the users
  registered on it, as long as nobody uses one of their names
  or reads a list that has one of them.  A frame that acts for
  a user does so from whatever connection it comes.
-/
theorem without_session
    (env : Externals)
    (observer : Observer)
    {conn : ConnId}
    {start : World}
    (hFresh : start.Fresh conn) :
    (∀ history middle labels final,
      Transition.Run (step env observer)
          (NeverActs env conn) start history middle →
        Transition.Run (step env observer)
            (fun world label =>
              NeverActs env conn world label ∧
                world.shown conn label = none)
            middle labels final →
          OnlyAnswers conn middle.cluster final.cluster) ∧
    (∀ labels final,
      start.Started →
        Transition.Run (stepWithGaps env observer)
            (GapLabel.Meets fun world label =>
              NeverActs env conn world label ∧
                Unnoticed env conn
                  (registeredOn env observer conn start
                    labels)
                  world label)
            start labels final →
          ∃ rest,
            Transition.Run (stepWithGaps env observer)
                (fun _ _ => True) start
                (Transition.purge (stepWithGaps env observer)
                  (shownWithGaps env conn) start labels)
                rest ∧
              Cluster.Unseen conn
                  (registeredOn env observer conn start
                    labels)
                  final.cluster rest.cluster ∧
                rest.threads =
                  final.threads.filter (foreign conn)) ∧
    (∀ msgid ∈ ChatService.actingTypes,
      ∀ other js readings,
        ChatService.getHandler env msgid conn js readings =
          ChatService.getHandler env msgid other js
            readings) := by
  refine ⟨?_, ?_, ?_⟩
  · intro history middle labels final hHistory hRun
    have hMiddle :=
      hHistory.invariant (NoSession conn)
        (fun _ _ _ hNoSession hActs hStep =>
          noSession_step hNoSession hActs hStep)
        hFresh.noSession
    exact onlyAnswers_run hMiddle hRun
  · intro labels final hStarted hRun
    have hExact := registeredOn_exact conn hRun
    have hSimilar :
        Similar conn
          (registeredOn env observer conn start labels) start
          start :=
      hFresh.similar hStarted fun _ hId =>
        not_has_of_registeredOn hRun hId
    rcases unwinds_similar.run hExact hSimilar with
      ⟨rest, hRest, hAfter⟩
    exact ⟨rest, hRest, hAfter.cluster, hAfter.threads⟩
  · intro msgid hActing other js readings
    exact
      ChatService.getHandler_of_acting hActing env conn other
        js readings

------------------------------------------------------------
-- Acting for Another User
------------------------------------------------------------

/- A request to leave, in the name of user 1. -/
def leaveRequest : JsonObject :=
  [("id", .unsigned 1),
    ("msgid", .unsigned EnMsgType.loginoutMsg.code)]

/- A registration. -/
def regRequest (name : String) : JsonObject :=
  [("msgid", .unsigned EnMsgType.regMsg.code),
    ("name", .string name), ("password", .string "secret")]

/- User 1 makes user 3 a friend. -/
def friendRequest : JsonObject :=
  [("friendid", .unsigned 3), ("id", .unsigned 1),
    ("msgid", .unsigned EnMsgType.addFriendMsg.code)]

def intruderExternals : Externals :=
  sampleExternals
    [.object (sampleLogin "ann"), .object leaveRequest,
      .object (regRequest "cat"), .object (regRequest "dog"),
      .object friendRequest]

/- A frame, and some steps of its handler. -/
def wholeFrame
    (conn : ConnId)
    (request : JsonObject)
    (steps : Nat) : List Label :=
  .frame conn (Json.object request).text sampleReadings ::
    List.replicate steps (.run 0)

theorem settlingStart_fresh : settlingStart.Fresh 5 where
  unmapped := by
    intro id userid hFound
    simp [settlingStart, Cluster.connOf, sampleCluster]
      at hFound
  threads := by
    intro thread hThread
    simp [settlingStart] at hThread

theorem settlingStart_started : settlingStart.Started where
  threads := rfl
  known := by
    intro id userid conn hFound
    simp [settlingStart, Cluster.connOf, sampleCluster]
      at hFound

/- The step meets the first condition. -/
def calm
    (env : Externals)
    (conn : ConnId)
    (world : World)
    (label : Label) : Bool :=
  (match label with
    | .frame _ body _ => !ChatServer.actsForUser env body
    | _ => true) &&
    (world.performs label).all fun performed =>
      match performed.op with
      | .insertConn _ other => decide (other ≠ conn)
      | _ => true

theorem neverActs_of_calm
    {env : Externals}
    {conn : ConnId}
    {world : World}
    {label : Label}
    (hCalm : calm env conn world label = true) :
    NeverActs env conn world label := by
  unfold calm at hCalm
  rw [Bool.and_eq_true] at hCalm
  rcases hCalm with ⟨hFrame, hPerforms⟩
  refine ⟨?_, ?_⟩
  · intro body readings hLabel
    rw [hLabel] at hFrame
    simpa using hFrame
  · intro performed hPerformed userid hOp
    rw [hPerformed] at hPerforms
    simp [hOp] at hPerforms

instance
    (env : Externals)
    (ids : List Int)
    (db : Database)
    (op : ServerOp) :
    Decidable (op.Avoids env ids db) :=
  match op with
  | .insertUser other =>
      inferInstanceAs
        (Decidable
          (∀ user ∈ db.users.rowsOf ids,
            env.collate user.name ≠ env.collate other.name))
  | .queryUserByName name =>
      inferInstanceAs
        (Decidable
          (∀ user ∈ db.users.rowsOf ids,
            env.collate user.name ≠ env.collate name))
  | .queryFriends userid =>
      inferInstanceAs
        (Decidable
          (∀ user ∈ db.users.rowsOf ids,
            (userid, user.id) ∉ db.friends))
  | .queryMembersOf groupid =>
      inferInstanceAs
        (Decidable
          (∀ user ∈ db.users.rowsOf ids,
            ∀ row ∈ db.groupUsers,
              row.groupid = groupid → user.id ≠ row.userid))
  | .findConn _ => .isTrue trivial
  | .findConns _ => .isTrue trivial
  | .findAndSend _ _ => .isTrue trivial
  | .insertConn _ _ => .isTrue trivial
  | .eraseConn _ => .isTrue trivial
  | .eraseConnOf _ => .isTrue trivial
  | .send _ _ => .isTrue trivial
  | .shutdown _ => .isTrue trivial
  | .incrSeq _ => .isTrue trivial
  | .publish _ _ => .isTrue trivial
  | .subscribe _ => .isTrue trivial
  | .unsubscribe _ => .isTrue trivial
  | .queryUser _ => .isTrue trivial
  | .updateState _ _ => .isTrue trivial
  | .resetState => .isTrue trivial
  | .insertOffline _ _ => .isTrue trivial
  | .removeOffline _ => .isTrue trivial
  | .queryOffline _ => .isTrue trivial
  | .insertFriend _ _ => .isTrue trivial
  | .createGroupWithCreator _ _ _ => .isTrue trivial
  | .addGroup _ _ _ => .isTrue trivial
  | .queryGroupsOf _ => .isTrue trivial
  | .queryGroupUsers _ _ => .isTrue trivial

/- The step meets the second condition. -/
def distant
    (env : Externals)
    (conn : ConnId)
    (ids : List Int)
    (world : World)
    (label : Label) : Bool :=
  (world.shown conn label).isNone ||
    (world.performs label).all fun performed =>
      decide (performed.op.Avoids env ids world.cluster.db)

theorem unnoticed_of_distant
    {env : Externals}
    {conn : ConnId}
    {ids : List Int}
    {world : World}
    {label : Label}
    (hDistant : distant env conn ids world label = true) :
    Unnoticed env conn ids world label := by
  intro hShown performed hPerformed
  unfold distant at hDistant
  rw [Bool.or_eq_true] at hDistant
  rcases hDistant with hNone | hAvoids
  · exact absurd (Option.isNone_iff_eq_none.mp hNone) hShown
  · rw [hPerformed] at hAvoids
    exact of_decide_eq_true hAvoids

/- Connection 5 registers a user while connection 6 is about
to register one. -/
def catAndDog : List GapLabel :=
  [.step
      (.frame 6 (Json.object (regRequest "dog")).text
        sampleReadings),
    .step
      (.frame 5 (Json.object (regRequest "cat")).text
        sampleReadings),
    .step (.run 1), .step (.run 0), .step (.run 1),
    .step (.run 0)]

/- Connection 6 was answered with the text only. -/
def Answered
    (id : Option Int)
    (world : World) : Prop :=
  world.cluster.wire 6 =
    [(Json.object (ChatService.regAnswer id)).text]

instance (id : Option Int) : DecidablePred (Answered id) :=
  fun _ => inferInstanceAs (Decidable (_ = _))

/- The conditions of both parts, for a step. -/
def careful
    (ids : List Int)
    (world : World) : GapLabel → Bool
| .step label =>
    calm intruderExternals 5 world label &&
      distant intruderExternals 5 ids world label
| .leaveOut => true

theorem meets_of_careful
    {ids : List Int}
    {world : World}
    {label : GapLabel}
    (hCareful : careful ids world label = true) :
    GapLabel.Meets
      (fun world label =>
        NeverActs intruderExternals 5 world label ∧
          Unnoticed intruderExternals 5 ids world label)
      world label := by
  cases label with
  | leaveOut => trivial
  | step label =>
      unfold careful at hCareful
      rw [Bool.and_eq_true] at hCareful
      exact
        ⟨neverActs_of_calm hCareful.1,
          unnoticed_of_distant hCareful.2⟩

/- The user of connection 6 has id 4 in both runs. -/
theorem catAndDog_apart :
    settlingStart.Fresh 5 ∧ settlingStart.Started ∧
      registeredOn intruderExternals Redis.observe 5
          settlingStart catAndDog =
        [3] ∧
      ∃ final rest,
        Transition.Run
            (stepWithGaps intruderExternals Redis.observe)
            (GapLabel.Meets fun world label =>
              NeverActs intruderExternals 5 world label ∧
                Unnoticed intruderExternals 5
                  (registeredOn intruderExternals
                    Redis.observe 5 settlingStart catAndDog)
                  world label)
            settlingStart catAndDog final ∧
          Answered (some 4) final ∧
            Transition.Run
                (stepWithGaps intruderExternals
                  Redis.observe)
                (fun _ _ => True) settlingStart
                (Transition.purge
                  (stepWithGaps intruderExternals
                    Redis.observe)
                  (shownWithGaps intruderExternals 5)
                  settlingStart catAndDog)
                rest ∧
              Answered (some 4) rest := by
  refine
    ⟨settlingStart_fresh, settlingStart_started,
      by decide +kernel, ?_⟩
  have hExecuted :=
    Transition.exists_run_of_execute
      (stepWithGaps intruderExternals Redis.observe)
      (fun world label =>
        careful
          (registeredOn intruderExternals Redis.observe 5
            settlingStart catAndDog)
          world label =
          true)
      (Answered (some 4))
      (show
        ∃ final ∈
          Transition.execute
            (stepWithGaps intruderExternals Redis.observe)
            (fun world label =>
              careful
                (registeredOn intruderExternals Redis.observe
                  5 settlingStart catAndDog)
                world label =
                true)
            settlingStart catAndDog,
          Answered (some 4) final by decide +kernel)
  rcases hExecuted with ⟨final, hFinal, hAnswered⟩
  have hRun :=
    hFinal.mono fun _ _ hCareful => meets_of_careful hCareful
  rcases
    (without_session intruderExternals Redis.observe
      settlingStart_fresh).2.1 catAndDog final
      settlingStart_started hRun with
    ⟨rest, hRest, hUnseen, _⟩
  refine ⟨final, rest, hRun, hAnswered, hRest, ?_⟩
  unfold Answered
  rw [hUnseen.wire 6 (by decide)]
  exact hAnswered

/- A login has entered the connection in the map. -/
def LoggedInOn
    (conn : ConnId)
    (world : World) : Prop :=
  (world.log.any fun performed =>
    match performed.op with
    | .insertConn _ other => decide (other = conn)
    | _ => false) = true

/- User 1 is in the map with connection 6, and online. -/
def AnnIsThere (world : World) : Prop :=
  world.cluster.connOf 1 1 = some 6 ∧
    (world.cluster.db.users.query 1).state = .online

/- The same user after a request on connection 5, on which
nobody has logged in. -/
def AnnIsGone (world : World) : Prop :=
  ¬ LoggedInOn 5 world ∧
    world.cluster.connOf 1 1 = none ∧
      (world.cluster.db.users.query 1).state = .offline

instance (conn : ConnId) : DecidablePred (LoggedInOn conn) :=
  fun _ => inferInstanceAs (Decidable (_ = true))

instance : DecidablePred AnnIsThere :=
  fun _ => inferInstanceAs (Decidable (_ ∧ _))

instance : DecidablePred AnnIsGone :=
  fun _ => inferInstanceAs (Decidable (¬ _ ∧ _ ∧ _))

/- The run is possible and ends in such a world. -/
def Reaches
    (labels : List Label)
    (Reached : World → Prop) : Prop :=
  ∃ final,
    Transition.Run (step intruderExternals Redis.observe)
        (fun _ _ => True) settlingStart labels final ∧
      Reached final

theorem reaches_of_execute
    {labels : List Label}
    {Reached : World → Prop}
    (hExecute :
      ∃ final ∈
        Transition.execute
          (step intruderExternals Redis.observe)
          (fun _ _ => True) settlingStart labels,
        Reached final) :
    Reaches labels Reached :=
  Transition.exists_run_of_execute
    (step intruderExternals Redis.observe) (fun _ _ => True)
    Reached hExecute

/- The answer to a login on connection 6. -/
def LoginAnswered
    (friends : JsonObject)
    (world : World) : Prop :=
  world.cluster.wire 6 =
    [(Json.object
      (("errno", .integer 0) :: friends ++
        [("id", .integer 1),
          ("msgid", .integer EnMsgType.loginAckMsg.code),
          ("name", .string "ann")])).text]

instance (friends : JsonObject) :
    DecidablePred (LoginAnswered friends) :=
  fun _ => inferInstanceAs (Decidable (_ = _))

/-
  Connection 5 never logs in.  Its request logs user 1 out,
  who is on connection 6.  Its registration makes the same one
  on connection 6 fail, and adds a friend to the answer of a
  login on connection 6.
-/
theorem acts_for_another_user :
    Reaches (wholeLogin 6 0) AnnIsThere ∧
      Reaches (wholeLogin 6 0 ++ wholeFrame 5 leaveRequest 4)
        AnnIsGone ∧
      Reaches (wholeFrame 6 (regRequest "cat") 3)
        (Answered (some 3)) ∧
      Reaches
        (wholeFrame 5 (regRequest "cat") 3 ++
          wholeFrame 6 (regRequest "cat") 3)
        (Answered none) ∧
      Reaches
        (wholeFrame 6 friendRequest 2 ++ wholeLogin 6 0)
        (LoginAnswered []) ∧
      Reaches
        (wholeFrame 6 friendRequest 2 ++
          wholeFrame 5 (regRequest "cat") 3 ++
            wholeLogin 6 0)
        (LoginAnswered
          [("friends",
            .array
              [.string
                (ChatService.friendText intruderExternals
                  { id := 3, name := "cat" })])]) := by
  refine ⟨?_, ?_, ?_, ?_, ?_, ?_⟩
  · apply reaches_of_execute
    decide +kernel
  · apply reaches_of_execute
    decide +kernel
  · apply reaches_of_execute
    decide +kernel
  · apply reaches_of_execute
    decide +kernel
  · apply reaches_of_execute
    decide +kernel
  · apply reaches_of_execute
    decide +kernel

end World

end ClusterChat
