import ClusterChat.Server.LoginProgress

/-
  The loops of the network library and the handlers that they
  run.

  Main declarations:
    * `Sending.RunsIn` and `Sending.Closed`
    * `Sending.closed_of_advance`
    * `Sending.Sound` and `Sending.sound_step`
-/

------------------------------------------------------------
-- Loops and Their Handlers
------------------------------------------------------------

namespace ClusterChat

namespace Sending

variable {env : Externals} {observer : Observer}
variable {loopOf : ConnId → Nat} {conn : ConnId}
variable {before after : Sending}

/- The handler with the ticket runs in the loop. -/
def RunsIn
    (loopOf : ConnId → Nat)
    (loop : Nat)
    (history : History)
    (ticket : Nat) : Prop :=
  ∃ origin ∈ history.started[ticket]?,
    origin.source.inLoop loopOf loop = true

/- Nothing is written to the connection any more. -/
def Closed
    (conn : ConnId)
    (sending : Sending) : Prop :=
  sending.history.world.cluster.conns conn ≠ .connected ∧
    (sending.history.world.cluster.conns conn =
        .disconnected ∨
      ∀ entry ∈ sending.queued, entry.1 ≠ conn)

/- A loop with a handler is busy. -/
theorem busy_of_runsIn
    (hTraced : before.history.Traced env)
    {loop ticket : Nat}
    (hTicket : ticket ∈ before.history.tickets)
    (hRuns : RunsIn loopOf loop before.history ticket) :
    before.busy loopOf loop = true := by
  rcases hRuns with ⟨origin, hOrigin, hLoop⟩
  rcases List.mem_iff_getElem?.mp hTicket with
    ⟨index, hIndex⟩
  have hBound := (List.getElem?_eq_some_iff.mp hIndex).1
  have hAligned : before.history.tickets.length = _ :=
    hTraced.aligned
  rw [hAligned] at hBound
  have hRunning := List.getElem?_eq_getElem hBound
  rcases hTraced.running index _ ticket hRunning hIndex with
    ⟨other, hOther, _, hSource, _⟩
  have hSame : origin = other :=
    Option.some.inj (hOrigin.symm.trans hOther)
  rw [hSame, ← hSource] at hLoop
  exact
    List.any_eq_true.mpr
      ⟨_, List.mem_of_getElem? hRunning, hLoop⟩

/- A new handler finds its loop idle. -/
theorem idle_of_spawns
    {label : Label}
    {cluster : Cluster}
    {thread : Thread}
    (hAllowed : before.Allows loopOf label)
    (hSpawns :
      History.Spawns env observer before.history.world label
        cluster thread)
    {loop : Nat}
    (hLoop : thread.source.inLoop loopOf loop = true) :
    before.busy loopOf loop = false := by
  cases hSpawns with
  | frame other body readings serving idle =>
      have hSame : loopOf other = loop :=
        of_decide_eq_true hLoop
      rw [← hSame]
      exact hAllowed.1
  | disconnect other serving idle =>
      have hSame : loopOf other = loop :=
        of_decide_eq_true hLoop
      rw [← hSame]
      exact hAllowed
  | notify id idle found read => cases hLoop

/- The started handlers stay what they are. -/
theorem started_spawn
    {history : History}
    {cluster : Cluster}
    {thread : Thread}
    {ticket : Nat}
    (hTicket : ticket < history.started.length) :
    (history.spawn cluster thread).started[ticket]? =
      history.started[ticket]? :=
  List.getElem?_append_left hTicket

theorem started_spawn_self
    (history : History)
    (cluster : Cluster)
    (thread : Thread) :
    (history.spawn cluster
        thread).started[history.started.length]? =
      some thread :=
  List.getElem?_concat_length

/- What a handler does concerns where its events come from. -/
theorem concerns_of_running
    {history : History}
    (hTraced : history.Traced env)
    (hHandles : history.AllHandle env)
    {index ticket : Nat}
    {thread : Thread}
    {op : ServerOp}
    {next : op.Res → Handler Unit}
    (hRunning : history.world.threads[index]? = some thread)
    (hHeld : history.tickets[index]? = some ticket)
    (hActs : thread.process = .act op next) :
    ∃ origin,
      history.started[ticket]? = some origin ∧
        thread.source = origin.source ∧
          op.Concerns origin.source := by
  rcases hTraced.running index thread ticket hRunning hHeld
    with ⟨origin, hOrigin, _, hSource, hTrace⟩
  have hConcerns :=
    (hHandles origin (List.mem_of_getElem? hOrigin)).concerns
  have hRest := (Process.allowed_of_trace hTrace hConcerns).2
  rw [hActs] at hRest
  exact ⟨origin, hOrigin, hSource, hRest.1⟩

/- A connection that is closed stays so. -/
theorem closed_of_advance
    {label : LoopLabel}
    (hAdvance :
      Advance env observer loopOf before label after)
    (hClosed : before.Closed conn) :
    after.Closed conn := by
  rcases hClosed with ⟨hDown, hQueue⟩
  cases hAdvance with
  | @spawn _ cluster thread allowed spawns =>
      rcases History.conns_of_spawns spawns conn with
        hSame | ⟨_, hGone⟩
      · have hConns :
            (before.history.spawn cluster
                thread).world.cluster.conns conn =
              before.history.world.cluster.conns conn :=
          hSame
        unfold Closed
        rw [hConns]
        exact ⟨hDown, hQueue⟩
      · have hConns :
            (before.history.spawn cluster
                thread).world.cluster.conns conn =
              .disconnected := hGone
        unfold Closed
        rw [hConns]
        exact ⟨by simp, Or.inl rfl⟩
  | @pass _ cluster passes =>
      have hConns :
          (before.history.pass cluster).world.cluster.conns =
            before.history.world.cluster.conns :=
        (History.sameLinks_of_passes passes).conns
      unfold Closed
      rw [hConns]
      exact ⟨hDown, hQueue⟩
  | finish index => exact ⟨hDown, hQueue⟩
  | @perform index ticket thread op next running held acts =>
      have hConns :
          (before.perform env loopOf index ticket thread op
              next).history.world.cluster.conns conn =
            before.history.world.cluster.conns conn := by
        unfold perform
        rw [history_send]
        rcases
            Cluster.conns_answer env thread.node op
              before.history.world.cluster conn with
          hSame | ⟨_, hUp⟩
        · exact hSame
        · exact absurd hUp hDown
      unfold Closed
      rw [hConns]
      refine ⟨hDown, hQueue.imp_right ?_⟩
      intro hNothing entry hEntry
      unfold perform at hEntry
      rcases
          send_cases loopOf
            { history :=
                before.history.perform env index ticket
                  thread op next
              queued := before.queued
              moments :=
                before.moments ++
                  [.performed
                    (before.due ticket thread op)] }
            thread.source (before.due ticket thread op) with
        ⟨_, hSame⟩ |
          ⟨other, hReceiver, ⟨_, hSame⟩ | ⟨_, hSame⟩⟩
      · rw [hSame] at hEntry
        exact hNothing entry hEntry
      · rw [hSame] at hEntry
        exact hNothing entry hEntry
      · rw [hSame] at hEntry
        rcases List.mem_append.mp hEntry with hOld | hNew
        · exact hNothing entry hOld
        · rw [List.mem_singleton.mp hNew]
          intro hOther
          apply hDown
          rw [← hOther]
          exact Performed.connected_of_receiver hReceiver
  | sendInLoop index found idle up =>
      refine ⟨hDown, hQueue.imp_right ?_⟩
      intro hNothing entry hEntry
      exact hNothing entry (List.mem_of_mem_eraseIdx hEntry)
  | giveUp index =>
      refine ⟨hDown, hQueue.imp_right ?_⟩
      intro hNothing entry hEntry
      exact hNothing entry (List.mem_of_mem_eraseIdx hEntry)

/- The connection that the handler reads is up, or closed, or
the handler has shut it down itself. -/
def Reads
    (sending : Sending)
    (conn : ConnId)
    (ticket : Nat) : Prop :=
  sending.history.world.cluster.conns conn = .connected ∨
    sending.Closed conn ∨
      ∃ event ∈ sending.history.events,
        event.ticket = ticket ∧ event.op = .shutdown conn

/- Only for a connection that is up there is something to
show. -/
theorem Reads.kept
    {ticket : Nat}
    (hReads : before.Reads conn ticket)
    (hUp :
      before.history.world.cluster.conns conn = .connected →
        after.Reads conn ticket)
    (hClosed : before.Closed conn → after.Closed conn)
    (hEvents :
      ∀ event ∈ before.history.events,
        event ∈ after.history.events) :
    after.Reads conn ticket := by
  rcases hReads with hWasUp | hDown | ⟨event, hEvent, hShut⟩
  · exact hUp hWasUp
  · exact Or.inr (Or.inl (hClosed hDown))
  · exact Or.inr (Or.inr ⟨event, hEvents event hEvent, hShut⟩)

/-
  What is known in every run: a loop has one handler at most,
  and the handler of a frame reads its connection.
-/
structure Sound
    (env : Externals)
    (loopOf : ConnId → Nat)
    (sending : Sending) : Prop where
  recorded : sending.history.Recorded env
  events :
    sending.moments.filterMap Moment.event? =
      sending.history.events
  alone :
    ∀ first ∈ sending.history.tickets,
      ∀ second ∈ sending.history.tickets,
        ∀ loop,
          RunsIn loopOf loop sending.history first →
            RunsIn loopOf loop sending.history second →
              first = second
  reading :
    ∀ ticket ∈ sending.history.tickets,
      ∀ origin ∈ sending.history.started[ticket]?,
        ∀ conn,
          origin.source = .connection conn →
            sending.Reads conn ticket

theorem sound_begin
    {start : World}
    (hStart : start.threads = []) :
    (begin start).Sound env loopOf where
  recorded := History.recorded_begin hStart
  events := rfl
  alone := by simp [begin, History.begin, hStart]
  reading := by simp [begin, History.begin, hStart]

theorem recorded_of_step
    {label : LoopLabel}
    (hBefore : before.history.Recorded env)
    (hStep :
      before.step env observer loopOf label = some after) :
    after.history.Recorded env := by
  rcases history_of_step hStep with
    ⟨served, hServed⟩ | hSame
  · exact History.recorded_step hBefore hServed
  · rw [hSame]
    exact hBefore

/- A handler that acts adds its operation to the moments, and
it may write at once. -/
theorem moments_perform
    (before : Sending)
    (index ticket : Nat)
    (thread : Thread)
    (op : ServerOp)
    (next : op.Res → Handler Unit) :
    ∃ written : List Moment,
      (before.perform env loopOf index ticket thread op
          next).moments =
        before.moments ++
          .performed (before.due ticket thread op) ::
            written ∧
      ((written = [] ∧
          ∀ conn,
            (before.due ticket thread op).receiver =
                some conn →
              thread.source.inLoop loopOf (loopOf conn) =
                false) ∨
        ∃ conn,
          written =
              [.written conn (before.due ticket thread op)] ∧
            (before.due ticket thread op).receiver =
                some conn ∧
              thread.source.inLoop loopOf (loopOf conn) =
                true) := by
  unfold perform
  rcases
      send_cases loopOf
        { history :=
            before.history.perform env index ticket thread op
              next
          queued := before.queued
          moments :=
            before.moments ++
              [.performed (before.due ticket thread op)] }
        thread.source (before.due ticket thread op) with
    ⟨hNone, hSame⟩ |
      ⟨conn, hReceiver, ⟨hLoop, hSame⟩ | ⟨hLoop, hSame⟩⟩
  · rw [hSame]
    refine ⟨[], rfl, Or.inl ⟨rfl, ?_⟩⟩
    intro conn hReceiver
    rw [hNone] at hReceiver
    cases hReceiver
  · rw [hSame]
    refine ⟨_, ?_, Or.inr ⟨conn, rfl, hReceiver, hLoop⟩⟩
    dsimp only
    rw [List.append_assoc, List.singleton_append]
  · rw [hSame]
    refine ⟨[], rfl, Or.inl ⟨rfl, ?_⟩⟩
    intro other hOther
    rw [hReceiver] at hOther
    rw [← Option.some.inj hOther]
    exact hLoop

theorem events_perform
    (before : Sending)
    (index ticket : Nat)
    (thread : Thread)
    (op : ServerOp)
    (next : op.Res → Handler Unit) :
    (before.perform env loopOf index ticket thread op
        next).history.events =
      before.history.events ++
        [before.due ticket thread op] := by
  unfold perform
  rw [history_send]
  rfl

/- A handler that is new, or was there. -/
theorem runsIn_spawn
    {history : History}
    {cluster : Cluster}
    {thread : Thread}
    {loop ticket : Nat}
    (hTicket : ticket < history.started.length)
    (hRuns :
      RunsIn loopOf loop (history.spawn cluster thread)
        ticket) :
    RunsIn loopOf loop history ticket := by
  rcases hRuns with ⟨origin, hOrigin, hLoop⟩
  rw [started_spawn hTicket] at hOrigin
  exact ⟨origin, hOrigin, hLoop⟩

theorem runsIn_spawn_self
    {history : History}
    {cluster : Cluster}
    {thread : Thread}
    {loop : Nat}
    (hRuns :
      RunsIn loopOf loop (history.spawn cluster thread)
        history.started.length) :
    thread.source.inLoop loopOf loop = true := by
  rcases hRuns with ⟨origin, hOrigin, hLoop⟩
  rw [started_spawn_self] at hOrigin
  rw [Option.some.inj hOrigin]
  exact hLoop

/- A loop gets a handler only when it has none. -/
theorem alone_spawn
    (hSound : before.Sound env loopOf)
    {label : Label}
    {cluster : Cluster}
    {thread : Thread}
    (hAllowed : before.Allows loopOf label)
    (hSpawns :
      History.Spawns env observer before.history.world label
        cluster thread)
    {first second loop : Nat}
    (hFirst :
      first ∈ (before.history.spawn cluster thread).tickets)
    (hSecond :
      second ∈ (before.history.spawn cluster thread).tickets)
    (hFirstRuns :
      RunsIn loopOf loop
        (before.history.spawn cluster thread) first)
    (hSecondRuns :
      RunsIn loopOf loop
        (before.history.spawn cluster thread) second) :
    first = second := by
  have hTraced := hSound.recorded.traced
  have hNever :
      ∀ ticket ∈ before.history.tickets,
        RunsIn loopOf loop
            (before.history.spawn cluster thread) ticket →
          RunsIn loopOf loop
              (before.history.spawn cluster thread)
              before.history.started.length →
            False := by
    intro ticket hTicket hOld hNew
    have hBusy :=
      busy_of_runsIn hTraced hTicket
        (runsIn_spawn (hTraced.known ticket hTicket) hOld)
    rw [idle_of_spawns hAllowed hSpawns
      (runsIn_spawn_self hNew)] at hBusy
    cases hBusy
  rcases List.mem_append.mp hFirst with hFirst | hFirst
  · rcases List.mem_append.mp hSecond with hSecond | hSecond
    · exact
        hSound.alone first hFirst second hSecond loop
          (runsIn_spawn (hTraced.known first hFirst)
            hFirstRuns)
          (runsIn_spawn (hTraced.known second hSecond)
            hSecondRuns)
    · rw [List.mem_singleton.mp hSecond] at hSecondRuns
      exact
        (hNever first hFirst hFirstRuns hSecondRuns).elim
  · rw [List.mem_singleton.mp hFirst] at hFirstRuns ⊢
    rcases List.mem_append.mp hSecond with hSecond | hSecond
    · exact
        (hNever second hSecond hSecondRuns hFirstRuns).elim
    · exact (List.mem_singleton.mp hSecond).symm

/- A new handler of a connection finds it up, or closed. -/
theorem reading_spawn_self
    {label : Label}
    {cluster : Cluster}
    {thread : Thread}
    (hAllowed : before.Allows loopOf label)
    (hSpawns :
      History.Spawns env observer before.history.world label
        cluster thread)
    (hSource : thread.source = .connection conn) :
    cluster.conns conn = .connected ∨
      Closed conn
        { before with
          history := before.history.spawn cluster thread } := by
  have hConn :
      ∀ other,
        Source.connection other = .connection conn →
          other = conn := fun _ hSame =>
    Source.connection.inj hSame
  cases hSpawns with
  | frame other body readings serving idle =>
      have hSame := hConn other hSource
      rw [hSame] at hAllowed
      by_cases hUp :
          before.history.world.cluster.conns conn = .connected
      · exact Or.inl hUp
      · exact
          Or.inr
            ⟨hUp, Or.inr (hAllowed.2.resolve_left hUp)⟩
  | disconnect other serving idle =>
      have hSame := hConn other hSource
      have hDown :
          (before.history.world.cluster.disconnect
              other).conns conn = .disconnected := by
        rw [hSame]
        simp [Cluster.disconnect]
      refine Or.inr ⟨?_, Or.inl hDown⟩
      intro hUp
      have hBoth := hDown.symm.trans hUp
      cases hBoth
  | notify id idle found read => cases hSource

/- A handler that was there when another one is started. -/
theorem reading_spawn
    (hSound : before.Sound env loopOf)
    {label : Label}
    {cluster : Cluster}
    {thread : Thread}
    (hAllowed : before.Allows loopOf label)
    (hSpawns :
      History.Spawns env observer before.history.world label
        cluster thread)
    {ticket : Nat}
    (hTicket : ticket ∈ before.history.tickets)
    {origin : Thread}
    (hOrigin : before.history.started[ticket]? = some origin)
    (hSource : origin.source = .connection conn)
    (hUp :
      before.history.world.cluster.conns conn = .connected) :
    cluster.conns conn = .connected := by
  rcases History.conns_of_spawns hSpawns conn with
    hSame | ⟨hLabel, _⟩
  · exact hSame.trans hUp
  · have hRuns :
        RunsIn loopOf (loopOf conn) before.history ticket :=
      ⟨origin, hOrigin,
        hSource ▸ Source.inLoop_connection loopOf conn⟩
    have hBusy :=
      busy_of_runsIn hSound.recorded.traced hTicket hRuns
    rw [hLabel] at hAllowed
    have hIdle : before.busy loopOf (loopOf conn) = false :=
      hAllowed
    rw [hIdle] at hBusy
    cases hBusy

/- A connection is shut down by its own handler only. -/
theorem reading_perform
    (hSound : before.Sound env loopOf)
    {index ticket : Nat}
    {thread : Thread}
    {op : ServerOp}
    {next : op.Res → Handler Unit}
    (hRunning :
      before.history.world.threads[index]? = some thread)
    (hHeld : before.history.tickets[index]? = some ticket)
    (hActs : thread.process = .act op next)
    {other : Nat}
    (hOther : other ∈ before.history.tickets)
    {origin : Thread}
    (hOrigin : before.history.started[other]? = some origin)
    (hSource : origin.source = .connection conn)
    (hUp :
      before.history.world.cluster.conns conn = .connected) :
    (before.perform env loopOf index ticket thread op
          next).history.world.cluster.conns conn =
        .connected ∨
      ∃ event ∈
          (before.perform env loopOf index ticket thread op
            next).history.events,
        event.ticket = other ∧ event.op = .shutdown conn := by
  rcases
      Cluster.conns_answer env thread.node op
        before.history.world.cluster conn with
    hSame | ⟨hShutdown, _⟩
  · left
    unfold perform
    rw [history_send]
    exact hSame.trans hUp
  · right
    rcases concerns_of_running hSound.recorded.traced
        hSound.recorded.handles hRunning hHeld hActs with
      ⟨actor, hActor, _, hConcerns⟩
    rw [hShutdown] at hConcerns
    have hLoop := Source.inLoop_connection loopOf conn
    have hTicket : other = ticket := by
      apply
        hSound.alone other hOther ticket
          (List.mem_of_getElem? hHeld) (loopOf conn)
      · exact ⟨origin, hOrigin, hSource ▸ hLoop⟩
      · exact ⟨actor, hActor, hConcerns ▸ hLoop⟩
    refine ⟨before.due ticket thread op, ?_, hTicket.symm, ?_⟩
    · rw [events_perform]
      simp
    · exact hShutdown

theorem Sound.spawn
    (hBefore : before.Sound env loopOf)
    {label : Label}
    {cluster : Cluster}
    {thread : Thread}
    (hAllowed : before.Allows loopOf label)
    (hSpawns :
      History.Spawns env observer before.history.world label
        cluster thread)
    (hAfter :
      after =
        { before with
          history := before.history.spawn cluster thread })
    (hRecorded : after.history.Recorded env)
    (hClosed :
      ∀ {conn : ConnId},
        before.Closed conn → after.Closed conn) :
    after.Sound env loopOf where
  recorded := hRecorded
  events := by
    rw [hAfter]
    exact hBefore.events
  alone := by
    rw [hAfter]
    intro first hFirst second hSecond loop
    exact alone_spawn hBefore hAllowed hSpawns hFirst hSecond
  reading := by
    intro ticket hTicket origin hOrigin conn hSource
    rw [hAfter] at hTicket hOrigin
    rcases List.mem_append.mp hTicket with hOld | hNew
    · have hKnown := hBefore.recorded.traced.known ticket hOld
      dsimp only at hOrigin
      rw [started_spawn hKnown] at hOrigin
      have hReads :=
        hBefore.reading ticket hOld origin hOrigin conn hSource
      refine hReads.kept ?_ hClosed ?_
      · intro hUp
        rw [hAfter]
        exact
          Or.inl
            (reading_spawn hBefore hAllowed hSpawns hOld
              hOrigin hSource hUp)
      · rw [hAfter]
        exact fun _ hEvent => hEvent
    · dsimp only at hOrigin
      rw [List.mem_singleton.mp hNew, started_spawn_self]
        at hOrigin
      rw [← Option.some.inj hOrigin] at hSource
      rw [hAfter]
      rcases reading_spawn_self hAllowed hSpawns hSource with
        hUp | hDown
      · exact Or.inl hUp
      · exact Or.inr (Or.inl hDown)

theorem Sound.perform
    (hBefore : before.Sound env loopOf)
    {index ticket : Nat}
    {thread : Thread}
    {op : ServerOp}
    {next : op.Res → Handler Unit}
    (hRunning :
      before.history.world.threads[index]? = some thread)
    (hHeld : before.history.tickets[index]? = some ticket)
    (hActs : thread.process = .act op next)
    (hAfter :
      after =
        before.perform env loopOf index ticket thread op next)
    (hRecorded : after.history.Recorded env)
    (hClosed :
      ∀ {conn : ConnId},
        before.Closed conn → after.Closed conn) :
    after.Sound env loopOf := by
  have hHistory :
      after.history =
        before.history.perform env index ticket thread op
          next := by
    rw [hAfter]
    unfold Sending.perform
    rw [history_send]
  have hEvents :
      after.history.events =
        before.history.events ++
          [before.due ticket thread op] := by
    rw [hAfter, events_perform]
  refine
    { recorded := hRecorded
      events := ?_
      alone := ?_
      reading := ?_ }
  · rcases
        @moments_perform env loopOf before index ticket thread
          op next with
      ⟨written, hMoments, hWritten⟩
    rw [hEvents, hAfter, hMoments, List.filterMap_append,
      hBefore.events]
    rcases hWritten with ⟨hNone, _⟩ | ⟨other, hOne, _⟩
    · rw [hNone]
      rfl
    · rw [hOne]
      rfl
  · rw [hHistory]
    exact hBefore.alone
  · intro other hOther origin hOrigin conn hSource
    rw [hHistory] at hOther hOrigin
    have hReads :=
      hBefore.reading other hOther origin hOrigin conn hSource
    refine hReads.kept ?_ hClosed ?_
    · intro hUp
      rw [hAfter]
      rcases
          reading_perform hBefore hRunning hHeld hActs hOther
            hOrigin hSource hUp with
        hStill | hShut
      · exact Or.inl hStill
      · exact Or.inr (Or.inr hShut)
    · intro event hEvent
      rw [hEvents]
      exact List.mem_append_left _ hEvent

/- A step that leaves the handlers, what they have done, and
the connections alone. -/
theorem Sound.quiet
    (hBefore : before.Sound env loopOf)
    (hRecorded : after.history.Recorded env)
    (hMoments :
      after.moments.filterMap Moment.event? =
        before.moments.filterMap Moment.event?)
    (hEvents : after.history.events = before.history.events)
    (hStarted : after.history.started = before.history.started)
    (hTickets : after.history.tickets ⊆ before.history.tickets)
    (hConns :
      after.history.world.cluster.conns =
        before.history.world.cluster.conns)
    (hClosed :
      ∀ {conn : ConnId},
        before.Closed conn → after.Closed conn) :
    after.Sound env loopOf where
  recorded := hRecorded
  events := by
    rw [hMoments, hEvents]
    exact hBefore.events
  alone := by
    intro first hFirst second hSecond loop hRuns hOther
    unfold RunsIn at hRuns hOther
    rw [hStarted] at hRuns hOther
    exact
      hBefore.alone first (hTickets hFirst) second
        (hTickets hSecond) loop hRuns hOther
  reading := by
    intro ticket hTicket origin hOrigin conn hSource
    rw [hStarted] at hOrigin
    have hReads :=
      hBefore.reading ticket (hTickets hTicket) origin hOrigin
        conn hSource
    refine hReads.kept ?_ hClosed ?_
    · intro hUp
      exact Or.inl (by rw [hConns]; exact hUp)
    · rw [hEvents]
      exact fun _ hEvent => hEvent

theorem sound_step
    {label : LoopLabel}
    (hBefore : before.Sound env loopOf)
    (hStep :
      before.step env observer loopOf label = some after) :
    after.Sound env loopOf := by
  have hRecorded := recorded_of_step hBefore.recorded hStep
  have hAdvance :=
    advance_of_step hBefore.recorded.traced hStep
  have hClosed :
      ∀ {conn : ConnId},
        before.Closed conn → after.Closed conn :=
    fun hClosed => closed_of_advance hAdvance hClosed
  cases hAdvance with
  | @spawn _ cluster thread allowed spawns =>
      exact
        hBefore.spawn allowed spawns rfl hRecorded hClosed
  | @pass _ cluster passes =>
      exact
        hBefore.quiet hRecorded rfl rfl rfl
          (List.Subset.refl _)
          (History.sameLinks_of_passes passes).conns hClosed
  | finish index =>
      exact
        hBefore.quiet hRecorded rfl rfl rfl
          (List.eraseIdx_subset) rfl hClosed
  | @perform index ticket thread op next running held acts =>
      exact
        hBefore.perform running held acts rfl hRecorded
          hClosed
  | sendInLoop index found idle up =>
      refine
        hBefore.quiet hRecorded ?_ rfl rfl
          (List.Subset.refl _) rfl hClosed
      rw [List.filterMap_append]
      simp [Moment.event?]
  | giveUp index =>
      exact
        hBefore.quiet hRecorded rfl rfl rfl
          (List.Subset.refl _) rfl hClosed

end Sending

end ClusterChat
