import ClusterChat.Server.IoLoops

/-
  The first frame that a connection carries after a login has
  mapped it.

  A login maps the connection, and several operations later
  it writes its answer there.  In between the connection is
  found by every handler that has something for the user.
  Such a handler runs in another thread than the login, so
  what it sends waits in the queue of the connection's loop
  until the login is through.

  Main declarations:
    * `Sending.Mapped` and `Sending.firstOn`
    * `Sending.Answered` and `Sending.answered_step`
    * `Sending.AnswerFirst` and `Sending.answer_first`
-/

------------------------------------------------------------
-- What Happens After the Mapping
------------------------------------------------------------

namespace ClusterChat

namespace Sending

variable {env : Externals} {observer : Observer}
variable {loopOf : ConnId → Nat} {conn : ConnId}
variable {before after : Sending}

/- An operation has mapped the connection, and this has
happened since. -/
def Mapped
    (conn : ConnId)
    (sending : Sending)
    (mapping : Event)
    (back : List Moment) : Prop :=
  mapping.op.Maps conn ∧
    ∃ front,
      sending.moments = front ++ .performed mapping :: back

/- The first frame that is written to the connection. -/
def firstOn
    (conn : ConnId)
    (moments : List Moment) : Option Event :=
  moments.findSome? (Moment.writtenOn conn)

/- The moments after a mapping when there are more of them. -/
theorem mapped_append
    {fresh back : List Moment}
    {mapping : Event}
    (hMoments : after.moments = before.moments ++ fresh)
    (hMapped : after.Mapped conn mapping back) :
    (∃ rest,
        back = rest ++ fresh ∧
          before.Mapped conn mapping rest) ∨
      ∃ earlier,
        fresh = earlier ++ .performed mapping :: back := by
  rcases hMapped with ⟨hMaps, front, hSplit⟩
  rw [hMoments] at hSplit
  rcases List.append_eq_append_iff.mp hSplit with
    ⟨earlier, _, hFresh⟩ | ⟨rest, hOld, hBack⟩
  · exact Or.inr ⟨earlier, hFresh⟩
  · cases rest with
    | nil => exact Or.inr ⟨[], hBack.symm⟩
    | cons moment rest =>
        rcases List.cons.inj hBack with ⟨hMoment, hRest⟩
        rw [← hMoment] at hOld
        exact Or.inl ⟨rest, hRest, hMaps, front, hOld⟩

/- The operations after a mapping. -/
theorem Mapped.split
    {sending : Sending}
    (hSound : sending.Sound env loopOf)
    {mapping : Event}
    {back : List Moment}
    (hMapped : sending.Mapped conn mapping back) :
    ∃ front,
      sending.history.events =
        front ++
          mapping :: back.filterMap Moment.event? := by
  rcases hMapped.2 with ⟨front, hSplit⟩
  refine ⟨front.filterMap Moment.event?, ?_⟩
  rw [← hSound.events, hSplit, List.filterMap_append]
  rfl

/- A login that is through has answered. -/
theorem acknowledged_of_through
    {history : History}
    (hRecorded : history.Recorded env)
    {front back : List Event}
    {mapping : Event}
    (hSplit : history.events = front ++ mapping :: back)
    (hMaps : mapping.op.Maps conn)
    (hThrough : mapping.ticket ∉ history.inProgress) :
    ∃ event ∈ back,
      event.ticket = mapping.ticket ∧
        event.op.Acknowledges env conn := by
  have hMember : mapping ∈ history.events := by
    rw [hSplit]
    simp
  rcases hRecorded.traced.nodes mapping hMember with
    ⟨origin, hOrigin, _⟩
  rcases hRecorded.gone.ended hRecorded.traced hOrigin
      hThrough with ⟨process, hTrace, hNone⟩
  rcases History.since_mapping hRecorded.handles hSplit hMaps
      hOrigin hTrace with ⟨_, hSome⟩ | ⟨_, hAnswer, _⟩
  · rw [hNone] at hSome
    cases hSome
  · exact hAnswer

/- The login comes from a frame of the connection. -/
theorem source_of_mapping
    {history : History}
    (hRecorded : history.Recorded env)
    {mapping : Event}
    (hMember : mapping ∈ history.events)
    (hMaps : mapping.op.Maps conn) :
    ∃ origin,
      history.started[mapping.ticket]? = some origin ∧
        origin.source = .connection conn := by
  rcases hRecorded.traced.nodes mapping hMember with
    ⟨origin, hOrigin, _⟩
  rcases hRecorded.traced.traced mapping.ticket origin hOrigin
    with ⟨process, hTrace⟩
  have hConcerns :=
    (hRecorded.handles origin
      (List.mem_of_getElem? hOrigin)).concerns
  have hStep :
      mapping.answered env ∈
        history.stepsOf env mapping.ticket :=
    History.mem_stepsOf_iff.mpr ⟨mapping, hMember, rfl, rfl⟩
  have hOp : mapping.op.Concerns origin.source :=
    (Process.allowed_of_trace hTrace hConcerns).1 _ hStep
  refine ⟨origin, hOrigin, ?_⟩
  cases hMapping : mapping.op with
  | insertConn userid other =>
      rw [hMapping] at hOp hMaps
      have hConn : other = conn := hMaps
      rw [← hConn]
      exact hOp
  | _ =>
      rw [hMapping] at hMaps
      exact hMaps.elim

/- It runs in the loop of the connection. -/
theorem runsIn_of_mapping
    (loopOf : ConnId → Nat)
    {history : History}
    (hRecorded : history.Recorded env)
    {mapping : Event}
    (hMember : mapping ∈ history.events)
    (hMaps : mapping.op.Maps conn) :
    RunsIn loopOf (loopOf conn) history mapping.ticket := by
  rcases source_of_mapping hRecorded hMember hMaps with
    ⟨origin, hOrigin, hSource⟩
  exact
    ⟨origin, hOrigin,
      hSource ▸ Source.inLoop_connection loopOf conn⟩

------------------------------------------------------------
-- One Step
------------------------------------------------------------

/-
  After a login has mapped the connection, the first frame on
  it is the answer to this login.  A login that has answered
  while nothing was written has found the connection closed.
-/
structure Answered
    (env : Externals)
    (conn : ConnId)
    (sending : Sending) : Prop where
  first :
    ∀ mapping back,
      sending.Mapped conn mapping back →
        ∀ written ∈ firstOn conn back,
          written.ticket = mapping.ticket ∧
            written.op.Acknowledges env conn
  lost :
    ∀ mapping back,
      sending.Mapped conn mapping back →
        firstOn conn back = none →
          ∀ event ∈ back.filterMap Moment.event?,
            event.ticket = mapping.ticket →
              event.op.Acknowledges env conn →
                sending.Closed conn

/- Nothing has been written, and something can still be: the
login is in progress. -/
theorem Answered.inProgress
    {sending : Sending}
    (hAnswered : sending.Answered env conn)
    (hSound : sending.Sound env loopOf)
    {mapping : Event}
    {back : List Moment}
    (hMapped : sending.Mapped conn mapping back)
    (hUnwritten : firstOn conn back = none)
    (hOpen : ¬ sending.Closed conn) :
    mapping.ticket ∈ sending.history.inProgress := by
  by_contra hThrough
  rcases hMapped.split hSound with ⟨front, hSplit⟩
  rcases acknowledged_of_through hSound.recorded hSplit
      hMapped.1 hThrough with
    ⟨event, hEvent, hTicket, hAnswer⟩
  exact
    hOpen
      (hAnswered.lost mapping back hMapped hUnwritten event
        hEvent hTicket hAnswer)

/- The same when its handler cannot be running. -/
theorem Answered.closed_of_idle
    {sending : Sending}
    (hAnswered : sending.Answered env conn)
    (hSound : sending.Sound env loopOf)
    {mapping : Event}
    {back : List Moment}
    (hMapped : sending.Mapped conn mapping back)
    (hUnwritten : firstOn conn back = none)
    (hIdle : sending.busy loopOf (loopOf conn) = false) :
    sending.Closed conn := by
  by_contra hOpen
  have hProgress :=
    hAnswered.inProgress hSound hMapped hUnwritten hOpen
  rcases History.mem_inProgress_iff.mp hProgress with
    ⟨index, thread, _, hTicket, _⟩
  have hMember : mapping ∈ sending.history.events := by
    rcases hMapped.split hSound with ⟨front, hSplit⟩
    rw [hSplit]
    simp
  have hBusy :=
    busy_of_runsIn hSound.recorded.traced
      (List.mem_of_getElem? hTicket)
      (runsIn_of_mapping loopOf hSound.recorded hMember
        hMapped.1)
  rw [hIdle] at hBusy
  cases hBusy

/- What is written and performed next. -/
theorem Answered.extend
    {fresh : List Moment}
    (hBefore : before.Answered env conn)
    (hMoments : after.moments = before.moments ++ fresh)
    (hClosed : before.Closed conn → after.Closed conn)
    (hFresh :
      ∀ earlier mapping back,
        fresh = earlier ++ .performed mapping :: back →
          mapping.op.Maps conn → back = [])
    (hFirst :
      ∀ mapping back,
        before.Mapped conn mapping back →
          firstOn conn back = none →
            ∀ written ∈ firstOn conn fresh,
              written.ticket = mapping.ticket ∧
                written.op.Acknowledges env conn)
    (hLost :
      ∀ mapping back,
        before.Mapped conn mapping back →
          firstOn conn fresh = none →
            ∀ event ∈ fresh.filterMap Moment.event?,
              event.ticket = mapping.ticket →
                event.op.Acknowledges env conn →
                  after.Closed conn) :
    after.Answered env conn where
  first := by
    intro mapping back hMapped written hWritten
    rcases mapped_append hMoments hMapped with
      ⟨rest, hBack, hOld⟩ | ⟨earlier, hNew⟩
    · unfold firstOn at hWritten
      rw [hBack, List.findSome?_append] at hWritten
      cases hRest : firstOn conn rest with
      | some other =>
          have hSame : other = written := by
            unfold firstOn at hRest
            rw [hRest, Option.some_or] at hWritten
            exact Option.some.inj hWritten
          rw [← hSame]
          exact hBefore.first mapping rest hOld other hRest
      | none =>
          apply hFirst mapping rest hOld hRest
          unfold firstOn at hRest
          rw [hRest, Option.none_or] at hWritten
          exact hWritten
    · rw [hFresh earlier mapping back hNew hMapped.1]
        at hWritten
      cases hWritten
  lost := by
    intro mapping back hMapped hUnwritten event hEvent hTicket
      hAnswer
    rcases mapped_append hMoments hMapped with
      ⟨rest, hBack, hOld⟩ | ⟨earlier, hNew⟩
    · unfold firstOn at hUnwritten
      rw [hBack, List.findSome?_append,
        Option.or_eq_none_iff] at hUnwritten
      rw [hBack, List.filterMap_append] at hEvent
      rcases List.mem_append.mp hEvent with hThere | hHere
      · exact
          hClosed
            (hBefore.lost mapping rest hOld hUnwritten.1
              event hThere hTicket hAnswer)
      · exact
          hLost mapping rest hOld hUnwritten.2 event hHere
            hTicket hAnswer
    · rw [hFresh earlier mapping back hNew hMapped.1] at hEvent
      cases hEvent

theorem Answered.congr
    (hBefore : before.Answered env conn)
    (hMoments : after.moments = before.moments)
    (hClosed : before.Closed conn → after.Closed conn) :
    after.Answered env conn := by
  have hSame : after.moments = before.moments ++ [] := by
    rw [hMoments, List.append_nil]
  refine hBefore.extend hSame hClosed ?_ ?_ ?_
  · intro earlier mapping back hNil
    simp at hNil
  · intro mapping back _ _ written hWritten
    cases hWritten
  · intro mapping back _ _ event hEvent
    cases hEvent

/- A frame that is written at once, with nothing before it,
is the answer. -/
theorem first_perform
    (hSound : before.Sound env loopOf)
    (hBefore : before.Answered env conn)
    {index ticket : Nat}
    {thread : Thread}
    {op : ServerOp}
    {next : op.Res → Handler Unit}
    (hHeld : before.history.tickets[index]? = some ticket)
    (hRunning :
      before.history.world.threads[index]? = some thread)
    (hAfter :
      (before.perform env loopOf index ticket thread op
        next).Sound env loopOf)
    {mapping : Event}
    {back : List Moment}
    (hMapped : before.Mapped conn mapping back)
    (hUnwritten : firstOn conn back = none)
    (hReceiver :
      (before.due ticket thread op).receiver = some conn)
    (hLoop :
      thread.source.inLoop loopOf (loopOf conn) = true) :
    ticket = mapping.ticket ∧ op.Acknowledges env conn := by
  have hOpen : ¬ before.Closed conn := fun hClosed =>
    hClosed.1 (Performed.connected_of_receiver hReceiver)
  have hProgress :=
    hBefore.inProgress hSound hMapped hUnwritten hOpen
  rcases History.mem_inProgress_iff.mp hProgress with
    ⟨_, _, _, hTicket, _⟩
  rcases hMapped.split hSound with ⟨front, hSplit⟩
  have hMember : mapping ∈ before.history.events := by
    rw [hSplit]
    simp
  rcases hSound.recorded.traced.running index thread ticket
      hRunning hHeld with ⟨origin, hOrigin, _, hSource, _⟩
  have hSame : ticket = mapping.ticket := by
    apply
      hSound.alone ticket (List.mem_of_getElem? hHeld)
        mapping.ticket (List.mem_of_getElem? hTicket)
        (loopOf conn)
    · exact ⟨origin, hOrigin, hSource ▸ hLoop⟩
    · exact
        runsIn_of_mapping loopOf hSound.recorded hMember
          hMapped.1
  refine ⟨hSame, ?_⟩
  have hSplitAfter :
      (before.perform env loopOf index ticket thread op
          next).history.events =
        front ++
          mapping ::
            (back.filterMap Moment.event? ++
              [before.due ticket thread op]) := by
    rw [events_perform, hSplit, List.append_assoc,
      List.cons_append]
  rcases hAfter.recorded.traced.nodes mapping
      (by rw [hSplitAfter]; simp) with ⟨start, hStart, _⟩
  rcases hAfter.recorded.traced.traced mapping.ticket start
      hStart with ⟨process, hTrace⟩
  have hNotQuiet : ¬ op.LeavesConnections := by
    intro hLeaves
    have hNone :
        (before.due ticket thread op).receiver = none :=
      ServerOp.LeavesConnections.receiver hLeaves
    rw [hNone] at hReceiver
    cases hReceiver
  have hDue :
      before.due ticket thread op ∈
        back.filterMap Moment.event? ++
          [before.due ticket thread op] := by
    simp
  rcases History.since_mapping hAfter.recorded.handles
      hSplitAfter hMapped.1 hStart hTrace with
    ⟨hQuiet, _⟩ | ⟨hKinds, _, _⟩
  · exact absurd (hQuiet _ hDue hSame) hNotQuiet
  · exact
      (hKinds _ hDue hSame).resolve_left hNotQuiet

/- An answer that is not written at once has found the
connection closed. -/
theorem lost_perform
    (hSound : before.Sound env loopOf)
    {index ticket : Nat}
    {thread : Thread}
    {op : ServerOp}
    (hHeld : before.history.tickets[index]? = some ticket)
    (hRunning :
      before.history.world.threads[index]? = some thread)
    {mapping : Event}
    {back : List Moment}
    (hMapped : before.Mapped conn mapping back)
    (hTicket : ticket = mapping.ticket)
    (hAnswer : op.Acknowledges env conn)
    (hUnsent :
      (before.due ticket thread op).receiver = some conn →
        thread.source.inLoop loopOf (loopOf conn) =
          false) :
    before.Closed conn := by
  rcases hMapped.split hSound with ⟨front, hSplit⟩
  have hMember : mapping ∈ before.history.events := by
    rw [hSplit]
    simp
  rcases hSound.recorded.traced.running index thread ticket
      hRunning hHeld with
    ⟨origin, hOrigin, _, hSource, hTrace⟩
  rcases source_of_mapping hSound.recorded hMember hMapped.1
    with ⟨start, hStart, hOrigins⟩
  have hSame : start = origin := by
    rw [← hTicket] at hStart
    exact Option.some.inj (hStart.symm.trans hOrigin)
  rw [hSame] at hOrigins
  rcases hSound.reading ticket (List.mem_of_getElem? hHeld)
      origin hOrigin conn hOrigins with
    hUp | hClosed | ⟨event, hEvent, hOwn, hShutdown⟩
  · have hReceiver :
        (before.due ticket thread op).receiver = some conn :=
      ServerOp.Acknowledges.receiver hAnswer hUp
    have hOutside := hUnsent hReceiver
    rw [hSource, hOrigins] at hOutside
    rw [Source.inLoop_connection] at hOutside
    cases hOutside
  · exact hClosed
  · rw [hTicket] at hOrigin hTrace hOwn
    exact
      absurd hShutdown
        (History.keeps_up_of_mapped hSound.recorded.handles
          hMember hMapped.1 hOrigin hTrace hEvent hOwn conn)

theorem answered_step
    {label : LoopLabel}
    (hSound : before.Sound env loopOf)
    (hBefore : before.Answered env conn)
    (hStep :
      before.step env observer loopOf label = some after) :
    after.Answered env conn := by
  have hAfter := sound_step hSound hStep
  have hAdvance :=
    advance_of_step hSound.recorded.traced hStep
  have hClosed : before.Closed conn → after.Closed conn :=
    fun hClosed => closed_of_advance hAdvance hClosed
  cases hAdvance with
  | spawn allowed spawns => exact hBefore.congr rfl hClosed
  | pass passes => exact hBefore.congr rfl hClosed
  | finish index => exact hBefore.congr rfl hClosed
  | giveUp index => exact hBefore.congr rfl hClosed
  | @perform index ticket thread op next running held acts =>
      rcases
          @moments_perform env loopOf before index ticket
            thread op next with
        ⟨written, hMoments, hWritten⟩
      refine hBefore.extend hMoments hClosed ?_ ?_ ?_
      · intro earlier mapping back hFresh hMaps
        rcases hWritten with
          ⟨hNone, _⟩ | ⟨other, hOne, hSent, _⟩
        · rw [hNone] at hFresh
          cases earlier with
          | nil => exact (List.cons.inj hFresh).2.symm
          | cons moment earlier =>
              have hRest := (List.cons.inj hFresh).2
              simp at hRest
        · rw [hOne] at hFresh
          cases earlier with
          | nil =>
              have hSame :=
                Moment.performed.inj (List.cons.inj hFresh).1
              rw [← hSame] at hMaps
              have hNone := ServerOp.Maps.receiver hMaps
              rw [hNone] at hSent
              cases hSent
          | cons moment earlier =>
              have hRest := (List.cons.inj hFresh).2
              cases earlier with
              | nil => cases hRest
              | cons other earlier => simp at hRest
      · intro mapping back hMapped hUnwritten event hEvent
        rcases hWritten with
          ⟨hNone, _⟩ | ⟨other, hOne, hSent, hLoop⟩
        · rw [hNone] at hEvent
          cases hEvent
        · rw [hOne] at hEvent
          unfold firstOn at hEvent
          simp only [List.findSome?_cons, Moment.writtenOn]
            at hEvent
          split_ifs at hEvent with hConn
          · rw [hConn] at hSent hLoop
            have hSame := Option.some.inj hEvent
            rw [← hSame]
            exact
              first_perform hSound hBefore held running hAfter
                hMapped hUnwritten hSent hLoop
          · cases hEvent
      · intro mapping back hMapped hUnwritten event hEvent
          hTicket hAnswer
        apply hClosed
        have hSame : event = before.due ticket thread op := by
          rcases hWritten with ⟨hNone, _⟩ | ⟨other, hOne, _⟩
          · rw [hNone] at hEvent
            exact List.mem_singleton.mp hEvent
          · rw [hOne] at hEvent
            exact List.mem_singleton.mp hEvent
        rw [hSame] at hTicket hAnswer
        apply
          lost_perform hSound held running hMapped hTicket
            hAnswer
        intro hReceiver
        rcases hWritten with
          ⟨_, hOutside⟩ | ⟨other, hOne, hSent, _⟩
        · exact hOutside conn hReceiver
        · have hConn : other = conn :=
            Option.some.inj (hSent.symm.trans hReceiver)
          rw [hOne, hConn] at hUnwritten
          simp [firstOn, Moment.writtenOn] at hUnwritten
  | @sendInLoop index other event found idle up =>
      refine hBefore.extend rfl hClosed ?_ ?_ ?_
      · intro earlier mapping back hFresh
        cases earlier with
        | nil => cases hFresh
        | cons moment earlier => simp at hFresh
      · intro mapping back hMapped hUnwritten written hWritten
        by_cases hConn : other = conn
        · rw [hConn] at idle up found
          have hNever :=
            hBefore.closed_of_idle hSound hMapped hUnwritten
              idle
          rcases hNever.2 with hDown | hNothing
          · exact absurd hDown up
          · exact
              absurd rfl
                (hNothing _ (List.mem_of_getElem? found))
        · simp [firstOn, Moment.writtenOn, hConn] at hWritten
      · intro mapping back hMapped hUnwritten other hOther
        cases hOther

------------------------------------------------------------
-- Runs
------------------------------------------------------------

/-
  After every login that has mapped the connection, the first
  frame on it is the answer; and once this login is through
  and the connection is up, the answer is there.
-/
structure AnswerFirst
    (env : Externals)
    (conn : ConnId)
    (sending : Sending) : Prop where
  first :
    ∀ mapping back,
      sending.Mapped conn mapping back →
        ∀ written ∈ firstOn conn back,
          written.ticket = mapping.ticket ∧
            written.op.Acknowledges env conn
  arrives :
    ∀ mapping back,
      sending.Mapped conn mapping back →
        mapping.ticket ∉ sending.history.inProgress →
          sending.history.world.cluster.conns conn =
              .connected →
            (firstOn conn back).isSome

variable {start : World} {final : Sending}
variable {labels : List LoopLabel}

/-
  Every interleaving of the handlers, and every order in
  which the loops work their queues off.
-/
theorem answer_first
    (hStart : start.threads = [])
    (hRun :
      Transition.Run (step env observer loopOf)
        (fun _ _ => True) (begin start) labels final) :
    final.AnswerFirst env conn := by
  have hFinal :=
    hRun.invariant
      (fun sending =>
        sending.Sound env loopOf ∧ sending.Answered env conn)
      (fun _ _ _ hBefore _ hStep =>
        ⟨sound_step hBefore.1 hStep,
          answered_step hBefore.1 hBefore.2 hStep⟩)
      ?_
  · rcases hFinal with ⟨hSound, hAnswered⟩
    refine ⟨hAnswered.first, ?_⟩
    intro mapping back hMapped hThrough hUp
    by_contra hUnwritten
    rw [Option.not_isSome_iff_eq_none] at hUnwritten
    exact
      hThrough
        (hAnswered.inProgress hSound hMapped hUnwritten
          fun hClosed => hClosed.1 hUp)
  · refine ⟨sound_begin hStart, ?_, ?_⟩
    · intro mapping back hMapped
      rcases hMapped.2 with ⟨front, hSplit⟩
      simp [begin] at hSplit
    · intro mapping back hMapped
      rcases hMapped.2 with ⟨front, hSplit⟩
      simp [begin] at hSplit

------------------------------------------------------------
-- A Message Between the Mapping and the Answer
------------------------------------------------------------

/- A login of user 1 and a message from user 2. -/
def pushExternals : Externals :=
  sampleExternals
    [.object (sampleLogin "ann"), .object (sampleChat 2 1)]

/- Two users who are offline, and no handler. -/
def pushStart : World where
  cluster := sampleCluster []
  threads := []
  log := []

/- User 1 logs in on connection 5 as far as the map; user 2
sends a message to user 1 on connection 6; the login goes on
to its end; then the queue of its loop is worked off. -/
def pushLabels : List LoopLabel :=
  [.serve
      (.frame 5 (Json.object (sampleLogin "ann")).text
        sampleReadings),
    .serve (.run 0), .serve (.run 0),
    .serve
      (.frame 6 (Json.object (sampleChat 2 1)).text
        sampleReadings),
    .serve (.run 1), .serve (.run 1)] ++
  List.replicate 7 (.serve (.run 0)) ++ [.sendInLoop 0]

/- The tickets of the handlers whose frames the connection
carries, in the order of the frames. -/
def writers
    (conn : ConnId)
    (sending : Sending) : List Nat :=
  sending.moments.filterMap fun moment =>
    (moment.writtenOn conn).map Event.ticket

/- The message is sent before the answer and written after
it. -/
theorem messageWhileLoggingIn_second :
    ∃ final,
      Transition.Run
          (step pushExternals Redis.observe fun conn => conn)
          (fun _ _ => True) (begin pushStart) pushLabels
          final ∧
        final.AnswerFirst pushExternals 5 ∧
          final.writers 5 = [0, 1] := by
  have hRun :=
    Transition.exists_run_of_execute
      (step pushExternals Redis.observe fun conn => conn)
      (fun _ _ => True) (fun final => final.writers 5 = [0, 1])
      (show
        ∃ final ∈
          Transition.execute
            (step pushExternals Redis.observe fun conn => conn)
            (fun _ _ => True) (begin pushStart) pushLabels,
          final.writers 5 = [0, 1] by decide +kernel)
  rcases hRun with ⟨final, hRun, hWriters⟩
  exact ⟨final, hRun, answer_first rfl hRun, hWriters⟩

end Sending

end ClusterChat
