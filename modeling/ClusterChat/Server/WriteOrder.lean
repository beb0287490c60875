import ClusterChat.Server.History

/-
  The order in which the frames reach the connections.

  Each connection belongs to an IO loop of the network
  library.  A thread of this loop writes to the connection at
  once; any other thread leaves the frame in the queue of the
  loop, which is worked off between the handlers of the loop.

  Main declarations:
    * `Performed.frameOn` and `History.wire_of_run`
    * `Performed.receiver`
    * `Sending` and `Sending.step`
    * `Sending.Advance` and `Sending.advance_of_step`
    * `Sending.send_cases` and `Sending.history_run`
-/

------------------------------------------------------------
-- Frames on a Connection
------------------------------------------------------------

namespace ClusterChat

/- The frame that an operation writes to a connection. -/
def Performed.frameOn
    (conn : ConnId)
    (entry : Performed) : Option String :=
  match entry.op with
  | .send other body =>
      if other = conn ∧
          entry.before.conns conn = .connected then
        some body
      else
        none
  | .findAndSend userid payload =>
      if entry.before.connOf entry.node userid = some conn ∧
          entry.before.conns conn = .connected then
        some payload
      else
        none
  | _ => none

/- Only a connected one is written to. -/
theorem Performed.connected_of_frameOn
    {conn : ConnId}
    {entry : Performed}
    (hFrame : (entry.frameOn conn).isSome) :
    entry.before.conns conn = .connected := by
  unfold frameOn at hFrame
  split at hFrame
  · split_ifs at hFrame with hWritten
    · exact hWritten.2
    · simp at hFrame
  · split_ifs at hFrame with hWritten
    · exact hWritten.2
    · simp at hFrame
  · simp at hFrame

namespace Cluster

theorem sameLinks_environment
    (cluster : Cluster)
    (event : EnvironmentEvent) :
    SameLinks cluster (cluster.environment event) := by
  rcases cluster.environment_eq event with
    ⟨_, _, _, hSame, _⟩
  rw [hSame]
  exact ⟨rfl, rfl⟩

theorem wire_sendWithHeader
    (cluster : Cluster)
    (other conn : ConnId)
    (body : String) :
    (cluster.sendWithHeader other body).wire conn =
      cluster.wire conn ++
        (if other = conn ∧
            cluster.conns conn = .connected then
          some body
        else
          none).toList := by
  unfold sendWithHeader
  by_cases hOther : other = conn
  · rw [hOther]
    by_cases hConnected : cluster.conns conn = .connected
    · simp [hConnected]
    · simp [hConnected]
  · by_cases hConnected : cluster.conns other = .connected
    · simp [hConnected, hOther, Ne.symm hOther]
    · simp [hConnected, hOther]

theorem conns_sendWithHeader
    (cluster : Cluster)
    (conn : ConnId)
    (body : String) :
    (cluster.sendWithHeader conn body).conns =
      cluster.conns := by
  unfold sendWithHeader
  split <;> rfl

/- The wire grows by what is written. -/
theorem wire_answer
    (env : Externals)
    (id : NodeId)
    (op : ServerOp)
    (cluster : Cluster)
    (conn : ConnId) :
    (cluster.answer env id op).2.wire conn =
      cluster.wire conn ++
        (Performed.frameOn conn ⟨id, op, cluster⟩).toList := by
  have hSame :
      op.KeepsLinks →
        (cluster.answer env id op).2.wire conn =
          cluster.wire conn ++ [] := by
    intro hKeeps
    have hLinks :=
      (answer_keeps env id op cluster).links hKeeps
    rw [hLinks.wire, List.append_nil]
  cases op with
  | send other body =>
      exact wire_sendWithHeader cluster other conn body
  | findAndSend userid payload =>
      simp only [answer, Performed.frameOn]
      cases cluster.connOf id userid with
      | none => simp
      | some other =>
          dsimp only
          rw [wire_sendWithHeader]
          simp only [Option.some_inj]
  | shutdown other =>
      simp only [answer, shutdown, Performed.frameOn,
        Option.toList_none, List.append_nil]
      split <;> rfl
  | _ => exact hSame trivial

/- A connection goes down only by a shutdown. -/
theorem conns_answer
    (env : Externals)
    (id : NodeId)
    (op : ServerOp)
    (cluster : Cluster)
    (conn : ConnId) :
    (cluster.answer env id op).2.conns conn =
        cluster.conns conn ∨
      op = .shutdown conn ∧
        cluster.conns conn = .connected := by
  by_cases hKeeps : op.KeepsLinks
  · have hLinks :=
      (answer_keeps env id op cluster).links hKeeps
    rw [hLinks.conns]
    exact Or.inl rfl
  cases op with
  | send other body =>
      exact
        Or.inl
          (congrFun (conns_sendWithHeader cluster other body)
            conn)
  | findAndSend userid payload =>
      left
      simp only [answer]
      split
      · rw [conns_sendWithHeader]
      · rfl
  | shutdown other =>
      simp only [answer, shutdown]
      split
      · rename_i hConnected
        by_cases hSame : conn = other
        · rw [hSame]
          exact Or.inr ⟨rfl, hConnected⟩
        · exact Or.inl (by simp [hSame])
      · exact Or.inl rfl
  | _ => exact absurd trivial hKeeps

/- No connection comes back up. -/
theorem connected_of_answer
    (env : Externals)
    (id : NodeId)
    (op : ServerOp)
    {cluster : Cluster}
    {conn : ConnId}
    (hConnected :
      (cluster.answer env id op).2.conns conn =
        .connected) :
    cluster.conns conn = .connected := by
  rcases cluster.conns_answer env id op conn with
    hSame | ⟨_, hBefore⟩
  · rw [← hSame]
    exact hConnected
  · exact hBefore

end Cluster

namespace History

variable {env : Externals} {observer : Observer}

theorem wire_of_spawns
    {before : World}
    {label : Label}
    {cluster : Cluster}
    {thread : Thread}
    (hSpawns :
      Spawns env observer before label cluster thread) :
    cluster.wire = before.cluster.wire := by
  cases hSpawns <;> rfl

/- A connection that goes down has a handler of its own. -/
theorem conns_of_spawns
    {before : World}
    {label : Label}
    {cluster : Cluster}
    {thread : Thread}
    (hSpawns :
      Spawns env observer before label cluster thread)
    (conn : ConnId) :
    cluster.conns conn = before.cluster.conns conn ∨
      label = .disconnect conn ∧
        cluster.conns conn = .disconnected := by
  cases hSpawns with
  | frame other body readings serving idle =>
      exact Or.inl rfl
  | disconnect other serving idle =>
      by_cases hSame : conn = other
      · rw [hSame]
        exact Or.inr ⟨rfl, by simp [Cluster.disconnect]⟩
      · exact Or.inl (by simp [Cluster.disconnect, hSame])
  | notify id idle found read => exact Or.inl rfl

theorem connected_of_spawns
    {before : World}
    {label : Label}
    {cluster : Cluster}
    {thread : Thread}
    (hSpawns :
      Spawns env observer before label cluster thread)
    {conn : ConnId}
    (hConnected : cluster.conns conn = .connected) :
    before.cluster.conns conn = .connected := by
  rcases conns_of_spawns hSpawns conn with
    hSame | ⟨_, hDown⟩
  · rw [← hSame]
    exact hConnected
  · rw [hDown] at hConnected
    cases hConnected

theorem sameLinks_of_passes
    {before : World}
    {label : Label}
    {cluster : Cluster}
    (hPasses : Passes observer before label cluster) :
    Cluster.SameLinks before.cluster cluster := by
  cases hPasses with
  | skip id found read => exact ⟨rfl, rfl⟩
  | environment event =>
      exact before.cluster.sameLinks_environment event

/- The frames that were written to a connection. -/
def framesOn
    (conn : ConnId)
    (history : History) : List String :=
  history.events.filterMap fun event => event.frameOn conn

/- What a connection carries was written in the run. -/
theorem wire_of_run
    {meets : History → Label → Prop}
    {start : World}
    {final : History}
    {labels : List Label}
    (hRun :
      Transition.Run (step env observer) meets (begin start)
        labels final)
    (conn : ConnId) :
    final.world.cluster.wire conn =
      start.cluster.wire conn ++ final.framesOn conn := by
  have hFinal :=
    hRun.invariant
      (fun history =>
        history.Traced env ∧
          history.world.cluster.wire conn =
            start.cluster.wire conn ++ history.framesOn conn)
      ?_ ⟨traced_begin start, by simp [framesOn, begin]⟩
  · exact hFinal.2
  · intro before label after hBefore _ hStep
    refine ⟨traced_step hBefore.1 hStep, ?_⟩
    cases advance_of_step hBefore.1.aligned hStep with
    | @spawn _ cluster thread spawns =>
        have hWire := wire_of_spawns spawns
        exact (congrFun hWire conn).trans hBefore.2
    | pass passes =>
        have hWire := (sameLinks_of_passes passes).wire
        exact (congrFun hWire conn).trans hBefore.2
    | @perform index ticket thread op next running held due =>
        have hWire :=
          Cluster.wire_answer env thread.node op
            before.world.cluster conn
        refine hWire.trans ?_
        rw [hBefore.2]
        unfold framesOn perform
        dsimp only
        rw [List.filterMap_append, List.append_assoc]
        congr 2
    | finish index running held done => exact hBefore.2

end History

------------------------------------------------------------
-- Loops and Queues
------------------------------------------------------------

/- The connection that an operation sends to, if it is up. -/
def Performed.receiver
    (entry : Performed) : Option ConnId :=
  let target :=
    match entry.op with
    | .send conn _ => some conn
    | .findAndSend userid _ =>
        entry.before.connOf entry.node userid
    | _ => none
  target.filter fun conn =>
    entry.before.conns conn = .connected

theorem Performed.receiver_eq_some_iff
    {conn : ConnId}
    {entry : Performed} :
    entry.receiver = some conn ↔
      (entry.frameOn conn).isSome := by
  unfold receiver frameOn
  cases entry.op with
  | send other body =>
      dsimp only
      rw [Option.filter_eq_some_iff, Option.some_inj]
      split_ifs with hWritten
      · simpa using hWritten
      · simpa using hWritten
  | findAndSend userid payload =>
      dsimp only
      rw [Option.filter_eq_some_iff]
      split_ifs with hWritten
      · simpa using hWritten
      · simpa using hWritten
  | _ => simp

/- Only a connected one is sent to. -/
theorem Performed.connected_of_receiver
    {conn : ConnId}
    {entry : Performed}
    (hReceiver : entry.receiver = some conn) :
    entry.before.conns conn = .connected :=
  connected_of_frameOn (receiver_eq_some_iff.mp hReceiver)

/- A handler of a connection runs in the loop of this
connection, and the observer of Redis in no loop. -/
def Source.inLoop
    (loopOf : ConnId → Nat)
    (loop : Nat) : Source → Bool
| .connection conn => decide (loopOf conn = loop)
| .subscription _ => false

/- A connection's own handlers run in its loop. -/
theorem Source.inLoop_connection
    (loopOf : ConnId → Nat)
    (conn : ConnId) :
    (Source.connection conn).inLoop loopOf (loopOf conn) =
      true :=
  decide_eq_true rfl

/- What happens in a run, as far as connections see it. -/
inductive Moment where
| performed (event : Event)
| written (conn : ConnId) (event : Event)

/- The operation, if it is one. -/
def Moment.event? : Moment → Option Event
| .performed event => some event
| .written _ _ => none

/- The operation whose frame is written to a connection. -/
def Moment.writtenOn
    (conn : ConnId) : Moment → Option Event
| .performed _ => none
| .written other event =>
    if other = conn then some event else none

/-
  A recorded run, the frames in the queues of the loops, each
  with the operation that has sent it, and the order in which
  operations were performed and frames were written.
-/
structure Sending where
  history : History
  queued : List (ConnId × Event)
  moments : List Moment

/- A step of the cluster, or of the queue of a loop. -/
inductive LoopLabel where
| serve (label : Label)
| sendInLoop (index : Nat)
| giveUp (index : Nat)

namespace Sending

variable (env : Externals) (observer : Observer)
variable (loopOf : ConnId → Nat)

/- Nothing has been sent yet. -/
def begin (world : World) : Sending where
  history := History.begin world
  queued := []
  moments := []

/- A handler is running in the loop. -/
def busy
    (sending : Sending)
    (loop : Nat) : Bool :=
  sending.history.world.threads.any fun thread =>
    thread.source.inLoop loopOf loop

/-
  A loop runs one handler at a time.  A connection that was
  shut down is read again only in a later round of its loop,
  when what was queued for it until then is written.
-/
def Allows (sending : Sending) : Label → Prop
| .frame conn _ _ =>
    sending.busy loopOf (loopOf conn) = false ∧
      (sending.history.world.cluster.conns conn =
          .connected ∨
        ∀ entry ∈ sending.queued, entry.1 ≠ conn)
| .disconnect conn =>
    sending.busy loopOf (loopOf conn) = false
| _ => True

instance
    (sending : Sending) :
    DecidablePred (sending.Allows loopOf)
| .frame _ _ _ =>
    inferInstanceAs
      (Decidable
        (_ = false ∧ (_ ∨ ∀ entry ∈ sending.queued, _)))
| .disconnect _ => inferInstanceAs (Decidable (_ = false))
| .observe _ => inferInstanceAs (Decidable True)
| .run _ => inferInstanceAs (Decidable True)
| .environment _ => inferInstanceAs (Decidable True)

/- `send` of the library, called by a handler: in the loop of
the connection the frame is written, elsewhere queued. -/
def send
    (sending : Sending)
    (source : Source)
    (event : Event) : Sending :=
  match event.receiver with
  | none => sending
  | some conn =>
      if source.inLoop loopOf (loopOf conn) then
        { sending with
          moments := sending.moments ++ [.written conn event] }
      else
        { sending with
          queued := sending.queued ++ [(conn, event)] }

/- The operation of a step, and where its handler runs. -/
def latest
    (before after : History) : Option (Event × Source) :=
  after.events[before.events.length]?.bind fun event =>
    after.started[event.ticket]?.map fun thread =>
      (event, thread.source)

/- Note what a step of the cluster has performed. -/
def record
    (sending : Sending)
    (after : History) : Sending :=
  match latest sending.history after with
  | none => { sending with history := after }
  | some (event, source) =>
      send loopOf
        { history := after
          queued := sending.queued
          moments :=
            sending.moments ++ [.performed event] }
        source event

/-
  One step.  A loop works its queue off while it runs no
  handler; the order is for the run to choose.  A connection
  that is not up any more may lose what is queued for it, and
  one that is down does.
-/
def step
    (sending : Sending) : LoopLabel → Option Sending
| .serve label =>
    if sending.Allows loopOf label then
      (sending.history.step env observer label).map
        (sending.record loopOf)
    else
      none
| .sendInLoop index =>
    sending.queued[index]?.bind fun entry =>
      if sending.busy loopOf (loopOf entry.1) = false ∧
          sending.history.world.cluster.conns entry.1 ≠
            .disconnected then
        some
          { sending with
            queued := sending.queued.eraseIdx index
            moments :=
              sending.moments ++
                [.written entry.1 entry.2] }
      else
        none
| .giveUp index =>
    sending.queued[index]?.bind fun entry =>
      if sending.history.world.cluster.conns entry.1 ≠
          .connected then
        some
          { sending with
            queued := sending.queued.eraseIdx index }
      else
        none

------------------------------------------------------------
-- The Kinds of Steps
------------------------------------------------------------

/- The operation that a handler performs next, recorded. -/
def due
    (sending : Sending)
    (ticket : Nat)
    (thread : Thread)
    (op : ServerOp) : Event where
  node := thread.node
  op := op
  before := sending.history.world.cluster
  ticket := ticket

/- A handler performs its next operation. -/
def perform
    (sending : Sending)
    (index ticket : Nat)
    (thread : Thread)
    (op : ServerOp)
    (next : op.Res → Handler Unit) : Sending :=
  send loopOf
    { history :=
        sending.history.perform env index ticket thread op
          next
      queued := sending.queued
      moments :=
        sending.moments ++
          [.performed (sending.due ticket thread op)] }
    thread.source (sending.due ticket thread op)

/- Every step, by what it does. -/
inductive Advance
    (before : Sending) : LoopLabel → Sending → Prop where
| spawn
    {label : Label} {cluster : Cluster} {thread : Thread}
    (allowed : before.Allows loopOf label)
    (spawns :
      History.Spawns env observer before.history.world label
        cluster thread) :
    Advance before (.serve label)
      { before with
        history := before.history.spawn cluster thread }
| pass
    {label : Label} {cluster : Cluster}
    (passes :
      History.Passes observer before.history.world label
        cluster) :
    Advance before (.serve label)
      { before with history := before.history.pass cluster }
| finish (index : Nat) :
    Advance before (.serve (.run index))
      { before with history := before.history.finish index }
| perform
    (index : Nat) {ticket : Nat} {thread : Thread}
    {op : ServerOp} {next : op.Res → Handler Unit}
    (running :
      before.history.world.threads[index]? = some thread)
    (held : before.history.tickets[index]? = some ticket)
    (acts : thread.process = .act op next) :
    Advance before (.serve (.run index))
      (before.perform env loopOf index ticket thread op next)
| sendInLoop
    (index : Nat) {conn : ConnId} {event : Event}
    (found : before.queued[index]? = some (conn, event))
    (idle : before.busy loopOf (loopOf conn) = false)
    (up :
      before.history.world.cluster.conns conn ≠
        .disconnected) :
    Advance before (.sendInLoop index)
      { before with
        queued := before.queued.eraseIdx index
        moments :=
          before.moments ++ [.written conn event] }
| giveUp
    (index : Nat) :
    Advance before (.giveUp index)
      { before with
        queued := before.queued.eraseIdx index }

variable {env observer loopOf}
variable {before after : Sending}

/- Nothing is noted of a step without an operation. -/
theorem record_of_same
    {history : History}
    (hSame : history.events = before.history.events) :
    before.record loopOf history =
      { before with history := history } := by
  unfold record latest
  rw [hSame, List.getElem?_eq_none (Nat.le_refl _)]
  rfl

theorem record_perform
    (hTraced : before.history.Traced env)
    {index ticket : Nat}
    {thread : Thread}
    (op : ServerOp)
    (next : op.Res → Handler Unit)
    (hRunning :
      before.history.world.threads[index]? = some thread)
    (hHeld : before.history.tickets[index]? = some ticket) :
    before.record loopOf
        (before.history.perform env index ticket thread op
          next) =
      before.perform env loopOf index ticket thread op
        next := by
  rcases hTraced.running index thread ticket hRunning hHeld
    with ⟨origin, hOrigin, _, hSource, _⟩
  have hLatest :
      latest before.history
          (before.history.perform env index ticket thread op
            next) =
        some (before.due ticket thread op, thread.source) := by
    unfold latest History.perform due
    dsimp only
    rw [List.getElem?_concat_length, Option.bind_some, hOrigin,
      Option.map_some, hSource]
  unfold record perform
  rw [hLatest]

theorem advance_of_step
    {label : LoopLabel}
    (hTraced : before.history.Traced env)
    (hStep :
      before.step env observer loopOf label = some after) :
    Advance env observer loopOf before label after := by
  cases label with
  | serve label =>
      unfold step at hStep
      dsimp only at hStep
      split_ifs at hStep with hAllowed
      rcases Option.map_eq_some_iff.mp hStep with
        ⟨history, hHistory, hAfter⟩
      rw [← hAfter]
      have hAdvance :=
        History.advance_of_step hTraced.aligned hHistory
      cases hAdvance with
      | @spawn _ cluster thread spawns =>
          have hSame :
              (before.history.spawn cluster thread).events =
                before.history.events := rfl
          rw [record_of_same hSame]
          exact Advance.spawn hAllowed spawns
      | @pass _ cluster passes =>
          have hSame :
              (before.history.pass cluster).events =
                before.history.events := rfl
          rw [record_of_same hSame]
          exact Advance.pass passes
      | finish index running held done =>
          have hSame :
              (before.history.finish index).events =
                before.history.events := rfl
          rw [record_of_same hSame]
          exact Advance.finish index
      | perform index running held acts =>
          rw [record_perform hTraced _ _ running held]
          exact Advance.perform index running held acts
  | sendInLoop index =>
      rcases Option.bind_eq_some_iff.mp hStep with
        ⟨⟨conn, event⟩, hFound, hWritten⟩
      split_ifs at hWritten with hIdle
      rw [← Option.some.inj hWritten]
      exact Advance.sendInLoop index hFound hIdle.1 hIdle.2
  | giveUp index =>
      rcases Option.bind_eq_some_iff.mp hStep with
        ⟨entry, _, hDropped⟩
      split_ifs at hDropped
      rw [← Option.some.inj hDropped]
      exact Advance.giveUp index

/- What `send` does, by where the handler runs. -/
theorem send_cases
    (loopOf : ConnId → Nat)
    (sending : Sending)
    (source : Source)
    (event : Event) :
    (event.receiver = none ∧
        sending.send loopOf source event = sending) ∨
      ∃ conn,
        event.receiver = some conn ∧
          ((source.inLoop loopOf (loopOf conn) = true ∧
              sending.send loopOf source event =
                { sending with
                  moments :=
                    sending.moments ++
                      [.written conn event] }) ∨
            (source.inLoop loopOf (loopOf conn) = false ∧
              sending.send loopOf source event =
                { sending with
                  queued :=
                    sending.queued ++ [(conn, event)] })) := by
  unfold send
  cases hReceiver : event.receiver with
  | none => exact Or.inl ⟨rfl, rfl⟩
  | some conn =>
      refine Or.inr ⟨conn, rfl, ?_⟩
      by_cases hLoop : source.inLoop loopOf (loopOf conn)
      · exact Or.inl ⟨hLoop, if_pos hLoop⟩
      · exact
          Or.inr ⟨Bool.not_eq_true _ ▸ hLoop, if_neg hLoop⟩

theorem history_send
    (sending : Sending)
    (source : Source)
    (event : Event) :
    (sending.send loopOf source event).history =
      sending.history := by
  unfold send
  split
  · rfl
  · split <;> rfl

theorem history_record
    (sending : Sending)
    (history : History) :
    (sending.record loopOf history).history = history := by
  unfold record
  split
  · rfl
  · exact history_send _ _ _

/- A step of the cluster is one of its recorded steps, and a
queue leaves the cluster as it is. -/
theorem history_of_step
    {label : LoopLabel}
    (hStep :
      before.step env observer loopOf label = some after) :
    (∃ served,
        before.history.step env observer served =
          some after.history) ∨
      after.history = before.history := by
  cases label with
  | serve served =>
      unfold step at hStep
      dsimp only at hStep
      split_ifs at hStep
      rcases Option.map_eq_some_iff.mp hStep with
        ⟨history, hHistory, hAfter⟩
      refine Or.inl ⟨served, ?_⟩
      rw [hHistory, ← hAfter, history_record]
  | sendInLoop index =>
      rcases Option.bind_eq_some_iff.mp hStep with
        ⟨entry, _, hWritten⟩
      split_ifs at hWritten
      rw [← Option.some.inj hWritten]
      exact Or.inr rfl
  | giveUp index =>
      rcases Option.bind_eq_some_iff.mp hStep with
        ⟨entry, _, hDropped⟩
      split_ifs at hDropped
      rw [← Option.some.inj hDropped]
      exact Or.inr rfl

/- What happens to the cluster is one of its recorded runs,
whatever the order of the frames. -/
theorem history_run
    {start final : Sending}
    {labels : List LoopLabel}
    (hRun :
      Transition.Run (step env observer loopOf)
        (fun _ _ => True) start labels final) :
    ∃ served,
      Transition.Run (History.step env observer)
        (fun _ _ => True) start.history served
        final.history := by
  induction hRun with
  | nil => exact ⟨[], Transition.Run.nil⟩
  | snoc front met stepped ih =>
      rcases ih with ⟨served, hServed⟩
      rcases history_of_step stepped with
        ⟨label, hLabel⟩ | hSame
      · exact
          ⟨served ++ [label],
            Transition.Run.snoc hServed trivial hLabel⟩
      · rw [hSame]
        exact ⟨served, hServed⟩

end Sending

end ClusterChat
