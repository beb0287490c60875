import ClusterChat.Library.Trace
import ClusterChat.Server.World

/-
  The past of a running cluster.

  Each handler gets a ticket when it starts, and each
  operation is recorded with the ticket of its handler.  The
  record has no influence on the cluster: it is taken from
  the steps of `World`.

  Main declarations:
    * `Event` and `History`
    * `History.step` and `History.world_run`
    * `History.Advance` and `History.advance_of_step`
    * `History.Traced` and `History.traced_step`
    * `Handles` and `History.handles_step`
    * `History.inProgress`
    * `History.GoneDone` and `History.goneDone_step`
-/

------------------------------------------------------------
-- Records
------------------------------------------------------------

namespace ClusterChat

/- An operation of the past, with the ticket of its handler. -/
structure Event extends Performed where
  ticket : Nat

namespace Event

variable (env : Externals)

/- What the operation answered. -/
def answer (event : Event) : event.op.Res :=
  (event.before.answer env event.node event.op).1

/- The operation and its answer. -/
def answered (event : Event) : Sigma ServerOp.Res :=
  ⟨event.op, event.answer env⟩

/- The state that the operation left behind. -/
def after (event : Event) : Cluster :=
  (event.before.answer env event.node event.op).2

end Event

/-
  A running cluster and its past: the handlers as they were
  started, by ticket, the tickets of those that are still
  there, and the operations.
-/
structure History where
  world : World
  started : List Thread
  tickets : List Nat
  events : List Event

namespace History

/- Nothing has been recorded yet. -/
def begin (world : World) : History where
  world := world
  started := world.threads
  tickets := List.range world.threads.length
  events := []

/- Record a step, by the state that it leads to. -/
def record
    (history : History)
    (after : World) : Label → History
| .run index =>
    match history.world.performs (.run index) with
    | some entry =>
        { history with
          world := after
          events :=
            history.events ++
              [{ toPerformed := entry
                 ticket := history.tickets.getD index 0 }] }
    | none =>
        { history with
          world := after
          tickets := history.tickets.eraseIdx index }
| _ =>
    let fresh :=
      after.threads.drop history.world.threads.length
    { world := after
      started := history.started ++ fresh
      tickets :=
        history.tickets ++
          List.range' history.started.length fresh.length
      events := history.events }

/- One step of the cluster, recorded. -/
def step
    (env : Externals)
    (observer : Observer)
    (history : History)
    (label : Label) : Option History :=
  (history.world.step env observer label).map fun after =>
    history.record after label

theorem world_record
    (history : History)
    (after : World)
    (label : Label) :
    (history.record after label).world = after := by
  cases label with
  | run index =>
      simp only [record]
      split <;> rfl
  | _ => rfl

variable {env : Externals} {observer : Observer}

/- A recorded run is a run of the cluster. -/
theorem world_run
    {meets : History → Label → Prop}
    {start final : History}
    {labels : List Label}
    (hRun :
      Transition.Run (step env observer) meets start labels
        final) :
    Transition.Run (World.step env observer)
      (fun _ _ => True) start.world labels final.world := by
  induction hRun with
  | nil => exact Transition.Run.nil
  | snoc front met stepped ih =>
      rcases Option.map_eq_some_iff.mp stepped with
        ⟨world, hWorld, hRecord⟩
      rw [← hRecord, world_record]
      exact Transition.Run.snoc ih trivial hWorld

/- Every run of the cluster can be recorded. -/
theorem exists_run
    {start final : World}
    {labels : List Label}
    (hRun :
      Transition.Run (World.step env observer)
        (fun _ _ => True) start labels final) :
    ∃ history,
      Transition.Run (step env observer) (fun _ _ => True)
          (begin start) labels history ∧
        history.world = final := by
  induction hRun with
  | nil => exact ⟨begin start, Transition.Run.nil, rfl⟩
  | @snoc labels label before after front met stepped ih =>
      rcases ih with ⟨history, hHistory, hWorld⟩
      refine
        ⟨history.record after label,
          Transition.Run.snoc hHistory trivial ?_,
          world_record _ _ _⟩
      unfold step
      rw [hWorld, stepped]
      rfl

------------------------------------------------------------
-- The Kinds of Steps
------------------------------------------------------------

/- A new handler, and the cluster when it starts.  No other
handler for its source is running. -/
inductive Spawns
    (env : Externals)
    (observer : Observer)
    (before : World) : Label → Cluster → Thread → Prop where
| frame
    (conn : ConnId) (body : String) (readings : Readings)
    (serving :
      before.cluster.conns conn ≠ .disconnected)
    (idle : before.busy (.connection conn) = false) :
    Spawns env observer before (.frame conn body readings)
      before.cluster
      (before.frameThread env conn body readings)
| disconnect
    (conn : ConnId)
    (serving :
      before.cluster.conns conn ≠ .disconnected)
    (idle : before.busy (.connection conn) = false) :
    Spawns env observer before (.disconnect conn)
      (before.cluster.disconnect conn)
      (before.closeThread conn)
| notify
    (id : NodeId) {reply : RedisReply}
    {rest : List (NodeId × RedisReply)}
    {userid : Int} {msg : String}
    (idle : before.busy (.subscription id) = false)
    (found :
      takeReply id before.cluster.replies =
        some (reply, rest))
    (read : observer reply = some (userid, msg)) :
    Spawns env observer before (.observe id)
      { before.cluster with replies := rest }
      (World.notifyThread id userid msg)

/- What happens without a handler. -/
inductive Passes
    (observer : Observer)
    (before : World) : Label → Cluster → Prop where
| skip
    (id : NodeId) {reply : RedisReply}
    {rest : List (NodeId × RedisReply)}
    (found :
      takeReply id before.cluster.replies =
        some (reply, rest))
    (read : observer reply = none) :
    Passes observer before (.observe id)
      { before.cluster with replies := rest }
| environment (event : EnvironmentEvent) :
    Passes observer before (.environment event)
      (before.cluster.environment event)

/- A new handler gets the next ticket. -/
def spawn
    (history : History)
    (cluster : Cluster)
    (thread : Thread) : History where
  world :=
    { cluster := cluster
      threads := history.world.threads ++ [thread]
      log := history.world.log }
  started := history.started ++ [thread]
  tickets := history.tickets ++ [history.started.length]
  events := history.events

/- Only the cluster changes. -/
def pass
    (history : History)
    (cluster : Cluster) : History :=
  { history with
    world := { history.world with cluster := cluster } }

/- A handler performs its next operation. -/
def perform
    (env : Externals)
    (history : History)
    (index ticket : Nat)
    (thread : Thread)
    (op : ServerOp)
    (next : op.Res → Handler Unit) : History :=
  { history with
    world := history.world.perform env index thread op next
    events :=
      history.events ++
        [{ node := thread.node
           op := op
           before := history.world.cluster
           ticket := ticket }] }

/- A handler that is through goes away. -/
def finish
    (history : History)
    (index : Nat) : History :=
  { history with
    world :=
      { history.world with
        threads := history.world.threads.eraseIdx index }
    tickets := history.tickets.eraseIdx index }

/- Every recorded step, by what it does. -/
inductive Advance
    (env : Externals)
    (observer : Observer)
    (before : History) : Label → History → Prop where
| spawn
    {label : Label} {cluster : Cluster} {thread : Thread}
    (spawns :
      Spawns env observer before.world label cluster
        thread) :
    Advance env observer before label
      (before.spawn cluster thread)
| pass
    {label : Label} {cluster : Cluster}
    (passes : Passes observer before.world label cluster) :
    Advance env observer before label (before.pass cluster)
| perform
    (index : Nat) {ticket : Nat} {thread : Thread}
    {op : ServerOp} {next : op.Res → Handler Unit}
    (running : before.world.threads[index]? = some thread)
    (held : before.tickets[index]? = some ticket)
    (due : thread.process = .act op next) :
    Advance env observer before (.run index)
      (before.perform env index ticket thread op next)
| finish
    (index : Nat) {ticket : Nat} {thread : Thread}
    (running : before.world.threads[index]? = some thread)
    (held : before.tickets[index]? = some ticket)
    (done : nextOp thread.process = none) :
    Advance env observer before (.run index)
      (before.finish index)

/- Every running handler has a ticket. -/
def Aligned (history : History) : Prop :=
  history.tickets.length = history.world.threads.length

theorem Aligned.held
    {history : History}
    {index : Nat}
    {thread : Thread}
    (hAligned : history.Aligned)
    (hRunning :
      history.world.threads[index]? = some thread) :
    ∃ ticket, history.tickets[index]? = some ticket := by
  have hBound :=
    (List.getElem?_eq_some_iff.mp hRunning).1
  have hLength : index < history.tickets.length := by
    rw [hAligned]
    exact hBound
  exact ⟨_, List.getElem?_eq_getElem hLength⟩

/- What a new handler adds to the record. -/
theorem record_spawn
    {before : History}
    {label : Label}
    (hLabel : ∀ index, label ≠ .run index)
    (cluster : Cluster)
    (thread : Thread) :
    before.record
        { cluster := cluster
          threads := before.world.threads ++ [thread]
          log := before.world.log } label =
      before.spawn cluster thread := by
  cases label with
  | run index => exact absurd rfl (hLabel index)
  | _ => simp [record, spawn]

theorem record_pass
    {before : History}
    {label : Label}
    (hLabel : ∀ index, label ≠ .run index)
    (cluster : Cluster) :
    before.record
        { before.world with cluster := cluster } label =
      before.pass cluster := by
  cases label with
  | run index => exact absurd rfl (hLabel index)
  | _ => simp [record, pass]

theorem advance_of_step
    {before after : History}
    {label : Label}
    (hAligned : before.Aligned)
    (hStep :
      before.step env observer label = some after) :
    Advance env observer before label after := by
  rcases Option.map_eq_some_iff.mp hStep with
    ⟨world, hWorld, hRecord⟩
  rw [← hRecord]
  clear hStep hRecord
  cases label with
  | frame conn body readings =>
      simp only [World.step] at hWorld
      split at hWorld
      · simp at hWorld
      · rename_i hGuard
        rw [not_or] at hGuard
        rw [← Option.some.inj hWorld]
        have hSpawn :
            before.record
                (before.world.spawn
                  (before.world.frameThread env conn body
                    readings))
                (.frame conn body readings) =
              before.spawn before.world.cluster
                (before.world.frameThread env conn body
                  readings) :=
          record_spawn (by simp) _ _
        rw [hSpawn]
        exact
          Advance.spawn
            (Spawns.frame conn body readings hGuard.1
              (by simpa using hGuard.2))
  | disconnect conn =>
      simp only [World.step] at hWorld
      split at hWorld
      · simp at hWorld
      · rename_i hGuard
        rw [not_or] at hGuard
        rw [← Option.some.inj hWorld]
        have hSpawn :
            before.record
                (World.spawn
                  { before.world with
                    cluster :=
                      before.world.cluster.disconnect conn }
                  (before.world.closeThread conn))
                (.disconnect conn) =
              before.spawn
                (before.world.cluster.disconnect conn)
                (before.world.closeThread conn) :=
          record_spawn (by simp) _ _
        rw [hSpawn]
        exact
          Advance.spawn
            (Spawns.disconnect conn hGuard.1
              (by simpa using hGuard.2))
  | observe id =>
      simp only [World.step] at hWorld
      split at hWorld
      · simp at hWorld
      rename_i hIdle
      split at hWorld
      · simp at hWorld
      · rename_i reply rest hFound
        split at hWorld
        · rename_i userid msg hRead
          rw [← Option.some.inj hWorld]
          have hSpawn :
              before.record
                  ((before.world.withReplies rest).spawn
                    (World.notifyThread id userid msg))
                  (.observe id) =
                before.spawn
                  { before.world.cluster with
                    replies := rest }
                  (World.notifyThread id userid msg) :=
            record_spawn (by simp) _ _
          rw [hSpawn]
          exact
            Advance.spawn
              (Spawns.notify id (by simpa using hIdle) hFound
                hRead)
        · rename_i hRead
          rw [← Option.some.inj hWorld]
          have hPass :
              before.record (before.world.withReplies rest)
                  (.observe id) =
                before.pass
                  { before.world.cluster with
                    replies := rest } :=
            record_pass (by simp) _
          rw [hPass]
          exact Advance.pass (Passes.skip id hFound hRead)
  | run index =>
      simp only [World.step] at hWorld
      split at hWorld
      · simp at hWorld
      · rename_i thread hRunning
        rcases hAligned.held hRunning with ⟨ticket, hHeld⟩
        split at hWorld
        · rename_i op next hDue
          rw [← Option.some.inj hWorld]
          have hPerform :
              before.record
                  (before.world.perform env index thread op
                    next) (.run index) =
                before.perform env index ticket thread op
                  next := by
            simp only [record]
            rw [World.performs_of_due hRunning hDue]
            dsimp only
            rw [List.getD_eq_getElem?_getD, hHeld]
            rfl
          rw [hPerform]
          exact Advance.perform index hRunning hHeld hDue
        · rename_i hDone
          have hNext : nextOp thread.process = none := by
            unfold nextOp
            split
            · rename_i op next hDue
              exact absurd hDue (hDone op next)
            · rfl
          rw [← Option.some.inj hWorld]
          have hFinish :
              before.record
                  { before.world with
                    threads :=
                      before.world.threads.eraseIdx index }
                  (.run index) =
                before.finish index := by
            simp only [record, World.performs]
            rw [hRunning, Option.bind_some, hNext]
            rfl
          rw [hFinish]
          exact Advance.finish index hRunning hHeld hNext
  | environment event =>
      simp only [World.step] at hWorld
      rw [← Option.some.inj hWorld]
      have hPass :
          before.record
              { before.world with
                cluster :=
                  before.world.cluster.environment event }
              (.environment event) =
            before.pass
              (before.world.cluster.environment event) :=
        record_pass (by simp) _
      rw [hPass]
      exact Advance.pass (Passes.environment event)

------------------------------------------------------------
-- Records and Handlers
------------------------------------------------------------

/- What the handler with the ticket has performed. -/
def stepsOf
    (env : Externals)
    (history : History)
    (ticket : Nat) : List (Sigma ServerOp.Res) :=
  (history.events.filter fun event =>
    event.ticket = ticket).map (Event.answered env)

/-
  The record is about the handlers that were started: what
  is left of each one is what its operations have left of
  it.
-/
structure Traced
    (env : Externals)
    (history : History) : Prop where
  aligned : history.Aligned
  nodup : history.tickets.Nodup
  known :
    ∀ ticket ∈ history.tickets,
      ticket < history.started.length
  running :
    ∀ (index : Nat) (thread : Thread) (ticket : Nat),
      history.world.threads[index]? = some thread →
        history.tickets[index]? = some ticket →
          ∃ origin,
            history.started[ticket]? = some origin ∧
              thread.node = origin.node ∧
              thread.source = origin.source ∧
                Process.Trace (history.stepsOf env ticket)
                  origin.process thread.process
  traced :
    ∀ (ticket : Nat) (origin : Thread),
      history.started[ticket]? = some origin →
        ∃ process,
          Process.Trace (history.stepsOf env ticket)
            origin.process process
  nodes :
    ∀ event ∈ history.events,
      ∃ origin,
        history.started[event.ticket]? = some origin ∧
          event.node = origin.node

section Steps

variable {before : History} {index ticket : Nat}
variable {thread : Thread} {op : ServerOp}
variable {next : op.Res → Handler Unit}

theorem stepsOf_perform_self :
    (before.perform env index ticket thread op next).stepsOf
        env ticket =
      before.stepsOf env ticket ++
        [⟨op,
          (before.world.cluster.answer env thread.node
            op).1⟩] := by
  unfold stepsOf perform
  dsimp only
  rw [List.filter_append, List.map_append]
  simp [Event.answered, Event.answer]

theorem stepsOf_perform_ne
    {other : Nat}
    (hOther : other ≠ ticket) :
    (before.perform env index ticket thread op next).stepsOf
        env other =
      before.stepsOf env other := by
  unfold stepsOf perform
  dsimp only
  rw [List.filter_append]
  simp [Ne.symm hOther]

end Steps

/- A ticket that was not given out has no operations. -/
theorem Traced.stepsOf_fresh
    {history : History}
    (hTraced : history.Traced env)
    {ticket : Nat}
    (hFresh : history.started.length ≤ ticket) :
    history.stepsOf env ticket = [] := by
  unfold stepsOf
  rw [List.map_eq_nil_iff, List.filter_eq_nil_iff]
  intro event hEvent hSame
  rcases hTraced.nodes event hEvent with ⟨origin, hOrigin, _⟩
  have hBound := (List.getElem?_eq_some_iff.mp hOrigin).1
  have hTicket := of_decide_eq_true hSame
  omega

theorem traced_begin
    (world : World) : (begin world).Traced env where
  aligned := List.length_range
  nodup := List.nodup_range
  known := fun _ hTicket => List.mem_range.mp hTicket
  running := by
    intro index thread ticket hThread hTicket
    have hSame : index = ticket := by
      rw [begin, List.getElem?_eq_some_iff] at hTicket
      rcases hTicket with ⟨hBound, hTicket⟩
      rw [← hTicket]
      simp
    rw [← hSame]
    exact ⟨thread, hThread, rfl, rfl, Process.Trace.nil _⟩
  traced := fun _ origin _ => ⟨_, Process.Trace.nil _⟩
  nodes := by simp [begin]

theorem traced_spawn
    {before : History}
    (hBefore : before.Traced env)
    (cluster : Cluster)
    (thread : Thread) :
    (before.spawn cluster thread).Traced env where
  aligned := by
    have hAligned : before.tickets.length = _ :=
      hBefore.aligned
    simp [Aligned, spawn, hAligned]
  nodup := by
    unfold spawn
    dsimp only
    rw [List.nodup_append]
    refine ⟨hBefore.nodup, List.nodup_singleton _, ?_⟩
    intro ticket hTicket fresh hFresh hSame
    have hBound := hBefore.known ticket hTicket
    rw [List.mem_singleton] at hFresh
    omega
  known := by
    intro ticket hTicket
    unfold spawn at hTicket ⊢
    dsimp only at hTicket ⊢
    rw [List.length_append, List.length_singleton]
    rcases List.mem_append.mp hTicket with hOld | hNew
    · exact Nat.lt_succ_of_lt (hBefore.known ticket hOld)
    · rw [List.mem_singleton.mp hNew]
      exact Nat.lt_succ_self _
  running := by
    intro index other ticket hOther hTicket
    unfold spawn at hOther hTicket ⊢
    dsimp only at hOther hTicket ⊢
    have hAligned : before.tickets.length = _ :=
      hBefore.aligned
    by_cases hBound : index < before.world.threads.length
    · rw [List.getElem?_append_left hBound] at hOther
      rw [List.getElem?_append_left (hAligned ▸ hBound)]
        at hTicket
      rcases hBefore.running index other ticket hOther hTicket
        with ⟨origin, hOrigin, hRest⟩
      refine ⟨origin, ?_, hRest⟩
      have hStarted :=
        (List.getElem?_eq_some_iff.mp hOrigin).1
      rw [List.getElem?_append_left hStarted]
      exact hOrigin
    · rw [not_lt] at hBound
      rw [List.getElem?_append_right hBound] at hOther
      rw [List.getElem?_append_right (hAligned ▸ hBound),
        hAligned] at hTicket
      have hFirst :
          index - before.world.threads.length = 0 := by
        have hIn :=
          (List.getElem?_eq_some_iff.mp hOther).1
        rw [List.length_singleton] at hIn
        omega
      rw [hFirst] at hOther hTicket
      have hThread : thread = other :=
        Option.some.inj hOther
      have hFresh : before.started.length = ticket :=
        Option.some.inj hTicket
      rw [← hThread, ← hFresh]
      refine ⟨thread, ?_, rfl, rfl, ?_⟩
      · simp
      · have hSteps := hBefore.stepsOf_fresh (Nat.le_refl _)
        unfold stepsOf at hSteps ⊢
        dsimp only
        rw [hSteps]
        exact Process.Trace.nil _
  traced := by
    intro ticket origin hOrigin
    unfold spawn at hOrigin
    dsimp only at hOrigin
    by_cases hBound : ticket < before.started.length
    · rw [List.getElem?_append_left hBound] at hOrigin
      exact hBefore.traced ticket origin hOrigin
    · have hSteps :=
        hBefore.stepsOf_fresh (not_lt.mp hBound)
      unfold stepsOf spawn at *
      dsimp only
      rw [hSteps]
      exact ⟨_, Process.Trace.nil _⟩
  nodes := by
    intro event hEvent
    rcases hBefore.nodes event hEvent with
      ⟨origin, hOrigin, hNode⟩
    refine ⟨origin, ?_, hNode⟩
    have hStarted := (List.getElem?_eq_some_iff.mp hOrigin).1
    unfold spawn
    dsimp only
    rw [List.getElem?_append_left hStarted]
    exact hOrigin

theorem traced_perform
    {before : History}
    (hBefore : before.Traced env)
    {index ticket : Nat}
    {thread : Thread}
    {op : ServerOp}
    {next : op.Res → Handler Unit}
    (hRunning : before.world.threads[index]? = some thread)
    (hHeld : before.tickets[index]? = some ticket)
    (hDue : thread.process = .act op next) :
    (before.perform env index ticket thread op next).Traced
      env := by
  rcases hBefore.running index thread ticket hRunning hHeld
    with ⟨origin, hOrigin, hNode, hSource, hTrace⟩
  rw [hDue] at hTrace
  have hIndex := (List.getElem?_eq_some_iff.mp hRunning).1
  have hNext :=
    hTrace.snoc
      (before.world.cluster.answer env thread.node op).1
  constructor
  · have hAligned : before.tickets.length = _ :=
      hBefore.aligned
    simp [Aligned, perform, World.perform, hAligned]
  · exact hBefore.nodup
  · exact hBefore.known
  · intro position other held hOther hTicket
    by_cases hSame : position = index
    · rw [hSame] at hOther hTicket
      have hTicketSame : ticket = held :=
        Option.some.inj (hHeld.symm.trans hTicket)
      simp only [perform, World.perform] at hOther
      rw [List.getElem?_set_self hIndex] at hOther
      rw [← Option.some.inj hOther, ← hTicketSame,
        stepsOf_perform_self]
      exact ⟨origin, hOrigin, hNode, hSource, hNext⟩
    · simp only [perform, World.perform] at hOther
      rw [List.getElem?_set_ne (Ne.symm hSame)] at hOther
      have hNe : held ≠ ticket := by
        intro hHeldSame
        apply hSame
        rw [hHeldSame] at hTicket
        have hBound :=
          (List.getElem?_eq_some_iff.mp hTicket).1
        exact
          (List.getElem?_inj hBound hBefore.nodup).mp
            (hTicket.trans hHeld.symm)
      rw [stepsOf_perform_ne hNe]
      exact
        hBefore.running position other held hOther hTicket
  · intro held other hOther
    by_cases hSame : held = ticket
    · rw [hSame] at hOther ⊢
      have hOriginSame : origin = other :=
        Option.some.inj (hOrigin.symm.trans hOther)
      rw [← hOriginSame, stepsOf_perform_self]
      exact ⟨_, hNext⟩
    · rw [stepsOf_perform_ne hSame]
      exact hBefore.traced held other hOther
  · intro event hEvent
    rcases List.mem_append.mp hEvent with hOld | hNew
    · exact hBefore.nodes event hOld
    · rw [List.mem_singleton.mp hNew]
      exact ⟨origin, hOrigin, hNode⟩

theorem traced_finish
    {before : History}
    (hBefore : before.Traced env)
    {index : Nat}
    (hIndex : index < before.world.threads.length) :
    (before.finish index).Traced env where
  aligned := by
    have hAligned : before.tickets.length = _ :=
      hBefore.aligned
    unfold Aligned finish
    dsimp only
    rw [List.length_eraseIdx_of_lt hIndex,
      List.length_eraseIdx_of_lt (hAligned ▸ hIndex),
      hAligned]
  nodup := hBefore.nodup.eraseIdx index
  known := fun ticket hTicket =>
    hBefore.known ticket (List.mem_of_mem_eraseIdx hTicket)
  running := by
    intro position other held hOther hTicket
    simp only [finish, List.getElem?_eraseIdx]
      at hOther hTicket
    split_ifs at hOther hTicket with hFirst
    · exact
        hBefore.running position other held hOther hTicket
    · exact
        hBefore.running (position + 1) other held hOther
          hTicket
  traced := hBefore.traced
  nodes := hBefore.nodes

/- Every recorded step. -/
theorem traced_step
    {before after : History}
    {label : Label}
    (hBefore : before.Traced env)
    (hStep :
      before.step env observer label = some after) :
    after.Traced env := by
  cases advance_of_step hBefore.aligned hStep with
  | @spawn _ cluster thread spawns =>
      exact traced_spawn hBefore cluster thread
  | pass passes =>
      exact
        { aligned := hBefore.aligned
          nodup := hBefore.nodup
          known := hBefore.known
          running := hBefore.running
          traced := hBefore.traced
          nodes := hBefore.nodes }
  | perform index running held due =>
      exact traced_perform hBefore running held due
  | finish index running held done =>
      exact
        traced_finish hBefore
          (List.getElem?_eq_some_iff.mp running).1

end History

/- The handlers that a node starts. -/
inductive Handles (env : Externals) : Thread → Prop where
| frame
    (node : NodeId) (conn : ConnId)
    (body : String) (readings : Readings) :
    Handles env
      { node := node
        source := .connection conn
        process := ChatServer.onMessage env conn body readings }
| closing (node : NodeId) (conn : ConnId) :
    Handles env
      { node := node
        source := .connection conn
        process := ChatServer.onConnection conn }
| notify (node : NodeId) (userid : Int) (msg : String) :
    Handles env
      { node := node
        source := .subscription node
        process :=
          ChatService.handleredissubscribemessage userid
            msg }

namespace History

theorem handles_of_spawns
    {before : World}
    {label : Label}
    {cluster : Cluster}
    {thread : Thread}
    (hSpawns :
      Spawns env observer before label cluster thread) :
    Handles env thread := by
  cases hSpawns with
  | frame conn body readings serving idle =>
      exact Handles.frame _ conn body readings
  | disconnect conn serving idle =>
      exact Handles.closing _ conn
  | notify id idle found read =>
      exact Handles.notify id _ _

/- Every handler that was started. -/
def AllHandle
    (env : Externals)
    (history : History) : Prop :=
  ∀ thread ∈ history.started, Handles env thread

theorem handles_step
    {before after : History}
    {label : Label}
    (hAligned : before.Aligned)
    (hBefore : before.AllHandle env)
    (hStep :
      before.step env observer label = some after) :
    after.AllHandle env := by
  cases advance_of_step hAligned hStep with
  | spawn spawns =>
      intro other hOther
      rcases List.mem_append.mp hOther with hOld | hNew
      · exact hBefore other hOld
      · rw [List.mem_singleton.mp hNew]
        exact handles_of_spawns spawns
  | pass => exact hBefore
  | perform => exact hBefore
  | finish => exact hBefore

/- An event is a step of its handler. -/
theorem mem_stepsOf_iff
    {history : History}
    {ticket : Nat}
    {step : Sigma ServerOp.Res} :
    step ∈ history.stepsOf env ticket ↔
      ∃ event ∈ history.events,
        event.ticket = ticket ∧ event.answered env = step := by
  simp [stepsOf, and_assoc]

/- The tickets of the handlers that have something left to
do. -/
def inProgress (history : History) : List Nat :=
  ((history.tickets.zip history.world.threads).filter
    fun entry => (nextOp entry.2.process).isSome).map
      Prod.fst

theorem mem_inProgress_iff
    {history : History}
    {ticket : Nat} :
    ticket ∈ history.inProgress ↔
      ∃ (index : Nat) (thread : Thread),
        history.world.threads[index]? = some thread ∧
          history.tickets[index]? = some ticket ∧
            (nextOp thread.process).isSome := by
  unfold inProgress
  constructor
  · intro hMember
    rcases List.mem_map.mp hMember with
      ⟨⟨held, thread⟩, hEntry, hHeld⟩
    rcases List.mem_filter.mp hEntry with ⟨hZip, hNext⟩
    rcases List.mem_iff_getElem?.mp hZip with ⟨index, hIndex⟩
    rcases List.getElem?_zip_eq_some.mp hIndex with
      ⟨hTicket, hThread⟩
    have hSame : held = ticket := hHeld
    exact
      ⟨index, thread, hThread, hSame ▸ hTicket, hNext⟩
  · intro hRunning
    rcases hRunning with
      ⟨index, thread, hThread, hTicket, hNext⟩
    refine
      List.mem_map.mpr
        ⟨⟨ticket, thread⟩, List.mem_filter.mpr ⟨?_, hNext⟩,
          rfl⟩
    exact
      List.mem_iff_getElem?.mpr
        ⟨index,
          List.getElem?_zip_eq_some.mpr ⟨hTicket, hThread⟩⟩

/- An operation makes no other handler run. -/
theorem inProgress_perform
    {before : History}
    {index ticket held : Nat}
    {thread : Thread}
    {op : ServerOp}
    {next : op.Res → Handler Unit}
    (hRunning : before.world.threads[index]? = some thread)
    (hDue : thread.process = .act op next)
    (hMember :
      held ∈
        (before.perform env index ticket thread op
          next).inProgress) :
    held ∈ before.inProgress := by
  rcases mem_inProgress_iff.mp hMember with
    ⟨position, other, hOther, hTicket, hNext⟩
  refine mem_inProgress_iff.mpr ?_
  by_cases hSame : position = index
  · refine ⟨index, thread, hRunning, hSame ▸ hTicket, ?_⟩
    rw [hDue]
    rfl
  · simp only [perform, World.perform] at hOther
    rw [List.getElem?_set_ne (Ne.symm hSame)] at hOther
    exact ⟨position, other, hOther, hTicket, hNext⟩

theorem performer_inProgress
    {before : History}
    {index ticket : Nat}
    {thread : Thread}
    {op : ServerOp}
    {next : op.Res → Handler Unit}
    (hRunning : before.world.threads[index]? = some thread)
    (hHeld : before.tickets[index]? = some ticket)
    (hDue : thread.process = .act op next) :
    ticket ∈ before.inProgress := by
  refine
    mem_inProgress_iff.mpr
      ⟨index, thread, hRunning, hHeld, ?_⟩
  rw [hDue]
  rfl

theorem inProgress_finish
    {before : History}
    {index held : Nat}
    (hMember : held ∈ (before.finish index).inProgress) :
    held ∈ before.inProgress := by
  rcases mem_inProgress_iff.mp hMember with
    ⟨position, other, hOther, hTicket, hNext⟩
  refine mem_inProgress_iff.mpr ?_
  simp only [finish, List.getElem?_eraseIdx]
    at hOther hTicket
  split_ifs at hOther hTicket
  · exact ⟨position, other, hOther, hTicket, hNext⟩
  · exact ⟨position + 1, other, hOther, hTicket, hNext⟩

/- A new handler has performed nothing. -/
theorem inProgress_spawn
    {before : History}
    (hAligned : before.Aligned)
    {cluster : Cluster}
    {thread : Thread}
    {held : Nat}
    (hMember : held ∈ (before.spawn cluster thread).inProgress) :
    held ∈ before.inProgress ∨
      held = before.started.length := by
  rcases mem_inProgress_iff.mp hMember with
    ⟨position, other, hOther, hTicket, hNext⟩
  have hLength : before.tickets.length = _ := hAligned
  unfold spawn at hOther hTicket
  dsimp only at hOther hTicket
  by_cases hBound : position < before.world.threads.length
  · rw [List.getElem?_append_left hBound] at hOther
    rw [List.getElem?_append_left (hLength ▸ hBound)]
      at hTicket
    exact
      Or.inl
        (mem_inProgress_iff.mpr
          ⟨position, other, hOther, hTicket, hNext⟩)
  · rw [not_lt] at hBound
    rw [List.getElem?_append_right (hLength ▸ hBound)]
      at hTicket
    exact
      Or.inr
        (List.mem_singleton.mp (List.mem_of_getElem? hTicket))

/- A handler that has gone away was through. -/
def GoneDone
    (env : Externals)
    (history : History) : Prop :=
  ∀ (ticket : Nat) (origin : Thread),
    history.started[ticket]? = some origin →
      ticket ∉ history.tickets →
        ∃ process,
          Process.Trace (history.stepsOf env ticket)
              origin.process process ∧
            nextOp process = none

theorem goneDone_begin
    (world : World) : (begin world).GoneDone env := by
  intro ticket origin hOrigin hGone
  have hBound := (List.getElem?_eq_some_iff.mp hOrigin).1
  exact absurd (List.mem_range.mpr hBound) hGone

theorem goneDone_step
    {before after : History}
    {label : Label}
    (hTraced : before.Traced env)
    (hBefore : before.GoneDone env)
    (hStep :
      before.step env observer label = some after) :
    after.GoneDone env := by
  intro other origin hOrigin hGone
  cases advance_of_step hTraced.aligned hStep with
  | @spawn _ cluster thread spawns =>
      unfold spawn at hOrigin hGone
      dsimp only at hOrigin hGone
      rw [List.mem_append, List.mem_singleton, not_or]
        at hGone
      have hBound :=
        (List.getElem?_eq_some_iff.mp hOrigin).1
      rw [List.length_append, List.length_singleton]
        at hBound
      have hOld : other < before.started.length := by
        omega
      rw [List.getElem?_append_left hOld] at hOrigin
      exact hBefore other origin hOrigin hGone.1
  | pass passes => exact hBefore other origin hOrigin hGone
  | @perform index ticket thread op next running held due =>
      have hNe : other ≠ ticket := by
        intro hSame
        have hTicket : ticket ∈ before.tickets :=
          List.mem_of_getElem? held
        exact hGone (hSame ▸ hTicket)
      rw [stepsOf_perform_ne hNe]
      exact hBefore other origin hOrigin hGone
  | @finish index ticket thread running held done =>
      by_cases hSame : other = ticket
      · rw [← hSame] at held
        rcases hTraced.running index thread other running held
          with ⟨start, hStart, _, _, hTrace⟩
        have hOrigins : start = origin :=
          Option.some.inj (hStart.symm.trans hOrigin)
        rw [hOrigins] at hTrace
        exact ⟨thread.process, hTrace, done⟩
      · apply hBefore other origin hOrigin
        intro hMember
        rcases List.mem_iff_getElem?.mp hMember with
          ⟨position, hPosition⟩
        apply hGone
        refine
          List.mem_eraseIdx_iff_getElem?.mpr
            ⟨position, ?_, hPosition⟩
        intro hIndex
        rw [hIndex] at hPosition
        exact
          hSame
            (Option.some.inj (hPosition.symm.trans held))

/- A handler that is not in progress has come to its end. -/
theorem GoneDone.ended
    {history : History}
    (hDone : history.GoneDone env)
    (hTraced : history.Traced env)
    {ticket : Nat}
    {origin : Thread}
    (hOrigin : history.started[ticket]? = some origin)
    (hThrough : ticket ∉ history.inProgress) :
    ∃ process,
      Process.Trace (history.stepsOf env ticket)
          origin.process process ∧
        nextOp process = none := by
  by_cases hTicket : ticket ∈ history.tickets
  · rcases List.mem_iff_getElem?.mp hTicket with
      ⟨index, hIndex⟩
    have hBound := (List.getElem?_eq_some_iff.mp hIndex).1
    have hAligned : history.tickets.length = _ :=
      hTraced.aligned
    rw [hAligned] at hBound
    have hRunning :=
      List.getElem?_eq_getElem hBound
    rcases hTraced.running index _ ticket hRunning hIndex
      with ⟨start, hStart, _, _, hTrace⟩
    have hOrigins : start = origin :=
      Option.some.inj (hStart.symm.trans hOrigin)
    rw [hOrigins] at hTrace
    refine ⟨_, hTrace, ?_⟩
    by_contra hNext
    exact
      hThrough
        (mem_inProgress_iff.mpr
          ⟨index, _, hRunning, hIndex,
            Option.isSome_iff_ne_none.mpr hNext⟩)
  · exact hDone ticket origin hOrigin hTicket

/- The tables are not touched between operations. -/
theorem db_of_spawns
    {before : World}
    {label : Label}
    {cluster : Cluster}
    {thread : Thread}
    (hSpawns :
      Spawns env observer before label cluster thread) :
    cluster.db = before.cluster.db := by
  cases hSpawns <;> rfl

theorem db_of_passes
    {before : World}
    {label : Label}
    {cluster : Cluster}
    (hPasses : Passes observer before label cluster) :
    cluster.db = before.cluster.db := by
  cases hPasses with
  | skip id found read => rfl
  | environment event =>
      exact before.cluster.db_environment event

end History

end ClusterChat
