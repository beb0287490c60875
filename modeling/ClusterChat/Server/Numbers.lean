import ClusterChat.Server.ChatRun
import ClusterChat.Server.History

/-
  The numbers that a running cluster gives out.

  `INCR` counts every conversation for all nodes, so the
  numbers of one conversation increase in the order in which
  they are taken.  The handlers of one connection run one
  after another, so they take their numbers in the order of
  the frames.

  Main declarations:
    * `History.IncrAnswered`
    * `History.Numbered` and `History.numbered_step`
    * `History.InTurn` and `History.inTurn_step`
    * `History.number_lt_of_ticket_lt`
-/

------------------------------------------------------------
-- Counters
------------------------------------------------------------

namespace ClusterChat

namespace Cluster

/- Redis answers the `INCR` of a node with an integer. -/
def AnswersIncr
    (cluster : Cluster)
    (id : NodeId)
    (convId : String) : Prop :=
  (cluster.nodes id).redis.sendsIncr = true ∧
    (cluster.nodes id).incrOutcome = .integer ∧
      cluster.counters convId + 1 < 2 ^ 63

instance
    (cluster : Cluster)
    (id : NodeId)
    (convId : String) :
    Decidable (cluster.AnswersIncr id convId) :=
  inferInstanceAs (Decidable (_ ∧ _ ∧ _))

theorem AnswersIncr.takeNumber
    {cluster : Cluster}
    {id : NodeId}
    {convId : String}
    (hAnswers : cluster.AnswersIncr id convId) :
    cluster.takeNumber id convId =
      (cluster.counters convId + 1,
        cluster.counted convId) := by
  have hRoom := hAnswers.2.2
  exact
    takeNumber_counted hAnswers.1 hAnswers.2.1 (by omega)

theorem counters_environment
    (cluster : Cluster)
    (event : EnvironmentEvent) :
    (cluster.environment event).counters =
      cluster.counters := by
  rcases cluster.environment_eq event with
    ⟨_, _, _, hSame, _⟩
  rw [hSame]

end Cluster

namespace Event

/- The operation takes this number. -/
def Takes
    (env : Externals)
    (convId : String)
    (number : Nat)
    (event : Event) : Prop :=
  event.answered env = ⟨.incrSeq convId, number⟩

theorem takes_incrSeq
    {env : Externals}
    {node : NodeId}
    {before : Cluster}
    {ticket number : Nat}
    {convId other : String} :
    Takes env other number
        { node := node
          op := .incrSeq convId
          before := before
          ticket := ticket } ↔
      convId = other ∧
        (before.takeNumber node convId).1 = number := by
  unfold Takes answered answer
  dsimp only
  rw [Sigma.mk.inj_iff]
  constructor
  · intro hSame
    have hConv : convId = other := by simpa using hSame.1
    subst hConv
    exact ⟨rfl, eq_of_heq hSame.2⟩
  · intro hSame
    rcases hSame with ⟨hConv, hNumber⟩
    subst hConv
    exact ⟨rfl, heq_of_eq hNumber⟩

end Event

namespace History

variable {env : Externals} {observer : Observer}

/- Wherever a number is taken, Redis answers with one. -/
def IncrAnswered
    (history : History)
    (label : Label) : Prop :=
  ∀ entry ∈ history.world.performs label,
    match entry.op with
    | .incrSeq convId =>
        history.world.cluster.AnswersIncr entry.node convId
    | _ => True

instance
    (history : History)
    (label : Label) :
    Decidable (IncrAnswered history label) := by
  have hOp :
      ∀ entry : Performed,
        Decidable
          (match entry.op with
            | .incrSeq convId =>
                history.world.cluster.AnswersIncr entry.node
                  convId
            | _ => True) := by
    intro entry
    split <;> infer_instance
  exact
    inferInstanceAs
      (Decidable (∀ entry ∈ history.world.performs label, _))

/- Each number of a conversation lies above the earlier ones,
and no counter has fallen behind. -/
structure Numbered
    (env : Externals)
    (history : History) : Prop where
  counted :
    ∀ event ∈ history.events,
      ∀ convId number,
        event.Takes env convId number →
          number ≤ history.world.cluster.counters convId
  increasing :
    history.events.Pairwise fun earlier later =>
      ∀ convId first second,
        earlier.Takes env convId first →
          later.Takes env convId second → first < second

theorem counters_of_spawns
    {before : World}
    {label : Label}
    {cluster : Cluster}
    {thread : Thread}
    (hSpawns :
      Spawns env observer before label cluster thread) :
    cluster.counters = before.cluster.counters := by
  cases hSpawns <;> rfl

theorem counters_of_passes
    {before : World}
    {label : Label}
    {cluster : Cluster}
    (hPasses : Passes observer before label cluster) :
    cluster.counters = before.cluster.counters := by
  cases hPasses with
  | skip id found read => rfl
  | environment event =>
      exact before.cluster.counters_environment event

/- Steps without an operation. -/
theorem Numbered.quiet
    {before after : History}
    (hBefore : before.Numbered env)
    (hEvents : after.events = before.events)
    (hCounters :
      after.world.cluster.counters =
        before.world.cluster.counters) :
    after.Numbered env := by
  constructor
  · rw [hEvents, hCounters]
    exact hBefore.counted
  · rw [hEvents]
    exact hBefore.increasing

/- An operation of a handler. -/
theorem Numbered.perform
    {before : History}
    (hBefore : before.Numbered env)
    (index ticket : Nat)
    (thread : Thread)
    {op : ServerOp}
    (next : op.Res → Handler Unit)
    (hAnswers :
      ∀ convId,
        op = .incrSeq convId →
          before.world.cluster.AnswersIncr thread.node
            convId) :
    (before.perform env index ticket thread op next).Numbered
      env := by
  by_cases hOp : op.TakesNothing
  · have hCounters :=
      (Cluster.answer_keeps env thread.node op
        before.world.cluster).counters hOp
    have hNotTaken :
        ∀ convId number,
          ¬ Event.Takes env convId number
            { node := thread.node
              op := op
              before := before.world.cluster
              ticket := ticket } := by
      intro convId number hTakes
      have hSame : op = .incrSeq convId :=
        congrArg Sigma.fst hTakes
      rw [hSame] at hOp
      exact hOp
    constructor
    · intro event hEvent convId number hTakes
      change number ≤
        (before.world.cluster.answer env thread.node
          op).2.counters convId
      rw [hCounters]
      rcases List.mem_append.mp hEvent with hOld | hNew
      · exact hBefore.counted event hOld convId number hTakes
      · rw [List.mem_singleton.mp hNew] at hTakes
        exact absurd hTakes (hNotTaken convId number)
    · refine
        List.pairwise_append.mpr
          ⟨hBefore.increasing, List.pairwise_singleton _ _,
            ?_⟩
      intro earlier _ later hLater convId first second _ hTakes
      rw [List.mem_singleton.mp hLater] at hTakes
      exact absurd hTakes (hNotTaken convId second)
  · cases op with
    | incrSeq convId =>
        have hTaken := (hAnswers convId rfl).takeNumber
        have hNumber :
            ∀ other number,
              Event.Takes env other number
                  { node := thread.node
                    op := .incrSeq convId
                    before := before.world.cluster
                    ticket := ticket } →
                other = convId ∧
                  number =
                    before.world.cluster.counters convId +
                      1 := by
          intro other number hTakes
          have hAnswer :=
            Event.takes_incrSeq.mp hTakes
          rw [hTaken] at hAnswer
          exact ⟨hAnswer.1.symm, hAnswer.2.symm⟩
        constructor
        · intro event hEvent other number hTakes
          change number ≤
            (before.world.cluster.takeNumber thread.node
              convId).2.counters other
          rw [hTaken]
          rcases List.mem_append.mp hEvent with hOld | hNew
          · have hBound :=
              hBefore.counted event hOld other number hTakes
            exact hBound.trans (Numbering.le_increment _ _ _)
          · rw [List.mem_singleton.mp hNew] at hTakes
            rcases hNumber other number hTakes with
              ⟨hSame, hValue⟩
            rw [hSame, hValue]
            unfold Cluster.counted
            dsimp only
            rw [Numbering.increment_self]
        · refine
            List.pairwise_append.mpr
              ⟨hBefore.increasing,
                List.pairwise_singleton _ _, ?_⟩
          intro earlier hEarlier later hLater other first
            second hTakes hTakesToo
          rw [List.mem_singleton.mp hLater] at hTakesToo
          rcases hNumber other second hTakesToo with
            ⟨hSame, hValue⟩
          have hBound :=
            hBefore.counted earlier hEarlier other first
              hTakes
          rw [hSame] at hBound
          omega
    | _ => exact absurd trivial hOp

/- Every step in which Redis answers. -/
theorem numbered_step
    {before after : History}
    {label : Label}
    (hBefore : before.Numbered env)
    (hTraced : before.Traced env)
    (hAnswered : before.IncrAnswered label)
    (hStep :
      before.step env observer label = some after) :
    after.Numbered env := by
  cases advance_of_step hTraced.aligned hStep with
  | spawn spawns =>
      exact hBefore.quiet rfl (counters_of_spawns spawns)
  | pass passes =>
      exact hBefore.quiet rfl (counters_of_passes passes)
  | finish index running held done =>
      exact hBefore.quiet rfl rfl
  | @perform index ticket thread op next running held due =>
      apply hBefore.perform index ticket thread next
      intro convId hOp
      have hMet :=
        hAnswered _ (World.performs_of_due running due)
      rw [hOp] at hMet
      exact hMet

------------------------------------------------------------
-- One Source, One Handler at a Time
------------------------------------------------------------

/-
  The handlers of one source run one after another: none of
  them started while an earlier one was still running, and
  all the operations of one come before those of the next.
-/
structure InTurn (history : History) : Prop where
  latest :
    ∀ (index : Nat) (thread : Thread) (ticket : Nat),
      history.world.threads[index]? = some thread →
        history.tickets[index]? = some ticket →
          ∀ (later : Nat) (other : Thread),
            history.started[later]? = some other →
              ticket < later → other.source ≠ thread.source
  ordered :
    history.events.Pairwise fun earlier later =>
      ∀ first second,
        history.started[earlier.ticket]? = some first →
          history.started[later.ticket]? = some second →
            first.source = second.source →
              earlier.ticket ≤ later.ticket

theorem inTurn_begin
    {start : World}
    (hStart : start.threads = []) :
    (begin start).InTurn where
  latest := by simp [begin, hStart]
  ordered := List.Pairwise.nil

/- A source that is not busy has no running handler. -/
theorem source_ne_of_idle
    {world : World}
    {source : Source}
    (hIdle : world.busy source = false)
    {thread : Thread}
    (hThread : thread ∈ world.threads) :
    source ≠ thread.source := by
  intro hSame
  have hBusy : world.busy source = true :=
    List.any_eq_true.mpr
      ⟨thread, hThread, decide_eq_true hSame.symm⟩
  rw [hIdle] at hBusy
  exact Bool.noConfusion hBusy

theorem idle_of_spawns
    {before : World}
    {label : Label}
    {cluster : Cluster}
    {thread : Thread}
    (hSpawns :
      Spawns env observer before label cluster thread) :
    before.busy thread.source = false := by
  cases hSpawns with
  | frame conn body readings serving idle => exact idle
  | disconnect conn serving idle => exact idle
  | notify id idle found read => exact idle

theorem InTurn.spawn
    {before : History}
    (hBefore : before.InTurn)
    (hTraced : before.Traced env)
    (cluster : Cluster)
    {thread : Thread}
    (hIdle : before.world.busy thread.source = false) :
    (before.spawn cluster thread).InTurn where
  latest := by
    intro index other ticket hOther hTicket later newer hNewer
      hLess
    have hAligned : before.tickets.length = _ :=
      hTraced.aligned
    unfold History.spawn at hOther hTicket hNewer
    dsimp only at hOther hTicket hNewer
    have hLater := (List.getElem?_eq_some_iff.mp hNewer).1
    rw [List.length_append, List.length_singleton] at hLater
    by_cases hBound : index < before.world.threads.length
    · rw [List.getElem?_append_left hBound] at hOther
      rw [List.getElem?_append_left (hAligned ▸ hBound)]
        at hTicket
      by_cases hOld : later < before.started.length
      · rw [List.getElem?_append_left hOld] at hNewer
        exact
          hBefore.latest index other ticket hOther hTicket
            later newer hNewer hLess
      · have hLast : later = before.started.length := by
          omega
        rw [hLast, List.getElem?_concat_length] at hNewer
        rw [← Option.some.inj hNewer]
        exact
          source_ne_of_idle hIdle
            (List.mem_of_getElem? hOther)
    · rw [not_lt] at hBound
      rw [List.getElem?_append_right (hAligned ▸ hBound)]
        at hTicket
      have hFresh :=
        List.mem_singleton.mp (List.mem_of_getElem? hTicket)
      omega
  ordered := by
    refine hBefore.ordered.imp_of_mem ?_
    intro earlier later hEarlier hLater hOrder first second
      hFirst hSecond hSource
    have hKnown :
        ∀ event ∈ before.events,
          ∀ origin,
            (before.spawn cluster
                thread).started[event.ticket]? =
                some origin →
              before.started[event.ticket]? =
                some origin := by
      intro event hEvent origin hOrigin
      rcases hTraced.nodes event hEvent with ⟨start, hStart, _⟩
      have hBound := (List.getElem?_eq_some_iff.mp hStart).1
      rw [← hOrigin]
      exact (List.getElem?_append_left hBound).symm
    exact
      hOrder first second (hKnown earlier hEarlier first hFirst)
        (hKnown later hLater second hSecond) hSource

theorem InTurn.perform
    {before : History}
    (hBefore : before.InTurn)
    (hTraced : before.Traced env)
    {index ticket : Nat}
    {thread : Thread}
    {op : ServerOp}
    {next : op.Res → Handler Unit}
    (hRunning : before.world.threads[index]? = some thread)
    (hHeld : before.tickets[index]? = some ticket) :
    (before.perform env index ticket thread op next).InTurn
    where
  latest := by
    intro position other held hOther hTicket later newer
      hNewer hLess
    by_cases hSame : position = index
    · have hBound :=
        (List.getElem?_eq_some_iff.mp hRunning).1
      rw [hSame] at hOther hTicket
      simp only [History.perform, World.perform] at hOther
      rw [List.getElem?_set_self hBound] at hOther
      rw [← Option.some.inj hOther]
      exact
        hBefore.latest index thread held hRunning hTicket
          later newer hNewer hLess
    · simp only [History.perform, World.perform] at hOther
      rw [List.getElem?_set_ne (Ne.symm hSame)] at hOther
      exact
        hBefore.latest position other held hOther hTicket
          later newer hNewer hLess
  ordered := by
    refine
      List.pairwise_append.mpr
        ⟨hBefore.ordered, List.pairwise_singleton _ _, ?_⟩
    intro earlier hEarlier later hLater first second hFirst
      hSecond hSource
    rw [List.mem_singleton.mp hLater] at hSecond ⊢
    rcases hTraced.running index thread ticket hRunning hHeld
      with ⟨origin, hOrigin, _, hThread, _⟩
    have hSame : origin = second :=
      Option.some.inj (hOrigin.symm.trans hSecond)
    by_contra hLate
    refine
      hBefore.latest index thread ticket hRunning hHeld
        earlier.ticket first hFirst (not_le.mp hLate) ?_
    rw [hSource, ← hSame, hThread]

theorem InTurn.finish
    {before : History}
    (hBefore : before.InTurn)
    (index : Nat) :
    (before.finish index).InTurn where
  latest := by
    intro position other held hOther hTicket
    simp only [History.finish, List.getElem?_eraseIdx]
      at hOther hTicket
    split_ifs at hOther hTicket
    · exact
        hBefore.latest position other held hOther hTicket
    · exact
        hBefore.latest (position + 1) other held hOther
          hTicket
  ordered := hBefore.ordered

theorem inTurn_step
    {before after : History}
    {label : Label}
    (hBefore : before.InTurn)
    (hTraced : before.Traced env)
    (hStep :
      before.step env observer label = some after) :
    after.InTurn := by
  cases advance_of_step hTraced.aligned hStep with
  | @spawn _ cluster thread spawns =>
      exact
        hBefore.spawn hTraced cluster (idle_of_spawns spawns)
  | pass passes => exact ⟨hBefore.latest, hBefore.ordered⟩
  | perform index running held due =>
      exact hBefore.perform hTraced running held
  | finish index running held done =>
      exact hBefore.finish index

------------------------------------------------------------
-- The Order of Numbers
------------------------------------------------------------

variable {history : History}

/- Of two events with different tickets, one comes first. -/
theorem rel_or_rel
    {relation : Event → Event → Prop}
    {events : List Event}
    (hEvents : events.Pairwise relation)
    {first second : Event}
    (hFirst : first ∈ events)
    (hSecond : second ∈ events)
    (hOther : first.ticket ≠ second.ticket) :
    relation first second ∨ relation second first := by
  have hEither :
      events.Pairwise fun earlier later =>
        relation earlier later ∨ relation later earlier :=
    hEvents.imp Or.inl
  have hSymm :
      Std.Symm fun earlier later : Event =>
        relation earlier later ∨ relation later earlier :=
    ⟨fun _ _ => Or.symm⟩
  refine hEither.forall hFirst hSecond ?_
  intro hSame
  exact hOther (congrArg Event.ticket hSame)

/- Different handlers never take the same number of a
conversation. -/
theorem number_ne
    (hNumbered : history.Numbered env)
    {first second : Event}
    (hFirst : first ∈ history.events)
    (hSecond : second ∈ history.events)
    (hOther : first.ticket ≠ second.ticket)
    {convId : String}
    {n m : Nat}
    (hTakes : first.Takes env convId n)
    (hTakesToo : second.Takes env convId m) :
    n ≠ m := by
  rcases rel_or_rel hNumbered.increasing hFirst hSecond hOther
    with hLess | hMore
  · exact (hLess convId n m hTakes hTakesToo).ne
  · exact (hMore convId m n hTakesToo hTakes).ne'

/- The numbers of one source increase with the order of its
handlers. -/
theorem number_lt_of_ticket_lt
    (hNumbered : history.Numbered env)
    (hInTurn : history.InTurn)
    {first second : Event}
    (hFirst : first ∈ history.events)
    (hSecond : second ∈ history.events)
    {one other : Thread}
    (hOne : history.started[first.ticket]? = some one)
    (hOther : history.started[second.ticket]? = some other)
    (hSource : one.source = other.source)
    (hLess : first.ticket < second.ticket)
    {convId : String}
    {n m : Nat}
    (hTakes : first.Takes env convId n)
    (hTakesToo : second.Takes env convId m) :
    n < m := by
  have hBoth :=
    hNumbered.increasing.and hInTurn.ordered
  rcases rel_or_rel hBoth hFirst hSecond hLess.ne with
    hBefore | hAfter
  · exact hBefore.1 convId n m hTakes hTakesToo
  · have hOrder :=
      hAfter.2 other one hOther hOne hSource.symm
    omega

end History

end ClusterChat
