import ClusterChat.Library.Transition
import ClusterChat.Server.Cluster

/-
  The cluster with all the handlers that are running.

  A handler is a thread that performs one operation at a
  time, in any order with the others.  The frames and the
  closing of one connection are handled one after another,
  and so are the replies of one subscription.

  Main declarations:
    * `Thread`, `Performed`, and `World`
    * `Label` and `World.step`
    * `World.Move` and `World.move_of_step`
    * `World.run_alone`
-/

------------------------------------------------------------
-- Threads
------------------------------------------------------------

namespace ClusterChat

/- Where the events of a thread come from. -/
inductive Source where
| connection (conn : ConnId)
| subscription (node : NodeId)
deriving DecidableEq, Repr

/- A running handler. -/
structure Thread where
  node : NodeId
  source : Source
  process : Handler Unit

/- The operation that a handler performs next. -/
def nextOp : Handler Unit → Option ServerOp
| .act op _ => some op
| _ => none

/- An operation of the past, with the state it found. -/
structure Performed where
  node : NodeId
  op : ServerOp
  before : Cluster

/- The cluster, the threads, and what they have performed. -/
structure World where
  cluster : Cluster
  threads : List Thread
  log : List Performed

------------------------------------------------------------
-- Steps
------------------------------------------------------------

/- What Redis and the network do on their own. -/
inductive EnvironmentEvent where
| serveSubscription (node : NodeId)
| setIncrOutcome (node : NodeId) (outcome : IncrOutcome)
| setPublishLink (node : NodeId) (up : Bool)
| setSubscribeLink (node : NodeId) (up : Bool)
| rehash (node : NodeId) (userConnMap : UserConnMap)

/- The effect of such an event; a new iteration order of a
map keeps its entries. -/
def Cluster.environment
    (cluster : Cluster) : EnvironmentEvent → Cluster
| .serveSubscription id => cluster.serveSubscription id
| .setIncrOutcome id outcome =>
    cluster.setNode id
      { cluster.nodes id with incrOutcome := outcome }
| .setPublishLink id up =>
    cluster.setNode id
      { cluster.nodes id with publishLink := up }
| .setSubscribeLink id up =>
    cluster.setNode id
      { cluster.nodes id with subscribeLink := up }
| .rehash id userConnMap =>
    if userConnMap.entries.Perm
        (cluster.nodes id).userConnMap.entries then
      cluster.setMap id userConnMap
    else
      cluster

/- Redis and the network change nodes and subscriptions, and
what they add to the replies are confirmations. -/
theorem Cluster.environment_eq
    (cluster : Cluster)
    (event : EnvironmentEvent) :
    ∃ nodes subscriptions confirmations,
      cluster.environment event =
          { cluster with
            nodes := nodes
            subscriptions := subscriptions
            replies := cluster.replies ++ confirmations } ∧
        ∀ entry ∈ confirmations,
          ∃ kind channel count,
            entry.2 =
              Redis.confirmationReply kind channel count := by
  have hConfirms :
      ∀ (id : NodeId) (kind channel : String) (count : Int),
        ∀ entry ∈
          [(id,
            Redis.confirmationReply kind channel count)],
          ∃ kind channel count,
            entry.2 =
              Redis.confirmationReply kind channel
                count := by
    intro id kind channel count entry hEntry
    rw [List.mem_singleton.mp hEntry]
    exact ⟨kind, channel, count, rfl⟩
  have hNodes :
      ∀ nodes,
        ∃ others subscriptions confirmations,
          { cluster with nodes := nodes } =
              { cluster with
                nodes := others
                subscriptions := subscriptions
                replies :=
                  cluster.replies ++ confirmations } ∧
            ∀ entry ∈ confirmations,
              ∃ kind channel count,
                entry.2 =
                  Redis.confirmationReply kind channel
                    count := by
    intro nodes
    refine
      ⟨nodes, cluster.subscriptions, [], ?_, by simp⟩
    rw [List.append_nil]
  cases event with
  | serveSubscription id =>
      unfold environment serveSubscription
      dsimp only
      split
      · exact hNodes cluster.nodes
      · unfold executeCommand
        split
        · split
          · exact ⟨_, _, _, rfl, hConfirms _ _ _ _⟩
          · split
            · exact ⟨_, _, _, rfl, hConfirms _ _ _ _⟩
            · exact hNodes _
        · exact hNodes _
  | rehash id userConnMap =>
      unfold environment
      dsimp only
      split
      · exact hNodes _
      · exact hNodes cluster.nodes
  | _ => exact hNodes _

theorem Cluster.db_environment
    (cluster : Cluster)
    (event : EnvironmentEvent) :
    (cluster.environment event).db = cluster.db := by
  rcases cluster.environment_eq event with
    ⟨_, _, _, hSame, _⟩
  rw [hSame]

/- Redis and the network take no reply away. -/
theorem Cluster.mem_replies_environment
    {cluster : Cluster}
    {entry : NodeId × RedisReply}
    (hReply : entry ∈ cluster.replies)
    (event : EnvironmentEvent) :
    entry ∈ (cluster.environment event).replies := by
  rcases cluster.environment_eq event with
    ⟨_, _, _, hSame, _⟩
  rw [hSame]
  exact List.mem_append_left _ hReply

/- What can happen next. -/
inductive Label where
| frame
    (conn : ConnId) (body : String) (readings : Readings)
| disconnect (conn : ConnId)
| observe (node : NodeId)
| run (index : Nat)
| environment (event : EnvironmentEvent)

/- The first reply for a node, and what stays behind. -/
def takeReply
    (id : NodeId) :
    List (NodeId × RedisReply) →
      Option (RedisReply × List (NodeId × RedisReply))
| [] => none
| entry :: entries =>
    if entry.1 = id then
      some (entry.2, entries)
    else
      (takeReply id entries).map fun taken =>
        (taken.1, entry :: taken.2)

/- Every other reply stays. -/
theorem mem_of_takeReply
    {id : NodeId}
    {entries rest : List (NodeId × RedisReply)}
    {reply : RedisReply}
    (hTake : takeReply id entries = some (reply, rest))
    {other : NodeId × RedisReply}
    (hMember : other ∈ entries) :
    other = (id, reply) ∨ other ∈ rest := by
  induction entries generalizing rest with
  | nil => simp at hMember
  | cons entry entries ih =>
      unfold takeReply at hTake
      split at hTake
      · rename_i hId
        have hTaken := Option.some.inj hTake
        have hReply : entry.2 = reply :=
          congrArg Prod.fst hTaken
        have hRest : entries = rest :=
          congrArg Prod.snd hTaken
        rw [← hRest, ← hReply, ← hId]
        exact List.mem_cons.mp hMember
      · rcases Option.map_eq_some_iff.mp hTake with
          ⟨⟨first, others⟩, hInner, hTaken⟩
        have hReply : first = reply :=
          congrArg Prod.fst hTaken
        have hRest : entry :: others = rest :=
          congrArg Prod.snd hTaken
        rw [← hRest]
        rcases List.mem_cons.mp hMember with hHere | hThere
        · exact Or.inr (hHere ▸ List.mem_cons_self)
        · have hTail := ih (hReply ▸ hInner) hThere
          exact hTail.imp_right (List.mem_cons_of_mem _)

/- What is taken or stays was there. -/
theorem mem_of_taken
    {id : NodeId}
    {entries rest : List (NodeId × RedisReply)}
    {reply : RedisReply}
    (hTake : takeReply id entries = some (reply, rest)) :
    (id, reply) ∈ entries ∧
      ∀ other ∈ rest, other ∈ entries := by
  induction entries generalizing rest with
  | nil => simp [takeReply] at hTake
  | cons entry entries ih =>
      unfold takeReply at hTake
      split at hTake
      · rename_i hId
        have hTaken := Option.some.inj hTake
        have hReply : entry.2 = reply :=
          congrArg Prod.fst hTaken
        have hRest : entries = rest :=
          congrArg Prod.snd hTaken
        rw [← hRest, ← hReply, ← hId]
        exact
          ⟨List.mem_cons_self, fun _ =>
            List.mem_cons_of_mem _⟩
      · rcases Option.map_eq_some_iff.mp hTake with
          ⟨⟨first, others⟩, hInner, hTaken⟩
        have hReply : first = reply :=
          congrArg Prod.fst hTaken
        have hRest : entry :: others = rest :=
          congrArg Prod.snd hTaken
        rcases ih (hReply ▸ hInner) with ⟨hFound, hStay⟩
        refine ⟨List.mem_cons_of_mem _ hFound, ?_⟩
        rw [← hRest]
        exact List.cons_subset_cons entry hStay

/- The part of `observer_channel_message` that picks the
arguments of the callback. -/
abbrev Observer := RedisReply → Option (Int × String)

namespace World

/- Start a handler. -/
def spawn
    (world : World)
    (thread : Thread) : World :=
  { world with threads := world.threads ++ [thread] }

/- A handler for the source is running. -/
def busy
    (world : World)
    (source : Source) : Bool :=
  world.threads.any fun thread =>
    decide (thread.source = source)

/- A node has taken a reply from its subscription. -/
def withReplies
    (world : World)
    (replies : List (NodeId × RedisReply)) : World :=
  { world with
    cluster := { world.cluster with replies := replies } }

/- The handler of a frame. -/
def frameThread
    (env : Externals)
    (world : World)
    (conn : ConnId)
    (body : String)
    (readings : Readings) : Thread where
  node := world.cluster.home conn
  source := .connection conn
  process := ChatServer.onMessage env conn body readings

/- The handler of a closing. -/
def closeThread
    (world : World)
    (conn : ConnId) : Thread where
  node := world.cluster.home conn
  source := .connection conn
  process := ChatServer.onConnection conn

/- The handler of a published message. -/
def notifyThread
    (id : NodeId)
    (userid : Int)
    (msg : String) : Thread where
  node := id
  source := .subscription id
  process := ChatService.handleredissubscribemessage userid msg

/- A thread performs its next operation. -/
def perform
    (env : Externals)
    (world : World)
    (index : Nat)
    (thread : Thread)
    (op : ServerOp)
    (next : op.Res → Handler Unit) : World :=
  let answered :=
    world.cluster.answer env thread.node op
  { cluster := answered.2
    threads :=
      world.threads.set index
        { thread with process := next answered.1 }
    log :=
      world.log ++ [⟨thread.node, op, world.cluster⟩] }

/-
  One step.  Frames and closings come from connections that
  are not down; a thread that is through goes away.
-/
def step
    (env : Externals)
    (observer : Observer)
    (world : World) : Label → Option World
| .frame conn body readings =>
    if world.cluster.conns conn = .disconnected ∨
        world.busy (.connection conn) then
      none
    else
      some (world.spawn
        (world.frameThread env conn body readings))
| .disconnect conn =>
    if world.cluster.conns conn = .disconnected ∨
        world.busy (.connection conn) then
      none
    else
      some (World.spawn
        { world with
          cluster := world.cluster.disconnect conn }
        (world.closeThread conn))
| .observe id =>
    if world.busy (.subscription id) then
      none
    else
      match takeReply id world.cluster.replies with
      | none => none
      | some (reply, rest) =>
          match observer reply with
          | some (userid, msg) =>
              some ((world.withReplies rest).spawn
                (notifyThread id userid msg))
          | none => some (world.withReplies rest)
| .run index =>
    match world.threads[index]? with
    | none => none
    | some thread =>
        match thread.process with
        | .act op next =>
            some (world.perform env index thread op next)
        | _ =>
            some
              { world with
                threads := world.threads.eraseIdx index }
| .environment event =>
    some
      { world with
        cluster := world.cluster.environment event }

/- The operation that a step performs, if it is one. -/
def performs
    (world : World) : Label → Option Performed
| .run index =>
    world.threads[index]?.bind fun thread =>
      (nextOp thread.process).map fun op =>
        ⟨thread.node, op, world.cluster⟩
| _ => none

------------------------------------------------------------
-- The Kinds of Steps
------------------------------------------------------------

/- Every step, by what it does. -/
inductive Move
    (env : Externals)
    (observer : Observer)
    (before : World) : Label → World → Prop where
| frame
    (conn : ConnId) (body : String) (readings : Readings) :
    Move env observer before (.frame conn body readings)
      (before.spawn
        (before.frameThread env conn body readings))
| disconnect (conn : ConnId) :
    Move env observer before (.disconnect conn)
      (World.spawn
        { before with
          cluster := before.cluster.disconnect conn }
        (before.closeThread conn))
| notify
    (id : NodeId) {reply : RedisReply}
    {rest : List (NodeId × RedisReply)}
    {userid : Int} {msg : String}
    (found :
      takeReply id before.cluster.replies =
        some (reply, rest))
    (read : observer reply = some (userid, msg)) :
    Move env observer before (.observe id)
      ((before.withReplies rest).spawn
        (notifyThread id userid msg))
| skip
    (id : NodeId) {reply : RedisReply}
    {rest : List (NodeId × RedisReply)}
    (found :
      takeReply id before.cluster.replies =
        some (reply, rest))
    (read : observer reply = none) :
    Move env observer before (.observe id)
      (before.withReplies rest)
| perform
    (index : Nat) {thread : Thread} {op : ServerOp}
    {next : op.Res → Handler Unit}
    (running : before.threads[index]? = some thread)
    (due : thread.process = .act op next) :
    Move env observer before (.run index)
      (before.perform env index thread op next)
| finish
    (index : Nat) {thread : Thread}
    (running : before.threads[index]? = some thread)
    (done : nextOp thread.process = none) :
    Move env observer before (.run index)
      { before with
        threads := before.threads.eraseIdx index }
| environment (event : EnvironmentEvent) :
    Move env observer before (.environment event)
      { before with
        cluster := before.cluster.environment event }

theorem move_of_step
    {env : Externals}
    {observer : Observer}
    {before after : World}
    {label : Label}
    (hStep :
      before.step env observer label = some after) :
    Move env observer before label after := by
  cases label with
  | frame conn body readings =>
      simp only [step] at hStep
      split at hStep
      · simp at hStep
      · rw [← Option.some.inj hStep]
        exact Move.frame conn body readings
  | disconnect conn =>
      simp only [step] at hStep
      split at hStep
      · simp at hStep
      · rw [← Option.some.inj hStep]
        exact Move.disconnect conn
  | observe id =>
      simp only [step] at hStep
      split at hStep
      · simp at hStep
      split at hStep
      · simp at hStep
      · rename_i reply rest hFound
        split at hStep
        · rename_i userid msg hRead
          rw [← Option.some.inj hStep]
          exact Move.notify id hFound hRead
        · rename_i hRead
          rw [← Option.some.inj hStep]
          exact Move.skip id hFound hRead
  | run index =>
      simp only [step] at hStep
      split at hStep
      · simp at hStep
      · rename_i thread hThread
        split at hStep
        · rename_i op next hDue
          rw [← Option.some.inj hStep]
          exact Move.perform index hThread hDue
        · rename_i hDone
          rw [← Option.some.inj hStep]
          refine Move.finish index hThread ?_
          unfold nextOp
          split
          · rename_i op next hDue
            exact absurd hDue (hDone op next)
          · rfl
  | environment event =>
      simp only [step] at hStep
      rw [← Option.some.inj hStep]
      exact Move.environment event

theorem performs_of_due
    {world : World}
    {index : Nat}
    {thread : Thread}
    {op : ServerOp}
    {next : op.Res → Handler Unit}
    (hRunning : world.threads[index]? = some thread)
    (hDue : thread.process = .act op next) :
    world.performs (.run index) =
      some ⟨thread.node, op, world.cluster⟩ := by
  simp only [performs]
  rw [hRunning, Option.bind_some, hDue]
  rfl

/- A thread after a step is one of before, or the one that
has performed an operation. -/
theorem mem_threads_perform
    {env : Externals}
    {world : World}
    {index : Nat}
    {thread other : Thread}
    {op : ServerOp}
    {next : op.Res → Handler Unit}
    (hMember :
      other ∈
        (world.perform env index thread op next).threads) :
    other ∈ world.threads ∨
      other =
        { thread with
          process :=
            next
              (world.cluster.answer env thread.node op).1 } :=
  List.mem_or_eq_of_mem_set hMember

/- The other threads are still there. -/
theorem mem_perform_of_mem
    {env : Externals}
    {world : World}
    {index : Nat}
    {thread other : Thread}
    {op : ServerOp}
    {next : op.Res → Handler Unit}
    (hRunning : world.threads[index]? = some thread)
    (hMember : other ∈ world.threads) :
    other = thread ∨
      other ∈
        (world.perform env index thread op next).threads := by
  rcases List.mem_iff_getElem?.mp hMember with ⟨i, hOther⟩
  by_cases hIndex : i = index
  · rw [hIndex, hRunning] at hOther
    exact Or.inl (Option.some.inj hOther).symm
  · refine Or.inr (List.mem_of_getElem? (i := i) ?_)
    unfold perform
    dsimp only
    rw [List.getElem?_set_ne (Ne.symm hIndex)]
    exact hOther

theorem mem_eraseIdx_of_mem
    {threads : List Thread}
    {index : Nat}
    {thread other : Thread}
    (hRunning : threads[index]? = some thread)
    (hMember : other ∈ threads) :
    other = thread ∨ other ∈ threads.eraseIdx index := by
  rcases List.mem_iff_getElem?.mp hMember with ⟨i, hOther⟩
  by_cases hIndex : i = index
  · rw [hIndex, hRunning] at hOther
    exact Or.inl (Option.some.inj hOther).symm
  · exact
      Or.inr
        (List.mem_eraseIdx_iff_getElem?.mpr
          ⟨i, hIndex, hOther⟩)

/- The thread that has performed its operation goes on. -/
theorem next_mem_perform
    (env : Externals)
    {world : World}
    {index : Nat}
    {thread : Thread}
    (op : ServerOp)
    (next : op.Res → Handler Unit)
    (hRunning : world.threads[index]? = some thread) :
    { thread with
      process :=
        next (world.cluster.answer env thread.node op).1 } ∈
      (world.perform env index thread op next).threads := by
  have hBound :=
    (List.getElem?_eq_some_iff.mp hRunning).1
  exact List.mem_set hBound _

------------------------------------------------------------
-- Uninterrupted Handlers
------------------------------------------------------------

/- A thread that runs alone does what `execute` says. -/
theorem run_alone
    (env : Externals)
    (observer : Observer)
    (id : NodeId)
    (source : Source)
    (process : Handler Unit)
    (cluster : Cluster)
    (log : List Performed) :
    ∃ labels final,
      Transition.Run (step env observer) (fun _ _ => True)
          { cluster := cluster
            threads := [⟨id, source, process⟩]
            log := log } labels final ∧
        final.cluster = cluster.execute env id process ∧
          final.threads = [] := by
  induction process generalizing cluster log with
  | ret value =>
      have hFirst :
          Transition.Run (step env observer)
            (fun _ _ => True)
            { cluster := cluster
              threads := [⟨id, source, .ret value⟩]
              log := log } [.run 0]
            { cluster := cluster
              threads := []
              log := log } :=
        Transition.Run.single trivial rfl
      exact ⟨_, _, hFirst, rfl, rfl⟩
  | throw error =>
      have hFirst :
          Transition.Run (step env observer)
            (fun _ _ => True)
            { cluster := cluster
              threads := [⟨id, source, .throw error⟩]
              log := log } [.run 0]
            { cluster := cluster
              threads := []
              log := log } :=
        Transition.Run.single trivial rfl
      exact ⟨_, _, hFirst, rfl, rfl⟩
  | act op next ih =>
      rcases ih (cluster.answer env id op).1
          (cluster.answer env id op).2
          (log ++ [⟨id, op, cluster⟩]) with
        ⟨labels, final, hRun, hCluster, hThreads⟩
      have hFirst :
          Transition.Run (step env observer)
            (fun _ _ => True)
            { cluster := cluster
              threads := [⟨id, source, .act op next⟩]
              log := log } [.run 0] _ :=
        Transition.Run.single trivial rfl
      exact
        ⟨_, final, hFirst.append hRun, hCluster, hThreads⟩

end World

end ClusterChat
