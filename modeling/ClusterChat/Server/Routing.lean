import ClusterChat.Server.World

/-
  A message that is published on one node for a user of
  another one.

  The observer of a node takes the addressee from the wrong
  field of the channel element: a bulk string has no integer.
  So every published message is handled as one for user 0.

  Main declarations:
    * `Cluster.observeReply` and `Cluster.drain`
    * `World.run_observer`
    * `Cluster.ReachesUser`
    * `Cluster.reachesUser_iff`
-/

------------------------------------------------------------
-- The Observer Loop
------------------------------------------------------------

namespace ClusterChat

namespace Cluster

/- The replies on their way to a node, in order. -/
def repliesOf
    (cluster : Cluster)
    (id : NodeId) : List RedisReply :=
  (cluster.replies.filter fun entry =>
    entry.1 = id).map Prod.snd

/- The replies on their way to the other nodes. -/
def otherReplies
    (cluster : Cluster)
    (id : NodeId) : List (NodeId × RedisReply) :=
  cluster.replies.filter fun entry => entry.1 ≠ id

/- Replace the replies that are on their way. -/
def withReplies
    (cluster : Cluster)
    (replies : List (NodeId × RedisReply)) : Cluster :=
  { cluster with replies := replies }

/- One turn of `observer_channel_message`, with the callback
executed completely. -/
def observeReply
    (env : Externals)
    (id : NodeId)
    (cluster : Cluster)
    (reply : RedisReply) : Cluster :=
  match Redis.observe reply with
  | some (userid, msg) =>
      cluster.execute env id
        (ChatService.handleredissubscribemessage userid msg)
  | none => cluster

/- The observer of a node takes everything on its way. -/
def drain
    (env : Externals)
    (id : NodeId)
    (cluster : Cluster) : Cluster :=
  (cluster.repliesOf id).foldl (observeReply env id)
    (cluster.withReplies (cluster.otherReplies id))

/- The calls of the callback, in order. -/
def calls
    (id : NodeId)
    (cluster : Cluster) : List (Int × String) :=
  (cluster.repliesOf id).filterMap Redis.observe

------------------------------------------------------------
-- What the Callback Does
------------------------------------------------------------

variable (env : Externals) {id : NodeId}

/- A user of the node is written to. -/
theorem execute_notify_of_some
    {cluster : Cluster}
    {userid : Int}
    {conn : ConnId}
    (hConn : cluster.connOf id userid = some conn)
    (msg : String) :
    cluster.execute env id
        (ChatService.handleredissubscribemessage userid
          msg) =
      cluster.sendWithHeader conn msg := by
  unfold execute ChatService.handleredissubscribemessage
  rw [ask_bind, Process.exec_act]
  simp only [answer]
  rw [hConn]
  rfl

/- For anyone else the message is stored. -/
theorem execute_notify_of_none
    {cluster : Cluster}
    {userid : Int}
    (hConn : cluster.connOf id userid = none)
    (msg : String) :
    cluster.execute env id
        (ChatService.handleredissubscribemessage userid
          msg) =
      cluster.setDb
        (OfflineMessageModel.insert env.codec cluster.db
          userid msg) := by
  unfold execute ChatService.handleredissubscribemessage
  rw [ask_bind, Process.exec_act]
  simp only [answer]
  rw [hConn]
  rfl

/- The callback does not look at the replies. -/
theorem execute_notify_withReplies
    (cluster : Cluster)
    (replies : List (NodeId × RedisReply))
    (userid : Int)
    (msg : String) :
    (cluster.withReplies replies).execute env id
        (ChatService.handleredissubscribemessage userid
          msg) =
      (cluster.execute env id
        (ChatService.handleredissubscribemessage userid
          msg)).withReplies replies := by
  cases hConn : cluster.connOf id userid with
  | some conn =>
      have hOther :
          (cluster.withReplies replies).connOf id userid =
            some conn :=
        hConn
      rw [execute_notify_of_some env hConn,
        execute_notify_of_some env hOther]
      unfold sendWithHeader withReplies
      dsimp only
      split <;> rfl
  | none =>
      have hOther :
          (cluster.withReplies replies).connOf id userid =
            none :=
        hConn
      rw [execute_notify_of_none env hConn,
        execute_notify_of_none env hOther]
      rfl

theorem observeReply_withReplies
    (cluster : Cluster)
    (replies : List (NodeId × RedisReply))
    (reply : RedisReply) :
    observeReply env id (cluster.withReplies replies) reply =
      (observeReply env id cluster reply).withReplies
        replies := by
  unfold observeReply
  split
  · exact execute_notify_withReplies env _ _ _ _
  · rfl

theorem foldl_observeReply_withReplies
    (cluster : Cluster)
    (replies : List (NodeId × RedisReply))
    (taken : List RedisReply) :
    taken.foldl (observeReply env id)
        (cluster.withReplies replies) =
      (taken.foldl (observeReply env id)
        cluster).withReplies replies := by
  induction taken generalizing cluster with
  | nil => rfl
  | cons reply taken ih =>
      rw [List.foldl_cons, List.foldl_cons,
        observeReply_withReplies, ih]

theorem drain_eq (cluster : Cluster) :
    cluster.drain env id =
      ((cluster.repliesOf id).foldl (observeReply env id)
        cluster).withReplies (cluster.otherReplies id) :=
  foldl_observeReply_withReplies env _ _ _

/- The callback leaves the maps and connections alone. -/
theorem observeReply_keeps
    (id : NodeId)
    (cluster : Cluster)
    (reply : RedisReply) :
    (observeReply env id cluster reply).nodes =
        cluster.nodes ∧
      (observeReply env id cluster reply).conns =
        cluster.conns := by
  unfold observeReply
  split
  · rename_i userid msg hRead
    cases hConn : cluster.connOf id userid with
    | some conn =>
        rw [execute_notify_of_some env hConn]
        unfold sendWithHeader
        split <;> exact ⟨rfl, rfl⟩
    | none =>
        rw [execute_notify_of_none env hConn]
        exact ⟨rfl, rfl⟩
  · exact ⟨rfl, rfl⟩

theorem drain_keeps
    (id : NodeId)
    (cluster : Cluster) :
    (cluster.drain env id).nodes = cluster.nodes ∧
      (cluster.drain env id).conns = cluster.conns := by
  rw [drain_eq]
  generalize cluster.repliesOf id = taken
  change
    (taken.foldl (observeReply env id) cluster).nodes =
        cluster.nodes ∧
      (taken.foldl (observeReply env id) cluster).conns =
        cluster.conns
  induction taken generalizing cluster with
  | nil => exact ⟨rfl, rfl⟩
  | cons reply taken ih =>
      have hHead :=
        observeReply_keeps env id cluster reply
      have hTail := ih (observeReply env id cluster reply)
      rw [List.foldl_cons]
      exact
        ⟨hTail.1.trans hHead.1,
          hTail.2.trans hHead.2⟩

------------------------------------------------------------
-- A Published Message
------------------------------------------------------------

/- A node executes `publish`. -/
def published
    (env : Externals)
    (sender : NodeId)
    (u : Int)
    (p : String)
    (cluster : Cluster) : Cluster :=
  (cluster.answer env sender (.publish u p)).2

theorem published_of_link
    {sender : NodeId}
    {cluster : Cluster}
    (hLink : (cluster.nodes sender).publishLink = true)
    (u : Int)
    (p : String) :
    cluster.published env sender u p =
      cluster.withReplies
        (cluster.replies ++
          (cluster.subscriptions.subscribers
            (Redis.channelName u)).map fun id =>
              (id,
                Redis.messageReply (Redis.channelName u)
                  (cString p))) := by
  unfold published
  simp only [answer, hLink]
  rfl

/- A subscribed node gets the message once, after all that
is on its way already. -/
theorem repliesOf_published
    {sender : NodeId}
    {cluster : Cluster}
    {u : Int}
    (hLink : (cluster.nodes sender).publishLink = true)
    (hSubscribed :
      (id, Redis.channelName u) ∈
        cluster.subscriptions.entries)
    (p : String) :
    (cluster.published env sender u p).repliesOf id =
      cluster.repliesOf id ++
        [Redis.messageReply (Redis.channelName u)
          (cString p)] := by
  have hMember :
      id ∈ cluster.subscriptions.subscribers
        (Redis.channelName u) :=
    Subscriptions.mem_subscribers_iff.mpr hSubscribed
  have hNodup :=
    cluster.subscriptions.nodup_subscribers
      (Redis.channelName u)
  rw [published_of_link env hLink]
  unfold repliesOf withReplies
  rw [List.filter_append, List.map_append, List.filter_map,
    List.map_map]
  congr 1
  generalize
    cluster.subscriptions.subscribers
      (Redis.channelName u) = nodes at hMember hNodup
  have hOne :
      nodes.filter (fun other => other = id) = [id] := by
    rw [List.filter_eq,
      List.count_eq_one_of_mem hNodup hMember]
    rfl
  have hKept :
      (fun entry : NodeId × RedisReply =>
          decide (entry.1 = id)) ∘
        (fun other : NodeId =>
          (other,
            Redis.messageReply (Redis.channelName u)
              (cString p))) =
        fun other => decide (other = id) :=
    rfl
  rw [hKept, hOne]
  rfl

/- What the observer does is what it did without the message,
and then one more turn. -/
theorem drain_published
    {sender : NodeId}
    {cluster : Cluster}
    {u : Int}
    (hLink : (cluster.nodes sender).publishLink = true)
    (hSubscribed :
      (id, Redis.channelName u) ∈
        cluster.subscriptions.entries)
    (p : String) :
    (cluster.published env sender u p).drain env id =
      (observeReply env id (cluster.drain env id)
        (Redis.messageReply (Redis.channelName u)
          (cString p))).withReplies
            ((cluster.published env sender u p).otherReplies
              id) := by
  rw [drain_eq, drain_eq,
    repliesOf_published env hLink hSubscribed p,
    List.foldl_append, List.foldl_cons, List.foldl_nil,
    observeReply_withReplies]
  generalize
    (cluster.published env sender u p).otherReplies id = rest
  rw [published_of_link env hLink,
    foldl_observeReply_withReplies,
    observeReply_withReplies]
  rfl

/-
  What a node does because another one publishes `p` for a
  user `u` with a connection: one more call of the callback,
  `p` on the connection, and nothing in the database.
-/
structure ReachesUser
    (env : Externals)
    (id : NodeId)
    (u : Int)
    (p : String)
    (conn : ConnId)
    (before after : Cluster) : Prop where
  called :
    after.calls id = before.calls id ++ [(u, p)]
  written :
    before.conns conn = .connected →
      (after.drain env id).wire conn =
        (before.drain env id).wire conn ++ [p]
  notStored :
    (after.drain env id).db = (before.drain env id).db

/- The arguments of the callback for a published message. -/
theorem observe_messageReply (channel message : String) :
    Redis.observe (Redis.messageReply channel message) =
      some (0, cString message) := rfl

theorem calls_published
    {sender : NodeId}
    {cluster : Cluster}
    {u : Int}
    (hLink : (cluster.nodes sender).publishLink = true)
    (hSubscribed :
      (id, Redis.channelName u) ∈
        cluster.subscriptions.entries)
    (p : String) :
    (cluster.published env sender u p).calls id =
      cluster.calls id ++ [(0, cString p)] := by
  unfold calls
  rw [repliesOf_published env hLink hSubscribed p,
    List.filterMap_append, List.filterMap_cons,
    observe_messageReply, cString_cString]
  rfl

/-
  A published message reaches its user exactly if that is
  user 0 and the message has no null character.
-/
theorem reachesUser_iff
    {sender : NodeId}
    {cluster : Cluster}
    {u : Int}
    {conn : ConnId}
    (hLink : (cluster.nodes sender).publishLink = true)
    (hSubscribed :
      (id, Redis.channelName u) ∈
        cluster.subscriptions.entries)
    (hConn : cluster.connOf id u = some conn)
    (p : String) :
    ReachesUser env id u p conn cluster
        (cluster.published env sender u p) ↔
      u = 0 ∧ ∀ c ∈ p.toList, c.toNat ≠ 0 := by
  rw [← cString_eq_self_iff]
  constructor
  · intro hReaches
    have hCalled := hReaches.called
    rw [calls_published env hLink hSubscribed p] at hCalled
    have hPair := List.append_cancel_left hCalled
    simp only [List.cons.injEq, Prod.mk.injEq, and_true]
      at hPair
    exact ⟨hPair.1.symm, hPair.2⟩
  · rintro ⟨hUser, hText⟩
    have hDrain := drain_published env hLink hSubscribed p
    have hKeeps := drain_keeps env id cluster
    have hThere :
        (cluster.drain env id).connOf id 0 = some conn := by
      unfold connOf
      rw [hKeeps.1, ← hUser]
      exact hConn
    have hSent :
        observeReply env id (cluster.drain env id)
            (Redis.messageReply (Redis.channelName u)
              (cString p)) =
          (cluster.drain env id).sendWithHeader conn p := by
      unfold observeReply
      rw [observe_messageReply, cString_cString, hText]
      exact execute_notify_of_some env hThere p
    rw [hSent] at hDrain
    exact
      { called := by
          rw [calls_published env hLink hSubscribed p, hUser,
            hText]
        written := by
          intro hConnected
          rw [hDrain]
          unfold sendWithHeader withReplies
          rw [hKeeps.2, hConnected]
          simp
        notStored := by
          rw [hDrain]
          unfold sendWithHeader withReplies
          dsimp only
          split <;> rfl }

/- Node 1 has a connection for the user and a subscription,
with its confirmation still on the way. -/
def sampleRouting (u : Int) : Cluster :=
  ((sampleCluster []).insertConn 1 u 5).executeCommand 1
    (Redis.subscribeCommand u)

/- For user 0 the message arrives. -/
theorem userZero_isReached :
    ReachesUser (sampleExternals []) 1 0 "hello" 5
      (sampleRouting 0)
      ((sampleRouting 0).published (sampleExternals []) 2 0
        "hello") :=
  (reachesUser_iff (sampleExternals []) (by decide +kernel)
    (by decide +kernel) (by decide +kernel) "hello").mpr
      (by simp)

/- For user 1 the callback is called with user 0, nothing is
written, and the message is stored for user 0. -/
theorem userOne_isNotReached :
    (1, Redis.channelName 1) ∈
        (sampleRouting 1).subscriptions.entries ∧
      (sampleRouting 1).connOf 1 1 = some 5 ∧
        ¬ ReachesUser (sampleExternals []) 1 1 "hello" 5
          (sampleRouting 1)
          ((sampleRouting 1).published (sampleExternals []) 2
            1 "hello") ∧
          (((sampleRouting 1).published (sampleExternals [])
            2 1 "hello").drain (sampleExternals []) 1).wire
              5 = [] ∧
            OfflineMessageModel.Stored
              (((sampleRouting 1).published
                (sampleExternals []) 2 1 "hello").drain
                  (sampleExternals []) 1).db 0 "hello" := by
  refine
    ⟨by decide +kernel, by decide +kernel, ?_,
      by decide +kernel, ?_⟩
  · intro hReaches
    have hCalled := hReaches.called
    revert hCalled
    decide +kernel
  · unfold OfflineMessageModel.Stored
    decide +kernel

end Cluster

------------------------------------------------------------
-- The Observer as a Run
------------------------------------------------------------

namespace World

open Cluster

variable (env : Externals) {id : NodeId}

/- The next reply for a node is the first one. -/
theorem takeReply_of_cons
    {cluster : Cluster}
    {reply : RedisReply}
    {replies : List RedisReply}
    (hReplies : cluster.repliesOf id = reply :: replies) :
    ∃ rest,
      takeReply id cluster.replies = some (reply, rest) ∧
        (cluster.withReplies rest).repliesOf id = replies ∧
          (cluster.withReplies rest).otherReplies id =
            cluster.otherReplies id := by
  unfold repliesOf at hReplies
  unfold repliesOf otherReplies Cluster.withReplies
  dsimp only
  generalize cluster.replies = entries at hReplies ⊢
  induction entries with
  | nil => simp at hReplies
  | cons entry entries ih =>
      unfold takeReply
      by_cases hId : entry.1 = id
      · simp only [hId, decide_true, List.filter_cons_of_pos,
          List.map_cons, List.cons.injEq] at hReplies
        refine ⟨entries, ?_, hReplies.2, ?_⟩
        · rw [if_pos hId, hReplies.1]
        · simp [hId]
      · simp only [hId, decide_false, Bool.false_eq_true,
          not_false_eq_true, List.filter_cons_of_neg]
          at hReplies
        rcases ih hReplies with
          ⟨rest, hTake, hOwn, hOther⟩
        refine ⟨entry :: rest, ?_, ?_, ?_⟩
        · rw [if_neg hId, hTake]
          rfl
        · simpa [hId] using hOwn
        · simpa [hId] using hOther

/- After one turn the rest is still to be taken. -/
theorem drain_observeReply
    {cluster : Cluster}
    {reply : RedisReply}
    {replies : List RedisReply}
    {rest : List (NodeId × RedisReply)}
    (hReplies : cluster.repliesOf id = reply :: replies)
    (hOwn : (cluster.withReplies rest).repliesOf id = replies)
    (hOther :
      (cluster.withReplies rest).otherReplies id =
        cluster.otherReplies id) :
    (observeReply env id (cluster.withReplies rest)
      reply).drain env id = cluster.drain env id := by
  rw [observeReply_withReplies, drain_eq, drain_eq, hReplies,
    List.foldl_cons]
  change
    (((cluster.withReplies rest).repliesOf id).foldl
        (observeReply env id) _).withReplies
      ((cluster.withReplies rest).otherReplies id) = _
  rw [hOwn, hOther, foldl_observeReply_withReplies]
  rfl

/- A node whose handlers are through takes everything that
is on its way. -/
theorem run_observer
    (cluster : Cluster)
    (log : List Performed) :
    ∃ labels final,
      Transition.Run (step env Redis.observe)
          (fun _ _ => True)
          { cluster := cluster
            threads := []
            log := log } labels final ∧
        final.cluster = cluster.drain env id ∧
          final.threads = [] := by
  generalize hReplies : cluster.repliesOf id = replies
  induction replies generalizing cluster log with
  | nil =>
      refine ⟨[], _, Transition.Run.nil, ?_, rfl⟩
      have hOther :
          cluster.otherReplies id = cluster.replies := by
        unfold otherReplies
        rw [List.filter_eq_self]
        intro entry hEntry
        unfold repliesOf at hReplies
        rw [List.map_eq_nil_iff, List.filter_eq_nil_iff]
          at hReplies
        simpa using hReplies entry hEntry
      unfold drain
      rw [hReplies, hOther]
      rfl
  | cons reply replies ih =>
      rcases takeReply_of_cons hReplies with
        ⟨rest, hTake, hOwn, hOther⟩
      have hDrain :=
        drain_observeReply env hReplies hOwn hOther
      rw [← hDrain]
      unfold observeReply
      cases hRead : Redis.observe reply with
      | none =>
          have hFirst :
              Transition.Run (step env Redis.observe)
                (fun _ _ => True)
                { cluster := cluster
                  threads := []
                  log := log } [.observe id]
                { cluster := cluster.withReplies rest
                  threads := []
                  log := log } := by
            apply Transition.Run.single trivial
            simp only [step, busy, List.any_nil, hTake, hRead]
            rfl
          rcases ih _ log hOwn with
            ⟨labels, final, hRun, hReached⟩
          exact ⟨_, final, hFirst.append hRun, hReached⟩
      | some call =>
          have hFirst :
              Transition.Run (step env Redis.observe)
                (fun _ _ => True)
                { cluster := cluster
                  threads := []
                  log := log } [.observe id]
                { cluster := cluster.withReplies rest
                  threads :=
                    [notifyThread id call.1 call.2]
                  log := log } := by
            apply Transition.Run.single trivial
            simp only [step, busy, List.any_nil, hTake, hRead]
            rfl
          rcases run_alone env Redis.observe id
              (.subscription id)
              (ChatService.handleredissubscribemessage call.1
                call.2)
              (cluster.withReplies rest) log with
            ⟨labels, middle, hCall, hCluster, hThreads⟩
          have hMiddle :
              middle =
                { cluster :=
                    (cluster.withReplies rest).execute env id
                      (ChatService.handleredissubscribemessage
                        call.1 call.2)
                  threads := []
                  log := middle.log } := by
            rw [← hCluster, ← hThreads]
          have hStill :
              ((cluster.withReplies rest).execute env id
                (ChatService.handleredissubscribemessage
                  call.1 call.2)).repliesOf id = replies := by
            rw [execute_notify_withReplies]
            exact hOwn
          rcases ih _ middle.log hStill with
            ⟨others, final, hRun, hReached⟩
          rw [← hMiddle] at hRun
          exact
            ⟨_, final, (hFirst.append hCall).append hRun,
              hReached⟩

end World

end ClusterChat
