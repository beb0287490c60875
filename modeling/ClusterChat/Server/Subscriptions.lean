import ClusterChat.Server.HandlerOps
import ClusterChat.Server.World

/-
  Subscriptions and `_userConnMap` of one node, for handlers
  that take turns operation by operation.

  A login changes the map first and subscribes later; logouts
  and closings erase first and unsubscribe later.  Until the
  second half has happened, the handler owes it.  A second
  half is harmless as long as the map still agrees with it,
  or another handler owes the opposite.

  Main declarations:
    * `Cluster.subscribed`
    * `World.SubscriptionsFollow`
    * `World.Owes` and `World.InTime`
    * `World.subscriptions_follow`
-/

------------------------------------------------------------
-- What Redis Will Know
------------------------------------------------------------

namespace ClusterChat

/- Whether a user's channel is subscribed after a command. -/
def applyCommand
    (userid : Int)
    (known : Bool)
    (command : List String) : Bool :=
  if command = Redis.subscribeCommand userid then
    true
  else if command = Redis.unsubscribeCommand userid then
    false
  else
    known

namespace Subscriptions

/- The node is subscribed to the channel. -/
def has
    (subscriptions : Subscriptions)
    (id : NodeId)
    (channel : String) : Bool :=
  decide ((id, channel) ∈ subscriptions.entries)

theorem has_insert
    (subscriptions : Subscriptions)
    (id other : NodeId)
    (channel name : String) :
    (subscriptions.insert id channel).has other name =
      if other = id ∧ name = channel then
        true
      else
        subscriptions.has other name := by
  unfold has insert
  by_cases hSame : other = id ∧ name = channel
  · simp [hSame]
  · rw [if_neg hSame]
    simp [hSame]

theorem has_erase
    (subscriptions : Subscriptions)
    (id other : NodeId)
    (channel name : String) :
    (subscriptions.erase id channel).has other name =
      if other = id ∧ name = channel then
        false
      else
        subscriptions.has other name := by
  unfold has erase
  dsimp only
  simp only [subscriptions.nodup.mem_erase_iff, ne_eq,
    Prod.mk.injEq]
  by_cases hSame : other = id ∧ name = channel
  · simp [hSame]
  · rw [if_neg hSame]
    simp [hSame]

end Subscriptions

namespace Cluster

/- Whether the node is subscribed to the user's channel, when
its commands take effect in the order it has issued them. -/
def subscribed
    (cluster : Cluster)
    (id : NodeId)
    (userid : Int) : Bool :=
  (cluster.nodes id).commands.foldl (applyCommand userid)
    (cluster.subscriptions.has id
      (Redis.channelName userid))

/- Once Redis has read everything, this is what it knows. -/
theorem subscribed_of_served
    {cluster : Cluster}
    {id : NodeId}
    (hServed : (cluster.nodes id).commands = [])
    (userid : Int) :
    cluster.subscribed id userid = true ↔
      (id, Redis.channelName userid) ∈
        cluster.subscriptions.entries := by
  unfold subscribed
  rw [hServed]
  exact decide_eq_true_iff

theorem channelName_inj
    {userid other : Int}
    (hSame :
      Redis.channelName userid = Redis.channelName other) :
    userid = other :=
  Int.repr_injective hSame

theorem subscribeCommand_ne_unsubscribeCommand
    (userid other : Int) :
    Redis.subscribeCommand userid ≠
      Redis.unsubscribeCommand other := by
  simp [Redis.subscribeCommand, Redis.unsubscribeCommand]

theorem applyCommand_subscribe
    (userid other : Int)
    (known : Bool) :
    applyCommand userid known (Redis.subscribeCommand other) =
      if other = userid then true else known := by
  unfold applyCommand
  rw [if_neg (subscribeCommand_ne_unsubscribeCommand _ _)]
  by_cases hSame : other = userid
  · rw [if_pos hSame, hSame, if_pos rfl]
  · rw [if_neg hSame, if_neg]
    intro hCommand
    apply hSame
    apply channelName_inj
    simpa [Redis.subscribeCommand] using hCommand

theorem applyCommand_unsubscribe
    (userid other : Int)
    (known : Bool) :
    applyCommand userid known
        (Redis.unsubscribeCommand other) =
      if other = userid then false else known := by
  unfold applyCommand
  rw [if_neg
    (subscribeCommand_ne_unsubscribeCommand _ _).symm]
  by_cases hSame : other = userid
  · rw [if_pos hSame, hSame, if_pos rfl]
  · rw [if_neg hSame, if_neg]
    intro hCommand
    apply hSame
    apply channelName_inj
    simpa [Redis.unsubscribeCommand] using hCommand

/- A command changes what is known of its own node. -/
theorem has_executeCommand
    (cluster : Cluster)
    (id other : NodeId)
    (userid : Int)
    (command : List String) :
    (cluster.executeCommand id command).subscriptions.has
        other (Redis.channelName userid) =
      if other = id then
        applyCommand userid
          (cluster.subscriptions.has other
            (Redis.channelName userid)) command
      else
        cluster.subscriptions.has other
          (Redis.channelName userid) := by
  unfold executeCommand applyCommand
    Redis.subscribeCommand Redis.unsubscribeCommand
  split
  · rename_i verb channel
    by_cases hSubscribe : verb = "SUBSCRIBE"
    · rw [if_pos hSubscribe]
      dsimp only
      rw [Subscriptions.has_insert, hSubscribe]
      by_cases hHere : other = id
      · simp [hHere, eq_comm]
      · simp [hHere]
    rw [if_neg hSubscribe]
    by_cases hUnsubscribe : verb = "UNSUBSCRIBE"
    · rw [if_pos hUnsubscribe]
      dsimp only
      rw [Subscriptions.has_erase, hUnsubscribe]
      by_cases hHere : other = id
      · simp [hHere, eq_comm]
      · simp [hHere]
    · rw [if_neg hUnsubscribe]
      simp [hUnsubscribe, hSubscribe]
  · rename_i hOther
    rw [if_neg fun hSame => hOther _ _ hSame,
      if_neg fun hSame => hOther _ _ hSame, ite_self]

theorem nodes_executeCommand
    (cluster : Cluster)
    (id : NodeId)
    (command : List String) :
    (cluster.executeCommand id command).nodes =
      cluster.nodes := by
  unfold executeCommand
  split
  · split
    · rfl
    · split <;> rfl
  · rfl

/- Redis does what was issued, nothing else. -/
theorem subscribed_serveSubscription
    (cluster : Cluster)
    (id other : NodeId)
    (userid : Int) :
    (cluster.serveSubscription id).subscribed other userid =
      cluster.subscribed other userid := by
  unfold serveSubscription
  cases hCommands : (cluster.nodes id).commands with
  | nil => rfl
  | cons command commands =>
      unfold subscribed
      dsimp only
      rw [nodes_executeCommand, has_executeCommand]
      by_cases hHere : other = id
      · rw [if_pos hHere, hHere, hCommands]
        simp [setNode]
      · rw [if_neg hHere]
        simp [setNode, hHere]

/- A command that the node issues takes effect last. -/
theorem subscribed_appendCommand
    {cluster : Cluster}
    {id : NodeId}
    (hLink : (cluster.nodes id).subscribeLink = true)
    (command : List String)
    (userid : Int) :
    (cluster.appendCommand id command).2.subscribed id
        userid =
      applyCommand userid (cluster.subscribed id userid)
        command := by
  unfold appendCommand
  dsimp only
  rw [if_pos hLink]
  unfold subscribed setNode
  simp

end Cluster

------------------------------------------------------------
-- Operations and the Commands
------------------------------------------------------------

/- The operation issues no command. -/
def ServerOp.IssuesNothing : ServerOp → Prop
| subscribe _ => False
| unsubscribe _ => False
| _ => True

namespace Cluster

/- The node's commands, and what Redis knows, are the same. -/
structure KeepsQueue
    (id : NodeId)
    (before after : Cluster) : Prop where
  commands :
    (after.nodes id).commands = (before.nodes id).commands
  link :
    (after.nodes id).subscribeLink =
      (before.nodes id).subscribeLink
  subscriptions : after.subscriptions = before.subscriptions

variable {id node : NodeId} {before after : Cluster}

theorem KeepsQueue.subscribed
    (hKeeps : KeepsQueue id before after)
    (userid : Int) :
    after.subscribed id userid =
      before.subscribed id userid := by
  unfold Cluster.subscribed
  rw [hKeeps.commands, hKeeps.subscriptions]

theorem keepsQueue_of_nodes
    (hNodes : after.nodes = before.nodes)
    (hSubscriptions :
      after.subscriptions = before.subscriptions) :
    KeepsQueue id before after where
  commands := by rw [hNodes]
  link := by rw [hNodes]
  subscriptions := hSubscriptions

theorem keepsQueue_setNode
    (cluster : Cluster)
    {changed : Node}
    (hCommands :
      node = id →
        changed.commands = (cluster.nodes node).commands)
    (hLink :
      node = id →
        changed.subscribeLink =
          (cluster.nodes node).subscribeLink) :
    KeepsQueue id cluster (cluster.setNode node changed) := by
  unfold setNode
  by_cases hHere : node = id
  · have hSelf :
        Function.update cluster.nodes node changed id =
          changed := by
      rw [hHere]
      exact Function.update_self _ _ _
    constructor
    · dsimp only
      rw [hSelf, hCommands hHere, hHere]
    · dsimp only
      rw [hSelf, hLink hHere, hHere]
    · rfl
  · have hOther :
        Function.update cluster.nodes node changed id =
          cluster.nodes id :=
      Function.update_of_ne (Ne.symm hHere) _ _
    constructor
    · dsimp only
      rw [hOther]
    · dsimp only
      rw [hOther]
    · rfl

theorem keepsQueue_setMap
    (cluster : Cluster)
    (userConnMap : UserConnMap) :
    KeepsQueue id cluster (cluster.setMap node userConnMap) :=
  keepsQueue_setNode cluster (fun _ => rfl) fun _ => rfl

theorem keepsQueue_appendCommand
    (cluster : Cluster)
    (hOther : node ≠ id)
    (command : List String) :
    KeepsQueue id cluster
      (cluster.appendCommand node command).2 := by
  unfold appendCommand
  dsimp only
  split
  · exact
      keepsQueue_setNode cluster
        (fun hHere => absurd hHere hOther)
        fun hHere => absurd hHere hOther
  · exact keepsQueue_of_nodes rfl rfl

theorem keepsQueue_answer
    (env : Externals)
    (op : ServerOp)
    (cluster : Cluster)
    (hOp : node = id → op.IssuesNothing) :
    KeepsQueue id cluster
      (cluster.answer env node op).2 := by
  cases op
  case findAndSend userid payload =>
    simp only [answer, sendWithHeader]
    split
    · split <;> exact keepsQueue_of_nodes rfl rfl
    · exact keepsQueue_of_nodes rfl rfl
  case insertConn userid conn =>
    simp only [answer, insertConn]
    split
    · exact keepsQueue_of_nodes rfl rfl
    · exact keepsQueue_setMap _ _
  case eraseConn => exact keepsQueue_setMap _ _
  case eraseConnOf conn =>
    simp only [answer, eraseConnOf]
    split
    · exact keepsQueue_setMap _ _
    · exact keepsQueue_of_nodes rfl rfl
  case send =>
    simp only [answer, sendWithHeader]
    split <;> exact keepsQueue_of_nodes rfl rfl
  case shutdown =>
    simp only [answer, shutdown]
    split <;> exact keepsQueue_of_nodes rfl rfl
  case incrSeq conversationId =>
    simp only [answer, takeNumber]
    have hNode :=
      @keepsQueue_setNode id node cluster
        { cluster.nodes node with
          redis :=
            (Numbering.takeNumber
              { client := (cluster.nodes node).redis
                counters := cluster.counters }
              conversationId
              (cluster.nodes node).incrOutcome).1.client }
        (fun _ => rfl) fun _ => rfl
    exact ⟨hNode.commands, hNode.link, hNode.subscriptions⟩
  case publish channel message =>
    simp only [answer, publish, Redis.publishCommand]
    split <;> exact keepsQueue_of_nodes rfl rfl
  case subscribe =>
    exact
      keepsQueue_appendCommand cluster (fun hHere => hOp hHere)
        _
  case unsubscribe =>
    exact
      keepsQueue_appendCommand cluster (fun hHere => hOp hHere)
        _
  case insertUser user =>
    simp only [answer]
    split <;> exact keepsQueue_of_nodes rfl rfl
  all_goals exact keepsQueue_of_nodes rfl rfl

theorem link_appendCommand
    (cluster : Cluster)
    (command : List String) :
    ((cluster.appendCommand node command).2.nodes
        id).subscribeLink =
      (cluster.nodes id).subscribeLink := by
  unfold appendCommand setNode
  dsimp only
  split
  · by_cases hHere : id = node
    · simp [hHere]
    · simp [hHere]
  · rfl

/- No operation takes a subscription link up or down. -/
theorem link_answer
    (env : Externals)
    (op : ServerOp)
    (cluster : Cluster) :
    ((cluster.answer env node op).2.nodes id).subscribeLink =
      (cluster.nodes id).subscribeLink := by
  by_cases hIssues : op.IssuesNothing
  · exact
      (keepsQueue_answer env op cluster fun _ => hIssues).link
  · cases op with
    | subscribe channel => exact link_appendCommand cluster _
    | unsubscribe channel => exact link_appendCommand cluster _
    | _ => exact absurd trivial hIssues

end Cluster

------------------------------------------------------------
-- What a Handler Owes
------------------------------------------------------------

/- What a change of the user's entry obliges to. -/
def incurs
    (userid : Int) :
    (op : ServerOp) → op.Res → ServerOp → Prop
| .insertConn other _, _, duty =>
    other = userid ∧ duty = .subscribe userid
| .eraseConn other, _, duty =>
    other = userid ∧ duty = .unsubscribe userid
| .eraseConnOf _, found, duty =>
    found = some userid ∧ duty = .unsubscribe userid
| _, _, _ => False

/- A duty stays until its operation is performed. -/
def untilPerformed
    (duty op : ServerOp)
    (_ : op.Res) : Option ServerOp :=
  if op = duty then
    none
  else
    some duty

theorem untilPerformed_self
    (duty : ServerOp)
    (answer : duty.Res) :
    untilPerformed duty duty answer = none :=
  if_pos rfl

theorem untilPerformed_of_ne
    {duty op : ServerOp}
    (hNe : op ≠ duty)
    (answer : op.Res) :
    untilPerformed duty op answer = some duty :=
  if_neg hNe

namespace ChatService

variable {userid : Int}

/- The handler is going to perform the operation. -/
abbrev WillPerform
    (duty : ServerOp)
    (handler : Handler Unit) : Prop :=
  handler.Fulfils untilPerformed duty

/- What the handler changes in the map, it will also tell
Redis. -/
abbrev Settles
    (userid : Int)
    (handler : Handler Unit) : Prop :=
  handler.Commits untilPerformed (incurs userid)

theorem willPerform_act
    (duty : ServerOp)
    (next : duty.Res → Handler Unit) :
    WillPerform duty (.act duty next) := by
  intro answer
  rw [untilPerformed_self]
  trivial

/- The operation comes after another one. -/
theorem willPerform_next
    {duty op : ServerOp}
    {next : op.Res → Handler Unit}
    (hNe : op ≠ duty)
    (hNext : ∀ answer, WillPerform duty (next answer)) :
    WillPerform duty (.act op next) := by
  intro answer
  rw [untilPerformed_of_ne hNe]
  exact hNext answer

theorem settles_of_keepsMaps
    {handler : Handler Unit}
    (hHandler : handler.Always ServerOp.KeepsMaps) :
    Settles userid handler := by
  apply Process.commits_of_always
  apply hHandler.mono
  intro op hOp answer duty hIncurs
  cases op with
  | insertConn other conn => exact hOp
  | eraseConn other => exact hOp
  | eraseConnOf conn => exact hOp
  | _ => exact hIncurs

theorem settles_of_sessionless
    {handler : Handler Unit}
    (hHandler : Sessionless handler) :
    Settles userid handler := by
  apply settles_of_keepsMaps
  apply Process.Always.mono hHandler
  intro op hOp
  cases op with
  | insertConn other conn => exact hOp
  | eraseConn other => exact hOp
  | eraseConnOf conn => exact hOp
  | _ => trivial

theorem settles_orThrow
    {α : Type}
    (value : Except JsonException α)
    {rest : α → Handler Unit}
    (hRest : ∀ value, Settles userid (rest value)) :
    Settles userid (orThrow value >>= rest) := by
  cases value with
  | error error => trivial
  | ok value => exact hRest value

/- An operation that changes no entry. -/
theorem settles_ask
    {op : ServerOp}
    {rest : op.Res → Handler Unit}
    (hOp : op.KeepsMaps)
    (hRest : ∀ answer, Settles userid (rest answer)) :
    Settles userid (ask op >>= rest) := by
  intro answer
  refine ⟨?_, hRest answer⟩
  intro duty hIncurs
  cases op with
  | insertConn other conn => exact hOp.elim
  | eraseConn other => exact hOp.elim
  | eraseConnOf conn => exact hOp.elim
  | _ => exact hIncurs.elim

variable (env : Externals)

theorem settles_login
    (conn : ConnId)
    (js : JsonObject) :
    Settles userid (login env conn js) := by
  unfold login
  apply settles_orThrow
  intro name
  apply settles_orThrow
  intro password
  apply settles_ask
  · trivial
  intro (user : User)
  split
  · split
    · exact
        settles_of_keepsMaps ⟨trivial, fun _ => trivial⟩
    · intro _
      constructor
      · intro duty hIncurs
        rcases hIncurs with ⟨hUser, hDuty⟩
        rw [hDuty, ← hUser]
        exact willPerform_act _ _
      apply settles_ask
      · trivial
      intro _
      apply settles_ask
      · trivial
      intro _
      apply settles_of_keepsMaps
      exact
        always_answerLogin env trivial trivial trivial
          trivial (fun _ => trivial) fun _ => trivial
  · exact settles_of_keepsMaps ⟨trivial, fun _ => trivial⟩

theorem settles_loginout (js : JsonObject) :
    Settles userid (loginout js) := by
  unfold loginout
  apply settles_orThrow
  intro other _
  constructor
  · intro duty hIncurs
    rcases hIncurs with ⟨hUser, hDuty⟩
    rw [hDuty, ← hUser]
    exact willPerform_act _ _
  · exact
      settles_of_keepsMaps
        ⟨trivial, fun _ => ⟨trivial, fun _ => trivial⟩⟩

/- `-1` stands for no user. -/
theorem settles_clientCloseException
    (hUser : userid ≠ -1)
    (conn : ConnId) :
    Settles userid (clientCloseException conn) := by
  unfold clientCloseException
  rw [ask_bind]
  intro (found : Option Int)
  constructor
  · intro duty hIncurs
    rcases hIncurs with ⟨hFound, hDuty⟩
    have hFound : found = some userid := hFound
    rw [hDuty, hFound]
    dsimp only [Option.getD_some]
    rw [if_neg hUser, ask_bind]
    apply willPerform_next (by simp)
    intro (user : User)
    split
    · apply willPerform_next (by simp)
      intro _
      exact willPerform_act _ _
    · exact willPerform_act _ _
  · apply settles_of_keepsMaps
    dsimp only
    split
    · trivial
    · apply always_ask trivial
      intro (user : User)
      split
      · exact
          ⟨trivial, fun _ => ⟨trivial, fun _ => trivial⟩⟩
      · exact ⟨trivial, fun _ => trivial⟩

end ChatService

namespace ChatServer

variable {userid : Int} (env : Externals)

theorem settles_onMessage
    (conn : ConnId)
    (body : String)
    (readings : Readings) :
    ChatService.Settles userid
      (onMessage env conn body readings) := by
  rcases onMessage_cases env conn body readings with
    ⟨handler, hFrame, hSame⟩
  rw [hSame]
  apply Process.commits_tryCatch
  · rcases ChatService.session_cases hFrame with
      ⟨js, hLogin⟩ | ⟨js, hLoginout⟩ | hSessionless
    · rw [hLogin]
      exact ChatService.settles_login env conn js
    · rw [hLoginout]
      exact ChatService.settles_loginout js
    · exact ChatService.settles_of_sessionless hSessionless
  · intro error
    exact
      ChatService.settles_of_keepsMaps
        ⟨trivial, fun _ => trivial⟩

theorem settles_onConnection
    (hUser : userid ≠ -1)
    (conn : ConnId) :
    ChatService.Settles userid (onConnection conn) := by
  apply Process.commits_bind
  · exact
      ChatService.settles_clientCloseException hUser conn
  · exact fun _ =>
      ChatService.settles_of_keepsMaps
        ⟨trivial, fun _ => trivial⟩

end ChatServer

namespace Cluster

/- The map has an entry for the user. -/
def mapped
    (cluster : Cluster)
    (id : NodeId)
    (userid : Int) : Bool :=
  (cluster.connOf id userid).isSome

/- A change of the user's entry comes with a duty. -/
theorem mapped_answer
    (env : Externals)
    (id : NodeId)
    (userid : Int)
    (op : ServerOp)
    (cluster : Cluster) :
    (cluster.answer env id op).2.mapped id userid =
        cluster.mapped id userid ∨
      ((cluster.answer env id op).2.mapped id userid = true ∧
        incurs userid op (cluster.answer env id op).1
          (.subscribe userid)) ∨
      ((cluster.answer env id op).2.mapped id userid =
          false ∧
        incurs userid op (cluster.answer env id op).1
          (.unsubscribe userid)) := by
  by_cases hKeeps : op.KeepsMaps
  · refine Or.inl ?_
    unfold mapped
    rw [(answer_frame env id op cluster).maps hKeeps]
  cases op with
  | insertConn other conn =>
      by_cases hUser : other = userid
      · refine Or.inr (Or.inl ⟨?_, hUser, rfl⟩)
        simp only [answer, insertConn, mapped]
        rw [hUser]
        cases hConn : cluster.connOf id userid with
        | some found => simp [hConn]
        | none => simp [connOf_setMap_self]
      · refine Or.inl ?_
        simp only [answer, insertConn, mapped]
        cases hConn : cluster.connOf id other with
        | some found => rfl
        | none =>
            dsimp only
            rw [connOf_setMap_self,
              AList.lookup_insert_ne (Ne.symm hUser)]
            rfl
  | eraseConn other =>
      by_cases hUser : other = userid
      · refine Or.inr (Or.inr ⟨?_, hUser, rfl⟩)
        simp [answer, mapped, hUser, connOf_setMap_self]
      · refine Or.inl ?_
        simp only [answer, mapped]
        rw [connOf_setMap_self,
          AList.lookup_erase_ne (Ne.symm hUser)]
        rfl
  | eraseConnOf conn =>
      cases hFirst : cluster.firstUserOf id conn with
      | none =>
          refine Or.inl ?_
          simp only [answer, eraseConnOf, hFirst]
      | some other =>
          by_cases hUser : other = userid
          · refine Or.inr (Or.inr ⟨?_, ?_, rfl⟩)
            · simp only [answer, eraseConnOf, hFirst, mapped]
              rw [connOf_setMap_self, hUser]
              simp
            · simp only [answer, eraseConnOf, hFirst]
              rw [hUser]
          · refine Or.inl ?_
            simp only [answer, eraseConnOf, hFirst, mapped]
            rw [connOf_setMap_self,
              AList.lookup_erase_ne (Ne.symm hUser)]
            rfl
  | _ => exact absurd trivial hKeeps

/- The other nodes' operations do not matter. -/
theorem mapped_answer_of_ne
    (env : Externals)
    {id node : NodeId}
    (hOther : id ≠ node)
    (userid : Int)
    (op : ServerOp)
    (cluster : Cluster) :
    (cluster.answer env node op).2.mapped id userid =
      cluster.mapped id userid := by
  unfold mapped
  rw [(answer_apart env node op cluster).maps id hOther]

/- What the user's subscription is after an operation. -/
theorem subscribed_answer
    (env : Externals)
    {id : NodeId}
    {cluster : Cluster}
    (hLink : (cluster.nodes id).subscribeLink = true)
    (userid : Int)
    (op : ServerOp) :
    (cluster.answer env id op).2.subscribed id userid =
      if op = .subscribe userid then
        true
      else if op = .unsubscribe userid then
        false
      else
        cluster.subscribed id userid := by
  by_cases hIssues : op.IssuesNothing
  · have hKeeps :
        KeepsQueue id cluster (cluster.answer env id op).2 :=
      keepsQueue_answer env op cluster fun _ => hIssues
    rw [hKeeps.subscribed, if_neg, if_neg]
    · rintro rfl
      exact hIssues
    · rintro rfl
      exact hIssues
  cases op with
  | subscribe other =>
      have hIssued :=
        subscribed_appendCommand hLink
          (Redis.subscribeCommand other) userid
      refine hIssued.trans ?_
      rw [applyCommand_subscribe]
      by_cases hUser : other = userid <;> simp [hUser]
  | unsubscribe other =>
      have hIssued :=
        subscribed_appendCommand hLink
          (Redis.unsubscribeCommand other) userid
      refine hIssued.trans ?_
      rw [applyCommand_unsubscribe]
      by_cases hUser : other = userid <;> simp [hUser]
  | _ => exact absurd trivial hIssues

end Cluster

------------------------------------------------------------
-- The Invariant
------------------------------------------------------------

namespace World

/- No handler of the node is in progress. -/
def Idle
    (id : NodeId)
    (world : World) : Prop :=
  ∀ thread ∈ world.threads, thread.node ≠ id

/- The node is subscribed to exactly the channels of the
users in its map; `-1` stands for no user. -/
def SubscriptionsFollow
    (id : NodeId)
    (world : World) : Prop :=
  ∀ userid : Int,
    userid ≠ -1 →
      (world.cluster.subscribed id userid = true ↔
        world.cluster.mapped id userid = true)

/- A handler of the node is going to perform the operation. -/
def Owes
    (id : NodeId)
    (duty : ServerOp)
    (world : World) : Prop :=
  ∃ thread ∈ world.threads,
    thread.node = id ∧
      ChatService.WillPerform duty thread.process

/-
  A user is subscribed to while the map has the user, and
  unsubscribed from while it has not.  Otherwise another
  handler still owes the opposite.
-/
def InTime
    (id : NodeId)
    (world : World)
    (label : Label) : Prop :=
  ∀ entry ∈ world.performs label,
    entry.node = id →
      ∀ userid,
        (entry.op = .subscribe userid →
          world.cluster.mapped id userid = true ∨
            world.Owes id (.unsubscribe userid)) ∧
        (entry.op = .unsubscribe userid →
          world.cluster.mapped id userid = false ∨
            world.Owes id (.subscribe userid))

/- The subscription link of the node does not fail. -/
def LinkStays
    (id : NodeId) : Label → Prop
| .environment (.setSubscribeLink node up) =>
    node = id → up = true
| _ => True

instance
    (id : NodeId)
    (label : Label) :
    Decidable (LinkStays id label) :=
  match label with
  | .environment (.setSubscribeLink node up) =>
      inferInstanceAs (Decidable (node = id → up = true))
  | .environment (.serveSubscription _) =>
      inferInstanceAs (Decidable True)
  | .environment (.setIncrOutcome _ _) =>
      inferInstanceAs (Decidable True)
  | .environment (.setPublishLink _ _) =>
      inferInstanceAs (Decidable True)
  | .environment (.rehash _ _) =>
      inferInstanceAs (Decidable True)
  | .frame _ _ _ => inferInstanceAs (Decidable True)
  | .disconnect _ => inferInstanceAs (Decidable True)
  | .observe _ => inferInstanceAs (Decidable True)
  | .run _ => inferInstanceAs (Decidable True)

/- Where the map and the subscriptions differ, a handler owes
the difference. -/
structure Settling
    (id : NodeId)
    (userid : Int)
    (world : World) : Prop where
  link :
    (world.cluster.nodes id).subscribeLink = true
  settles :
    ∀ thread ∈ world.threads,
      thread.node = id →
        ChatService.Settles userid thread.process
  missing :
    world.cluster.mapped id userid = true →
      world.cluster.subscribed id userid = false →
        world.Owes id (.subscribe userid)
  surplus :
    world.cluster.mapped id userid = false →
      world.cluster.subscribed id userid = true →
        world.Owes id (.unsubscribe userid)

variable {env : Externals} {observer : Observer}
variable {id : NodeId} {userid : Int}
variable {before after : World}

/- A handler that is through performs nothing any more. -/
theorem not_willPerform_of_done
    {handler : Handler Unit}
    {duty : ServerOp}
    (hDone : nextOp handler = none) :
    ¬ ChatService.WillPerform duty handler := by
  intro hWill
  cases handler with
  | ret value => exact hWill
  | throw error => exact hWill
  | act op next => simp [nextOp] at hDone

/- Steps that perform no operation. -/
theorem Settling.quiet
    (hBefore : before.Settling id userid)
    (hLink :
      (after.cluster.nodes id).subscribeLink = true)
    (hSettles :
      ∀ thread ∈ after.threads,
        thread.node = id →
          ChatService.Settles userid thread.process)
    (hThreads :
      ∀ thread ∈ before.threads,
        thread ∈ after.threads ∨
          nextOp thread.process = none)
    (hMapped :
      after.cluster.mapped id userid =
        before.cluster.mapped id userid)
    (hSubscribed :
      after.cluster.subscribed id userid =
        before.cluster.subscribed id userid) :
    after.Settling id userid := by
  have hOwes :
      ∀ duty, before.Owes id duty → after.Owes id duty := by
    intro duty hOwes
    rcases hOwes with ⟨thread, hThread, hNode, hWill⟩
    rcases hThreads thread hThread with hStays | hDone
    · exact ⟨thread, hStays, hNode, hWill⟩
    · exact absurd hWill (not_willPerform_of_done hDone)
  constructor
  · exact hLink
  · exact hSettles
  · rw [hMapped, hSubscribed]
    exact fun hHas hNot => hOwes _ (hBefore.missing hHas hNot)
  · rw [hMapped, hSubscribed]
    exact fun hNot hHas => hOwes _ (hBefore.surplus hNot hHas)

section Performing

variable {index : Nat} {thread : Thread} {op : ServerOp}
variable {next : op.Res → Handler Unit}

/- A duty that is not performed stays. -/
theorem Owes.perform
    {duty : ServerOp}
    (hOwes : before.Owes id duty)
    (hRunning : before.threads[index]? = some thread)
    (hDue : thread.process = .act op next)
    (hNe : op ≠ duty) :
    (before.perform env index thread op next).Owes id
      duty := by
  rcases hOwes with ⟨other, hOther, hNode, hWill⟩
  rcases mem_perform_of_mem hRunning hOther with
    hSame | hStays
  · refine
      ⟨_, next_mem_perform env op next hRunning,
        hSame ▸ hNode, ?_⟩
    rw [hSame, hDue] at hWill
    have hNext :=
      hWill (before.cluster.answer env thread.node op).1
    rw [untilPerformed_of_ne hNe] at hNext
    exact hNext
  · exact ⟨other, hStays, hNode, hWill⟩

theorem settles_perform
    (hBefore : before.Settling id userid)
    (hRunning : before.threads[index]? = some thread)
    (hDue : thread.process = .act op next) :
    ∀ other ∈
        (before.perform env index thread op next).threads,
      other.node = id →
        ChatService.Settles userid other.process := by
  intro other hOther hNode
  rcases mem_threads_perform hOther with hOld | hNew
  · exact hBefore.settles other hOld hNode
  · rw [hNew] at hNode ⊢
    have hSettles :=
      hBefore.settles thread (List.mem_of_getElem? hRunning)
        hNode
    rw [hDue] at hSettles
    exact (hSettles _).2

/- An operation of another node. -/
theorem Settling.performElsewhere
    (hBefore : before.Settling id userid)
    (hRunning : before.threads[index]? = some thread)
    (hDue : thread.process = .act op next)
    (hOther : id ≠ thread.node) :
    (before.perform env index thread op next).Settling id
      userid := by
  have hMapped :=
    Cluster.mapped_answer_of_ne env hOther userid op
      before.cluster
  have hKeeps :
      Cluster.KeepsQueue id before.cluster
        (before.cluster.answer env thread.node op).2 :=
    Cluster.keepsQueue_answer env op before.cluster
      fun hHere => absurd hHere.symm hOther
  have hOwes :
      ∀ duty,
        before.Owes id duty →
          (before.perform env index thread op next).Owes id
            duty := by
    intro duty hOwes
    rcases hOwes with ⟨other, hMember, hNode, hWill⟩
    rcases mem_perform_of_mem hRunning hMember with
      hSame | hStays
    · exact absurd (hSame ▸ hNode.symm) hOther
    · exact ⟨other, hStays, hNode, hWill⟩
  constructor
  · exact hKeeps.link.trans hBefore.link
  · exact settles_perform hBefore hRunning hDue
  · intro hHas hNot
    exact
      hOwes _
        (hBefore.missing (hMapped.symm.trans hHas)
          ((hKeeps.subscribed userid).symm.trans hNot))
  · intro hNot hHas
    exact
      hOwes _
        (hBefore.surplus (hMapped.symm.trans hNot)
          ((hKeeps.subscribed userid).symm.trans hHas))

/- An operation of the node. -/
theorem Settling.perform
    (hBefore : before.Settling id userid)
    (hRunning : before.threads[index]? = some thread)
    (hDue : thread.process = .act op next)
    (hHere : thread.node = id)
    (hInTime :
      (op = .subscribe userid →
        before.cluster.mapped id userid = true ∨
          before.Owes id (.unsubscribe userid)) ∧
      (op = .unsubscribe userid →
        before.cluster.mapped id userid = false ∨
          before.Owes id (.subscribe userid))) :
    (before.perform env index thread op next).Settling id
      userid := by
  have hSettles :=
    hBefore.settles thread (List.mem_of_getElem? hRunning)
      hHere
  rw [hDue] at hSettles
  have hMapped :
      (before.perform env index thread op
          next).cluster.mapped id userid =
        (before.cluster.answer env id op).2.mapped id
          userid := by
    rw [← hHere]
    rfl
  have hSubscribed :
      (before.perform env index thread op
          next).cluster.subscribed id userid =
        (before.cluster.answer env id op).2.subscribed id
          userid := by
    rw [← hHere]
    rfl
  have hNew :
      ∀ duty,
        incurs userid op (before.cluster.answer env id op).1
            duty →
          (before.perform env index thread op next).Owes id
            duty := by
    intro duty hIncurs
    rw [← hHere] at hIncurs
    exact
      ⟨_, next_mem_perform env op next hRunning, hHere,
        (hSettles _).1 duty hIncurs⟩
  constructor
  · exact
      (Cluster.link_answer env op before.cluster).trans
        hBefore.link
  · exact settles_perform hBefore hRunning hDue
  · intro hHas hNot
    rw [hMapped] at hHas
    rw [hSubscribed, Cluster.subscribed_answer env hBefore.link]
      at hNot
    have hNe : op ≠ .subscribe userid := by
      intro hOp
      simp [hOp] at hNot
    rw [if_neg hNe] at hNot
    rcases Cluster.mapped_answer env id userid op
        before.cluster with
      hSame | ⟨_, hIncurs⟩ | ⟨hGone, _⟩
    · rw [hSame] at hHas
      have hOwes : before.Owes id (.subscribe userid) := by
        by_cases hOp : op = .unsubscribe userid
        · rcases hInTime.2 hOp with hUnmapped | hOwes
          · simp [hHas] at hUnmapped
          · exact hOwes
        · rw [if_neg hOp] at hNot
          exact hBefore.missing hHas hNot
      exact hOwes.perform hRunning hDue hNe
    · exact hNew _ hIncurs
    · simp [hHas] at hGone
  · intro hNot hHas
    rw [hMapped] at hNot
    rw [hSubscribed, Cluster.subscribed_answer env hBefore.link]
      at hHas
    have hNe : op ≠ .unsubscribe userid := by
      intro hOp
      simp [hOp] at hHas
    rcases Cluster.mapped_answer env id userid op
        before.cluster with
      hSame | ⟨hMade, _⟩ | ⟨_, hIncurs⟩
    · rw [hSame] at hNot
      have hOwes : before.Owes id (.unsubscribe userid) := by
        by_cases hOp : op = .subscribe userid
        · rcases hInTime.1 hOp with hMap | hOwes
          · simp [hNot] at hMap
          · exact hOwes
        · rw [if_neg hOp, if_neg hNe] at hHas
          exact hBefore.surplus hNot hHas
      exact hOwes.perform hRunning hDue hNe
    · simp [hNot] at hMade
    · exact hNew _ hIncurs

end Performing

/- Redis and the network change no entry, and what was issued
stays issued. -/
theorem connOf_environment
    (cluster : Cluster)
    (event : EnvironmentEvent)
    (id : NodeId)
    (userid : Int) :
    (cluster.environment event).connOf id userid =
      cluster.connOf id userid := by
  have hSetNode :
      ∀ node changed,
        changed.userConnMap =
            (cluster.nodes node).userConnMap →
          (cluster.setNode node changed).connOf id userid =
            cluster.connOf id userid := by
    intro node changed hMap
    exact
      (Cluster.frame_setNode cluster (.queryUser 0) node
        changed fun _ => hMap).maps trivial id userid
  cases event with
  | serveSubscription node =>
      simp only [Cluster.environment,
        Cluster.serveSubscription]
      split
      · rfl
      · unfold Cluster.connOf
        rw [Cluster.nodes_executeCommand]
        exact hSetNode _ _ rfl
  | setIncrOutcome node outcome => exact hSetNode _ _ rfl
  | setPublishLink node up => exact hSetNode _ _ rfl
  | setSubscribeLink node up => exact hSetNode _ _ rfl
  | rehash node userConnMap =>
      simp only [Cluster.environment]
      split
      · rename_i hPerm
        by_cases hHere : id = node
        · rw [hHere, Cluster.connOf_setMap_self,
            AList.perm_lookup hPerm]
          rfl
        · have hApart :
              Cluster.Apart node cluster
                (cluster.setMap node userConnMap) :=
            Cluster.apart_setNode cluster node _
          rw [hApart.maps id hHere]
      · rfl

theorem mapped_environment
    (cluster : Cluster)
    (event : EnvironmentEvent) :
    (cluster.environment event).mapped id userid =
      cluster.mapped id userid := by
  unfold Cluster.mapped
  rw [connOf_environment]

theorem subscribed_environment
    (cluster : Cluster)
    (event : EnvironmentEvent) :
    (cluster.environment event).subscribed id userid =
      cluster.subscribed id userid := by
  have hSetNode :
      ∀ node changed,
        changed.commands = (cluster.nodes node).commands →
          (cluster.setNode node changed).subscribed id
              userid =
            cluster.subscribed id userid := by
    intro node changed hCommands
    unfold Cluster.subscribed Cluster.setNode
    by_cases hHere : id = node
    · rw [hHere]
      simp [hCommands]
    · simp [hHere]
  cases event with
  | serveSubscription node =>
      exact
        Cluster.subscribed_serveSubscription cluster node id
          userid
  | setIncrOutcome node outcome => exact hSetNode _ _ rfl
  | setPublishLink node up => exact hSetNode _ _ rfl
  | setSubscribeLink node up => exact hSetNode _ _ rfl
  | rehash node userConnMap =>
      simp only [Cluster.environment]
      split
      · exact hSetNode _ _ rfl
      · rfl

theorem link_environment
    {cluster : Cluster}
    {event : EnvironmentEvent}
    (hLink : (cluster.nodes id).subscribeLink = true)
    (hStays : LinkStays id (.environment event)) :
    ((cluster.environment event).nodes id).subscribeLink =
      true := by
  have hSetNode :
      ∀ node changed,
        (node = id → changed.subscribeLink = true) →
          ((cluster.setNode node changed).nodes
            id).subscribeLink = true := by
    intro node changed hChanged
    unfold Cluster.setNode
    by_cases hHere : id = node
    · rw [hHere]
      simpa using hChanged hHere.symm
    · simpa [hHere] using hLink
  have hKept :
      ∀ node,
        node = id →
          (cluster.nodes node).subscribeLink = true := by
    intro node hHere
    rw [hHere]
    exact hLink
  cases event with
  | serveSubscription node =>
      simp only [Cluster.environment,
        Cluster.serveSubscription]
      split
      · exact hLink
      · rw [Cluster.nodes_executeCommand]
        exact hSetNode _ _ (hKept node)
  | setIncrOutcome node outcome =>
      exact hSetNode _ _ (hKept node)
  | setPublishLink node up => exact hSetNode _ _ (hKept node)
  | setSubscribeLink node up =>
      exact hSetNode _ _ hStays
  | rehash node userConnMap =>
      simp only [Cluster.environment]
      split
      · exact hSetNode _ _ (hKept node)
      · exact hLink

/- A new handler settles what it changes. -/
theorem settles_append
    {threads : List Thread}
    {thread : Thread}
    (hThreads :
      ∀ other ∈ threads,
        other.node = id →
          ChatService.Settles userid other.process)
    (hThread : ChatService.Settles userid thread.process) :
    ∀ other ∈ threads ++ [thread],
      other.node = id →
        ChatService.Settles userid other.process := by
  intro other hMember hNode
  rcases List.mem_append.mp hMember with hOld | hNew
  · exact hThreads other hOld hNode
  · rw [List.mem_singleton.mp hNew]
    exact hThread

/- Every step. -/
theorem settling_step
    (hUser : userid ≠ -1)
    {label : Label}
    (hBefore : before.Settling id userid)
    (hStays : LinkStays id label)
    (hInTime : before.InTime id label)
    (hStep : before.step env observer label = some after) :
    after.Settling id userid := by
  cases move_of_step hStep with
  | frame conn body readings =>
      apply hBefore.quiet
      · exact hBefore.link
      · exact
          settles_append hBefore.settles
            (ChatServer.settles_onMessage env conn body
              readings)
      · exact fun _ hOld =>
          Or.inl (List.mem_append_left _ hOld)
      · rfl
      · rfl
  | disconnect conn =>
      apply hBefore.quiet
      · exact hBefore.link
      · exact
          settles_append hBefore.settles
            (ChatServer.settles_onConnection hUser conn)
      · exact fun _ hOld =>
          Or.inl (List.mem_append_left _ hOld)
      · rfl
      · rfl
  | @notify node reply rest user text hFound hRead =>
      apply hBefore.quiet
      · exact hBefore.link
      · exact
          settles_append hBefore.settles
            (ChatService.settles_of_sessionless
              (ChatService.sessionless_handleredissubscribemessage
                user text))
      · exact fun _ hOld =>
          Or.inl (List.mem_append_left _ hOld)
      · rfl
      · rfl
  | skip =>
      exact
        hBefore.quiet hBefore.link hBefore.settles
          (fun _ hOld => Or.inl hOld) rfl rfl
  | @perform index thread op next hRunning hDue =>
      by_cases hHere : thread.node = id
      · apply hBefore.perform hRunning hDue hHere
        exact
          hInTime _ (performs_of_due hRunning hDue) hHere
            userid
      · exact
          hBefore.performElsewhere hRunning hDue
            (Ne.symm hHere)
  | @finish index thread hRunning hDone =>
      apply hBefore.quiet
      · exact hBefore.link
      · intro other hOther hNode
        exact
          hBefore.settles other
            (List.mem_of_mem_eraseIdx hOther) hNode
      · intro other hOther
        rcases mem_eraseIdx_of_mem hRunning hOther with
          hSame | hStays
        · exact Or.inr (hSame ▸ hDone)
        · exact Or.inl hStays
      · rfl
      · rfl
  | environment event =>
      exact
        hBefore.quiet (link_environment hBefore.link hStays)
          hBefore.settles (fun _ hOld => Or.inl hOld)
          (mapped_environment _ event)
          (subscribed_environment _ event)

/-
  Between handlers, the subscriptions of a node follow its
  map, in every run in which each subscription is made and
  ended in time.
-/
theorem subscriptions_follow
    {start final : World}
    {labels : List Label}
    (hStart : start.SubscriptionsFollow id)
    (hIdle : start.Idle id)
    (hLink :
      (start.cluster.nodes id).subscribeLink = true)
    (hRun :
      Transition.Run (step env observer)
        (fun world label =>
          LinkStays id label ∧ world.InTime id label)
        start labels final)
    (hFinal : final.Idle id) :
    final.SubscriptionsFollow id := by
  intro userid hUser
  have hFollows := hStart userid hUser
  have hSettling : start.Settling id userid := by
    constructor
    · exact hLink
    · intro thread hThread hNode
      exact absurd hNode (hIdle thread hThread)
    · intro hHas hNot
      simp [hFollows.mpr hHas] at hNot
    · intro hNot hHas
      simp [hFollows.mp hHas] at hNot
  have hSettled :=
    hRun.invariant (Settling id userid)
      (fun _ _ _ hBefore hMeets hStep =>
        settling_step hUser hBefore hMeets.1 hMeets.2 hStep)
      hSettling
  have hNothing :
      ∀ duty, ¬ final.Owes id duty := by
    intro duty hOwes
    rcases hOwes with ⟨thread, hThread, hNode, _⟩
    exact hFinal thread hThread hNode
  constructor
  · intro hHas
    by_contra hUnmapped
    exact
      hNothing _
        (hSettled.surplus (by simpa using hUnmapped) hHas)
  · intro hHas
    by_contra hMissing
    exact
      hNothing _
        (hSettled.missing hHas (by simpa using hMissing))

------------------------------------------------------------
-- A Login Between the Halves of a Closing
------------------------------------------------------------

/- The map agrees with each subscription and its end. -/
def Prompt
    (id : NodeId)
    (world : World)
    (label : Label) : Prop :=
  LinkStays id label ∧
    ∀ entry ∈ world.performs label,
      entry.node = id →
        match entry.op with
        | .subscribe userid =>
            world.cluster.mapped id userid = true
        | .unsubscribe userid =>
            world.cluster.mapped id userid = false
        | _ => True

instance
    (id : NodeId)
    (world : World)
    (label : Label) :
    Decidable (Prompt id world label) := by
  unfold Prompt
  have hOp :
      ∀ op : ServerOp,
        Decidable
          (match op with
          | .subscribe userid =>
              world.cluster.mapped id userid = true
          | .unsubscribe userid =>
              world.cluster.mapped id userid = false
          | _ => True) := by
    intro op
    exact
      decidable_of_bool
        (match op with
        | .subscribe userid => world.cluster.mapped id userid
        | .unsubscribe userid =>
            !world.cluster.mapped id userid
        | _ => true)
        (by cases op <;> simp)
  infer_instance

theorem Prompt.inTime
    {world : World}
    {label : Label}
    (hPrompt : Prompt id world label) :
    LinkStays id label ∧ world.InTime id label := by
  refine ⟨hPrompt.1, ?_⟩
  intro entry hEntry hNode user
  have hOp := hPrompt.2 entry hEntry hNode
  constructor
  · intro hSubscribe
    rw [hSubscribe] at hOp
    exact Or.inl hOp
  · intro hUnsubscribe
    rw [hUnsubscribe] at hOp
    exact Or.inl hOp

/- The accounts, and a codec for the login frame. -/
def settlingExternals : Externals :=
  sampleExternals [.object (sampleLogin "ann")]

def settlingStart : World where
  cluster := sampleCluster []
  threads := []
  log := []

/- A login of user 1 whose thread has the given index. -/
def wholeLogin
    (conn : ConnId)
    (index : Nat) : List Label :=
  .frame conn (Json.object (sampleLogin "ann")).text
      sampleReadings ::
    List.replicate 9 (.run index)

/- The closing is through before the next login begins. -/
def closedFirst : List Label :=
  wholeLogin 5 0 ++ .disconnect 5 ::
    List.replicate 6 (.run 0) ++ wholeLogin 6 0

/- The next login comes before the closing unsubscribes. -/
def unsubscribedLast : List Label :=
  wholeLogin 5 0 ++ .disconnect 5 ::
    List.replicate 3 (.run 0) ++ wholeLogin 6 1 ++
      List.replicate 3 (.run 0)

/- The user is in the map, and the channel is not
subscribed. -/
def Unsubscribed (world : World) : Prop :=
  world.threads.length = 0 ∧
    world.cluster.mapped 1 1 = true ∧
      world.cluster.subscribed 1 1 = false

instance : DecidablePred Unsubscribed :=
  fun _ => inferInstanceAs (Decidable (_ ∧ _ ∧ _))

theorem settlingStart_idle : settlingStart.Idle 1 := by
  intro thread hThread
  simp [settlingStart] at hThread

theorem settlingStart_follows :
    settlingStart.SubscriptionsFollow 1 := by
  intro userid _
  constructor
  · intro hHas
    simp [settlingStart, Cluster.subscribed, sampleCluster,
      Subscriptions.has, Subscriptions.empty] at hHas
  · intro hHas
    simp [settlingStart, Cluster.mapped, Cluster.connOf,
      sampleCluster] at hHas

theorem idle_of_length
    {world : World}
    (hThreads : world.threads.length = 0) :
    world.Idle id := by
  intro thread hThread
  rw [List.length_eq_zero_iff.mp hThreads] at hThread
  simp at hThread

theorem closedFirst_follows :
    ∃ final,
      Transition.Run (step settlingExternals Redis.observe)
          (fun world label =>
            LinkStays 1 label ∧ world.InTime 1 label)
          settlingStart closedFirst final ∧
        final.Idle 1 ∧ final.SubscriptionsFollow 1 := by
  have hRun :=
    Transition.exists_run_of_execute
      (step settlingExternals Redis.observe) (Prompt 1)
      (fun world => world.threads.length = 0)
      (show
        ∃ final ∈
          Transition.execute
            (step settlingExternals Redis.observe)
            (Prompt 1) settlingStart closedFirst,
          final.threads.length = 0 by decide +kernel)
  rcases hRun with ⟨final, hRun, hThreads⟩
  have hInTime := hRun.mono fun _ _ hPrompt => hPrompt.inTime
  exact
    ⟨final, hInTime, idle_of_length hThreads,
      subscriptions_follow settlingStart_follows
        settlingStart_idle rfl hInTime
        (idle_of_length hThreads)⟩

/- The late command ends the new session's subscription. -/
theorem unsubscribedLast_differs :
    settlingStart.SubscriptionsFollow 1 ∧
      settlingStart.Idle 1 ∧
      (settlingStart.cluster.nodes 1).subscribeLink = true ∧
        ∃ final,
          Transition.Run
              (step settlingExternals Redis.observe)
              (fun _ label => LinkStays 1 label)
              settlingStart unsubscribedLast final ∧
            final.Idle 1 ∧
              ¬ final.SubscriptionsFollow 1 := by
  refine
    ⟨settlingStart_follows, settlingStart_idle, rfl, ?_⟩
  have hRun :=
    Transition.exists_run_of_execute
      (step settlingExternals Redis.observe)
      (fun _ label => LinkStays 1 label) Unsubscribed
      (show
        ∃ final ∈
          Transition.execute
            (step settlingExternals Redis.observe)
            (fun _ label => LinkStays 1 label)
            settlingStart unsubscribedLast,
          Unsubscribed final by decide +kernel)
  rcases hRun with ⟨final, hRun, hThreads, hMapped, hNot⟩
  refine ⟨final, hRun, idle_of_length hThreads, ?_⟩
  intro hFollows
  have hHas := (hFollows 1 (by decide)).mpr hMapped
  simp [hNot] at hHas

end World

end ClusterChat
