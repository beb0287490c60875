import ClusterChat.Server.HandlerOps
import ClusterChat.Server.World

/-
  What becomes of a payload while its recipients leave.

  A sender looks up the recipient, asks the database, and
  delivers, with the recipient's closing or logout going on
  at the same time.  Two of its deliveries report nothing: a
  write on a connection that has just gone down, and a
  `PUBLISH` that no node listens to.  A payload that meets
  neither of them reaches every recipient or the table.

  Main declarations:
    * `Routes`
    * `Performed.written` and `Performed.dropped`
    * `World.Reached`
    * `World.payload_arrives`
-/

------------------------------------------------------------
-- What a Sender Owes
------------------------------------------------------------

namespace ClusterChat

/-
  How a sender's obligation towards a user changes with an
  operation: `known` is the connection it has found for the
  user, and `none` discharges the obligation.
-/
def owes
    (userid : Int)
    (msg : String)
    (known : Option ConnId) :
    (op : ServerOp) → op.Res → Option (Option ConnId)
| .findConn other, found =>
    if other = userid then some found else some known
| .findConns _, found => some (found userid)
| .findAndSend other text, sent =>
    if other = userid ∧ text = msg ∧ sent = true then
      none
    else
      some known
| .send conn text, _ =>
    if known = some conn ∧ text = msg then
      none
    else
      some known
| .publish channel text, published =>
    if channel = userid ∧ text = msg ∧ published = true then
      none
    else
      some known
| .insertOffline other text, _ =>
    if other = userid ∧ text = msg then
      none
    else
      some known
| _, _ => some known

namespace ChatService

variable {userid : Int} {msg : String}

/- The handler delivers to the user on every path. -/
abbrev Delivers
    (userid : Int)
    (msg : String)
    (known : Option ConnId)
    (handler : Handler Unit) : Prop :=
  handler.Fulfils (owes userid msg) known

/- The handler delivers to others only, or to the user too. -/
abbrev DeliversElsewhere
    (userid : Int)
    (msg : String)
    (known : Option ConnId)
    (handler : Handler Unit) : Prop :=
  handler.LeavesOpen (owes userid msg) known

/- One operation, then the rest. -/
theorem delivers_ask
    {known : Option ConnId}
    {op : ServerOp}
    {rest : op.Res → Handler Unit}
    (hRest :
      ∀ answer left,
        owes userid msg known op answer = some left →
          Delivers userid msg left (rest answer)) :
    Delivers userid msg known (ask op >>= rest) :=
  Process.fulfils_act hRest

theorem deliversElsewhere_ask
    {known : Option ConnId}
    {op : ServerOp}
    {rest : op.Res → Handler Unit}
    (hOp :
      ∀ answer,
        owes userid msg known op answer = none ∨
          owes userid msg known op answer = some known)
    (hRest :
      ∀ answer,
        DeliversElsewhere userid msg known (rest answer)) :
    DeliversElsewhere userid msg known (ask op >>= rest) :=
  fun answer => ⟨hOp answer, hRest answer⟩

/- A delivery discharges the obligation, or it is for
another user. -/
theorem discharged_or_same
    {condition : Prop}
    [Decidable condition]
    (known : Option ConnId) :
    (if condition then none else some known) = none ∨
      (if condition then none else some known) =
        some known := by
  split
  · exact Or.inl rfl
  · exact Or.inr rfl

theorem delivers_insertOffline (known : Option ConnId) :
    Delivers userid msg known
      (ask (.insertOffline userid msg)) := by
  apply Process.fulfils_act
  intro _ left hLeft
  simp [owes] at hLeft

/- A user whom the sender has not found on its node. -/
theorem delivers_forward (known : Option ConnId) :
    Delivers userid msg known (forward userid msg) := by
  unfold forward
  apply delivers_ask
  intro (user : User) left hLeft
  split
  · apply delivers_ask
    intro (published : Bool) others hPublished
    split
    · rename_i hHeard
      simp [owes, hHeard] at hPublished
    · exact delivers_insertOffline others
  · exact delivers_insertOffline left

theorem deliversElsewhere_forward
    (other : Int)
    (known : Option ConnId) :
    DeliversElsewhere userid msg known
      (forward other msg) := by
  unfold forward
  apply deliversElsewhere_ask
  · exact fun _ => Or.inr rfl
  intro (user : User)
  split
  · apply deliversElsewhere_ask
    · exact fun _ => discharged_or_same known
    intro (published : Bool)
    split
    · trivial
    · exact fun _ => ⟨discharged_or_same known, trivial⟩
  · exact fun _ => ⟨discharged_or_same known, trivial⟩

/- `onechat` delivers to the recipient. -/
theorem delivers_routeOne (known : Option ConnId) :
    Delivers userid msg known (routeOne userid msg) := by
  unfold routeOne
  apply delivers_ask
  intro (sent : Bool) left hLeft
  split
  · rename_i hSent
    simp [owes, hSent] at hLeft
  · exact delivers_forward left

theorem deliversElsewhere_sendAll
    (known : Option ConnId)
    (conns : List ConnId) :
    DeliversElsewhere userid msg known
      (sendAll msg conns) := by
  induction conns with
  | nil => trivial
  | cons conn conns ih =>
      unfold sendAll
      apply deliversElsewhere_ask
      · exact fun _ => discharged_or_same known
      · exact fun _ => ih

/- The connection that was found is written to. -/
theorem delivers_sendAll
    {conn : ConnId}
    {conns : List ConnId}
    (hConn : conn ∈ conns) :
    Delivers userid msg (some conn) (sendAll msg conns) := by
  induction conns with
  | nil => simp at hConn
  | cons first conns ih =>
      unfold sendAll
      apply delivers_ask
      intro _ left hLeft
      simp only [owes] at hLeft
      split at hLeft
      · simp at hLeft
      · rename_i hOther
        rw [← Option.some.inj hLeft]
        apply ih
        rcases List.mem_cons.mp hConn with hFirst | hRest
        · exact absurd ⟨congrArg some hFirst, trivial⟩ hOther
        · exact hRest

theorem delivers_forwardAll
    (known : Option ConnId)
    {ids : List Int}
    (hUser : userid ∈ ids) :
    Delivers userid msg known (forwardAll msg ids) := by
  induction ids with
  | nil => simp at hUser
  | cons id ids ih =>
      unfold forwardAll
      by_cases hSame : id = userid
      · rw [hSame]
        exact Process.fulfils_bind (delivers_forward known)
      · apply Process.fulfils_bind_of_leavesOpen
        · exact deliversElsewhere_forward id known
        · intro _
          apply ih
          exact
            (List.mem_cons.mp hUser).resolve_left
              fun hHere => hSame hHere.symm

/- `groupchat` delivers to every member it has read. -/
theorem delivers_routeGroup
    (known : Option ConnId)
    {members : List Int}
    (hMember : userid ∈ members) :
    Delivers userid msg known (routeGroup members msg) := by
  unfold routeGroup
  apply delivers_ask
  intro found left hLeft
  have hKnown : found userid = left := Option.some.inj hLeft
  cases hFound : found userid with
  | some conn =>
      rw [← hKnown, hFound]
      apply Process.fulfils_bind
      apply delivers_sendAll
      exact List.mem_filterMap.mpr ⟨userid, hMember, hFound⟩
  | none =>
      apply Process.fulfils_bind_of_leavesOpen
      · exact deliversElsewhere_sendAll left _
      · intro _
        apply delivers_forwardAll left
        exact List.mem_filter.mpr ⟨hMember, by simp [hFound]⟩

/- A node that was notified delivers, or stores again. -/
theorem delivers_notify (known : Option ConnId) :
    Delivers userid msg known
      (handleredissubscribemessage userid msg) := by
  unfold handleredissubscribemessage
  apply delivers_ask
  intro (target : Option ConnId) left hLeft
  have hKnown : target = left := by
    simpa [owes] using hLeft
  subst hKnown
  split
  · apply Process.fulfils_act
    intro _ others hOthers
    simp [owes] at hOthers
  · exact delivers_insertOffline _

end ChatService

------------------------------------------------------------
-- The Routing Part of the Chat Handlers
------------------------------------------------------------

/- A handler that is about to route a payload. -/
inductive Routes (msg : String) :
    List Int → Handler Unit → Prop where
| one (conn : ConnId) (toid : Int) :
    Routes msg [toid]
      (ChatServer.guarded conn
        (ChatService.routeOne toid msg))
| group (conn : ConnId) (members : List Int) :
    Routes msg members
      (ChatServer.guarded conn
        (ChatService.routeGroup members msg))

theorem Routes.delivers
    {userid : Int}
    {msg : String}
    {targets : List Int}
    {handler : Handler Unit}
    (hRoutes : Routes msg targets handler)
    (hTarget : userid ∈ targets) :
    ChatService.Delivers userid msg none handler := by
  cases hRoutes with
  | one conn toid =>
      rw [List.mem_singleton.mp hTarget]
      exact
        Process.fulfils_tryCatch
          (ChatService.delivers_routeOne none)
  | group conn =>
      exact
        Process.fulfils_tryCatch
          (ChatService.delivers_routeGroup none hTarget)

------------------------------------------------------------
-- Deliveries
------------------------------------------------------------

namespace Performed

/- The node has the user on the connection. -/
def Maps
    (userid : Int)
    (conn : ConnId)
    (entry : Performed) : Prop :=
  entry.before.connOf entry.node userid = some conn

/- What the operation writes, and on which open connection. -/
def written
    (entry : Performed) : Option (ConnId × String) :=
  match entry.op with
  | .findAndSend userid text =>
      match entry.before.connOf entry.node userid with
      | some conn =>
          if entry.before.conns conn = .connected then
            some (conn, text)
          else
            none
      | none => none
  | .send conn text =>
      if entry.before.conns conn = .connected then
        some (conn, text)
      else
        none
  | _ => none

/-
  The delivery of the text is dropped without a report: the
  connection is not connected any more, or Redis answers the
  `PUBLISH` although no node is subscribed.
-/
def dropped
    (msg : String)
    (entry : Performed) : Bool :=
  match entry.op with
  | .findAndSend userid text =>
      match entry.before.connOf entry.node userid with
      | some conn =>
          decide
            (text = msg ∧
              entry.before.conns conn ≠ .connected)
      | none => false
  | .send conn text =>
      decide
        (text = msg ∧ entry.before.conns conn ≠ .connected)
  | .publish channel text =>
      decide
        (text = msg ∧
          (entry.before.nodes entry.node).publishLink = true ∧
            entry.before.subscriptions.subscribers
                (Redis.channelName channel) =
              [])
  | _ => false

end Performed

/- The label is a login frame. -/
def Label.isLogin
    (env : Externals) : Label → Bool
| .frame _ body _ =>
    match env.codec.parse body with
    | some (.object fields) =>
        let msgid := JsonObject.field fields "msgid"
        match msgid.getInt with
        | .ok code =>
            msgid.isNumberInteger &&
              decide (code = EnMsgType.loginMsg.code)
        | .error _ => false
    | _ => false
| _ => false

theorem keepsStored_onMessage
    (env : Externals)
    {conn : ConnId}
    {body : String}
    {readings : Readings}
    (hLogin :
      Label.isLogin env (.frame conn body readings) =
        false) :
    ChatService.KeepsStored
      (ChatServer.onMessage env conn body readings) := by
  apply Process.always_tryCatch
  · simp only [Label.isLogin] at hLogin
    split
    · rename_i js hParse
      rw [hParse] at hLogin
      unfold ChatServer.dispatch
      split
      · dsimp only
        split
        · rename_i hInteger
          cases hMsgid :
              (JsonObject.field _ "msgid").getInt with
          | error error => trivial
          | ok msgid =>
              apply ChatService.keepsStored_getHandler
              intro hSame
              simp [hMsgid, hSame, hInteger] at hLogin
        · trivial
      · trivial
    · trivial
  · exact fun _ => ⟨trivial, fun _ => trivial⟩

namespace World

/- The payload was written on an open connection on which a
node had the user. -/
def Reached
    (userid : Int)
    (msg : String)
    (world : World) : Prop :=
  ∃ conn,
    (∃ entry ∈ world.log, entry.Maps userid conn) ∧
      ∃ entry ∈ world.log, entry.written = some (conn, msg)

/- The payload is a stored message of the user. -/
def Waits
    (userid : Int)
    (msg : String)
    (world : World) : Prop :=
  OfflineMessageModel.Stored world.cluster.db userid msg

/- All steps have finished: no handler runs, and no reply is
left that an observer would report. -/
def Quiescent
    (observer : Observer)
    (world : World) : Prop :=
  world.threads = [] ∧
    ∀ entry ∈ world.cluster.replies, observer entry.2 = none

/- The step is no login, and it drops no delivery. -/
def DropsNothing
    (env : Externals)
    (msg : String)
    (world : World)
    (label : Label) : Prop :=
  label.isLogin env = false ∧
    ∀ entry ∈ world.performs label, entry.dropped msg = false

instance
    (env : Externals)
    (msg : String)
    (world : World)
    (label : Label) :
    Decidable (DropsNothing env msg world label) :=
  inferInstanceAs (Decidable (_ ∧ ∀ entry ∈ _, _))

------------------------------------------------------------
-- The Invariant
------------------------------------------------------------

/- Someone is still going to deliver the payload. -/
inductive Underway
    (userid : Int)
    (msg : String)
    (world : World) : Prop where
| handler
    {thread : Thread} {known : Option ConnId}
    (running : thread ∈ world.threads)
    (delivers :
      ChatService.Delivers userid msg known thread.process)
    (maps :
      ∀ conn ∈ known,
        ∃ entry ∈ world.log, entry.Maps userid conn)
| reply
    (id : NodeId)
    (sent :
      (id,
        Redis.messageReply (Redis.channelName userid) msg) ∈
          world.cluster.replies)

/- Nobody deletes stored messages, and the payload has
arrived or is still on its way. -/
structure OnItsWay
    (userid : Int)
    (msg : String)
    (world : World) : Prop where
  keeps :
    ∀ thread ∈ world.threads,
      ChatService.KeepsStored thread.process
  arrives :
    Reached userid msg world ∨ Waits userid msg world ∨
      Underway userid msg world

variable {env : Externals} {observer : Observer}
variable {userid : Int} {msg : String}
variable {before after : World}

/- A handler that is through delivers nothing any more. -/
theorem not_delivers_of_done
    {handler : Handler Unit}
    {known : Option ConnId}
    (hDone : nextOp handler = none) :
    ¬ ChatService.Delivers userid msg known handler := by
  intro hDelivers
  cases handler with
  | ret value => exact hDelivers
  | throw error => exact hDelivers
  | act op next => simp [nextOp] at hDone

/-
  Steps that perform no operation.  A thread that goes away
  is through, and a message that is taken is handled.
-/
theorem OnItsWay.quiet
    (hBefore : before.OnItsWay userid msg)
    (hKeeps :
      ∀ thread ∈ after.threads,
        ChatService.KeepsStored thread.process)
    (hThreads :
      ∀ thread ∈ before.threads,
        thread ∈ after.threads ∨
          nextOp thread.process = none)
    (hLog : after.log = before.log)
    (hDb : after.cluster.db = before.cluster.db)
    (hReplies :
      ∀ id,
        (id,
          Redis.messageReply (Redis.channelName userid) msg) ∈
            before.cluster.replies →
          (id,
            Redis.messageReply (Redis.channelName userid)
              msg) ∈ after.cluster.replies ∨
            after.Underway userid msg) :
    after.OnItsWay userid msg where
  keeps := hKeeps
  arrives := by
    unfold Reached Waits
    rw [hLog, hDb]
    refine
      hBefore.arrives.imp_right fun hArrives =>
        hArrives.imp_right fun hUnderway => ?_
    cases hUnderway with
    | @handler thread known running delivers maps =>
        rcases hThreads _ running with hStays | hDone
        · exact
            Underway.handler hStays delivers (hLog ▸ maps)
        · exact (not_delivers_of_done hDone delivers).elim
    | reply id sent =>
        rcases hReplies id sent with hStays | hTaken
        · exact Underway.reply id hStays
        · exact hTaken

theorem keepsStored_append
    {threads : List Thread}
    {thread : Thread}
    (hThreads :
      ∀ other ∈ threads,
        ChatService.KeepsStored other.process)
    (hThread : ChatService.KeepsStored thread.process) :
    ∀ other ∈ threads ++ [thread],
      ChatService.KeepsStored other.process := by
  intro other hMember
  rcases List.mem_append.mp hMember with hOld | hNew
  · exact hThreads other hOld
  · rw [List.mem_singleton.mp hNew]
    exact hThread

------------------------------------------------------------
-- One Operation
------------------------------------------------------------

section Performing

variable {index : Nat} {thread : Thread} {op : ServerOp}
variable {next : op.Res → Handler Unit}
variable {known left : Option ConnId}

theorem known_of_open
    {condition : Prop}
    [Decidable condition]
    (hOpen :
      (if condition then none else some known) =
        some left) :
    known = left := by
  split at hOpen
  · simp at hOpen
  · exact Option.some.inj hOpen

theorem condition_of_discharged
    {condition : Prop}
    [Decidable condition]
    (hNone :
      (if condition then none else some known) = none) :
    condition := by
  split at hNone
  · assumption
  · simp at hNone

/- A connection that the sender knows was in the map. -/
theorem maps_of_owes
    {id : NodeId}
    {cluster : Cluster}
    (hOwes :
      owes userid msg known op (cluster.answer env id op).1 =
        some left)
    {conn : ConnId}
    (hConn : conn ∈ left) :
    conn ∈ known ∨
      Performed.Maps userid conn ⟨id, op, cluster⟩ := by
  cases op
  case findConn other =>
    simp only [owes] at hOwes
    split at hOwes
    · rename_i hSame
      rw [← hSame]
      rw [← Option.some.inj hOwes] at hConn
      exact Or.inr hConn
    · rw [← Option.some.inj hOwes] at hConn
      exact Or.inl hConn
  case findConns others =>
    rw [← Option.some.inj hOwes] at hConn
    exact Or.inr hConn
  case findAndSend =>
    exact Or.inl (known_of_open hOwes ▸ hConn)
  case send => exact Or.inl (known_of_open hOwes ▸ hConn)
  case publish => exact Or.inl (known_of_open hOwes ▸ hConn)
  case insertOffline =>
    exact Or.inl (known_of_open hOwes ▸ hConn)
  all_goals
    exact Or.inl (Option.some.inj hOwes ▸ hConn)

/-
  An operation that discharges the obligation, and that does
  not drop the payload, has delivered it: to a connection, to
  the table, or to a node that will be notified.
-/
theorem delivered_of_owes
    {id : NodeId}
    {cluster : Cluster}
    (hText : cString msg = msg)
    (hOwes :
      owes userid msg known op (cluster.answer env id op).1 =
        none)
    (hDropped :
      Performed.dropped msg ⟨id, op, cluster⟩ = false) :
    (∃ conn,
      (conn ∈ known ∨
          Performed.Maps userid conn ⟨id, op, cluster⟩) ∧
        Performed.written ⟨id, op, cluster⟩ =
          some (conn, msg)) ∨
      OfflineMessageModel.Stored
        (cluster.answer env id op).2.db userid msg ∨
      ∃ node,
        (node,
          Redis.messageReply (Redis.channelName userid) msg) ∈
            (cluster.answer env id op).2.replies := by
  cases op
  case findAndSend other text =>
    have hSent := (condition_of_discharged hOwes)
    rcases hSent with ⟨hUser, hSame, hFound⟩
    cases hConn : cluster.connOf id other with
    | none => simp [Cluster.answer, hConn] at hFound
    | some conn =>
        have hOpen : cluster.conns conn = .connected := by
          simpa [Performed.dropped, hConn, hSame]
            using hDropped
        refine Or.inl ⟨conn, Or.inr (hUser ▸ hConn), ?_⟩
        simp [Performed.written, hConn, hOpen, hSame]
  case send conn text =>
    rcases condition_of_discharged hOwes with ⟨hConn, hSame⟩
    have hOpen : cluster.conns conn = .connected := by
      simpa [Performed.dropped, hSame] using hDropped
    refine Or.inl ⟨conn, Or.inl hConn, ?_⟩
    simp [Performed.written, hOpen, hSame]
  case publish channel text =>
    rcases condition_of_discharged hOwes with
      ⟨hUser, hSame, hHeard⟩
    subst hUser hSame
    have hLink : (cluster.nodes id).publishLink = true := by
      by_contra hDown
      simp [Cluster.answer, hDown] at hHeard
    have hSome :
        cluster.subscriptions.subscribers
            (Redis.channelName channel) ≠
          [] := by
      simpa [Performed.dropped, hLink] using hDropped
    rcases List.exists_mem_of_ne_nil _ hSome with
      ⟨node, hNode⟩
    refine Or.inr (Or.inr ⟨node, ?_⟩)
    simp only [Cluster.answer, hLink, if_true]
    apply List.mem_append_right
    rw [hText]
    exact List.mem_map_of_mem hNode
  case insertOffline other text =>
    rcases condition_of_discharged hOwes with ⟨hUser, hSame⟩
    refine Or.inr (Or.inl ?_)
    apply (Cluster.stored_answer_iff env _ _ _ _ _).mpr
    exact Or.inr (by rw [hUser, hSame])
  case findConn other =>
    simp only [owes] at hOwes
    split at hOwes <;> simp at hOwes
  all_goals simp [owes] at hOwes

theorem reached_perform
    (hReached : before.Reached userid msg) :
    (before.perform env index thread op next).Reached userid
      msg := by
  rcases hReached with
    ⟨conn, ⟨first, hFirst, hMaps⟩, ⟨second, hSecond, hWrites⟩⟩
  exact
    ⟨conn, ⟨first, List.mem_append_left _ hFirst, hMaps⟩,
      ⟨second, List.mem_append_left _ hSecond, hWrites⟩⟩

/- The thread itself was going to deliver the payload. -/
theorem arrives_perform
    (hText : cString msg = msg)
    (hRunning : before.threads[index]? = some thread)
    (hDelivers :
      ChatService.Delivers userid msg known (.act op next))
    (hMaps :
      ∀ conn ∈ known,
        ∃ entry ∈ before.log, entry.Maps userid conn)
    (hDropped :
      Performed.dropped msg
          ⟨thread.node, op, before.cluster⟩ =
        false) :
    (before.perform env index thread op next).Reached userid
        msg ∨
      (before.perform env index thread op next).Waits userid
          msg ∨
        (before.perform env index thread op next).Underway
          userid msg := by
  have hLast :
      (⟨thread.node, op, before.cluster⟩ : Performed) ∈
        (before.perform env index thread op next).log :=
    List.mem_append_right _ (List.mem_singleton_self _)
  have hKnown :
      ∀ conn,
        (conn ∈ known ∨
            Performed.Maps userid conn
              ⟨thread.node, op, before.cluster⟩) →
          ∃ entry ∈
              (before.perform env index thread op next).log,
            entry.Maps userid conn := by
    intro conn hConn
    rcases hConn with hOld | hNow
    · rcases hMaps conn hOld with ⟨entry, hEntry, hEntryMaps⟩
      exact
        ⟨entry, List.mem_append_left _ hEntry, hEntryMaps⟩
    · exact ⟨_, hLast, hNow⟩
  cases hOwes :
      owes userid msg known op
        (before.cluster.answer env thread.node op).1 with
  | none =>
      rcases delivered_of_owes hText hOwes hDropped with
        ⟨conn, hConn, hWrites⟩ | hStored | ⟨node, hSent⟩
      · exact Or.inl ⟨conn, hKnown conn hConn, _, hLast, hWrites⟩
      · exact Or.inr (Or.inl hStored)
      · exact Or.inr (Or.inr (Underway.reply node hSent))
  | some left =>
      have hNext :=
        hDelivers
          (before.cluster.answer env thread.node op).1
      rw [hOwes] at hNext
      refine
        Or.inr
          (Or.inr
            (Underway.handler
              (next_mem_perform env op next hRunning) hNext
              ?_))
      intro conn hConn
      exact hKnown conn (maps_of_owes hOwes hConn)

/- An operation keeps the invariant. -/
theorem OnItsWay.perform
    (hText : cString msg = msg)
    (hBefore : before.OnItsWay userid msg)
    (hRunning : before.threads[index]? = some thread)
    (hDue : thread.process = .act op next)
    (hDropped :
      Performed.dropped msg
          ⟨thread.node, op, before.cluster⟩ =
        false) :
    (before.perform env index thread op next).OnItsWay userid
      msg := by
  have hThread := List.mem_of_getElem? hRunning
  have hStored := hBefore.keeps thread hThread
  rw [hDue] at hStored
  constructor
  · intro other hMember
    rcases mem_threads_perform hMember with hOld | hNew
    · exact hBefore.keeps other hOld
    · rw [hNew]
      exact hStored.2 _
  · rcases hBefore.arrives with hReached | hWaits | hUnderway
    · exact Or.inl (reached_perform hReached)
    · refine Or.inr (Or.inl ?_)
      apply (Cluster.stored_answer_iff env _ _ _ _ _).mpr
      refine Or.inl ⟨hWaits, ?_⟩
      intro hRemove
      have hAllowed := hStored.1
      rw [hRemove] at hAllowed
      exact hAllowed
    · cases hUnderway with
      | @handler owing known running delivers maps =>
          rcases mem_perform_of_mem hRunning running with
            hSame | hOther
          · rw [hSame, hDue] at delivers
            exact
              arrives_perform hText hRunning delivers maps
                hDropped
          · refine
              Or.inr
                (Or.inr
                  (Underway.handler hOther delivers ?_))
            intro conn hConn
            rcases maps conn hConn with ⟨entry, hEntry, hMaps⟩
            exact
              ⟨entry, List.mem_append_left _ hEntry, hMaps⟩
      | reply id sent =>
          have hFrame :=
            Cluster.answer_frame env thread.node op
              before.cluster
          exact
            Or.inr
              (Or.inr
                (Underway.reply id (hFrame.replies _ sent)))

end Performing

------------------------------------------------------------
-- Runs
------------------------------------------------------------

/- The observers report the payload to the right user. -/
def Reports
    (observer : Observer)
    (userid : Int)
    (msg : String) : Prop :=
  observer
      (Redis.messageReply (Redis.channelName userid) msg) =
    some (userid, msg)

/- Every step keeps the invariant. -/
theorem onItsWay_step
    {label : Label}
    (hText : cString msg = msg)
    (hReports : Reports observer userid msg)
    (hBefore : before.OnItsWay userid msg)
    (hMeets : DropsNothing env msg before label)
    (hStep : before.step env observer label = some after) :
    after.OnItsWay userid msg := by
  cases move_of_step hStep with
  | frame conn body readings =>
      exact
        hBefore.quiet
          (keepsStored_append hBefore.keeps
            (keepsStored_onMessage env hMeets.1))
          (fun _ hOld => Or.inl (List.mem_append_left _ hOld))
          rfl rfl (fun _ => Or.inl)
  | disconnect conn =>
      exact
        hBefore.quiet
          (keepsStored_append hBefore.keeps
            (ChatService.keepsStored_onConnection conn))
          (fun _ hOld => Or.inl (List.mem_append_left _ hOld))
          rfl rfl (fun _ => Or.inl)
  | @notify id reply rest user text hFound hRead =>
      apply hBefore.quiet
      · exact
          keepsStored_append hBefore.keeps
            (ChatService.sessionless_handleredissubscribemessage
              user text).keepsStored
      · exact fun _ hOld =>
          Or.inl (List.mem_append_left _ hOld)
      · rfl
      · rfl
      · intro node hSent
        rcases mem_of_takeReply hFound hSent with
          hHere | hThere
        · rw [← (Prod.mk.inj hHere).2] at hRead
          have hSame :=
            Option.some.inj (hReports.symm.trans hRead)
          have hUser : userid = user :=
            congrArg Prod.fst hSame
          have hMsg : msg = text := congrArg Prod.snd hSame
          subst hUser hMsg
          exact
            Or.inr
              (Underway.handler
                (List.mem_append_right _
                  (List.mem_singleton_self _))
                (ChatService.delivers_notify none) (by simp))
        · exact Or.inl hThere
  | @skip id reply rest hFound hRead =>
      apply hBefore.quiet
      · exact hBefore.keeps
      · exact fun _ => Or.inl
      · rfl
      · rfl
      · intro node hSent
        rcases mem_of_takeReply hFound hSent with
          hHere | hThere
        · rw [← (Prod.mk.inj hHere).2] at hRead
          have hSame := hReports.symm.trans hRead
          simp at hSame
        · exact Or.inl hThere
  | perform index hRunning hDue =>
      exact
        hBefore.perform hText hRunning hDue
          (hMeets.2 _ (performs_of_due hRunning hDue))
  | @finish index thread hRunning hDone =>
      apply hBefore.quiet
      · exact fun _ hThread =>
          hBefore.keeps _ (List.mem_of_mem_eraseIdx hThread)
      · intro other hOther
        rcases mem_eraseIdx_of_mem hRunning hOther with
          hSame | hStays
        · exact Or.inr (hSame ▸ hDone)
        · exact Or.inl hStays
      · rfl
      · rfl
      · exact fun _ => Or.inl
  | environment event =>
      exact
        hBefore.quiet hBefore.keeps (fun _ => Or.inl) rfl
          (Cluster.db_environment _ event)
          (fun _ hSent =>
            Or.inl
              (Cluster.mem_replies_environment hSent event))

/-
  A sender is about to route a payload, and nobody is logging
  in.  If no delivery of the payload is dropped, then at the
  end of every interleaving with closings, logouts, and other
  handlers the payload was written to each recipient on an
  open connection, or is stored for the recipient.
-/
theorem payload_arrives
    {start final : World}
    {labels : List Label}
    {targets : List Int}
    {sender : Thread}
    (hSender : sender ∈ start.threads)
    (hRoutes : Routes msg targets sender.process)
    (hNoLogin :
      ∀ thread ∈ start.threads,
        ChatService.KeepsStored thread.process)
    (hText : cString msg = msg)
    (hReports :
      ∀ userid ∈ targets, Reports observer userid msg)
    (hRun :
      Transition.Run (step env observer)
        (DropsNothing env msg) start labels final)
    (hQuiescent : final.Quiescent observer) :
    ∀ userid ∈ targets,
      final.Reached userid msg ∨ final.Waits userid msg := by
  intro userid hTarget
  have hStart : start.OnItsWay userid msg :=
    { keeps := hNoLogin
      arrives :=
        Or.inr
          (Or.inr
            (Underway.handler hSender
              (hRoutes.delivers hTarget) (by simp))) }
  have hFinal :=
    hRun.invariant (OnItsWay userid msg)
      (fun _ _ _ hBefore hMeets hStep =>
        onItsWay_step hText (hReports userid hTarget) hBefore
          hMeets hStep)
      hStart
  rcases hFinal.arrives with hReached | hWaits | hUnderway
  · exact Or.inl hReached
  · exact Or.inr hWaits
  · cases hUnderway with
    | handler running delivers maps =>
        rw [hQuiescent.1] at running
        simp at running
    | reply id sent =>
        have hIgnored := hQuiescent.2 _ sent
        have hReported := hReports userid hTarget
        have hBoth := hReported.symm.trans hIgnored
        simp at hBoth

------------------------------------------------------------
-- A Recipient on Another Node
------------------------------------------------------------

/- The number that a decimal text stands for. -/
def readNumber (text : String) : Int :=
  let value : List Char → Nat := fun digits =>
    digits.foldl (fun n c => n * 10 + (c.toNat - 48)) 0
  match text.toList with
  | [] => 0
  | c :: digits =>
      if c.toNat = 45 then
        -(value digits : Int)
      else
        value (c :: digits)

/- An observer that reads the channel from its text. -/
def textObserver : Observer := fun reply =>
  match reply.element 1, reply.element 2 with
  | some channel, some message =>
      match channel.str, message.str with
      | some name, some text => some (readNumber name, text)
      | _, _ => none
  | _, _ => none

/- User 1 is online on connection 7 of node 2. -/
def departureCluster : Cluster :=
  { sampleCluster [] with
    nodes := fun id =>
      if id = 2 then
        { userConnMap :=
            AList.insert 1 7 (∅ : UserConnMap) }
      else
        {}
    subscriptions := Subscriptions.empty.insert 2 "1"
    home := fun conn => if conn = 7 then 2 else 1
    db :=
      { sampleDatabase [] with
        users := sampleUsers.updateState 1 .online } }

/- A payload for user 1. -/
def departurePayload : String :=
  (Json.object
    (ChatService.stamp "p1_2" 1 1700000000000000
      [("id", .integer 2), ("toid", .integer 1)])).text

/- A sender on node 1. -/
def departureSender : Thread where
  node := 1
  source := .connection 6
  process :=
    ChatServer.guarded 6
      (ChatService.routeOne 1 departurePayload)

def departureStart : World where
  cluster := departureCluster
  threads := [departureSender]
  log := []

/- The sender finds user 1 online, then publishes; user 1
leaves before node 2 takes the message. -/
def publishFirst : List Label :=
  [.run 0, .run 0, .run 0, .run 0, .disconnect 7, .run 0,
    .run 0, .run 0, .run 0, .run 0, .run 0, .observe 2,
    .run 0, .run 0, .run 0]

/- User 1 leaves, and Redis ends the subscription, before the
sender publishes. -/
def leaveFirst : List Label :=
  [.run 0, .run 0, .disconnect 7, .run 1, .run 1, .run 1,
    .run 1, .environment (.serveSubscription 2), .run 0,
    .run 0, .run 0, .run 0, .observe 2]

instance
    (observer : Observer)
    (world : World) :
    Decidable (Quiescent observer world) :=
  inferInstanceAs (Decidable (_ ∧ ∀ entry ∈ _, _))

/- Everything has finished, and the payload was neither
written nor stored. -/
def Vanished (world : World) : Prop :=
  world.Quiescent textObserver ∧
    (∀ entry ∈ world.log,
      entry.written.map Prod.snd ≠ some departurePayload) ∧
      ¬ world.Waits 1 departurePayload

instance : DecidablePred Vanished := fun world => by
  unfold Vanished Waits OfflineMessageModel.Stored
  infer_instance

theorem departureSender_routes :
    Routes departurePayload [1] departureSender.process :=
  Routes.one 6 1

/- The message is published while user 1 is still there. -/
theorem published_in_time :
    ∃ final,
      Transition.Run (step (sampleExternals []) textObserver)
          (DropsNothing (sampleExternals []) departurePayload)
          departureStart publishFirst final ∧
        final.Quiescent textObserver ∧
          ∀ userid ∈ ([1] : List Int),
            final.Reached userid departurePayload ∨
              final.Waits userid departurePayload := by
  have hRun :=
    Transition.exists_run_of_execute
      (step (sampleExternals []) textObserver)
      (DropsNothing (sampleExternals []) departurePayload)
      (Quiescent textObserver)
      (show
        ∃ final ∈
          Transition.execute
            (step (sampleExternals []) textObserver)
            (DropsNothing (sampleExternals [])
              departurePayload)
            departureStart publishFirst,
          Quiescent textObserver final by decide +kernel)
  rcases hRun with ⟨final, hRun, hQuiescent⟩
  have hNoLogin :
      ∀ thread ∈ departureStart.threads,
        ChatService.KeepsStored thread.process := by
    intro thread hThread
    rw [List.mem_singleton.mp hThread]
    exact
      Process.always_tryCatch
        (ChatService.sessionless_routeOne 1
          departurePayload).keepsStored
        (fun _ => ⟨trivial, fun _ => trivial⟩)
  have hReports :
      ∀ userid ∈ ([1] : List Int),
        Reports textObserver userid departurePayload := by
    intro userid hUser
    rw [List.mem_singleton.mp hUser]
    unfold Reports
    decide +kernel
  exact
    ⟨final, hRun, hQuiescent,
      payload_arrives List.mem_cons_self
        departureSender_routes hNoLogin (by decide +kernel)
        hReports hRun hQuiescent⟩

/- Published after user 1 has left, the message is neither
written nor stored. -/
theorem published_too_late :
    ∃ final,
      Transition.Run (step (sampleExternals []) textObserver)
          (fun _ _ => True) departureStart leaveFirst
          final ∧
        final.Quiescent textObserver ∧
          ¬ final.Reached 1 departurePayload ∧
            ¬ final.Waits 1 departurePayload := by
  have hRun :=
    Transition.exists_run_of_execute
      (step (sampleExternals []) textObserver)
      (fun _ _ => True) Vanished
      (show
        ∃ final ∈
          Transition.execute
            (step (sampleExternals []) textObserver)
            (fun _ _ => True) departureStart leaveFirst,
          Vanished final by decide +kernel)
  rcases hRun with
    ⟨final, hRun, hQuiescent, hUnwritten, hUnstored⟩
  refine ⟨final, hRun, hQuiescent, ?_, hUnstored⟩
  rintro ⟨conn, _, entry, hEntry, hWritten⟩
  apply hUnwritten entry hEntry
  rw [hWritten]
  rfl

end World

end ClusterChat
