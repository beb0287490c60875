import ClusterChat.Server.LoginSteps
import ClusterChat.Server.Rejection
import ClusterChat.Server.WriteOrder

/-
  What a login does with connections.

  A login maps its own connection, and after that it neither
  writes nor shuts anything down before its answer, which is
  its last operation.

  Main declarations:
    * `ChatService.mapped_of_trace`
    * `ServerOp.Concerns` and `Handles.concerns`
    * `History.Recorded` and `History.recorded_step`
    * `History.since_mapping` and `History.keeps_up_of_mapped`
-/

------------------------------------------------------------
-- What a Login Writes
------------------------------------------------------------

namespace ClusterChat

namespace ServerOp

/- The operation maps the connection. -/
def Maps (conn : ConnId) : ServerOp → Prop
| insertConn _ other => other = conn
| _ => False

instance (conn : ConnId) : DecidablePred (Maps conn) :=
  fun op =>
    decidable_of_bool
      (match op with
      | insertConn _ other => decide (other = conn)
      | _ => false)
      (by cases op <;> simp [Maps])

/- The operation sends such an answer. -/
def Acknowledges
    (env : Externals)
    (conn : ConnId) : ServerOp → Prop
| send other body =>
    other = conn ∧
      ∃ response,
        IsLoginAck response ∧
          body = env.codec.dump (.object response)
| _ => False

/- The operation neither writes to a connection, nor maps it,
nor shuts it down. -/
def LeavesConnections : ServerOp → Prop
| findAndSend _ _ => False
| send _ _ => False
| insertConn _ _ => False
| shutdown _ => False
| _ => True

theorem Maps.logsIn
    {conn : ConnId}
    {op : ServerOp}
    (hMaps : op.Maps conn) :
    ¬ op.LogsNobodyIn := by
  intro hNobody
  cases op with
  | insertConn userid other => exact hNobody
  | _ => exact hMaps

theorem LeavesConnections.not_maps
    {op : ServerOp}
    (hOp : op.LeavesConnections)
    (conn : ConnId) :
    ¬ op.Maps conn := by
  cases op with
  | insertConn userid other => exact hOp.elim
  | _ => exact fun hMaps => hMaps

theorem Acknowledges.not_maps
    {env : Externals}
    {conn : ConnId}
    {op : ServerOp}
    (hOp : op.Acknowledges env conn)
    (other : ConnId) :
    ¬ op.Maps other := by
  cases op with
  | send target body => exact fun hMaps => hMaps
  | _ => exact hOp.elim

end ServerOp

namespace ChatService

variable {env : Externals}

/- A login writes nothing but its answer, and that last. -/
theorem endsWith_answerLogin
    (conn : ConnId)
    (user : User) :
    (answerLogin env conn user).EndsWith
      ServerOp.LeavesConnections
      (ServerOp.Acknowledges env conn) := by
  unfold answerLogin
  apply Process.endsWith_bind
    (always_takeOffline env trivial trivial _)
    (returns_takeOffline user.id
      (isLoginAck_loginAccepted user.id user.name))
  intro stored hStored
  apply Process.endsWith_bind
    (always_addFriends env trivial stored)
    (returns_addFriends user.id hStored)
  intro friends hFriends
  apply Process.endsWith_bind
    (always_addGroups env trivial (fun _ => trivial) friends)
    (returns_addGroups user.id hFriends)
  intro response hResponse
  exact
    Or.inl
      ⟨⟨rfl, response, hResponse, rfl⟩, fun _ =>
        ⟨(), rfl⟩⟩

/- A login from the insertion into the map on. -/
theorem endsWith_afterMapping
    (conn : ConnId)
    (user : User) :
    Process.EndsWith ServerOp.LeavesConnections
      (ServerOp.Acknowledges env conn)
      (do
        let _ ← ask (.subscribe user.id)
        let _ ← ask (.updateState user.id .online)
        answerLogin env conn user : Handler Unit) := by
  refine Or.inr ⟨trivial, fun _ => ?_⟩
  refine Or.inr ⟨trivial, fun _ => ?_⟩
  exact endsWith_answerLogin conn user

theorem isSome_nextOp_of_endsWith
    {earlier last : ServerOp → Prop}
    {handler : Handler Unit}
    (hHandler : handler.EndsWith earlier last) :
    (nextOp handler).isSome := by
  cases handler with
  | ret value => exact hHandler.elim
  | throw error => exact hHandler.elim
  | act op next => rfl

/-
  A login that has mapped a connection has written nothing
  yet, or it has written its answer there and is through.
-/
theorem mapped_of_trace
    {conn other : ConnId}
    {password : String}
    {user : User}
    {steps : List (Sigma ServerOp.Res)}
    {final : Handler Unit}
    (hTrace :
      Process.Trace steps
        (ChatServer.guarded conn
          (afterQuery env conn password user)) final)
    (hMapped : ∃ step ∈ steps, step.1.Maps other) :
    ∃ first rest,
      steps = first :: rest ∧
        first.1.Maps other ∧
          (((∀ step ∈ rest, step.1.LeavesConnections) ∧
              (nextOp final).isSome) ∨
            ∃ front last,
              rest = front ++ [last] ∧
                (∀ step ∈ front, step.1.LeavesConnections) ∧
                  last.1.Acknowledges env other ∧
                    nextOp final = none) := by
  rcases hMapped with ⟨mapping, hMapping, hMaps⟩
  have hRefused :
      ∀ response,
        Process.Trace steps
            (ChatServer.guarded conn
              (respond env conn response)) final →
          False := by
    intro response hRefusal
    have hAlways :
        (ChatServer.guarded conn
            (respond env conn response)).Always
          (fun op => ¬ op.Maps other) :=
      Process.always_tryCatch
        ⟨fun hOp => hOp, fun _ => trivial⟩
        fun _ => ⟨fun hOp => hOp, fun _ => trivial⟩
    exact
      (Process.allowed_of_trace hRefusal hAlways).1
        mapping hMapping hMaps
  unfold afterQuery at hTrace
  split at hTrace
  · split at hTrace
    · exact (hRefused _ hTrace).elim
    · rcases Process.trace_act hTrace with
        hNothing | ⟨answer, rest, hSteps, hRest⟩
      · rw [hNothing] at hMapping
        simp at hMapping
      have hEnds :=
        Process.endsWith_trace hRest
          (Process.endsWith_tryCatch
            (endsWith_afterMapping conn user) _)
      have hConn : conn = other := by
        rw [hSteps] at hMapping
        rcases List.mem_cons.mp hMapping with hFirst | hLater
        · rw [hFirst] at hMaps
          exact hMaps
        · refine absurd hMaps ?_
          rcases hEnds with
            ⟨hEarlier, _⟩ |
              ⟨front, last, _, hFront, hEarlier, hLast, _⟩
          · exact (hEarlier mapping hLater).not_maps other
          · rw [hFront, List.mem_append,
              List.mem_singleton] at hLater
            rcases hLater with hBefore | hAt
            · exact (hEarlier mapping hBefore).not_maps other
            · rw [hAt]
              exact hLast.not_maps other
      refine ⟨_, rest, hSteps, hConn, ?_⟩
      rcases hEnds with
        ⟨hEarlier, hFinal⟩ |
          ⟨front, last, _, hFront, hEarlier, hLast, hFinal⟩
      · exact
          Or.inl ⟨hEarlier, isSome_nextOp_of_endsWith hFinal⟩
      · rw [hConn] at hLast
        exact
          Or.inr
            ⟨front, last, hFront, hEarlier, hLast, by
              rw [hFinal]
              rfl⟩
  · exact (hRefused _ hTrace).elim

end ChatService

------------------------------------------------------------
-- Handlers and Their Connections
------------------------------------------------------------

/- What maps or shuts down a connection comes from one of its
own frames, or from its closing. -/
def ServerOp.Concerns (source : Source) : ServerOp → Prop
| insertConn _ conn => source = .connection conn
| shutdown conn => source = .connection conn
| _ => True

namespace ChatService

variable {env : Externals}

theorem concerns_of_sessionless
    (source : Source)
    {handler : Handler Unit}
    (hHandler : Sessionless handler) :
    handler.Always (ServerOp.Concerns source) := by
  apply Process.Always.mono hHandler
  intro op hOp
  cases op with
  | insertConn userid conn => exact hOp.elim
  | shutdown conn => exact hOp.elim
  | _ => trivial

theorem concerns_login
    (conn : ConnId)
    (js : JsonObject) :
    (login env conn js).Always
      (ServerOp.Concerns (.connection conn)) := by
  rw [login_eq]
  apply always_orThrow
  intro name
  apply always_orThrow
  intro password
  refine ⟨trivial, fun user => ?_⟩
  have hRefused :
      ∀ response,
        (respond env conn response).Always
          (ServerOp.Concerns (.connection conn)) :=
    fun response => ⟨trivial, fun _ => trivial⟩
  change (afterQuery env conn password user).Always _
  unfold afterQuery
  split
  · split
    · exact hRefused _
    · refine ⟨rfl, fun _ => ⟨trivial, fun _ => ?_⟩⟩
      refine ⟨trivial, fun _ => ?_⟩
      exact
        always_answerLogin env trivial trivial trivial trivial
          (fun _ => trivial) (fun _ => trivial)
  · exact hRefused _

theorem concerns_loginout
    (source : Source)
    (js : JsonObject) :
    (loginout js).Always (ServerOp.Concerns source) := by
  apply always_orThrow
  exact fun _ =>
    ⟨trivial, fun _ =>
      ⟨trivial, fun _ => ⟨trivial, fun _ => trivial⟩⟩⟩

end ChatService

theorem Handles.concerns
    {env : Externals}
    {thread : Thread}
    (hHandles : Handles env thread) :
    thread.process.Always
      (ServerOp.Concerns thread.source) := by
  cases hHandles with
  | frame node conn body readings =>
      rcases onMessage_cases env conn body readings with
        ⟨handler, hFrame, hSame⟩
      dsimp only
      rw [hSame]
      refine
        Process.always_tryCatch ?_ fun _ =>
          ⟨rfl, fun _ => trivial⟩
      rcases ChatService.session_cases hFrame with
        ⟨js, hLogin⟩ | ⟨js, hLoginout⟩ | hSessionless
      · rw [hLogin]
        exact ChatService.concerns_login conn js
      · rw [hLoginout]
        exact ChatService.concerns_loginout _ js
      · exact ChatService.concerns_of_sessionless _ hSessionless
  | closing node conn =>
      exact
        ChatService.always_onConnection trivial (fun _ => trivial)
          (fun _ => trivial) (fun _ => trivial) rfl
  | notify node userid msg =>
      exact
        ChatService.concerns_of_sessionless _
          (ChatService.sessionless_handleredissubscribemessage
            userid msg)

------------------------------------------------------------
-- What a Login Has Done Since the Mapping
------------------------------------------------------------

namespace History

variable {env : Externals} {observer : Observer}

/- What is known of every recorded run. -/
structure Recorded
    (env : Externals)
    (history : History) : Prop where
  traced : history.Traced env
  handles : history.AllHandle env
  gone : history.GoneDone env
  connected :
    ∀ event ∈ history.events,
      ∀ conn,
        history.world.cluster.conns conn = .connected →
          event.before.conns conn = .connected

theorem recorded_begin
    {start : World}
    (hStart : start.threads = []) :
    (begin start).Recorded env where
  traced := traced_begin start
  handles := by simp [AllHandle, begin, hStart]
  gone := goneDone_begin start
  connected := by simp [begin]

theorem recorded_step
    {before after : History}
    {label : Label}
    (hBefore : before.Recorded env)
    (hStep :
      before.step env observer label = some after) :
    after.Recorded env where
  traced := traced_step hBefore.traced hStep
  handles :=
    handles_step hBefore.traced.aligned hBefore.handles hStep
  gone := goneDone_step hBefore.traced hBefore.gone hStep
  connected := by
    intro event hEvent conn hConnected
    cases advance_of_step hBefore.traced.aligned hStep with
    | spawn spawns =>
        exact
          hBefore.connected event hEvent conn
            (connected_of_spawns spawns hConnected)
    | pass passes =>
        have hSame := (sameLinks_of_passes passes).conns
        exact
          hBefore.connected event hEvent conn
            ((congrFun hSame conn).symm.trans hConnected)
    | perform index running held due =>
        have hEarlier :=
          Cluster.connected_of_answer env _ _ hConnected
        rcases List.mem_append.mp hEvent with hOld | hNew
        · exact hBefore.connected event hOld conn hEarlier
        · rw [List.mem_singleton.mp hNew]
          exact hEarlier
    | finish index running held done =>
        exact
          hBefore.connected event hEvent conn hConnected

/- The operations of a handler before and after an event. -/
theorem stepsOf_split
    {history : History}
    {front back : List Event}
    {event : Event}
    (hEvents : history.events = front ++ event :: back) :
    ∃ earlier later,
      history.stepsOf env event.ticket =
          earlier ++ event.answered env :: later ∧
        ∀ step,
          step ∈ later ↔
            ∃ other ∈ back,
              other.ticket = event.ticket ∧
                other.answered env = step := by
  refine
    ⟨(front.filter fun other =>
        other.ticket = event.ticket).map (Event.answered env),
      (back.filter fun other =>
        other.ticket = event.ticket).map (Event.answered env),
      ?_, ?_⟩
  · unfold stepsOf
    rw [hEvents, List.filter_append, List.map_append,
      List.filter_cons_of_pos (by simp), List.map_cons]
  · intro step
    simp [and_assoc]

/-
  What a login has done since it has mapped a connection: it
  has written nothing yet, or it has answered there and is
  through.
-/
theorem since_mapping
    {history : History}
    (hHandles : history.AllHandle env)
    {front back : List Event}
    {mapping : Event}
    (hEvents : history.events = front ++ mapping :: back)
    {conn : ConnId}
    (hMaps : mapping.op.Maps conn)
    {origin : Thread}
    (hOrigin :
      history.started[mapping.ticket]? = some origin)
    {process : Handler Unit}
    (hTrace :
      Process.Trace (history.stepsOf env mapping.ticket)
        origin.process process) :
    ((∀ event ∈ back,
        event.ticket = mapping.ticket →
          event.op.LeavesConnections) ∧
        (nextOp process).isSome) ∨
      (∀ event ∈ back,
          event.ticket = mapping.ticket →
            event.op.LeavesConnections ∨
              event.op.Acknowledges env conn) ∧
        (∃ event ∈ back,
          event.ticket = mapping.ticket ∧
            event.op.Acknowledges env conn) ∧
          nextOp process = none := by
  have hMember : mapping ∈ history.events := by
    rw [hEvents]
    simp
  rcases login_of_trace hHandles hMember
      (ServerOp.Maps.logsIn hMaps) hOrigin hTrace with
    ⟨name, password, user, other, steps, hSteps, hRest⟩
  rcases stepsOf_split hEvents with
    ⟨earlier, later, hSplit, hLater⟩
  have hOrder :
      earlier ++ mapping.answered env :: later =
        ⟨.queryUserByName name, user⟩ :: steps :=
    hSplit.symm.trans hSteps
  cases earlier with
  | nil =>
      have hSame := (List.cons.inj hOrder).1
      have hOp : mapping.op = .queryUserByName name :=
        congrArg Sigma.fst hSame
      rw [hOp] at hMaps
      exact hMaps.elim
  | cons query earlier =>
  have hOrder := (List.cons.inj hOrder).2
  have hMapped : ∃ step ∈ steps, step.1.Maps conn := by
    refine ⟨mapping.answered env, ?_, hMaps⟩
    rw [← hOrder]
    simp
  rcases ChatService.mapped_of_trace hRest hMapped with
    ⟨first, rest, hFirst, _, hKinds⟩
  have hNotRest : mapping.answered env ∉ rest := by
    intro hThere
    rcases hKinds with
      ⟨hQuiet, _⟩ | ⟨before, last, hBack, hQuiet, hLast, _⟩
    · exact (hQuiet _ hThere).not_maps conn hMaps
    · rw [hBack, List.mem_append, List.mem_singleton]
        at hThere
      rcases hThere with hBefore | hAt
      · exact (hQuiet _ hBefore).not_maps conn hMaps
      · rw [← hAt] at hLast
        exact hLast.not_maps conn hMaps
  have hSame : later = rest := by
    rw [hFirst] at hOrder
    cases earlier with
    | nil => exact (List.cons.inj hOrder).2
    | cons other earlier =>
        refine absurd ?_ hNotRest
        rw [← (List.cons.inj hOrder).2]
        simp
  rw [hSame] at hLater
  rcases hKinds with
    ⟨hQuiet, hNext⟩ |
      ⟨before, last, hBack, hQuiet, hLast, hThrough⟩
  · refine Or.inl ⟨?_, hNext⟩
    intro event hEvent hTicket
    exact
      hQuiet _
        ((hLater _).mpr ⟨event, hEvent, hTicket, rfl⟩)
  · refine Or.inr ⟨?_, ?_, hThrough⟩
    · intro event hEvent hTicket
      have hThere :=
        (hLater _).mpr ⟨event, hEvent, hTicket, rfl⟩
      rw [hBack, List.mem_append, List.mem_singleton]
        at hThere
      rcases hThere with hBefore | hAt
      · exact Or.inl (hQuiet _ hBefore)
      · rw [← hAt] at hLast
        exact Or.inr hLast
    · have hThere : last ∈ rest := by
        rw [hBack]
        simp
      rcases (hLater last).mp hThere with
        ⟨event, hEvent, hTicket, hAnswered⟩
      rw [← hAnswered] at hLast
      exact ⟨event, hEvent, hTicket, hLast⟩

/- A login that has mapped a connection has shut nothing
down. -/
theorem keeps_up_of_mapped
    {history : History}
    (hHandles : history.AllHandle env)
    {mapping : Event}
    (hMember : mapping ∈ history.events)
    {conn : ConnId}
    (hMaps : mapping.op.Maps conn)
    {origin : Thread}
    (hOrigin :
      history.started[mapping.ticket]? = some origin)
    {process : Handler Unit}
    (hTrace :
      Process.Trace (history.stepsOf env mapping.ticket)
        origin.process process)
    {event : Event}
    (hEvent : event ∈ history.events)
    (hTicket : event.ticket = mapping.ticket)
    (other : ConnId) :
    event.op ≠ .shutdown other := by
  rcases login_of_trace hHandles hMember
      (ServerOp.Maps.logsIn hMaps) hOrigin hTrace with
    ⟨name, password, user, reader, steps, hSteps, hRest⟩
  have hMapped : ∃ step ∈ steps, step.1.Maps conn := by
    have hThere :
        mapping.answered env ∈
          history.stepsOf env mapping.ticket :=
      mem_stepsOf_iff.mpr ⟨mapping, hMember, rfl, rfl⟩
    rw [hSteps] at hThere
    rcases List.mem_cons.mp hThere with hQuery | hLater
    · have hOp : mapping.op = .queryUserByName name :=
        congrArg Sigma.fst hQuery
      rw [hOp] at hMaps
      exact hMaps.elim
    · exact ⟨_, hLater, hMaps⟩
  have hThere :
      event.answered env ∈
        history.stepsOf env mapping.ticket :=
    mem_stepsOf_iff.mpr ⟨event, hEvent, hTicket, rfl⟩
  rw [hSteps] at hThere
  intro hShutdown
  rcases List.mem_cons.mp hThere with hQuery | hLater
  · have hOp : event.op = .queryUserByName name :=
      congrArg Sigma.fst hQuery
    rw [hOp] at hShutdown
    cases hShutdown
  rcases ChatService.mapped_of_trace hRest hMapped with
    ⟨first, rest, hFirst, hFirstMaps, hKinds⟩
  have hQuiet :
      (event.answered env).1.LeavesConnections → False := by
    intro hLeaves
    change event.op.LeavesConnections at hLeaves
    rw [hShutdown] at hLeaves
    exact hLeaves
  rw [hFirst] at hLater
  rcases List.mem_cons.mp hLater with hThis | hLater
  · rw [← hThis] at hFirstMaps
    change event.op.Maps conn at hFirstMaps
    rw [hShutdown] at hFirstMaps
    exact hFirstMaps
  rcases hKinds with
    ⟨hLeaves, _⟩ | ⟨front, last, hBack, hLeaves, hLast, _⟩
  · exact hQuiet (hLeaves _ hLater)
  · rw [hBack, List.mem_append, List.mem_singleton] at hLater
    rcases hLater with hBefore | hAt
    · exact hQuiet (hLeaves _ hBefore)
    · rw [← hAt] at hLast
      change event.op.Acknowledges env conn at hLast
      rw [hShutdown] at hLast
      exact hLast

end History

/- An operation that leaves connections alone sends nothing. -/
theorem ServerOp.LeavesConnections.receiver
    {entry : Performed}
    (hLeaves : entry.op.LeavesConnections) :
    entry.receiver = none := by
  unfold Performed.receiver
  cases hOp : entry.op with
  | send conn body =>
      rw [hOp] at hLeaves
      exact hLeaves.elim
  | findAndSend userid payload =>
      rw [hOp] at hLeaves
      exact hLeaves.elim
  | _ => rfl

theorem ServerOp.Maps.receiver
    {conn : ConnId}
    {entry : Performed}
    (hMaps : entry.op.Maps conn) :
    entry.receiver = none := by
  unfold Performed.receiver
  cases hOp : entry.op with
  | insertConn userid other => rfl
  | _ =>
      rw [hOp] at hMaps
      exact hMaps.elim

/- The answer is sent as long as the connection is up. -/
theorem ServerOp.Acknowledges.receiver
    {env : Externals}
    {conn : ConnId}
    {entry : Performed}
    (hAnswer : entry.op.Acknowledges env conn)
    (hConnected : entry.before.conns conn = .connected) :
    entry.receiver = some conn := by
  unfold Performed.receiver
  cases hOp : entry.op with
  | send other body =>
      rw [hOp] at hAnswer
      rw [hAnswer.1]
      simp [hConnected]
  | _ =>
      rw [hOp] at hAnswer
      exact hAnswer.elim

end ClusterChat
