import ClusterChat.Server.HandlerOps
import ClusterChat.Server.History

/-
  The operations of a login.

  A login starts with the query for its user.  Only logins
  look users up by name, map them, and set them online.

  Main declarations:
    * `ChatService.afterQuery`
    * `ServerOp.LogsNobodyIn`
    * `ChatService.trace_onMessage`
    * `History.login_of_event`
-/

namespace ClusterChat

/- The operation neither looks a user up by name nor maps a
user nor sets one online. -/
def ServerOp.LogsNobodyIn : ServerOp → Prop
| queryUserByName _ => False
| insertConn _ _ => False
| updateState _ state => state = .offline
| _ => True

namespace ChatService

variable (env : Externals)

------------------------------------------------------------
-- The Operations of a Login
------------------------------------------------------------

/- A login from the answer to its query on. -/
def afterQuery
    (conn : ConnId)
    (password : String)
    (user : User) : Handler Unit :=
  if accepts env user password then
    if user.state = .online then
      respond env conn
        (loginRefused 2 "该账号已经登录，不能重复登录")
    else do
      ask (.insertConn user.id conn)
      let _ ← ask (.subscribe user.id)
      let _ ← ask (.updateState user.id .online)
      answerLogin env conn user
  else
    respond env conn (loginRefused 1 "用户名或密码错误")

theorem login_eq
    (conn : ConnId)
    (js : JsonObject) :
    login env conn js = (do
      let name ← orThrow (js.field "name").getString
      let password ← orThrow (js.field "password").getString
      let user : User ← ask (.queryUserByName name)
      afterQuery env conn password user) := rfl

variable {env}

theorem logsNobodyIn_of_sessionless
    {handler : Handler Unit}
    (hHandler : Sessionless handler) :
    handler.Always ServerOp.LogsNobodyIn := by
  apply Process.Always.mono hHandler
  intro op hOp
  cases op with
  | queryUserByName name => exact hOp
  | insertConn userid conn => exact hOp
  | updateState userid state => exact hOp.elim
  | _ => trivial

theorem logsNobodyIn_loginout (js : JsonObject) :
    (loginout js).Always ServerOp.LogsNobodyIn := by
  apply always_orThrow
  exact fun _ =>
    ⟨trivial, fun _ =>
      ⟨trivial, fun _ => ⟨rfl, fun _ => trivial⟩⟩⟩

theorem logsNobodyIn_onConnection (conn : ConnId) :
    (ChatServer.onConnection conn).Always
      ServerOp.LogsNobodyIn :=
  always_onConnection trivial (fun _ => trivial)
    (fun _ => rfl) (fun _ => trivial) trivial

/- A login starts with its query; the other handlers log
nobody in. -/
theorem trace_onMessage
    {conn : ConnId}
    {body : String}
    {readings : Readings}
    {steps : List (Sigma ServerOp.Res)}
    {final : Handler Unit}
    (hTrace :
      Process.Trace steps
        (ChatServer.onMessage env conn body readings)
        final) :
    (∀ step ∈ steps, step.1.LogsNobodyIn) ∨
      ∃ (name password : String) (user : User)
          (rest : List (Sigma ServerOp.Res)),
        steps = ⟨.queryUserByName name, user⟩ :: rest ∧
          Process.Trace rest
            (ChatServer.guarded conn
              (afterQuery env conn password user)) final := by
  have hQuiet :
      ∀ handler : Handler Unit,
        handler.Always ServerOp.LogsNobodyIn →
          Process.Trace steps
              (ChatServer.guarded conn handler) final →
            ∀ step ∈ steps, step.1.LogsNobodyIn := by
    intro handler hHandler hGuarded
    refine (Process.allowed_of_trace hGuarded ?_).1
    exact
      Process.always_tryCatch hHandler fun _ =>
        ⟨trivial, fun _ => trivial⟩
  rcases onMessage_cases env conn body readings with
    ⟨handler, hFrame, hSame⟩
  rw [hSame] at hTrace
  rcases session_cases hFrame with
    ⟨js, hLogin⟩ | ⟨js, hLoginout⟩ | hSessionless
  · rw [hLogin, login_eq] at hTrace
    cases hName : (js.field "name").getString with
    | error error =>
        rw [hName] at hTrace
        exact Or.inl (hQuiet (.throw error) trivial hTrace)
    | ok name =>
    cases hPassword : (js.field "password").getString with
    | error error =>
        rw [hName, hPassword] at hTrace
        exact Or.inl (hQuiet (.throw error) trivial hTrace)
    | ok password =>
    rw [hName, hPassword] at hTrace
    rcases Process.trace_act hTrace with
      hNothing | ⟨user, rest, hSteps, hRest⟩
    · exact Or.inl (by simp [hNothing])
    · exact
        Or.inr ⟨name, password, user, rest, hSteps, hRest⟩
  · rw [hLoginout] at hTrace
    exact Or.inl (hQuiet _ (logsNobodyIn_loginout js) hTrace)
  · exact
      Or.inl
        (hQuiet _ (logsNobodyIn_of_sessionless hSessionless)
          hTrace)

end ChatService

------------------------------------------------------------
-- Logins in the Record
------------------------------------------------------------

namespace History

variable {env : Externals} {history : History}

/- A handler that looks a user up, maps a user, or sets one
online is a login, and the look-up comes first. -/
theorem login_of_trace
    (hHandles : history.AllHandle env)
    {event : Event}
    (hEvent : event ∈ history.events)
    (hLogin : ¬ event.op.LogsNobodyIn)
    {origin : Thread}
    (hOrigin : history.started[event.ticket]? = some origin)
    {final : Handler Unit}
    (hTrace :
      Process.Trace (history.stepsOf env event.ticket)
        origin.process final) :
    ∃ (name password : String) (user : User) (conn : ConnId)
        (rest : List (Sigma ServerOp.Res)),
      history.stepsOf env event.ticket =
          ⟨.queryUserByName name, user⟩ :: rest ∧
        Process.Trace rest
          (ChatServer.guarded conn
            (ChatService.afterQuery env conn password user))
          final := by
  have hStep :
      event.answered env ∈
        history.stepsOf env event.ticket :=
    mem_stepsOf_iff.mpr ⟨event, hEvent, rfl, rfl⟩
  generalize history.stepsOf env event.ticket = steps
    at hTrace hStep
  have hQuiet :
      origin.process.Always ServerOp.LogsNobodyIn → False := by
    intro hAlways
    exact
      hLogin
        ((Process.allowed_of_trace hTrace hAlways).1 _ hStep)
  cases hHandles origin (List.mem_of_getElem? hOrigin) with
  | frame node conn body readings =>
      rcases ChatService.trace_onMessage hTrace with
        hNobody | ⟨name, password, user, rest, hSteps, hRest⟩
      · exact absurd (hNobody _ hStep) hLogin
      · exact
          ⟨name, password, user, conn, rest, hSteps, hRest⟩
  | closing node conn =>
      exact
        (hQuiet
          (ChatService.logsNobodyIn_onConnection conn)).elim
  | notify node user msg =>
      refine (hQuiet ?_).elim
      apply ChatService.logsNobodyIn_of_sessionless
      exact
        ChatService.sessionless_handleredissubscribemessage
          user msg

theorem login_of_event
    (hTraced : history.Traced env)
    (hHandles : history.AllHandle env)
    {event : Event}
    (hEvent : event ∈ history.events)
    (hLogin : ¬ event.op.LogsNobodyIn) :
    ∃ (name password : String) (user : User) (conn : ConnId)
        (rest : List (Sigma ServerOp.Res))
        (final : Handler Unit),
      history.stepsOf env event.ticket =
          ⟨.queryUserByName name, user⟩ :: rest ∧
        Process.Trace rest
          (ChatServer.guarded conn
            (ChatService.afterQuery env conn password user))
          final := by
  rcases hTraced.nodes event hEvent with ⟨origin, hOrigin, _⟩
  rcases hTraced.traced event.ticket origin hOrigin with
    ⟨final, hTrace⟩
  rcases login_of_trace hHandles hEvent hLogin hOrigin hTrace
    with ⟨name, password, user, conn, rest, hSteps, hRest⟩
  exact
    ⟨name, password, user, conn, rest, final, hSteps, hRest⟩

end History

end ClusterChat
