import ClusterChat.EndToEnd.LoginAnswer
import ClusterChat.EndToEnd.OneUser
import ClusterChat.Server.ClusterEvents
import ClusterChat.Server.LoginWrites

/-
  Clients at the ends of the connections of a cluster.

  A client whose login is answered leaves the start menu, and
  from then on its frames carry the id of the answer.  So the
  user that a connection has logged in follows the turns of
  its client.

  Every event is handled completely before the next one, and
  no frame is above the limit of the server.  A client that
  connects anew is a client at a connection that was not used
  before.

  Main declarations:
    * `Network` and `Network.step`
    * `Network.Answers` and `Network.Agrees`
    * `Network.sessionRequest` and `Network.frameEvent`
    * `Network.Follows` and `Network.follows_turn`
-/

------------------------------------------------------------
-- The Network
------------------------------------------------------------

namespace ClusterChat

/- The ids of the users, which are ints. -/
def Cluster.IntIds (cluster : Cluster) : Prop :=
  ∀ userid ∈ cluster.db.users.rows.map User.id,
    IsInt userid

/- A cluster, and a client at the end of each connection. -/
structure Network where
  deployment : Deployment
  programs : ConnId → Client.Program

/-
  A turn of a client, with the readings of the server for the
  frame of this turn, or an event of the cluster that no
  frame brings about.
-/
inductive NetworkEvent where
| client
    (conn : ConnId) (event : Client.Event)
    (readings : Readings)
| close (conn : ConnId)
| shutdown (id : NodeId)
| observe (id : NodeId)
| environment (event : EnvironmentEvent)

/- The frame of this turn gets out. -/
def Client.Event.getsOut : Client.Event → Bool
| .main moment => moment.sent
| _ => false

namespace Network

/- What a frame asks of the sessions, if anything. -/
def sessionRequest
    (conn : ConnId)
    (js : JsonObject) : Option DeploymentEvent :=
  match (js.field "msgid").getInt with
  | .error _ => none
  | .ok code =>
      if code = EnMsgType.loginMsg.code then
        some (.login conn (Json.normalizeFields js))
      else if code = EnMsgType.loginoutMsg.code then
        some (.loginout conn (Json.normalizeFields js))
      else
        none

variable (env : Externals)

/- What the frame is to the cluster. -/
def frameEvent
    (conn : ConnId)
    (js : JsonObject)
    (readings : Readings) : ClusterEvent :=
  match sessionRequest conn js with
  | some request => .session request
  | none =>
      .frame conn (env.codec.dump (.object js)) readings

/- The turn of a client. -/
def turn
    (network : Network)
    (conn : ConnId)
    (event : Client.Event) :
    Client.Program × Option JsonObject :=
  (network.programs conn).turn env.codec event

/- What the event is to the cluster, if anything. -/
def request?
    (network : Network) :
    NetworkEvent → Option ClusterEvent
| .client conn event readings =>
    if event.getsOut then
      (network.turn env conn event).2.map fun js =>
        frameEvent env conn js readings
    else
      none
| .close conn => some (.session (.close conn))
| .shutdown id => some (.session (.shutdown id))
| .observe id => some (.observe id)
| .environment event => some (.environment event)

/- The cluster behind the event; a request on a connection
that is not served is lost. -/
def deploymentAfter
    (network : Network)
    (event : NetworkEvent) : Deployment :=
  ((network.request? env event).bind
    (network.deployment.serve env)).getD network.deployment

/- The clients behind the event. -/
def programsAfter
    (network : Network) :
    NetworkEvent → ConnId → Client.Program
| .client conn event _ =>
    Function.update network.programs conn
      (network.turn env conn event).1
| _ => network.programs

def step
    (network : Network)
    (event : NetworkEvent) : Option Network :=
  some
    { deployment := network.deploymentAfter env event
      programs := network.programsAfter env event }

/-
  A login that a node serves is answered, and the client gets
  the answer; without a node there is no answer.  The ids of
  the table are ints, as its column says.
-/
structure Answers
    (network : Network)
    (event : NetworkEvent) : Prop where
  logins :
    ∀ conn moment readings js,
      event = .client conn (.main moment) readings →
        network.request? env event =
            some (.session (.login conn js)) →
          if network.deployment.Serves conn then
            ∃ text,
              moment.received = some text ∧
                (network.deploymentAfter env
                    event).cluster.wire conn =
                  network.deployment.cluster.wire conn ++
                    [text]
          else
            moment.received = none
  ids : (network.deploymentAfter env event).cluster.IntIds

/-
  A client in the start menu has logged in nobody.  One that
  reads commands has logged in its user.
-/
def Bound
    (owner : Option Int)
    (program : Client.Program) : Prop :=
  (program.place = .startMenu → owner = none) ∧
    (program.place = .mainMenu →
      owner = some program.session.id ∧
        IsInt program.session.id)

/- The owners of the connections are the users of the
clients. -/
structure Agrees (network : Network) : Prop where
  bound :
    ∀ conn,
      Bound (network.deployment.owner conn)
        (network.programs conn)
  ids : network.deployment.cluster.IntIds

------------------------------------------------------------
-- Events of the Cluster
------------------------------------------------------------

variable {env}

/- Only a login changes an owner. -/
theorem owner_step
    {before after : Deployment}
    {event : DeploymentEvent}
    (hOther : ∀ conn js, event ≠ .login conn js)
    (hStep : before.step env event = some after) :
    after.owner = before.owner := by
  cases event with
  | login conn js => exact absurd rfl (hOther conn js)
  | _ =>
      simp only [Deployment.step] at hStep
      split at hStep
      · exact
          (congrArg Deployment.owner
            (Option.some.inj hStep)).symm
      · simp at hStep

theorem owner_serve
    {before after : Deployment}
    {event : ClusterEvent}
    (hOther : ∀ conn js, event ≠ .session (.login conn js))
    (hServe : before.serve env event = some after) :
    after.owner = before.owner := by
  cases event with
  | session request =>
      refine owner_step ?_ hServe
      intro conn js hSame
      exact hOther conn js (by rw [hSame])
  | frame conn body readings =>
      simp only [Deployment.serve] at hServe
      split_ifs at hServe
      rw [← Option.some.inj hServe]
      rfl
  | observe id =>
      simp only [Deployment.serve] at hServe
      split_ifs at hServe
      unfold Deployment.observe at hServe
      split at hServe
      · cases hServe
      · dsimp only at hServe
        split at hServe
        · rw [← Option.some.inj hServe]
        · rw [← Option.some.inj hServe]
  | environment event =>
      rw [← Option.some.inj hServe]

/- A login that a node serves. -/
theorem step_login
    {before : Deployment}
    {conn : ConnId}
    (hServes : before.Serves conn)
    (js : JsonObject) :
    ∃ after,
      before.step env (.login conn js) = some after ∧
        after.cluster =
            before.cluster.execute env
              (before.cluster.home conn)
              (ChatServer.guarded conn
                (ChatService.login env conn js)) ∧
          (∀ other,
            other ≠ conn →
              after.owner other = before.owner other) ∧
            after.owner conn =
              match
                Cluster.loggingIn env before.cluster js with
              | some user => some user.id
              | none => before.owner conn := by
  simp only [Deployment.step]
  rw [if_pos hServes]
  refine ⟨_, rfl, ?_⟩
  unfold Deployment.remember
  cases Cluster.loggingIn env before.cluster js with
  | some user =>
      refine ⟨rfl, ?_, ?_⟩
      · intro other hOther
        exact Function.update_of_ne hOther _ _
      · exact Function.update_self _ _ _
  | none => exact ⟨rfl, fun _ _ => rfl, rfl⟩

------------------------------------------------------------
-- Turns of a Client
------------------------------------------------------------

section Turns

variable {network : Network} {conn : ConnId}
variable {readings : Readings}

theorem getInt_field
    {js : JsonObject}
    {type : EnMsgType}
    (hType : js.field "msgid" = .integer type.code) :
    (js.field "msgid").getInt = .ok (type.code : Int) := by
  rw [hType]
  exact Json.getInt_code type

theorem sessionRequest_login
    {js : JsonObject}
    (hType :
      js.field "msgid" = .integer EnMsgType.loginMsg.code) :
    sessionRequest conn js =
      some (.login conn (Json.normalizeFields js)) := by
  unfold sessionRequest
  rw [getInt_field hType]
  rfl

theorem sessionRequest_register
    {js : JsonObject}
    (hType :
      js.field "msgid" = .integer EnMsgType.regMsg.code) :
    sessionRequest conn js = none := by
  unfold sessionRequest
  rw [getInt_field hType]
  rfl

theorem sessionRequest_eq_none
    {js : JsonObject}
    {type : EnMsgType}
    (hType : js.field "msgid" = .integer type.code)
    (hNone : sessionRequest conn js = none) :
    (type.code : Int) ≠ EnMsgType.loginMsg.code ∧
      (type.code : Int) ≠ EnMsgType.loginoutMsg.code := by
  unfold sessionRequest at hNone
  rw [getInt_field hType] at hNone
  dsimp only at hNone
  split_ifs at hNone with hLogin hLoginout
  exact ⟨hLogin, hLoginout⟩

/- A request of a frame is about its connection. -/
theorem sessionRequest_conn
    {js : JsonObject}
    {other : ConnId}
    {fields : JsonObject}
    (hRequest :
      sessionRequest conn js = some (.login other fields)) :
    other = conn := by
  unfold sessionRequest at hRequest
  split at hRequest
  · cases hRequest
  · split at hRequest
    · cases hRequest
      rfl
    · split at hRequest <;> cases hRequest

theorem sessionRequest_of_frameEvent
    {js : JsonObject}
    {request : DeploymentEvent}
    (hEvent :
      frameEvent env conn js readings = .session request) :
    sessionRequest conn js = some request := by
  unfold frameEvent at hEvent
  cases hRequest : sessionRequest conn js with
  | some other =>
      rw [hRequest] at hEvent
      cases hEvent
      rfl
  | none =>
      rw [hRequest] at hEvent
      cases hEvent

theorem frameEvent_login
    {js : JsonObject}
    (hType :
      js.field "msgid" = .integer EnMsgType.loginMsg.code) :
    frameEvent env conn js readings =
      .session (.login conn (Json.normalizeFields js)) := by
  unfold frameEvent
  rw [sessionRequest_login hType]

/- A command asks for nothing or for a logout. -/
theorem sessionRequest_command
    {user : Client.CurrentUser}
    {time : String}
    {handler : Client.Command}
    {args : Bytes}
    {js : JsonObject}
    (hSends :
      Client.Sends (.command user time handler args) js)
    {request : DeploymentEvent}
    (hRequest : sessionRequest conn js = some request) :
    request = .loginout conn (Json.normalizeFields js) := by
  rcases hSends.field_msgid with ⟨type, hType, hField⟩
  have hNoLogin := (Client.Command.type?_ne hType).1
  unfold sessionRequest at hRequest
  rw [getInt_field hField] at hRequest
  dsimp only at hRequest
  split at hRequest
  · rename_i hCode
    exfalso
    revert hCode hNoLogin
    cases type <;> decide
  · split at hRequest
    · exact (Option.some.inj hRequest).symm
    · cases hRequest

/- No login is asked for. -/
theorem owner_deploymentAfter
    {event : NetworkEvent}
    (hOther :
      ∀ conn js,
        network.request? env event ≠
          some (.session (.login conn js))) :
    (network.deploymentAfter env event).owner =
      network.deployment.owner := by
  unfold deploymentAfter
  cases hRequest : network.request? env event with
  | none => rfl
  | some request =>
      rw [Option.bind_some]
      cases hServe :
          network.deployment.serve env request with
      | none => rfl
      | some after =>
          refine owner_serve ?_ hServe
          intro conn js hSame
          rw [hSame] at hRequest
          exact hOther conn js hRequest

variable {strtod : String → Option Rat}

/- Nothing is bound to a client that has stopped. -/
theorem bound_stopped
    (owner : Option Int)
    {program : Client.Program}
    (hPlace :
      program.place = .ended ∨ program.place = .aborted) :
    Bound owner program := by
  constructor
  · intro hStart
    rw [hStart] at hPlace
    rcases hPlace with hEnded | hAborted
    · cases hEnded
    · cases hAborted
  · intro hMenu
    rw [hMenu] at hPlace
    rcases hPlace with hEnded | hAborted
    · cases hEnded
    · cases hAborted

theorem bound_startMenu
    {program : Client.Program}
    (hPlace : program.place = .startMenu) :
    Bound none program := by
  refine ⟨fun _ => rfl, ?_⟩
  intro hMenu
  rw [hPlace] at hMenu
  cases hMenu

/- The client takes the user whom the cluster has logged in,
or none. -/
theorem bound_answered
    (hCodec : env.codec = JsonCodec.library strtod)
    {cluster : Cluster}
    (hInts : cluster.IntIds)
    {fields : JsonObject}
    {text : String}
    (hWrites : Cluster.LoginWrites env cluster fields text)
    {program : Client.Program}
    (hPlace : program.place = .startMenu)
    (moment : Client.Moment)
    (name password : Bytes) :
    Bound
      ((Cluster.loggingIn env cluster fields).map User.id)
      (program.answered env.codec moment text
        (.login name password)) := by
  have hCases :=
    Client.Program.answered_login env.codec program moment
      text name password
  dsimp only at hCases
  rcases hCases with hAborted | hAnswered
  · exact bound_stopped _ (Or.inr hAborted)
  unfold Cluster.LoginWrites at hWrites
  cases hLogin : Cluster.loggingIn env cluster fields with
  | some user =>
      rw [hLogin] at hWrites
      rcases hWrites with
        ⟨vec, vecFriend, groupuserVec, hText⟩
      have hUser : IsInt user.id := by
        apply hInts
        exact
          List.mem_map_of_mem
            (Cluster.mem_of_loggingIn env hLogin).1
      have hId :
          ∀ outcome,
            Client.readLogin env.codec program.session text =
                .ok outcome →
              ∃ session offline,
                outcome = .accepted session offline ∧
                  session.id = user.id := by
        intro outcome hRead
        rw [hText] at hRead
        exact Client.readLogin_id hCodec hUser hRead
      rcases hAnswered with
        ⟨_, errmsg, hRead⟩ |
          ⟨session, offline, hRead, hMenu, hSession⟩
      · rcases hId _ hRead with ⟨_, _, hOutcome, _⟩
        cases hOutcome
      · rcases hId _ hRead with ⟨_, _, hOutcome, hSame⟩
        cases hOutcome
        constructor
        · intro hStart
          rw [hMenu] at hStart
          cases hStart
        · intro _
          rw [hSession, hSame]
          exact ⟨rfl, hUser⟩
  | none =>
      rw [hLogin] at hWrites
      rcases hWrites with ⟨errno, errmsg, hErrno, hText⟩
      have hRefused :
          Client.readLogin env.codec program.session text =
            .ok (.refused (.string errmsg)) := by
        rw [hText]
        rcases hErrno with hOne | hTwo
        · rw [hOne]
          exact
            Client.readLogin_loginRefused hCodec
              ⟨by decide, by decide⟩ (by decide) _ _
        · rw [hTwo]
          exact
            Client.readLogin_loginRefused hCodec
              ⟨by decide, by decide⟩ (by decide) _ _
      rcases hAnswered with
        ⟨hSame, _⟩ | ⟨session, offline, hRead, _⟩
      · rw [hSame]
        exact bound_startMenu hPlace
      · rw [hRefused] at hRead
        cases hRead

/- The owner of the connection follows its client, and those
of the others stay. -/
def Follows
    (env : Externals)
    (network : Network)
    (conn : ConnId)
    (event : Client.Event)
    (readings : Readings) : Prop :=
  Bound
      ((network.deploymentAfter env
        (.client conn event readings)).owner conn)
      (network.turn env conn event).1 ∧
    ∀ other,
      other ≠ conn →
        (network.deploymentAfter env
            (.client conn event readings)).owner other =
          network.deployment.owner other

theorem follows_quiet
    {event : Client.Event}
    (hOther :
      ∀ other js,
        network.request? env (.client conn event readings) ≠
          some (.session (.login other js)))
    (hBound :
      Bound (network.deployment.owner conn)
        (network.turn env conn event).1) :
    Follows env network conn event readings := by
  have hOwner := owner_deploymentAfter hOther
  unfold Follows
  rw [hOwner]
  exact ⟨hBound, fun _ _ => rfl⟩

theorem request?_client
    {event : Client.Event}
    {request : ClusterEvent}
    (hRequest :
      network.request? env (.client conn event readings) =
        some request) :
    event.getsOut = true ∧
      ∃ js,
        (network.turn env conn event).2 = some js ∧
          frameEvent env conn js readings = request := by
  dsimp only [request?] at hRequest
  split at hRequest
  · rename_i hOut
    exact ⟨hOut, Option.map_eq_some_iff.mp hRequest⟩
  · cases hRequest

theorem request?_of_getsOut
    {event : Client.Event}
    (hOut : event.getsOut = true)
    {program : Client.Program}
    {js : JsonObject}
    (hTurn : network.turn env conn event = (program, some js)) :
    network.request? env (.client conn event readings) =
      some (frameEvent env conn js readings) := by
  dsimp only [request?]
  rw [if_pos hOut, hTurn]
  rfl

/- A login frame that gets out. -/
theorem follows_login
    (hCodec : env.codec = JsonCodec.library strtod)
    (hAgrees : network.Agrees)
    {program : Client.Program}
    (hPlace : program.place = .startMenu)
    (hOwner : network.deployment.owner conn = none)
    {moment : Client.Moment}
    (hAnswers :
      network.Answers env
        (.client conn (.main moment) readings))
    (hOut : moment.sent = true)
    {name password : Bytes}
    {js : JsonObject}
    (hSends : Client.Sends (.login name password) js)
    {text : String}
    (hReceived : moment.received = some text)
    (hTurn :
      network.turn env conn (.main moment) =
        (program.answered env.codec moment text
          (.login name password), some js)) :
    Follows env network conn (.main moment) readings := by
  rcases hSends.login_fields with
    ⟨hType, nameText, passwordText, _, _, hName, hPassword⟩
  have hRequest :
      network.request? env
          (.client conn (.main moment) readings) =
        some
          (.session
            (.login conn (Json.normalizeFields js))) := by
    rw [@request?_of_getsOut _ _ _ _ (.main moment) hOut _ _
      hTurn, frameEvent_login hType]
  have hAnswer := hAnswers.logins _ _ _ _ rfl hRequest
  split at hAnswer
  · rename_i hServes
    rcases hAnswer with ⟨answer, hSame, hWire⟩
    rw [hReceived] at hSame
    rcases @step_login env network.deployment conn hServes
        (Json.normalizeFields js) with
      ⟨after, hStep, hCluster, hOthers, hHere⟩
    have hAfter :
        network.deploymentAfter env
            (.client conn (.main moment) readings) =
          after := by
      unfold deploymentAfter
      rw [hRequest, Option.bind_some]
      dsimp only [Deployment.serve]
      rw [hStep]
      rfl
    rw [hAfter] at hWire
    have hWrites :
        Cluster.LoginWrites env network.deployment.cluster
          (Json.normalizeFields js) text := by
      rcases @Cluster.adds_guarded_login env
          (network.deployment.cluster.home conn) conn
          network.deployment.cluster _ _ _ hName hPassword
        with ⟨texts, hTexts, hAll⟩
      rw [hCluster, hTexts] at hWire
      rw [Option.some.inj hSame]
      apply hAll
      rw [List.append_cancel_left hWire]
      exact List.mem_cons_self
    unfold Follows
    rw [hAfter, hTurn]
    refine ⟨?_, hOthers⟩
    have hBound :=
      bound_answered hCodec hAgrees.ids hWrites hPlace moment
        name password
    have hLast :
        after.owner conn =
          (Cluster.loggingIn env network.deployment.cluster
            (Json.normalizeFields js)).map User.id := by
      rw [hHere, hOwner]
      cases
        Cluster.loggingIn env network.deployment.cluster
          (Json.normalizeFields js) <;> rfl
    rw [hLast]
    exact hBound
  · rw [hReceived] at hAnswer
    cases hAnswer

/- No login without a frame that gets out. -/
theorem no_login_of_lost
    {event : Client.Event}
    (hLost :
      event.getsOut = false ∨
        (network.turn env conn event).2 = none)
    (other : ConnId)
    (js : JsonObject) :
    network.request? env (.client conn event readings) ≠
      some (.session (.login other js)) := by
  intro hRequest
  rcases request?_client hRequest with
    ⟨hOut, frame, hFrame, _⟩
  rcases hLost with hStays | hNone
  · rw [hOut] at hStays
    cases hStays
  · rw [hFrame] at hNone
    cases hNone

/- A login frame that no node gets. -/
theorem follows_unserved
    {event : Client.Event}
    {fields : JsonObject}
    (hRequest :
      network.request? env (.client conn event readings) =
        some (.session (.login conn fields)))
    (hServes : ¬ network.deployment.Serves conn)
    (hBound :
      Bound (network.deployment.owner conn)
        (network.turn env conn event).1) :
    Follows env network conn event readings := by
  have hSame :
      network.deploymentAfter env
          (.client conn event readings) =
        network.deployment := by
    unfold deploymentAfter
    rw [hRequest, Option.bind_some]
    dsimp only [Deployment.serve, Deployment.step]
    rw [if_neg hServes]
    rfl
  unfold Follows
  rw [hSame]
  exact ⟨hBound, fun _ _ => rfl⟩

/- The requests of a client are about its connection. -/
theorem conn_of_request?
    {event : Client.Event}
    {other : ConnId}
    {fields : JsonObject}
    (hRequest :
      network.request? env (.client conn event readings) =
        some (.session (.login other fields))) :
    other = conn := by
  rcases request?_client hRequest with ⟨_, js, _, hEvent⟩
  exact
    sessionRequest_conn (sessionRequest_of_frameEvent hEvent)

/- A turn of the start menu. -/
theorem follows_start
    (hCodec : env.codec = JsonCodec.library strtod)
    (hAgrees : network.Agrees)
    (hPlace : (network.programs conn).place = .startMenu)
    {moment : Client.Moment}
    (hAnswers :
      network.Answers env
        (.client conn (.main moment) readings)) :
    Follows env network conn (.main moment) readings := by
  have hOwner := (hAgrees.bound conn).1 hPlace
  have hTurn :
      network.turn env conn (.main moment) =
        (network.programs conn).startTurn env.codec moment :=
    Client.Program.turn_start env.codec hPlace moment
  have hCases :=
    Client.Program.startTurn_cases env.codec hPlace moment
  rw [← hTurn] at hCases
  generalize hResult :
    network.turn env conn (.main moment) = result at hCases
  cases hCases with
  | @silent place cin hStays =>
      refine
        follows_quiet
          (no_login_of_lost (Or.inr (by rw [hResult]))) ?_
      rw [hResult, hOwner]
      refine ⟨fun _ => rfl, ?_⟩
      intro hMenu
      exact absurd hMenu hStays
  | @unanswered typed js cin hKind hFrame hLost =>
      have hBound :
          Bound (network.deployment.owner conn)
            (network.turn env conn (.main moment)).1 := by
        rw [hResult, hOwner]
        exact bound_startMenu hPlace
      cases hOut : moment.sent with
      | false =>
          exact
            follows_quiet (no_login_of_lost (Or.inl hOut))
              hBound
      | true =>
          have hNone : moment.received = none := by
            rcases hLost with hStays | hNone
            · rw [hOut] at hStays
              cases hStays
            · exact hNone
          by_cases hLogin :
              ∃ fields,
                network.request? env
                    (.client conn (.main moment) readings) =
                  some (.session (.login conn fields))
          · rcases hLogin with ⟨fields, hRequest⟩
            have hAnswer :=
              hAnswers.logins _ _ _ _ rfl hRequest
            split at hAnswer
            · rcases hAnswer with ⟨text, hSome, _⟩
              rw [hNone] at hSome
              cases hSome
            · rename_i hServes
              exact follows_unserved hRequest hServes hBound
          · refine follows_quiet ?_ hBound
            intro other fields hRequest
            rw [conn_of_request? hRequest] at hRequest
            exact hLogin ⟨fields, hRequest⟩
  | @answered typed js text cin hKind hFrame hOut hReceived =>
      have hSends := Client.sends_of_sent hFrame
      cases typed with
      | login name password =>
          exact
            @follows_login env network conn readings strtod
              hCodec hAgrees
              { network.programs conn with cin := cin }
              hPlace hOwner moment hAnswers hOut name password
              js hSends text hReceived hResult
      | register name password =>
          rcases hSends.field_msgid with
            ⟨type, hType, hField⟩
          rw [← Option.some.inj hType] at hField
          refine follows_quiet ?_ ?_
          · intro other fields hRequest
            rw [@request?_of_getsOut _ _ _ _ (.main moment)
                hOut _ _ hResult] at hRequest
            have hSession :=
              sessionRequest_of_frameEvent
                (Option.some.inj hRequest)
            rw [sessionRequest_register hField] at hSession
            cases hSession
          · rw [hResult, hOwner]
            rcases
                Client.Program.answered_register env.codec
                  { network.programs conn with cin := cin }
                  moment text name password with
              hAborted | hSame
            · exact bound_stopped _ (Or.inr hAborted)
            · rw [hSame]
              exact bound_startMenu hPlace
      | command user time handler args => exact hKind.elim

/- A turn of `mainMenu`. -/
theorem follows_menu
    (hAgrees : network.Agrees)
    (hPlace : (network.programs conn).place = .mainMenu)
    (moment : Client.Moment) :
    Follows env network conn (.main moment) readings := by
  have hOwner := (hAgrees.bound conn).2 hPlace
  have hTurn :
      network.turn env conn (.main moment) =
        (network.programs conn).menuTurn moment.time :=
    Client.Program.turn_menu env.codec hPlace moment
  rcases
      Client.Program.menuTurn_cases (network.programs conn)
        moment.time with
    ⟨hNext, hSession, hFrame⟩
  rw [← hTurn] at hNext hSession hFrame
  refine follows_quiet ?_ ?_
  · intro other fields hRequest
    rcases request?_client hRequest with
      ⟨_, js, hSome, hEvent⟩
    rcases hFrame js hSome with ⟨handler, args, hSent⟩
    have hLogout :=
      sessionRequest_command (Client.sends_of_sent hSent)
        (sessionRequest_of_frameEvent hEvent)
    cases hLogout
  · rcases hNext with hMenu | hAborted
    · constructor
      · intro hStart
        rw [hMenu] at hStart
        cases hStart
      · intro _
        rw [hSession]
        exact hOwner
    · exact bound_stopped _ (Or.inr hAborted)

/- A turn of any thread of the client. -/
theorem follows_turn
    (hCodec : env.codec = JsonCodec.library strtod)
    (hAgrees : network.Agrees)
    {event : Client.Event}
    (hAnswers :
      network.Answers env (.client conn event readings)) :
    Follows env network conn event readings := by
  have hIdle :
      network.turn env conn event =
          (network.programs conn, none) →
        Follows env network conn event readings := by
    intro hTurn
    refine
      follows_quiet
        (no_login_of_lost (Or.inr (by rw [hTurn]))) ?_
    rw [hTurn]
    exact hAgrees.bound conn
  cases hPlace : (network.programs conn).place with
  | startMenu =>
      cases event with
      | main moment =>
          exact follows_start hCodec hAgrees hPlace hAnswers
      | arrival arrival =>
          refine hIdle (Client.Program.turn_idle _ ?_)
          refine Or.inr (Or.inr ⟨hPlace, ?_⟩)
          intro moment hSame
          cases hSame
      | hangUp =>
          refine hIdle (Client.Program.turn_idle _ ?_)
          refine Or.inr (Or.inr ⟨hPlace, ?_⟩)
          intro moment hSame
          cases hSame
  | mainMenu =>
      have hOwner := (hAgrees.bound conn).2 hPlace
      cases event with
      | main moment => exact follows_menu hAgrees hPlace moment
      | arrival arrival =>
          have hTurn :
              network.turn env conn (.arrival arrival) = _ :=
            Client.Program.turn_arrival env.codec hPlace
              arrival
          rcases
              Client.Program.receiveTurn_cases env.codec
                (network.programs conn) arrival with
            ⟨hNext, hUser⟩
          have hId := congrArg Client.CurrentUser.id hUser
          refine
            follows_quiet
              (no_login_of_lost (Or.inl rfl)) ?_
          rw [hTurn]
          rcases hNext with hAborted | hStays
          · exact bound_stopped _ (Or.inr hAborted)
          · constructor
            · intro hStart
              rw [hStays, hPlace] at hStart
              cases hStart
            · intro _
              change
                _ = some (Client.Program.user _).id ∧
                  IsInt (Client.Program.user _).id
              rw [hId]
              exact hOwner
      | hangUp =>
          have hTurn :
              network.turn env conn .hangUp = _ :=
            Client.Program.turn_hangUp env.codec hPlace
          refine
            follows_quiet
              (no_login_of_lost (Or.inl rfl)) ?_
          rw [hTurn]
          exact bound_stopped _ (Or.inr rfl)
  | ended =>
      exact hIdle (Client.Program.turn_idle _ (Or.inl hPlace))
  | aborted =>
      exact
        hIdle
          (Client.Program.turn_idle _
            (Or.inr (Or.inl hPlace)))

end Turns

end Network

end ClusterChat
