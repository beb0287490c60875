import ClusterChat.EndToEnd.Network

/-
  The discipline of the clients, and what it gives the
  cluster.

  A connection logs in at most one user and logs out only
  that one, as long as every login is answered.  So a user is
  online exactly if one node serves the user, to a client that
  has this user.

  Main declarations:
    * `Network.agrees_step`
    * `Network.Agrees.executes`
    * `Network.clients_are_disciplined`
    * `Network.online_with_clients`
-/

------------------------------------------------------------
-- Whole Runs
------------------------------------------------------------

namespace ClusterChat

namespace Network

variable {env : Externals}
variable {strtod : String → Option Rat}
variable {network : Network}

theorem agrees_step
    (hCodec : env.codec = JsonCodec.library strtod)
    (hAgrees : network.Agrees)
    {event : NetworkEvent}
    (hAnswers : network.Answers env event)
    {after : Network}
    (hStep : network.step env event = some after) :
    after.Agrees := by
  rw [← Option.some.inj hStep]
  refine ⟨?_, hAnswers.ids⟩
  intro other
  cases event with
  | client conn event readings =>
      rcases follows_turn hCodec hAgrees hAnswers with
        ⟨hBound, hOthers⟩
      by_cases hSame : other = conn
      · rw [hSame]
        dsimp only [programsAfter]
        rw [Function.update_self]
        exact hBound
      · dsimp only [programsAfter]
        rw [Function.update_of_ne hSame, hOthers other hSame]
        exact hAgrees.bound other
  | _ =>
      dsimp only
      rw [owner_deploymentAfter (by
        intro conn js hLogin
        cases hLogin)]
      exact hAgrees.bound other

/- Clients that have just been started, at a cluster that
has logged in nobody. -/
structure Fresh (network : Network) : Prop where
  programs :
    ∀ conn, (network.programs conn).place = .startMenu
  owners : ∀ conn, network.deployment.owner conn = none
  ids : network.deployment.cluster.IntIds

theorem Fresh.agrees
    (hFresh : network.Fresh) :
    network.Agrees where
  bound := by
    intro conn
    rw [hFresh.owners conn]
    exact bound_startMenu (hFresh.programs conn)
  ids := hFresh.ids

/- What the frame of a turn says was typed, and a command
carries an int for the id of the user. -/
theorem Agrees.typed
    (hAgrees : network.Agrees)
    {conn : ConnId}
    {event : Client.Event}
    {js : JsonObject}
    (hFrame : (network.turn env conn event).2 = some js) :
    ∃ typed, Client.Sends typed js ∧ typed.HasInt := by
  rcases Client.Program.turn_frame env.codec hFrame with
    ⟨_, typed, hKind, hSent⟩ |
      ⟨hPlace, time, handler, args, hSent⟩
  · refine ⟨typed, Client.sends_of_sent hSent, ?_⟩
    cases typed with
    | command user time handler args => exact hKind.elim
    | login name password => trivial
    | register name password => trivial
  · exact
      ⟨_, Client.sends_of_sent hSent,
        ((hAgrees.bound conn).2 hPlace).2⟩

/- Whatever a client sends, the node of its connection runs
the handler of the printed frame. -/
theorem Agrees.executes
    (hCodec : env.codec = JsonCodec.library strtod)
    (hAgrees : network.Agrees)
    {conn : ConnId}
    {event : Client.Event}
    {readings : Readings}
    (hOut : event.getsOut = true)
    {program : Client.Program}
    {js : JsonObject}
    (hTurn : network.turn env conn event = (program, some js))
    (hServes : network.deployment.Serves conn) :
    (network.deploymentAfter env
        (.client conn event readings)).cluster =
      network.deployment.cluster.execute env
        (network.deployment.cluster.home conn)
        (ChatServer.onMessage env conn
          (env.codec.dump (.object js)) readings) := by
  rcases hAgrees.typed (congrArg Prod.snd hTurn) with
    ⟨typed, hSends, hInt⟩
  rcases hSends.field_msgid with ⟨type, _, hType⟩
  rw [ChatServer.onMessage_dump hCodec
    (hSends.storable hInt) hType]
  unfold deploymentAfter
  rw [request?_of_getsOut hOut hTurn, Option.bind_some]
  unfold frameEvent
  cases hSession : sessionRequest conn js with
  | none =>
      dsimp only [Deployment.serve]
      rw [if_pos hServes,
        ChatServer.onMessage_dump hCodec
          (hSends.storable hInt) hType]
      rfl
  | some request =>
      unfold sessionRequest at hSession
      rw [getInt_field hType] at hSession
      dsimp only at hSession
      unfold ChatService.getHandler
      split_ifs at hSession with hLogin hLoginout
      · cases hSession
        rw [if_pos hLogin]
        rcases @step_login env network.deployment conn hServes
            (Json.normalizeFields js) with
          ⟨after, hStep, hCluster, _⟩
        dsimp only [Deployment.serve]
        rw [hStep]
        exact hCluster
      · cases hSession
        rw [if_neg hLogin, if_pos hLoginout]
        dsimp only [Deployment.serve, Deployment.step]
        rw [if_pos hServes]
        rfl

/- Clients whose users are the owners are disciplined. -/
theorem Agrees.disciplined
    (hAgrees : network.Agrees)
    {event : NetworkEvent}
    {request : DeploymentEvent}
    (hRequest :
      network.request? env event = some (.session request)) :
    network.deployment.Disciplined env request := by
  cases event with
  | client conn event readings =>
      rcases request?_client hRequest with
        ⟨_, js, hFrame, hEvent⟩
      have hSession := sessionRequest_of_frameEvent hEvent
      rcases Client.Program.turn_frame env.codec hFrame with
        ⟨hPlace, typed, hKind, hSent⟩ |
          ⟨hPlace, time, handler, args, hSent⟩
      · have hOwner := (hAgrees.bound conn).1 hPlace
        rcases (Client.sends_of_sent hSent).field_msgid with
          ⟨type, hType, hField⟩
        cases typed with
        | login name password =>
            rw [← Option.some.inj hType] at hField
            rw [sessionRequest_login hField] at hSession
            rw [← Option.some.inj hSession]
            exact fun _ _ => Or.inl hOwner
        | register name password =>
            rw [← Option.some.inj hType] at hField
            rw [sessionRequest_register hField] at hSession
            cases hSession
        | command user time handler args => exact hKind.elim
      · rcases (hAgrees.bound conn).2 hPlace with
          ⟨hOwner, hInt⟩
        have hSends := Client.sends_of_sent hSent
        rw [sessionRequest_command hSends hSession]
        have hId :
            loginoutId (Json.normalizeFields js) =
              some (network.programs conn).session.id := by
          unfold loginoutId
          rw [JsonObject.field_normalizeFields,
            hSends.field_id, Json.getInt_normalize]
          exact congrArg Except.toOption hInt.getInt_eq
        intro userid hUser
        rw [hId] at hUser
        rw [← Option.mem_some_iff.mp hUser]
        exact hOwner
  | close conn =>
      cases hRequest
      trivial
  | shutdown id =>
      cases hRequest
      trivial
  | observe id => cases hRequest
  | environment event => cases hRequest

/- The other frames run handlers that leave the sessions
alone. -/
theorem Agrees.sessionless
    (hCodec : env.codec = JsonCodec.library strtod)
    (hAgrees : network.Agrees)
    {event : NetworkEvent}
    {conn : ConnId}
    {body : String}
    {readings : Readings}
    (hRequest :
      network.request? env event =
        some (.frame conn body readings)) :
    ∃ handler,
      ChatService.Sessionless handler ∧
        ChatServer.onMessage env conn body readings =
          ChatServer.guarded conn handler := by
  cases event with
  | client other event moment =>
      rcases request?_client hRequest with
        ⟨_, js, hFrame, hEvent⟩
      unfold frameEvent at hEvent
      cases hSession : sessionRequest other js with
      | some request =>
          rw [hSession] at hEvent
          cases hEvent
      | none =>
          rw [hSession] at hEvent
          cases hEvent
          rcases hAgrees.typed hFrame with
            ⟨typed, hSends, hInt⟩
          rcases hSends.field_msgid with ⟨type, _, hType⟩
          rcases sessionRequest_eq_none hType hSession with
            ⟨hLogin, hLoginout⟩
          exact
            ⟨_,
              ChatService.sessionless_getHandler env hLogin
                hLoginout conn _ readings,
              ChatServer.onMessage_dump hCodec
                (hSends.storable hInt) hType conn readings⟩
  | close conn => cases hRequest
  | shutdown id => cases hRequest
  | observe id => cases hRequest
  | environment event => cases hRequest

/-
  However the users of the clients type, and whatever else
  the clients receive: if every login that is served is
  answered, no connection ever logs in a second user or logs
  out another one.
-/
theorem clients_are_disciplined
    (hCodec : env.codec = JsonCodec.library strtod)
    {start final : Network}
    (hFresh : start.Fresh)
    {events : List NetworkEvent}
    (hRun :
      Transition.Run (step env) (Answers env) start events
        final)
    {event : NetworkEvent}
    {request : DeploymentEvent}
    (hRequest :
      final.request? env event = some (.session request)) :
    final.deployment.Disciplined env request := by
  have hAgrees :=
    hRun.invariant Agrees
      (fun _ _ _ hBefore hAnswers hStep =>
        agrees_step hCodec hBefore hAnswers hStep)
      hFresh.agrees
  exact hAgrees.disciplined hRequest

/- A logout or a shutdown that the clients and the operators
bring about spares the users of other nodes. -/
def Spares
    (env : Externals)
    (network : Network)
    (event : NetworkEvent) : Prop :=
  ∀ request,
    network.request? env event = some (.session request) →
      network.deployment.SparesOthers request

theorem consistent_deploymentAfter
    (hCodec : env.codec = JsonCodec.library strtod)
    (hAgrees : network.Agrees)
    (hConsistent : network.deployment.Consistent)
    {event : NetworkEvent}
    (hSpares : network.Spares env event) :
    (network.deploymentAfter env event).Consistent := by
  unfold deploymentAfter
  cases hRequest : network.request? env event with
  | none => exact hConsistent
  | some request =>
      rw [Option.bind_some]
      cases hNext : network.deployment.serve env request with
      | none => exact hConsistent
      | some after =>
          refine
            Deployment.consistent_serve hConsistent ?_ ?_
              hNext
          · intro asked hSame
            rw [hSame] at hRequest
            exact
              ⟨hAgrees.disciplined hRequest,
                hSpares asked hRequest⟩
          · intro conn body readings hSame
            rw [hSame] at hRequest
            exact hAgrees.sessionless hCodec hRequest

/-
  The cluster with its clients: a user is online exactly if
  one running node serves the user, and the connection on
  which it does so ends at a client that has this user or has
  stopped.
-/
theorem online_with_clients
    (hCodec : env.codec = JsonCodec.library strtod)
    {start final : Network}
    (hFresh : start.Fresh)
    (hOffline :
      ∀ user ∈ start.deployment.cluster.db.users.rows,
        user.state = .offline)
    (hEmpty :
      ∀ id ∈ start.deployment.running,
        (start.deployment.cluster.nodes id).userConnMap = ∅)
    {events : List NetworkEvent}
    (hRun :
      Transition.Run (step env)
        (fun network event =>
          network.Answers env event ∧
            network.Spares env event)
        start events final) :
    final.deployment.OnlineMeansOneNode ∧
      ∀ id ∈ final.deployment.running, ∀ userid conn,
        final.deployment.cluster.connOf id userid =
            some conn →
          (final.programs conn).place ≠ .startMenu ∧
            ((final.programs conn).place = .mainMenu →
              (final.programs conn).session.id =
                userid) := by
  have hBoth :=
    hRun.invariant
      (fun network =>
        network.Agrees ∧ network.deployment.Consistent)
      (fun before event after hBefore hMet hStep => by
        refine
          ⟨agrees_step hCodec hBefore.1 hMet.1 hStep, ?_⟩
        rw [← Option.some.inj hStep]
        exact
          consistent_deploymentAfter hCodec hBefore.1
            hBefore.2 hMet.2)
      ⟨hFresh.agrees,
        Deployment.consistent_start hOffline hEmpty⟩
  refine ⟨hBoth.2.one_node, ?_⟩
  intro id hId userid conn hConn
  have hOwner := (hBoth.2.placed id hId userid conn hConn).2.2
  have hBound := hBoth.1.bound conn
  constructor
  · intro hStart
    rw [hBound.1 hStart] at hOwner
    cases hOwner
  · intro hMenu
    rw [(hBound.2 hMenu).1] at hOwner
    exact Option.some.inj hOwner

------------------------------------------------------------
-- The Same User on Two Connections
------------------------------------------------------------

/- What is typed at every client. -/
def annName : Client.Word where
  bytes := utf8 "ann"
  nonempty := by decide +kernel
  black := by decide +kernel

def annPassword : Client.Word where
  bytes := utf8 "secret"
  nonempty := by decide +kernel
  black := by decide +kernel

def annInput : Bytes :=
  Client.loginKey :: Client.newline ::
    Client.credentialLines annName annPassword []

def annStart : Network where
  deployment := Deployment.twoNodes
  programs := fun _ => Client.Program.start 800 annInput

def annAccepted : String :=
  libraryExternals.codec.dump
    (.object (ChatService.loginAccepted 1 "ann"))

def annMoment : Client.Moment where
  sent := true
  received := some annAccepted
  time := "noon"
  clock := fun _ => 0
  visits := []

def annLogin : NetworkEvent :=
  .client 5 (.main annMoment) sampleReadings

def afterLogin : Network where
  deployment :=
    annStart.deploymentAfter libraryExternals annLogin
  programs := annStart.programsAfter libraryExternals annLogin

theorem annStart_fresh : annStart.Fresh where
  programs := fun _ => rfl
  owners := fun _ => rfl
  ids := by
    unfold Cluster.IntIds IsInt
    decide +kernel

theorem annRequest_fields :
    Json.normalizeFields Client.annRequest =
      sampleLogin "ann" := by
  have hMsgid :
      JsonObject.assign "msgid"
          (.integer EnMsgType.loginMsg.code) [] =
        [("msgid", .integer 1)] := rfl
  have hName :
      JsonObject.assign "name" (.string "ann")
          [("msgid", .integer 1)] =
        [("msgid", .integer 1), ("name", .string "ann")] := by
    unfold JsonObject.assign
    rw [if_neg (by decide +kernel), if_neg (by decide +kernel)]
    rfl
  have hPassword :
      JsonObject.assign "password" (.string "secret")
          [("msgid", .integer 1), ("name", .string "ann")] =
        [("msgid", .integer 1), ("name", .string "ann"),
          ("password", .string "secret")] := by
    unfold JsonObject.assign
    rw [if_neg (by decide +kernel), if_neg (by decide +kernel)]
    unfold JsonObject.assign
    rw [if_neg (by decide +kernel), if_neg (by decide +kernel)]
    rfl
  unfold Client.annRequest
  rw [hMsgid, hName, hPassword]
  rfl

theorem annLogin_wire :
    (Deployment.twoNodes.cluster.execute libraryExternals 1
      (ChatServer.guarded 5
        (ChatService.login libraryExternals 5
          (sampleLogin "ann")))).wire 5 =
      [annAccepted] := by
  decide +kernel

/- The first turn of a client. -/
theorem exists_annTurn
    {network : Network}
    {conn : ConnId}
    (hProgram :
      network.programs conn =
        Client.Program.start 800 annInput) :
    ∃ program,
      network.turn libraryExternals conn (.main annMoment) =
        (program, some Client.annRequest) := by
  unfold turn
  rw [hProgram, Client.Program.turn_start _ rfl]
  unfold Client.Program.startTurn
  have hChoice :
      Client.choose
          (Client.Program.start 800 annInput).cin = _ :=
    Client.choose_login annName annPassword []
  have hSent :
      (Client.Typed.login annName.bytes
        annPassword.bytes).sent =
        .ok (some Client.annRequest) :=
    Client.typedAnn_sent
  rw [hChoice]
  dsimp only
  unfold Client.Program.exchange
  rw [hSent]
  exact ⟨_, rfl⟩

theorem annTurn_request
    {network : Network}
    {conn : ConnId}
    (hProgram :
      network.programs conn =
        Client.Program.start 800 annInput) :
    network.request? libraryExternals
        (.client conn (.main annMoment) sampleReadings) =
      some (.session (.login conn (sampleLogin "ann"))) := by
  have hOut :
      (Client.Event.main annMoment).getsOut = true := rfl
  have hType :
      Client.annRequest.field "msgid" =
        .integer EnMsgType.loginMsg.code := by
    simp [Client.annRequest, JsonObject.field_assign]
  rcases exists_annTurn hProgram with ⟨program, hTurn⟩
  rw [request?_of_getsOut hOut hTurn, frameEvent_login hType,
    annRequest_fields]

theorem annLogin_ids :
    (Deployment.twoNodes.cluster.execute libraryExternals 1
      (ChatServer.guarded 5
        (ChatService.login libraryExternals 5
          (sampleLogin "ann")))).IntIds := by
  unfold Cluster.IntIds IsInt
  decide +kernel

theorem annLogin_request :
    annStart.request? libraryExternals annLogin =
      some (.session (.login 5 (sampleLogin "ann"))) :=
  annTurn_request rfl

theorem annLogin_cluster :
    (annStart.deploymentAfter libraryExternals
        annLogin).cluster =
      Deployment.twoNodes.cluster.execute libraryExternals 1
        (ChatServer.guarded 5
          (ChatService.login libraryExternals 5
            (sampleLogin "ann"))) := by
  have hServes : annStart.deployment.Serves 5 := by decide
  rcases @step_login libraryExternals annStart.deployment 5
      hServes (sampleLogin "ann") with
    ⟨after, hStep, hCluster, _⟩
  unfold deploymentAfter
  rw [annLogin_request, Option.bind_some]
  dsimp only [Deployment.serve]
  rw [hStep]
  exact hCluster

theorem annLogin_answers :
    annStart.Answers libraryExternals annLogin where
  logins := by
    intro conn moment readings js hEvent _
    cases hEvent
    have hServes : annStart.deployment.Serves 5 := by decide
    rw [if_pos hServes]
    refine ⟨annAccepted, rfl, ?_⟩
    change
      (annStart.deploymentAfter libraryExternals
        annLogin).cluster.wire 5 = [] ++ [annAccepted]
    rw [annLogin_cluster]
    exact annLogin_wire
  ids := by
    rw [annLogin_cluster]
    exact annLogin_ids

theorem annLogin_step :
    annStart.step libraryExternals annLogin =
      some afterLogin := rfl

/- The same user types the password at a second client. -/
theorem secondLogin_disciplined :
    Transition.Run (step libraryExternals)
        (Answers libraryExternals) annStart [annLogin]
        afterLogin ∧
      afterLogin.deployment.Disciplined libraryExternals
        (.login 6 (sampleLogin "ann")) := by
  have hRun :=
    Transition.Run.single annLogin_answers annLogin_step
  have hRequest :
      afterLogin.request? libraryExternals
          (.client 6 (.main annMoment) sampleReadings) =
        some (.session (.login 6 (sampleLogin "ann"))) := by
    have hOther : (6 : ConnId) ≠ 5 := by decide
    have hProgram :
        afterLogin.programs 6 = annStart.programs 6 := by
      dsimp only [afterLogin, annLogin, programsAfter]
      rw [Function.update_of_ne hOther]
    exact annTurn_request hProgram
  exact
    ⟨hRun,
      clients_are_disciplined rfl annStart_fresh hRun
        hRequest⟩

/- The user is online at one node. -/
theorem afterLogin_online :
    afterLogin.deployment.OnlineMeansOneNode := by
  have hSpares : annStart.Spares libraryExternals annLogin := by
    intro request hRequest
    rw [annLogin_request] at hRequest
    cases hRequest
    trivial
  have hBoth :=
    online_with_clients rfl annStart_fresh (by decide)
      (fun _ _ => rfl)
      (Transition.Run.single ⟨annLogin_answers, hSpares⟩
        annLogin_step)
  exact hBoth.1

end Network

end ClusterChat
