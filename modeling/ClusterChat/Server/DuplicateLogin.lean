import ClusterChat.Server.LoginSteps

/-
  How often a user can be logged in between two moments at
  which the user's state is set to offline.

  A login reads the state, and several operations later it
  sets the state and answers.  So two logins can both pass
  the check.  They cannot as long as each login still finds
  the user offline when it sets the state, and as long as
  nobody sets the user offline before the answer.

  Main declarations:
    * `reportsSuccess`
    * `History.epoch` and `History.LoggedInOnce`
    * `History.Exclusive`
    * `History.logged_in_once`
-/

------------------------------------------------------------
-- Answers
------------------------------------------------------------

namespace ClusterChat

/- The client reads the `errno` 0 in the answer. -/
def reportsSuccess
    (codec : JsonCodec)
    (body : String) : Bool :=
  match codec.parse body with
  | some response =>
      match response.find? "errno" with
      | some errno =>
          match errno.getInt with
          | .ok value => decide (value = 0)
          | .error _ => false
      | none => false
  | none => false

/- The operation sends such an answer. -/
def ServerOp.Succeeds (codec : JsonCodec) : ServerOp → Prop
| send _ body => reportsSuccess codec body = true
| _ => False

instance
    (codec : JsonCodec) :
    DecidablePred (ServerOp.Succeeds codec) := fun op =>
  decidable_of_bool
    (match op with
    | .send _ body => reportsSuccess codec body
    | _ => false)
    (by cases op <;> simp [ServerOp.Succeeds])

namespace ChatService

variable (env : Externals)

/- The two answers of a refused login, and that they parse. -/
structure RefusalsParse : Prop where
  wrong :
    env.codec.RoundTrips
      (.object (loginRefused 1 "用户名或密码错误"))
  twice :
    env.codec.RoundTrips
      (.object
        (loginRefused 2 "该账号已经登录，不能重复登录"))

variable {env}

theorem RefusalsParse.not_wrong
    (hParse : RefusalsParse env) :
    reportsSuccess env.codec
        (env.codec.dump
          (.object (loginRefused 1 "用户名或密码错误"))) =
      false := by
  have hTrips :
      env.codec.parse
          (env.codec.dump
            (.object (loginRefused 1 "用户名或密码错误"))) =
        some _ := hParse.wrong
  unfold reportsSuccess
  rw [hTrips]
  rfl

theorem RefusalsParse.not_twice
    (hParse : RefusalsParse env) :
    reportsSuccess env.codec
        (env.codec.dump
          (.object
            (loginRefused 2
              "该账号已经登录，不能重复登录"))) =
      false := by
  have hTrips :
      env.codec.parse
          (env.codec.dump
            (.object
              (loginRefused 2
                "该账号已经登录，不能重复登录"))) =
        some _ := hParse.twice
  unfold reportsSuccess
  rw [hTrips]
  rfl

variable (env)

------------------------------------------------------------
-- The Operations of a Login
------------------------------------------------------------

variable {env}

/- A success is reported only after the state was set. -/
theorem precedes_afterQuery
    (hParse : RefusalsParse env)
    (conn : ConnId)
    (password : String)
    (user : User) :
    (ChatServer.guarded conn
      (afterQuery env conn password user)).Precedes
        (fun op _ => op = .updateState user.id .online)
        (ServerOp.Succeeds env.codec) := by
  apply Process.precedes_tryCatch
  · unfold afterQuery
    split
    · split
      · refine ⟨?_, fun _ => Or.inr trivial⟩
        simp [ServerOp.Succeeds, hParse.not_twice]
      · refine ⟨fun hOp => hOp, fun _ => Or.inr ?_⟩
        refine ⟨fun hOp => hOp, fun _ => Or.inr ?_⟩
        exact ⟨fun hOp => hOp, fun _ => Or.inl rfl⟩
    · refine ⟨?_, fun _ => Or.inr trivial⟩
      simp [ServerOp.Succeeds, hParse.not_wrong]
  · exact fun _ =>
      ⟨fun hOp => hOp, fun _ => Or.inr trivial⟩

/- What a login may do after its query. -/
def AfterQuery
    (user : User) : ServerOp → Prop
| .queryUserByName _ => False
| .updateState userid state =>
    state = .online → userid = user.id ∧ user.id ≠ -1
| _ => True

theorem always_afterQuery
    (conn : ConnId)
    (password : String)
    (user : User) :
    (ChatServer.guarded conn
      (afterQuery env conn password user)).Always
        (AfterQuery user) := by
  apply Process.always_tryCatch
  · unfold afterQuery
    split
    · rename_i hAccepts
      have hReal : user.id ≠ -1 := by
        unfold accepts at hAccepts
        simp only [Bool.and_eq_true, decide_eq_true_eq]
          at hAccepts
        exact hAccepts.1
      split
      · exact ⟨trivial, fun _ => trivial⟩
      · apply always_ask trivial
        intro _
        apply always_ask trivial
        intro _
        apply always_ask fun _ => ⟨rfl, hReal⟩
        intro _
        exact
          always_answerLogin env trivial trivial trivial
            trivial (fun _ => trivial) fun _ => trivial
    · exact ⟨trivial, fun _ => trivial⟩
  · exact fun _ => ⟨trivial, fun _ => trivial⟩

end ChatService

namespace Cluster

/- Users stay in the table. -/
theorem has_answer
    (env : Externals)
    (id : NodeId)
    (op : ServerOp)
    {cluster : Cluster}
    {userid : Int}
    (hHas : cluster.db.users.Has userid) :
    (cluster.answer env id op).2.db.users.Has userid := by
  by_cases hKeeps : op.KeepsUsers
  · rw [(answer_frame env id op cluster).users hKeeps]
    exact hHas
  cases op with
  | insertUser user =>
      simp only [answer, UserTable.insert]
      split_ifs
      · exact hHas
      · exact UserTable.has_append _ _ hHas
  | updateState other state =>
      exact (UserTable.has_withStates _ _ _).mpr hHas
  | resetState =>
      exact (UserTable.has_withStates _ _ _).mpr hHas
  | _ => exact absurd trivial hKeeps

/- A user's state changes only when it is set. -/
theorem state_answer
    (env : Externals)
    (id : NodeId)
    {op : ServerOp}
    {cluster : Cluster}
    {userid : Int}
    (hHas : cluster.db.users.Has userid)
    (hUpdate : ∀ state, op ≠ .updateState userid state)
    (hReset : op ≠ .resetState) :
    ((cluster.answer env id op).2.db.users.query
        userid).state =
      (cluster.db.users.query userid).state := by
  by_cases hKeeps : op.KeepsUsers
  · rw [(answer_frame env id op cluster).users hKeeps]
  cases op with
  | insertUser user =>
      simp only [answer, UserTable.insert]
      split_ifs
      · rfl
      · exact
          congrArg User.state
            (UserTable.query_append _ _ hHas)
  | updateState other state =>
      have hOther : userid ≠ other := by
        intro hSame
        exact hUpdate state (hSame ▸ rfl)
      by_cases hKnown : cluster.db.users.Has other
      · have hState :=
          UserTable.state_updateState cluster.db.users other
            userid state hKnown
        rw [if_neg hOther] at hState
        exact hState
      · exact
          UserTable.state_updateState_of_missing _ _ _ hKnown
  | resetState => exact absurd rfl hReset
  | _ => exact absurd trivial hKeeps

end Cluster

------------------------------------------------------------
-- Epochs
------------------------------------------------------------

namespace Event

variable (env : Externals)

/- The user's state is set to offline. -/
def SetsOffline
    (userid : Int)
    (event : Event) : Prop :=
  event.op = .updateState userid .offline ∨
    event.op = .resetState

instance
    (userid : Int) :
    DecidablePred (SetsOffline userid) :=
  fun _ => inferInstanceAs (Decidable (_ ∨ _))

/- The user's state is set to online. -/
def SetsOnline
    (userid : Int)
    (event : Event) : Prop :=
  event.op = .updateState userid .online

instance
    (userid : Int) :
    DecidablePred (SetsOnline userid) :=
  fun event =>
    inferInstanceAs
      (Decidable (event.op = .updateState userid .online))

/- The user whom a login has looked up. -/
def asked (event : Event) : Option Int :=
  match event.op with
  | .queryUserByName name =>
      some
        (event.before.db.users.queryByName env.collate
          name).id
  | _ => none

theorem asked_eq_some_iff
    {userid : Int}
    {event : Event} :
    event.asked env = some userid ↔
      ∃ (name : String) (user : User),
        event.answered env = ⟨.queryUserByName name, user⟩ ∧
          user.id = userid := by
  rcases event with ⟨⟨node, op, before⟩, ticket⟩
  unfold asked answered answer
  cases op with
  | queryUserByName name =>
      constructor
      · intro hAsked
        exact ⟨name, _, rfl, Option.some.inj hAsked⟩
      · intro hAnswered
        rcases hAnswered with ⟨other, user, hSame, hId⟩
        rcases Sigma.mk.inj_iff.mp hSame with ⟨hOp, hUser⟩
        have hName : name = other := by simpa using hOp
        subst hName
        exact congrArg some ((congrArg User.id
          (eq_of_heq hUser)).trans hId)
  | _ =>
      constructor
      · intro hAsked
        simp at hAsked
      · intro hAnswered
        rcases hAnswered with ⟨other, user, hSame, _⟩
        simp at hSame

/- Whoever is looked up with success is in the table. -/
theorem has_of_asked
    {userid : Int}
    {event : Event}
    (hAsked : event.asked env = some userid)
    (hReal : userid ≠ -1) :
    event.before.db.users.Has userid := by
  unfold asked at hAsked
  split at hAsked
  · rename_i name _
    have hId := Option.some.inj hAsked
    rcases UserTable.queryByName_cases env.collate
        event.before.db.users name with hRow | hDefault
    · exact ⟨_, hRow, hId⟩
    · rw [hDefault] at hId
      exact absurd hId.symm hReal
  · simp at hAsked

end Event

namespace History

variable (env : Externals)

/- The operations since the user was last set offline. -/
def epoch
    (userid : Int)
    (history : History) : List Event :=
  history.events.foldl
    (fun since event =>
      if event.SetsOffline userid then
        []
      else
        since ++ [event]) []

/- A login request for the user is answered with `errno` 0. -/
def Accepted
    (userid : Int)
    (history : History)
    (event : Event) : Prop :=
  event.op.Succeeds env.codec ∧
    ∃ query ∈ history.events,
      query.ticket = event.ticket ∧
        query.asked env = some userid

instance
    (userid : Int)
    (history : History) :
    DecidablePred (history.Accepted env userid) :=
  fun _ => inferInstanceAs (Decidable (_ ∧ ∃ query ∈ _, _))

/- Of all the requests for the user, at most one has been
answered so since the user was last set offline. -/
def LoggedInOnce
    (userid : Int)
    (history : History) : Prop :=
  ∀ first ∈ history.epoch userid,
    ∀ second ∈ history.epoch userid,
      history.Accepted env userid first →
        history.Accepted env userid second →
          first.ticket = second.ticket

instance
    (userid : Int) :
    DecidablePred (LoggedInOnce env userid) :=
  fun history =>
    inferInstanceAs
      (Decidable
        (∀ first ∈ history.epoch userid,
          ∀ second ∈ history.epoch userid, _))

/-
  A login still finds the user offline when it sets the
  state, and the user is set offline only while no login that
  has set the state is in progress.
-/
def Exclusive
    (userid : Int)
    (history : History)
    (label : Label) : Prop :=
  ∀ entry ∈ history.world.performs label,
    (entry.op = .updateState userid .online →
      (history.world.cluster.db.users.query userid).state =
        .offline) ∧
    (entry.op = .updateState userid .offline ∨
        entry.op = .resetState →
      ∀ ticket ∈ history.inProgress,
        ∀ event ∈ history.events,
          event.ticket = ticket →
            ¬ event.SetsOnline userid)

instance
    (userid : Int)
    (history : History)
    (label : Label) :
    Decidable (Exclusive userid history label) :=
  inferInstanceAs
    (Decidable (∀ entry ∈ history.world.performs label, _))

------------------------------------------------------------
-- What the Record Says About a Login
------------------------------------------------------------

section Records

variable {env} {userid : Int} {history : History}

/- The query is an event of the record. -/
theorem asksFor_of_steps
    {ticket : Nat}
    {name : String}
    {user : User}
    {rest : List (Sigma ServerOp.Res)}
    (hSteps :
      history.stepsOf env ticket =
        ⟨.queryUserByName name, user⟩ :: rest) :
    ∃ query ∈ history.events,
      query.ticket = ticket ∧
        query.asked env = some user.id := by
  have hFirst :
      (⟨.queryUserByName name, user⟩ :
          Sigma ServerOp.Res) ∈
        history.stepsOf env ticket := by
    rw [hSteps]
    exact List.mem_cons_self
  rcases mem_stepsOf_iff.mp hFirst with
    ⟨query, hQuery, hTicket, hAnswered⟩
  exact
    ⟨query, hQuery, hTicket,
      (Event.asked_eq_some_iff env).mpr
        ⟨name, user, hAnswered, rfl⟩⟩

/- Whoever is set online was looked up before. -/
theorem asked_of_setsOnline
    (hTraced : history.Traced env)
    (hHandles : history.AllHandle env)
    {event : Event}
    (hEvent : event ∈ history.events)
    (hOnline : event.SetsOnline userid) :
    userid ≠ -1 ∧
      ∃ query ∈ history.events,
        query.ticket = event.ticket ∧
          query.asked env = some userid := by
  have hLogin : ¬ event.op.LogsNobodyIn := by
    rw [show event.op = _ from hOnline]
    simp [ServerOp.LogsNobodyIn]
  rcases login_of_event hTraced hHandles hEvent hLogin with
    ⟨name, password, user, conn, rest, final, hSteps, hRest⟩
  have hStep :
      event.answered env ∈
        history.stepsOf env event.ticket :=
    mem_stepsOf_iff.mpr ⟨event, hEvent, rfl, rfl⟩
  rw [hSteps] at hStep
  have hOp : (event.answered env).1 = event.op := rfl
  rcases List.mem_cons.mp hStep with hQuery | hLater
  · have hOther : event.op = .queryUserByName name :=
      congrArg Sigma.fst hQuery
    rw [show event.op = _ from hOnline] at hOther
    simp at hOther
  · have hAfter :=
      (Process.allowed_of_trace hRest
        (ChatService.always_afterQuery conn password
          user)).1 _ hLater
    rw [hOp, show event.op = _ from hOnline] at hAfter
    rcases hAfter rfl with ⟨hSame, hReal⟩
    rw [hSame]
    exact ⟨hReal, asksFor_of_steps hSteps⟩

/- Whoever is told of a success was set online before. -/
theorem setsOnline_of_accepted
    (hParse : ChatService.RefusalsParse env)
    (hTraced : history.Traced env)
    (hHandles : history.AllHandle env)
    {event : Event}
    (hEvent : event ∈ history.events)
    (hAccepted : history.Accepted env userid event) :
    ∃ online ∈ history.events,
      online.ticket = event.ticket ∧
        online.SetsOnline userid := by
  rcases hAccepted with
    ⟨hSucceeds, query, hQuery, hTicket, hAsks⟩
  rcases (Event.asked_eq_some_iff env).mp hAsks with
    ⟨asked, found, hAnswered, hFound⟩
  have hOp : query.op = .queryUserByName asked :=
    congrArg Sigma.fst hAnswered
  have hLogin : ¬ query.op.LogsNobodyIn := by
    rw [hOp]
    exact fun hNobody => hNobody
  rcases login_of_event hTraced hHandles hQuery hLogin with
    ⟨name, password, user, conn, rest, final, hSteps, hRest⟩
  rw [hTicket] at hSteps
  have hAlways :=
    (Process.allowed_of_trace hRest
      (ChatService.always_afterQuery conn password user)).1
  have hUser : user = found := by
    have hStep :
        query.answered env ∈
          history.stepsOf env event.ticket :=
      mem_stepsOf_iff.mpr ⟨query, hQuery, hTicket, rfl⟩
    rw [hSteps, hAnswered] at hStep
    rcases List.mem_cons.mp hStep with hFirst | hLater
    · rcases Sigma.mk.inj_iff.mp hFirst with ⟨_, hSame⟩
      exact (eq_of_heq hSame).symm
    · exact (hAlways _ hLater).elim
  have hSend :
      event.answered env ∈
        history.stepsOf env event.ticket :=
    mem_stepsOf_iff.mpr ⟨event, hEvent, rfl, rfl⟩
  rw [hSteps] at hSend
  have hLater : event.answered env ∈ rest := by
    rcases List.mem_cons.mp hSend with hFirst | hLater
    · have hSame : event.op = .queryUserByName name :=
        congrArg Sigma.fst hFirst
      rw [hSame] at hSucceeds
      exact hSucceeds.elim
    · exact hLater
  rcases Process.precedes_trace hRest
      (ChatService.precedes_afterQuery hParse conn password
        user)
      ⟨_, hLater, hSucceeds⟩ with
    ⟨step, hStep, hOnline⟩
  have hMember :
      step ∈ history.stepsOf env event.ticket := by
    rw [hSteps]
    exact List.mem_cons_of_mem _ hStep
  rcases mem_stepsOf_iff.mp hMember with
    ⟨online, hMade, hSame, hStepOf⟩
  refine ⟨online, hMade, hSame, ?_⟩
  have hOnlineOp : online.op = step.1 :=
    congrArg Sigma.fst hStepOf
  unfold Event.SetsOnline
  rw [hOnlineOp, hOnline, hUser, hFound]

end Records

------------------------------------------------------------
-- The Invariant
------------------------------------------------------------

/-
  Since the user was last set offline, at most one login has
  set the user online, and the user still is.  No other login
  that has ever done so is still in progress.
-/
structure OneLogin
    (userid : Int)
    (history : History) : Prop where
  has :
    ∀ event ∈ history.events,
      event.before.db.users.Has userid →
        history.world.cluster.db.users.Has userid
  online :
    ∀ event ∈ history.epoch userid,
      event.SetsOnline userid →
        (history.world.cluster.db.users.query
          userid).state = .online
  same :
    ∀ first ∈ history.epoch userid,
      ∀ second ∈ history.epoch userid,
        first.SetsOnline userid →
          second.SetsOnline userid →
            first.ticket = second.ticket
  pending :
    ∀ ticket ∈ history.inProgress,
      ∀ event ∈ history.events,
        event.ticket = ticket →
          event.SetsOnline userid →
            event ∈ history.epoch userid
  answered :
    ∀ event ∈ history.epoch userid,
      event.op.Succeeds env.codec →
        ∀ online ∈ history.events,
          online.ticket = event.ticket →
            online.SetsOnline userid →
              online ∈ history.epoch userid

variable {env} {observer : Observer} {userid : Int}
variable {before after : History}

/- Steps without an operation. -/
theorem OneLogin.quiet
    (hBefore : before.OneLogin env userid)
    (hTraced : before.Traced env)
    (hEvents : after.events = before.events)
    (hDb : after.world.cluster.db = before.world.cluster.db)
    (hProgress :
      ∀ ticket ∈ after.inProgress,
        ticket ∈ before.inProgress ∨
          ticket = before.started.length) :
    after.OneLogin env userid := by
  have hEpoch : after.epoch userid = before.epoch userid := by
    unfold epoch
    rw [hEvents]
  constructor
  · rw [hEvents, hDb]
    exact hBefore.has
  · rw [hEpoch, hDb]
    exact hBefore.online
  · rw [hEpoch]
    exact hBefore.same
  · rw [hEvents, hEpoch]
    intro ticket hTicket event hEvent hSame hOnline
    rcases hProgress ticket hTicket with hOld | hNew
    · exact
        hBefore.pending ticket hOld event hEvent hSame hOnline
    · rcases hTraced.nodes event hEvent with
        ⟨origin, hOrigin, _⟩
      have hBound := (List.getElem?_eq_some_iff.mp hOrigin).1
      omega
  · rw [hEpoch, hEvents]
    exact hBefore.answered

/- What happened in the epoch happened. -/
theorem mem_events_of_epoch
    {event : Event}
    (hMember : event ∈ before.epoch userid) :
    event ∈ before.events := by
  unfold epoch at hMember
  have hSuffix :
      ∀ (events since : List Event),
        event ∈
            events.foldl
              (fun since event =>
                if event.SetsOffline userid then
                  []
                else
                  since ++ [event]) since →
          event ∈ since ∨ event ∈ events := by
    intro events
    induction events with
    | nil => exact fun since hSince => Or.inl hSince
    | cons head tail ih =>
        intro since hFold
        rcases ih _ hFold with hSince | hTail
        · dsimp only at hSince
          split at hSince
          · simp at hSince
          · rcases List.mem_append.mp hSince with hOld | hNew
            · exact Or.inl hOld
            · rw [List.mem_singleton.mp hNew]
              exact Or.inr List.mem_cons_self
        · exact Or.inr (List.mem_cons_of_mem _ hTail)
  simpa using hSuffix before.events [] hMember

/- The epoch after one more operation. -/
theorem epoch_of_events
    {event : Event}
    (hEvents : after.events = before.events ++ [event]) :
    after.epoch userid =
      if event.SetsOffline userid then
        []
      else
        before.epoch userid ++ [event] := by
  unfold epoch
  rw [hEvents, List.foldl_append]
  rfl

/- An operation of a handler in progress. -/
theorem OneLogin.extend
    (hBefore : before.OneLogin env userid)
    {event : Event}
    (hEvents : after.events = before.events ++ [event])
    (hFound : event.before = before.world.cluster)
    (hLeft : after.world.cluster = event.after env)
    (hTicket : event.ticket ∈ before.inProgress)
    (hProgress :
      ∀ ticket ∈ after.inProgress,
        ticket ∈ before.inProgress)
    (hTraced : after.Traced env)
    (hHandles : after.AllHandle env)
    (hOnline :
      event.SetsOnline userid →
        (before.world.cluster.db.users.query
          userid).state = .offline)
    (hOffline :
      event.SetsOffline userid →
        ∀ ticket ∈ before.inProgress,
          ∀ other ∈ before.events,
            other.ticket = ticket →
              ¬ other.SetsOnline userid) :
    after.OneLogin env userid := by
  have hKnown :
      before.world.cluster.db.users.Has userid →
        after.world.cluster.db.users.Has userid := by
    intro hHas
    rw [hLeft, Event.after, hFound]
    exact Cluster.has_answer env _ _ hHas
  have hHas :
      ∀ other ∈ before.events,
        other.before.db.users.Has userid →
          before.world.cluster.db.users.Has userid :=
    hBefore.has
  -- whoever is set online was found in the table
  have hMade :
      ∀ other ∈ after.events,
        other.SetsOnline userid →
          before.world.cluster.db.users.Has userid := by
    intro other hOther hSets
    rcases asked_of_setsOnline hTraced hHandles hOther hSets
      with ⟨hReal, query, hQuery, _, hAsks⟩
    have hRow := Event.has_of_asked env hAsks hReal
    rw [hEvents] at hQuery
    rcases List.mem_append.mp hQuery with hOld | hNew
    · exact hHas query hOld hRow
    · rw [List.mem_singleton.mp hNew, hFound] at hRow
      exact hRow
  have hStays :
      ∀ other ∈ after.events,
        other.before.db.users.Has userid →
          after.world.cluster.db.users.Has userid := by
    intro other hOther hRow
    rw [hEvents] at hOther
    rcases List.mem_append.mp hOther with hOld | hNew
    · exact hKnown (hHas other hOld hRow)
    · rw [List.mem_singleton.mp hNew, hFound] at hRow
      exact hKnown hRow
  have hEpoch : after.epoch userid = _ :=
    epoch_of_events hEvents
  by_cases hSets : event.SetsOffline userid
  · rw [if_pos hSets] at hEpoch
    constructor
    · exact hStays
    · simp [hEpoch]
    · simp [hEpoch]
    · intro ticket hHeld other hOther hSame hMakes
      rw [hEvents] at hOther
      rcases List.mem_append.mp hOther with hOld | hNew
      · exact
          absurd hMakes
            (hOffline hSets ticket (hProgress ticket hHeld)
              other hOld hSame)
      · rw [List.mem_singleton.mp hNew] at hMakes
        rcases hSets with hDown | hReset
        · simp [hDown, Event.SetsOnline] at hMakes
        · simp [hReset, Event.SetsOnline] at hMakes
    · simp [hEpoch]
  · rw [if_neg hSets] at hEpoch
    have hNobody :
        event.SetsOnline userid →
          ∀ other ∈ before.epoch userid,
            ¬ other.SetsOnline userid := by
      intro hMakes other hOther hEarlier
      have hWas := hBefore.online other hOther hEarlier
      rw [hOnline hMakes] at hWas
      simp at hWas
    constructor
    · exact hStays
    · intro other hOther hMakes
      have hMember : other ∈ after.events := by
        rw [hEvents]
        rw [hEpoch] at hOther
        rcases List.mem_append.mp hOther with hOld | hNew
        · exact
            List.mem_append_left _ (mem_events_of_epoch hOld)
        · exact List.mem_append_right _ hNew
      have hRow := hMade other hMember hMakes
      rw [hLeft, Event.after, hFound]
      by_cases hNow : event.SetsOnline userid
      · rw [show event.op = _ from hNow]
        have hState :=
          UserTable.state_updateState
            before.world.cluster.db.users userid userid
            .online hRow
        rw [if_pos rfl] at hState
        exact hState
      · rw [Cluster.state_answer env _ hRow]
        · rw [hEpoch] at hOther
          rcases List.mem_append.mp hOther with hOld | hNew
          · exact hBefore.online other hOld hMakes
          · rw [List.mem_singleton.mp hNew] at hMakes
            exact absurd hMakes hNow
        · intro state hOp
          cases state with
          | online => exact hNow hOp
          | offline => exact hSets (Or.inl hOp)
        · exact fun hOp => hSets (Or.inr hOp)
    · rw [hEpoch]
      intro first hFirst second hSecond hMakes hAlso
      rcases List.mem_append.mp hFirst with hOld | hNew
      · rcases List.mem_append.mp hSecond with hToo | hNow
        · exact
            hBefore.same first hOld second hToo hMakes hAlso
        · rw [List.mem_singleton.mp hNow] at hAlso
          exact absurd hMakes (hNobody hAlso first hOld)
      · rw [List.mem_singleton.mp hNew] at hMakes ⊢
        rcases List.mem_append.mp hSecond with hToo | hNow
        · exact absurd hAlso (hNobody hMakes second hToo)
        · rw [List.mem_singleton.mp hNow]
    · rw [hEpoch, hEvents]
      intro ticket hHeld other hOther hSame hMakes
      rcases List.mem_append.mp hOther with hOld | hNew
      · exact
          List.mem_append_left _
            (hBefore.pending ticket (hProgress ticket hHeld)
              other hOld hSame hMakes)
      · exact List.mem_append_right _ hNew
    · rw [hEpoch, hEvents]
      intro sender hSender hSucceeds other hOther hSame hMakes
      rcases List.mem_append.mp hOther with hOld | hNew
      · refine List.mem_append_left _ ?_
        rcases List.mem_append.mp hSender with hThen | hNow
        · exact
            hBefore.answered sender hThen hSucceeds other
              hOld hSame hMakes
        · rw [List.mem_singleton.mp hNow] at hSame
          exact
            hBefore.pending _ hTicket other hOld hSame hMakes
      · exact List.mem_append_right _ hNew

/- Every step keeps the invariant. -/
theorem oneLogin_step
    {label : Label}
    (hBefore : before.OneLogin env userid)
    (hTraced : before.Traced env)
    (hHandles : before.AllHandle env)
    (hExclusive : before.Exclusive userid label)
    (hStep :
      before.step env observer label = some after) :
    after.OneLogin env userid := by
  have hTracedAfter := traced_step hTraced hStep
  have hHandlesAfter :=
    handles_step hTraced.aligned hHandles hStep
  cases advance_of_step hTraced.aligned hStep with
  | spawn spawns =>
      exact
        hBefore.quiet hTraced rfl (db_of_spawns spawns)
          fun _ => inProgress_spawn hTraced.aligned
  | pass passes =>
      exact
        hBefore.quiet hTraced rfl (db_of_passes passes)
          fun _ hTicket => Or.inl hTicket
  | @perform index ticket thread op next running held due =>
      have hEntry :=
        hExclusive _ (World.performs_of_due running due)
      exact
        hBefore.extend rfl rfl rfl
          (performer_inProgress running held due)
          (fun _ hHeld =>
            inProgress_perform running due hHeld)
          hTracedAfter hHandlesAfter hEntry.1 hEntry.2
  | finish index running held done =>
      exact
        hBefore.quiet hTraced rfl rfl
          fun _ hTicket => Or.inl (inProgress_finish hTicket)

/-
  Between two moments at which a user is set offline, at most
  one of the user's login requests is answered with `errno`
  0, in every run in which the logins exclude each other.
-/
theorem logged_in_once
    (hParse : ChatService.RefusalsParse env)
    {start : World}
    (hStart : start.threads = [])
    {final : History}
    {labels : List Label}
    (hRun :
      Transition.Run (step env observer)
        (Exclusive userid) (begin start) labels final) :
    final.LoggedInOnce env userid := by
  have hFinal :=
    hRun.invariant
      (fun history =>
        history.OneLogin env userid ∧
          history.Traced env ∧ history.AllHandle env)
      (fun _ _ _ hBefore hExclusive hStep =>
        ⟨oneLogin_step hBefore.1 hBefore.2.1 hBefore.2.2
            hExclusive hStep,
          traced_step hBefore.2.1 hStep,
          handles_step hBefore.2.1.aligned hBefore.2.2
            hStep⟩)
      ⟨⟨by simp [begin], by simp [begin, epoch],
          by simp [begin, epoch], by simp [begin],
          by simp [begin]⟩,
        traced_begin start,
        by simp [AllHandle, begin, hStart]⟩
  rcases hFinal with ⟨hOne, hTraced, hHandles⟩
  intro first hFirst second hSecond hAccepted hAlso
  rcases setsOnline_of_accepted hParse hTraced hHandles
      (mem_events_of_epoch hFirst) hAccepted with
    ⟨made, hMade, hMadeTicket, hMakes⟩
  rcases setsOnline_of_accepted hParse hTraced hHandles
      (mem_events_of_epoch hSecond) hAlso with
    ⟨other, hOther, hOtherTicket, hMakesToo⟩
  have hSame :=
    hOne.same made
      (hOne.answered first hFirst hAccepted.1 made hMade
        hMadeTicket hMakes)
      other
      (hOne.answered second hSecond hAlso.1 other hOther
        hOtherTicket hMakesToo)
      hMakes hMakesToo
  rw [← hMadeTicket, hSame, hOtherTicket]

------------------------------------------------------------
-- Two Logins at Once
------------------------------------------------------------

/- A login frame of user 1, and all the answers to it. -/
def loginTable : List Json :=
  [.object (sampleLogin "ann"),
    .object
      (ChatService.loginRefused 1 "用户名或密码错误"),
    .object
      (ChatService.loginRefused 2
        "该账号已经登录，不能重复登录"),
    .object (ChatService.loginAccepted 1 "ann")]

def loginExternals : Externals := sampleExternals loginTable

theorem loginTable_parses :
    ChatService.RefusalsParse loginExternals := by
  have hTexts : (loginTable.map Json.text).Nodup := by
    decide +kernel
  constructor
  · exact
      JsonCodec.roundTrips_ofTable hTexts
        (by simp [loginTable])
  · exact
      JsonCodec.roundTrips_ofTable hTexts
        (by simp [loginTable])

def offlineStart : World where
  cluster := sampleCluster []
  threads := []
  log := []

/- User 1 sends the right password on a connection. -/
def loginOn (conn : ConnId) : Label :=
  .frame conn (Json.object (sampleLogin "ann")).text
    sampleReadings

/- The second request comes when the first one is answered. -/
def oneAfterTheOther : List Label :=
  loginOn 5 :: List.replicate 9 (.run 0) ++
    loginOn 6 :: List.replicate 3 (.run 0)

/- Both requests read the state before one of them sets it. -/
def bothAtOnce : List Label :=
  [loginOn 5, loginOn 6, .run 0, .run 1] ++
    List.replicate 7 (.run 0) ++ List.replicate 7 (.run 1)

theorem oneAfterTheOther_once :
    ∃ final,
      Transition.Run (step loginExternals Redis.observe)
          (Exclusive 1) (begin offlineStart)
          oneAfterTheOther final ∧
        final.LoggedInOnce loginExternals 1 := by
  have hRun :=
    Transition.exists_run_of_execute
      (step loginExternals Redis.observe) (Exclusive 1)
      (fun _ => True)
      (show
        ∃ final ∈
          Transition.execute
            (step loginExternals Redis.observe)
            (Exclusive 1) (begin offlineStart)
            oneAfterTheOther,
          True by decide +kernel)
  rcases hRun with ⟨final, hRun, _⟩
  exact
    ⟨final, hRun,
      logged_in_once loginTable_parses rfl hRun⟩

/- Both requests are answered with `errno` 0. -/
theorem bothAtOnce_twice :
    ∃ final,
      Transition.Run (step loginExternals Redis.observe)
          (fun _ _ => True) (begin offlineStart) bothAtOnce
          final ∧
        ¬ final.LoggedInOnce loginExternals 1 :=
  Transition.exists_run_of_execute
    (step loginExternals Redis.observe) (fun _ _ => True)
    (fun final => ¬ final.LoggedInOnce loginExternals 1)
    (show
      ∃ final ∈
        Transition.execute
          (step loginExternals Redis.observe)
          (fun _ _ => True) (begin offlineStart) bothAtOnce,
        ¬ final.LoggedInOnce loginExternals 1
      by decide +kernel)

end History

end ClusterChat
