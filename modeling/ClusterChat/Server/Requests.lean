import ClusterChat.Server.Directory
import ClusterChat.Server.HandlerOps
import ClusterChat.Server.History

/-
  What the frames ask of the directory.

  The frames of four types ask for something.  The handler of
  such a frame performs one statement for it, and no other
  handler changes the directory.  So in every run, however
  the handlers interleave, each request is recorded once.

  Main declarations:
    * `ChatServer.requestOf`
    * `ChatServer.performs_onMessage`
    * `World.requests_recorded`
    * `World.tables_stay_consistent`
-/

------------------------------------------------------------
-- Requests
------------------------------------------------------------

namespace ClusterChat

namespace ChatService

/- What the handler for a message type asks for, unless it
cannot read a field. -/
def requestOf
    (env : Externals)
    (msgid : Int)
    (js : JsonObject)
    (readings : Readings) : Option Request :=
  if msgid = EnMsgType.regMsg.code then do
    let name ← (js.field "name").getString.toOption
    let password ← (js.field "password").getString.toOption
    return .register name
      (crypto.hashPassword env.sha256 readings.salt
        (utf8 password))
      readings.salt
  else if msgid = EnMsgType.addFriendMsg.code then do
    let userid ← (js.field "id").getInt.toOption
    let friendid ← (js.field "friendid").getInt.toOption
    return .befriend userid friendid
  else if msgid = EnMsgType.createGroupMsg.code then do
    let userid ← (js.field "id").getInt.toOption
    let groupname ← (js.field "groupname").getString.toOption
    let groupdesc ← (js.field "groupdesc").getString.toOption
    return .found groupname groupdesc userid
  else if msgid = EnMsgType.addGroupMsg.code then do
    let userid ← (js.field "id").getInt.toOption
    let groupid ← (js.field "groupid").getInt.toOption
    return .join groupid userid
  else
    none

end ChatService

/- What a frame asks for. -/
def ChatServer.requestOf
    (env : Externals)
    (body : String)
    (readings : Readings) : Option Request :=
  match env.codec.parse body with
  | some (.object fields) =>
      let msgid := JsonObject.field fields "msgid"
      if msgid.isNumberInteger then do
        let msgid ← msgid.getInt.toOption
        ChatService.requestOf env msgid fields readings
      else
        none
  | _ => none

/- What a step of the cluster asks for: only the arrival of a
frame does. -/
def Label.request?
    (env : Externals) : Label → Option Request
| .frame _ body readings =>
    ChatServer.requestOf env body readings
| _ => none

------------------------------------------------------------
-- Handlers
------------------------------------------------------------

namespace ChatService

variable (env : Externals)

/- The handler leaves the directory alone. -/
abbrev AsksNothing (handler : Handler Unit) : Prop :=
  handler.Always fun op => op.request? = none

theorem asksNothing_login
    (conn : ConnId)
    (js : JsonObject) :
    AsksNothing (login env conn js) := by
  apply always_orThrow
  intro name
  apply always_orThrow
  intro password
  refine always_ask ?query fun (user : User) => ?answer
  case query => rfl
  case answer =>
  split
  · split
    · exact ⟨rfl, fun _ => trivial⟩
    · refine ⟨rfl, fun _ => ⟨rfl, fun _ => ⟨rfl, fun _ => ?_⟩⟩⟩
      exact
        always_answerLogin env rfl rfl rfl rfl (fun _ => rfl)
          fun _ => rfl
  · exact ⟨rfl, fun _ => trivial⟩

theorem asksNothing_loginout (js : JsonObject) :
    AsksNothing (loginout js) := by
  apply always_orThrow
  exact fun _ =>
    ⟨rfl, fun _ => ⟨rfl, fun _ => ⟨rfl, fun _ => trivial⟩⟩⟩

theorem asksNothing_onechat
    (js : JsonObject)
    (readings : Readings) :
    AsksNothing (onechat env js readings) := by
  apply always_orThrow
  intro fromid
  apply always_orThrow
  intro toid
  exact ⟨rfl, fun _ => always_routeOne rfl rfl rfl rfl⟩

theorem asksNothing_groupchat
    (js : JsonObject)
    (readings : Readings) :
    AsksNothing (groupchat env js readings) := by
  apply always_orThrow
  intro userid
  apply always_orThrow
  intro groupid
  refine ⟨rfl, fun _ => ⟨rfl, fun users => ?_⟩⟩
  exact
    always_routeGroup (fun _ => rfl) (fun _ => rfl)
      (fun _ => rfl) (fun _ => rfl) (fun _ => rfl) users

theorem asksNothing_onConnection (conn : ConnId) :
    AsksNothing (ChatServer.onConnection conn) :=
  always_onConnection rfl (fun _ => rfl) (fun _ => rfl)
    (fun _ => rfl) rfl

theorem asksNothing_handleredissubscribemessage
    (userid : Int)
    (msg : String) :
    AsksNothing (handleredissubscribemessage userid msg) := by
  unfold handleredissubscribemessage
  refine always_ask ?find fun target => ?rest
  case find => rfl
  case rest =>
  split <;> exact ⟨rfl, fun _ => trivial⟩

/- The handler performs one statement for what it asks for,
and whoever joins a group becomes a normal member. -/
structure Performs
    (handler : Handler Unit)
    (request : Option Request) : Prop where
  writes :
    handler.Writes ServerOp.request? request.toList
  normal : handler.Always ServerOp.JoinsAsNormal

theorem AsksNothing.performs
    {handler : Handler Unit}
    (hHandler : AsksNothing handler) :
    Performs handler none where
  writes := Process.writes_nothing hHandler
  normal := by
    refine Process.Always.mono hHandler ?_
    intro op hNone
    cases op with
    | addGroup userid groupid role => cases hNone
    | _ => trivial

/- A field that cannot be read ends the handler. -/
theorem performs_orThrow
    {α : Type}
    {value : Except JsonException α}
    {rest : α → Handler Unit}
    {request : α → Option Request}
    (hRest : ∀ value, Performs (rest value) (request value)) :
    Performs (orThrow value >>= rest)
      (value.toOption.bind request) := by
  cases value with
  | error error => exact ⟨rfl, trivial⟩
  | ok value => exact hRest value

/- One statement, and then nothing for the directory. -/
theorem performs_ask
    {op : ServerOp}
    {rest : op.Res → Handler Unit}
    {request : Request}
    (hRequest : op.request? = some request)
    (hNormal : op.JoinsAsNormal)
    (hRest : ∀ answer, AsksNothing (rest answer)) :
    Performs (ask op >>= rest) (some request) where
  writes := Process.writes_once hRequest hRest
  normal :=
    ⟨hNormal, fun answer => (hRest answer).performs.normal⟩

theorem performs_reg
    (conn : ConnId)
    (js : JsonObject)
    (readings : Readings) :
    Performs (reg env conn js readings)
      (requestOf env EnMsgType.regMsg.code js readings) := by
  apply performs_orThrow
  intro name
  apply performs_orThrow
  intro password
  exact
    performs_ask rfl trivial fun _ =>
      ⟨rfl, fun _ => trivial⟩

theorem performs_addfriend
    (js : JsonObject)
    (readings : Readings) :
    Performs (addfriend js)
      (requestOf env EnMsgType.addFriendMsg.code js
        readings) := by
  apply performs_orThrow
  intro userid
  apply performs_orThrow
  intro friendid
  exact performs_ask rfl trivial fun _ => trivial

theorem performs_creategroup
    (js : JsonObject)
    (readings : Readings) :
    Performs (creategroup js)
      (requestOf env EnMsgType.createGroupMsg.code js
        readings) := by
  apply performs_orThrow
  intro userid
  apply performs_orThrow
  intro groupname
  apply performs_orThrow
  intro groupdesc
  exact performs_ask rfl trivial fun _ => trivial

theorem performs_addgroup
    (js : JsonObject)
    (readings : Readings) :
    Performs (addgroup js)
      (requestOf env EnMsgType.addGroupMsg.code js
        readings) := by
  apply performs_orThrow
  intro userid
  apply performs_orThrow
  intro groupid
  exact performs_ask rfl rfl fun _ => trivial

/- Every handler of a frame. -/
theorem performs_getHandler
    (msgid : Int)
    (conn : ConnId)
    (js : JsonObject)
    (readings : Readings) :
    Performs (getHandler env msgid conn js readings)
      (requestOf env msgid js readings) := by
  unfold getHandler
  split
  · rename_i hType
    rw [hType]
    exact (asksNothing_login env conn js).performs
  split
  · rename_i hType
    rw [hType]
    exact (asksNothing_loginout js).performs
  split
  · rename_i hType
    rw [hType]
    exact performs_reg env conn js readings
  rename_i hNotReg
  split
  · rename_i hType
    rw [hType]
    exact (asksNothing_onechat env js readings).performs
  split
  · rename_i hType
    rw [hType]
    exact performs_addfriend env js readings
  rename_i hNotFriend
  split
  · rename_i hType
    rw [hType]
    exact performs_creategroup env js readings
  rename_i hNotCreate
  split
  · rename_i hType
    rw [hType]
    exact performs_addgroup env js readings
  rename_i hNotAdd
  have hNothing : requestOf env msgid js readings = none := by
    unfold requestOf
    rw [if_neg hNotReg, if_neg hNotFriend,
      if_neg hNotCreate, if_neg hNotAdd]
  rw [hNothing]
  split
  · exact (asksNothing_groupchat env js readings).performs
  · exact ⟨rfl, trivial⟩

theorem Performs.guarded
    {handler : Handler Unit}
    {request : Option Request}
    (hPerforms : Performs handler request)
    (conn : ConnId) :
    Performs (ChatServer.guarded conn handler) request where
  writes :=
    Process.writes_tryCatch hPerforms.writes fun _ =>
      ⟨[], rfl, fun _ => rfl⟩
  normal :=
    Process.always_tryCatch hPerforms.normal fun _ =>
      ⟨trivial, fun _ => trivial⟩

end ChatService

open ChatService in
/- The handler of a frame performs what the frame asks for. -/
theorem ChatServer.performs_onMessage
    (env : Externals)
    (conn : ConnId)
    (body : String)
    (readings : Readings) :
    Performs (onMessage env conn body readings)
      (requestOf env body readings) := by
  unfold onMessage requestOf
  apply Performs.guarded
  cases env.codec.parse body with
  | none => exact ⟨rfl, trivial⟩
  | some js =>
  cases js with
  | object fields =>
      unfold dispatch
      dsimp only
      split
      · apply performs_orThrow
        intro msgid
        exact
          performs_getHandler env msgid conn fields readings
      · exact ⟨rfl, trivial⟩
  | _ => exact ⟨rfl, trivial⟩

------------------------------------------------------------
-- The Journal of a Run
------------------------------------------------------------

namespace History

variable {env : Externals} {observer : Observer}

/- What the operations have asked for, in their order. -/
def requests (history : History) : List Request :=
  history.events.filterMap fun event => event.op.request?

/- The tables represent the directory, and every handler that
is running is one of a node. -/
structure Represents
    (env : Externals)
    (history : History)
    (directory : Directory) : Prop where
  traced : history.Traced env
  normal :
    ∀ thread ∈ history.world.threads,
      thread.process.Always ServerOp.JoinsAsNormal
  tables : history.world.cluster.db.Represents directory

open ChatService in
theorem performs_of_spawns
    {before : World}
    {label : Label}
    {cluster : Cluster}
    {thread : Thread}
    (hSpawns :
      Spawns env observer before label cluster thread) :
    Performs thread.process (label.request? env) := by
  cases hSpawns with
  | frame conn body readings serving idle =>
      exact
        ChatServer.performs_onMessage env conn body readings
  | disconnect conn serving idle =>
      exact (asksNothing_onConnection conn).performs
  | @notify id reply rest userid msg idle found read =>
      exact
        (asksNothing_handleredissubscribemessage userid
          msg).performs

/- A step that starts no handler asks for nothing. -/
theorem request?_of_passes
    {before : World}
    {label : Label}
    {cluster : Cluster}
    (hPasses : Passes observer before label cluster) :
    label.request? env = none := by
  cases hPasses <;> rfl

/- Every step records what its operation asks for. -/
theorem keeps_requests :
    Journal.Keeps (step env observer) (fun _ _ => True)
      requests (Directory.record env.collate)
      (Represents env) := by
  intro before label after directory _ hStep hBefore
  have hTraced := traced_step hBefore.traced hStep
  cases advance_of_step hBefore.traced.aligned hStep with
  | @spawn _ cluster thread spawns =>
      refine
        ⟨[], (List.append_nil _).symm, hTraced, ?_, ?_⟩
      · intro other hOther
        rcases List.mem_append.mp hOther with hOld | hNew
        · exact hBefore.normal other hOld
        · rw [List.mem_singleton.mp hNew]
          exact (performs_of_spawns spawns).normal
      · have hDb : cluster.db = _ := db_of_spawns spawns
        exact hDb ▸ hBefore.tables
  | @pass _ cluster passes =>
      refine
        ⟨[], (List.append_nil _).symm, hTraced,
          hBefore.normal, ?_⟩
      have hDb : cluster.db = _ := db_of_passes passes
      exact hDb ▸ hBefore.tables
  | @perform index ticket thread op next running held due =>
      have hThread :=
        hBefore.normal thread (List.mem_of_getElem? running)
      rw [due] at hThread
      refine ⟨op.request?.toList, ?_, hTraced, ?_, ?_⟩
      · unfold requests perform
        dsimp only
        rw [List.filterMap_append]
        rfl
      · intro other hOther
        rcases World.mem_threads_perform hOther with
          hOld | hNew
        · exact hBefore.normal other hOld
        · rw [hNew]
          exact hThread.2 _
      · exact
          Database.represents_answer env thread.node hThread.1
            hBefore.tables
  | finish index running held done =>
      refine
        ⟨[], (List.append_nil _).symm, hTraced, ?_,
          hBefore.tables⟩
      intro other hOther
      exact
        hBefore.normal other (List.mem_of_mem_eraseIdx hOther)

/- The handlers that were started write what the frames have
asked for. -/
def Owes
    (env : Externals)
    (labels : List Label)
    (history : History) : Prop :=
  ∃ owed : Nat → List Request,
    (List.range history.started.length).flatMap owed =
        labels.filterMap (Label.request? env) ∧
      ∀ (ticket : Nat) (origin : Thread),
        history.started[ticket]? = some origin →
          origin.process.Writes ServerOp.request?
            (owed ticket)

theorem owes_begin
    {start : World}
    (hStart : start.threads = []) :
    (begin start).Owes env [] := by
  refine ⟨fun _ => [], ?_, ?_⟩
  · unfold begin
    rw [hStart]
    rfl
  · intro ticket origin hOrigin
    unfold begin at hOrigin
    rw [hStart] at hOrigin
    cases hOrigin

theorem Owes.spawn
    {labels : List Label}
    {label : Label}
    {before : History}
    (hBefore : before.Owes env labels)
    {cluster : Cluster}
    {thread : Thread}
    (hSpawns :
      Spawns env observer before.world label cluster
        thread) :
    (before.spawn cluster thread).Owes env
      (labels ++ [label]) := by
  rcases hBefore with ⟨owed, hOwed, hWrites⟩
  refine
    ⟨Function.update owed before.started.length
      (label.request? env).toList, ?_, ?_⟩
  · unfold History.spawn
    dsimp only
    rw [List.length_append, List.length_singleton,
      List.range_succ, List.flatMap_append,
      List.flatMap_singleton, Function.update_self,
      List.filterMap_append, ← hOwed]
    congr 1
    · apply List.flatMap_congr
      intro ticket hBound
      rw [List.mem_range] at hBound
      exact Function.update_of_ne hBound.ne _ _
  · intro ticket origin hOrigin
    unfold History.spawn at hOrigin
    dsimp only at hOrigin
    by_cases hBound : ticket < before.started.length
    · rw [List.getElem?_append_left hBound] at hOrigin
      rw [Function.update_of_ne hBound.ne]
      exact hWrites ticket origin hOrigin
    · have hIn := (List.getElem?_eq_some_iff.mp hOrigin).1
      rw [List.length_append, List.length_singleton] at hIn
      have hTicket : ticket = before.started.length := by
        omega
      rw [hTicket, List.getElem?_append_right (Nat.le_refl _),
        Nat.sub_self] at hOrigin
      rw [hTicket, Function.update_self,
        ← Option.some.inj hOrigin]
      exact (performs_of_spawns hSpawns).writes

theorem owes_run
    {start : World}
    (hStart : start.threads = [])
    {final : History}
    {labels : List Label}
    (hRun :
      Transition.Run (step env observer) (fun _ _ => True)
        (begin start) labels final) :
    final.Owes env labels ∧
      final.Traced env ∧ final.GoneDone env := by
  induction hRun with
  | nil =>
      exact
        ⟨owes_begin hStart, traced_begin start,
          goneDone_begin start⟩
  | @snoc labels label before after front met stepped ih =>
      rcases ih with ⟨hOwes, hTraced, hGone⟩
      refine
        ⟨?_, traced_step hTraced stepped,
          goneDone_step hTraced hGone stepped⟩
      have hSame :
          label.request? env = none →
            before.Owes env (labels ++ [label]) := by
        intro hNone
        unfold Owes
        rw [List.filterMap_append,
          List.filterMap_cons_none hNone]
        exact (List.append_nil _).symm ▸ hOwes
      cases advance_of_step hTraced.aligned stepped with
      | spawn spawns => exact hOwes.spawn spawns
      | pass passes => exact hSame (request?_of_passes passes)
      | perform index running held due => exact hSame rfl
      | finish index running held done => exact hSame rfl

/- When nothing is in progress, what was asked for is what
the frames have asked for. -/
theorem requests_perm
    {labels : List Label}
    {history : History}
    (hOwes : history.Owes env labels)
    (hTraced : history.Traced env)
    (hGone : history.GoneDone env)
    (hThrough : history.inProgress = []) :
    history.requests.Perm
      (labels.filterMap (Label.request? env)) := by
  rcases hOwes with ⟨owed, hOwed, hWrites⟩
  have hWriters :
      ∀ event ∈ history.events,
        event.ticket < history.started.length := by
    intro event hEvent
    rcases hTraced.nodes event hEvent with ⟨origin, hOrigin, _⟩
    exact (List.getElem?_eq_some_iff.mp hOrigin).1
  have hWritten :
      ∀ ticket ∈ List.range history.started.length,
        ((history.events.filter fun event =>
            event.ticket = ticket).filterMap fun event =>
              event.op.request?) =
          owed ticket := by
    intro ticket hTicket
    rw [List.mem_range] at hTicket
    have hOrigin := List.getElem?_eq_getElem hTicket
    have hDone : ticket ∉ history.inProgress := by
      rw [hThrough]
      exact List.not_mem_nil
    rcases hGone.ended hTraced hOrigin hDone with
      ⟨process, hTrace, hEnd⟩
    rcases Process.writes_trace hTrace
        (hWrites ticket _ hOrigin) with
      ⟨rest, hEntries, hRest⟩
    have hNone : rest = [] := by
      apply hRest.of_through
      intro op next hNext
      rw [hNext] at hEnd
      cases hEnd
    rw [hEntries, hNone, List.append_nil, stepsOf,
      List.filterMap_map]
    rfl
  unfold requests
  rw [← hOwed, ← List.flatMap_congr hWritten,
    ← List.filterMap_flatMap]
  exact
    (Journal.perm_by_writer Event.ticket hWriters).filterMap _

end History

namespace World

variable {env : Externals} {observer : Observer}
variable {start final : World} {labels : List Label}
variable {directory : Directory}

/-
  Whatever the order of the operations is: when no handler is
  in progress, the tables represent the directory in which
  the requests of all the frames were recorded, each of them
  once, in some order.
-/
theorem requests_recorded
    (hStart : start.threads = [])
    (hTables : start.cluster.db.Represents directory)
    (hRun :
      Transition.Run (step env observer) (fun _ _ => True)
        start labels final)
    (hThrough :
      ∀ thread ∈ final.threads,
        nextOp thread.process = none) :
    ∃ recorded : List Request,
      recorded.Perm (labels.filterMap (Label.request? env)) ∧
        final.cluster.db.Represents
          (Journal.replay (Directory.record env.collate)
            directory recorded) := by
  rcases History.exists_run hRun with
    ⟨history, hHistory, rfl⟩
  rcases History.owes_run hStart hHistory with
    ⟨hOwes, hTraced, hGone⟩
  have hBegin :
      (History.begin start).Represents env directory :=
    ⟨History.traced_begin start, by simp [History.begin, hStart],
      hTables⟩
  rcases History.keeps_requests.run hHistory hBegin with
    ⟨recorded, hJournal, hFinal⟩
  have hNone : history.inProgress = [] := by
    rw [List.eq_nil_iff_forall_not_mem]
    intro ticket hTicket
    rcases History.mem_inProgress_iff.mp hTicket with
      ⟨index, thread, hThread, _, hNext⟩
    rw [hThrough thread (List.mem_of_getElem? hThread)]
      at hNext
    cases hNext
  have hRequests : history.requests = recorded := hJournal
  refine ⟨recorded, ?_, hFinal.tables⟩
  rw [← hRequests]
  exact History.requests_perm hOwes hTraced hGone hNone

/- At any time, the tables are consistent, and everything
that was recorded is still there. -/
theorem tables_stay_consistent
    (hStart : start.threads = [])
    (hTables : start.cluster.db.Represents directory)
    (hSound : directory.Sound env.collate)
    (hRun :
      Transition.Run (step env observer) (fun _ _ => True)
        start labels final) :
    final.cluster.db.Consistent env.collate ∧
      start.cluster.db.users.rows.map User.account <+:
          final.cluster.db.users.rows.map User.account ∧
        start.cluster.db.friends <+:
            final.cluster.db.friends ∧
          start.cluster.db.groups <+:
            final.cluster.db.groups := by
  rcases History.exists_run hRun with
    ⟨history, hHistory, rfl⟩
  have hBegin :
      (History.begin start).Represents env directory :=
    ⟨History.traced_begin start, by simp [History.begin, hStart],
      hTables⟩
  rcases History.keeps_requests.run hHistory hBegin with
    ⟨recorded, _, hFinal⟩
  rcases Directory.replay_keeps hSound recorded with
    ⟨hLater, hExtends⟩
  refine ⟨hFinal.tables.consistent hLater, ?_, ?_, ?_⟩
  · rw [hTables.accounts, hFinal.tables.accounts]
    exact hExtends.accounts
  · rw [hTables.friends, hFinal.tables.friends]
    exact hExtends.friends
  · rw [hTables.groups, hFinal.tables.groups]
    exact hExtends.groups.map _

------------------------------------------------------------
-- Two Requests at the Same Time
------------------------------------------------------------

/- User 1 adds user 2 as a friend. -/
def friendFrame : JsonObject :=
  [("friendid", .unsigned 2), ("id", .unsigned 1),
    ("msgid", .unsigned EnMsgType.addFriendMsg.code)]

/- User 2 founds a group. -/
def groupFrame : JsonObject :=
  [("groupdesc", .string "all of them"),
    ("groupname", .string "cats"), ("id", .unsigned 2),
    ("msgid", .unsigned EnMsgType.createGroupMsg.code)]

def requestExternals : Externals :=
  sampleExternals [.object friendFrame, .object groupFrame]

def requestStart : World where
  cluster := sampleCluster []
  threads := []
  log := []

/- The second frame is handled first. -/
def bothRequests : List Label :=
  [.frame 5 (Json.object friendFrame).text sampleReadings,
    .frame 6 (Json.object groupFrame).text sampleReadings,
    .run 1, .run 0, .run 0, .run 0]

/- What the tables of the two accounts represent. -/
def sampleDirectory : Directory where
  accounts := sampleUsers.rows.map User.account
  nextAccount := 3

theorem sampleDatabase_represents
    (offline : List OfflineRow) :
    (sampleDatabase offline).Represents sampleDirectory where
  accounts := rfl
  nextAccount := rfl
  friends := rfl
  groups := rfl
  nextGroup := rfl
  creators := rfl
  joined := rfl

theorem sampleDirectory_sound :
    sampleDirectory.Sound requestExternals.collate where
  names := by decide
  groupIds := List.nodup_nil
  groupsBelow := List.forall_mem_nil _

/- Both are through, and the tables have a friend and a
group. -/
def HasBoth (world : World) : Prop :=
  world.threads.length = 0 ∧
    world.cluster.db.friends = [(1, 2)] ∧
      world.cluster.db.groups.length = 1

instance : DecidablePred HasBoth := fun world =>
  inferInstanceAs
    (Decidable
      (world.threads.length = 0 ∧
        world.cluster.db.friends = [(1, 2)] ∧
          world.cluster.db.groups.length = 1))

theorem exists_bothRequests :
    ∃ final,
      Transition.Run (step requestExternals Redis.observe)
          (fun _ _ => True) requestStart bothRequests final ∧
        HasBoth final :=
  Transition.exists_run_of_execute
    (step requestExternals Redis.observe) (fun _ _ => True)
    HasBoth
    (show
      ∃ final ∈
        Transition.execute
          (step requestExternals Redis.observe)
          (fun _ _ => True) requestStart bothRequests,
        HasBoth final by decide +kernel)

theorem bothRequests_recorded :
    ∃ final,
      HasBoth final ∧
        ∃ recorded : List Request,
          recorded.Perm
              (bothRequests.filterMap
                (Label.request? requestExternals)) ∧
            final.cluster.db.Represents
              (Journal.replay
                (Directory.record requestExternals.collate)
                sampleDirectory recorded) := by
  rcases exists_bothRequests with ⟨final, hRun, hBoth⟩
  have hNone := List.eq_nil_of_length_eq_zero hBoth.1
  have hThrough :
      ∀ thread ∈ final.threads,
        nextOp thread.process = none := by
    rw [hNone]
    exact List.forall_mem_nil _
  exact
    ⟨final, hBoth,
      requests_recorded rfl (sampleDatabase_represents [])
        hRun hThrough⟩

theorem bothRequests_consistent :
    ∃ final,
      HasBoth final ∧
        final.cluster.db.Consistent
            requestExternals.collate ∧
          requestStart.cluster.db.users.rows.map
                User.account <+:
              final.cluster.db.users.rows.map
                User.account ∧
            requestStart.cluster.db.friends <+:
                final.cluster.db.friends ∧
              requestStart.cluster.db.groups <+:
                final.cluster.db.groups := by
  rcases exists_bothRequests with ⟨final, hRun, hBoth⟩
  exact
    ⟨final, hBoth,
      tables_stay_consistent rfl
        (sampleDatabase_represents []) sampleDirectory_sound
        hRun⟩

end World

end ClusterChat
