import ClusterChat.Server.LoginSteps
import ClusterChat.Server.OfflineSort
import ClusterChat.Server.Rejection

/-
  How the rows of a query reach the server, translated from
  `Connection::executeQuery`, and what a login makes of it.

  Every column is fetched into a buffer of fixed size.  The
  loop ends at the first row with a longer column, and the
  query succeeds with the rows before it.  Of the columns of
  the schema only the stored messages can be longer than the
  buffer.

  Main declarations:
    * `Connection.executeQuery`
    * `OfflineMessageModel.fetch` and `fetch_eq`
    * `Cluster.answerFetched`
    * `LoginFrame` and `LoginFrame.HandsOver`
    * `login_hands_over_iff`
-/

------------------------------------------------------------
-- Fetching
------------------------------------------------------------

namespace ClusterChat

/- A column of a result: null or a text. -/
abbrev Column := Option String

namespace Column

/- The string that a column becomes. -/
def text (column : Column) : String :=
  column.getD ""

/- The column is not longer than the buffer. -/
def fits (bufferLength : Nat) (column : Column) : Bool :=
  decide (column.text.utf8ByteSize ≤ bufferLength)

end Column

/- So are all columns of the row. -/
def rowFits
    (bufferLength : Nat)
    (row : List Column) : Bool :=
  row.all (Column.fits bufferLength)

/- What `mysql_stmt_fetch` returns: 0, `MYSQL_NO_DATA`, or
`MYSQL_DATA_TRUNCATED`. -/
inductive FetchStatus where
| row
| noData
| truncated
deriving DecidableEq, Repr

/- `mysql_stmt_fetch` with the rows that are left. -/
def mysqlStmtFetch (bufferLength : Nat) :
    List (List Column) → FetchStatus
| [] => .noData
| row :: _ =>
    if rowFits bufferLength row then
      .row
    else
      .truncated

theorem mysqlStmtFetch_eq_row_iff
    {bufferLength : Nat}
    {row : List Column}
    {rows : List (List Column)} :
    mysqlStmtFetch bufferLength (row :: rows) = .row ↔
      rowFits bufferLength row = true := by
  unfold mysqlStmtFetch
  dsimp only
  split <;> simp_all

/- How a prepared query ends before its rows are fetched. -/
inductive Execution where
| failed
| noResult
| result (rows : List (List Column))

namespace Connection

def kBuf : Nat := 4096

/- The loop of `executeQuery`. -/
def fetchRows : List (List Column) → List (List String)
| [] => []
| row :: rows =>
    if mysqlStmtFetch kBuf (row :: rows) = .row then
      row.map Column.text :: fetchRows rows
    else
      []

/- `executeQuery`: its result and `out`. -/
def executeQuery : Execution → Bool × List (List String)
| .failed => (false, [])
| .noResult => (true, [])
| .result rows => (true, fetchRows rows)

/- The rows before the first one that does not fit. -/
theorem fetchRows_eq (rows : List (List Column)) :
    fetchRows rows =
      (rows.takeWhile (rowFits kBuf)).map fun row =>
        row.map Column.text := by
  induction rows with
  | nil => rfl
  | cons row rows ih =>
      unfold fetchRows
      by_cases hFits : rowFits kBuf row = true
      · rw [if_pos (mysqlStmtFetch_eq_row_iff.mpr hFits),
          List.takeWhile_cons_of_pos hFits, List.map_cons, ih]
      · rw [if_neg (mt mysqlStmtFetch_eq_row_iff.mp hFits),
          List.takeWhile_cons_of_neg hFits]
        rfl

/- A query that succeeds has all rows exactly when every
column fits. -/
theorem executeQuery_complete_iff
    (rows : List (List Column)) :
    executeQuery (.result rows) =
        (true, rows.map fun row => row.map Column.text) ↔
      ∀ row ∈ rows, ∀ column ∈ row, column.fits kBuf := by
  have hQuery :
      executeQuery (.result rows) = (true, fetchRows rows) :=
    rfl
  rw [hQuery, fetchRows_eq, Prod.mk.injEq]
  have hAll :
      (∀ row ∈ rows, ∀ column ∈ row, column.fits kBuf) ↔
        rows.takeWhile (rowFits kBuf) = rows := by
    rw [List.takeWhile_eq_self_iff]
    simp only [rowFits, List.all_eq_true]
  rw [hAll]
  constructor
  · intro hSame
    have hLength := congrArg List.length hSame.2
    rw [List.length_map, List.length_map] at hLength
    have hPrefix : rows.takeWhile (rowFits kBuf) <+: rows :=
      List.takeWhile_prefix (rowFits kBuf)
    exact hPrefix.eq_of_length hLength
  · intro hSame
    rw [hSame]
    exact ⟨rfl, rfl⟩

end Connection

namespace OfflineMessageModel

/- The message is not longer than the buffer. -/
def Fits (message : String) : Prop :=
  message.utf8ByteSize ≤ Connection.kBuf

instance : DecidablePred Fits := fun message =>
  inferInstanceAs
    (Decidable (message.utf8ByteSize ≤ Connection.kBuf))

/- The result of the select statement. -/
def selected
    (collate : String → String)
    (db : Database)
    (userid : Int) : List (List Column) :=
  (query collate db userid).map fun message => [some message]

/- `OfflineMessageModel::query` with the rows that are
fetched. -/
def fetch
    (collate : String → String)
    (db : Database)
    (userid : Int) : List String :=
  let result :=
    Connection.executeQuery
      (.result (selected collate db userid))
  if result.1 then
    result.2.map fun row => row.headD ""
  else
    []

/- The messages before the first one that does not fit. -/
theorem fetch_eq
    (collate : String → String)
    (db : Database)
    (userid : Int) :
    fetch collate db userid =
      (query collate db userid).takeWhile
        fun message => decide (Fits message) := by
  have hText :
      ∀ message : String,
        (((fun row : List String => row.headD "") ∘
            fun row : List Column => row.map Column.text) ∘
          fun message : String => [some message]) message =
            message :=
    fun message => rfl
  have hFits :
      rowFits Connection.kBuf ∘
          (fun message : String => [some message]) =
        fun message => decide (Fits message) := by
    funext message
    exact Bool.and_true _
  have hFetched :
      fetch collate db userid =
        (Connection.fetchRows
          (selected collate db userid)).map
            fun row => row.headD "" := rfl
  rw [hFetched, Connection.fetchRows_eq]
  unfold selected
  rw [List.map_map, List.takeWhile_map, List.map_map, hFits]
  exact List.map_id'' hText _

/- Everything is fetched exactly when everything fits. -/
theorem fetch_eq_query_iff
    {collate : String → String}
    {db : Database}
    {userid : Int} :
    fetch collate db userid = query collate db userid ↔
      ∀ row ∈ db.offline,
        row.userid = userid → Fits row.message := by
  rw [fetch_eq, List.takeWhile_eq_self_iff]
  simp only [decide_eq_true_eq]
  constructor
  · intro hAll row hRow hUser
    exact hAll _ (mem_query_iff.mpr ⟨row, hRow, hUser, rfl⟩)
  · intro hAll message hMessage
    rcases mem_query_iff.mp hMessage with
      ⟨row, hRow, hUser, hSame⟩
    rw [← hSame]
    exact hAll row hRow hUser

/- Nothing is fetched when there is nothing, or when the
first message does not fit. -/
theorem fetch_eq_nil_iff
    {collate : String → String}
    {db : Database}
    {userid : Int} :
    fetch collate db userid = [] ↔
      query collate db userid = [] ∨
        ∃ first rest,
          query collate db userid = first :: rest ∧
            ¬ Fits first := by
  rw [fetch_eq]
  cases query collate db userid with
  | nil => simp
  | cons first rest =>
      by_cases hFits : Fits first
      · simp [hFits]
      · simp [hFits]

/- The rows of a user. -/
def rowsOf
    (db : Database)
    (userid : Int) : List OfflineRow :=
  db.offline.filter fun row => row.userid = userid

theorem query_perm
    (collate : String → String)
    (db : Database)
    (userid : Int) :
    (query collate db userid).Perm
      ((rowsOf db userid).map OfflineRow.message) :=
  (List.perm_insertionSort _ _).map _

end OfflineMessageModel

------------------------------------------------------------
-- A Login That Runs Alone
------------------------------------------------------------

namespace Cluster

/- What an operation answers when the rows are fetched. -/
def answerFetched
    (env : Externals)
    (id : NodeId) :
    (op : ServerOp) → Cluster → op.Res × Cluster
| .queryOffline userid, cluster =>
    (OfflineMessageModel.fetch env.collate cluster.db userid,
      cluster)
| op, cluster => answer env id op cluster

/- While every stored message fits, fetching changes no
answer. -/
theorem answerFetched_eq_answer
    (env : Externals)
    (id : NodeId)
    (op : ServerOp)
    {cluster : Cluster}
    (hFits :
      ∀ row ∈ cluster.db.offline,
        OfflineMessageModel.Fits row.message) :
    answerFetched env id op cluster =
      answer env id op cluster := by
  cases op with
  | queryOffline userid =>
      have hFetched :
          OfflineMessageModel.fetch env.collate cluster.db
              userid =
            OfflineMessageModel.query env.collate cluster.db
              userid :=
        OfflineMessageModel.fetch_eq_query_iff.mpr
          fun row hRow _ => hFits row hRow
      unfold answerFetched answer
      dsimp only
      rw [hFetched]
  | _ => rfl

theorem offline_answerFetched
    (env : Externals)
    (id : NodeId)
    {op : ServerOp}
    (hKeeps : op.KeepsOffline)
    (cluster : Cluster) :
    (answerFetched env id op cluster).2.db.offline =
      cluster.db.offline := by
  cases op with
  | queryOffline userid => rfl
  | _ => exact (answer_frame env id _ cluster).offline hKeeps

/- The first three steps of a login: the map, the channel,
and the state of the user. -/
def entered
    (env : Externals)
    (id : NodeId)
    (userid : Int)
    (conn : ConnId)
    (cluster : Cluster) : Cluster :=
  let mapped :=
    (answer env id (.insertConn userid conn) cluster).2
  let subscribed :=
    (answer env id (.subscribe userid) mapped).2
  (answer env id (.updateState userid .online) subscribed).2

theorem exec_entered
    (env : Externals)
    (id : NodeId)
    (userid : Int)
    (conn : ConnId)
    (rest : Handler Unit)
    (cluster : Cluster) :
    Process.exec (answerFetched env id)
        (do
          ask (.insertConn userid conn)
          let _ ← ask (.subscribe userid)
          let _ ← ask (.updateState userid .online)
          rest)
        cluster =
      Process.exec (answerFetched env id) rest
        (cluster.entered env id userid conn) := rfl

theorem offline_entered
    (env : Externals)
    (id : NodeId)
    (userid : Int)
    (conn : ConnId)
    (cluster : Cluster) :
    (cluster.entered env id userid conn).db.offline =
      cluster.db.offline := by
  unfold entered
  dsimp only
  rw [(answer_frame env id (.updateState userid .online)
      _).offline trivial,
    (answer_frame env id (.subscribe userid) _).offline
      trivial,
    (answer_frame env id (.insertConn userid conn) _).offline
      trivial]

end Cluster

/- The answer hands over exactly these stored messages. -/
def HandsOverList
    (response : JsonObject)
    (handed : List String) : Prop :=
  JsonObject.find? "offlinemsg" response =
    if handed = [] then
      none
    else
      some (.array (handed.map .string))

theorem handsOverList_unique
    {response : JsonObject}
    {first second : List String}
    (hFirst : HandsOverList response first)
    (hSecond : HandsOverList response second) :
    first = second := by
  have hInjective : Function.Injective Json.string := by
    intro a b hSame
    exact Json.string.inj hSame
  unfold HandsOverList at hFirst hSecond
  rw [hFirst] at hSecond
  by_cases hNil : first = []
  · by_cases hOther : second = []
    · rw [hNil, hOther]
    · rw [if_pos hNil, if_neg hOther] at hSecond
      cases hSecond
  · by_cases hOther : second = []
    · rw [if_neg hNil, if_pos hOther] at hSecond
      cases hSecond
    · rw [if_neg hNil, if_neg hOther] at hSecond
      have hArrays :=
        Json.array.inj (Option.some.inj hSecond)
      exact hInjective.list_map hArrays

namespace ChatService

variable (env : Externals)

/- The answer to a successful login. -/
def loginResponse (user : User) : Handler JsonObject := do
  let response ←
    takeOffline env user.id
      (loginAccepted user.id user.name)
  let response ← addFriends env user.id response
  addGroups env user.id response

theorem answerLogin_eq
    (conn : ConnId)
    (user : User) :
    answerLogin env conn user =
      (loginResponse env user >>= respond env conn) := by
  unfold answerLogin loginResponse
  simp only [Process.bind_assoc]

variable {env}

/- Friends and groups are other members of the answer. -/
theorem returns_addFriends_offlinemsg
    (id : Int)
    (response : JsonObject) :
    (addFriends env id response).Returns fun result =>
      JsonObject.find? "offlinemsg" result =
        JsonObject.find? "offlinemsg" response := by
  apply returns_ask
  intro friends
  have hOther : "offlinemsg" ≠ "friends" := by
    decide
  split
  · rfl
  · exact JsonObject.find?_assign_of_ne hOther _ _

theorem returns_addGroups_offlinemsg
    (id : Int)
    (response : JsonObject) :
    (addGroups env id response).Returns fun result =>
      JsonObject.find? "offlinemsg" result =
        JsonObject.find? "offlinemsg" response := by
  apply returns_ask
  intro groups
  apply Process.returns_bind (returns_queryMembers groups)
  intro members _
  have hOther : "offlinemsg" ≠ "groups" := by
    decide
  split
  · rfl
  · exact JsonObject.find?_assign_of_ne hOther _ _

/- What a login does with the messages that are fetched. -/
theorem exec_takeOffline
    (id : NodeId)
    (userid : Int)
    (response : JsonObject)
    (cluster : Cluster) :
    Process.exec (Cluster.answerFetched env id)
        (takeOffline env userid response) cluster =
      (.ok
          (withOfflineMessages env.codec
            (OfflineMessageModel.fetch env.collate cluster.db
              userid) response),
        if OfflineMessageModel.fetch env.collate cluster.db
            userid = [] then
          cluster
        else
          cluster.setDb
            (OfflineMessageModel.remove cluster.db
              userid)) := by
  unfold takeOffline
  rw [ask_bind, Process.exec_act]
  have hAnswer :
      Cluster.answerFetched env id (.queryOffline userid)
          cluster =
        (OfflineMessageModel.fetch env.collate cluster.db
          userid, cluster) := rfl
  rw [hAnswer]
  dsimp only
  by_cases hNil :
      OfflineMessageModel.fetch env.collate cluster.db
        userid = []
  · rw [hNil, if_pos rfl]
    rfl
  · have hSome :
        ¬ (OfflineMessageModel.fetch env.collate cluster.db
            userid).isEmpty = true := by
      simpa using hNil
    rw [if_neg hSome, if_neg hNil]
    rfl

/- The fetched messages are handed over, in the order of
`sortOfflineMessages`. -/
theorem handsOverList_withOfflineMessages
    (id : Int)
    (name : String)
    (vec : List String) :
    HandsOverList
      (withOfflineMessages env.codec vec
        (loginAccepted id name))
      (sortOfflineMessages env.codec vec) := by
  have hPerm :=
    (stableSort_sortOfflineMessages env.codec vec).perm
  unfold HandsOverList withOfflineMessages
  by_cases hNil : vec = []
  · have hNone : sortOfflineMessages env.codec [] = [] := rfl
    have hMissing :
        JsonObject.find? "offlinemsg" (loginAccepted id name) =
          none := by
      unfold loginAccepted
      rw [JsonObject.find?_assign_of_ne (by decide),
        JsonObject.find?_assign_of_ne (by decide),
        JsonObject.find?_assign_of_ne (by decide),
        JsonObject.find?_assign_of_ne (by decide)]
      rfl
    rw [hNil, hNone, if_pos rfl]
    exact hMissing
  · have hSome : ¬ vec.isEmpty = true := by
      simpa using hNil
    have hSorted : sortOfflineMessages env.codec vec ≠ [] := by
      intro hEmpty
      rw [hEmpty] at hPerm
      exact hNil hPerm.nil_eq.symm
    rw [if_neg hSome, if_neg hSorted,
      JsonObject.find?_assign_self]

/- The answer that a login composes alone, and what is left
in the table. -/
theorem exec_loginResponse
    (id : NodeId)
    (user : User)
    (cluster : Cluster) :
    ∃ response answered,
      Process.exec (Cluster.answerFetched env id)
          (loginResponse env user) cluster =
        (.ok response, answered) ∧
      HandsOverList response
        (sortOfflineMessages env.codec
          (OfflineMessageModel.fetch env.collate cluster.db
            user.id)) ∧
      answered.db.offline =
        if OfflineMessageModel.fetch env.collate cluster.db
            user.id = [] then
          cluster.db.offline
        else
          (OfflineMessageModel.remove cluster.db
            user.id).offline := by
  unfold loginResponse
  rw [Process.exec_bind, exec_takeOffline]
  dsimp only
  generalize hTaken :
    withOfflineMessages env.codec
      (OfflineMessageModel.fetch env.collate cluster.db
        user.id) (loginAccepted user.id user.name) = taken
  generalize hBehind :
    (if OfflineMessageModel.fetch env.collate cluster.db
        user.id = [] then
      cluster
    else
      cluster.setDb
        (OfflineMessageModel.remove cluster.db
          user.id)) = behind
  have hRest :
      (addFriends env user.id taken >>= fun response =>
          addGroups env user.id response).Returns
        fun result =>
          JsonObject.find? "offlinemsg" result =
            JsonObject.find? "offlinemsg" taken := by
    apply Process.returns_bind
      (returns_addFriends_offlinemsg user.id taken)
    intro friends hFriends
    rw [← hFriends]
    exact returns_addGroups_offlinemsg user.id friends
  have hReads :
      (addFriends env user.id taken >>= fun response =>
          addGroups env user.id response).Always
        ServerOp.KeepsOffline := by
    apply Process.always_bind
    · exact always_addFriends env trivial taken
    · intro friends
      exact
        always_addGroups env trivial (fun _ => trivial)
          friends
  rcases Process.exec_of_returns hRest behind with
    ⟨response, answered, hExec, hSame⟩
  have hKept :=
    Process.exec_invariant
      (fun state : Cluster =>
        state.db.offline = behind.db.offline)
      (fun op state hOp hState =>
        (Cluster.offline_answerFetched env id hOp
          state).trans hState)
      hReads rfl
  rw [hExec] at hKept
  refine ⟨response, answered, hExec, ?_, ?_⟩
  · have hList :=
      @handsOverList_withOfflineMessages env user.id user.name
        (OfflineMessageModel.fetch env.collate cluster.db
          user.id)
    rw [hTaken] at hList
    unfold HandsOverList at hList ⊢
    rw [hSame, hList]
  · rw [hKept, ← hBehind]
    split <;> rfl

end ChatService

/- A login frame, with what the handler reads from it. -/
structure LoginFrame (env : Externals) where
  conn : ConnId
  body : String
  readings : Readings
  fields : JsonObject
  name : String
  password : String
  parsed : env.codec.parse body = some (.object fields)
  isInteger :
    (JsonObject.field fields "msgid").isNumberInteger = true
  typed :
    (JsonObject.field fields "msgid").getInt =
      .ok EnMsgType.loginMsg.code
  named :
    (JsonObject.field fields "name").getString = .ok name
  secret :
    (JsonObject.field fields "password").getString =
      .ok password

namespace LoginFrame

variable {env : Externals}

/- The login is let through. -/
structure Succeeds
    (frame : LoginFrame env)
    (cluster : Cluster)
    (user : User) : Prop where
  found :
    cluster.db.users.queryByName env.collate frame.name = user
  accepted :
    ChatService.accepts env user frame.password = true
  offline : user.state ≠ .online

/- The state after the handler has run alone. -/
def after
    (frame : LoginFrame env)
    (id : NodeId)
    (cluster : Cluster) : Cluster :=
  (Process.exec (Cluster.answerFetched env id)
    (ChatServer.onMessage env frame.conn frame.body
      frame.readings) cluster).2

/- What is composed and sent as the answer. -/
def Answers
    (frame : LoginFrame env)
    (id : NodeId)
    (cluster : Cluster)
    (user : User)
    (response : JsonObject) : Prop :=
  ∃ answered,
    Process.exec (Cluster.answerFetched env id)
        (ChatService.loginResponse env user)
        (cluster.entered env id user.id frame.conn) =
      (.ok response, answered) ∧
    frame.after id cluster =
      answered.sendWithHeader frame.conn
        (env.codec.dump (.object response))

/-
  The answer hands over exactly the messages of the rows that
  the login deletes.
-/
def HandsOver
    (frame : LoginFrame env)
    (id : NodeId)
    (cluster : Cluster)
    (user : User) : Prop :=
  ∃ response handed,
    frame.Answers id cluster user response ∧
      HandsOverList response handed ∧
        handed.Perm
          ((cluster.db.offline.filter fun row =>
            row ∉ (frame.after id cluster).db.offline).map
              OfflineRow.message)

theorem onMessage_eq (frame : LoginFrame env) :
    ChatServer.onMessage env frame.conn frame.body
        frame.readings =
      ChatServer.guarded frame.conn
        (ask (.queryUserByName frame.name) >>= fun user =>
          ChatService.afterQuery env frame.conn
            frame.password user) := by
  have hType :
      (EnMsgType.loginMsg.code : Int) =
        EnMsgType.loginMsg.code := rfl
  unfold ChatServer.onMessage ChatServer.dispatch
    ChatService.getHandler
  rw [frame.parsed]
  dsimp only
  rw [if_pos frame.isInteger, frame.typed, orThrow_ok,
    Process.ret_bind, if_pos hType, ChatService.login_eq,
    frame.named, frame.secret]
  rfl

variable {id : NodeId} {cluster : Cluster} {user : User}

/- A login that is let through enters, composes its answer,
and sends it. -/
theorem after_eq
    {frame : LoginFrame env}
    (hSucceeds : frame.Succeeds cluster user)
    {response : JsonObject}
    {answered : Cluster}
    (hResponse :
      Process.exec (Cluster.answerFetched env id)
          (ChatService.loginResponse env user)
          (cluster.entered env id user.id frame.conn) =
        (.ok response, answered)) :
    frame.after id cluster =
      answered.sendWithHeader frame.conn
        (env.codec.dump (.object response)) := by
  have hQuery :
      Cluster.answerFetched env id
          (.queryUserByName frame.name) cluster =
        (user, cluster) := by
    rw [← hSucceeds.found]
    rfl
  unfold after
  rw [frame.onMessage_eq]
  unfold ChatServer.guarded
  rw [Process.exec_tryCatch, ask_bind, Process.exec_act,
    hQuery]
  unfold ChatService.afterQuery
  dsimp only
  rw [if_pos hSucceeds.accepted, if_neg hSucceeds.offline,
    ChatService.answerLogin_eq]
  rw [Cluster.exec_entered, Process.exec_bind, hResponse]
  rfl

/- What is deleted: nothing when nothing was fetched, and
all rows of the user otherwise. -/
theorem deleted_eq
    {before after : Database}
    {userid : Int}
    {nothing : Prop}
    [Decidable nothing]
    (hAfter :
      after.offline =
        if nothing then
          before.offline
        else
          (OfflineMessageModel.remove before
            userid).offline) :
    (before.offline.filter fun row => row ∉ after.offline) =
      if nothing then
        []
      else
        OfflineMessageModel.rowsOf before userid := by
  rw [hAfter]
  by_cases hNothing : nothing
  · rw [if_pos hNothing, if_pos hNothing,
      List.filter_eq_nil_iff]
    intro row hRow
    simp [hRow]
  · rw [if_neg hNothing, if_neg hNothing]
    apply List.filter_congr
    intro row hRow
    simp [OfflineMessageModel.remove, hRow]

/- Exactly what is deleted is handed over when nothing is
fetched, or everything. -/
theorem handsOver_iff_fetched
    {frame : LoginFrame env}
    (hSucceeds : frame.Succeeds cluster user) :
    frame.HandsOver id cluster user ↔
      OfflineMessageModel.fetch env.collate cluster.db
          user.id = [] ∨
        OfflineMessageModel.fetch env.collate cluster.db
            user.id =
          OfflineMessageModel.query env.collate cluster.db
            user.id := by
  have hOffline :=
    Cluster.offline_entered env id user.id frame.conn cluster
  have hFetch :
      OfflineMessageModel.fetch env.collate
          (cluster.entered env id user.id frame.conn).db
          user.id =
        OfflineMessageModel.fetch env.collate cluster.db
          user.id := by
    unfold OfflineMessageModel.fetch
      OfflineMessageModel.selected OfflineMessageModel.query
    rw [hOffline]
  rcases @ChatService.exec_loginResponse env id user
      (cluster.entered env id user.id frame.conn) with
    ⟨response, answered, hExec, hList, hLeft⟩
  rw [hFetch] at hList hLeft
  have hAfter := after_eq hSucceeds hExec
  have hDeleted :
      (cluster.db.offline.filter fun row =>
          row ∉ (frame.after id cluster).db.offline) =
        if OfflineMessageModel.fetch env.collate cluster.db
            user.id = [] then
          []
        else
          OfflineMessageModel.rowsOf cluster.db user.id := by
    apply deleted_eq
    rw [hAfter]
    have hSent :
        (answered.sendWithHeader frame.conn
            (env.codec.dump (.object response))).db =
          answered.db := by
      unfold Cluster.sendWithHeader
      split <;> rfl
    rw [hSent, hLeft]
    unfold OfflineMessageModel.remove
    rw [hOffline]
  have hUnique :
      frame.HandsOver id cluster user ↔
        (ChatService.sortOfflineMessages env.codec
          (OfflineMessageModel.fetch env.collate cluster.db
            user.id)).Perm
          ((cluster.db.offline.filter fun row =>
            row ∉ (frame.after id cluster).db.offline).map
              OfflineRow.message) := by
    constructor
    · intro hHandsOver
      rcases hHandsOver with
        ⟨other, handed, ⟨state, hOther, _⟩, hHanded, hPerm⟩
      rw [hExec] at hOther
      have hSame : response = other :=
        Except.ok.inj (congrArg Prod.fst hOther)
      rw [← hSame] at hHanded
      rw [handsOverList_unique hList hHanded]
      exact hPerm
    · intro hPerm
      exact
        ⟨response, _, ⟨answered, hExec, hAfter⟩, hList, hPerm⟩
  have hSorted :=
    (ChatService.stableSort_sortOfflineMessages env.codec
      (OfflineMessageModel.fetch env.collate cluster.db
        user.id)).perm
  have hRows :=
    OfflineMessageModel.query_perm env.collate cluster.db
      user.id
  rw [hUnique, hDeleted]
  by_cases hNil :
      OfflineMessageModel.fetch env.collate cluster.db
        user.id = []
  · rw [hNil, if_pos rfl]
    exact iff_of_true List.Perm.nil (Or.inl rfl)
  · rw [if_neg hNil]
    constructor
    · intro hPerm
      have hLength :=
        (hSorted.symm.trans (hPerm.trans hRows.symm)).length_eq
      rw [OfflineMessageModel.fetch_eq] at hLength ⊢
      exact
        Or.inr
          ((List.takeWhile_prefix _).eq_of_length hLength)
    · intro hAll
      rcases hAll with hNone | hSame
      · exact absurd hNone hNil
      · exact hSorted.trans (hSame ▸ hRows)

end LoginFrame

open OfflineMessageModel in
/-
  A login that runs alone hands over exactly what it deletes
  if and only if every message stored for the user fits into
  the buffer, or the first one in the order of the query does
  not.
-/
theorem login_hands_over_iff
    {env : Externals}
    {id : NodeId}
    {cluster : Cluster}
    {user : User}
    {frame : LoginFrame env}
    (hSucceeds : frame.Succeeds cluster user) :
    frame.HandsOver id cluster user ↔
      (∀ row ∈ cluster.db.offline,
          row.userid = user.id → Fits row.message) ∨
        ∃ first rest,
          query env.collate cluster.db user.id =
              first :: rest ∧
            ¬ Fits first := by
  rw [frame.handsOver_iff_fetched hSucceeds,
    fetch_eq_query_iff, fetch_eq_nil_iff]
  constructor
  · intro hFetched
    rcases hFetched with (hNone | hFirst) | hAll
    · refine Or.inl ?_
      apply fetch_eq_query_iff.mp
      rw [fetch_eq, hNone]
      rfl
    · exact Or.inr hFirst
    · exact Or.inl hAll
  · intro hCondition
    rcases hCondition with hAll | hFirst
    · exact Or.inr hAll
    · exact Or.inl (Or.inr hFirst)

------------------------------------------------------------
-- A Message That Does Not Fit
------------------------------------------------------------

/- A text of so many letters. -/
def letters (count : Nat) : String :=
  String.ofList (List.replicate count 'a')

theorem utf8ByteSize_letters (count : Nat) :
    (letters count).utf8ByteSize = count := by
  unfold letters
  rw [String.utf8ByteSize_ofList]
  induction count with
  | zero => rfl
  | succ count ih =>
      rw [List.replicate_succ, String.utf8Len_cons, ih]
      rfl

/- A short message of user 1, and a longer one behind it. -/
def storedLetters (count : Nat) : Cluster :=
  sampleCluster
    [{ id := 1, userid := 1, convid := "p1_2", seq := 1,
       message := "old" },
     { id := 2, userid := 1, convid := "p1_2", seq := 2,
       message := letters count }]

def fetchExternals : Externals :=
  sampleExternals [.object (sampleLogin "ann")]

/- User 1 logs in. -/
def annLogin : LoginFrame fetchExternals where
  conn := 5
  body := (Json.object (sampleLogin "ann")).text
  readings := sampleReadings
  fields := sampleLogin "ann"
  name := "ann"
  password := "secret"
  parsed :=
    JsonCodec.roundTrips_ofTable (by decide +kernel)
      List.mem_cons_self
  isInteger := rfl
  typed := rfl
  named := rfl
  secret := rfl

def ann : User :=
  sampleUser 1 "ann" "0123456789abcdef0123456789abcdef"

theorem annLogin_succeeds (count : Nat) :
    annLogin.Succeeds (storedLetters count) ann where
  found := by
    change sampleUsers.queryByName (fun text => text) "ann" = ann
    decide +kernel
  accepted := by decide +kernel
  offline := by decide

/- A message of 4096 bytes is handed over. -/
theorem longest_message_is_handed_over :
    annLogin.HandsOver 1 (storedLetters 4096) ann := by
  refine
    (login_hands_over_iff (annLogin_succeeds 4096)).mpr
      (Or.inl ?_)
  intro row hRow _
  simp only [storedLetters, sampleCluster, sampleDatabase,
    List.mem_cons, List.not_mem_nil, or_false] at hRow
  rcases hRow with rfl | rfl
  · change OfflineMessageModel.Fits "old"
    decide
  · exact (utf8ByteSize_letters 4096).le

/- One of 4097 bytes is deleted and not handed over. -/
theorem longer_message_is_lost :
    ¬ annLogin.HandsOver 1 (storedLetters 4097) ann := by
  have hQuery :
      OfflineMessageModel.query fetchExternals.collate
          (storedLetters 4097).db 1 =
        ["old", letters 4097] := rfl
  have hLong :
      ¬ OfflineMessageModel.Fits (letters 4097) := by
    unfold OfflineMessageModel.Fits Connection.kBuf
    rw [utf8ByteSize_letters]
    decide
  have hFetch :
      OfflineMessageModel.fetch fetchExternals.collate
          (storedLetters 4097).db 1 =
        ["old"] := by
    rw [OfflineMessageModel.fetch_eq, hQuery]
    have hShort : OfflineMessageModel.Fits "old" := by
      decide
    simp [hShort, hLong]
  have hIff :=
    @LoginFrame.handsOver_iff_fetched fetchExternals 1
      (storedLetters 4097) ann annLogin
      (annLogin_succeeds 4097)
  have hUser : ann.id = 1 := rfl
  rw [hIff, hUser, hFetch, hQuery]
  simp

end ClusterChat
