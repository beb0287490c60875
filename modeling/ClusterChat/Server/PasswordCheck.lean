import ClusterChat.Server.SentFrames

/-
  The password check of a login, in runs of the cluster with
  any interleaving of the handlers.

  Main declarations:
    * `UserTable.Account` and `Cluster.account_answer`
    * `World.Remembers` and `World.remembers_step`
    * `World.Registered`
    * `World.password_check`
-/

------------------------------------------------------------
-- Accounts
------------------------------------------------------------

namespace ClusterChat

namespace UserTable

/- The row that is found under the name of the user has the
password and the salt of the user. -/
def Account
    (collate : String → String)
    (users : UserTable)
    (user : User) : Prop :=
  ∃ row,
    users.rows.find?
        (fun row => collate row.name = collate user.name) =
      some row ∧
    row.password = user.password ∧
    row.salt = user.salt

variable {collate : String → String}
variable {users after : UserTable} {user : User}

/- A new name is found under the new row. -/
theorem account_of_insert
    {id : Int}
    (hInsert :
      users.insert collate user = some (id, after)) :
    after.Account collate user := by
  unfold insert at hInsert
  split_ifs at hInsert with hTaken
  have hAfter : users.append user = after :=
    congrArg Prod.snd (Option.some.inj hInsert)
  have hNew :
      users.rows.find?
          (fun row => collate row.name = collate user.name) =
        none := by
    rw [List.find?_eq_none]
    intro row hRow hSame
    exact hTaken (List.any_eq_true.mpr ⟨row, hRow, hSame⟩)
  refine ⟨{ user with id := users.nextId }, ?_, rfl, rfl⟩
  rw [← hAfter]
  unfold append
  dsimp only
  rw [List.find?_append, hNew, Option.none_or]
  exact List.find?_cons_of_pos (decide_eq_true rfl)

/- Later rows come behind it. -/
theorem Account.insert
    (hAccount : users.Account collate user)
    {other : User}
    {id : Int}
    (hInsert :
      users.insert collate other = some (id, after)) :
    after.Account collate user := by
  unfold UserTable.insert at hInsert
  split_ifs at hInsert
  have hAfter : users.append other = after :=
    congrArg Prod.snd (Option.some.inj hInsert)
  rcases hAccount with ⟨row, hFound, hSame⟩
  refine ⟨row, ?_, hSame⟩
  rw [← hAfter]
  unfold append
  dsimp only
  rw [List.find?_append, hFound, Option.some_or]

/- The state is not part of an account. -/
theorem Account.withStates
    (hAccount : users.Account collate user)
    (change : User → UserState) :
    (users.withStates change).Account collate user := by
  rcases hAccount with ⟨row, hFound, hPassword, hSalt⟩
  refine
    ⟨{ row with state := change row }, ?_, hPassword, hSalt⟩
  unfold UserTable.withStates
  dsimp only
  rw [List.find?_map]
  exact
    congrArg
      (Option.map fun row : User =>
        { row with state := change row })
      hFound

end UserTable

/- An insertion that was answered with an id. -/
theorem Cluster.account_of_answer
    {env : Externals}
    {id : NodeId}
    {cluster : Cluster}
    {user : User}
    {userid : Int}
    (hGiven :
      (answer env id (.insertUser user) cluster).1 =
        some userid) :
    (answer env id (.insertUser user)
        cluster).2.db.users.Account env.collate user := by
  simp only [answer] at hGiven ⊢
  cases hInsert :
      cluster.db.users.insert env.collate user with
  | none =>
      rw [hInsert] at hGiven
      cases hGiven
  | some inserted => exact UserTable.account_of_insert hInsert

/- No operation changes a password. -/
theorem Cluster.account_answer
    {env : Externals}
    {cluster : Cluster}
    {user : User}
    (hAccount :
      cluster.db.users.Account env.collate user)
    (id : NodeId)
    (op : ServerOp) :
    (answer env id op cluster).2.db.users.Account env.collate
      user := by
  have hFrame := answer_frame env id op cluster
  cases op
  case insertUser other =>
    simp only [answer]
    split
    · rename_i userid users hInsert
      exact hAccount.insert hInsert
    · exact hAccount
  case updateState userid state =>
    exact hAccount.withStates _
  case resetState => exact hAccount.withStates _
  all_goals
    rw [hFrame.users trivial]
    exact hAccount

/- The check compares with the password of the account. -/
theorem ChatService.accepts_iff
    {env : Externals}
    {users : UserTable}
    {user : User}
    (hAccount : users.Account env.collate user)
    {name : String}
    (hName : env.collate name = env.collate user.name)
    (password : String) :
    accepts env (users.queryByName env.collate name)
          password =
        true ↔
      crypto.hashPassword env.sha256 user.salt
          (utf8 password) =
        user.password := by
  rcases hAccount with ⟨row, hFound, hPassword, hSalt⟩
  have hRow :
      users.queryByName env.collate name = row := by
    unfold UserTable.queryByName
    rw [hName, hFound]
    rfl
  have hPositive :=
    users.positive row (List.mem_of_find?_eq_some hFound)
  have hId : row.id ≠ -1 := by
    omega
  unfold accepts
  rw [hRow, hPassword, hSalt, decide_eq_true hId,
    Bool.true_and, crypto.safeEqual_iff]

------------------------------------------------------------
-- Runs
------------------------------------------------------------

namespace World

variable {env : Externals} {observer : Observer}

/- Every user who was given an id has an account. -/
def Remembers
    (env : Externals)
    (world : World) : Prop :=
  ∀ node user before userid,
    ⟨node, .insertUser user, before⟩ ∈ world.log →
      (before.answer env node (.insertUser user)).1 =
          some userid →
        world.cluster.db.users.Account env.collate user

theorem remembers_step
    {before after : World}
    {label : Label}
    (hBefore : before.Remembers env)
    (hStep : before.step env observer label = some after) :
    after.Remembers env := by
  cases move_of_step hStep with
  | perform index hRunning hDue =>
      rename_i thread op next
      intro node user found userid hLogged hAnswered
      rcases List.mem_append.mp hLogged with hOld | hNew
      · exact
          Cluster.account_answer
            (hBefore node user found userid hOld hAnswered)
            thread.node op
      · have hEntry := List.mem_singleton.mp hNew
        injection hEntry with hNode hOp hFound
        subst hNode hOp hFound
        exact Cluster.account_of_answer hAnswered
  | environment event =>
      intro node user found userid hLogged hAnswered
      dsimp only
      rw [Cluster.db_environment]
      exact hBefore node user found userid hLogged hAnswered
  | _ => exact hBefore

/- The registration was answered with an id at some time of a
run that has come to this point. -/
inductive Registered
    (env : Externals)
    (observer : Observer)
    (frame : RegFrame env)
    (world : World) : Prop where
| answered
    {start : World}
    {labels : List Label}
    (fresh : start.log = [])
    (reached :
      Transition.Run (step env observer) (fun _ _ => True)
        start labels world)
    {node : NodeId}
    {before : Cluster}
    {userid : Int}
    (stored :
      ⟨node, .insertUser frame.user, before⟩ ∈ world.log)
    (given :
      (before.answer env node (.insertUser frame.user)).1 =
        some userid) :
    Registered env observer frame world

theorem Registered.account
    {frame : RegFrame env}
    {world : World}
    (hRegistered : Registered env observer frame world) :
    world.cluster.db.users.Account env.collate frame.user := by
  rcases hRegistered with
    @⟨start, labels, hFresh, hReached, _, _, _, hStored,
      hGiven⟩
  have hStart : start.Remembers env := by
    intro node user before userid hLogged
    rw [hFresh] at hLogged
    cases hLogged
  have hRemembers :=
    hReached.invariant (Remembers env)
      (fun _ _ _ hBefore _ hStep =>
        remembers_step hBefore hStep)
      hStart
  exact hRemembers _ _ _ _ hStored hGiven

/- A registration with a new name is stored in two steps. -/
theorem exists_registered
    (env : Externals)
    (observer : Observer)
    (frame : RegFrame env)
    {start : World}
    (hThreads : start.threads = [])
    (hLog : start.log = [])
    (hUp : start.cluster.conns frame.conn ≠ .disconnected)
    (hFree :
      ¬ start.cluster.db.users.NameTaken env.collate
        frame.name) :
    ∃ world, Registered env observer frame world := by
  let thread :=
    start.frameThread env frame.conn frame.body frame.readings
  have hIdle :
      start.busy (.connection frame.conn) = false := by
    simp [busy, hThreads]
  have hFrame :
      step env observer start
          (.frame frame.conn frame.body frame.readings) =
        some (start.spawn thread) := by
    simp [step, hUp, hIdle, thread]
  have hRunning :
      (start.spawn thread).threads[0]? = some thread := by
    simp [spawn, hThreads]
  have hDue : ∃ next,
      thread.process =
        .act (.insertUser frame.user) next :=
    ⟨_, frame.onMessage_eq⟩
  rcases hDue with ⟨next, hDue⟩
  have hInsert :
      step env observer (start.spawn thread) (.run 0) =
        some
          ((start.spawn thread).perform env 0 thread
            (.insertUser frame.user) next) := by
    simp only [step]
    rw [hRunning]
    dsimp only
    rw [hDue]
  refine
    ⟨_, Registered.answered hLog
      ((Transition.Run.single trivial hFrame).snoc trivial
        hInsert)
      (List.mem_append_right _ List.mem_cons_self)
      ((Cluster.insertUser_eq_some_iff _ _ _).mpr
        ⟨hFree, rfl⟩)⟩

/-
  Hashes compare equal exactly if the digests are equal, and
  strings compare equal exactly if they are; so whoever has
  registered is let in with a password exactly if it has the
  digest of the registered one.
-/
theorem password_check
    (env : Externals)
    (observer : Observer) :
    (∀ salt p q : Bytes,
      crypto.safeEqual
            (crypto.hashPassword env.sha256 salt q)
            (crypto.hashPassword env.sha256 salt p) =
          true ↔
        env.sha256 (salt ++ q) = env.sha256 (salt ++ p)) ∧
    (∀ a b : Bytes, crypto.safeEqual a b = true ↔ a = b) ∧
    ∀ (frame : RegFrame env) (world : World),
      Registered env observer frame world →
        ∀ name q : String,
          env.collate name = env.collate frame.name →
            (ChatService.accepts env
                  (world.cluster.db.users.queryByName
                    env.collate name)
                  q =
                true ↔
              env.sha256 (frame.readings.salt ++ utf8 q) =
                env.sha256
                  (frame.readings.salt ++
                    utf8 frame.password)) := by
  refine ⟨?_, crypto.safeEqual_iff, ?_⟩
  · intro salt p q
    rw [crypto.safeEqual_iff, crypto.hashPassword_inj]
  · intro frame world hRegistered name q hName
    rw [ChatService.accepts_iff hRegistered.account hName]
    exact
      crypto.hashPassword_inj env.sha256 frame.readings.salt
        (utf8 q) (utf8 frame.password)

end World

------------------------------------------------------------
-- A New User
------------------------------------------------------------

/- A registration of a third user. -/
def catReg : JsonObject :=
  [("msgid", .unsigned EnMsgType.regMsg.code),
    ("name", .string "cat"), ("password", .string "secret")]

def catExternals : Externals :=
  sampleExternals [.object catReg]

theorem parse_catReg :
    catExternals.codec.parse (Json.object catReg).text =
      some (.object catReg) := by
  have hNormal :
      (Json.object catReg).normalize = .object catReg := by
    simp [catReg, Json.normalize, Json.normalizeFields]
  have hTexts :
      ([Json.object catReg].map Json.text).Nodup :=
    List.nodup_singleton _
  have hParse :=
    JsonCodec.roundTrips_ofTable hTexts
      (List.mem_singleton_self _)
  rw [← hNormal]
  exact hParse

def catFrame : RegFrame catExternals where
  conn := 5
  body := (Json.object catReg).text
  readings :=
    { sampleReadings with
      salt := utf8 "0123456789abcdef0123456789abcdef" }
  fields := catReg
  name := "cat"
  password := "secret"
  parsed := parse_catReg
  isInteger := rfl
  typed := rfl
  named := rfl
  secret := rfl

def catStart : World where
  cluster := sampleCluster []
  threads := []
  log := []

/- The new user is let in with the password. -/
theorem cat_is_let_in :
    ∃ world,
      World.Registered catExternals (fun _ => none) catFrame
          world ∧
        ChatService.accepts catExternals
            (world.cluster.db.users.queryByName
              catExternals.collate "cat")
            "secret" =
          true := by
  have hFree :
      ¬ catStart.cluster.db.users.NameTaken
        catExternals.collate catFrame.name := by
    simp [UserTable.NameTaken, catStart, sampleCluster,
      sampleDatabase, sampleUsers, sampleUser, catExternals,
      sampleExternals, catFrame]
  rcases
      @World.exists_registered catExternals (fun _ => none)
        catFrame catStart rfl rfl (by decide) hFree with
    ⟨world, hRegistered⟩
  have hCheck :=
    (World.password_check catExternals fun _ => none).2.2
  exact
    ⟨world, hRegistered,
      (hCheck catFrame world hRegistered "cat" "secret"
        rfl).mpr rfl⟩

end ClusterChat
