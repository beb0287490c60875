import ClusterChat.Server.WriteOrder
import ClusterChat.Server.LoginAnswer
import ClusterChat.Server.Sessions

/-
  What a login writes on the connection of the request when
  it is handled without interruption.

  Main declarations:
    * `Cluster.Adds` and `Cluster.SendsOnly`
    * `Cluster.LoginWrites`
    * `Cluster.adds_guarded_login`
-/

------------------------------------------------------------
-- The Answer on the Wire
------------------------------------------------------------

namespace ClusterChat

namespace Cluster

variable {env : Externals} {id : NodeId} {conn : ConnId}

/- The connection has got texts of this kind, if any. -/
def Adds
    (conn : ConnId)
    (fits : String → Prop)
    (before after : Cluster) : Prop :=
  ∃ texts,
    after.wire conn = before.wire conn ++ texts ∧
      ∀ text ∈ texts, fits text

/- Only such texts are sent, and only by `send`. -/
def SendsOnly (fits : String → Prop) : ServerOp → Prop
| .send _ text => fits text
| .findAndSend _ _ => False
| _ => True

theorem adds_answer
    {fits : String → Prop}
    {before cluster : Cluster}
    (hAdds : Adds conn fits before cluster)
    {op : ServerOp}
    (hOp : SendsOnly fits op) :
    Adds conn fits before (answer env id op cluster).2 := by
  rcases hAdds with ⟨texts, hWire, hTexts⟩
  have hSame :
      op.KeepsLinks ∨
          (∃ receiver text, op = .send receiver text) ∨
            ∃ closed, op = .shutdown closed := by
    cases op with
    | send receiver text =>
        exact Or.inr (Or.inl ⟨receiver, text, rfl⟩)
    | shutdown closed => exact Or.inr (Or.inr ⟨closed, rfl⟩)
    | findAndSend userid payload => exact hOp.elim
    | _ => exact Or.inl trivial
  rcases hSame with
    hKeeps | ⟨receiver, text, rfl⟩ | ⟨closed, rfl⟩
  · have hLinks :=
      (answer_keeps env id op cluster).links hKeeps
    refine ⟨texts, ?_, hTexts⟩
    rw [hLinks.wire, hWire]
  · have hSent :
        (answer env id (.send receiver text) cluster).2.wire
            conn =
          cluster.wire conn ++
            (if receiver = conn ∧
                cluster.conns conn = .connected then
              some text
            else
              none).toList :=
      wire_sendWithHeader cluster receiver conn text
    refine ⟨_, by rw [hSent, hWire, List.append_assoc], ?_⟩
    intro other hOther
    rcases List.mem_append.mp hOther with hOld | hNew
    · exact hTexts other hOld
    · split at hNew
      · rw [List.mem_singleton.mp hNew]
        exact hOp
      · cases hNew
  · refine ⟨texts, ?_, hTexts⟩
    rw [← hWire]
    unfold answer shutdown
    dsimp only
    split <;> rfl

theorem adds_refl
    (fits : String → Prop)
    (cluster : Cluster) : Adds conn fits cluster cluster :=
  ⟨[], (List.append_nil _).symm, List.forall_mem_nil _⟩

/- A handler whose texts are of this kind. -/
theorem adds_execute
    {fits : String → Prop}
    {handler : Handler Unit}
    (hHandler :
      handler.Ensures (fun _ _ => True) (SendsOnly fits)
        fun _ => True)
    {before cluster : Cluster}
    (hAdds : Adds conn fits before cluster) :
    Adds conn fits before
      (cluster.execute env id handler) := by
  unfold execute
  refine
    Process.exec_ensures (Adds conn fits before) ?_ hHandler
      hAdds
  intro op state hOp hState
  exact ⟨trivial, adds_answer hState hOp⟩

theorem wire_loggedIn
    (env : Externals)
    (cluster : Cluster)
    (id : NodeId)
    (user : User)
    (conn : ConnId) :
    (cluster.loggedIn id user conn).wire = cluster.wire := by
  have hInsert :=
    (answer_keeps env id (.insertConn user.id conn)
      cluster).links trivial
  have hSubscribe :=
    (answer_keeps env id (.subscribe user.id)
      (cluster.insertConn id user.id conn)).links trivial
  exact hSubscribe.wire.trans hInsert.wire

/- What `login` may write for a request. -/
def LoginWrites
    (env : Externals)
    (cluster : Cluster)
    (js : JsonObject)
    (text : String) : Prop :=
  match loggingIn env cluster js with
  | some user =>
      ∃ vec vecFriend groupuserVec,
        text =
          env.codec.dump
            (.object
              (ChatService.loginAnswer env user vec vecFriend
                groupuserVec))
  | none =>
      ∃ errno errmsg,
        (errno = 1 ∨ errno = 2) ∧
          text =
            env.codec.dump
              (.object
                (ChatService.loginRefused errno errmsg))

theorem adds_login
    {cluster : Cluster}
    {js : JsonObject}
    {name password : String}
    (hName : (js.field "name").getString = .ok name)
    (hPassword :
      (js.field "password").getString = .ok password) :
    Adds conn (LoginWrites env cluster js) cluster
      (cluster.execute env id
        (ChatService.login env conn js)) := by
  cases hLogin : loggingIn env cluster js with
  | some user =>
      rw [execute_login env conn hLogin]
      refine adds_execute ?_ ?_
      · refine
          ChatService.ensures_answerLogin env trivial
            trivial trivial trivial (fun _ => trivial) ?_
        intro vec vecFriend groupuserVec _ _ _ _
        unfold SendsOnly LoginWrites
        rw [hLogin]
        exact ⟨vec, vecFriend, groupuserVec, rfl⟩
      · refine ⟨[], ?_, List.forall_mem_nil _⟩
        rw [wire_loggedIn env, List.append_nil]
  | none =>
      have hRefused :
          ∀ errno errmsg,
            errno = 1 ∨ errno = 2 →
              Adds conn (LoginWrites env cluster js) cluster
                (cluster.execute env id
                  (ChatService.respond env conn
                    (ChatService.loginRefused errno
                      errmsg))) := by
        intro errno errmsg hErrno
        have hText :
            LoginWrites env cluster js
              (env.codec.dump
                (.object
                  (ChatService.loginRefused errno
                    errmsg))) := by
          unfold LoginWrites
          rw [hLogin]
          exact ⟨errno, errmsg, hErrno, rfl⟩
        refine adds_execute ?_ (adds_refl _ cluster)
        exact ⟨hText, fun _ _ => trivial⟩
      unfold loggingIn at hLogin
      rw [hName, hPassword] at hLogin
      unfold execute ChatService.login at *
      rw [hName, hPassword, orThrow_ok, Process.ret_bind,
        orThrow_ok, Process.ret_bind, ask_bind,
        Process.exec_act]
      have hRow :
          (answer env id (.queryUserByName name) cluster).1 =
            cluster.db.users.queryByName env.collate name :=
        rfl
      rw [hRow]
      dsimp only at hLogin
      split_ifs at hLogin with hBoth
      split
      · rename_i hAccepts
        have hOnline :
            (cluster.db.users.queryByName env.collate
              name).state = .online := by
          by_contra hOffline
          exact hBoth ⟨hAccepts, hOffline⟩
        rw [if_pos hOnline]
        exact hRefused _ _ (Or.inr rfl)
      · exact hRefused _ _ (Or.inl rfl)

/- The same when exceptions are caught. -/
theorem adds_guarded_login
    {cluster : Cluster}
    {js : JsonObject}
    {name password : String}
    (hName : (js.field "name").getString = .ok name)
    (hPassword :
      (js.field "password").getString = .ok password) :
    Adds conn (LoginWrites env cluster js) cluster
      (cluster.execute env id
        (ChatServer.guarded conn
          (ChatService.login env conn js))) := by
  refine
    guarded_invariant env
      (Adds conn (LoginWrites env cluster js) cluster)
      (adds_login hName hPassword) ?_
  intro after hAfter
  have hOp :
      SendsOnly (LoginWrites env cluster js)
        (.shutdown conn) := trivial
  exact @adds_answer env id conn _ _ _ hAfter _ hOp

end Cluster

end ClusterChat
