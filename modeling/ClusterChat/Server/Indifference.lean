import ClusterChat.Server.HandlerOps

/-
  What the handlers make of the rows of some users.

  A handler reads the row of a user whom a frame names only
  for the state.  So it does the same for a user who is
  offline as for one who is missing.  A handler reads the row
  of a user with a given name for a login, and the row of a
  user of the map when a connection is down.

  Main declarations:
    * `ServerOp.Alike`, `ServerOp.Spared`, and
      `ServerOp.Spares`
    * `ChatService.Indifferent`
    * `ChatService.indifferent_onMessage`
-/

------------------------------------------------------------
-- Users Who Are Offline
------------------------------------------------------------

namespace ClusterChat

/- The answers are the same, up to the rows under the ids of
users who have the same state. -/
def ServerOp.Alike
    (ids : List Int)
    (op : ServerOp)
    (answer other : op.Res) : Prop :=
  match op, answer, other with
  | queryUser userid, answer, other =>
      answer.state = other.state ∧
        (userid ∉ ids → answer = other)
  | _, answer, other => answer = other

theorem ServerOp.alike_refl
    (ids : List Int)
    (op : ServerOp)
    (answer : op.Res) :
    op.Alike ids answer answer := by
  cases op with
  | queryUser userid => exact ⟨rfl, fun _ => rfl⟩
  | _ => exact Eq.refl answer

/- A search by name does not find a user with one of the
ids, and no connection is one of such a user. -/
def ServerOp.Spared
    (ids : List Int)
    (op : ServerOp)
    (answer : op.Res) : Prop :=
  match op, answer with
  | queryUserByName _, answer =>
      answer.id ∈ ids → answer.id = -1
  | eraseConnOf _, answer =>
      ∀ userid, answer = some userid → userid ∉ ids
  | _, _ => True

/- The operation brings no user online with one of the ids,
and registers no user online. -/
def ServerOp.Spares
    (ids : List Int) : ServerOp → Prop
| insertConn userid _ => userid ∉ ids
| updateState userid state =>
    state = .online → userid ∉ ids
| insertUser user => user.state = .offline
| _ => True

/- The operation spares the users, and does not read a user
by the id. -/
def ServerOp.Plain
    (ids : List Int) : ServerOp → Prop
| queryUser _ => False
| op => op.Spares ids

theorem ServerOp.plain_offline
    {ids : List Int}
    (userid : Int) :
    (ServerOp.updateState userid .offline).Plain ids :=
  fun hState => absurd hState (by decide)

theorem ServerOp.Plain.spares
    {ids : List Int}
    {op : ServerOp}
    (hPlain : op.Plain ids) :
    op.Spares ids := by
  cases op with
  | queryUser userid => exact hPlain.elim
  | _ => exact hPlain

theorem ServerOp.Plain.eq_of_alike
    {ids : List Int}
    {op : ServerOp}
    (hPlain : op.Plain ids)
    {answer other : op.Res}
    (hAlike : op.Alike ids answer other) :
    answer = other := by
  cases op with
  | queryUser userid => exact hPlain.elim
  | _ => exact hAlike

namespace ChatService

variable (env : Externals) {ids : List Int}

/- The handler takes no notice of users with these ids who
are offline. -/
abbrev Indifferent
    (ids : List Int)
    {α : Type}
    (handler : Handler α) : Prop :=
  Process.Indifferent (ServerOp.Spared ids)
    (ServerOp.Spares ids) (ServerOp.Alike ids) handler

theorem indifferent_of_plain
    {α : Type}
    {handler : Handler α}
    (hPlain : handler.Always (ServerOp.Plain ids)) :
    Indifferent ids handler :=
  Process.indifferent_of_always
    (hPlain.mono fun _ hOp =>
      ⟨hOp.spares, fun _ _ hAlike => hOp.eq_of_alike hAlike⟩)

theorem indifferent_orThrow
    {α : Type}
    (value : Except JsonException α)
    {rest : α → Handler Unit}
    (hRest : ∀ value, Indifferent ids (rest value)) :
    Indifferent ids (orThrow value >>= rest) :=
  Process.indifferent_bind
    (indifferent_of_plain (Process.always_ofExcept value))
    hRest

------------------------------------------------------------
-- Chat
------------------------------------------------------------

/- An operation, then the rest. -/
theorem indifferent_ask
    {op : ServerOp}
    (hPlain : op.Plain ids)
    {rest : op.Res → Handler Unit}
    (hRest : ∀ answer, Indifferent ids (rest answer)) :
    Indifferent ids (ask op >>= rest) := by
  refine ⟨hPlain.spares, ?_, fun answer _ => hRest answer⟩
  intro answer other hAlike
  rw [hPlain.eq_of_alike hAlike]

theorem indifferent_forward
    (id : Int)
    (payload : String) :
    Indifferent ids (forward id payload) := by
  unfold forward
  refine ⟨trivial, ?_, ?_⟩
  · intro user other hAlike
    change (if user.state = .online then _ else _) =
      (if other.state = .online then _ else _)
    rw [hAlike.1]
  · intro (user : User) _
    apply indifferent_of_plain
    change Process.Always _
      (if user.state = .online then _ else _)
    split
    · apply always_ask trivial
      intro (published : Bool)
      split
      · trivial
      · exact ⟨trivial, fun _ => trivial⟩
    · exact ⟨trivial, fun _ => trivial⟩

theorem indifferent_routeOne
    (toid : Int)
    (payload : String) :
    Indifferent ids (routeOne toid payload) := by
  unfold routeOne
  refine indifferent_ask (by trivial) ?_
  intro (sent : Bool)
  split
  · trivial
  · exact indifferent_forward toid payload

theorem indifferent_forwardAll
    (payload : String)
    (userids : List Int) :
    Indifferent ids (forwardAll payload userids) := by
  induction userids with
  | nil => trivial
  | cons id userids ih =>
      exact
        Process.indifferent_bind
          (indifferent_forward id payload) fun _ => ih

theorem indifferent_routeGroup
    (useridVec : List Int)
    (payload : String) :
    Indifferent ids (routeGroup useridVec payload) := by
  unfold routeGroup
  refine indifferent_ask (by trivial) ?_
  intro found
  apply Process.indifferent_bind
  · apply indifferent_of_plain
    apply always_sendAll
    exact fun _ => trivial
  · exact fun _ => indifferent_forwardAll payload _

theorem indifferent_onechat
    (js : JsonObject)
    (readings : Readings) :
    Indifferent ids (onechat env js readings) := by
  apply indifferent_orThrow
  intro fromid
  apply indifferent_orThrow
  intro toid
  refine indifferent_ask (by trivial) ?_
  exact fun _ => indifferent_routeOne toid _

theorem indifferent_groupchat
    (js : JsonObject)
    (readings : Readings) :
    Indifferent ids (groupchat env js readings) := by
  apply indifferent_orThrow
  intro userid
  apply indifferent_orThrow
  intro groupid
  refine indifferent_ask (by trivial) ?_
  intro seq
  refine indifferent_ask (by trivial) ?_
  exact fun users => indifferent_routeGroup users _

theorem indifferent_handleredissubscribemessage
    (userid : Int)
    (msg : String) :
    Indifferent ids
      (handleredissubscribemessage userid msg) := by
  unfold handleredissubscribemessage
  refine indifferent_ask (by trivial) ?_
  intro target
  apply indifferent_of_plain
  split
  · exact ⟨trivial, fun _ => trivial⟩
  · exact ⟨trivial, fun _ => trivial⟩

------------------------------------------------------------
-- Logins and Closings
------------------------------------------------------------

/- Who logs in was found by name. -/
theorem indifferent_login
    (conn : ConnId)
    (js : JsonObject) :
    Indifferent ids (login env conn js) := by
  apply indifferent_orThrow
  intro name
  apply indifferent_orThrow
  intro password
  refine ⟨trivial, fun _ _ hSame => by rw [hSame], ?_⟩
  intro (user : User) hSpared
  apply indifferent_of_plain
  change Process.Always _
    (if accepts env user password then _ else _)
  split
  · rename_i hAccepts
    have hFound : user.id ≠ -1 := by
      unfold accepts at hAccepts
      rw [Bool.and_eq_true] at hAccepts
      exact of_decide_eq_true hAccepts.1
    have hOther : user.id ∉ ids :=
      fun hId => hFound (hSpared hId)
    split
    · exact ⟨trivial, fun _ => trivial⟩
    · have hAnswer :
          (answerLogin env conn user).Always
            (ServerOp.Plain ids) :=
        always_answerLogin env trivial trivial trivial trivial
          (fun _ => trivial) fun _ => trivial
      exact
        ⟨hOther, fun _ =>
          ⟨trivial, fun _ => ⟨fun _ => hOther, fun _ =>
            hAnswer⟩⟩⟩
  · exact ⟨trivial, fun _ => trivial⟩

/- The user of a connection is none of these. -/
theorem indifferent_onConnection (conn : ConnId) :
    Indifferent ids (ChatServer.onConnection conn) := by
  apply Process.indifferent_bind
  · refine ⟨trivial, fun _ _ hSame => by rw [hSame], ?_⟩
    intro (found : Option Int) hSpared
    change Indifferent ids
      (if Option.getD found (-1) = -1 then _ else _)
    split
    · trivial
    rename_i hKnown
    refine ⟨trivial, ?_, ?_⟩
    · intro user other hAlike
      cases hFound : found with
      | none =>
          rw [hFound] at hKnown
          exact absurd rfl hKnown
      | some userid =>
          rw [hFound] at hAlike
          rw [hAlike.2 (hSpared userid hFound)]
    · intro (user : User) _
      apply indifferent_of_plain
      change Process.Always _
        (if user.id ≠ -1 then _ else _)
      split
      · exact
          ⟨ServerOp.plain_offline user.id, fun _ =>
            ⟨trivial, fun _ => trivial⟩⟩
      · exact ⟨trivial, fun _ => trivial⟩
  · intro _
    exact indifferent_of_plain ⟨trivial, fun _ => trivial⟩

------------------------------------------------------------
-- The Handler of a Frame
------------------------------------------------------------

theorem indifferent_frame
    {env : Externals}
    {conn : ConnId}
    {body : String}
    {readings : Readings}
    {handler : Handler Unit}
    (hFrame : FrameHandler env conn body readings handler) :
    Indifferent ids handler := by
  cases hFrame with
  | login js parsed => exact indifferent_login env conn js
  | loginout js parsed =>
      apply indifferent_of_plain
      apply always_loginout
      · exact fun _ => trivial
      · exact fun _ => trivial
      · exact fun userid => ServerOp.plain_offline userid
  | onechat js parsed isInteger typed =>
      exact indifferent_onechat env js readings
  | groupchat js parsed isInteger typed =>
      exact indifferent_groupchat env js readings
  | reg js parsed =>
      apply indifferent_of_plain
      apply always_reg
      · exact fun _ hState => hState
      · exact fun _ => trivial
  | addfriend js parsed =>
      apply indifferent_of_plain
      apply always_addfriend
      exact fun _ _ => trivial
  | creategroup js parsed =>
      apply indifferent_of_plain
      apply always_creategroup
      exact fun _ _ _ => trivial
  | addgroup js parsed =>
      apply indifferent_of_plain
      apply always_addgroup
      exact fun _ _ => trivial
  | nothing => trivial
  | fails error => trivial

/- The handler of any frame. -/
theorem indifferent_onMessage
    (ids : List Int)
    (env : Externals)
    (conn : ConnId)
    (body : String)
    (readings : Readings) :
    Indifferent ids
      (ChatServer.onMessage env conn body readings) := by
  rcases onMessage_cases env conn body readings with
    ⟨handler, hFrame, hHandler⟩
  rw [hHandler]
  apply Process.indifferent_tryCatch
  · exact indifferent_frame hFrame
  · intro error
    exact indifferent_of_plain ⟨trivial, fun _ => trivial⟩

end ChatService

end ClusterChat
