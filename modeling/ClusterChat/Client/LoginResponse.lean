import ClusterChat.Client.Login
import ClusterChat.Client.Receive

/-
  What the client makes of the answer to a login, translated
  from `main` in `main.cpp` of the client.

  Friends, groups, and members of groups arrive as texts of
  their own, inside the text of the answer.  Lists that the
  answer leaves out stay as they were.

  Main declarations:
    * `Client.Session`
    * `Client.readFriend` and `Client.readGroup`
    * `Client.readLogin`
-/

------------------------------------------------------------
-- The Session
------------------------------------------------------------

namespace ClusterChat

namespace Client

/- A friend in the list of the client. -/
structure Friend where
  id : Int
  name : String
  state : String
deriving DecidableEq, Repr

/- `Groupuser`: a member of a group, with the role. -/
structure Groupuser extends Friend where
  role : String
deriving DecidableEq, Repr

/- `Group` -/
structure Group where
  id : Int
  name : String
  desc : String
  users : List Groupuser
deriving DecidableEq, Repr

/- `g_currentUser`, `g_currentUserFriendList`, and
`g_currentUserGroupList`. -/
structure Session where
  id : Int
  name : String
  state : UserState
  friendList : List Friend
  groupList : List Group

/- What a login comes to: the error message is printed, or
the session is filled and the offline messages are shown. -/
inductive LoginOutcome where
| refused (errmsg : Json)
| accepted (session : Session) (offline : Option (List Json))

------------------------------------------------------------
-- Reading the Answer
------------------------------------------------------------

variable (codec : JsonCodec)

/- `json::parse`, which throws. -/
def parseOrThrow (text : String) : Except JsonException Json :=
  match codec.parse text with
  | some js => .ok js
  | none => .error .parseError

/- The loop over `response["friends"]`. -/
def readFriend
    (str : String) : Except JsonException Friend := do
  let js ← parseOrThrow codec str
  let id ← (member js "id").getInt
  let name ← (member js "name").getString
  let state ← (member js "state").getString
  return { id := id, name := name, state := state }

/- The loop over `js["users"]`. -/
def readGroupuser
    (userstr : String) : Except JsonException Groupuser := do
  let js2 ← parseOrThrow codec userstr
  let id ← (member js2 "id").getInt
  let name ← (member js2 "name").getString
  let state ← (member js2 "state").getString
  let role ← (member js2 "role").getString
  return (
    { id := id, name := name, state := state, role := role } :
    Groupuser)

/- The members of a group, if the text has them. -/
def readUsers (js : Json) :
    Except JsonException (List Groupuser) :=
  if js.contains "users" then do
    let vec2 ← (member js "users").getStrings
    vec2.mapM (readGroupuser codec)
  else
    return []

/- The loop over `response["groups"]`. -/
def readGroup (str : String) : Except JsonException Group := do
  let js ← parseOrThrow codec str
  let id ← (member js "id").getInt
  let name ← (member js "groupname").getString
  let desc ← (member js "groupdesc").getString
  let users ← readUsers codec js
  return { id := id, name := name, desc := desc, users := users }

/- A list of the answer; without the member the old one
stays. -/
def readList
    {α : Type}
    (read : String → Except JsonException α)
    (response : Json)
    (key : String)
    (old : List α) : Except JsonException (List α) :=
  if response.contains key then do
    let vec ← (member response key).getStrings
    vec.mapM read
  else
    return old

/- `case 1` of `main`, from `json::parse(responseStr)` on. -/
def readLogin
    (session : Session)
    (responseStr : String) :
    Except JsonException LoginOutcome := do
  let response ← parseOrThrow codec responseStr
  let errno ← (member response "errno").getInt
  if errno = 0 then
    let id ← (member response "id").getInt
    let name ← (member response "name").getString
    let friendList ←
      readList (readFriend codec) response "friends"
        session.friendList
    let groupList ←
      readList (readGroup codec) response "groups"
        session.groupList
    let offline ← offlineMessages codec response
    return .accepted
      { id := id
        name := name
        state := .online
        friendList := friendList
        groupList := groupList }
      offline
  else
    return .refused (member response "errmsg")

------------------------------------------------------------
-- Reading Members and Lists
------------------------------------------------------------

/- A parsed member is read like the one that was sent. -/
theorem member_normalize (js : Json) (key : String) :
    member js.normalize key = (member js key).normalize := by
  unfold member
  rw [Json.find?_normalize]
  cases js.find? key <;> rfl

theorem contains_normalize (js : Json) (key : String) :
    js.normalize.contains key = js.contains key := by
  unfold Json.contains
  rw [Json.find?_normalize]
  cases js.find? key <;> rfl

theorem mapM_read_ok
    {α β γ : Type}
    {read : β → Except JsonException γ}
    {write : α → β}
    {value : α → γ}
    {rows : List α}
    (hRead : ∀ row ∈ rows, read (write row) = .ok (value row)) :
    (rows.map write).mapM read = .ok (rows.map value) := by
  induction rows with
  | nil => rfl
  | cons row rows ih =>
      rcases List.forall_mem_cons.mp hRead with
        ⟨hFirst, hOthers⟩
      rw [List.map_cons, List.mapM_cons, hFirst, ih hOthers]
      rfl

end Client

end ClusterChat
