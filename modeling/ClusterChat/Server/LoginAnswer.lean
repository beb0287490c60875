import ClusterChat.Server.Payloads

/-
  What a successful login answers.

  The answer is put together from four queries: the stored
  messages, the friends, the groups, and the members of each
  group.  It depends on nothing else.

  Main declarations:
    * `ChatService.loginAnswer`
    * `ChatService.ensures_answerLogin`
-/

------------------------------------------------------------
-- The Answer
------------------------------------------------------------

namespace ClusterChat

namespace ChatService

variable (env : Externals)

/- The friends are added when there are any. -/
def withFriends
    (vecFriend : List User)
    (response : JsonObject) : JsonObject :=
  if vecFriend.isEmpty then
    response
  else
    JsonObject.assign "friends"
      (.array (vecFriend.map fun user =>
        .string (friendText env user))) response

/- The groups are added when there are any. -/
def withGroups
    (groupuserVec : List (GroupRow × List (User × String)))
    (response : JsonObject) : JsonObject :=
  if groupuserVec.isEmpty then
    response
  else
    JsonObject.assign "groups"
      (.array (groupuserVec.map fun group =>
        .string (groupText env group))) response

/- The answer from what the queries have returned. -/
def loginAnswer
    (user : User)
    (vec : List String)
    (vecFriend : List User)
    (groupuserVec :
      List (GroupRow × List (User × String))) :
    JsonObject :=
  withGroups env groupuserVec
    (withFriends env vecFriend
      (withOfflineMessages env.codec vec
        (loginAccepted user.id user.name)))

------------------------------------------------------------
-- The Queries
------------------------------------------------------------

section Queries

variable {assumed : (op : ServerOp) → op.Res → Prop}
variable {allowed : ServerOp → Prop}

theorem ensures_takeOffline
    {id : Int}
    (hQuery : allowed (.queryOffline id))
    (hRemove : allowed (.removeOffline id))
    (response : JsonObject) :
    (takeOffline env id response).Ensures assumed allowed
      fun result =>
        ∃ vec : List String,
          assumed (.queryOffline id) vec ∧
            result =
              withOfflineMessages env.codec vec response := by
  unfold takeOffline
  apply ensures_ask hQuery
  intro (vec : List String) hVec
  split
  · rename_i hEmpty
    refine ⟨vec, hVec, ?_⟩
    unfold withOfflineMessages
    rw [if_pos hEmpty]
  · exact ⟨hRemove, fun _ _ => ⟨vec, hVec, rfl⟩⟩

theorem ensures_addFriends
    {id : Int}
    (hQuery : allowed (.queryFriends id))
    (response : JsonObject) :
    (addFriends env id response).Ensures assumed allowed
      fun result =>
        ∃ vecFriend : List User,
          assumed (.queryFriends id) vecFriend ∧
            result = withFriends env vecFriend response := by
  unfold addFriends
  apply ensures_ask hQuery
  intro (vecFriend : List User) hFriends
  split
  · rename_i hEmpty
    refine ⟨vecFriend, hFriends, ?_⟩
    unfold withFriends
    rw [if_pos hEmpty]
  · rename_i hSome
    refine ⟨vecFriend, hFriends, ?_⟩
    unfold withFriends
    rw [if_neg hSome]

/- Each group gets what its own statement has returned. -/
theorem ensures_queryMembers
    (hQuery : ∀ groupid, allowed (.queryMembersOf groupid))
    (groups : List GroupRow) :
    (queryMembers groups).Ensures assumed allowed
      fun result =>
        result.map Prod.fst = groups ∧
          ∀ group ∈ result,
            assumed (.queryMembersOf group.1.id) group.2 := by
  induction groups with
  | nil => exact ⟨rfl, List.forall_mem_nil _⟩
  | cons group groups ih =>
      unfold queryMembers
      apply ensures_ask (hQuery group.id)
      intro (users : List (User × String)) hUsers
      refine Process.ensures_bind ih ?_
      intro rest hRest
      refine ⟨?_, ?_⟩
      · rw [List.map_cons, hRest.1]
      · intro other hOther
        rcases List.mem_cons.mp hOther with hHere | hThere
        · rw [hHere]
          exact hUsers
        · exact hRest.2 other hThere

theorem ensures_addGroups
    {id : Int}
    (hQuery : allowed (.queryGroupsOf id))
    (hMembers : ∀ groupid, allowed (.queryMembersOf groupid))
    (response : JsonObject) :
    (addGroups env id response).Ensures assumed allowed
      fun result =>
        ∃ groupuserVec : List (GroupRow × List (User × String)),
          assumed (.queryGroupsOf id)
              (groupuserVec.map Prod.fst) ∧
            (∀ group ∈ groupuserVec,
              assumed (.queryMembersOf group.1.id)
                group.2) ∧
              result =
                withGroups env groupuserVec response := by
  unfold addGroups
  apply ensures_ask hQuery
  intro (groups : List GroupRow) hGroups
  refine
    Process.ensures_bind
      (ensures_queryMembers hMembers groups) ?_
  intro groupuserVec hVec
  have hQueried :
      assumed (.queryGroupsOf id)
        (groupuserVec.map Prod.fst) := by
    rw [hVec.1]
    exact hGroups
  split
  · rename_i hEmpty
    refine ⟨groupuserVec, hQueried, hVec.2, ?_⟩
    unfold withGroups
    rw [if_pos hEmpty]
  · rename_i hSome
    refine ⟨groupuserVec, hQueried, hVec.2, ?_⟩
    unfold withGroups
    rw [if_neg hSome]

/- The answer is made of what the queries return. -/
theorem ensures_answerLogin
    {conn : ConnId}
    {user : User}
    (hOffline : allowed (.queryOffline user.id))
    (hRemove : allowed (.removeOffline user.id))
    (hFriends : allowed (.queryFriends user.id))
    (hGroups : allowed (.queryGroupsOf user.id))
    (hMembers : ∀ groupid, allowed (.queryMembersOf groupid))
    (hSend :
      ∀ (vec : List String) (vecFriend : List User)
        (groupuserVec :
          List (GroupRow × List (User × String))),
        assumed (.queryOffline user.id) vec →
          assumed (.queryFriends user.id) vecFriend →
            assumed (.queryGroupsOf user.id)
                (groupuserVec.map Prod.fst) →
              (∀ group ∈ groupuserVec,
                assumed (.queryMembersOf group.1.id)
                  group.2) →
                allowed
                  (.send conn
                    (env.codec.dump
                      (.object
                        (loginAnswer env user vec vecFriend
                          groupuserVec))))) :
    (answerLogin env conn user).Ensures assumed allowed
      fun _ => True := by
  unfold answerLogin
  refine
    Process.ensures_bind
      (ensures_takeOffline env hOffline hRemove _) ?_
  rintro stored ⟨vec, hVec, rfl⟩
  refine
    Process.ensures_bind
      (ensures_addFriends env hFriends _) ?_
  rintro befriended ⟨vecFriend, hVecFriend, rfl⟩
  refine
    Process.ensures_bind
      (ensures_addGroups env hGroups hMembers _) ?_
  rintro response
    ⟨groupuserVec, hQueried, hListed, rfl⟩
  exact
    ⟨hSend vec vecFriend groupuserVec hVec hVecFriend hQueried
      hListed, fun _ _ => trivial⟩

end Queries

end ChatService

end ClusterChat
