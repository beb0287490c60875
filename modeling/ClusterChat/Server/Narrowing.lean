import ClusterChat.Server.Rejection

/-
  The numbers of a frame and the ints that the server acts
  on.

  `get<int>()` converts every number, and Booleans too, by a
  cast.  The int is the number of the frame exactly when the
  field holds a whole number of 32 bits.

  Main declarations:
    * `Json.number?` and `Json.FitsInt`
    * `Json.exact_iff`
    * `ChatServer.NotNarrowed`
    * `ChatService.names_getHandler`
    * `ChatServer.not_narrowed_iff`
-/

------------------------------------------------------------
-- Numbers and Ints
------------------------------------------------------------

namespace ClusterChat

theorem toInt32_bounds (value : Int) :
    -2 ^ 31 ≤ toInt32 value ∧ toInt32 value < 2 ^ 31 := by
  have hLow :=
    Int.le_bmod (x := value) (m := 2 ^ 32) (by decide)
  have hHigh :=
    Int.bmod_lt (x := value) (m := 2 ^ 32) (by decide)
  unfold toInt32
  omega

/- The cast keeps exactly the numbers of 32 bits. -/
theorem toInt32_eq_self_iff (value : Int) :
    toInt32 value = value ↔
      -2 ^ 31 ≤ value ∧ value < 2 ^ 31 := by
  constructor
  · intro hSame
    rw [← hSame]
    exact toInt32_bounds value
  · intro hBounds
    unfold toInt32
    apply Int.bmod_eq_of_le
    · omega
    · omega

namespace Json

/- The number that a JSON value is, if it is one. -/
def number? : Json → Option Rat
| .unsigned value => some value
| .integer value => some value
| .float value => some value
| _ => none

/- A whole number of 32 bits, or nothing that `get<int>()`
converts. -/
def FitsInt : Json → Prop
| .unsigned value => value < 2 ^ 31
| .integer value => -2 ^ 31 ≤ value ∧ value < 2 ^ 31
| .float value =>
    value.den = 1 ∧
      -2 ^ 31 ≤ value.num ∧ value.num < 2 ^ 31
| .boolean _ => False
| _ => True

instance : DecidablePred FitsInt := fun js => by
  cases js <;> unfold FitsInt <;> infer_instance

/- Whatever int is read, it is the number. -/
def Exact (js : Json) : Prop :=
  ∀ value, js.getInt = .ok value → js.number? = some value

theorem exact_of_whole
    {js : Json}
    {whole : Int}
    (hRead : js.getNumber = .ok whole)
    (hNumber : js.number? = some whole) :
    js.Exact ↔ -2 ^ 31 ≤ whole ∧ whole < 2 ^ 31 := by
  have hInt : js.getInt = .ok (toInt32 whole) := by
    unfold getInt
    rw [hRead]
    rfl
  unfold Exact
  rw [hInt, hNumber, ← toInt32_eq_self_iff]
  constructor
  · intro hExact
    have hSame := Option.some.inj (hExact _ rfl)
    exact (Rat.intCast_inj.mp hSame).symm
  · intro hSame value hValue
    rw [← Except.ok.inj hValue, hSame]

/- The int is the number exactly for these values. -/
theorem exact_iff (js : Json) : js.Exact ↔ js.FitsInt := by
  cases js with
  | unsigned value =>
      rw [exact_of_whole rfl rfl]
      unfold FitsInt
      omega
  | integer value => exact exact_of_whole rfl rfl
  | float value =>
      by_cases hWhole : value.den = 1
      · have hNumber : value = (value.num : Rat) :=
          (Rat.den_eq_one_iff value).mp hWhole |>.symm
        have hRead :
            (Json.float value).getNumber = .ok value.num := by
          simp [getNumber, hWhole]
        rw [exact_of_whole hRead (congrArg some hNumber)]
        unfold FitsInt
        simp [hWhole]
      · refine iff_of_false ?_ fun hFits => hWhole hFits.1
        intro hExact
        have hSame := Option.some.inj (hExact _ rfl)
        apply hWhole
        rw [hSame]
        rfl
  | boolean value =>
      refine iff_of_false ?_ fun hFits => hFits
      intro hExact
      have hNone := hExact _ rfl
      cases hNone
  | _ =>
      refine iff_of_true ?_ trivial
      intro value hValue
      cases hValue

end Json

------------------------------------------------------------
-- The Ints of a Handler
------------------------------------------------------------

/- The operation names no user or group but these, and no
conversation of others. -/
def ServerOp.Names (acted : Int → Prop) : ServerOp → Prop
| eraseConn userid => acted userid
| unsubscribe userid => acted userid
| updateState userid _ => acted userid
| incrSeq conversationId =>
    (∃ fromid toid,
        acted fromid ∧
          acted toid ∧ conversationId = conv.p2p fromid toid) ∨
      ∃ groupid,
        acted groupid ∧ conversationId = conv.group groupid
| findAndSend userid _ => acted userid
| insertFriend userid friendid =>
    acted userid ∧ acted friendid
| createGroupWithCreator _ _ userid => acted userid
| addGroup userid groupid _ => acted userid ∧ acted groupid
| queryGroupUsers userid groupid =>
    acted userid ∧ acted groupid
| _ => True

namespace ChatService

/- The message types that have a handler. -/
def registered : List EnMsgType :=
  [.loginMsg, .loginoutMsg, .regMsg, .oneChatMsg,
    .addFriendMsg, .createGroupMsg, .addGroupMsg,
    .groupChatMsg]

/- The int that the handler reads from one of its fields. -/
def ActsOn
    (msgid : Int)
    (js : JsonObject)
    (value : Int) : Prop :=
  ∃ key,
    (key, FieldKind.number) ∈ requires msgid ∧
      (js.field key).getInt = .ok value

/- A field is read, and what follows may use the value. -/
theorem always_read
    {α : Type}
    {allowed : ServerOp → Prop}
    {value : Except JsonException α}
    {rest : α → Handler Unit}
    (hRest :
      ∀ found,
        value = .ok found → (rest found).Always allowed) :
    (orThrow value >>= rest).Always allowed := by
  cases value with
  | error error => trivial
  | ok found => exact hRest found rfl

section Names

variable {acted : Int → Prop} {js : JsonObject}

/- The ints that a field is read as are among these. -/
abbrev Covers
    (acted : Int → Prop)
    (js : JsonObject)
    (key : String) : Prop :=
  ∀ value, (js.field key).getInt = .ok value → acted value

theorem names_loginout
    (hId : Covers acted js "id") :
    (loginout js).Always (ServerOp.Names acted) := by
  apply always_read
  intro userid hUserid
  have hActed := hId userid hUserid
  exact
    ⟨hActed, fun _ =>
      ⟨hActed, fun _ => ⟨hActed, fun _ => trivial⟩⟩⟩

theorem names_reg
    (env : Externals)
    (conn : ConnId)
    (readings : Readings) :
    (reg env conn js readings).Always
      (ServerOp.Names acted) := by
  apply always_read
  intro name _
  apply always_read
  intro password _
  exact
    ⟨trivial, fun _ => ⟨trivial, fun _ => trivial⟩⟩

theorem names_onechat
    (env : Externals)
    (readings : Readings)
    (hId : Covers acted js "id")
    (hToid : Covers acted js "toid") :
    (onechat env js readings).Always
      (ServerOp.Names acted) := by
  apply always_read
  intro fromid hFrom
  apply always_read
  intro toid hTo
  refine
    ⟨Or.inl
      ⟨fromid, toid, hId fromid hFrom, hToid toid hTo, rfl⟩,
      fun seq => ?_⟩
  exact
    always_routeOne (hToid toid hTo) trivial trivial trivial

theorem names_addfriend
    (hId : Covers acted js "id")
    (hFriendid : Covers acted js "friendid") :
    (addfriend js).Always (ServerOp.Names acted) := by
  apply always_read
  intro userid hUserid
  apply always_read
  intro friendid hFriend
  exact
    ⟨⟨hId userid hUserid, hFriendid friendid hFriend⟩,
      fun _ => trivial⟩

theorem names_creategroup
    (hId : Covers acted js "id") :
    (creategroup js).Always (ServerOp.Names acted) := by
  apply always_read
  intro userid hUserid
  apply always_read
  intro groupname _
  apply always_read
  intro groupdesc _
  exact ⟨hId userid hUserid, fun _ => trivial⟩

theorem names_addgroup
    (hId : Covers acted js "id")
    (hGroupid : Covers acted js "groupid") :
    (addgroup js).Always (ServerOp.Names acted) := by
  apply always_read
  intro userid hUserid
  apply always_read
  intro groupid hGroup
  exact
    ⟨⟨hId userid hUserid, hGroupid groupid hGroup⟩,
      fun _ => trivial⟩

theorem names_groupchat
    (env : Externals)
    (readings : Readings)
    (hId : Covers acted js "id")
    (hGroupid : Covers acted js "groupid") :
    (groupchat env js readings).Always
      (ServerOp.Names acted) := by
  apply always_read
  intro userid hUserid
  apply always_read
  intro groupid hGroup
  refine
    ⟨Or.inr ⟨groupid, hGroupid groupid hGroup, rfl⟩,
      fun seq => ?_⟩
  refine
    ⟨⟨hId userid hUserid, hGroupid groupid hGroup⟩,
      fun users => ?_⟩
  exact
    always_routeGroup (fun _ => trivial) (fun _ => trivial)
      (fun _ => trivial) (fun _ => trivial)
      (fun _ => trivial) users

end Names

/- A handler names nothing but the ints that it has read
from its fields; a login takes its user from the table. -/
theorem names_getHandler
    (env : Externals)
    {msgid : Int}
    (hNotLogin : msgid ≠ EnMsgType.loginMsg.code)
    (conn : ConnId)
    (js : JsonObject)
    (readings : Readings) :
    (getHandler env msgid conn js readings).Always
      (ServerOp.Names (ActsOn msgid js)) := by
  have hCovers :
      ∀ key,
        (key, FieldKind.number) ∈ requires msgid →
          Covers (ActsOn msgid js) js key :=
    fun key hKey value hValue => ⟨key, hKey, hValue⟩
  unfold getHandler
  rw [if_neg hNotLogin]
  split
  · rename_i hType
    exact
      names_loginout (hCovers _ (by rw [hType]; decide))
  split
  · exact names_reg env conn readings
  split
  · rename_i hType
    exact
      names_onechat env readings
        (hCovers _ (by rw [hType]; decide))
        (hCovers _ (by rw [hType]; decide))
  split
  · rename_i hType
    exact
      names_addfriend (hCovers _ (by rw [hType]; decide))
        (hCovers _ (by rw [hType]; decide))
  split
  · rename_i hType
    exact
      names_creategroup (hCovers _ (by rw [hType]; decide))
  split
  · rename_i hType
    exact
      names_addgroup (hCovers _ (by rw [hType]; decide))
        (hCovers _ (by rw [hType]; decide))
  split
  · rename_i hType
    exact
      names_groupchat env readings
        (hCovers _ (by rw [hType]; decide))
        (hCovers _ (by rw [hType]; decide))
  · trivial

end ChatService

------------------------------------------------------------
-- Frames
------------------------------------------------------------

namespace ChatServer

open ChatService

/- The frame is given to the handler of this number. -/
def Runs (js : JsonObject) (msgid : Int) : Prop :=
  (js.field "msgid").isNumberInteger = true ∧
    (js.field "msgid").getInt = .ok msgid

theorem dispatch_of_runs
    {js : JsonObject}
    {msgid : Int}
    (hRuns : Runs js msgid)
    (env : Externals)
    (conn : ConnId)
    (readings : Readings) :
    dispatch env conn (.object js) readings =
      getHandler env msgid conn js readings := by
  rcases hRuns with ⟨hInteger, hMsgid⟩
  unfold dispatch
  dsimp only
  rw [if_pos hInteger, hMsgid]
  rfl

/-
  No integer of the frame is narrowed: its type is that of
  the handler that runs, and every int that the handler acts
  on, without rejecting the frame, is the number of the
  field.
-/
structure NotNarrowed (js : JsonObject) : Prop where
  dispatched :
    ∀ type ∈ registered,
      Runs js type.code ↔
        (js.field "msgid").number? = some (type.code : Rat)
  acted :
    ∀ type ∈ registered,
      Runs js type.code →
        readable type.code js = true →
          ∀ key,
            (key, FieldKind.number) ∈ requires type.code →
              (js.field key).Exact

/-
  The type has 32 bits, or it is congruent to that of no
  handler; and when it is congruent to one that gets all its
  fields, the numbers among them are whole and of 32 bits.
-/
structure Fits (js : JsonObject) : Prop where
  type :
    ∀ v : Int,
      (js.field "msgid").getNumber = .ok v →
        (-2 ^ 31 ≤ v ∧ v < 2 ^ 31) ∨
          ∀ type ∈ registered,
            ¬ (2 ^ 32 : Int) ∣ v - (type.code : Int)
  fields :
    ∀ v : Int,
      (js.field "msgid").getNumber = .ok v →
        ∀ type ∈ registered,
          (2 ^ 32 : Int) ∣ v - (type.code : Int) →
            readable type.code js = true →
              ∀ key,
                (key, FieldKind.number) ∈
                    requires type.code →
                  (js.field key).FitsInt

/- An integer type is read as a 32-bit int. -/
theorem runs_iff
    {js : JsonObject}
    (hInteger : (js.field "msgid").isNumberInteger = true)
    {v : Int}
    (hNumber : (js.field "msgid").getNumber = .ok v)
    (type : EnMsgType) :
    Runs js type.code ↔
      (2 ^ 32 : Int) ∣ v - (type.code : Int) := by
  have hSmall : type.code < 2 ^ 31 := by
    cases type <;> decide
  have hRead :
      (js.field "msgid").getInt = .ok (toInt32 v) := by
    unfold Json.getInt
    rw [hNumber]
    rfl
  unfold Runs
  rw [hRead, Except.ok.injEq]
  simp only [hInteger, true_and]
  have hBounds := toInt32_bounds v
  have hCongruent : (2 ^ 32 : Int) ∣ v - toInt32 v :=
    Int.dvd_self_sub_bmod
  omega

/- An integer is read as itself. -/
theorem number_of_integer
    {value : Json}
    (hInteger : value.isNumberInteger = true) :
    ∃ v : Int,
      value.getNumber = .ok v ∧ value.number? = some (v : Rat) := by
  cases value with
  | unsigned value => exact ⟨value, rfl, rfl⟩
  | integer value => exact ⟨value, rfl, rfl⟩
  | _ => cases hInteger

theorem fits_of_notNarrowed
    {js : JsonObject}
    (hInteger : (js.field "msgid").isNumberInteger = true)
    (hKept : NotNarrowed js) :
    Fits js := by
  rcases number_of_integer hInteger with
    ⟨v, hNumber, hValue⟩
  have hOnly :
      ∀ w : Int,
        (js.field "msgid").getNumber = .ok w → w = v := by
    intro w hW
    exact Except.ok.inj (hW.symm.trans hNumber)
  have hRuns := runs_iff hInteger hNumber
  constructor
  · intro w hW
    rw [hOnly w hW]
    by_cases hFits : -2 ^ 31 ≤ v ∧ v < 2 ^ 31
    · exact Or.inl hFits
    · refine Or.inr fun type hType hCongruent => ?_
      have hSame :=
        (hKept.dispatched type hType).mp
          ((hRuns type).mpr hCongruent)
      rw [hValue] at hSame
      have hCode : v = (type.code : Int) :=
        Rat.intCast_inj.mp (Option.some.inj hSame)
      apply hFits
      rw [hCode]
      cases type <;> decide
  · intro w hW type hType hCongruent hReadable key hKey
    rw [hOnly w hW] at hCongruent
    exact
      (Json.exact_iff _).mp
        (hKept.acted type hType
          ((hRuns type).mpr hCongruent) hReadable key hKey)

theorem notNarrowed_of_fits
    {js : JsonObject}
    (hInteger : (js.field "msgid").isNumberInteger = true)
    (hFits : Fits js) :
    NotNarrowed js := by
  rcases number_of_integer hInteger with
    ⟨v, hNumber, hValue⟩
  have hRuns := runs_iff hInteger hNumber
  constructor
  · intro type hType
    rw [hRuns type, hValue]
    constructor
    · intro hCongruent
      rcases hFits.type v hNumber with hSmall | hOther
      · have hCode : type.code < 2 ^ 31 := by
          cases type <;> decide
        have hSame : v = (type.code : Int) := by omega
        rw [hSame]
        rfl
      · exact absurd hCongruent (hOther type hType)
    · intro hSame
      have hCode : v = (type.code : Int) :=
        Rat.intCast_inj.mp (Option.some.inj hSame)
      rw [hCode, sub_self]
      exact dvd_zero _
  · intro type hType hRun hReadable key hKey
    exact
      (Json.exact_iff _).mpr
        (hFits.fields v hNumber type hType
          ((hRuns type).mp hRun) hReadable key hKey)

/-
  For every frame with an integer type, nothing is narrowed
  exactly when its numbers fit.  The handler that runs is
  that of `getHandler`, and but for a login it names no other
  ints than those that it reads.
-/
theorem not_narrowed_iff
    (env : Externals)
    (conn : ConnId)
    (readings : Readings)
    (js : JsonObject)
    (hInteger :
      (js.field "msgid").isNumberInteger = true) :
    (NotNarrowed js ↔ Fits js) ∧
      ∀ type : EnMsgType,
        Runs js type.code →
          dispatch env conn (.object js) readings =
              getHandler env type.code conn js readings ∧
            (type ≠ .loginMsg →
              (dispatch env conn (.object js)
                  readings).Always
                (ServerOp.Names (ActsOn type.code js))) := by
  refine
    ⟨⟨fits_of_notNarrowed hInteger,
        notNarrowed_of_fits hInteger⟩, ?_⟩
  intro type hRun
  have hHandler := dispatch_of_runs hRun env conn readings
  refine ⟨hHandler, ?_⟩
  intro hNotLogin
  have hCode :
      (type.code : Int) ≠ EnMsgType.loginMsg.code := by
    cases type <;> first | decide | exact absurd rfl hNotLogin
  rw [hHandler]
  exact names_getHandler env hCode conn js readings

/- A message from user 1 to user 2. -/
def smallFrame : JsonObject :=
  [("id", .unsigned 1), ("msgid", .unsigned 6),
    ("toid", .unsigned 2)]

theorem smallFrame_is_kept : NotNarrowed smallFrame := by
  refine
    (not_narrowed_iff ⟨JsonCodec.ofTable [], id, id⟩ 0
        ⟨0, []⟩ smallFrame rfl).1.mpr ⟨?_, ?_⟩
  · intro v hV
    have hSix : (6 : Int) = v := Except.ok.inj hV
    rw [← hSix]
    exact Or.inl (by decide)
  · intro v hV type hType hCongruent _ key hKey
    have hSix : (6 : Int) = v := Except.ok.inj hV
    rw [← hSix] at hCongruent
    cases type with
    | oneChatMsg =>
        have hKeys : key = "id" ∨ key = "toid" := by
          simpa [requires, EnMsgType.code] using hKey
        rcases hKeys with rfl | rfl <;> decide
    | _ => exact absurd hCongruent (by decide)

/- The same with `2 ^ 32` added to the type and the
recipient: user 2 gets it, as a chat message. -/
def wideFrame : JsonObject :=
  [("id", .unsigned 1), ("msgid", .unsigned 4294967302),
    ("toid", .unsigned 4294967298)]

theorem wideFrame_is_narrowed : ¬ NotNarrowed wideFrame := by
  intro hKept
  have hRuns :
      Runs wideFrame EnMsgType.oneChatMsg.code := by
    exact ⟨rfl, rfl⟩
  have hSame :=
    (hKept.dispatched .oneChatMsg (by decide)).mp hRuns
  have hCode : (4294967302 : Rat) = 6 :=
    Option.some.inj hSame
  exact absurd hCode (by decide)

end ChatServer

end ClusterChat
