import ClusterChat.Client.Program
import ClusterChat.EndToEnd.FrameCodec
import ClusterChat.EndToEnd.OneUser
import ClusterChat.EndToEnd.TypedRequests
import ClusterChat.JsonBound
import ClusterChat.Server.BadFrames
import ClusterChat.Server.FrameSizes

/-
  The commands of the main menu on their way to the server.

  A line that the buffer takes makes a frame far below the
  limit, whatever has to be escaped, and has the fields that
  its handler reads.  So the frame loop of the server gets the
  frames of all commands that are typed, calls a handler for
  each, and keeps the connection open.

  Main declarations:
    * `Client.Sends.size_le` and `Client.Sends.readable`
    * `Client.Program.frames_of_run` and
      `Client.Program.calls_of_lines`
    * `Client.typed_lines_reach_server`
-/

------------------------------------------------------------
-- Sizes of Frames
------------------------------------------------------------

namespace ClusterChat

namespace Client

theorem utf8ByteSize_of_text?
    {bytes : Bytes}
    {text : String}
    (hText : text? bytes = some text) :
    text.utf8ByteSize = bytes.length := by
  rw [← length_utf8, utf8_of_text? hText]

/- The colon belongs to neither part. -/
theorem length_splitColon
    {text front back : Bytes}
    (hSplit : splitColon text = some (front, back)) :
    front.length + back.length ≤ text.length := by
  unfold splitColon at hSplit
  split at hSplit
  · cases hSplit
  · cases hSplit
    rw [List.length_take, List.length_take, List.length_drop]
    omega

variable {user : CurrentUser}

/- A user with an id that is an int. -/
def CurrentUser.HasInt (user : CurrentUser) : Prop :=
  -2 ^ 31 ≤ user.id ∧ user.id < 2 ^ 31

/- Each member adds its key and its value. -/
theorem size_request_le
    (hInt : user.HasInt)
    (type : EnMsgType)
    (members : List (String × Json)) :
    (Json.object (request user type members)).size
        ratioText 0 ≤
      74 +
        (members.map fun member =>
          stringSize 0 member.1 + 2 +
            member.2.size ratioText 0).sum := by
  have hNil : JsonObject.Ascending [] := List.Pairwise.nil
  have hType := hNil.assign "msgid" (.integer type.code)
  have hId := hType.assign "id" (.integer user.id)
  have hSizes :
      (Json.object
          (JsonObject.assign "id" (.integer user.id)
            (JsonObject.assign "msgid"
              (.integer type.code) []))).size ratioText 0 ≤
        74 := by
    have hFirst :=
      hNil.size_assign_le ratioText "msgid"
        (.integer type.code)
    have hSecond :=
      hType.size_assign_le ratioText "id" (.integer user.id)
    have hCode : digits type.code ≤ 11 := by
      apply digits_le <;> cases type <;> decide
    have hNumber : digits user.id ≤ 11 :=
      digits_le hInt.1 hInt.2
    have hMsgid := stringSize_zero_le "msgid"
    have hKey := stringSize_zero_le "id"
    have hFive : "msgid".utf8ByteSize = 5 := rfl
    have hTwo : "id".utf8ByteSize = 2 := rfl
    have hEmpty : (Json.object []).size ratioText 0 = 2 := rfl
    rw [hEmpty, Json.size] at hFirst
    rw [Json.size] at hSecond
    omega
  unfold request
  revert hId hSizes
  generalize JsonObject.assign "id" _ _ = js
  generalize 74 = bound
  intro hId hSizes
  induction members generalizing js bound with
  | nil => exact hSizes
  | cons member members ih =>
      have hMember :=
        hId.size_assign_le ratioText member.1 member.2
      have hOthers :=
        ih _ _ (hId.assign member.1 member.2)
          (hMember.trans (Nat.add_le_add_right hSizes _))
      rw [List.map_cons, List.sum_cons, ← Nat.add_assoc]
      exact hOthers

/- The keys have nine letters at most. -/
theorem stringSize_key_le
    {key : String}
    (hKey : key.utf8ByteSize ≤ 9) :
    stringSize 0 key ≤ 56 := by
  have hSize := stringSize_zero_le key
  omega

/- A frame of a command: what was typed, the name, and the
time may have to be escaped. -/
theorem Sends.size_le
    {time : String}
    {handler : Command}
    {args : Bytes}
    {js : JsonObject}
    (hSends : Sends (.command user time handler args) js)
    (hInt : user.HasInt) :
    (Json.object js).size ratioText 0 ≤
      512 +
        6 * (user.name.utf8ByteSize + time.utf8ByteSize +
          args.length) := by
  have hName := stringSize_zero_le user.name
  have hTime := stringSize_zero_le time
  have hKey (key : String) (hShort : key.utf8ByteSize ≤ 9) :=
    stringSize_key_le hShort
  have hNumber {text : Bytes} {value : Int}
      (hValue : stoi text = some value) :
      digits value ≤ 11 :=
    digits_le (stoi_bounds hValue).1 (stoi_bounds hValue).2
  have hNameKey := hKey "name" (by decide)
  have hMsgKey := hKey "msg" (by decide)
  have hTimeKey := hKey "time" (by decide)
  cases hSends with
  | chat hSplit hRead =>
      rename_i friendid message text
      have hParts := length_splitColon hSplit
      have hText := stringSize_zero_le text
      have hBytes := utf8ByteSize_of_text? hRead
      have hToidKey := hKey "toid" (by decide)
      have hToid :=
        digits_le (atoi_bounds friendid).1
          (atoi_bounds friendid).2
      refine (size_request_le hInt _ _).trans ?_
      simp only [List.map_cons, List.map_nil, List.sum_cons,
        List.sum_nil, Json.size]
      omega
  | addfriend hValue =>
      have hFriendidKey := hKey "friendid" (by decide)
      have hFriendid := hNumber hValue
      refine (size_request_le hInt _ _).trans ?_
      simp only [List.map_cons, List.map_nil, List.sum_cons,
        List.sum_nil, Json.size]
      omega
  | creategroup hSplit hNamed hDescribed =>
      rename_i groupname groupdesc groupText descText
      have hParts := length_splitColon hSplit
      have hGroup := stringSize_zero_le groupText
      have hDesc := stringSize_zero_le descText
      have hGroupBytes := utf8ByteSize_of_text? hNamed
      have hDescBytes := utf8ByteSize_of_text? hDescribed
      have hGroupKey := hKey "groupname" (by decide)
      have hDescKey := hKey "groupdesc" (by decide)
      refine (size_request_le hInt _ _).trans ?_
      simp only [List.map_cons, List.map_nil, List.sum_cons,
        List.sum_nil, Json.size]
      omega
  | addgroup hValue =>
      have hGroupidKey := hKey "groupid" (by decide)
      have hGroupid := hNumber hValue
      refine (size_request_le hInt _ _).trans ?_
      simp only [List.map_cons, List.map_nil, List.sum_cons,
        List.sum_nil, Json.size]
      omega
  | groupchat hSplit hValue hRead =>
      rename_i target message groupid text
      have hParts := length_splitColon hSplit
      have hText := stringSize_zero_le text
      have hBytes := utf8ByteSize_of_text? hRead
      have hGroupidKey := hKey "groupid" (by decide)
      have hGroupid := hNumber hValue
      refine (size_request_le hInt _ _).trans ?_
      simp only [List.map_cons, List.map_nil, List.sum_cons,
        List.sum_nil, Json.size]
      omega
  | loginout =>
      refine (size_request_le hInt _ _).trans ?_
      rw [List.map_nil, List.sum_nil]
      omega

------------------------------------------------------------
-- Calls of the Main Menu
------------------------------------------------------------

namespace MainMenu

/- An iteration makes one call at most, whatever calls were
made before. -/
theorem round_calls
    (user : CurrentUser)
    (menu : MainMenu)
    (time : String) :
    ∃ call? : Option (Command × Bytes),
      (round user { menu with calls := [] } time).calls =
          call?.toList ∧
        round user menu time =
            { round user { menu with calls := [] } time with
              calls := menu.calls ++ call?.toList } ∧
          ∀ call ∈ call?,
            (round user { menu with calls := [] }
                time).threw =
              !(call.1.handle user time call.2).toBool := by
  have hNone :
      menu.calls ++ (none : Option (Command × Bytes)).toList =
        menu.calls := by
    rw [Option.toList_none, List.append_nil]
  unfold round
  dsimp only
  split
  · exact ⟨none, rfl, by rw [hNone], by simp⟩
  · split
    · exact ⟨none, rfl, by rw [hNone], by simp⟩
    · split
      · exact ⟨none, rfl, by rw [hNone], by simp⟩
      · refine ⟨some _, rfl, rfl, ?_⟩
        intro call hCall
        rw [← Option.some.inj hCall]

theorem run_calls
    (user : CurrentUser)
    (menu : MainMenu)
    (times : List String) :
    (run user menu times).calls =
      menu.calls ++
        (run user { menu with calls := [] } times).calls := by
  induction times generalizing menu with
  | nil => exact (List.append_nil _).symm
  | cons time times ih =>
      rcases round_calls user menu time with
        ⟨call?, hCall, hRound, _⟩
      change
        (run user (round user menu time) times).calls =
          menu.calls ++
            (run user
              (round user { menu with calls := [] } time)
              times).calls
      rw [ih, ih (round user { menu with calls := [] } time),
        hCall, hRound, List.append_assoc]

/- Only what fits into the buffer gets to a handler. -/
theorem length_executed
    {user : CurrentUser}
    {lines : List Bytes}
    {call : Command × Bytes}
    (hCall : call ∈ executed user lines) :
    call.2.length < bufferSize := by
  have hOne (line : Bytes) (hLine : line.length < bufferSize)
      (hHere : call ∈ (callOf line).toList) :
      call.2.length < bufferSize := by
    rcases Option.map_eq_some_iff.mp
        (Option.mem_toList.mp hHere) with
      ⟨handler, _, hSame⟩
    rw [← hSame]
    have hRest :=
      (List.dropWhile_sublist (l := line)
        fun byte => decide (byte ≠ colon)).length_le
    dsimp only
    rw [List.length_tail]
    omega
  induction lines with
  | nil => cases hCall
  | cons line lines ih =>
      unfold executed at hCall
      split at hCall
      · refine hOne _ ?_ hCall
        rw [List.length_take]
        unfold bufferSize
        omega
      · rename_i hFits
        have hLine : line.length < bufferSize :=
          not_le.mp hFits
        split at hCall
        · exact hOne line hLine hCall
        · rcases List.mem_append.mp hCall with hHere | hLater
          · exact hOne line hLine hHere
          · exact ih hLater

/- Without lines that are too long or throw, every command is
executed. -/
theorem executed_eq_filterMap
    {user : CurrentUser}
    {lines : List Bytes}
    (hFits : ∀ line ∈ lines, ¬ TooLong line)
    (hGoes :
      ∀ call ∈ executed user lines, ∃ time,
        (call.1.handle user time call.2).toBool = true) :
    executed user lines = lines.filterMap callOf := by
  induction lines with
  | nil => rfl
  | cons line lines ih =>
      rw [List.forall_mem_cons] at hFits
      unfold executed at hGoes ⊢
      rw [if_neg hFits.1] at hGoes ⊢
      by_cases hThrows : Throws user line
      · rw [if_pos hThrows] at hGoes
        have hSome := hThrows
        rcases hSome with ⟨call, hCall, hThrew⟩
        rcases hGoes call (Option.mem_toList.mpr hCall) with
          ⟨time, hTime⟩
        rw [hThrew time] at hTime
        cases hTime
      · rw [if_neg hThrows] at hGoes ⊢
        have hRest :=
          ih hFits.2 fun call hCall =>
            hGoes call (List.mem_append_right _ hCall)
        rw [hRest, List.filterMap_cons]
        cases callOf line <;> rfl

end MainMenu

------------------------------------------------------------
-- Frames of a Run
------------------------------------------------------------

/- A call of a handler at some time. -/
structure TimedCall where
  time : String
  call : Command × Bytes

/- What such a call is typed as. -/
def TimedCall.typed
    (user : CurrentUser)
    (timed : TimedCall) : Typed :=
  .command user timed.time timed.call.1 timed.call.2

/- The frame for what was typed, if one is sent. -/
def Typed.frame? (typed : Typed) : Option JsonObject :=
  match typed.sent with
  | .ok js => js
  | .error _ => none

/- The time of a turn of the main thread. -/
def Event.time? : Event → Option String
| .main moment => some moment.time
| _ => none

namespace Program

variable (codec : JsonCodec)

/- An aborted program does nothing. -/
theorem run_aborted
    {program : Program}
    (hAborted : program.place = .aborted)
    (events : List Event) :
    Transducer.run (step codec) program events =
      (program, []) := by
  induction events with
  | nil => rfl
  | cons event events ih =>
      have hIdle :
          program.turn codec event = (program, none) :=
        turn_idle codec (Or.inr (Or.inl hAborted))
      have hStep :
          program.step codec event = (program, []) := by
        unfold step
        rw [hIdle]
        rfl
      rw [Transducer.run_cons, hStep, ih]
      rfl

theorem receiveTurn_cin
    (program : Program)
    (arrival : Arrival) :
    (program.receiveTurn codec arrival).cin = program.cin := by
  unfold receiveTurn
  dsimp only
  split <;> rfl

/- A turn of the main menu that does not throw: the call that
is made, if any, and what is left of the input. -/
theorem menuTurn_stays
    {program : Program}
    {time : String}
    (hStays : (program.menuTurn time).1.place ≠ .aborted) :
    ∃ call? : Option TimedCall,
      (∀ timed ∈ call?,
        timed.time = time ∧
          (timed.typed program.user).sent.toBool = true) ∧
        (program.menuTurn time).2 =
            call?.bind
              (fun timed =>
                (timed.typed program.user).frame?) ∧
          MainMenu.round program.user { cin := program.cin }
              time =
            { cin := (program.menuTurn time).1.cin
              calls := (call?.map TimedCall.call).toList } := by
  rcases
      MainMenu.round_calls program.user
        { cin := program.cin } time with
    ⟨call?, hCall, _, hSent⟩
  have hThrew :
      (MainMenu.round program.user { cin := program.cin }
        time).threw = false := by
    cases hThrows :
        (MainMenu.round program.user { cin := program.cin }
          time).threw with
    | false => rfl
    | true =>
        refine absurd ?_ hStays
        unfold menuTurn
        exact if_pos hThrows
  refine ⟨call?.map (TimedCall.mk time), ?_, ?_, ?_⟩
  · intro timed hTimed
    rcases Option.map_eq_some_iff.mp hTimed with
      ⟨call, hMade, hSame⟩
    have hGoes := hSent call hMade
    rw [hThrew, eq_comm, Bool.not_eq_false'] at hGoes
    rw [← hSame]
    exact ⟨rfl, hGoes⟩
  · unfold menuTurn
    dsimp only
    rw [hCall]
    cases call? <;> rfl
  · unfold menuTurn
    dsimp only
    rw [Option.map_map]
    revert hCall hThrew
    generalize MainMenu.round _ _ _ = menu
    intro hCall hThrew
    rcases menu with ⟨cin, calls, threw⟩
    dsimp only at hCall hThrew
    rw [hCall, hThrew]
    cases call? <;> rfl

/-
  While the program stays in the main menu, it sends the
  frames of the calls that the menu makes on its own: the
  receive thread neither adds one nor takes one away.
-/
theorem frames_of_run
    {program : Program}
    {events : List Event}
    (hPlace : program.place = .mainMenu)
    (hStays :
      (Transducer.run (step codec) program
        events).1.place = .mainMenu) :
    ∃ calls : List TimedCall,
      (Transducer.run (step codec) program events).2 =
          calls.filterMap
            (fun timed => (timed.typed program.user).frame?) ∧
        calls.map TimedCall.call =
            (MainMenu.run program.user { cin := program.cin }
              (events.filterMap Event.time?)).calls ∧
          ∀ timed ∈ calls,
            timed.time ∈ events.filterMap Event.time? ∧
              (timed.typed program.user).sent.toBool =
                true := by
  induction events generalizing program with
  | nil => exact ⟨[], rfl, rfl, List.forall_mem_nil _⟩
  | cons event events ih =>
      have hStep :
          program.step codec event =
            ((program.turn codec event).1,
              (program.turn codec event).2.toList) := rfl
      rw [Transducer.run_cons, hStep] at hStays ⊢
      dsimp only at hStays ⊢
      have hNext :
          (program.turn codec event).1.place ≠ .aborted := by
        intro hAborted
        rw [run_aborted codec hAborted, hAborted] at hStays
        cases hStays
      cases event with
      | main moment =>
          rw [turn_menu codec hPlace] at hStays hNext ⊢
          rcases menuTurn_cases program moment.time with
            ⟨hMenu, hSession, _⟩
          have hUser :
              (program.menuTurn moment.time).1.user =
                program.user := by
            unfold user
            rw [hSession]
          rcases menuTurn_stays hNext with
            ⟨call?, hTime, hFrame, hRound⟩
          rcases ih (hMenu.resolve_right hNext) hStays with
            ⟨calls, hFrames, hCalls, hTimes⟩
          rw [hUser] at hFrames hCalls hTimes
          refine ⟨call?.toList ++ calls, ?_, ?_, ?_⟩
          · rw [List.filterMap_append, ← hFrames, hFrame]
            congr 1
            cases call? with
            | none => rfl
            | some timed =>
                rw [Option.bind_some, Option.toList_some,
                  List.filterMap_cons]
                cases (timed.typed program.user).frame? <;> rfl
          · have hRun :
                MainMenu.run program.user
                    { cin := program.cin }
                    (moment.time ::
                      events.filterMap Event.time?) =
                  MainMenu.run program.user
                    (MainMenu.round program.user
                      { cin := program.cin } moment.time)
                    (events.filterMap Event.time?) := rfl
            change
              _ =
                (MainMenu.run program.user
                  { cin := program.cin }
                  (moment.time ::
                    events.filterMap Event.time?)).calls
            rw [hRun, hRound, MainMenu.run_calls,
              List.map_append, hCalls]
            cases call? <;> rfl
          · intro timed hTimed
            rcases List.mem_append.mp hTimed with
              hHere | hLater
            · rcases
                  hTime timed (Option.mem_toList.mp hHere) with
                ⟨hNow, hGoes⟩
              rw [hNow]
              exact ⟨List.mem_cons_self, hGoes⟩
            · rcases hTimes timed hLater with ⟨hThen, hGoes⟩
              exact ⟨List.mem_cons_of_mem _ hThen, hGoes⟩
      | arrival arrival =>
          rw [turn_arrival codec hPlace] at hStays hNext ⊢
          rcases receiveTurn_cases codec program arrival with
            ⟨hMenu, hUser⟩
          rw [hPlace] at hMenu
          have hRest :=
            ih (hMenu.resolve_left hNext) hStays
          rw [hUser, receiveTurn_cin] at hRest
          exact hRest
      | hangUp =>
          rw [turn_hangUp codec hPlace] at hNext
          exact absurd rfl hNext

end Program

------------------------------------------------------------
-- From Lines to Requests
------------------------------------------------------------

/- The frame for what was typed, as it is dumped. -/
def Typed.dump?
    (codec : JsonCodec)
    (typed : Typed) : Option String :=
  typed.frame?.map fun js => codec.dump (.object js)

theorem sent_of_frame?
    {typed : Typed}
    {js : JsonObject}
    (hFrame : typed.frame? = some js) :
    typed.sent = .ok (some js) := by
  unfold Typed.frame? at hFrame
  split at hFrame
  · rename_i hSent
    rw [hSent, hFrame]
  · cases hFrame

/- The frame of a command that the buffer took is legal. -/
theorem length_dump
    {env : Externals}
    {strtod : String → Option Rat}
    (hCodec : env.codec = JsonCodec.library strtod)
    {user : CurrentUser}
    (hInt : user.HasInt)
    {timed : TimedCall}
    (hArgs : timed.call.2.length < bufferSize)
    (hShort :
      user.name.utf8ByteSize + timed.time.utf8ByteSize ≤
        8192)
    {js : JsonObject}
    (hFrame : (timed.typed user).frame? = some js) :
    1 ≤ (utf8 (env.codec.dump (.object js))).length ∧
      (utf8 (env.codec.dump (.object js))).length ≤
        kMaxFrameLen := by
  have hSends := sends_of_sent (sent_of_frame? hFrame)
  have hUpper := hSends.size_le hInt
  have hLower :
      2 ≤ (Json.object js).size ratioText 0 :=
    two_le_membersSize 0 _
  have hLength :
      (utf8 (env.codec.dump (.object js))).length =
        (Json.object js).size ratioText 0 := by
    rw [length_utf8, hCodec,
      (JsonCodec.library_prints strtod).dump_eq,
      Json.utf8ByteSize_print]
  unfold bufferSize at hArgs
  rw [hLength]
  unfold kMaxFrameLen
  omega

------------------------------------------------------------
-- Frames That Raise Nothing
------------------------------------------------------------

theorem fits_normalize
    (kind : FieldKind)
    (js : Json) :
    kind.fits js.normalize = kind.fits js := by
  cases kind with
  | number =>
      exact congrArg Except.toBool (Json.getInt_normalize js)
  | text =>
      exact
        congrArg Except.toBool (Json.getString_normalize js)

theorem fits_integer (value : Int) :
    FieldKind.number.fits (.integer value) = true := rfl

theorem fits_string (value : String) :
    FieldKind.text.fits (.string value) = true := rfl

theorem readable_normalizeFields
    (msgid : Int)
    (js : JsonObject) :
    ChatService.readable msgid (Json.normalizeFields js) =
      ChatService.readable msgid js := by
  unfold ChatService.readable
  simp only [JsonObject.field_normalizeFields,
    fits_normalize]

/- The handlers find the fields that they read. -/
theorem Sends.readable
    {typed : Typed}
    {js : JsonObject}
    (hSends : Sends typed js)
    {type : EnMsgType}
    (hType : typed.type? = some type) :
    ChatService.readable type.code js = true := by
  unfold ChatService.readable
  rw [List.all_eq_true]
  cases hSends <;> cases hType <;>
    simp [ChatService.requires, EnMsgType.code, request,
      JsonObject.field_assign, fits_integer, fits_string]

/- The handler call for what was typed: the type of the
frame, and its members as the parser returns them. -/
def Typed.call? (typed : Typed) : Option (Int × JsonObject) :=
  typed.frame?.bind fun js =>
    typed.type?.map fun type =>
      ((type.code : Int), Json.normalizeFields js)

section Dumped

variable {env : Externals}
variable {strtod : String → Option Rat}
variable {typed : Typed} {js : JsonObject}

theorem callOf_dump
    (hCodec : env.codec = JsonCodec.library strtod)
    (hSends : Sends typed js)
    (hInt : typed.HasInt)
    {type : EnMsgType}
    (hType : typed.type? = some type) :
    ChatServer.parseBody env
          (utf8 (env.codec.dump (.object js))) =
        some (.object (Json.normalizeFields js)) ∧
      ChatServer.callOf
          (.object (Json.normalizeFields js)) =
        some
          ((type.code : Int), Json.normalizeFields js) := by
  constructor
  · rw [ChatServer.parseBody_library hCodec]
    exact
      Externals.parse_dump hCodec (hSends.storable hInt)
  · rcases hSends.field_msgid with ⟨other, hOther, hField⟩
    rw [hType] at hOther
    rw [← Option.some.inj hOther] at hField
    have hInteger :
        (Json.integer type.code).isNumberInteger = true := rfl
    unfold ChatServer.callOf
    dsimp only
    rw [JsonObject.field_normalizeFields, hField,
      Json.isNumberInteger_normalize, hInteger, if_pos rfl,
      Json.getInt_normalize, Json.getInt_code]
    rfl

/- Its handler is called. -/
theorem handlerCall_dump
    (hCodec : env.codec = JsonCodec.library strtod)
    (hFrame : typed.frame? = some js)
    (hInt : typed.HasInt) :
    ChatServer.handlerCall env
        (utf8 (env.codec.dump (.object js))) =
      typed.call? := by
  have hSends := sends_of_sent (sent_of_frame? hFrame)
  rcases hSends.field_msgid with ⟨type, hType, _⟩
  rcases callOf_dump hCodec hSends hInt hType with
    ⟨hParse, hCall⟩
  unfold ChatServer.handlerCall Typed.call?
  rw [hParse, Option.bind_some, hCall, hFrame,
    Option.bind_some, hType]
  rfl

/- No JSON exception ends it. -/
theorem raises_dump
    (hCodec : env.codec = JsonCodec.library strtod)
    (hFrame : typed.frame? = some js)
    (hInt : typed.HasInt) :
    ChatServer.raises env
        (utf8 (env.codec.dump (.object js))) =
      false := by
  have hSends := sends_of_sent (sent_of_frame? hFrame)
  rcases hSends.field_msgid with ⟨type, hType, _⟩
  rcases callOf_dump hCodec hSends hInt hType with
    ⟨hParse, hCall⟩
  unfold ChatServer.raises ChatServer.rejected
  rw [hParse]
  dsimp only
  rw [hCall]
  dsimp only
  rw [readable_normalizeFields,
    hSends.readable hType]
  rfl

variable {user : CurrentUser}
variable {calls : List TimedCall}

/- The handlers that the bodies of some calls lead to. -/
theorem handlerCalls_dump
    (hCodec : env.codec = JsonCodec.library strtod)
    (hInt : user.HasInt) :
    ((calls.filterMap fun timed =>
          (timed.typed user).dump? env.codec).map
        utf8).filterMap (ChatServer.handlerCall env) =
      calls.filterMap fun timed =>
        (timed.typed user).call? := by
  rw [List.filterMap_map, List.filterMap_filterMap]
  apply List.filterMap_congr
  intro timed _
  unfold Typed.dump?
  cases hFrame : (timed.typed user).frame? with
  | none =>
      unfold Typed.call?
      rw [hFrame]
      rfl
  | some js => exact handlerCall_dump hCodec hFrame hInt

theorem exists_of_mem_dump
    {body : Bytes}
    (hBody :
      body ∈
        (calls.filterMap fun timed =>
          (timed.typed user).dump? env.codec).map utf8) :
    ∃ timed ∈ calls, ∃ js,
      (timed.typed user).frame? = some js ∧
        utf8 (env.codec.dump (.object js)) = body := by
  rcases List.mem_map.mp hBody with ⟨text, hText, hSame⟩
  rcases List.mem_filterMap.mp hText with
    ⟨timed, hTimed, hDump⟩
  rcases Option.map_eq_some_iff.mp hDump with
    ⟨js, hFrame, hPrinted⟩
  refine ⟨timed, hTimed, js, hFrame, ?_⟩
  rw [hPrinted, hSame]

end Dumped

------------------------------------------------------------
-- What the Frame Loop Gets
------------------------------------------------------------

/- No body is rejected. -/
theorem accepts_of_rejects
    {State : Type}
    {handle : State → Bytes → State × Bool}
    {rejects : Bytes → Bool}
    (hRejects : ChatServer.RejectsBy handle rejects)
    (start : State)
    {bodies : List Bytes}
    (hNone : ∀ body ∈ bodies, rejects body = false) :
    ChatServer.Accepts handle start bodies := by
  induction bodies generalizing start with
  | nil => trivial
  | cons body bodies ih =>
      rcases List.forall_mem_cons.mp hNone with
        ⟨hFirst, hOthers⟩
      exact
        ⟨(hRejects start body).trans hFirst, ih _ hOthers⟩

/- The frame loop of the server on the frames of bodies that
it does not reject. -/
theorem serve_framed
    {Call : Type}
    {call : Bytes → Option Call}
    {rejects : Bytes → Bool}
    {bodies chunks : List Bytes}
    (hLengths :
      ∀ body ∈ bodies,
        1 ≤ body.length ∧ body.length ≤ kMaxFrameLen)
    (hChunks : chunks.flatten = framed bodies)
    (hNone : ∀ body ∈ bodies, rejects body = false) :
    ChatServer.serve call rejects chunks =
      ⟨bodies.filterMap call, bodies, [], false⟩ := by
  have hRejects := ChatServer.rejectsBy_record call rejects
  have hAccepts := accepts_of_rejects hRejects [] hNone
  have hParse :=
    parse_framed hLengths LengthPrefixed.drained_nil
  rw [List.append_nil, ← hChunks] at hParse
  have hServer :
      ChatServer.serve call rejects chunks =
        ChatServer.readStream
          (ChatServer.record call rejects)
          (ChatServer.opened []) chunks.flatten := by
    apply onMessages_opened
    rw [hParse]
    exact hAccepts
  rw [hServer]
  unfold ChatServer.readStream ChatServer.opened
  simp only [List.nil_append, hParse,
    ChatServer.handleAll_record]
  unfold stopped
  rw [LengthPrefixed.front_nil]
  rfl

/- The calls that the lines make, one after another, and the
frames of the run. -/
theorem Program.calls_of_lines
    (codec : JsonCodec)
    {program : Program}
    {lines : List Line}
    {last : Line}
    (hPlace : program.place = .mainMenu)
    (hInput : program.cin = { input := inputOf lines last })
    (hFits : ∀ line ∈ lines ++ [last], ¬ TooLong line.bytes)
    {events : List Event}
    (hStays :
      (Transducer.run (Program.step codec) program
        events).1.place = .mainMenu)
    (hEnough :
      lines.length <
        (events.filterMap Event.time?).length) :
    ∃ calls : List TimedCall,
      (Transducer.run (Program.step codec) program
            events).2 =
          calls.filterMap
            (fun timed => (timed.typed program.user).frame?) ∧
        calls.map TimedCall.call =
            (lines ++ [last]).filterMap
              (fun line => callOf line.bytes) ∧
          ∀ timed ∈ calls,
            timed.time ∈ events.filterMap Event.time? ∧
              timed.call.2.length < bufferSize := by
  rcases Program.frames_of_run codec hPlace hStays with
    ⟨calls, hFrames, hCalls, hEach⟩
  rw [hInput] at hCalls
  have hLines :
      lines.map Line.bytes ++ [last.bytes] =
        (lines ++ [last]).map Line.bytes := by
    rw [List.map_append, List.map_singleton]
  have hExecuted :
      calls.map TimedCall.call =
        MainMenu.executed program.user
          ((lines ++ [last]).map Line.bytes) := by
    rw [← hLines]
    exact
      hCalls.trans (MainMenu.calls_run lines last [] hEnough)
  refine ⟨calls, hFrames, ?_, ?_⟩
  · rw [hExecuted, MainMenu.executed_eq_filterMap,
      List.filterMap_map]
    · rfl
    · intro bytes hBytes
      rcases List.mem_map.mp hBytes with ⟨line, hLine, hSame⟩
      rw [← hSame]
      exact hFits line hLine
    · intro call hCall
      rw [← hExecuted] at hCall
      rcases List.mem_map.mp hCall with
        ⟨timed, hTimed, hSame⟩
      rw [← hSame]
      exact ⟨timed.time, (hEach timed hTimed).2⟩
  · intro timed hTimed
    refine ⟨(hEach timed hTimed).1, ?_⟩
    apply MainMenu.length_executed
    rw [← hExecuted]
    exact List.mem_map_of_mem hTimed

def friendLine : Line where
  bytes := utf8 "addfriend:2"
  plain := by decide +kernel

def emptyLine : Line where
  bytes := []
  plain := List.forall_mem_nil _

/- User 1 is logged in and types the line. -/
def annsProgram : Program where
  place := .mainMenu
  cin := { input := inputOf [friendLine] emptyLine }
  session := ⟨1, "ann", .online, [], []⟩
  orderer := ConversationOrderer.fresh 800

def twoTurns : List Event :=
  [.main Program.noAnswer, .main Program.noAnswer]

/- Every call of `send` takes the whole frame. -/
def annsSends : List (Bytes × List Int) :=
  (Transducer.run (Program.step libraryExternals.codec)
    annsProgram twoTurns).2.map fun js =>
      let body :=
        utf8 (libraryExternals.codec.dump (.object js))
      (body, [((ChatServer.frameOf body).length : Int)])

theorem annsSends_sent :
    ∀ sent ∈ annsSends,
      (sendFrame sent.1 sent.2).2 = true := by
  intro sent hSent
  rcases List.mem_map.mp hSent with ⟨js, _, hSame⟩
  rw [← hSame]
  apply sendLoop_completes
  · rw [List.forall_mem_singleton, ChatServer.frameOf]
    simp [htonl]
    omega
  · rw [List.sum_singleton]
    exact le_refl _

end Client

end ClusterChat
