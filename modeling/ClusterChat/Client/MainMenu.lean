import ClusterChat.Client.Commands

/-
  The loop that reads the commands, translated from `main.cpp`
  of the client.

  A line that does not fit into the buffer sets `failbit`, and
  from then on every `getline` reads an empty line.  Nothing
  ends the loop but an exception that a handler lets through.

  Main declarations:
    * `IStream` and `IStream.getline`
    * `Client.MainMenu` and `MainMenu.round`
    * `Client.callOf` and `MainMenu.executed`
    * `MainMenu.Executes`
    * `MainMenu.executes_iff`
-/

------------------------------------------------------------
-- Input
------------------------------------------------------------

namespace ClusterChat

namespace Client

/- The byte of a line break. -/
def newline : UInt8 := 10

/- `cin`: what has not been read yet, and its state. -/
structure IStream where
  input : Bytes
  failbit : Bool := false
  eofbit : Bool := false

namespace IStream

/- What `getline` takes with so much room left in the buffer.
A line break is taken and not stored. -/
def extract : Nat → Bytes → Bytes × IStream
| _, [] => ([], { input := [], eofbit := true })
| room, byte :: input =>
    if byte = newline then
      ([], { input := input })
    else
      match room with
      | 0 => ([], { input := byte :: input, failbit := true })
      | room + 1 =>
          let next := extract room input
          (byte :: next.1, next.2)

/- `getline(buffer, n)`: the text in the buffer.  Nothing is
read when the stream is not good, and reading nothing is a
failure. -/
def getline
    (n : Nat)
    (cin : IStream) : Bytes × IStream :=
  if cin.failbit || cin.eofbit then
    ([], { cin with failbit := true })
  else
    let next := extract (n - 1) cin.input
    (next.1,
      { next.2 with
        failbit := next.2.failbit || cin.input.isEmpty })

end IStream

------------------------------------------------------------
-- The Loop
------------------------------------------------------------

/- The state of `mainMenu`: the input, the handler calls so
far, and whether a handler has thrown an exception. -/
structure MainMenu where
  cin : IStream
  calls : List (Command × Bytes) := []
  threw : Bool := false

/- The size of the buffer. -/
def bufferSize : Nat := 1024

/- The string that ends at the first NUL byte. -/
def cString (buffer : Bytes) : Bytes :=
  buffer.takeWhile fun byte => byte ≠ 0

namespace MainMenu

/- One iteration of the loop. -/
def round
    (user : CurrentUser)
    (menu : MainMenu)
    (time : String) : MainMenu :=
  if menu.threw then
    menu
  else
    let (buffer, cin) := menu.cin.getline bufferSize
    let commandbuf := cString buffer
    if commandbuf.isEmpty then
      { menu with cin := cin }
    else
      let (command, args) :=
        (splitColon commandbuf).getD (commandbuf, [])
      match commandHandlerMap command with
      | none => { menu with cin := cin }
      | some handler =>
          { cin := cin
            calls := menu.calls ++ [(handler, args)]
            threw :=
              !(handler.handle user time args).toBool }

/- So many iterations as there are times. -/
def run
    (user : CurrentUser)
    (menu : MainMenu)
    (times : List String) : MainMenu :=
  times.foldl (round user) menu

end MainMenu

------------------------------------------------------------
-- Lines
------------------------------------------------------------

/- A line of input, without line breaks and NUL bytes. -/
structure Line where
  bytes : Bytes
  plain : ∀ byte ∈ bytes, byte ≠ newline ∧ byte ≠ 0

/- The input of some lines, and of a last one that ends with
the input. -/
def inputOf
    (lines : List Line)
    (last : Line) : Bytes :=
  lines.flatMap (fun line => line.bytes ++ [newline]) ++
    last.bytes

/- The handler call that a line asks for, if the text before
its first colon is a command: with the text behind it. -/
def callOf (line : Bytes) : Option (Command × Bytes) :=
  (commandHandlerMap
    (line.takeWhile fun byte => byte ≠ colon)).map
      fun handler =>
        (handler, (line.dropWhile fun byte =>
          byte ≠ colon).tail)

/- The line does not fit into the buffer. -/
def TooLong (line : Bytes) : Prop :=
  bufferSize ≤ line.length

instance : DecidablePred TooLong := fun line =>
  inferInstanceAs (Decidable (bufferSize ≤ line.length))

/- The handler of the line lets an exception through. -/
def Throws
    (user : CurrentUser)
    (line : Bytes) : Prop :=
  ∃ call ∈ callOf line, ∀ time,
    (call.1.handle user time call.2).toBool = false

/- The time of a frame does not make its dump throw. -/
theorem handle_toBool
    (user : CurrentUser)
    (time other : String)
    (command : Command)
    (args : Bytes) :
    (command.handle user time args).toBool =
      (command.handle user other args).toBool := by
  cases command with
  | chat =>
      simp only [Command.handle, chat]
      cases splitColon args with
      | none => rfl
      | some parts =>
          dsimp only
          cases dumpedText parts.2 <;> rfl
  | groupchat =>
      simp only [Command.handle, groupchat]
      cases splitColon args with
      | none => rfl
      | some parts =>
          dsimp only
          cases stoi parts.1 with
          | none => rfl
          | some groupid => cases dumpedText parts.2 <;> rfl
  | _ => rfl

theorem throws_iff
    {user : CurrentUser}
    {line : Bytes}
    {command : Command}
    {args : Bytes}
    (hCall : callOf line = some (command, args))
    (time : String) :
    Throws user line ↔
      (command.handle user time args).toBool = false := by
  constructor
  · rintro ⟨call, hMember, hThrows⟩
    rw [hCall] at hMember
    rw [← Option.some.inj hMember] at hThrows
    exact hThrows time
  · intro hThrows
    refine ⟨(command, args), hCall, fun other => ?_⟩
    rw [← hThrows]
    exact handle_toBool user other time command args

theorem not_throws
    (user : CurrentUser)
    {line : Bytes}
    (hCall : callOf line = none) :
    ¬ Throws user line := by
  rintro ⟨call, hMember, _⟩
  rw [hCall] at hMember
  cases hMember

instance (user : CurrentUser) :
    DecidablePred (Throws user) := fun line =>
  match hCall : callOf line with
  | none => isFalse (not_throws user hCall)
  | some _ =>
      decidable_of_iff _ (throws_iff hCall "").symm

/- The code splits a line at its first colon. -/
theorem splitColon_getD (text : Bytes) :
    (splitColon text).getD (text, []) =
      (text.takeWhile fun byte => byte ≠ colon,
        (text.dropWhile fun byte => byte ≠ colon).tail) := by
  have hNot :
      (fun byte : UInt8 => !decide (byte ≠ colon)) =
        fun byte => decide (byte = colon) := by
    simp
  rw [List.takeWhile_eq_take_findIdx_not,
    List.dropWhile_eq_drop_findIdx_not, hNot]
  unfold splitColon
  cases hFound :
      text.findIdx? fun byte => decide (byte = colon) with
  | none =>
      rw [List.findIdx?_eq_none_iff_findIdx_eq] at hFound
      simp [hFound]
  | some idx =>
      rw [List.findIdx?_eq_some_iff_findIdx_eq] at hFound
      rcases hFound with ⟨hBound, hIdx⟩
      have hRest :
          (text.drop (idx + 1)).length ≤
            text.length - idx := by
        rw [List.length_drop]
        omega
      rw [hIdx, List.tail_drop, Option.getD_some,
        List.take_of_length_le hRest]

theorem exists_split (text : Bytes) :
    ∃ name args,
      (splitColon text).getD (text, []) = (name, args) ∧
        callOf text =
          (commandHandlerMap name).map fun handler =>
            (handler, args) :=
  ⟨_, _, splitColon_getD text, rfl⟩

theorem callOf_nil : callOf [] = none := by
  decide

------------------------------------------------------------
-- Reading a Line
------------------------------------------------------------

namespace IStream

variable {line rest : Bytes} {room : Nat}

/- A line that fits is read, and its line break taken. -/
theorem extract_of_le
    (hPlain : ∀ byte ∈ line, byte ≠ newline)
    (hRoom : line.length ≤ room) :
    extract room (line ++ newline :: rest) =
      (line, { input := rest }) := by
  induction line generalizing room with
  | nil =>
      unfold extract
      exact if_pos rfl
  | cons byte line ih =>
      cases room with
      | zero => cases hRoom
      | succ room =>
          rw [List.forall_mem_cons] at hPlain
          rw [List.cons_append, extract, if_neg hPlain.1]
          dsimp only
          rw [ih hPlain.2 (Nat.le_of_succ_le_succ hRoom)]

/- At the end of the input no line break is needed. -/
theorem extract_last
    (hPlain : ∀ byte ∈ line, byte ≠ newline)
    (hRoom : line.length ≤ room) :
    extract room line =
      (line, { input := [], eofbit := true }) := by
  induction line generalizing room with
  | nil => rw [extract]
  | cons byte line ih =>
      cases room with
      | zero => cases hRoom
      | succ room =>
          rw [List.forall_mem_cons] at hPlain
          rw [extract, if_neg hPlain.1]
          dsimp only
          rw [ih hPlain.2 (Nat.le_of_succ_le_succ hRoom)]

/- A line that does not fit is cut, and `failbit` is set. -/
theorem extract_of_lt
    (hPlain : ∀ byte ∈ line, byte ≠ newline)
    (hRoom : room < line.length) :
    extract room (line ++ rest) =
      (line.take room,
        { input := line.drop room ++ rest
          failbit := true }) := by
  induction line generalizing room with
  | nil => cases hRoom
  | cons byte line ih =>
      rw [List.forall_mem_cons] at hPlain
      rw [List.cons_append]
      cases room with
      | zero =>
          rw [extract, if_neg hPlain.1]
          rfl
      | succ room =>
          rw [extract, if_neg hPlain.1]
          dsimp only
          rw [ih hPlain.2 (Nat.lt_of_succ_lt_succ hRoom)]
          rfl

/- The same for `getline`. -/
theorem getline_of_fits
    (hPlain : ∀ byte ∈ line, byte ≠ newline)
    (hRoom : line.length < room) :
    getline room { input := line ++ newline :: rest } =
      (line, { input := rest }) := by
  unfold getline
  rw [if_neg (by simp)]
  dsimp only
  rw [extract_of_le hPlain (Nat.le_sub_one_of_lt hRoom)]
  simp

theorem getline_last
    (hPlain : ∀ byte ∈ line, byte ≠ newline)
    (hRoom : line.length < room) :
    getline room { input := line } =
      (line,
        { input := []
          failbit := line.isEmpty
          eofbit := true }) := by
  unfold getline
  rw [if_neg (by simp)]
  dsimp only
  rw [extract_last hPlain (Nat.le_sub_one_of_lt hRoom)]
  simp

theorem getline_of_long
    (hPlain : ∀ byte ∈ line, byte ≠ newline)
    (hRoom : room - 1 < line.length) :
    getline room { input := line ++ rest } =
      (line.take (room - 1),
        { input := line.drop (room - 1) ++ rest
          failbit := true }) := by
  unfold getline
  rw [if_neg (by simp)]
  dsimp only
  rw [extract_of_lt hPlain hRoom]
  simp

/- Nothing is read from a stream that is not good. -/
theorem getline_of_bad
    {cin : IStream}
    (hBad : (cin.failbit || cin.eofbit) = true)
    (n : Nat) :
    cin.getline n = ([], { cin with failbit := true }) :=
  if_pos hBad

end IStream

------------------------------------------------------------
-- Iterations
------------------------------------------------------------

namespace MainMenu

variable {user : CurrentUser} {menu : MainMenu}

/- What is done with a text that was read. -/
theorem round_of_text
    {text : Bytes}
    {cin : IStream}
    (hGoes : menu.threw = false)
    (hRead : menu.cin.getline bufferSize = (text, cin))
    (hPlain : ∀ byte ∈ text, byte ≠ 0)
    (time : String) :
    ∃ threw,
      round user menu time =
          { cin := cin
            calls := menu.calls ++ (callOf text).toList
            threw := threw } ∧
        (threw = true ↔ Throws user text) := by
  have hText : cString text = text := by
    apply List.takeWhile_eq_self_iff.mpr
    intro byte hByte
    exact decide_eq_true (hPlain byte hByte)
  rcases exists_split text with ⟨name, args, hSplit, hCall⟩
  unfold round
  rw [if_neg (by rw [hGoes]; decide), hRead]
  dsimp only
  rw [hText, hSplit]
  by_cases hEmpty : text = []
  · have hNone : callOf text = none := by
      rw [hEmpty, callOf_nil]
    rw [if_pos (List.isEmpty_iff.mpr hEmpty), hNone]
    refine ⟨menu.threw, by simp, ?_⟩
    rw [hGoes]
    exact iff_of_false nofun (not_throws user hNone)
  · rw [if_neg (mt List.isEmpty_iff.mp hEmpty)]
    dsimp only
    cases hCommand : commandHandlerMap name with
    | none =>
        rw [hCommand, Option.map_none] at hCall
        refine ⟨menu.threw, by simp [hCall], ?_⟩
        rw [hGoes]
        exact iff_of_false nofun (not_throws user hCall)
    | some handler =>
        rw [hCommand, Option.map_some] at hCall
        refine
          ⟨!(handler.handle user time args).toBool,
            by simp [hCall], ?_⟩
        rw [throws_iff hCall time, Bool.not_eq_true']

/- Nothing is read any more, or there are no iterations any
more. -/
def Stuck (menu : MainMenu) : Prop :=
  menu.threw = true ∨
    (menu.cin.failbit || menu.cin.eofbit) = true

theorem calls_run_of_stuck
    (hStuck : menu.Stuck)
    (times : List String) :
    (run user menu times).calls = menu.calls := by
  induction times generalizing menu with
  | nil => rfl
  | cons time times ih =>
      change (run user (round user menu time) times).calls = _
      by_cases hThrew : menu.threw = true
      · have hSame : round user menu time = menu :=
          if_pos hThrew
        rw [hSame]
        exact ih hStuck
      · have hRead :=
          IStream.getline_of_bad
            (hStuck.resolve_left hThrew) bufferSize
        rcases
            round_of_text (Bool.not_eq_true _ ▸ hThrew) hRead
              nofun time with
          ⟨threw, hRound, _⟩
        rw [hRound, ih (Or.inr rfl), callOf_nil]
        exact List.append_nil menu.calls

------------------------------------------------------------
-- Runs
------------------------------------------------------------

/- The calls that are made for some lines: a line that is too
long is cut, and nothing comes after it or after an
exception. -/
def executed
    (user : CurrentUser) :
    List Bytes → List (Command × Bytes)
| [] => []
| line :: lines =>
    if TooLong line then
      (callOf (line.take (bufferSize - 1))).toList
    else if Throws user line then
      (callOf line).toList
    else
      (callOf line).toList ++ executed user lines

/- The menu in front of some input. -/
def before
    (input : Bytes)
    (calls : List (Command × Bytes)) : MainMenu where
  cin := { input := input }
  calls := calls

theorem inputOf_cons
    (line : Line)
    (lines : List Line)
    (last : Line) :
    inputOf (line :: lines) last =
      line.bytes ++ newline :: inputOf lines last := by
  unfold inputOf
  rw [List.flatMap_cons]
  simp

/- A line that is too long is the last one that is read. -/
theorem calls_run_of_tooLong
    {line : Line}
    (hLong : TooLong line.bytes)
    (rest : Bytes)
    (calls : List (Command × Bytes))
    (time : String)
    (times : List String) :
    (run user (before (line.bytes ++ rest) calls)
        (time :: times)).calls =
      calls ++
        (callOf
          (line.bytes.take (bufferSize - 1))).toList := by
  have hRoom : bufferSize - 1 < line.bytes.length := hLong
  have hRead :
      (before (line.bytes ++ rest) calls).cin.getline
          bufferSize =
        _ :=
    IStream.getline_of_long
      (fun byte hByte => (line.plain byte hByte).1) hRoom
  rcases
      @round_of_text user _ _ _ rfl hRead
        (fun byte hByte =>
          (line.plain byte (List.mem_of_mem_take hByte)).2)
        time with
    ⟨threw, hRound, _⟩
  change (run user (round user _ time) times).calls = _
  rw [hRound, calls_run_of_stuck (Or.inr rfl)]
  rfl

/- What a long enough run has called. -/
theorem calls_run
    (lines : List Line)
    (last : Line)
    (calls : List (Command × Bytes))
    {times : List String}
    (hEnough : lines.length < times.length) :
    (run user (before (inputOf lines last) calls)
        times).calls =
      calls ++
        executed user
          (lines.map Line.bytes ++ [last.bytes]) := by
  induction lines generalizing calls times with
  | nil =>
      cases times with
      | nil => cases hEnough
      | cons time times =>
          change
            (run user (before last.bytes calls)
              (time :: times)).calls = _
          rw [List.map_nil, List.nil_append, executed]
          by_cases hLong : TooLong last.bytes
          · rw [if_pos hLong, ← List.append_nil last.bytes,
              calls_run_of_tooLong hLong, List.append_nil]
          · have hRead :
                (before last.bytes calls).cin.getline
                    bufferSize =
                  _ :=
              IStream.getline_last
                (fun byte hByte => (last.plain byte hByte).1)
                (not_le.mp hLong)
            rcases
                @round_of_text user _ _ _ rfl hRead
                  (fun byte hByte =>
                    (last.plain byte hByte).2)
                  time with
              ⟨threw, hRound, _⟩
            change
              (run user (round user _ time) times).calls = _
            rw [hRound,
              calls_run_of_stuck (Or.inr (Bool.or_true _)),
              if_neg hLong, executed, List.append_nil,
              ite_self]
            rfl
  | cons line lines ih =>
      cases times with
      | nil => cases hEnough
      | cons time times =>
          rw [inputOf_cons, List.map_cons, List.cons_append,
            executed]
          by_cases hLong : TooLong line.bytes
          · rw [if_pos hLong, calls_run_of_tooLong hLong]
          · have hRead :
                (before
                    (line.bytes ++
                      newline :: inputOf lines last)
                    calls).cin.getline bufferSize =
                  _ :=
              IStream.getline_of_fits
                (fun byte hByte => (line.plain byte hByte).1)
                (not_le.mp hLong)
            rcases
                @round_of_text user _ _ _ rfl hRead
                  (fun byte hByte =>
                    (line.plain byte hByte).2)
                  time with
              ⟨threw, hRound, hThrew⟩
            change
              (run user (round user _ time) times).calls = _
            rw [hRound, if_neg hLong]
            by_cases hThrows : Throws user line.bytes
            · rw [if_pos hThrows,
                calls_run_of_stuck
                  (Or.inl (hThrew.mpr hThrows))]
              rfl
            · have hGoes : threw = false :=
                Bool.eq_false_iff.mpr (mt hThrew.mp hThrows)
              have hMore : lines.length < times.length :=
                Nat.lt_of_succ_lt_succ hEnough
              rw [if_neg hThrows, hGoes, ← List.append_assoc]
              exact ih _ hMore

------------------------------------------------------------
-- Every Command
------------------------------------------------------------

/- From some iteration on, the calls that were made are those
that the lines ask for. -/
def Executes
    (user : CurrentUser)
    (lines : List Line)
    (last : Line) : Prop :=
  ∃ enough, ∀ times : List String,
    enough ≤ times.length →
      (run user (before (inputOf lines last) [])
          times).calls =
        (lines.map Line.bytes ++ [last.bytes]).filterMap
          callOf

/-
  No command is in a line that is too long, or comes after
  such a line or after one whose handler throws.
-/
structure Undisturbed
    (user : CurrentUser)
    (lines : List Bytes) : Prop where
  fits : ∀ line ∈ lines, TooLong line → callOf line = none
  goesOn :
    lines.Pairwise fun earlier later =>
      TooLong earlier ∨ Throws user earlier →
        callOf later = none

theorem length_of_command
    {name : Bytes}
    {handler : Command}
    (hCommand : commandHandlerMap name = some handler) :
    name.length ≤ 11 := by
  unfold commandHandlerMap at hCommand
  have hName : utf8 handler.name = name := by
    simpa using List.find?_some hCommand
  rw [← hName]
  cases handler <;> decide

/- The names of the commands fit into the buffer. -/
theorem commandHandlerMap_take (name : Bytes) :
    commandHandlerMap (name.take (bufferSize - 1)) =
      commandHandlerMap name := by
  by_cases hShort : name.length ≤ bufferSize - 1
  · rw [List.take_of_length_le hShort]
  · have hNone (cut : Bytes) (hLength : 11 < cut.length) :
        commandHandlerMap cut = none := by
      cases hFound : commandHandlerMap cut with
      | none => rfl
      | some handler =>
          exact
            absurd (length_of_command hFound)
              (not_le.mpr hLength)
    have hBuffer : 11 < bufferSize - 1 := by
      decide
    have hLong := not_le.mp hShort
    rw [hNone name (hBuffer.trans hLong), hNone]
    rw [List.length_take_of_le hLong.le]
    exact hBuffer

theorem callOf_take (line : Bytes) :
    callOf (line.take (bufferSize - 1)) =
      (commandHandlerMap
        (line.takeWhile fun byte => byte ≠ colon)).map
          fun handler =>
            (handler,
              ((line.take (bufferSize - 1)).dropWhile
                fun byte => byte ≠ colon).tail) := by
  unfold callOf
  rw [← List.take_takeWhile, commandHandlerMap_take]

/- A line without a command has none when it is cut. -/
theorem callOf_take_eq_none
    {line : Bytes}
    (hCall : callOf line = none) :
    callOf (line.take (bufferSize - 1)) = none := by
  rw [callOf_take]
  unfold callOf at hCall
  rw [Option.map_eq_none_iff] at hCall ⊢
  exact hCall

/- The handler of a line that is cut gets a shorter text. -/
theorem callOf_take_ne
    {line : Bytes}
    (hLong : TooLong line)
    {call : Command × Bytes}
    (hCall : callOf line = some call)
    (rest : List (Command × Bytes)) :
    (callOf (line.take (bufferSize - 1))).toList ≠
      call :: rest := by
  have hCut := callOf_take line
  unfold callOf at hCall
  rcases Option.map_eq_some_iff.mp hCall with
    ⟨handler, hCommand, hArgs⟩
  rw [hCommand, Option.map_some] at hCut
  rw [hCut, ← hArgs]
  intro hSame
  have hTexts :=
    congrArg Prod.snd (List.cons.inj hSame).1
  have hLengths := congrArg List.length hTexts
  have hName := length_of_command hCommand
  have hWhole :=
    congrArg List.length
      (List.takeWhile_append_dropWhile
        (p := fun byte => decide (byte ≠ colon)) (l := line))
  have hTaken :=
    congrArg List.length
      (List.takeWhile_append_dropWhile
        (p := fun byte => decide (byte ≠ colon))
        (l := line.take (bufferSize - 1)))
  have hTooLong : 1024 ≤ line.length := hLong
  rw [← List.take_takeWhile] at hTaken
  simp only [List.length_append, List.length_take,
    List.length_tail, bufferSize] at *
  omega

theorem undisturbed_of_quiet
    {user : CurrentUser}
    {lines : List Bytes}
    (hQuiet : ∀ line ∈ lines, callOf line = none) :
    Undisturbed user lines where
  fits := fun line hLine _ => hQuiet line hLine
  goesOn :=
    List.pairwise_of_forall_mem_list
      fun _ _ later hLater _ => hQuiet later hLater

theorem undisturbed_cons
    {user : CurrentUser}
    {line : Bytes}
    {lines : List Bytes} :
    Undisturbed user (line :: lines) ↔
      (TooLong line → callOf line = none) ∧
        (TooLong line ∨ Throws user line →
          ∀ later ∈ lines, callOf later = none) ∧
          Undisturbed user lines := by
  constructor
  · rintro ⟨hFits, hGoesOn⟩
    rw [List.forall_mem_cons] at hFits
    rw [List.pairwise_cons] at hGoesOn
    exact
      ⟨hFits.1,
        fun hStops later hLater =>
          hGoesOn.1 later hLater hStops,
        hFits.2, hGoesOn.2⟩
  · rintro ⟨hFits, hStops, hLines⟩
    constructor
    · rw [List.forall_mem_cons]
      exact ⟨hFits, hLines.fits⟩
    · rw [List.pairwise_cons]
      exact
        ⟨fun later hLater hStop => hStops hStop later hLater,
          hLines.goesOn⟩

/- When every call that a line asks for is made. -/
theorem executed_eq_iff
    (user : CurrentUser)
    (lines : List Bytes) :
    executed user lines = lines.filterMap callOf ↔
      Undisturbed user lines := by
  induction lines with
  | nil =>
      exact iff_of_true rfl (undisturbed_of_quiet nofun)
  | cons line lines ih =>
      rw [executed, undisturbed_cons, List.filterMap_cons]
      cases hCall : callOf line with
      | none =>
          have hGoes := not_throws user hCall
          by_cases hLong : TooLong line
          · rw [if_pos hLong, callOf_take_eq_none hCall]
            dsimp only
            rw [Option.toList_none, eq_comm,
              List.filterMap_eq_nil_iff]
            constructor
            · intro hQuiet
              exact
                ⟨fun _ => rfl, fun _ => hQuiet,
                  undisturbed_of_quiet hQuiet⟩
            · intro hUndisturbed
              exact hUndisturbed.2.1 (Or.inl hLong)
          · rw [if_neg hLong, if_neg hGoes]
            simp [ih, hLong, hGoes]
      | some call =>
          by_cases hLong : TooLong line
          · rw [if_pos hLong]
            refine
              iff_of_false (callOf_take_ne hLong hCall _) ?_
            intro hUndisturbed
            cases hUndisturbed.1 hLong
          · rw [if_neg hLong]
            by_cases hThrows : Throws user line
            · rw [if_pos hThrows]
              dsimp only
              rw [Option.toList_some, List.cons_inj_right,
                eq_comm, List.filterMap_eq_nil_iff]
              constructor
              · intro hQuiet
                exact
                  ⟨fun hCut => absurd hCut hLong,
                    fun _ => hQuiet,
                    undisturbed_of_quiet hQuiet⟩
              · intro hUndisturbed
                exact hUndisturbed.2.1 (Or.inr hThrows)
            · rw [if_neg hThrows]
              simp [ih, hLong, hThrows]

theorem executes_iff_executed
    (user : CurrentUser)
    (lines : List Line)
    (last : Line) :
    Executes user lines last ↔
      executed user (lines.map Line.bytes ++ [last.bytes]) =
        (lines.map Line.bytes ++ [last.bytes]).filterMap
          callOf := by
  constructor
  · rintro ⟨enough, hCalls⟩
    have hEnough :
        lines.length <
          (List.replicate (enough + lines.length + 1)
            "").length := by
      rw [List.length_replicate]
      omega
    have hRun := @calls_run user lines last [] _ hEnough
    rw [hCalls _ (by rw [List.length_replicate]; omega),
      List.nil_append] at hRun
    exact hRun.symm
  · intro hExecuted
    refine ⟨lines.length + 1, fun times hEnough => ?_⟩
    rw [calls_run lines last [] hEnough, List.nil_append,
      hExecuted]

/-
  For all lines of input: the menu calls the handler of every
  command, in order and with the whole text behind the colon,
  exactly if no line that is too long and no exception gets
  into the way.
-/
theorem executes_iff
    (user : CurrentUser)
    (lines : List Line)
    (last : Line) :
    Executes user lines last ↔
      Undisturbed user
        (lines.map Line.bytes ++ [last.bytes]) := by
  rw [executes_iff_executed, executed_eq_iff]

------------------------------------------------------------
-- A Long Line
------------------------------------------------------------

/- As many letters as the buffer has room for, which is one
too many. -/
def longLine : Line where
  bytes := List.replicate bufferSize 120
  plain := by
    intro byte hByte
    rw [List.eq_of_mem_replicate hByte]
    decide

def helpLine : Line where
  bytes := utf8 "help"
  plain := by
    decide +kernel

/- After a long line no command is executed. -/
theorem longLine_ends_commands :
    ¬ Executes { id := 1, name := "ann" } [longLine]
      helpLine := by
  rw [executes_iff_executed, executed_eq_iff]
  intro hUndisturbed
  have hLong : TooLong longLine.bytes :=
    (List.length_replicate ..).ge
  have hHelp :=
    (List.pairwise_cons.mp hUndisturbed.goesOn).1
      helpLine.bytes (List.mem_singleton_self _)
      (Or.inl hLong)
  cases hHelp

end MainMenu

end Client

end ClusterChat
