import ClusterChat.JsonParse.NullCharacter
import ClusterChat.Server.FrameLoop
import ClusterChat.Server.Rejection

/-
  What the server makes of a connection that has sent a frame
  it rejects.

  `shutdown` closes the writing half only, so `onMessage` is
  called for every chunk that still comes.  An illegal header
  stays in the buffer and stops each of these calls.  A frame
  that ended in a JSON exception has been taken off, and the
  next call goes on behind it.

  Main declarations:
    * `ChatServer.textOf` and `ChatServer.parseBody_library`
    * `ChatServer.handlerCall` and `ChatServer.raises`
    * `ChatServer.onMessage_eq`
    * `ChatServer.EndsInput`
    * `ChatServer.input_ends_iff`
-/

------------------------------------------------------------
-- Chunks and Rejected Frames
------------------------------------------------------------

namespace ClusterChat

namespace ChatServer

variable {State : Type}

/- The body alone decides whether a JSON exception ends its
`try` block. -/
def RejectsBy
    (handle : State → Bytes → State × Bool)
    (rejects : Bytes → Bool) : Prop :=
  ∀ state body, (handle state body).2 = rejects body

theorem handleAll_append
    (handle : State → Bytes → State × Bool)
    (state : State)
    (front back : List Bytes) :
    handleAll handle state (front ++ back) =
      handleAll handle (handleAll handle state front)
        back :=
  List.foldl_append

theorem onMessages_append
    (handle : State → Bytes → State × Bool)
    (before : Reading State)
    (front back : List Bytes) :
    onMessages handle before (front ++ back) =
      onMessages handle (onMessages handle before front)
        back := by
  induction front generalizing before with
  | nil => rfl
  | cons chunk front ih => exact ih _

/-
  How the calls of `onMessage` stand to the bytes they were
  given.  As long as no body was rejected, they have taken off
  all that there is.
-/
structure Follows
    (handle : State → Bytes → State × Bool)
    (rejects : Bytes → Bool)
    (start : State)
    (bytes : Bytes)
    (reading : Reading State) : Prop where
  state_eq :
    reading.state = handleAll handle start reading.bodies
  parse_eq :
    ∀ more,
      (frameFormat.parse (bytes ++ more)).1 =
        reading.bodies ++
          (frameFormat.parse (reading.buffer ++ more)).1
  accepted :
    reading.bodies.any rejects = false →
      frameFormat.Drained reading.buffer ∧
        reading.shutdown = stopped reading.buffer
  rejected :
    reading.bodies.any rejects = true →
      reading.shutdown = true

section Reading

variable {handle : State → Bytes → State × Bool}
variable {rejects : Bytes → Bool}

/- One call on the bytes that are readable. -/
theorem follows_onMessageLoop
    (hRejects : RejectsBy handle rejects)
    (state : State)
    (buffer : Bytes) :
    Follows handle rejects state buffer
      (onMessageLoop handle state buffer) := by
  fun_induction frameFormat.parse buffer generalizing state
    with
  | case1 buffer body rest hFront parsed ih =>
      have hParse :
          ∀ more,
            (frameFormat.parse (buffer ++ more)).1 =
              body ::
                (frameFormat.parse (rest ++ more)).1 := by
        intro more
        rw [LengthPrefixed.parse_of_complete
          (LengthPrefixed.front_append_of_complete hFront
            more)]
      rw [onMessageLoop_front, hFront]
      dsimp only
      rw [hRejects state body]
      cases hBody : rejects body with
      | true =>
          exact
            { state_eq := rfl
              parse_eq := hParse
              accepted := by simp [hBody]
              rejected := fun _ => rfl }
      | false =>
          have hNext := ih (handle state body).1
          exact
            { state_eq := hNext.state_eq
              parse_eq := by
                intro more
                rw [hParse more, hNext.parse_eq more]
                rfl
              accepted := by
                intro hAny
                apply hNext.accepted
                simpa [hBody] using hAny
              rejected := by
                intro hAny
                apply hNext.rejected
                simpa [hBody] using hAny }
  | case2 buffer hFront =>
      rw [onMessageLoop_front, hFront]
      exact
        { state_eq := rfl
          parse_eq := fun _ => rfl
          accepted := by
            intro _
            refine
              ⟨LengthPrefixed.drained_of_incomplete hFront, ?_⟩
            rw [stopped, hFront]
            rfl
          rejected := fun hAny => Bool.noConfusion hAny }
  | case3 buffer hFront =>
      rw [onMessageLoop_front, hFront]
      exact
        { state_eq := rfl
          parse_eq := fun _ => rfl
          accepted := by
            intro _
            refine
              ⟨LengthPrefixed.drained_of_illegal hFront, ?_⟩
            rw [stopped, hFront]
            rfl
          rejected := fun hAny => Bool.noConfusion hAny }

/- An illegal header stays where it is. -/
theorem onMessageLoop_of_stopped
    {buffer : Bytes}
    (hStopped : stopped buffer = true)
    (state : State)
    (chunk : Bytes) :
    onMessageLoop handle state (buffer ++ chunk) =
      ⟨state, [], buffer ++ chunk, true⟩ := by
  rw [onMessageLoop_front,
    LengthPrefixed.front_append_of_illegal
      (illegal_of_stopped hStopped)]

theorem stopped_append
    {buffer : Bytes}
    (hStopped : stopped buffer = true)
    (chunk : Bytes) :
    stopped (buffer ++ chunk) = true := by
  rw [stopped,
    LengthPrefixed.front_append_of_illegal
      (illegal_of_stopped hStopped)]
  rfl

/- One more chunk. -/
theorem Follows.onMessage
    (hRejects : RejectsBy handle rejects)
    {start : State}
    {bytes : Bytes}
    {before : Reading State}
    (hBefore : Follows handle rejects start bytes before)
    (chunk : Bytes) :
    Follows handle rejects start (bytes ++ chunk)
      (onMessages handle before [chunk]) := by
  have hNext :=
    follows_onMessageLoop hRejects before.state
      (before.buffer ++ chunk)
  simp only [onMessages]
  refine
    { state_eq := ?_
      parse_eq := ?_
      accepted := ?_
      rejected := ?_ }
  · rw [hNext.state_eq, hBefore.state_eq, handleAll_append]
  · intro more
    have hMore := hNext.parse_eq more
    rw [List.append_assoc] at hMore ⊢
    rw [hBefore.parse_eq, hMore, List.append_assoc]
  · intro hAny
    rw [List.any_append, Bool.or_eq_false_iff] at hAny
    have hDrained := (hNext.accepted hAny.2).1
    refine ⟨hDrained, ?_⟩
    dsimp only
    rw [(hBefore.accepted hAny.1).2,
      (hNext.accepted hAny.2).2]
    cases hStopped : stopped before.buffer with
    | false => rfl
    | true =>
        rw [onMessageLoop_of_stopped hStopped]
        exact (stopped_append hStopped chunk).symm
  · intro hAny
    dsimp only
    rw [List.any_append, Bool.or_eq_true] at hAny
    rcases hAny with hEarlier | hLater
    · rw [hBefore.rejected hEarlier, Bool.true_or]
    · rw [hNext.rejected hLater, Bool.or_true]

/- All chunks of a connection. -/
theorem Follows.onMessages
    (hRejects : RejectsBy handle rejects)
    {start : State}
    {bytes : Bytes}
    {before : Reading State}
    (hBefore : Follows handle rejects start bytes before)
    (chunks : List Bytes) :
    Follows handle rejects start (bytes ++ chunks.flatten)
      (ChatServer.onMessages handle before chunks) := by
  induction chunks generalizing bytes before with
  | nil =>
      rw [List.flatten_nil, List.append_nil]
      exact hBefore
  | cons chunk chunks ih =>
      rw [List.flatten_cons, ← List.append_assoc]
      exact ih (hBefore.onMessage hRejects chunk)

theorem follows_opened (start : State) :
    Follows handle rejects start [] (opened start) where
  state_eq := rfl
  parse_eq := fun _ => rfl
  accepted := by
    intro _
    refine ⟨LengthPrefixed.drained_nil, ?_⟩
    rw [opened, stopped, LengthPrefixed.front_nil]
    rfl
  rejected := fun hAny => Bool.noConfusion hAny

/- Frames that come one by one are all handled, also behind
a rejected one. -/
theorem onMessages_frames
    (hRejects : RejectsBy handle rejects)
    {before : Reading State}
    (hBuffer : before.buffer = [])
    {bodies : List Bytes}
    (hLegal :
      ∀ body ∈ bodies, frameFormat.Legal body.length) :
    ChatServer.onMessages handle before
        (bodies.map frameFormat.frame) =
      { state := handleAll handle before.state bodies
        bodies := before.bodies ++ bodies
        buffer := []
        shutdown :=
          before.shutdown || bodies.any rejects } := by
  induction bodies generalizing before with
  | nil =>
      simp only [List.map_nil, ChatServer.onMessages,
        List.append_nil, List.any_nil, Bool.or_false,
        ← hBuffer]
      rfl
  | cons body bodies ih =>
      have hFront :
          frameFormat.front (frameFormat.frame body) =
            .complete body [] := by
        have hFrame :=
          LengthPrefixed.front_frame
            (hLegal body List.mem_cons_self) []
        rwa [List.append_nil] at hFrame
      have hLoop :
          onMessageLoop handle before.state
              (before.buffer ++ frameFormat.frame body) =
            ⟨(handle before.state body).1, [body], [],
              rejects body⟩ := by
        rw [hBuffer, List.nil_append, onMessageLoop_front,
          hFront]
        dsimp only
        rw [hRejects, onMessageLoop_front,
          LengthPrefixed.front_nil]
        cases rejects body <;> rfl
      rw [List.map_cons, ChatServer.onMessages, hLoop,
        ih rfl fun other hOther =>
          hLegal other (List.mem_cons_of_mem _ hOther)]
      simp only [List.append_assoc, List.any_cons,
        Bool.or_assoc]
      rfl

/- Bytes that hold no complete frame change nothing. -/
theorem onMessages_drained
    {before : Reading State}
    {chunk : Bytes}
    (hDrained :
      frameFormat.Drained (before.buffer ++ chunk)) :
    (ChatServer.onMessages handle before [chunk]).state =
      before.state := by
  have hParse := LengthPrefixed.parse_of_drained hDrained
  simp only [ChatServer.onMessages]
  rw [onMessageLoop_eq (by rw [hParse]; trivial), hParse]
  rfl

end Reading

------------------------------------------------------------
-- The Calls of a Connection
------------------------------------------------------------

section Calls

variable {Call : Type}
variable (call : Bytes → Option Call)
variable (rejects : Bytes → Bool)

/- Write down which handler calls the bodies lead to. -/
def record
    (calls : List Call)
    (body : Bytes) : List Call × Bool :=
  (calls ++ (call body).toList, rejects body)

theorem rejectsBy_record :
    RejectsBy (record call rejects) rejects :=
  fun _ _ => rfl

theorem handleAll_record
    (calls : List Call)
    (bodies : List Bytes) :
    handleAll (record call rejects) calls bodies =
      calls ++ bodies.filterMap call := by
  induction bodies generalizing calls with
  | nil => simp [handleAll]
  | cons body bodies ih =>
      have hFirst :
          handleAll (record call rejects) calls
              (body :: bodies) =
            handleAll (record call rejects)
              (calls ++ (call body).toList) bodies := rfl
      rw [hFirst, ih, List.append_assoc]
      cases hCall : call body with
      | none => simp [hCall]
      | some called => simp [hCall]

/- Calls of `onMessage` on a new connection, and the handler
calls they lead to. -/
def serve (chunks : List Bytes) : Reading (List Call) :=
  onMessages (record call rejects) (opened []) chunks

/- A way to deliver a stream.  `onMessage` is called when
bytes have arrived. -/
structure IsCut
    (stream : Bytes)
    (chunks : List Bytes) : Prop where
  nonempty : ∀ chunk ∈ chunks, chunk ≠ []
  flatten_eq : chunks.flatten = stream

/-
  A malformed frame ends the input that the stream brings.
  When the connection has been shut down, no later chunk leads
  to a handler call, and the calls are the same for every way
  to cut the stream.
-/
structure EndsInput (stream : Bytes) : Prop where
  silent :
    ∀ front back,
      IsCut stream (front ++ back) →
        (serve call rejects front).shutdown = true →
          (serve call rejects (front ++ back)).state =
            (serve call rejects front).state
  uncut :
    ∀ chunks pieces,
      IsCut stream chunks →
        IsCut stream pieces →
          (serve call rejects chunks).state =
            (serve call rejects pieces).state

/- No frame behind a rejected one leads to a call. -/
def QuietBehindRejected (stream : Bytes) : Prop :=
  ∀ good bad back,
    (frameFormat.parse stream).1 = good ++ bad :: back →
      rejects bad = true →
        ∀ body ∈ back, call body = none

theorem follows_serve (chunks : List Bytes) :
    Follows (record call rejects) rejects [] chunks.flatten
      (serve call rejects chunks) :=
  (follows_opened []).onMessages
    (rejectsBy_record call rejects) chunks

theorem state_serve (chunks : List Bytes) :
    (serve call rejects chunks).state =
      (serve call rejects chunks).bodies.filterMap call := by
  rw [(follows_serve call rejects chunks).state_eq,
    handleAll_record]
  rfl

variable {call : Bytes → Option Call}
variable {rejects : Bytes → Bool}

/- A rejected frame has been taken off, and nothing else in
the stream leads to a call. -/
theorem state_serve_of_rejected
    {stream : Bytes}
    (hQuiet : QuietBehindRejected call rejects stream)
    {front : List Bytes}
    {more : Bytes}
    (hStream : front.flatten ++ more = stream)
    (hRejected :
      (serve call rejects front).bodies.any rejects =
        true) :
    (serve call rejects front).state =
      (frameFormat.parse stream).1.filterMap call := by
  have hParse :=
    (follows_serve call rejects front).parse_eq more
  rw [hStream] at hParse
  rcases List.any_eq_true.mp hRejected with
    ⟨bad, hMember, hBad⟩
  rcases List.append_of_mem hMember with
    ⟨good, back, hBodies⟩
  have hLater :
      List.filterMap call
          (frameFormat.parse
            ((serve call rejects front).buffer ++
              more)).1 = [] := by
    rw [List.filterMap_eq_nil_iff]
    intro body hBody
    rw [hBodies, List.append_assoc, List.cons_append]
      at hParse
    exact
      hQuiet _ _ _ hParse hBad body
        (List.mem_append_right _ hBody)
  rw [state_serve, hParse, List.filterMap_append, hLater,
    List.append_nil]

/- The whole stream has been read. -/
theorem state_serve_of_cut
    {stream : Bytes}
    (hQuiet : QuietBehindRejected call rejects stream)
    {chunks : List Bytes}
    (hCut : IsCut stream chunks) :
    (serve call rejects chunks).state =
      (frameFormat.parse stream).1.filterMap call := by
  have hStream : chunks.flatten ++ [] = stream := by
    rw [List.append_nil, hCut.flatten_eq]
  cases hAny :
      (serve call rejects chunks).bodies.any rejects with
  | true => exact state_serve_of_rejected hQuiet hStream hAny
  | false =>
      have hFollows := follows_serve call rejects chunks
      have hDrained := (hFollows.accepted hAny).1
      have hParse := hFollows.parse_eq []
      rw [hStream, List.append_nil,
        LengthPrefixed.parse_of_drained hDrained,
        List.append_nil] at hParse
      rw [state_serve, hParse]

/- The connection has been shut down. -/
theorem state_serve_of_shutdown
    {stream : Bytes}
    (hQuiet : QuietBehindRejected call rejects stream)
    {front : List Bytes}
    {more : Bytes}
    (hStream : front.flatten ++ more = stream)
    (hShutdown :
      (serve call rejects front).shutdown = true) :
    (serve call rejects front).state =
      (frameFormat.parse stream).1.filterMap call := by
  cases hAny :
      (serve call rejects front).bodies.any rejects with
  | true => exact state_serve_of_rejected hQuiet hStream hAny
  | false =>
      have hFollows := follows_serve call rejects front
      have hStopped := (hFollows.accepted hAny).2
      rw [hShutdown] at hStopped
      have hIllegal := illegal_of_stopped hStopped.symm
      have hParse := hFollows.parse_eq more
      rw [hStream,
        LengthPrefixed.parse_append_of_illegal hIllegal,
        List.append_nil] at hParse
      rw [state_serve, hParse]

theorem endsInput_of_quiet
    {stream : Bytes}
    (hQuiet : QuietBehindRejected call rejects stream) :
    EndsInput call rejects stream where
  silent := by
    intro front back hCut hShutdown
    have hStream := hCut.flatten_eq
    rw [List.flatten_append] at hStream
    rw [state_serve_of_cut hQuiet hCut,
      state_serve_of_shutdown hQuiet hStream hShutdown]
  uncut := by
    intro chunks pieces hChunks hPieces
    rw [state_serve_of_cut hQuiet hChunks,
      state_serve_of_cut hQuiet hPieces]

/- One frame for each chunk. -/
theorem serve_frames
    {bodies : List Bytes}
    (hLegal :
      ∀ body ∈ bodies, frameFormat.Legal body.length) :
    serve call rejects (bodies.map frameFormat.frame) =
      { state := bodies.filterMap call
        bodies := bodies
        buffer := []
        shutdown := bodies.any rejects } := by
  unfold serve
  rw [onMessages_frames (rejectsBy_record call rejects) rfl
    hLegal, handleAll_record]
  rfl

/- A stream cut behind each frame. -/
def byFrames (stream : Bytes) : List Bytes :=
  (frameFormat.parse stream).1.map frameFormat.frame ++
    if (frameFormat.parse stream).2 = [] then
      []
    else
      [(frameFormat.parse stream).2]

theorem frame_ne_nil (body : Bytes) :
    frameFormat.frame body ≠ [] := by
  intro hEmpty
  have hLength :=
    @LengthPrefixed.length_frame UInt8 frameFormat body
  have hWidth := frameFormat.width_pos
  rw [hEmpty, List.length_nil] at hLength
  omega

theorem isCut_byFrames (stream : Bytes) :
    IsCut stream (byFrames stream) where
  nonempty := by
    intro chunk hChunk
    unfold byFrames at hChunk
    rcases List.mem_append.mp hChunk with hFrame | hRest
    · rcases List.mem_map.mp hFrame with ⟨body, _, hBody⟩
      rw [← hBody]
      exact frame_ne_nil body
    · split at hRest
      · cases hRest
      · rename_i hSome
        rw [List.mem_singleton.mp hRest]
        exact hSome
  flatten_eq := by
    conv_rhs =>
      rw [@LengthPrefixed.parse_sound UInt8 frameFormat
        stream]
    unfold byFrames
    rw [List.flatten_append]
    congr 1
    split
    · rename_i hEmpty
      rw [hEmpty]
      rfl
    · simp

theorem state_serve_byFrames (stream : Bytes) :
    (serve call rejects (byFrames stream)).state =
      (frameFormat.parse stream).1.filterMap call := by
  have hFrames :=
    @serve_frames Call call rejects
      (frameFormat.parse stream).1
      fun _ hBody => LengthPrefixed.legal_of_mem_parse hBody
  unfold serve at hFrames ⊢
  unfold byFrames
  rw [onMessages_append, hFrames]
  split
  · rfl
  · rw [onMessages_drained (by
      rw [List.nil_append]
      exact LengthPrefixed.drained_rest stream)]

theorem quiet_of_endsInput
    {stream : Bytes}
    (hEnds : EndsInput call rejects stream) :
    QuietBehindRejected call rejects stream := by
  intro good bad back hParse hBad
  have hLegal :
      ∀ body ∈ good ++ [bad],
        frameFormat.Legal body.length := by
    intro body hBody
    apply LengthPrefixed.legal_of_mem_parse
    rw [hParse, ← List.singleton_append,
      ← List.append_assoc]
    exact List.mem_append_left back hBody
  let front := (good ++ [bad]).map frameFormat.frame
  have hFront := @serve_frames Call call rejects _ hLegal
  have hCut : ∃ later, byFrames stream = front ++ later := by
    unfold byFrames
    rw [hParse, ← List.singleton_append,
      ← List.append_assoc, List.map_append,
      List.append_assoc]
    exact ⟨_, rfl⟩
  rcases hCut with ⟨later, hLater⟩
  have hAll := @state_serve_byFrames Call call rejects stream
  have hSame :=
    hEnds.silent front later
      (hLater ▸ isCut_byFrames stream)
      (by rw [hFront]; simp [hBad])
  rw [← hLater, hAll, hFront, hParse] at hSame
  rw [← List.filterMap_eq_nil_iff]
  rw [← List.singleton_append, ← List.append_assoc,
    List.filterMap_append] at hSame
  exact List.append_right_eq_self.mp hSame

theorem endsInput_iff (stream : Bytes) :
    EndsInput call rejects stream ↔
      QuietBehindRejected call rejects stream :=
  ⟨quiet_of_endsInput, endsInput_of_quiet⟩

end Calls

------------------------------------------------------------
-- The Text of a Body
------------------------------------------------------------

end ChatServer

/- Only a null character is written with a zero byte. -/
theorem ne_zero_of_mem_utf8EncodeChar
    {c : Char}
    (hChar : c ≠ '\x00')
    {byte : UInt8}
    (hByte : byte ∈ String.utf8EncodeChar c) :
    byte ≠ 0 := by
  have hBytes :
      ∀ {value : Nat},
        0 < value → value < 256 →
          UInt8.ofNat value ≠ 0 := by
    intro value hPositive hBound hZero
    have hNat := congrArg UInt8.toNat hZero
    rw [UInt8.toNat_ofNat'] at hNat
    simp at hNat
    omega
  have hPositive : 0 < c.val.toNat := by
    rw [Nat.pos_iff_ne_zero]
    intro hZero
    apply hChar
    apply Char.ext
    exact UInt32.toNat_inj.mp hZero
  have hBound : c.val.toNat < 0x110000 := by
    have hValid := c.valid
    simp only [UInt32.isValidChar, Nat.isValidChar] at hValid
    omega
  unfold String.utf8EncodeChar at hByte
  dsimp only at hByte
  split at hByte
  · rw [List.mem_singleton] at hByte
    rw [hByte]
    exact hBytes hPositive (by omega)
  split at hByte
  · simp only [List.mem_cons, List.not_mem_nil, or_false]
      at hByte
    rcases hByte with rfl | rfl
    all_goals exact hBytes (by omega) (by omega)
  split at hByte
  · simp only [List.mem_cons, List.not_mem_nil, or_false]
      at hByte
    rcases hByte with rfl | rfl | rfl
    all_goals exact hBytes (by omega) (by omega)
  · simp only [List.mem_cons, List.not_mem_nil, or_false]
      at hByte
    rcases hByte with rfl | rfl | rfl | rfl
    all_goals exact hBytes (by omega) (by omega)

theorem utf8_ofList (chars : List Char) :
    utf8 (String.ofList chars) =
      chars.flatMap String.utf8EncodeChar := by
  have hBytes :
      (String.ofList chars).toUTF8 =
        (chars.flatMap String.utf8EncodeChar).toByteArray :=
    rfl
  unfold utf8
  rw [hBytes]
  simp

theorem takeWhile_utf8 (text : String) :
    (utf8 text).takeWhile (fun byte => decide (byte ≠ 0)) =
      utf8 (String.ofList (Lexer.untilNull text.toList)) := by
  rw [← String.ofList_toList (s := text)]
  generalize text.toList = chars
  rw [String.toList_ofList, utf8_ofList, utf8_ofList]
  induction chars with
  | nil => rfl
  | cons c chars ih =>
      rw [List.flatMap_cons]
      by_cases hNull : c = '\x00'
      · rw [hNull, Lexer.untilNull_null]
        rfl
      · rw [Lexer.untilNull_cons hNull, List.flatMap_cons,
          List.takeWhile_append_of_pos, ih]
        intro byte hByte
        exact
          decide_eq_true
            (ne_zero_of_mem_utf8EncodeChar hNull hByte)

namespace ChatServer

/-
  The text of a body, as far as the library reads it.  A zero
  byte ends the input, except inside a token, where it is an
  error like the end of the input; invalid UTF-8 in front of
  it is a parse error.
-/
def textOf (body : Bytes) : Option String :=
  String.fromUTF8?
    ⟨(body.takeWhile fun byte =>
      decide (byte ≠ 0)).toArray⟩

theorem textOf_utf8 (text : String) :
    textOf (utf8 text) =
      some
        (String.ofList (Lexer.untilNull text.toList)) := by
  unfold textOf
  rw [takeWhile_utf8]
  generalize
    String.ofList (Lexer.untilNull text.toList) = front
  have hBytes :
      (⟨(utf8 front).toArray⟩ : ByteArray) =
        front.toUTF8 := rfl
  unfold String.fromUTF8?
  rw [hBytes, String.toUTF8_eq_toByteArray,
    dif_pos front.isValidUTF8]
  rfl

example :
    textOf (utf8 "[1]" ++ [0, 0xff]) = some "[1]" := by
  decide +kernel

------------------------------------------------------------
-- What onMessage Does with a Body
------------------------------------------------------------

/- The value that `json::parse` returns for a body. -/
def parseBody
    (env : Externals)
    (body : Bytes) : Option Json :=
  (textOf body).bind env.codec.parse

/- The handler call that a value leads to: the message type
and the fields. -/
def callOf : Json → Option (Int × JsonObject)
| .object fields =>
    let msgid := JsonObject.field fields "msgid"
    if msgid.isNumberInteger then
      msgid.getInt.toOption.map fun msgid => (msgid, fields)
    else
      none
| _ => none

/- The same for a body. -/
def handlerCall
    (env : Externals)
    (body : Bytes) : Option (Int × JsonObject) :=
  (parseBody env body).bind callOf

/- A JSON exception ends the `try` block: there is no value,
or its handler cannot read a field. -/
def rejected (parsed : Option Json) : Bool :=
  match parsed with
  | none => true
  | some js =>
      match callOf js with
      | none => false
      | some (msgid, fields) =>
          !ChatService.readable msgid fields

/- The same for a body. -/
def raises
    (env : Externals)
    (body : Bytes) : Bool :=
  rejected (parseBody env body)

theorem getInt_of_isNumberInteger
    {js : Json}
    (hInteger : js.isNumberInteger = true) :
    ∃ value, js.getInt = .ok value := by
  cases js with
  | integer value => exact ⟨toInt32 value, rfl⟩
  | unsigned value => exact ⟨toInt32 value, rfl⟩
  | _ => exact Bool.noConfusion hInteger

/- `dispatch` makes the call, if there is one. -/
theorem dispatch_eq
    (env : Externals)
    (conn : ConnId)
    (js : Json)
    (readings : Readings) :
    dispatch env conn js readings =
      match callOf js with
      | some (msgid, fields) =>
          ChatService.getHandler env msgid conn fields
            readings
      | none => return () := by
  unfold callOf
  cases js with
  | object fields =>
      dsimp only [dispatch]
      by_cases hInteger :
          (JsonObject.field fields "msgid").isNumberInteger =
            true
      · rcases getInt_of_isNumberInteger hInteger with
          ⟨msgid, hMsgid⟩
        rw [if_pos hInteger, if_pos hInteger, hMsgid]
        rfl
      · rw [if_neg hInteger, if_neg hInteger]
  | _ => rfl

/-
  What `onMessage` does with the text of a frame, whatever
  happens elsewhere.  If the text raises an exception, the
  connection is shut down, and nothing else happens.
  Otherwise the handler call is made and returns.
-/
theorem onMessage_eq
    (env : Externals)
    (conn : ConnId)
    (text : String)
    (readings : Readings) :
    onMessage env conn text readings =
      if rejected (env.codec.parse text) then
        ask (.shutdown conn)
      else
        match (env.codec.parse text).bind callOf with
        | some (msgid, fields) =>
            ChatService.getHandler env msgid conn fields
              readings
        | none => return () := by
  unfold onMessage guarded
  cases env.codec.parse text with
  | none => rfl
  | some js =>
  dsimp only [Option.bind_some]
  rw [dispatch_eq]
  cases hCall : callOf js with
  | none => simp only [rejected, hCall]; rfl
  | some called =>
  rcases called with ⟨msgid, fields⟩
  have hRejected :
      rejected (some js) =
        !ChatService.readable msgid fields := by
    simp only [rejected, hCall]
  rw [hRejected]
  dsimp only
  by_cases hReadable :
      ChatService.readable msgid fields = true
  · rw [if_neg (by simp [hReadable])]
    exact
      Process.tryCatch_of_returns
        (ChatService.returns_getHandler hReadable env conn
          readings) _
  · rw [Bool.not_eq_true] at hReadable
    rcases
      ChatService.throws_getHandler hReadable env conn
        readings with ⟨error, hThrows⟩
    rw [if_pos (by simp [hReadable]), hThrows]
    rfl

/- The same for a body: `handlerCall` and `raises` are what
`onMessage` does with its text. -/
theorem onMessage_of_textOf
    {env : Externals}
    {body : Bytes}
    {text : String}
    (hText : textOf body = some text)
    (conn : ConnId)
    (readings : Readings) :
    onMessage env conn text readings =
      if raises env body then
        ask (.shutdown conn)
      else
        match handlerCall env body with
        | some (msgid, fields) =>
            ChatService.getHandler env msgid conn fields
              readings
        | none => return () := by
  have hParse :
      parseBody env body = env.codec.parse text := by
    unfold parseBody
    rw [hText, Option.bind_some]
  unfold raises handlerCall
  rw [hParse]
  exact onMessage_eq env conn text readings

/- For the library it does not matter whether a text is cut at
a null character. -/
theorem parseBody_library
    {env : Externals}
    {strtod : String → Option Rat}
    (hLibrary : env.codec = JsonCodec.library strtod)
    (text : String) :
    parseBody env (utf8 text) = env.codec.parse text := by
  unfold parseBody
  rw [textOf_utf8, Option.bind_some, hLibrary]
  exact Json.parse_untilNull strtod text

/-
  The streams on which a malformed frame ends the input of the
  connection: those with no frame behind a rejected one that
  leads to a handler call.  Frames behind an illegal header
  lead to none.
-/
theorem input_ends_iff
    (env : Externals)
    (stream : Bytes) :
    EndsInput (handlerCall env) (raises env) stream ↔
      QuietBehindRejected (handlerCall env) (raises env)
        stream :=
  endsInput_iff stream

/- A request to leave, for user 7. -/
def leaveFields : JsonObject :=
  [("msgid", .unsigned 3), ("id", .unsigned 7)]

def leaveEnv : Externals :=
  ⟨JsonCodec.ofTable [.object leaveFields], id, id⟩

/- An object that is not closed. -/
def brokenFrame : Bytes :=
  frameOf (utf8 "\x7b")

def leaveFrame : Bytes :=
  frameOf (utf8 (Json.object leaveFields).text)

/- In one chunk with the broken frame the request is lost, and
in a chunk of its own it reaches its handler after the
connection has been shut down. -/
theorem handler_called_after_shutdown :
    let serve :=
      serve (handlerCall leaveEnv) (raises leaveEnv)
    (serve [brokenFrame]).shutdown = true ∧
      (serve [brokenFrame]).state = [] ∧
        (serve [brokenFrame, leaveFrame]).state.map
            Prod.fst = [3] ∧
          (serve [brokenFrame ++ leaveFrame]).state = [] ∧
            ¬ EndsInput (handlerCall leaveEnv)
              (raises leaveEnv)
              (brokenFrame ++ leaveFrame) := by
  have hAlone :
      (serve (handlerCall leaveEnv) (raises leaveEnv)
            [brokenFrame]).shutdown = true ∧
        (serve (handlerCall leaveEnv) (raises leaveEnv)
            [brokenFrame]).state = [] := by
    decide +kernel
  have hCut :
      (serve (handlerCall leaveEnv) (raises leaveEnv)
          [brokenFrame, leaveFrame]).state.map Prod.fst =
        [3] := by
    decide +kernel
  have hWhole :
      (serve (handlerCall leaveEnv) (raises leaveEnv)
          [brokenFrame ++ leaveFrame]).state = [] := by
    decide +kernel
  refine ⟨hAlone.1, hAlone.2, hCut, hWhole, ?_⟩
  intro hEnds
  have hSame :=
    hEnds.uncut [brokenFrame, leaveFrame]
      [brokenFrame ++ leaveFrame]
      ⟨by decide +kernel, rfl⟩ ⟨by decide +kernel, rfl⟩
  rw [hSame, hWhole] at hCut
  cases hCut

end ChatServer

end ClusterChat
