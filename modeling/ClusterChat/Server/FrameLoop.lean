import ClusterChat.Frame

/-
  How the server writes and reads frames, translated from
  `chatserver.cpp`.

  The body of a frame goes to a `try` block that parses it
  and runs its handler.  Here the block is a parameter: it
  changes the state of the server, and tells whether a JSON
  exception ended it.

  Main declarations:
    * `ChatServer.frameOf`
    * `ChatServer.onMessageLoop` and `ChatServer.onMessages`
    * `ChatServer.onMessages_eq`
-/

------------------------------------------------------------
-- Writing and Reading
------------------------------------------------------------

namespace ClusterChat

namespace ChatServer

/- The bytes that `sendWithHeader` hands to a connection. -/
def frameOf (body : Bytes) : Bytes :=
  htonl body.length ++ body

/- What calls of `onMessage` on one connection did: the state
they leave, the bodies taken off, the bytes that stay in the
buffer, and whether the connection was shut down. -/
structure Reading (State : Type) where
  state : State
  bodies : List Bytes
  buffer : Bytes
  shutdown : Bool

variable {State : Type}

/- The `while` loop of `onMessage` on the bytes that are
readable. -/
def onMessageLoop
    (handle : State → Bytes → State × Bool)
    (state : State)
    (buffer : Bytes) : Reading State :=
  if buffer.length < kHeaderLen then
    ⟨state, [], buffer, false⟩
  else
    let bodyLen := ntohl (buffer.take kHeaderLen)
    if bodyLen = 0 ∨ kMaxFrameLen < bodyLen then
      ⟨state, [], buffer, true⟩
    else if buffer.length < kHeaderLen + bodyLen then
      ⟨state, [], buffer, false⟩
    else
      let body := (buffer.drop kHeaderLen).take bodyLen
      let rest := buffer.drop (kHeaderLen + bodyLen)
      let handled := handle state body
      if handled.2 then
        ⟨handled.1, [body], rest, true⟩
      else
        let next := onMessageLoop handle handled.1 rest
        { next with bodies := body :: next.bodies }
termination_by buffer.length
decreasing_by
  rw [List.length_drop]
  have hHeader : 0 < kHeaderLen := by decide
  omega

/- `onMessage` once for each chunk that becomes readable. -/
def onMessages
    (handle : State → Bytes → State × Bool)
    (before : Reading State) : List Bytes → Reading State
| [] => before
| chunk :: chunks =>
    let next :=
      onMessageLoop handle before.state
        (before.buffer ++ chunk)
    onMessages handle
      { next with
        bodies := before.bodies ++ next.bodies
        shutdown := before.shutdown || next.shutdown }
      chunks

/- A connection that has received nothing yet. -/
def opened (state : State) : Reading State :=
  ⟨state, [], [], false⟩

------------------------------------------------------------
-- What the Loop Takes Off
------------------------------------------------------------

/- No body of the list ends in a JSON exception. -/
def Accepts
    (handle : State → Bytes → State × Bool) :
    State → List Bytes → Prop
| _, [] => True
| state, body :: bodies =>
    (handle state body).2 = false ∧
      Accepts handle (handle state body).1 bodies

/- The state when all bodies have been handled. -/
def handleAll
    (handle : State → Bytes → State × Bool)
    (state : State)
    (bodies : List Bytes) : State :=
  bodies.foldl (fun state body => (handle state body).1) state

theorem accepts_append_iff
    {handle : State → Bytes → State × Bool}
    {state : State}
    {front back : List Bytes} :
    Accepts handle state (front ++ back) ↔
      Accepts handle state front ∧
        Accepts handle (handleAll handle state front)
          back := by
  induction front generalizing state with
  | nil => simp [Accepts, handleAll]
  | cons body front ih =>
      simp only [List.cons_append, Accepts, ih, and_assoc]
      rfl

/- One round of the loop, by what the buffer starts with. -/
theorem onMessageLoop_front
    (handle : State → Bytes → State × Bool)
    (state : State)
    (buffer : Bytes) :
    onMessageLoop handle state buffer =
      match frameFormat.front buffer with
      | .incomplete => ⟨state, [], buffer, false⟩
      | .illegal => ⟨state, [], buffer, true⟩
      | .complete body rest =>
          let handled := handle state body
          if handled.2 then
            ⟨handled.1, [body], rest, true⟩
          else
            let next := onMessageLoop handle handled.1 rest
            { next with bodies := body :: next.bodies } := by
  rw [onMessageLoop, front_frameFormat]
  dsimp only
  split_ifs <;> simp_all

/- The loop takes off what the format says. -/
theorem onMessageLoop_eq
    {handle : State → Bytes → State × Bool}
    {state : State}
    {buffer : Bytes}
    (hAccepts :
      Accepts handle state (frameFormat.parse buffer).1) :
    onMessageLoop handle state buffer =
      ⟨handleAll handle state (frameFormat.parse buffer).1,
        (frameFormat.parse buffer).1,
        (frameFormat.parse buffer).2,
        stopped (frameFormat.parse buffer).2⟩ := by
  fun_induction frameFormat.parse buffer generalizing state
    with
  | case1 buffer body rest hFront parsed =>
      rename_i ih
      rcases hAccepts with ⟨hServed, hRest⟩
      rw [onMessageLoop_front, hFront]
      dsimp only
      rw [hServed, ih hRest]
      rfl
  | case2 buffer hFront =>
      rw [onMessageLoop_front, stopped, hFront]
      rfl
  | case3 buffer hFront =>
      rw [onMessageLoop_front, stopped, hFront]
      rfl

/- What the format says of the bytes that follow. -/
def readStream
    (handle : State → Bytes → State × Bool)
    (before : Reading State)
    (stream : Bytes) : Reading State :=
  let parsed := frameFormat.parse (before.buffer ++ stream)
  { state := handleAll handle before.state parsed.1
    bodies := before.bodies ++ parsed.1
    buffer := parsed.2
    shutdown := stopped parsed.2 }

theorem readStream_nil
    (handle : State → Bytes → State × Bool)
    {before : Reading State}
    (hDrained : frameFormat.Drained before.buffer)
    (hStopped : before.shutdown = stopped before.buffer) :
    readStream handle before [] = before := by
  unfold readStream
  rw [List.append_nil,
    LengthPrefixed.parse_of_drained hDrained]
  simp only [List.append_nil, ← hStopped]
  rfl

theorem readStream_append
    (handle : State → Bytes → State × Bool)
    (before : Reading State)
    (front back : Bytes) :
    readStream handle (readStream handle before front)
        back =
      readStream handle before (front ++ back) := by
  have hParse :=
    @LengthPrefixed.parse_append UInt8 frameFormat
      (before.buffer ++ front) back
  rw [List.append_assoc] at hParse
  unfold readStream handleAll
  simp only [hParse, List.foldl_append, List.append_assoc]

/- One call of `onMessage` reads its chunk. -/
theorem onMessage_eq_readStream
    {handle : State → Bytes → State × Bool}
    {before : Reading State}
    (hStopped : before.shutdown = stopped before.buffer)
    {chunk : Bytes}
    (hAccepts :
      Accepts handle before.state
        (frameFormat.parse (before.buffer ++ chunk)).1)
    (chunks : List Bytes) :
    onMessages handle before (chunk :: chunks) =
      onMessages handle (readStream handle before chunk)
        chunks := by
  have hFlag :
      (before.shutdown ||
          stopped
            (frameFormat.parse
              (before.buffer ++ chunk)).2) =
        stopped
          (frameFormat.parse (before.buffer ++ chunk)).2 := by
    cases hBefore : before.shutdown with
    | false => rfl
    | true =>
        rw [hStopped] at hBefore
        have hIllegal := illegal_of_stopped hBefore
        rw [LengthPrefixed.parse_append_of_illegal hIllegal]
        unfold stopped
        rw [LengthPrefixed.front_append_of_illegal hIllegal]
        rfl
  conv_lhs => unfold onMessages
  rw [onMessageLoop_eq hAccepts]
  dsimp only
  rw [hFlag]
  rfl

/-
  The calls of `onMessage` take off what the format says of
  the whole stream, however it is cut into chunks.
-/
theorem onMessages_eq
    {handle : State → Bytes → State × Bool}
    {before : Reading State}
    (hDrained : frameFormat.Drained before.buffer)
    (hStopped : before.shutdown = stopped before.buffer)
    {chunks : List Bytes}
    (hAccepts :
      Accepts handle before.state
        (frameFormat.parse
          (before.buffer ++ chunks.flatten)).1) :
    onMessages handle before chunks =
      readStream handle before chunks.flatten := by
  induction chunks generalizing before with
  | nil => exact (readStream_nil handle hDrained hStopped).symm
  | cons chunk chunks ih =>
      have hSplit :=
        @LengthPrefixed.parse_append UInt8 frameFormat
          (before.buffer ++ chunk) chunks.flatten
      rw [List.append_assoc] at hSplit
      rw [List.flatten_cons, hSplit] at hAccepts
      rcases accepts_append_iff.mp hAccepts with
        ⟨hFirst, hRest⟩
      have hDrainedNext :
          frameFormat.Drained
            (readStream handle before chunk).buffer :=
        LengthPrefixed.drained_rest _
      rw [onMessage_eq_readStream hStopped hFirst,
        ih hDrainedNext rfl hRest, readStream_append,
        List.flatten_cons]

end ChatServer

end ClusterChat
