import ClusterChat.Frame

/-
  How the client writes and reads frames, translated from
  `main.cpp` of the client.

  A call of `recv` returns at most 4096 bytes of what arrives
  next, and nothing when the connection is at its end.

  Main declarations:
    * `Client.sendFrame`
    * `Client.recvFrame` and `Client.recvFrames`
    * `Client.recvFrames_eq`
-/

------------------------------------------------------------
-- Writing
------------------------------------------------------------

namespace ClusterChat

namespace Client

/-
  The loop of `sendFrame` on the bytes that are left, with
  what `send` answers: the bytes that reach the connection,
  and whether the loop ends with everything sent.
-/
def sendLoop (left : Bytes) : List Int → Bytes × Bool
| [] => ([], left.isEmpty)
| n :: answers =>
    if left = [] then
      ([], true)
    else if n ≤ 0 then
      ([], false)
    else
      let next := sendLoop (left.drop n.toNat) answers
      (left.take n.toNat ++ next.1, next.2)

/- `sendFrame` on a serialized message. -/
def sendFrame
    (body : Bytes)
    (answers : List Int) : Bytes × Bool :=
  sendLoop (htonl body.length ++ body) answers

theorem sendLoop_of_true
    {left : Bytes}
    {answers : List Int}
    (hSent : (sendLoop left answers).2 = true) :
    (sendLoop left answers).1 = left := by
  induction answers generalizing left with
  | nil => exact (List.isEmpty_iff.mp hSent).symm
  | cons n answers ih =>
      unfold sendLoop at hSent ⊢
      split_ifs at hSent ⊢ with hEmpty hFailed
      · exact hEmpty.symm
      · dsimp only at hSent ⊢
        rw [ih hSent, List.take_append_drop]

/- Positive answers that add up send everything. -/
theorem sendLoop_completes
    {left : Bytes}
    {answers : List Int}
    (hPositive : ∀ n ∈ answers, 0 < n)
    (hEnough : (left.length : Int) ≤ answers.sum) :
    (sendLoop left answers).2 = true := by
  induction answers generalizing left with
  | nil =>
      have hEmpty : left = [] := by
        rw [List.sum_nil] at hEnough
        exact List.length_eq_zero_iff.mp (by omega)
      simp [sendLoop, hEmpty]
  | cons n answers ih =>
      have hFirst : 0 < n :=
        hPositive n List.mem_cons_self
      rw [List.sum_cons] at hEnough
      unfold sendLoop
      split_ifs with hEmpty hFailed
      · rfl
      · omega
      · apply ih
        · intro m hMember
          exact hPositive m (List.mem_cons_of_mem _ hMember)
        · rw [List.length_drop]
          have hSum : 0 ≤ answers.sum :=
            List.sum_nonneg fun m hMember =>
              (hPositive m
                (List.mem_cons_of_mem _ hMember)).le
          omega

/- A frame that is sent is a frame of the format. -/
theorem sendFrame_of_true
    {body : Bytes}
    {answers : List Int}
    (hSent : (sendFrame body answers).2 = true) :
    (sendFrame body answers).1 = frameFormat.frame body :=
  sendLoop_of_true hSent

------------------------------------------------------------
-- Reading
------------------------------------------------------------

/- `recv` on the chunks that arrive. -/
def recv : List Bytes → Option (Bytes × List Bytes)
| [] => none
| chunk :: chunks =>
    if chunk = [] then
      recv chunks
    else if chunk.length ≤ 4096 then
      some (chunk, chunks)
    else
      some (chunk.take 4096, chunk.drop 4096 :: chunks)

theorem recv_of_none
    {chunks : List Bytes}
    (hNone : recv chunks = none) :
    chunks.flatten = [] := by
  induction chunks with
  | nil => rfl
  | cons chunk chunks ih =>
      unfold recv at hNone
      split_ifs at hNone with hEmpty hShort
      rw [List.flatten_cons, hEmpty, ih hNone]
      rfl

/- What `recv` returns comes off the front. -/
theorem recv_of_some
    {chunks left : List Bytes}
    {bytes : Bytes}
    (hSome : recv chunks = some (bytes, left)) :
    bytes ≠ [] ∧ bytes ++ left.flatten = chunks.flatten := by
  induction chunks with
  | nil => cases hSome
  | cons chunk chunks ih =>
      unfold recv at hSome
      split_ifs at hSome with hEmpty hShort
      · rcases ih hSome with ⟨hBytes, hSame⟩
        refine ⟨hBytes, ?_⟩
        rw [hSame, List.flatten_cons, hEmpty,
          List.nil_append]
      · cases hSome
        exact ⟨hEmpty, rfl⟩
      · cases hSome
        constructor
        · intro hNil
          have hLength := congrArg List.length hNil
          rw [List.length_take, List.length_nil] at hLength
          omega
        · rw [List.flatten_cons, List.flatten_cons,
            ← List.append_assoc, List.take_append_drop]

/- What a call of `recvFrame` leaves: the body, if it returns
one, `g_recvBuf`, and the chunks that are still to arrive. -/
structure Received where
  body : Option Bytes
  buffer : Bytes
  chunks : List Bytes

/-
  The part of the loop of `recvFrame` in front of `recv`: the
  value it returns, if it does, and the buffer.
-/
def bufferedFrame
    (buffer : Bytes) : Option (Option Bytes × Bytes) :=
  if kHeaderLen ≤ buffer.length then
    let bodyLen := ntohl (buffer.take kHeaderLen)
    if bodyLen = 0 ∨ kMaxFrameLen < bodyLen then
      some (none, [])
    else if kHeaderLen + bodyLen ≤ buffer.length then
      some
        (some ((buffer.drop kHeaderLen).take bodyLen),
          buffer.drop (kHeaderLen + bodyLen))
    else
      none
  else
    none

/- The loop of `recvFrame`. -/
def recvFrame
    (buffer : Bytes)
    (chunks : List Bytes) : Received :=
  match bufferedFrame buffer with
  | some returned => ⟨returned.1, returned.2, chunks⟩
  | none =>
      match _hRecv : recv chunks with
      | none => ⟨none, buffer, []⟩
      | some (bytes, left) =>
          recvFrame (buffer ++ bytes) left
termination_by chunks.flatten.length
decreasing_by
  rcases recv_of_some (by assumption) with ⟨hBytes, hSame⟩
  rw [← hSame, List.length_append]
  have hPositive := List.length_pos_iff.mpr hBytes
  omega

theorem bufferedFrame_front (buffer : Bytes) :
    bufferedFrame buffer =
      match frameFormat.front buffer with
      | .incomplete => none
      | .illegal => some (none, [])
      | .complete body rest => some (some body, rest) := by
  rw [bufferedFrame, front_frameFormat]
  dsimp only
  split_ifs <;> first | rfl | omega

/-
  One call, by what the buffer and the chunks start with when
  they are put together.
-/
theorem recvFrame_front
    (buffer : Bytes)
    (chunks : List Bytes) :
    match frameFormat.front (buffer ++ chunks.flatten) with
    | .incomplete =>
        recvFrame buffer chunks =
          ⟨none, buffer ++ chunks.flatten, []⟩
    | .illegal =>
        (recvFrame buffer chunks).body = none ∧
          (recvFrame buffer chunks).buffer = []
    | .complete body rest =>
        (recvFrame buffer chunks).body = some body ∧
          (recvFrame buffer chunks).buffer ++
              (recvFrame buffer chunks).chunks.flatten =
            rest := by
  fun_induction recvFrame buffer chunks with
  | case1 buffer chunks returned hReturned =>
      rw [bufferedFrame_front] at hReturned
      cases hFront : frameFormat.front buffer with
      | incomplete =>
          rw [hFront] at hReturned
          cases hReturned
      | illegal =>
          rw [hFront] at hReturned
          rw [LengthPrefixed.front_append_of_illegal hFront]
          cases hReturned
          exact ⟨rfl, rfl⟩
      | complete body rest =>
          rw [hFront] at hReturned
          rw [LengthPrefixed.front_append_of_complete hFront]
          cases hReturned
          exact ⟨rfl, rfl⟩
  | case2 buffer chunks hWaits hRecv =>
      rw [recv_of_none hRecv, List.append_nil]
      rw [bufferedFrame_front] at hWaits
      cases hFront : frameFormat.front buffer with
      | incomplete => rfl
      | illegal =>
          rw [hFront] at hWaits
          cases hWaits
      | complete body rest =>
          rw [hFront] at hWaits
          cases hWaits
  | case3 buffer chunks hWaits bytes left hRecv ih =>
      rw [List.append_assoc, (recv_of_some hRecv).2] at ih
      exact ih

/- Everything that a connection still has to deliver. -/
def Received.stream (received : Received) : Bytes :=
  received.buffer ++ received.chunks.flatten

theorem length_stream_lt
    {buffer : Bytes}
    {chunks : List Bytes}
    {body : Bytes}
    (hBody : (recvFrame buffer chunks).body = some body) :
    (recvFrame buffer chunks).stream.length <
      (buffer ++ chunks.flatten).length := by
  have hCall := recvFrame_front buffer chunks
  cases hFront :
      frameFormat.front (buffer ++ chunks.flatten) with
  | incomplete =>
      rw [hFront] at hCall
      rw [hCall] at hBody
      cases hBody
  | illegal =>
      rw [hFront] at hCall
      rw [hCall.1] at hBody
      cases hBody
  | complete other rest =>
      rw [hFront] at hCall
      unfold Received.stream
      rw [hCall.2]
      exact LengthPrefixed.length_rest_lt hFront

/- `recvFrame` until it returns false: the bodies, and what
stays in `g_recvBuf`. -/
def recvFrames
    (buffer : Bytes)
    (chunks : List Bytes) : List Bytes × Bytes :=
  match _hBody : (recvFrame buffer chunks).body with
  | none => ([], (recvFrame buffer chunks).buffer)
  | some body =>
      let next :=
        recvFrames (recvFrame buffer chunks).buffer
          (recvFrame buffer chunks).chunks
      (body :: next.1, next.2)
termination_by (buffer ++ chunks.flatten).length
decreasing_by exact length_stream_lt (by assumption)

/-
  The calls return what the format says of the whole stream,
  and an illegal header empties the buffer.
-/
theorem recvFrames_eq
    (buffer : Bytes)
    (chunks : List Bytes) :
    recvFrames buffer chunks =
      let parsed :=
        frameFormat.parse (buffer ++ chunks.flatten)
      (parsed.1, if stopped parsed.2 then [] else parsed.2) := by
  fun_induction recvFrames buffer chunks with
  | case1 buffer chunks hBody =>
      have hCall := recvFrame_front buffer chunks
      cases hFront :
          frameFormat.front (buffer ++ chunks.flatten) with
      | incomplete =>
          rw [hFront] at hCall
          rw [LengthPrefixed.parse_of_drained
              (LengthPrefixed.drained_of_incomplete hFront),
            hCall]
          dsimp only
          rw [stopped, hFront]
          rfl
      | illegal =>
          rw [hFront] at hCall
          rw [LengthPrefixed.parse_of_drained
              (LengthPrefixed.drained_of_illegal hFront),
            hCall.2]
          dsimp only
          rw [stopped, hFront]
          rfl
      | complete body rest =>
          rw [hFront] at hCall
          rw [hCall.1] at hBody
          cases hBody
  | case2 buffer chunks body hBody next ih =>
      have hCall := recvFrame_front buffer chunks
      cases hFront :
          frameFormat.front (buffer ++ chunks.flatten) with
      | incomplete =>
          rw [hFront] at hCall
          rw [hCall] at hBody
          cases hBody
      | illegal =>
          rw [hFront] at hCall
          rw [hCall.1] at hBody
          cases hBody
      | complete other rest =>
          rw [hFront] at hCall
          rw [hCall.1] at hBody
          cases hBody
          rw [hCall.2] at ih
          rw [LengthPrefixed.parse_of_complete hFront]
          change next = _ at ih
          rw [ih]

end Client

end ClusterChat
