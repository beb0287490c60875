import ClusterChat.Client.FrameLoop
import ClusterChat.Server.FrameLoop

/-
  What one side frames, the other side takes apart, however
  the bytes are cut on the way.

  Main declarations:
    * `frame_codec`
-/

------------------------------------------------------------
-- Both Receivers
------------------------------------------------------------

namespace ClusterChat

variable {State : Type}

/- A connection of the server from its first chunk on. -/
theorem onMessages_opened
    {handle : State → Bytes → State × Bool}
    {state : State}
    {chunks : List Bytes}
    (hAccepts :
      ChatServer.Accepts handle state
        (frameFormat.parse chunks.flatten).1) :
    ChatServer.onMessages handle (ChatServer.opened state)
        chunks =
      ChatServer.readStream handle (ChatServer.opened state)
        chunks.flatten :=
  ChatServer.onMessages_eq LengthPrefixed.drained_nil
    (by
      unfold ChatServer.opened stopped
      rw [LengthPrefixed.front_nil]
      rfl)
    hAccepts

/- What the senders write for a list of bodies. -/
def framed (bodies : List Bytes) : Bytes :=
  (bodies.map frameFormat.frame).flatten

theorem parse_framed
    {bodies : List Bytes}
    (hLengths :
      ∀ body ∈ bodies,
        1 ≤ body.length ∧ body.length ≤ kMaxFrameLen)
    {rest : Bytes}
    (hRest : frameFormat.Drained rest) :
    frameFormat.parse (framed bodies ++ rest) =
      (bodies, rest) := by
  have hLegal :
      ∀ body ∈ bodies, frameFormat.Legal body.length :=
    fun body hBody =>
      (legal_iff body.length).mpr (hLengths body hBody)
  unfold framed
  rw [LengthPrefixed.parse_frames hLegal,
    LengthPrefixed.parse_of_drained hRest]
  rw [List.append_nil]

/- What reaches the connection when messages are sent, each
with the answers that its calls of `send` get. -/
def written (sends : List (Bytes × List Int)) : Bytes :=
  (sends.map fun sent =>
    (Client.sendFrame sent.1 sent.2).1).flatten

theorem written_eq_framed
    {sends : List (Bytes × List Int)}
    (hSent :
      ∀ sent ∈ sends,
        (Client.sendFrame sent.1 sent.2).2 = true) :
    written sends = framed (sends.map Prod.fst) := by
  unfold written framed
  rw [List.map_map]
  congr 1
  apply List.map_congr_left
  intro sent hMember
  exact Client.sendFrame_of_true (hSent sent hMember)

/- A stream of frames with a last one that is cut off, and
what both receivers make of it. -/
theorem receivers_on_framed
    {handle : State → Bytes → State × Bool}
    {start : State}
    {bodies : List Bytes}
    (hLengths :
      ∀ body ∈ bodies,
        1 ≤ body.length ∧ body.length ≤ kMaxFrameLen)
    {rest : Bytes}
    (hRest : frameFormat.front rest = .incomplete)
    {chunks : List Bytes}
    (hChunks : chunks.flatten = framed bodies ++ rest)
    (hAccepts : ChatServer.Accepts handle start bodies) :
    (ChatServer.onMessages handle (ChatServer.opened start)
          chunks).bodies = bodies ∧
      (ChatServer.onMessages handle
          (ChatServer.opened start) chunks).buffer = rest ∧
        Client.recvFrames [] chunks = (bodies, rest) := by
  have hParse :=
    parse_framed hLengths
      (LengthPrefixed.drained_of_incomplete hRest)
  rw [← hChunks] at hParse
  have hBodies :
      (frameFormat.parse chunks.flatten).1 = bodies :=
    congrArg Prod.fst hParse
  rw [← hBodies] at hAccepts
  have hServer := onMessages_opened hAccepts
  have hClient := Client.recvFrames_eq [] chunks
  rw [hServer, hClient]
  unfold ChatServer.readStream ChatServer.opened
  simp only [List.nil_append, hParse]
  refine ⟨trivial, trivial, ?_⟩
  rw [stopped, hRest]
  rfl

/-
  The round trip.  Partial writes send whole frames.  Bodies
  of 1 to 65536 bytes come out of both receivers as they were
  sent, for every way to cut the stream, and a frame that is
  cut off stays in their buffers.  On any stream the receivers
  extract the same bodies, and stop at an illegal header.  The
  server is assumed to handle every body without a JSON
  exception.
-/
theorem frame_codec
    (handle : State → Bytes → State × Bool)
    (start : State) :
    (∀ body answers,
      (∀ n ∈ answers, 0 < n) →
        ((ChatServer.frameOf body).length : Int) ≤
            answers.sum →
          (Client.sendFrame body answers).2 = true ∧
            (Client.sendFrame body answers).1 =
              ChatServer.frameOf body) ∧
    (∀ (sends : List (Bytes × List Int)) chunks,
      (∀ sent ∈ sends,
        (1 ≤ sent.1.length ∧ sent.1.length ≤ kMaxFrameLen) ∧
          (Client.sendFrame sent.1 sent.2).2 = true) →
      chunks.flatten = written sends →
      ChatServer.Accepts handle start (sends.map Prod.fst) →
        (ChatServer.onMessages handle
              (ChatServer.opened start) chunks).bodies =
            sends.map Prod.fst ∧
          (ChatServer.onMessages handle
              (ChatServer.opened start) chunks).buffer = [] ∧
            Client.recvFrames [] chunks =
              (sends.map Prod.fst, [])) ∧
    (∀ bodies last cut chunks,
      (∀ body ∈ bodies ++ [last],
        1 ≤ body.length ∧ body.length ≤ kMaxFrameLen) →
      cut < (ChatServer.frameOf last).length →
      chunks.flatten =
        (bodies.map ChatServer.frameOf).flatten ++
          (ChatServer.frameOf last).take cut →
      ChatServer.Accepts handle start bodies →
        (ChatServer.onMessages handle
              (ChatServer.opened start) chunks).bodies =
            bodies ∧
          (ChatServer.onMessages handle
                (ChatServer.opened start) chunks).buffer =
              (ChatServer.frameOf last).take cut ∧
            Client.recvFrames [] chunks =
              (bodies, (ChatServer.frameOf last).take cut)) ∧
    (∀ chunks pieces : List Bytes,
      chunks.flatten = pieces.flatten →
      ChatServer.Accepts handle start
        (Client.recvFrames [] pieces).1 →
        let server :=
          ChatServer.onMessages handle
            (ChatServer.opened start) chunks
        let client := Client.recvFrames [] pieces
        server.bodies = client.1 ∧
          chunks.flatten =
            (server.bodies.map ChatServer.frameOf).flatten ++
              server.buffer ∧
            frameFormat.Drained server.buffer ∧
              (server.shutdown = true ↔
                kHeaderLen ≤ server.buffer.length ∧
                  (ntohl (server.buffer.take kHeaderLen) =
                      0 ∨
                    kMaxFrameLen <
                      ntohl
                        (server.buffer.take kHeaderLen))) ∧
                client.2 =
                  if server.shutdown then
                    []
                  else
                    server.buffer) := by
  refine ⟨?_, ?_, ?_, ?_⟩
  · intro body answers hPositive hEnough
    have hSent :=
      Client.sendLoop_completes hPositive hEnough
    exact ⟨hSent, Client.sendFrame_of_true hSent⟩
  · intro sends chunks hSends hChunks hAccepts
    have hWritten :=
      written_eq_framed fun sent hMember =>
        (hSends sent hMember).2
    rw [hWritten, ← List.append_nil (framed _)] at hChunks
    apply
      receivers_on_framed ?_ LengthPrefixed.front_nil hChunks
        hAccepts
    intro body hBody
    rcases List.mem_map.mp hBody with ⟨sent, hMember, hSame⟩
    rw [← hSame]
    exact (hSends sent hMember).1
  · intro bodies last cut chunks hLengths hCut hChunks
      hAccepts
    have hLast :=
      (legal_iff last.length).mpr
        (hLengths last (by simp))
    apply
      receivers_on_framed ?_
        (LengthPrefixed.front_take_frame hLast hCut) hChunks
        hAccepts
    intro body hBody
    exact hLengths body (List.mem_append_left _ hBody)
  · intro chunks pieces hSame hAccepts server client
    have hClient := Client.recvFrames_eq [] pieces
    rw [List.nil_append, ← hSame] at hClient
    rw [hClient] at hAccepts
    have hServer := onMessages_opened hAccepts
    have hSound :=
      @LengthPrefixed.parse_sound _ frameFormat
        chunks.flatten
    change server = _ at hServer
    change client = _ at hClient
    rw [hServer, hClient]
    unfold ChatServer.readStream ChatServer.opened
    simp only [List.nil_append]
    refine
      ⟨trivial, hSound, LengthPrefixed.drained_rest _,
        stopped_iff _, trivial⟩

/- Two frames in pieces that cut a header and a body. -/
example :
    Client.bufferedFrame ([0, 0, 0, 2, 7, 8] ++ [0, 0]) =
      some (some [7, 8], [0, 0]) := by
  decide

end ClusterChat
