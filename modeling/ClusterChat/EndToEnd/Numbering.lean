import ClusterChat.Client.Receive
import ClusterChat.Server.ChatRun

/-
  The numbers of the server and the orderer of a client.

  Every message takes a number of its conversation, but its
  sender is not sent a copy.  So a client that sends and
  receives in one conversation misses numbers: its own.  The
  orderer takes them for lost messages.

  Main declarations:
    * `brings_message`
    * `chat_displays_on_arrival_iff`
-/

------------------------------------------------------------
-- From the Wire to the Orderer
------------------------------------------------------------

namespace ClusterChat

variable {env : Externals}

/- A payload arrives as a chat message of its type. -/
theorem valueInt_message
    (frame : ChatFrame env)
    (seq : Nat) :
    (frame.message seq).normalize.valueInt "msgid" =
      .ok frame.addressee.msgid := by
  have hStamp :
      JsonObject.find? "msgid"
          (ChatService.stamp frame.convId seq
            frame.readings.time frame.fields) =
        JsonObject.find? "msgid" frame.fields := by
    unfold ChatService.stamp
    rw [JsonObject.find?_assign_of_ne (by decide),
      JsonObject.find?_assign_of_ne (by decide),
      JsonObject.find?_assign_of_ne (by decide)]
  have hInteger := frame.isInteger
  have hTyped := frame.typed
  unfold JsonObject.field at hInteger hTyped
  unfold ChatFrame.message Json.normalize Json.valueInt
  dsimp only
  rw [Json.find?_normalizeFields, hStamp]
  cases hField : JsonObject.find? "msgid" frame.fields with
  | none =>
      rw [hField] at hInteger
      simp [Json.isNumberInteger] at hInteger
  | some msgid =>
      rw [hField, Option.getD_some] at hInteger hTyped
      dsimp only [Option.map_some]
      rw [Json.getInt_normalize]
      exact hTyped

/- The orderer takes what a frame pushes. -/
theorem brings_message
    {frame : ChatFrame env}
    {seq : Nat}
    (hCodec : env.codec.RoundTrips (frame.message seq))
    (hBound : seq < seqBound)
    {arrival : Client.Arrival}
    (hBody : arrival.body = frame.payload seq) :
    Client.Brings env.codec arrival
      (frame.message seq).normalize where
  parsed := by
    rw [hBody]
    exact hCodec
  typed := by
    refine ⟨_, valueInt_message frame seq, ?_⟩
    cases frame.addressee with
    | user toid => exact Or.inl rfl
    | group groupid => exact Or.inr rfl
  deliverable :=
    Json.deliverable_of_numbered (frame.numbered?_message seq)
      hBound

/- What arrives, frame by frame. -/
theorem brings_pushed
    {entries : List (ChatFrame env × Nat)}
    (hCodec :
      ∀ entry ∈ entries,
        env.codec.RoundTrips (entry.1.message entry.2))
    (hBound : ∀ entry ∈ entries, entry.2 < seqBound)
    {arrivals : List Client.Arrival}
    (hBodies :
      arrivals.map Client.Arrival.body =
        entries.map fun entry =>
          entry.1.payload entry.2) :
    List.Forall₂ (Client.Brings env.codec) arrivals
      (entries.map fun entry =>
        (entry.1.message entry.2).normalize) := by
  induction entries generalizing arrivals with
  | nil =>
      have hNil : arrivals = [] := by
        simpa using hBodies
      rw [hNil]
      exact List.Forall₂.nil
  | cons entry entries ih =>
      cases arrivals with
      | nil => simp at hBodies
      | cons arrival arrivals =>
          rw [List.map_cons, List.map_cons, List.cons.injEq]
            at hBodies
          rw [List.forall_mem_cons] at hCodec hBound
          exact
            List.Forall₂.cons
              (brings_message hCodec.1 hBound.1 hBodies.1)
              (ih hCodec.2 hBound.2 hBodies.2)

/- A fresh orderer starts anywhere. -/
theorem continues_fresh_iff
    {gapTimeoutMs : Int}
    {conv : String}
    {numbers : List Nat} :
    Client.Continues
        ((ConversationOrderer.fresh
          gapTimeoutMs).channels conv) numbers ↔
      NumberedCopies.Consecutive numbers := by
  simp [Client.Continues, ConversationOrderer.fresh]

/-
  One node handles chat frames of any senders in the order of
  their numbers, and a user whose connection is connected
  reads everything that is pushed.  The orderer displays each
  message of the conversation on arrival exactly if the
  messages that are copied to this connection are one block,
  with one copy each.
-/
theorem chat_displays_on_arrival_iff
    {id : NodeId}
    {cluster : Cluster}
    {frames : List (ChatFrame env)}
    (hServes : cluster.Serves id frames)
    {u : Int}
    {conn : ConnId}
    (hConn : cluster.connOf id u = some conn)
    (hConnected : cluster.conns conn = .connected)
    (hCodec :
      ∀ frame ∈ frames,
        ∀ seq,
          cluster.counters frame.convId < seq →
            seq ≤
              cluster.counters frame.convId + frames.length →
              env.codec.RoundTrips (frame.message seq))
    {arrivals : List Client.Arrival}
    (hArrivals :
      (cluster.handleFrames env id frames).wire conn =
        cluster.wire conn ++
          arrivals.map Client.Arrival.body)
    {client : Client}
    {gapTimeoutMs : Int}
    (hFresh :
      client.orderer = ConversationOrderer.fresh gapTimeoutMs)
    (conversationId : String) :
    ∃ turns,
      client.readTaskHandler env.codec arrivals = .ok turns ∧
        ((∀ turn ∈ turns,
            turn.DisplaysOnArrival conversationId) ↔
          NumberedCopies.IsBlock
            ((frames.filter fun frame =>
              frame.convId = conversationId).map
                (cluster.copiesFor id u))) := by
  have hBodies :
      arrivals.map Client.Arrival.body =
        (Cluster.pushed (cluster.copiesOn id conn)
          cluster.counters frames).map fun entry =>
            entry.1.payload entry.2 := by
    rw [Cluster.wire_handleFrames hServes hConnected]
      at hArrivals
    exact (List.append_cancel_left hArrivals).symm
  have hBrings :
      List.Forall₂ (Client.Brings env.codec) arrivals
        ((Cluster.pushed (cluster.copiesOn id conn)
          cluster.counters frames).map fun entry =>
            (entry.1.message entry.2).normalize) := by
    refine brings_pushed ?_ ?_ hBodies
    · intro entry hEntry
      rcases Cluster.of_mem_pushed hEntry with
        ⟨hMember, hAbove, hBelow⟩
      apply hCodec entry.1 hMember entry.2 hAbove
      exact
        hBelow.trans
          (Nat.add_le_add_left List.countP_le_length _)
    · intro entry hEntry
      have hBelow := (Cluster.of_mem_pushed hEntry).2.2
      have hRoom := hServes.room entry.1.convId
      unfold seqBound
      omega
  have hCopies :
      cluster.copiesOn id conn =
        fun frame : ChatFrame env =>
          cluster.copiesFor id u frame :=
    funext (Cluster.copiesOn_eq_copiesFor hConn)
  rcases Client.readTaskHandler_displays_iff hBrings
      (hFresh ▸ Client.waiting_fresh gapTimeoutMs
        conversationId) with
    ⟨turns, hTurns, hIff⟩
  refine ⟨turns, hTurns, ?_⟩
  rw [hIff, hFresh, continues_fresh_iff,
    Cluster.numbersIn_pushed, hCopies,
    NumberedCopies.consecutive_iff_isBlock]

------------------------------------------------------------
-- Two Users Who Chat
------------------------------------------------------------

/- What the server reads from a chat frame. -/
def chatFields (fromid toid : Int) : JsonObject :=
  Json.normalizeFields (sampleChat fromid toid)

/- The message that it sends on. -/
def chatMessage
    (fromid toid : Int)
    (seq : Nat) : Json :=
  .object
    (ChatService.stamp (conv.p2p fromid toid) seq
      sampleReadings.time (chatFields fromid toid))

/- The frames of users 1 and 2, and what they become as one
of the first three messages. -/
def chatTable : List Json :=
  [.object (sampleChat 1 2), .object (sampleChat 2 1),
    chatMessage 1 2 1, chatMessage 1 2 2, chatMessage 1 2 3,
    chatMessage 2 1 1, chatMessage 2 1 2, chatMessage 2 1 3]

def chatExternals : Externals :=
  sampleExternals chatTable

theorem chatTable_roundTrips
    {js : Json}
    (hKnown : js ∈ chatTable) :
    chatExternals.codec.RoundTrips js :=
  JsonCodec.roundTrips_ofTable (by decide +kernel) hKnown

theorem parse_sampleChat
    {fromid toid : Int}
    (hKnown : .object (sampleChat fromid toid) ∈ chatTable) :
    chatExternals.codec.parse
        (Json.object (sampleChat fromid toid)).text =
      some (.object (chatFields fromid toid)) :=
  chatTable_roundTrips hKnown

/- User 1 writes to user 2. -/
def forth : ChatFrame chatExternals where
  conn := 5
  body := (Json.object (sampleChat 1 2)).text
  readings := sampleReadings
  fields := chatFields 1 2
  sender := 1
  addressee := .user 2
  parsed := parse_sampleChat (by simp [chatTable])
  isInteger := rfl
  typed := rfl
  named := rfl
  addressed := rfl

/- User 2 writes to user 1. -/
def back : ChatFrame chatExternals where
  conn := 6
  body := (Json.object (sampleChat 2 1)).text
  readings := sampleReadings
  fields := chatFields 2 1
  sender := 2
  addressee := .user 1
  parsed := parse_sampleChat (by simp [chatTable])
  isInteger := rfl
  typed := rfl
  named := rfl
  addressed := rfl

/- Both are logged in on node 1. -/
def chatCluster : Cluster :=
  ((sampleCluster []).insertConn 1 1 5).insertConn 1 2 6

/- The client of user 2. -/
def chatClient : Client where
  orderer := ConversationOrderer.fresh 800
  userId := 2
  state := .online

/- A message that the node sends on reaches it. -/
def chatArrival
    (frame : ChatFrame chatExternals)
    (seq : Nat) : Client.Arrival where
  body := frame.payload seq
  tickedAt := 1
  visits := []
  now := 1

/- Node 1 can handle up to three of their frames. -/
theorem chatCluster_serves
    {frames : List (ChatFrame chatExternals)}
    (hFrames :
      ∀ frame ∈ frames, frame = forth ∨ frame = back)
    (hFew : frames.length ≤ 3) :
    chatCluster.Serves 1 frames where
  sends := by decide +kernel
  integer := by decide +kernel
  room := by
    intro conversationId
    have hCount :
        frames.countP (fun frame =>
          frame.convId = conversationId) ≤ frames.length :=
      List.countP_le_length
    change
      0 +
          frames.countP (fun frame =>
            frame.convId = conversationId) <
        2 ^ 63
    omega
  loggedIn := by
    intro frame hFrame
    rcases hFrames frame hFrame with rfl | rfl
    · decide +kernel
    · decide +kernel

/- User 2 displays both messages of user 1 on arrival. -/
theorem one_way_chat_is_displayed :
    ∃ turns,
      chatClient.readTaskHandler chatExternals.codec
          [chatArrival forth 1, chatArrival forth 2] =
        .ok turns ∧
      ∀ turn ∈ turns,
        turn.DisplaysOnArrival (conv.p2p 1 2) := by
  have hServes :
      chatCluster.Serves 1 [forth, forth] :=
    chatCluster_serves (by simp) (by simp)
  have hCodec :
      ∀ frame ∈ [forth, forth],
        ∀ seq,
          chatCluster.counters frame.convId < seq →
            seq ≤ chatCluster.counters frame.convId + 2 →
              chatExternals.codec.RoundTrips
                (frame.message seq) := by
    intro frame hFrame seq hAbove hBelow
    have hForth : frame = forth := by
      simpa using hFrame
    have hFirst : 0 < seq := hAbove
    have hLast : seq ≤ 0 + 2 := hBelow
    have hSeq : seq = 1 ∨ seq = 2 := by
      omega
    rw [hForth]
    apply chatTable_roundTrips
    change chatMessage 1 2 seq ∈ chatTable
    rcases hSeq with rfl | rfl
    · simp [chatTable]
    · simp [chatTable]
  have hBlock :
      ([forth, forth].filter fun frame =>
          frame.convId = conv.p2p 1 2).map
            (chatCluster.copiesFor 1 2) = [1, 1] := by
    decide +kernel
  have hConn : chatCluster.connOf 1 2 = some 6 := by
    decide +kernel
  have hArrivals :
      (chatCluster.handleFrames chatExternals 1
          [forth, forth]).wire 6 =
        chatCluster.wire 6 ++
          [chatArrival forth 1, chatArrival forth 2].map
            Client.Arrival.body := by
    decide +kernel
  have hFresh :
      chatClient.orderer = ConversationOrderer.fresh 800 :=
    rfl
  rcases chat_displays_on_arrival_iff hServes hConn
      (by decide +kernel) hCodec hArrivals hFresh
      (conv.p2p 1 2) with
    ⟨turns, hTurns, hIff⟩
  rw [hBlock] at hIff
  exact
    ⟨turns, hTurns,
      hIff.mpr ⟨0, [1, 1], rfl, 2, [], rfl, 0, rfl⟩⟩

/- The third message is handed to the orderer and is held
back: number 2 was taken by a message of user 2 itself. -/
theorem alternating_chat_is_held_back :
    chatCluster.Serves 1 [forth, back, forth] ∧
      chatCluster.connOf 1 2 = some 6 ∧
        (chatCluster.handleFrames chatExternals 1
            [forth, back, forth]).wire 6 =
          [forth.payload 1, forth.payload 3] ∧
          ∃ turns,
            chatClient.readTaskHandler chatExternals.codec
                [chatArrival forth 1, chatArrival forth 3] =
              .ok turns ∧
            ¬ ∀ turn ∈ turns,
              turn.DisplaysOnArrival (conv.p2p 1 2) := by
  refine
    ⟨chatCluster_serves (by simp) (by simp),
      by decide +kernel, by decide +kernel, ?_⟩
  have hHeld :
      ∃ turns ∈
          (chatClient.readTaskHandler chatExternals.codec
            [chatArrival forth 1,
              chatArrival forth 3]).toOption,
        ∃ turn ∈ turns,
          turn.handed.bind Json.numbered? =
              some (conv.p2p 1 2, 3) ∧
            turn.shown.length = 0 := by
    decide +kernel
  rcases hHeld with
    ⟨turns, hTurns, turn, hTurn, hNumber, hShown⟩
  have hOk :
      chatClient.readTaskHandler chatExternals.codec
          [chatArrival forth 1, chatArrival forth 3] =
        .ok turns := by
    generalize
      chatClient.readTaskHandler chatExternals.codec
        [chatArrival forth 1, chatArrival forth 3] = result
      at hTurns
    cases result with
    | error error => simp [Except.toOption] at hTurns
    | ok value =>
        exact congrArg Except.ok (Option.some.inj hTurns)
  refine ⟨turns, hOk, ?_⟩
  intro hAll
  rcases Option.bind_eq_some_iff.mp hNumber with
    ⟨js, hHanded, hNumbered⟩
  have hEmitted :=
    (hAll turn hTurn js 3 hHanded hNumbered).1
  rw [List.length_eq_zero_iff.mp hShown] at hEmitted
  simp at hEmitted

end ClusterChat
