import ClusterChat.Client.Login
import ClusterChat.Client.Receive

/-
  How the client shows messages, translated from
  `renderChatMessage` in `main.cpp` of the client, and what
  ends the client.

  The display callback reads members of a constant object:
  a missing one is an error, and a member of another type
  raises an exception.  Nothing catches either of them.

  Main declarations:
    * `Client.renderChatMessage` and `Client.Renders`
    * `Client.process` and `Client.processAll`
    * `Client.processAll_succeeds`
-/

------------------------------------------------------------
-- The Display Callback
------------------------------------------------------------

namespace ClusterChat

/- What ends the client when nothing catches it. -/
inductive ClientFailure where
| missingKey (key : String)
| exception (error : JsonException)
deriving DecidableEq, Repr

namespace Client

/- An exception of the JSON library goes on. -/
def uncaught
    {α : Type}
    (value : Except JsonException α) :
    Except ClientFailure α :=
  value.mapError .exception

/- `js[key]` on a constant object. -/
def constMember
    (js : Json)
    (key : String) : Except ClientFailure Json :=
  match js.find? key with
  | some value => .ok value
  | none => .error (.missingKey key)

/- `js[key].get<string>()` -/
def constText
    (js : Json)
    (key : String) : Except ClientFailure String := do
  let value ← constMember js key
  uncaught value.getString

/- `js[key].get<int>()` -/
def constInt
    (js : Json)
    (key : String) : Except ClientFailure Int := do
  let value ← constMember js key
  uncaught value.getInt

/- `value(key, 0ULL)` -/
def valueUInt64
    (js : Json)
    (key : String) : Except JsonException Nat :=
  match js with
  | .object fields =>
      match JsonObject.find? key fields with
      | some member => member.getUInt64
      | none => .ok 0
  | _ => .error .typeError

/- `renderChatMessage`, with the line that it prints, if it
prints one. -/
def renderChatMessage
    (codec : JsonCodec)
    (js : Json) : Except ClientFailure (Option String) := do
  let msgtype ← uncaught (js.valueInt "msgid")
  let seq ← uncaught (valueUInt64 js "seq")
  if msgtype = EnMsgType.oneChatMsg.code then
    let time ← constText js "time"
    let id ← constMember js "id"
    let name ← constText js "name"
    let msg ← constText js "msg"
    return some
      (time ++ " [#" ++ toString seq ++ "][" ++
        codec.dump id ++ "]" ++ name ++ " said:" ++ msg)
  else if msgtype = EnMsgType.groupChatMsg.code then
    let time ← constText js "time"
    let id ← constMember js "id"
    let name ← constText js "name"
    let groupid ← constInt js "groupid"
    let msg ← constText js "msg"
    return some
      (time ++ " [#" ++ toString seq ++ "][" ++
        codec.dump id ++ "]" ++ name ++ " in group[" ++
        toString groupid ++ "] said:" ++ msg)
  else
    return none

/- The callback on every message that is displayed. -/
def render
    (codec : JsonCodec)
    (effects : List Effect) :
    Except ClientFailure (List (Option String)) :=
  (emitted effects).mapM (renderChatMessage codec)

/- The callback returns. -/
def Renders (codec : JsonCodec) (js : Json) : Prop :=
  ∃ line, renderChatMessage codec js = .ok line

------------------------------------------------------------
-- The Client
------------------------------------------------------------

/- A frame for `readTaskHandler`, or the offline messages of
a login, with the clock readings of their calls. -/
inductive Input where
| frame (arrival : Arrival)
| offline
    (vec : List (String × TimePoint)) (visits : Visits)

/- The texts that an input brings. -/
def Input.texts : Input → List String
| frame arrival => [arrival.body]
| offline vec _ => vec.map Prod.fst

/- The offline messages that parse. -/
def parsedOffline
    (codec : JsonCodec)
    (vec : List (String × TimePoint)) :
    List (Json × TimePoint) :=
  vec.filterMap fun entry =>
    (codec.parse entry.1).map fun js => (js, entry.2)

/- What the client makes of an input: its state, and the
lines that it prints. -/
def process
    (codec : JsonCodec)
    (client : Client) :
    Input →
      Except ClientFailure (Client × List (Option String))
| .frame arrival => do
    let turn ← uncaught (client.readTask codec arrival)
    let lines ← render codec (turn.ticked ++ turn.shown)
    return (turn.after, lines)
| .offline vec visits => do
    let replayed ←
      uncaught
        (client.orderer.onOfflineBatch
          (parsedOffline codec vec) visits)
    let lines ← render codec replayed.2
    return ({ client with orderer := replayed.1 }, lines)

/- Several inputs, one after another. -/
def processAll
    (codec : JsonCodec)
    (client : Client) :
    List Input →
      Except ClientFailure (Client × List (Option String))
| [] => return (client, [])
| input :: inputs => do
    let first ← client.process codec input
    let rest ← processAll codec first.1 inputs
    return (rest.1, first.2 ++ rest.2)

/- A client that has just been started. -/
def started
    (gapTimeoutMs : Int)
    (userId : Int)
    (state : UserState) : Client where
  orderer := ConversationOrderer.fresh gapTimeoutMs
  userId := userId
  state := state

------------------------------------------------------------
-- What Is Displayed
------------------------------------------------------------

end Client

namespace ConversationOrderer

variable {known : Json → Prop} {orderer : ConversationOrderer}

/- Whatever is pending is known. -/
def Keeps
    (known : Json → Prop)
    (orderer : ConversationOrderer) : Prop :=
  ∀ conv,
    ∀ entry ∈ (orderer.channels conv).pending.entries,
      known entry.2

theorem keeps_fresh (gapTimeoutMs : Int) :
    Keeps known (fresh gapTimeoutMs) := by
  intro conv entry hEntry
  simp [fresh, SortedMap.empty] at hEntry

theorem Keeps.setChannel
    (hKeeps : orderer.Keeps known)
    {conv : String}
    {ch : Channel}
    (hChannel : ∀ entry ∈ ch.pending.entries, known entry.2) :
    (orderer.setChannel conv ch).Keeps known := by
  intro other entry hEntry
  unfold ConversationOrderer.setChannel at hEntry
  by_cases hOther : other = conv
  · rw [hOther] at hEntry
    simp only [Function.update_self] at hEntry
    exact hChannel entry hEntry
  · simp only [Function.update_of_ne hOther] at hEntry
    exact hKeeps other entry hEntry

/- The orderer keeps and displays known messages only. -/
structure Passes
    (known : Json → Prop)
    (result : ConversationOrderer × List Effect) : Prop where
  kept : result.1.Keeps known
  shown : ∀ js ∈ emitted result.2, known js

theorem emitted_of_drawsFrom
    {result : Channel × List Effect}
    (hDraws :
      Channel.DrawsFrom (fun entry => known entry.2)
        result) :
    ∀ js ∈ emitted result.2, known js := by
  intro js hEmitted
  rcases hDraws.acted _ (mem_emitted_iff.mp hEmitted) with
    ⟨entry, hKnown, hMessage⟩
  rw [hMessage] at hKnown
  exact hKnown

/- A loop over the channels whose body passes on what is
pending. -/
theorem passes_forChannels
    {body : TimePoint → Channel → Channel × List Effect}
    (hBody :
      ∀ now ch,
        (∀ entry ∈ ch.pending.entries, known entry.2) →
          Channel.DrawsFrom (fun entry => known entry.2)
            (body now ch))
    (hKeeps : orderer.Keeps known)
    (visits : Visits) :
    Passes known (orderer.forChannels body visits) := by
  induction visits generalizing orderer with
  | nil => exact ⟨hKeeps, by simp [forChannels]⟩
  | cons visit visits ih =>
      have hVisited := hBody visit.2 _ (hKeeps visit.1)
      have hNext :
          (orderer.setChannel visit.1
            (body visit.2
              (orderer.channels visit.1)).1).Keeps known :=
        hKeeps.setChannel hVisited.kept
      have hRest := ih hNext
      unfold forChannels
      refine ⟨hRest.kept, ?_⟩
      intro js hEmitted
      rw [emitted_append] at hEmitted
      rcases List.mem_append.mp hEmitted with hHere | hThere
      · exact emitted_of_drawsFrom hVisited js hHere
      · exact hRest.shown js hThere

/- A step that brings nothing passes on what is pending. -/
theorem drawsFrom_quiet
    {event : ChannelEvent}
    (hQuiet : event.arrival? = none)
    {ch : Channel}
    (hPending : ∀ entry ∈ ch.pending.entries, known entry.2) :
    Channel.DrawsFrom (fun entry => known entry.2)
      (ch.step event) := by
  apply (Channel.step_drawsFrom ch event).mono
  intro entry hSource
  rcases hSource with hArrival | hOld
  · rw [hQuiet] at hArrival
    cases hArrival
  · exact hPending entry hOld

/- One event that brings a known message, or none. -/
theorem passes_apply
    (hKeeps : orderer.Keeps known)
    {event : OrdererEvent}
    (hEvent : ∀ js, event.message? = some js → known js) :
    Passes known (orderer.apply event) := by
  cases event with
  | message js now =>
      have hKnown := hEvent js rfl
      cases hNumber : js.numbered? with
      | none =>
          rw [apply_unnumbered orderer now hNumber]
          refine ⟨hKeeps, ?_⟩
          intro other hEmitted
          rw [emitted_emit, List.mem_singleton] at hEmitted
          rw [hEmitted]
          exact hKnown
      | some number =>
          rcases number with ⟨conv, seq⟩
          rw [apply_numbered orderer now hNumber]
          have hDraws :
              Channel.DrawsFrom (fun entry => known entry.2)
                ((orderer.channels conv).receive js seq now) :=
            Channel.receive_drawsFrom now hKnown (hKeeps conv)
          exact
            ⟨hKeeps.setChannel hDraws.kept,
              emitted_of_drawsFrom hDraws⟩
  | tick now visits =>
      apply passes_forChannels _ hKeeps
      intro drainNow ch hPending
      have hQuiet :
          (ChannelEvent.tick orderer.gapTimeoutMs now
            drainNow).arrival? = none := rfl
      exact drawsFrom_quiet hQuiet hPending
  | flush visits =>
      apply passes_forChannels _ hKeeps
      intro drainNow ch hPending
      have hQuiet :
          (ChannelEvent.flush drainNow).arrival? = none := rfl
      exact drawsFrom_quiet hQuiet hPending

/- A run that brings known messages. -/
theorem passes_run
    (hKeeps : orderer.Keeps known)
    {events : List OrdererEvent}
    (hEvents : ∀ js ∈ receivedMessages events, known js) :
    Passes known (orderer.runFrom events) := by
  unfold runFrom
  induction events generalizing orderer with
  | nil => exact ⟨hKeeps, by simp⟩
  | cons event events ih =>
      have hFirst : Passes known (orderer.apply event) := by
        apply passes_apply hKeeps
        intro js hMessage
        apply hEvents
        exact
          List.mem_filterMap.mpr
            ⟨event, List.mem_cons_self, hMessage⟩
      have hRest := by
        refine ih hFirst.kept ?_
        intro js hMember
        apply hEvents
        rcases List.mem_filterMap.mp hMember with
          ⟨other, hOther, hMessage⟩
        exact
          List.mem_filterMap.mpr
            ⟨other, List.mem_cons_of_mem _ hOther, hMessage⟩
      rw [Transducer.run_cons]
      refine ⟨hRest.kept, ?_⟩
      intro js hEmitted
      rw [emitted_append] at hEmitted
      rcases List.mem_append.mp hEmitted with hHere | hThere
      · exact hFirst.shown js hHere
      · exact hRest.shown js hThere

end ConversationOrderer

------------------------------------------------------------
-- A Client That Goes On
------------------------------------------------------------

namespace Client

variable {codec : JsonCodec}

/- The callback goes through what renders. -/
theorem render_succeeds
    {effects : List Effect}
    (hEffects :
      ∀ js ∈ emitted effects, Renders codec js) :
    ∃ lines, render codec effects = .ok lines := by
  unfold render
  generalize emitted effects = messages at hEffects
  induction messages with
  | nil => exact ⟨[], rfl⟩
  | cons js messages ih =>
      rcases hEffects js List.mem_cons_self with
        ⟨line, hLine⟩
      rcases ih fun other hOther =>
          hEffects other (List.mem_cons_of_mem _ hOther) with
        ⟨lines, hLines⟩
      refine ⟨line :: lines, ?_⟩
      rw [List.mapM_cons, hLine]
      dsimp only [bind, Except.bind]
      rw [hLines]
      rfl

/- The text is a chat message with a conversation id that
is a string, and the callback can show it. -/
structure Showable
    (codec : JsonCodec)
    (text : String) : Prop where
  chat :
    ∃ js msgtype,
      codec.parse text = some js ∧
        js.valueInt "msgid" = .ok msgtype ∧
          (msgtype = EnMsgType.oneChatMsg.code ∨
            msgtype = EnMsgType.groupChatMsg.code) ∧
          js.ConvidIsString ∧ Renders codec js

/- What is pending can be shown. -/
def Ready (codec : JsonCodec) (client : Client) : Prop :=
  client.orderer.Keeps (Renders codec)

theorem process_frame
    {client : Client}
    {arrival : Arrival}
    {turn : Turn}
    (hTurn : client.readTask codec arrival = .ok turn)
    {lines : List (Option String)}
    (hLines :
      render codec (turn.ticked ++ turn.shown) = .ok lines) :
    client.process codec (.frame arrival) =
      .ok (turn.after, lines) := by
  unfold process
  dsimp only
  rw [hTurn]
  dsimp only [uncaught, Except.mapError, bind, Except.bind]
  rw [hLines]
  rfl

theorem process_offline
    {client : Client}
    {vec : List (String × TimePoint)}
    {visits : Visits}
    {replayed : ConversationOrderer × List Effect}
    (hReplayed :
      client.orderer.onOfflineBatch (parsedOffline codec vec)
          visits = .ok replayed)
    {lines : List (Option String)}
    (hLines : render codec replayed.2 = .ok lines) :
    client.process codec (.offline vec visits) =
      .ok ({ client with orderer := replayed.1 }, lines) := by
  unfold process
  dsimp only
  rw [hReplayed]
  dsimp only [uncaught, Except.mapError, bind, Except.bind]
  rw [hLines]
  rfl

/- A frame that can be shown. -/
theorem process_frame_succeeds
    {client : Client}
    (hReady : client.Ready codec)
    {arrival : Arrival}
    (hShowable : Showable codec arrival.body) :
    ∃ after lines,
      client.process codec (.frame arrival) =
          .ok (after, lines) ∧
        after.Ready codec := by
  rcases hShowable.chat with
    ⟨js, msgtype, hParsed, hType, hChat, hString, hRenders⟩
  have hTurn :=
    readTask_of_typed hParsed hType hChat hString client
  have hTicked :
      ConversationOrderer.Passes (Renders codec)
        (client.orderer.apply
          (.tick arrival.tickedAt arrival.visits)) :=
    ConversationOrderer.passes_apply hReady
      fun other hOther => by cases hOther
  have hShown :
      ConversationOrderer.Passes (Renders codec)
        ((client.orderer.apply
          (.tick arrival.tickedAt arrival.visits)).1.apply
            (.message js arrival.now)) :=
    ConversationOrderer.passes_apply hTicked.kept
      fun other hOther => by
        cases hOther
        exact hRenders
  have hLines :
      ∃ lines,
        render codec
            ((client.orderer.tick arrival.tickedAt
                arrival.visits).2 ++
              ((client.orderer.tick arrival.tickedAt
                arrival.visits).1.apply
                  (.message js arrival.now)).2) =
          .ok lines := by
    apply render_succeeds
    intro other hEmitted
    rw [emitted_append] at hEmitted
    rcases List.mem_append.mp hEmitted with hHere | hThere
    · exact hTicked.shown other hHere
    · exact hShown.shown other hThere
  rcases hLines with ⟨lines, hLines⟩
  exact ⟨_, lines, process_frame hTurn hLines, hShown.kept⟩

/- Offline messages that can be shown. -/
theorem process_offline_succeeds
    {client : Client}
    (hReady : client.Ready codec)
    {vec : List (String × TimePoint)}
    (hShowable :
      ∀ entry ∈ vec, Showable codec entry.1)
    (visits : Visits) :
    ∃ after lines,
      client.process codec (.offline vec visits) =
          .ok (after, lines) ∧
        after.Ready codec := by
  have hParsed :
      ∀ m ∈ parsedOffline codec vec,
        m.1.ConvidIsString ∧ Renders codec m.1 := by
    intro m hMember
    rcases List.mem_filterMap.mp hMember with
      ⟨entry, hEntry, hSome⟩
    rcases Option.map_eq_some_iff.mp hSome with
      ⟨js, hParse, hPair⟩
    rcases (hShowable entry hEntry).chat with
      ⟨other, msgtype, hOther, _, _, hString, hRenders⟩
    rw [hParse] at hOther
    have hSame : js = other := Option.some.inj hOther
    rw [← hPair, hSame]
    exact ⟨hString, hRenders⟩
  have hMessages :
      (ConversationOrderer.call client.orderer
          (.onOfflineBatch (parsedOffline codec vec)
            visits)) =
        .ok
          (client.orderer.runFrom
            (Call.onOfflineBatch (parsedOffline codec vec)
              visits).events) := by
    apply ConversationOrderer.call_eq_run
    intro js hMember
    rcases List.mem_map.mp hMember with ⟨m, hM, hSame⟩
    rw [← hSame]
    exact (hParsed m hM).1
  have hPasses :
      ConversationOrderer.Passes (Renders codec)
        (client.orderer.runFrom
          (Call.onOfflineBatch (parsedOffline codec vec)
            visits).events) := by
    apply ConversationOrderer.passes_run hReady
    intro js hMember
    rw [ConversationOrderer.receivedMessages_call] at hMember
    rcases List.mem_map.mp hMember with ⟨m, hM, hSame⟩
    rw [← hSame]
    exact (hParsed m hM).2
  rcases render_succeeds hPasses.shown with ⟨lines, hLines⟩
  exact
    ⟨_, lines, process_offline hMessages hLines,
      hPasses.kept⟩

/- A client that is only given what can be shown goes on. -/
theorem processAll_succeeds
    {client : Client}
    (hReady : client.Ready codec)
    {inputs : List Input}
    (hShowable :
      ∀ input ∈ inputs,
        ∀ text ∈ input.texts, Showable codec text) :
    ∃ result,
      client.processAll codec inputs = .ok result := by
  induction inputs generalizing client with
  | nil => exact ⟨_, rfl⟩
  | cons input inputs ih =>
      have hHere :=
        hShowable input List.mem_cons_self
      have hFirst :
          ∃ after lines,
            client.process codec input = .ok (after, lines) ∧
              after.Ready codec := by
        cases input with
        | frame arrival =>
            exact
              process_frame_succeeds hReady
                (hHere _ List.mem_cons_self)
        | offline vec visits =>
            apply process_offline_succeeds hReady
            intro entry hEntry
            exact hHere _ (List.mem_map_of_mem hEntry)
      rcases hFirst with ⟨after, lines, hProcess, hNext⟩
      rcases ih hNext fun other hOther =>
          hShowable other (List.mem_cons_of_mem _ hOther) with
        ⟨rest, hRest⟩
      refine ⟨(rest.1, lines ++ rest.2), ?_⟩
      unfold processAll
      rw [hProcess]
      dsimp only [bind, Except.bind]
      rw [hRest]
      rfl

end Client

end ClusterChat
