import ClusterChat.Server.Payloads

/-
  The copies of the chat messages of a running cluster.

  What is pushed, published, stored, or handed over is the
  payload of a message that came in during the run, with the
  number it took, or it was there at the start.

  Main declarations:
    * `Observer.PassesText`
    * `Cluster.Holds` and `Cluster.holds_answer`
    * `History.Message` and `History.Known`
    * `History.Copied` and `History.copied_step`
    * `History.OneNumber`
    * `History.one_message_one_number`
-/

------------------------------------------------------------
-- Texts on Their Way
------------------------------------------------------------

namespace ClusterChat

/- What is called with a published message gets its text, and
confirmations are no messages. -/
structure Observer.PassesText (observer : Observer) : Prop where
  message :
    ∀ channel message userid text,
      observer (Redis.messageReply channel message) =
          some (userid, text) →
        text = cString message
  confirmation :
    ∀ kind channel count,
      observer (Redis.confirmationReply kind channel count) =
        none

theorem passesText_observe :
    Observer.PassesText Redis.observe where
  message := by
    intro channel message userid text hRead
    have hBoth :
        some ((0 : Int), cString message) =
          some (userid, text) :=
      hRead
    exact (congrArg Prod.snd (Option.some.inj hBoth)).symm
  confirmation := fun _ _ _ => rfl

namespace Cluster

variable {observer : Observer}

/- The text is stored for somebody, or it is on its way to a
node. -/
def Holds
    (observer : Observer)
    (cluster : Cluster)
    (text : String) : Prop :=
  (∃ userid,
    OfflineMessageModel.Stored cluster.db userid text) ∨
    ∃ entry ∈ cluster.replies,
      ∃ userid, observer entry.2 = some (userid, text)

theorem Holds.of_replies
    {before after : Cluster}
    {text : String}
    (hAfter : after.Holds observer text)
    (hDb : after.db = before.db)
    (hReplies :
      ∀ entry ∈ after.replies,
        entry ∈ before.replies ∨ observer entry.2 = none) :
    before.Holds observer text := by
  rcases hAfter with hStored | ⟨entry, hEntry, userid, hRead⟩
  · rw [hDb] at hStored
    exact Or.inl hStored
  · rcases hReplies entry hEntry with hOld | hNone
    · exact Or.inr ⟨entry, hOld, userid, hRead⟩
    · rw [hNone] at hRead
      simp at hRead

theorem holds_environment
    (hPasses : observer.PassesText)
    {cluster : Cluster}
    {event : EnvironmentEvent}
    {text : String}
    (hHolds :
      (cluster.environment event).Holds observer text) :
    cluster.Holds observer text := by
  rcases cluster.environment_eq event with
    ⟨nodes, subscriptions, confirmations, hSame, hConfirms⟩
  rw [hSame] at hHolds
  refine hHolds.of_replies rfl ?_
  intro entry hEntry
  rcases List.mem_append.mp hEntry with hOld | hNew
  · exact Or.inl hOld
  · rcases hConfirms entry hNew with
      ⟨kind, channel, count, hEntrySame⟩
    rw [hEntrySame]
    exact Or.inr (hPasses.confirmation kind channel count)

/- A text that an operation adds was stored or published. -/
theorem holds_answer
    (hPasses : observer.PassesText)
    (env : Externals)
    (id : NodeId)
    (op : ServerOp)
    {cluster : Cluster}
    {text : String}
    (hHolds :
      (cluster.answer env id op).2.Holds observer text) :
    cluster.Holds observer text ∨
      (∃ userid, op = .insertOffline userid text) ∨
        ∃ channel message,
          op = .publish channel message ∧
            text = cString (cString message) := by
  rcases hHolds with ⟨userid, hStored⟩ | hReply
  · rcases (stored_answer_iff env id op cluster userid
        text).mp hStored with ⟨hOld, _⟩ | hNew
    · exact Or.inl (Or.inl ⟨userid, hOld⟩)
    · exact Or.inr (Or.inl ⟨userid, hNew⟩)
  · rcases hReply with ⟨entry, hEntry, userid, hRead⟩
    by_cases hKeeps : op.PublishesNothing
    · rw [(answer_keeps env id op cluster).replies hKeeps]
        at hEntry
      exact Or.inl (Or.inr ⟨entry, hEntry, userid, hRead⟩)
    cases op with
    | publish channel message =>
        simp only [answer] at hEntry
        split at hEntry
        · rcases List.mem_append.mp hEntry with hOld | hNew
          · exact
              Or.inl (Or.inr ⟨entry, hOld, userid, hRead⟩)
          · rcases List.mem_map.mp hNew with ⟨_, _, hSent⟩
            rw [← hSent] at hRead
            exact
              Or.inr
                (Or.inr
                  ⟨channel, message, rfl,
                    hPasses.message _ _ _ _ hRead⟩)
        · exact
            Or.inl (Or.inr ⟨entry, hEntry, userid, hRead⟩)
    | _ => exact absurd trivial hKeeps

end Cluster

------------------------------------------------------------
-- Messages
------------------------------------------------------------

namespace History

variable {env : Externals} {observer : Observer}

/- The handler with the ticket handles the frame, and it has
taken the number. -/
def Message
    (history : History)
    (ticket : Nat)
    (frame : ChatFrame env)
    (seq : Nat) : Prop :=
  (∃ node,
    history.started[ticket]? =
      some
        { node := node
          source := .connection frame.conn
          process :=
            ChatServer.onMessage env frame.conn frame.body
              frame.readings }) ∧
    ∃ event ∈ history.events,
      event.ticket = ticket ∧
        event.Takes env frame.convId seq

/- The text was there at the start, or it is the payload of a
message with its number. -/
def Known
    (env : Externals)
    (old : String → Prop)
    (history : History)
    (text : String) : Prop :=
  old text ∨
    ∃ (ticket : Nat) (frame : ChatFrame env) (seq : Nat),
      history.Message ticket frame seq ∧
        text = frame.payload seq

/- The record has only grown. -/
structure Grows (before after : History) : Prop where
  started : before.started <+: after.started
  events : before.events <+: after.events

theorem grows_of_step
    {before after : History}
    {label : Label}
    (hTraced : before.Traced env)
    (hStep :
      before.step env observer label = some after) :
    Grows before after := by
  cases advance_of_step hTraced.aligned hStep with
  | spawn spawns =>
      exact ⟨List.prefix_append _ _, List.prefix_rfl⟩
  | pass passes => exact ⟨List.prefix_rfl, List.prefix_rfl⟩
  | perform index running held due =>
      exact ⟨List.prefix_rfl, List.prefix_append _ _⟩
  | finish index running held done =>
      exact ⟨List.prefix_rfl, List.prefix_rfl⟩

variable {before after : History}

theorem Message.mono
    {ticket seq : Nat}
    {frame : ChatFrame env}
    (hMessage : before.Message ticket frame seq)
    (hGrows : Grows before after) :
    after.Message ticket frame seq := by
  rcases hMessage with
    ⟨⟨node, hStarted⟩, event, hEvent, hTakes⟩
  refine ⟨⟨node, ?_⟩, event, ?_, hTakes⟩
  · rcases hGrows.started with ⟨more, hMore⟩
    have hBound := (List.getElem?_eq_some_iff.mp hStarted).1
    rw [← hMore, List.getElem?_append_left hBound]
    exact hStarted
  · exact hGrows.events.subset hEvent

theorem Known.mono
    {old : String → Prop}
    {text : String}
    (hKnown : before.Known env old text)
    (hGrows : Grows before after) :
    after.Known env old text := by
  rcases hKnown with
    hOld | ⟨ticket, frame, seq, hMessage, hText⟩
  · exact Or.inl hOld
  · exact
      Or.inr
        ⟨ticket, frame, seq, hMessage.mono hGrows, hText⟩

------------------------------------------------------------
-- What the Record Says About Copies
------------------------------------------------------------

/- The handlers of a node; what comes from Redis is known. -/
inductive Hands
    (env : Externals)
    (known : String → Prop) : Thread → Prop where
| frame
    (node : NodeId) (conn : ConnId)
    (body : String) (readings : Readings) :
    Hands env known
      { node := node
        source := .connection conn
        process := ChatServer.onMessage env conn body readings }
| closing (node : NodeId) (conn : ConnId) :
    Hands env known
      { node := node
        source := .connection conn
        process := ChatServer.onConnection conn }
| notify
    (node : NodeId) (userid : Int) (msg : String)
    (came : known msg) :
    Hands env known
      { node := node
        source := .subscription node
        process :=
          ChatService.handleredissubscribemessage userid
            msg }

theorem Hands.mono
    {known wider : String → Prop}
    {thread : Thread}
    (hHands : Hands env known thread)
    (hWider : ∀ text, known text → wider text) :
    Hands env wider thread := by
  cases hHands with
  | frame node conn body readings =>
      exact Hands.frame node conn body readings
  | closing node conn => exact Hands.closing node conn
  | notify node userid msg known =>
      exact Hands.notify node userid msg (hWider msg known)

theorem carries_notify
    (userid : Int)
    (msg : String) :
    (ChatService.handleredissubscribemessage userid
      msg).Always fun op =>
        op.Carries msg ∧ op.PublishesNothing := by
  unfold ChatService.handleredissubscribemessage
  apply ChatService.always_ask ⟨trivial, trivial⟩
  intro target
  split
  · exact ⟨⟨rfl, trivial⟩, fun _ => trivial⟩
  · exact ⟨⟨rfl, trivial⟩, fun _ => trivial⟩

/- Operations by their handlers: those of a message, those
that pass on what came from Redis, and those that reply. -/
inductive Kind
    (env : Externals)
    (known : String → Prop)
    (history : History)
    (event : Event) : Prop where
| chat
    (frame : ChatFrame env) (seq : Nat)
    (message : history.Message event.ticket frame seq)
    (does :
      event.Takes env frame.convId seq ∨
        event.op.Carries (frame.payload seq))
| passes
    (msg : String)
    (came : known msg)
    (carries : event.op.Carries msg)
    (quiet : event.op.PublishesNothing)
| replies (only : event.op.Replies env known)

theorem kind_of_event
    {history : History}
    {known : String → Prop}
    (hTraced : history.Traced env)
    (hHands :
      ∀ thread ∈ history.started, Hands env known thread)
    (hRead :
      ∀ event ∈ history.events,
        event.op.ReadsKnown known (event.answer env))
    {event : Event}
    (hEvent : event ∈ history.events) :
    Kind env known history event := by
  rcases hTraced.nodes event hEvent with ⟨origin, hOrigin, _⟩
  rcases hTraced.traced event.ticket origin hOrigin with
    ⟨final, hTrace⟩
  have hStep :
      event.answered env ∈
        history.stepsOf env event.ticket :=
    mem_stepsOf_iff.mpr ⟨event, hEvent, rfl, rfl⟩
  have hReplies :
      ChatService.OnlyReplies env known origin.process →
        event.op.Replies env known := by
    intro hOnly
    refine Process.ensures_trace hTrace hOnly ?_ _ hStep
    intro step hMember
    rcases mem_stepsOf_iff.mp hMember with
      ⟨other, hOther, _, hAnswered⟩
    rw [← hAnswered]
    exact hRead other hOther
  cases hHands origin (List.mem_of_getElem? hOrigin) with
  | frame node conn body readings =>
      rcases chat_or_reply env conn body readings with
        ⟨frame, rfl, rfl, rfl⟩ | hReply
      · rcases frame.trace_chat hTrace with
          hNothing | ⟨seq, rest, hSteps, hRest⟩
        · rw [hNothing] at hStep
          simp at hStep
        · have hTaken :
              (⟨.incrSeq frame.convId, seq⟩ :
                  Sigma ServerOp.Res) ∈
                history.stepsOf env event.ticket := by
            rw [hSteps]
            exact List.mem_cons_self
          rcases mem_stepsOf_iff.mp hTaken with
            ⟨taking, hTaking, hTicket, hTakes⟩
          apply
            Kind.chat frame seq
              ⟨⟨node, hOrigin⟩, taking, hTaking, hTicket,
                hTakes⟩
          rw [hSteps] at hStep
          rcases List.mem_cons.mp hStep with hHere | hThere
          · exact Or.inl hHere
          · exact Or.inr (hRest _ hThere)
      · exact Kind.replies (hReplies (hReply known))
  | closing node conn =>
      refine Kind.replies (hReplies ?_)
      apply Process.ensures_of_always
      exact
        ChatService.always_onConnection trivial
          (fun _ => trivial) (fun _ => trivial)
          (fun _ => trivial) trivial
  | notify node userid msg hKnown =>
      have hBoth :=
        (Process.allowed_of_trace hTrace
          (carries_notify userid msg)).1 _ hStep
      exact Kind.passes msg hKnown hBoth.1 hBoth.2

section Kinds

variable {history : History} {event : Event}
variable {old : String → Prop}

/- What is stored is known. -/
theorem Kind.known_of_insert
    (hKind :
      Kind env (history.Known env old) history event)
    {userid : Int}
    {text : String}
    (hInsert : event.op = .insertOffline userid text) :
    history.Known env old text := by
  cases hKind with
  | chat frame seq message does =>
      rcases does with hTakes | hCarries
      · have hTaken : event.op = .incrSeq frame.convId :=
          congrArg Sigma.fst hTakes
        rw [hTaken] at hInsert
        simp at hInsert
      · rw [hInsert] at hCarries
        exact Or.inr ⟨_, frame, seq, message, hCarries⟩
  | passes msg came carries quiet =>
      rw [hInsert] at carries
      have hText : text = msg := carries
      rw [hText]
      exact came
  | replies only =>
      rw [hInsert] at only
      exact only.elim

/- What is published arrives as it is. -/
theorem Kind.known_of_publish
    (hNoNull : env.codec.PrintsNoNull)
    (hKind :
      Kind env (history.Known env old) history event)
    {channel : Int}
    {message : String}
    (hPublish : event.op = .publish channel message) :
    history.Known env old (cString (cString message)) := by
  cases hKind with
  | chat frame seq taken does =>
      rcases does with hTakes | hCarries
      · have hTaken : event.op = .incrSeq frame.convId :=
          congrArg Sigma.fst hTakes
        rw [hTaken] at hPublish
        simp at hPublish
      · rw [hPublish] at hCarries
        have hPayload : message = frame.payload seq :=
          hCarries
        have hWhole :
            cString (frame.payload seq) =
              frame.payload seq :=
          (hNoNull (frame.message seq)).cString_eq
        rw [hPayload, hWhole, hWhole]
        exact Or.inr ⟨_, frame, seq, taken, rfl⟩
  | passes msg came carries quiet =>
      rw [hPublish] at quiet
      exact quiet.elim
  | replies only =>
      rw [hPublish] at only
      exact only.elim

end Kinds

------------------------------------------------------------
-- The Invariant
------------------------------------------------------------

/- Every text around is known. -/
structure Copied
    (env : Externals)
    (observer : Observer)
    (old : String → Prop)
    (history : History) : Prop where
  hands :
    ∀ thread ∈ history.started,
      Hands env (history.Known env old) thread
  read :
    ∀ event ∈ history.events,
      event.op.ReadsKnown (history.Known env old)
        (event.answer env)
  held :
    ∀ text,
      history.world.cluster.Holds observer text →
        history.Known env old text

variable {old : String → Prop}

theorem copied_begin
    {start : World}
    (hStart : start.threads = []) :
    (begin start).Copied env observer
      (start.cluster.Holds observer) where
  hands := by simp [begin, hStart]
  read := by simp [begin]
  held := fun _ hHolds => Or.inl hHolds

theorem hands_of_spawns
    {label : Label}
    {cluster : Cluster}
    {thread : Thread}
    (hBefore : before.Copied env observer old)
    (hSpawns :
      Spawns env observer before.world label cluster
        thread) :
    Hands env (before.Known env old) thread := by
  cases hSpawns with
  | frame conn body readings serving idle =>
      exact Hands.frame _ conn body readings
  | disconnect conn serving idle =>
      exact Hands.closing _ conn
  | @notify id reply rest userid msg idle found read =>
      refine Hands.notify id userid msg ?_
      apply hBefore.held
      exact
        Or.inr ⟨_, (mem_of_taken found).1, userid, read⟩

theorem holds_of_spawns
    {world : World}
    {label : Label}
    {cluster : Cluster}
    {thread : Thread}
    (hSpawns :
      Spawns env observer world label cluster thread)
    {text : String}
    (hHolds : cluster.Holds observer text) :
    world.cluster.Holds observer text := by
  cases hSpawns with
  | frame conn body readings serving idle => exact hHolds
  | disconnect conn serving idle => exact hHolds
  | notify id idle found read =>
      refine hHolds.of_replies rfl ?_
      exact fun entry hEntry =>
        Or.inl ((mem_of_taken found).2 entry hEntry)

theorem holds_of_passes
    (hPasses : observer.PassesText)
    {world : World}
    {label : Label}
    {cluster : Cluster}
    (hPass : Passes observer world label cluster)
    {text : String}
    (hHolds : cluster.Holds observer text) :
    world.cluster.Holds observer text := by
  cases hPass with
  | skip id found read =>
      refine hHolds.of_replies rfl ?_
      exact fun entry hEntry =>
        Or.inl ((mem_of_taken found).2 entry hEntry)
  | environment event =>
      exact Cluster.holds_environment hPasses hHolds

/- What a query answers is stored. -/
theorem readsKnown_answer
    (id : NodeId)
    (op : ServerOp)
    {cluster : Cluster}
    {known : String → Prop}
    (hHeld :
      ∀ text, cluster.Holds observer text → known text) :
    op.ReadsKnown known (cluster.answer env id op).1 := by
  cases op with
  | queryOffline userid =>
      intro msg hMsg
      apply hHeld
      exact
        Or.inl
          ⟨userid, OfflineMessageModel.mem_query_iff.mp hMsg⟩
  | _ => trivial

theorem readsKnown_mono
    {known wider : String → Prop}
    (hWider : ∀ text, known text → wider text)
    {op : ServerOp}
    {answer : op.Res}
    (hRead : op.ReadsKnown known answer) :
    op.ReadsKnown wider answer := by
  cases op with
  | queryOffline userid =>
      exact fun msg hMsg => hWider msg (hRead msg hMsg)
  | _ => trivial

/- Every step keeps it so. -/
theorem copied_step
    {label : Label}
    (hPasses : observer.PassesText)
    (hNoNull : env.codec.PrintsNoNull)
    (hBefore : before.Copied env observer old)
    (hTraced : before.Traced env)
    (hStep :
      before.step env observer label = some after) :
    after.Copied env observer old := by
  have hMono :
      ∀ text,
        before.Known env old text →
          after.Known env old text :=
    fun text hKnown =>
      hKnown.mono (grows_of_step hTraced hStep)
  have hTracedAfter := traced_step hTraced hStep
  have hRead :
      ∀ event ∈ before.events,
        event.op.ReadsKnown (after.Known env old)
          (event.answer env) :=
    fun event hEvent =>
      readsKnown_mono hMono (hBefore.read event hEvent)
  have hHands :
      ∀ thread ∈ before.started,
        Hands env (after.Known env old) thread :=
    fun thread hThread =>
      (hBefore.hands thread hThread).mono hMono
  cases advance_of_step hTraced.aligned hStep with
  | @spawn _ cluster thread spawns =>
      refine ⟨?_, hRead, ?_⟩
      · intro other hOther
        rcases List.mem_append.mp hOther with hOld | hNew
        · exact hHands other hOld
        · rw [List.mem_singleton.mp hNew]
          exact (hands_of_spawns hBefore spawns).mono hMono
      · intro text hHolds
        exact
          hMono text
            (hBefore.held text (holds_of_spawns spawns hHolds))
  | pass passes =>
      refine ⟨hHands, hRead, ?_⟩
      intro text hHolds
      exact
        hMono text
          (hBefore.held text
            (holds_of_passes hPasses passes hHolds))
  | finish index running held done =>
      exact
        ⟨hHands, hRead, fun text hHolds =>
          hMono text (hBefore.held text hHolds)⟩
  | @perform index ticket thread op next running held due =>
  have hReadAfter :
      ∀ event ∈
        (before.perform env index ticket thread op
          next).events,
        event.op.ReadsKnown
          ((before.perform env index ticket thread op
            next).Known env old)
          (event.answer env) := by
    intro event hEvent
    rcases List.mem_append.mp hEvent with hOld | hNew
    · exact hRead event hOld
    · rw [List.mem_singleton.mp hNew]
      exact
        readsKnown_mono hMono
          (readsKnown_answer thread.node op hBefore.held)
  refine ⟨hHands, hReadAfter, ?_⟩
  intro text hHolds
  have hKind :=
    kind_of_event hTracedAfter hHands hReadAfter
      (List.mem_append_right _ List.mem_cons_self)
  rcases Cluster.holds_answer hPasses env thread.node op
      hHolds with
    hOld | ⟨userid, hInsert⟩ | ⟨channel, message, hSent, hText⟩
  · exact hMono text (hBefore.held text hOld)
  · exact hKind.known_of_insert hInsert
  · rw [hText]
    exact hKind.known_of_publish hNoNull hSent

------------------------------------------------------------
-- One Message, One Number
------------------------------------------------------------

section Messages

variable {history : History}

/- What the handler of a message has done. -/
theorem Message.steps
    (hTraced : history.Traced env)
    {ticket seq : Nat}
    {frame : ChatFrame env}
    (hMessage : history.Message ticket frame seq) :
    ∃ rest,
      history.stepsOf env ticket =
          ⟨.incrSeq frame.convId, seq⟩ :: rest ∧
        ∀ step ∈ rest,
          step.1.Carries (frame.payload seq) := by
  rcases hMessage with
    ⟨⟨node, hOrigin⟩, event, hEvent, hTicket, hTakes⟩
  rcases hTraced.traced ticket _ hOrigin with
    ⟨final, hTrace⟩
  have hStep :
      (⟨.incrSeq frame.convId, seq⟩ : Sigma ServerOp.Res) ∈
        history.stepsOf env ticket :=
    mem_stepsOf_iff.mpr ⟨event, hEvent, hTicket, hTakes⟩
  rcases frame.trace_chat hTrace with
    hNothing | ⟨taken, rest, hSteps, hRest⟩
  · rw [hNothing] at hStep
    simp at hStep
  · rw [hSteps] at hStep
    rcases List.mem_cons.mp hStep with hHere | hThere
    · rw [hHere]
      have hSeq : seq = taken :=
        eq_of_heq (Sigma.mk.inj_iff.mp hHere).2
      rw [hSeq]
      exact ⟨rest, hSteps, hRest⟩
    · exact (hRest _ hThere).elim

/- A handler takes only one number. -/
theorem Message.number_eq
    (hTraced : history.Traced env)
    {ticket n m : Nat}
    {frame other : ChatFrame env}
    (hMessage : history.Message ticket frame n)
    (hToo : history.Message ticket other m) :
    n = m := by
  rcases hMessage.steps hTraced with ⟨rest, hSteps, _⟩
  rcases hToo.steps hTraced with ⟨others, hOthers, _⟩
  rw [hSteps] at hOthers
  have hHead := (List.cons.inj hOthers).1
  exact eq_of_heq (Sigma.mk.inj_iff.mp hHead).2

/- A handler has only one payload. -/
theorem Message.payload_eq
    {ticket n : Nat}
    {frame other : ChatFrame env}
    (hMessage : history.Message ticket frame n)
    (hToo : history.Message ticket other n) :
    frame.payload n = other.payload n := by
  rcases hMessage.1 with ⟨node, hStarted⟩
  rcases hToo.1 with ⟨_, hAlso⟩
  have hSame :=
    congrArg Thread.process
      (Option.some.inj (hStarted.symm.trans hAlso))
  dsimp only at hSame
  rcases frame.exists_trace n with
    ⟨steps, final, hTrace, step, hStep, hText⟩
  rw [hSame] at hTrace
  rcases other.trace_chat hTrace with
    hNothing | ⟨seq, rest, hSteps, hRest⟩
  · simp at hNothing
  · rcases List.cons.inj hSteps with ⟨hHead, hTail⟩
    have hSeq : n = seq :=
      eq_of_heq (Sigma.mk.inj_iff.mp hHead).2
    rw [hTail] at hStep
    rw [(hRest step hStep).text_eq hText, hSeq]

end Messages

/- The texts that an operation passes on are known. -/
def PassesKnown
    (env : Externals)
    (known : String → Prop) : ServerOp → Prop
| .findAndSend _ text => known text
| .publish _ text => known text
| .insertOffline _ text => known text
| .send _ body =>
    known body ∨
      ∃ response,
        IsAnswer known response ∧
          body = env.codec.dump (.object response)
| _ => True

theorem Kind.passesKnown
    {history : History}
    {old : String → Prop}
    {event : Event}
    (hKind :
      Kind env (history.Known env old) history event) :
    PassesKnown env (history.Known env old) event.op := by
  have hCarried :
      ∀ payload,
        history.Known env old payload →
          event.op.Carries payload →
            PassesKnown env (history.Known env old)
              event.op := by
    intro payload hKnown hCarries
    cases hOp : event.op with
    | findAndSend userid text =>
        rw [hOp] at hCarries
        exact hCarries ▸ hKnown
    | publish channel text =>
        rw [hOp] at hCarries
        exact hCarries ▸ hKnown
    | insertOffline userid text =>
        rw [hOp] at hCarries
        exact hCarries ▸ hKnown
    | send conn text =>
        rw [hOp] at hCarries
        exact Or.inl (hCarries ▸ hKnown)
    | _ => trivial
  cases hKind with
  | chat frame seq message does =>
      rcases does with hTakes | hCarries
      · have hTaken : event.op = .incrSeq frame.convId :=
          congrArg Sigma.fst hTakes
        rw [hTaken]
        trivial
      · exact
          hCarried _ (Or.inr ⟨_, frame, seq, message, rfl⟩)
            hCarries
  | passes msg came carries quiet =>
      exact hCarried msg came carries
  | replies only =>
      cases hOp : event.op with
      | send conn body =>
          rw [hOp] at only
          exact Or.inr only
      | findAndSend userid text =>
          rw [hOp] at only
          exact only.elim
      | publish channel text =>
          rw [hOp] at only
          exact only.elim
      | insertOffline userid text =>
          rw [hOp] at only
          exact only.elim
      | _ => trivial

/-
  A message has one number and one payload, and no other
  message of its conversation has this number.  The numbers
  of one conversation increase on each connection.  Every
  text around, wherever it is, is the payload of a message or
  was there at the start.
-/
structure OneNumber
    (env : Externals)
    (observer : Observer)
    (old : String → Prop)
    (history : History) : Prop where
  single :
    ∀ (ticket n m : Nat) (frame other : ChatFrame env),
      history.Message ticket frame n →
        history.Message ticket other m →
          n = m ∧ frame.payload n = other.payload m
  distinct :
    ∀ (ticket later n m : Nat) (frame other : ChatFrame env),
      history.Message ticket frame n →
        history.Message later other m →
          frame.convId = other.convId →
            ticket ≠ later → n ≠ m
  ordered :
    ∀ (ticket later n m : Nat) (frame other : ChatFrame env),
      history.Message ticket frame n →
        history.Message later other m →
          frame.convId = other.convId →
            frame.conn = other.conn →
              ticket < later → n < m
  own :
    ∀ (ticket n : Nat) (frame : ChatFrame env),
      history.Message ticket frame n →
        ∀ event ∈ history.events,
          event.ticket = ticket →
            event.Takes env frame.convId n ∨
              event.op.Carries (frame.payload n)
  passed :
    ∀ event ∈ history.events,
      PassesKnown env (history.Known env old) event.op
  held :
    ∀ text,
      history.world.cluster.Holds observer text →
        history.Known env old text

/- For every observer that passes on texts. -/
theorem oneNumber_of_run
    (hPasses : observer.PassesText)
    (hNoNull : env.codec.PrintsNoNull)
    {start : World}
    (hStart : start.threads = [])
    {final : History}
    {labels : List Label}
    (hRun :
      Transition.Run (step env observer) IncrAnswered
        (begin start) labels final) :
    final.OneNumber env observer
      (start.cluster.Holds observer) := by
  have hFinal :=
    hRun.invariant
      (fun history =>
        history.Traced env ∧
          history.Numbered env ∧
            history.InTurn ∧
              history.Copied env observer
                (start.cluster.Holds observer))
      (fun _ _ _ hBefore hMet hStep =>
        ⟨traced_step hBefore.1 hStep,
          numbered_step hBefore.2.1 hBefore.1 hMet hStep,
          inTurn_step hBefore.2.2.1 hBefore.1 hStep,
          copied_step hPasses hNoNull hBefore.2.2.2
            hBefore.1 hStep⟩)
      ⟨traced_begin start,
        ⟨by simp [begin], List.Pairwise.nil⟩,
        inTurn_begin hStart, copied_begin hStart⟩
  rcases hFinal with ⟨hTraced, hNumbered, hInTurn, hCopied⟩
  constructor
  · intro ticket n m frame other hMessage hToo
    have hNumber := hMessage.number_eq hTraced hToo
    rw [← hNumber] at hToo ⊢
    exact ⟨rfl, hMessage.payload_eq hToo⟩
  · intro ticket later n m frame other hMessage hToo hConv hNe
    rcases hMessage with
      ⟨_, first, hFirst, hTicket, hTakes⟩
    rcases hToo with ⟨_, second, hSecond, hLater, hTakesToo⟩
    rw [← hTicket, ← hLater] at hNe
    rw [← hConv] at hTakesToo
    exact
      number_ne hNumbered hFirst hSecond hNe hTakes hTakesToo
  · intro ticket later n m frame other hMessage hToo hConv
      hConn hLess
    rcases hMessage with
      ⟨⟨_, hOne⟩, first, hFirst, hTicket, hTakes⟩
    rcases hToo with
      ⟨⟨_, hOther⟩, second, hSecond, hLater, hTakesToo⟩
    rw [← hTicket] at hOne hLess
    rw [← hLater] at hOther hLess
    rw [← hConv] at hTakesToo
    exact
      number_lt_of_ticket_lt hNumbered hInTurn hFirst hSecond
        hOne hOther (congrArg Source.connection hConn) hLess
        hTakes hTakesToo
  · intro ticket n frame hMessage event hEvent hTicket
    rcases hMessage.steps hTraced with ⟨rest, hSteps, hRest⟩
    have hStep :
        event.answered env ∈ final.stepsOf env ticket :=
      mem_stepsOf_iff.mpr ⟨event, hEvent, hTicket, rfl⟩
    rw [hSteps] at hStep
    rcases List.mem_cons.mp hStep with hHere | hThere
    · exact Or.inl hHere
    · exact Or.inr (hRest _ hThere)
  · intro event hEvent
    have hKind :=
      kind_of_event hTraced hCopied.hands hCopied.read hEvent
    exact hKind.passesKnown
  · exact hCopied.held

/- A chat frame with a number of the sender's own. -/
def stampedChat : JsonObject :=
  JsonObject.assign msgFieldSeq (.unsigned 7)
    (JsonObject.assign msgFieldConvid (.string "g9")
      (sampleChat 2 1))

def copiesExternals : Externals :=
  sampleExternals
    [.object (sampleLogin "ann"), .object stampedChat]

/- Every connection ends at a node of its own. -/
def copiesStart : World where
  cluster :=
    { sampleCluster [] with home := fun conn => conn }
  threads := []
  log := []

/- User 1 logs in on one node; user 2 writes from another one,
and the first node takes the message from Redis. -/
def acrossNodes : List Label :=
  .frame 5 (Json.object (sampleLogin "ann")).text
      sampleReadings :: List.replicate 9 (.run 0) ++
    [.environment (.serveSubscription 5), .observe 5] ++
    .frame 6 (Json.object stampedChat).text sampleReadings ::
      List.replicate 5 (.run 0) ++
    .observe 5 :: List.replicate 3 (.run 0)

/- A copy has come through Redis into the table. -/
def HasCopy (history : History) : Prop :=
  ∃ event ∈ history.events,
    event.op =
      .insertOffline 0
        (Json.object
          (ChatService.stamp "p1_2" 1 sampleReadings.time
            stampedChat)).text

instance : DecidablePred HasCopy := fun history =>
  inferInstanceAs (Decidable (∃ event ∈ history.events, _))

end History

end ClusterChat
