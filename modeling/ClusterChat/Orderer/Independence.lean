import ClusterChat.Orderer.Projection

/-
  Conversations do not influence each other.

  A run is compared with the run that keeps only one
  conversation: every message of another conversation and
  every unnumbered message is deleted, the ticks and the
  offline batches stay.  The caller may survive an exception,
  so a run goes on after a call that throws.

  Main declarations:
    * `ConversationOrderer.attempt`
    * `Call.restrict`
    * `ConversationOrderer.attempt_restrict`
    * `ConversationOrderer.emittedFor_restrict`
-/

------------------------------------------------------------
-- Calls That May Throw
------------------------------------------------------------

namespace ClusterChat

/- What a call does to a message, or the exception it
ends with. -/
inductive Observation where
| did (effect : Effect)
| raised (exception : JsonException)

namespace Observation

/- The message handed to the display callback, if any. -/
def emitted? : Observation → Option Json
| did effect => effect.emitted?
| raised _ => none

/- The exception that reaches the caller, if any. -/
def raised? : Observation → Option JsonException
| did _ => none
| raised exception => some exception

/- Exceptions, and effects on the conversation's messages. -/
def visible (conv : String) : Observation → Bool
| did effect => ConversationOrderer.visible conv effect
| raised _ => true

end Observation

/- The messages of one conversation that were displayed. -/
def emittedFor
    (conv : String)
    (observations : List Observation) : List Json :=
  (observations.filterMap Observation.emitted?).filter
    fun js => (js.seqIn conv).isSome

/- The exceptions that reached the caller. -/
def exceptions
    (observations : List Observation) :
    List JsonException :=
  observations.filterMap Observation.raised?

namespace ConversationOrderer

/-
  The messages of a batch up to the one that throws, with the
  state and the effects that the exception leaves behind.
  `onMessage` throws before it changes anything.
-/
def attemptMessages
    (orderer : ConversationOrderer) :
    List (Json × TimePoint) →
      ConversationOrderer × List Effect ×
        Option JsonException
| [] => (orderer, [], none)
| (js, now) :: messages =>
    match orderer.onMessage js now with
    | .error exception => (orderer, [], some exception)
    | .ok first =>
        let rest := attemptMessages first.1 messages
        (rest.1, first.2 ++ rest.2.1, rest.2.2)

/- One call, and what the caller is left with. -/
def attempt
    (orderer : ConversationOrderer) :
    Call → ConversationOrderer × List Observation
| .onMessage js now =>
    match orderer.onMessage js now with
    | .error exception => (orderer, [.raised exception])
    | .ok result => (result.1, result.2.map .did)
| .tick now visits =>
    let ticked := orderer.tick now visits
    (ticked.1, ticked.2.map .did)
| .onOfflineBatch messages visits =>
    let received := orderer.attemptMessages messages
    match received.2.2 with
    | some exception =>
        (received.1,
          received.2.1.map .did ++ [.raised exception])
    | none =>
        let flushed := received.1.flush visits
        (flushed.1,
          received.2.1.map .did ++ flushed.2.map .did)

------------------------------------------------------------
-- Deleting the Other Messages
------------------------------------------------------------

end ConversationOrderer

/- The message has no conversation id or no usable number,
so `onMessage` displays it at once. -/
def Json.unnumbered (js : Json) : Bool :=
  match js.find? msgFieldConvid, js.find? msgFieldSeq with
  | some _, some seqField => !seqField.isNumberUnsigned
  | _, _ => true

/- The message is numbered in another conversation. -/
def Json.ofOther (conv : String) (js : Json) : Bool :=
  match js.numbered? with
  | some (other, _) => other ≠ conv
  | none => false

/-
  Neither unnumbered nor of another conversation.  A message
  that makes `onMessage` throw is neither, so it stays.
-/
def Json.kept (conv : String) (js : Json) : Bool :=
  !js.unnumbered && !js.ofOther conv

/- A loop over a table that holds one channel at most. -/
def restrictVisits
    (conv : String)
    (visits : Visits) : Visits :=
  visits.filter fun visit => visit.1 = conv

/- The call in the run of one conversation, if it stays. -/
def Call.restrict (conv : String) : Call → Option Call
| .onMessage js now =>
    if js.kept conv then some (.onMessage js now) else none
| .tick now visits =>
    some (.tick now (restrictVisits conv visits))
| .onOfflineBatch messages visits =>
    some
      (.onOfflineBatch
        (messages.filter fun m => m.1.kept conv)
        (restrictVisits conv visits))

namespace ConversationOrderer

theorem numbered?_of_unnumbered
    {js : Json}
    (hUnnumbered : js.unnumbered = true) :
    js.numbered? = none := by
  unfold Json.unnumbered at hUnnumbered
  unfold Json.numbered?
  cases hConvid : js.find? msgFieldConvid with
  | none => rfl
  | some convid =>
      cases hSeq : js.find? msgFieldSeq with
      | none => cases convid <;> rfl
      | some seqField =>
          rw [hConvid, hSeq] at hUnnumbered
          cases seqField with
          | unsigned seq =>
              simp [Json.isNumberUnsigned] at hUnnumbered
          | _ => cases convid <;> rfl

/- An unnumbered message is displayed at once. -/
theorem onMessage_of_unnumbered
    (orderer : ConversationOrderer)
    {js : Json}
    (now : TimePoint)
    (hUnnumbered : js.unnumbered = true) :
    orderer.onMessage js now =
      .ok (orderer.apply (.message js now)) := by
  rw [apply_unnumbered orderer now
    (numbered?_of_unnumbered hUnnumbered)]
  unfold onMessage
  cases hConvid : js.find? msgFieldConvid with
  | none => rfl
  | some convid =>
      cases hSeq : js.find? msgFieldSeq with
      | none => rfl
      | some seqField =>
          have hNotUnsigned :
              seqField.isNumberUnsigned = false := by
            unfold Json.unnumbered at hUnnumbered
            simpa [hConvid, hSeq] using hUnnumbered
          simp only [hNotUnsigned]
          rfl

/- A message with both fields goes to its channel, or
throws whatever the state is. -/
theorem onMessage_of_fields
    {js convid : Json}
    {seq : Nat}
    (hConvid : js.find? msgFieldConvid = some convid)
    (hSeq : js.find? msgFieldSeq = some (.unsigned seq)) :
    (∃ conv, js.numbered? = some (conv, seq) ∧
      ∀ (orderer : ConversationOrderer) now,
        orderer.onMessage js now =
          .ok (orderer.apply (.message js now))) ∨
      ∃ exception,
        ∀ (orderer : ConversationOrderer) now,
          orderer.onMessage js now = .error exception := by
  cases convid with
  | string conv =>
      have hStamp : js.numbered? = some (conv, seq) := by
        simp only [Json.numbered?, hConvid, hSeq]
      refine Or.inl ⟨conv, hStamp, ?_⟩
      intro orderer now
      exact
        onMessage_eq_apply orderer now
          (Json.convidIsString_of_numbered hStamp)
  | _ =>
      refine Or.inr ⟨.typeError, ?_⟩
      intro orderer now
      simp only [onMessage, hConvid, hSeq]
      rfl

/- A message that stays is numbered in the conversation, or
throws whatever the state is. -/
theorem onMessage_of_kept
    {conv : String}
    {js : Json}
    (hKept : js.kept conv = true) :
    (∃ seq, js.numbered? = some (conv, seq) ∧
      ∀ (orderer : ConversationOrderer) now,
        orderer.onMessage js now =
          .ok (orderer.apply (.message js now))) ∨
      ∃ exception,
        ∀ (orderer : ConversationOrderer) now,
          orderer.onMessage js now = .error exception := by
  unfold Json.kept at hKept
  rw [Bool.and_eq_true, Bool.not_eq_true',
    Bool.not_eq_true'] at hKept
  rcases hKept with ⟨hNumbered, hOwn⟩
  unfold Json.unnumbered at hNumbered
  split at hNumbered
  · rename_i convid seqField hConvid hSeq
    cases seqField with
    | unsigned seq =>
        rcases onMessage_of_fields hConvid hSeq with
          ⟨other, hStamp, hOk⟩ | hThrows
        · have hSame : other = conv := by
            simpa [Json.ofOther, hStamp] using hOwn
          exact Or.inl ⟨seq, hSame ▸ hStamp, hOk⟩
        · exact Or.inr hThrows
    | _ => simp [Json.isNumberUnsigned] at hNumbered
  · simp at hNumbered

/- A deleted message returns, and is not of the
conversation. -/
theorem onMessage_of_deleted
    {conv : String}
    {js : Json}
    (hKept : js.kept conv = false)
    (orderer : ConversationOrderer)
    (now : TimePoint) :
    js.seqIn conv = none ∧
      orderer.onMessage js now =
        .ok (orderer.apply (.message js now)) := by
  unfold Json.kept at hKept
  cases hUnnumbered : js.unnumbered with
  | true =>
      refine
        ⟨?_, onMessage_of_unnumbered orderer now hUnnumbered⟩
      simp [Json.seqIn, numbered?_of_unnumbered hUnnumbered]
  | false =>
      have hOther : js.ofOther conv = true := by
        simpa [hUnnumbered] using hKept
      unfold Json.ofOther at hOther
      cases hStamp : js.numbered? with
      | none => simp [hStamp] at hOther
      | some stamp =>
          rcases stamp with ⟨other, seq⟩
          have hNe : other ≠ conv := by
            simpa [hStamp] using hOther
          refine ⟨by simp [Json.seqIn, hStamp, hNe], ?_⟩
          exact
            onMessage_eq_apply orderer now
              (Json.convidIsString_of_numbered hStamp)

------------------------------------------------------------
-- The Two Runs Side by Side
------------------------------------------------------------

/- The second orderer knows the conversation's channel just
as the first one does, and no other channel. -/
structure Agree
    (gapTimeoutMs : Int)
    (conv : String)
    (whole alone : ConversationOrderer) : Prop where
  wholeStamped : AllStamped gapTimeoutMs whole
  aloneStamped : AllStamped gapTimeoutMs alone
  channel : whole.channels conv = alone.channels conv
  others :
    ∀ other,
      other ≠ conv →
        (alone.channels other).initialized = false

variable {gapTimeoutMs : Int}
variable {conv : String}
variable {whole alone : ConversationOrderer}

theorem agree_fresh (gapTimeoutMs : Int) (conv : String) :
    Agree gapTimeoutMs conv
      (fresh gapTimeoutMs) (fresh gapTimeoutMs) :=
  ⟨allStamped_fresh gapTimeoutMs, allStamped_fresh gapTimeoutMs,
    rfl, fun _ _ => rfl⟩

theorem not_mem_restrictVisits
    {other : String}
    (hOther : other ≠ conv)
    (visits : Visits) :
    other ∉ (restrictVisits conv visits).map Prod.fst := by
  intro hMember
  rcases List.mem_map.mp hMember with ⟨visit, hVisit, hName⟩
  have hConv : visit.1 = conv := by
    simpa using (List.mem_filter.mp hVisit).2
  exact hOther (hName.symm.trans hConv)

/- The event in the run of one conversation. -/
def OrdererEvent.restricted
    (conv : String) : OrdererEvent → OrdererEvent
| .message js now => .message js now
| .tick now visits => .tick now (restrictVisits conv visits)
| .flush visits => .flush (restrictVisits conv visits)

/- The event brings no message of another conversation. -/
def OwnEvent (conv : String) : OrdererEvent → Prop
| .message js _ => ∃ seq, js.numbered? = some (conv, seq)
| .tick _ _ => True
| .flush _ => True

theorem select_restricted
    (gapTimeoutMs : Int)
    (conv : String)
    (event : OrdererEvent) :
    select gapTimeoutMs conv
        (OrdererEvent.restricted conv event) =
      select gapTimeoutMs conv event := by
  cases event with
  | message js now => rfl
  | tick now visits =>
      simp [select, OrdererEvent.restricted, restrictVisits]
  | flush visits =>
      simp [select, OrdererEvent.restricted, restrictVisits]

theorem apply_restricted_others
    (orderer : ConversationOrderer)
    {event : OrdererEvent}
    (hOwn : OwnEvent conv event)
    {other : String}
    (hOther : other ≠ conv) :
    (orderer.apply
        (OrdererEvent.restricted conv event)).1.channels other =
      orderer.channels other := by
  cases event with
  | message js now =>
      rcases hOwn with ⟨seq, hStamp⟩
      unfold OrdererEvent.restricted
      rw [apply_numbered orderer now hStamp,
        setChannel_of_ne orderer hOther]
  | tick now visits =>
      exact
        forChannels_of_not_mem _ orderer
          (not_mem_restrictVisits hOther visits)
  | flush visits =>
      exact
        forChannels_of_not_mem _ orderer
          (not_mem_restrictVisits hOther visits)

/- An event that stays does the same on both sides. -/
theorem apply_agrees
    (hAgree : Agree gapTimeoutMs conv whole alone)
    {event : OrdererEvent}
    (hOwn : OwnEvent conv event) :
    Agree gapTimeoutMs conv (whole.apply event).1
        (alone.apply
          (OrdererEvent.restricted conv event)).1 ∧
      (whole.apply event).2.filter (visible conv) =
        (alone.apply
          (OrdererEvent.restricted conv event)).2.filter
            (visible conv) := by
  rcases apply_projects event hAgree.wholeStamped conv with
    ⟨hWhole, hStep⟩
  rcases
      apply_projects (OrdererEvent.restricted conv event)
        hAgree.aloneStamped conv with
    ⟨hAlone, hTwin⟩
  rw [select_restricted, ← hAgree.channel, hStep] at hTwin
  rcases Prod.mk.inj hTwin with ⟨hChannel, hShown⟩
  refine ⟨⟨hWhole, hAlone, hChannel, ?_⟩, hShown⟩
  intro other hOther
  rw [apply_restricted_others alone hOwn hOther]
  exact hAgree.others other hOther

/- A deleted message does nothing to the conversation. -/
theorem apply_deleted
    (hAgree : Agree gapTimeoutMs conv whole alone)
    {js : Json}
    (now : TimePoint)
    (hForeign : js.seqIn conv = none) :
    Agree gapTimeoutMs conv
        (whole.apply (.message js now)).1 alone ∧
      (whole.apply (.message js now)).2.filter
        (visible conv) = [] := by
  rcases
      apply_projects (.message js now) hAgree.wholeStamped conv with
    ⟨hWhole, hStep⟩
  have hNothing :
      select gapTimeoutMs conv (.message js now) = [] := by
    simp only [select, hForeign]
  rw [hNothing, Transducer.run_nil] at hStep
  rcases Prod.mk.inj hStep with ⟨hChannel, hShown⟩
  exact
    ⟨⟨hWhole, hAgree.aloneStamped, hChannel ▸ hAgree.channel,
      hAgree.others⟩, hShown.symm⟩

theorem attemptMessages_agree
    (hAgree : Agree gapTimeoutMs conv whole alone)
    (messages : List (Json × TimePoint)) :
    let kept := messages.filter fun m => m.1.kept conv
    Agree gapTimeoutMs conv
        (whole.attemptMessages messages).1
        (alone.attemptMessages kept).1 ∧
      (whole.attemptMessages messages).2.1.filter
          (visible conv) =
        (alone.attemptMessages kept).2.1.filter
          (visible conv) ∧
      (whole.attemptMessages messages).2.2 =
        (alone.attemptMessages kept).2.2 := by
  induction messages generalizing whole alone with
  | nil => exact ⟨hAgree, rfl, rfl⟩
  | cons m messages ih =>
      rcases m with ⟨js, now⟩
      cases hKept : js.kept conv with
      | false =>
          rcases onMessage_of_deleted hKept whole now with
            ⟨hForeign, hOk⟩
          rcases apply_deleted hAgree now hForeign with
            ⟨hNext, hSilent⟩
          have hRest := ih hNext
          rw [List.filter_cons_of_neg (by simp [hKept])]
          simp only [attemptMessages, hOk, List.filter_append,
            hSilent, List.nil_append]
          exact hRest
      | true =>
          intro kept
          have hSplit :
              kept =
                (js, now) ::
                  messages.filter fun m => m.1.kept conv :=
            List.filter_cons_of_pos hKept
          rw [hSplit]
          rcases onMessage_of_kept hKept with
            ⟨seq, hStamp, hOk⟩ | ⟨exception, hThrows⟩
          · have hOwn : OwnEvent conv (.message js now) :=
              ⟨seq, hStamp⟩
            rcases apply_agrees hAgree hOwn with
              ⟨hNext, hShown⟩
            rcases ih hNext with ⟨hFinal, hRest, hEnd⟩
            simp only [attemptMessages, hOk,
              List.filter_append]
            exact
              ⟨hFinal, congrArg₂ (· ++ ·) hShown hRest, hEnd⟩
          · simp only [attemptMessages, hThrows]
            exact ⟨hAgree, trivial, trivial⟩

theorem filter_map_did (effects : List Effect) :
    (effects.map Observation.did).filter
        (Observation.visible conv) =
      (effects.filter (visible conv)).map
        Observation.did := by
  rw [List.filter_map]
  rfl

theorem restrict_onMessage
    {js : Json}
    {now : TimePoint}
    {kept : Call}
    (hKept :
      (Call.onMessage js now).restrict conv = some kept) :
    js.kept conv = true ∧ kept = .onMessage js now := by
  change
    (if js.kept conv then some (Call.onMessage js now)
      else none) = some kept at hKept
  by_cases hStays : js.kept conv = true
  · rw [if_pos hStays] at hKept
    exact ⟨hStays, (Option.some.inj hKept).symm⟩
  · rw [if_neg hStays] at hKept
    cases hKept

/- A call that stays shows the same on both sides. -/
theorem attempt_agrees
    (hAgree : Agree gapTimeoutMs conv whole alone)
    {call kept : Call}
    (hKept : call.restrict conv = some kept) :
    Agree gapTimeoutMs conv
        (whole.attempt call).1 (alone.attempt kept).1 ∧
      (whole.attempt call).2.filter
          (Observation.visible conv) =
        (alone.attempt kept).2.filter
          (Observation.visible conv) := by
  cases call with
  | onMessage js now =>
      rcases restrict_onMessage hKept with ⟨hStays, hSame⟩
      subst hSame
      rcases onMessage_of_kept hStays with
        ⟨seq, hStamp, hOk⟩ | ⟨exception, hThrows⟩
      · have hOwn : OwnEvent conv (.message js now) :=
          ⟨seq, hStamp⟩
        rcases apply_agrees hAgree hOwn with
          ⟨hNext, hShown⟩
        simp only [attempt, hOk, filter_map_did]
        exact ⟨hNext, congrArg _ hShown⟩
      · simp only [attempt, hThrows]
        exact ⟨hAgree, trivial⟩
  | tick now visits =>
      cases hKept
      have hOwn : OwnEvent conv (.tick now visits) := trivial
      rcases apply_agrees hAgree hOwn with ⟨hNext, hShown⟩
      simp only [attempt, filter_map_did]
      exact ⟨hNext, congrArg _ hShown⟩
  | onOfflineBatch messages visits =>
      cases hKept
      rcases attemptMessages_agree hAgree messages with
        ⟨hReceived, hShown, hEnd⟩
      simp only [attempt, hEnd]
      split
      · simp only [List.filter_append, filter_map_did, hShown]
        exact ⟨hReceived, trivial⟩
      · have hOwn : OwnEvent conv (.flush visits) := trivial
        rcases apply_agrees hReceived hOwn with
          ⟨hNext, hFlushed⟩
        simp only [List.filter_append, filter_map_did, hShown]
        exact
          ⟨hNext,
            congrArg
              (fun shown =>
                _ ++ shown.map Observation.did)
              hFlushed⟩

/- A deleted call shows nothing of the conversation. -/
theorem attempt_deleted
    (hAgree : Agree gapTimeoutMs conv whole alone)
    {call : Call}
    (hDeleted : call.restrict conv = none) :
    Agree gapTimeoutMs conv (whole.attempt call).1 alone ∧
      (whole.attempt call).2.filter
        (Observation.visible conv) = [] := by
  cases call with
  | onMessage js now =>
      have hKept : js.kept conv = false := by
        cases hStays : js.kept conv with
        | true => simp [Call.restrict, hStays] at hDeleted
        | false => rfl
      rcases onMessage_of_deleted hKept whole now with
        ⟨hForeign, hOk⟩
      rcases apply_deleted hAgree now hForeign with
        ⟨hNext, hSilent⟩
      simp only [attempt, hOk, filter_map_did, hSilent]
      exact ⟨hNext, rfl⟩
  | tick now visits => cases hDeleted
  | onOfflineBatch messages visits => cases hDeleted

/- A run whose caller survives the exceptions. -/
abbrev attemptAll
    (orderer : ConversationOrderer)
    (calls : List Call) :
    ConversationOrderer × List Observation :=
  Transducer.run attempt orderer calls

/- A run and its restriction to one conversation agree. -/
theorem attempt_restrict
    (hAgree : Agree gapTimeoutMs conv whole alone)
    (calls : List Call) :
    let kept := calls.filterMap (Call.restrict conv)
    Agree gapTimeoutMs conv
        (whole.attemptAll calls).1
        (alone.attemptAll kept).1 ∧
      (whole.attemptAll calls).2.filter
          (Observation.visible conv) =
        (alone.attemptAll kept).2.filter
          (Observation.visible conv) :=
  Transducer.run_purge
    (Agree gapTimeoutMs conv)
    (Call.restrict conv) (Observation.visible conv)
    (fun _ _ _ _ hNow hKept => attempt_agrees hNow hKept)
    (fun _ _ _ hNow hDeleted => attempt_deleted hNow hDeleted)
    hAgree calls

------------------------------------------------------------
-- Whole Tables
------------------------------------------------------------

/- The loops of a call visit the whole channel table. -/
def Sweeps (orderer : ConversationOrderer) : Call → Prop
| .onMessage _ _ => True
| .tick _ visits => orderer.Enumerates visits
| .onOfflineBatch messages visits =>
    let received := orderer.attemptMessages messages
    received.2.2 = none → received.1.Enumerates visits

/- Every loop of a run visits the whole channel table. -/
def SweepsAll (orderer : ConversationOrderer) :
    List Call → Prop
| [] => True
| call :: calls =>
    orderer.Sweeps call ∧
      SweepsAll (orderer.attempt call).1 calls

theorem enumerates_restrict
    (hAgree : Agree gapTimeoutMs conv whole alone)
    {visits : Visits}
    (hVisits : whole.Enumerates visits) :
    alone.Enumerates (restrictVisits conv visits) := by
  rcases hVisits with ⟨hNodup, hMember⟩
  constructor
  · exact hNodup.sublist (List.filter_sublist.map Prod.fst)
  · intro other
    by_cases hOther : other = conv
    · subst hOther
      rw [← hAgree.channel, ← hMember other]
      simp [restrictVisits]
    · have hUnknown := hAgree.others other hOther
      simp [not_mem_restrictVisits hOther visits, hUnknown]

theorem sweeps_restrict
    (hAgree : Agree gapTimeoutMs conv whole alone)
    {call kept : Call}
    (hKept : call.restrict conv = some kept)
    (hSweeps : whole.Sweeps call) :
    alone.Sweeps kept := by
  cases call with
  | onMessage js now =>
      rcases restrict_onMessage hKept with ⟨_, hSame⟩
      subst hSame
      trivial
  | tick now visits =>
      cases hKept
      exact enumerates_restrict hAgree hSweeps
  | onOfflineBatch messages visits =>
      cases hKept
      rcases attemptMessages_agree hAgree messages with
        ⟨hReceived, _, hEnd⟩
      intro hReturns
      exact
        enumerates_restrict hReceived
          (hSweeps (hEnd.trans hReturns))

/- The restricted run visits its whole table, too. -/
theorem sweepsAll_restrict
    (hAgree : Agree gapTimeoutMs conv whole alone)
    {calls : List Call}
    (hSweeps : whole.SweepsAll calls) :
    alone.SweepsAll
      (calls.filterMap (Call.restrict conv)) := by
  induction calls generalizing whole alone with
  | nil => trivial
  | cons call calls ih =>
      rcases hSweeps with ⟨hFirst, hRest⟩
      cases hRestrict : call.restrict conv with
      | none =>
          rw [List.filterMap_cons_none hRestrict]
          exact ih (attempt_deleted hAgree hRestrict).1 hRest
      | some kept =>
          rw [List.filterMap_cons_some hRestrict]
          exact
            ⟨sweeps_restrict hAgree hRestrict hFirst,
              ih (attempt_agrees hAgree hRestrict).1 hRest⟩

end ConversationOrderer

------------------------------------------------------------
-- What Is Displayed
------------------------------------------------------------

theorem emittedFor_filter
    (conv : String)
    (observations : List Observation) :
    emittedFor conv
        (observations.filter (Observation.visible conv)) =
      emittedFor conv observations := by
  unfold emittedFor
  rw [List.filterMap_filter, List.filter_filterMap,
    List.filter_filterMap]
  congr 1
  funext observation
  cases observation with
  | raised exception => rfl
  | did effect =>
      cases effect with
      | emit js =>
          cases hSeq : js.seqIn conv <;>
            simp [Observation.visible, Observation.emitted?,
              ConversationOrderer.visible, Effect.message,
              Effect.emitted?, Option.filter, hSeq]
      | discard js =>
          simp [Observation.emitted?, Effect.emitted?]
      | expire js =>
          simp [Observation.emitted?, Effect.emitted?]

theorem exceptions_filter
    (conv : String)
    (observations : List Observation) :
    exceptions
        (observations.filter (Observation.visible conv)) =
      exceptions observations := by
  unfold exceptions
  rw [List.filterMap_filter]
  congr 1
  funext observation
  cases observation with
  | raised exception => rfl
  | did effect => simp [Observation.raised?]

/-
  The messages displayed for a conversation are those of the
  run in which every message of another conversation and
  every unnumbered one is deleted.  The deleted messages do
  not decide whether a call throws, either, and the second
  run is one of the orderer if the first one is: its loops
  visit its whole table.
-/
theorem emittedFor_restrict
    (gapTimeoutMs : Int)
    (calls : List Call)
    (conv : String) :
    let orderer := ConversationOrderer.fresh gapTimeoutMs
    let kept := calls.filterMap (Call.restrict conv)
    emittedFor conv (orderer.attemptAll calls).2 =
        emittedFor conv (orderer.attemptAll kept).2 ∧
      exceptions (orderer.attemptAll calls).2 =
        exceptions (orderer.attemptAll kept).2 ∧
      (orderer.SweepsAll calls → orderer.SweepsAll kept) := by
  have hAgree :=
    ConversationOrderer.agree_fresh gapTimeoutMs conv
  have hShown :=
    (ConversationOrderer.attempt_restrict hAgree calls).2
  refine ⟨?_, ?_, ?_⟩
  · have hEmitted := congrArg (emittedFor conv) hShown
    rw [emittedFor_filter, emittedFor_filter] at hEmitted
    exact hEmitted
  · have hThrown := congrArg exceptions hShown
    rw [exceptions_filter, exceptions_filter] at hThrown
    exact hThrown
  · intro hSweeps
    exact
      ConversationOrderer.sweepsAll_restrict hAgree hSweeps

end ClusterChat
