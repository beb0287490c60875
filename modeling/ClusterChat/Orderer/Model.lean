import ClusterChat.Protocol
import ClusterChat.Library.SortedMap

/-
  The client's message orderer, translated from
  `conversation_orderer.hpp`.

  A call returns the new state together with what it did to
  messages, in order: emitted to the display callback,
  discarded as a duplicate, or erased as expired while the
  pending messages were drained.  Clock readings are inputs,
  one for every place that reads the clock.  A loop over the
  channel table visits the channels of a given list, because
  the table's iteration order is unspecified.

  Key definitions include:
    * `Channel.deliver`, `Channel.drainPending`
    * `Channel.receive`, `Channel.tick`, `Channel.flush`
    * `ConversationOrderer.onMessage`
    * `ConversationOrderer.tick`
    * `ConversationOrderer.onOfflineBatch`
-/

------------------------------------------------------------
-- State
------------------------------------------------------------

namespace ClusterChat

/- Nanoseconds on the steady clock; zero is its epoch. -/
abbrev TimePoint := Int

/- What one call does to a message. -/
inductive Effect where
| emit (js : Json)
| discard (js : Json)
| expire (js : Json)

namespace Effect

/- The message an effect is about. -/
def message : Effect → Json
| emit js => js
| discard js => js
| expire js => js

/- The message handed to the display callback, if any. -/
def emitted? : Effect → Option Json
| emit js => some js
| discard _ => none
| expire _ => none

/- The effect erases a pending entry below `expect`. -/
def IsExpire : Effect → Prop
| emit _ => False
| discard _ => False
| expire _ => True

end Effect

/- The messages displayed by a sequence of effects. -/
def emitted (effects : List Effect) : List Json :=
  effects.filterMap Effect.emitted?

@[simp] theorem emitted_nil : emitted [] = [] := rfl

@[simp] theorem emitted_append
    (front back : List Effect) :
    emitted (front ++ back) =
      emitted front ++ emitted back :=
  List.filterMap_append

@[simp] theorem emitted_discard (js : Json) :
    emitted [.discard js] = [] := rfl

@[simp] theorem emitted_emit (js : Json) :
    emitted [.emit js] = [js] := rfl

theorem mem_emitted_iff
    {effects : List Effect}
    {js : Json} :
    js ∈ emitted effects ↔ Effect.emit js ∈ effects := by
  unfold emitted
  rw [List.mem_filterMap]
  constructor
  · rintro ⟨effect, hMember, hEmitted⟩
    cases effect <;>
      simp_all [Effect.emitted?]
  · intro hMember
    exact ⟨Effect.emit js, hMember, rfl⟩

/- One conversation's state. -/
structure Channel where
  initialized : Bool := false
  expect : Nat := 0
  pending : SortedMap Nat Json := SortedMap.empty
  delivered : Finset Nat := ∅
  gapSince : TimePoint := 0

------------------------------------------------------------
-- Delivery
------------------------------------------------------------

namespace Channel

/-
  `deliver`: emit, remember the number, and expect the next
  one.  The set is cleared above 4096 numbers.
-/
def deliver
    (ch : Channel)
    (js : Json)
    (seq : Nat) : Channel × List Effect :=
  let delivered := insert seq ch.delivered
  ({ ch with
      delivered :=
        if 4096 < delivered.card then ∅ else delivered
      expect := (seq + 1) % 2 ^ 64
      gapSince := 0 },
    [.emit js])

/-
  The loop of `drainPending` over the entries that are still
  pending, smallest number first.
-/
def drainLoop
    (ch : Channel) :
    (entries : List (Nat × Json)) →
      entries.Pairwise (fun a b => a.1 < b.1) →
        Channel × List Effect
| [], hSorted => ({ ch with pending := ⟨[], hSorted⟩ }, [])
| (seq, js) :: entries, hSorted =>
    if seq < ch.expect then
      let rest := drainLoop ch entries hSorted.of_cons
      (rest.1, .expire js :: rest.2)
    else if seq ≠ ch.expect then
      ({ ch with pending := ⟨(seq, js) :: entries, hSorted⟩ },
        [])
    else
      let delivery := ch.deliver js ch.expect
      let rest :=
        drainLoop delivery.1 entries hSorted.of_cons
      (rest.1, delivery.2 ++ rest.2)

/-
  `drainPending`: run the loop, then start the clock of a
  hole that is still open.
-/
def drainPending
    (ch : Channel)
    (now : TimePoint) : Channel × List Effect :=
  let rest := ch.drainLoop ch.pending.entries ch.pending.sorted
  if rest.1.pending.entries ≠ [] ∧ rest.1.gapSince = 0 then
    ({ rest.1 with gapSince := now }, rest.2)
  else
    rest

/- The first message of a conversation sets `expect`. -/
def startAt
    (ch : Channel)
    (seq : Nat) : Channel :=
  if ch.initialized then
    ch
  else
    { ch with initialized := true, expect := seq }

/- The part of `onMessage` that works on one channel. -/
def receive
    (ch : Channel)
    (js : Json)
    (seq : Nat)
    (now : TimePoint) : Channel × List Effect :=
  let ch := ch.startAt seq
  if seq < ch.expect ∨ seq ∈ ch.delivered then
    (ch, [.discard js])
  else if seq = ch.expect then
    let delivery := ch.deliver js seq
    let rest := delivery.1.drainPending now
    (rest.1, delivery.2 ++ rest.2)
  else
    ({ ch with
        pending := ch.pending.insert seq js
        gapSince :=
          if ch.gapSince = 0 then now else ch.gapSince },
      [])

/-
  The forced release that `tick` and `onOfflineBatch` share:
  expect the smallest pending number and drain.
-/
def release
    (ch : Channel)
    (now : TimePoint) : Channel × List Effect :=
  match ch.pending.entries with
  | [] => (ch, [])
  | entry :: _ =>
      { ch with expect := entry.1 }.drainPending now

/- The body of `tick`'s loop for one channel. -/
def tick
    (ch : Channel)
    (gapTimeoutMs : Int)
    (now drainNow : TimePoint) : Channel × List Effect :=
  if ch.pending.entries = [] then
    (ch, [])
  else if ch.gapSince = 0 then
    (ch, [])
  else if (now - ch.gapSince).tdiv 1000000 < gapTimeoutMs then
    (ch, [])
  else
    ch.release drainNow

/- The body of the loop that ends `onOfflineBatch`. -/
def flush
    (ch : Channel)
    (drainNow : TimePoint) : Channel × List Effect :=
  if ch.pending.entries ≠ [] then
    ch.release drainNow
  else
    (ch, [])

end Channel

------------------------------------------------------------
-- The Orderer
------------------------------------------------------------

/-
  The orderer with its channel table.  A conversation that
  was never looked up has the default channel.
-/
structure ConversationOrderer where
  gapTimeoutMs : Int
  channels : String → Channel

/-
  The order in which a loop visits the channel table, with
  the clock reading that draining each channel takes.
-/
abbrev Visits := List (String × TimePoint)

namespace ConversationOrderer

/- A newly constructed orderer. -/
def fresh (gapTimeoutMs : Int) : ConversationOrderer where
  gapTimeoutMs := gapTimeoutMs
  channels := fun _ => {}

/- Store a channel under its conversation id. -/
def setChannel
    (orderer : ConversationOrderer)
    (conv : String)
    (ch : Channel) : ConversationOrderer :=
  { orderer with
    channels := Function.update orderer.channels conv ch }

/- Apply one loop body to every visited channel in turn. -/
def forChannels
    (body : TimePoint → Channel → Channel × List Effect)
    (orderer : ConversationOrderer) :
    Visits → ConversationOrderer × List Effect
| [] => (orderer, [])
| visit :: visits =>
    let visited := body visit.2 (orderer.channels visit.1)
    let rest :=
      forChannels body
        (orderer.setChannel visit.1 visited.1) visits
    (rest.1, visited.2 ++ rest.2)

/-
  `onMessage`: a message without a conversation or a usable
  number is emitted at once, any other goes to its channel.
-/
def onMessage
    (orderer : ConversationOrderer)
    (js : Json)
    (now : TimePoint) :
    Except JsonException
      (ConversationOrderer × List Effect) :=
  match js.find? msgFieldConvid, js.find? msgFieldSeq with
  | some convid, some seqField =>
      if seqField.isNumberUnsigned then do
        let conv ← convid.getString
        let seq ← seqField.getUInt64
        let received :=
          (orderer.channels conv).receive js seq now
        return (orderer.setChannel conv received.1,
          received.2)
      else
        return (orderer, [.emit js])
  | _, _ => return (orderer, [.emit js])

/- `tick`, called at `now`. -/
def tick
    (orderer : ConversationOrderer)
    (now : TimePoint)
    (visits : Visits) :
    ConversationOrderer × List Effect :=
  orderer.forChannels
    (fun drainNow ch =>
      ch.tick orderer.gapTimeoutMs now drainNow)
    visits

/- The loop that ends `onOfflineBatch`. -/
def flush
    (orderer : ConversationOrderer)
    (visits : Visits) :
    ConversationOrderer × List Effect :=
  orderer.forChannels
    (fun drainNow ch => ch.flush drainNow) visits

/- Hand every message of a batch to `onMessage`. -/
def onMessages
    (orderer : ConversationOrderer) :
    List (Json × TimePoint) →
      Except JsonException
        (ConversationOrderer × List Effect)
| [] => return (orderer, [])
| (js, now) :: messages => do
    let first ← orderer.onMessage js now
    let rest ← onMessages first.1 messages
    return (rest.1, first.2 ++ rest.2)

/-
  `onOfflineBatch`: receive the messages, then release once
  for every channel that still has pending ones.
-/
def onOfflineBatch
    (orderer : ConversationOrderer)
    (messages : List (Json × TimePoint))
    (visits : Visits) :
    Except JsonException
      (ConversationOrderer × List Effect) := do
  let received ← orderer.onMessages messages
  let flushed := received.1.flush visits
  return (flushed.1, received.2 ++ flushed.2)

/-
  The visits of a loop over the whole channel table: every
  conversation looked up so far, each exactly once.
-/
def Enumerates
    (orderer : ConversationOrderer)
    (visits : Visits) : Prop :=
  (visits.map Prod.fst).Nodup ∧
    ∀ conv,
      conv ∈ visits.map Prod.fst ↔
        (orderer.channels conv).initialized = true

end ConversationOrderer

end ClusterChat
