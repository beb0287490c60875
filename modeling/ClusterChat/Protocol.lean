import Mathlib
import ClusterChat.Json

/-
  The header shared by server and client: message types, the
  ordering fields of a chat message, and conversation ids.

  Main declarations:
    * `EnMsgType` and `EnMsgType.code`
    * `conv.p2p` and `conv.group`
    * `Json.numbered?`, the conversation and number a message
      carries
-/

------------------------------------------------------------
-- Message Types
------------------------------------------------------------

namespace ClusterChat

/- The message types of `public.hpp`. -/
inductive EnMsgType where
| loginMsg
| loginAckMsg
| loginoutMsg
| regMsg
| regAckMsg
| oneChatMsg
| addFriendMsg
| createGroupMsg
| addGroupMsg
| groupChatMsg
deriving DecidableEq, Repr

/- The number on the wire, counted from `LOGIN_MSG = 1`. -/
def EnMsgType.code : EnMsgType → Nat
| loginMsg => 1
| loginAckMsg => 2
| loginoutMsg => 3
| regMsg => 4
| regAckMsg => 5
| oneChatMsg => 6
| addFriendMsg => 7
| createGroupMsg => 8
| addGroupMsg => 9
| groupChatMsg => 10

/- `MSG_FIELD_CONVID` -/
def msgFieldConvid : String := "convid"

/- `MSG_FIELD_SEQ` -/
def msgFieldSeq : String := "seq"

/- `MSG_FIELD_TS` -/
def msgFieldTs : String := "msgts"

------------------------------------------------------------
-- Conversation Ids
------------------------------------------------------------

namespace conv

/- A private conversation, the same for both directions. -/
def p2p (userA userB : Int) : String :=
  "p" ++ toString (min userA userB) ++ "_" ++
    toString (max userA userB)

/- A group conversation, shared by all members. -/
def group (groupid : Int) : String :=
  "g" ++ toString groupid

/- Both directions of a private chat share one id. -/
theorem p2p_comm (userA userB : Int) :
    p2p userA userB = p2p userB userA := by
  unfold p2p
  rw [min_comm, max_comm]

end conv

------------------------------------------------------------
-- Numbered Messages
------------------------------------------------------------

namespace Json

/-
  The conversation and the sequence number of a message that
  carries both: a string `convid` and an unsigned `seq`.
-/
def numbered? (js : Json) : Option (String × Nat) :=
  match js.find? msgFieldConvid, js.find? msgFieldSeq with
  | some (.string conv), some (.unsigned seq) =>
      some (conv, seq)
  | _, _ => none

/- The `convid` of a message is a string when it is present. -/
def ConvidIsString (js : Json) : Prop :=
  ∀ value,
    js.find? msgFieldConvid = some value →
      value.isString = true

theorem convidIsString_of_numbered
    {js : Json}
    {conv : String}
    {seq : Nat}
    (hNumbered : js.numbered? = some (conv, seq)) :
    js.ConvidIsString := by
  intro convid hConvid
  unfold numbered? at hNumbered
  rw [hConvid] at hNumbered
  split at hNumbered
  · rename_i name number hName _
    rw [Option.some.inj hName]
    rfl
  · simp at hNumbered

/- The number a message carries in the conversation. -/
def seqIn
    (conv : String)
    (js : Json) : Option Nat :=
  match js.numbered? with
  | some (other, seq) =>
      if other = conv then some seq else none
  | none => none

theorem seqIn_eq_some_iff
    {conv : String}
    {js : Json}
    {seq : Nat} :
    js.seqIn conv = some seq ↔
      js.numbered? = some (conv, seq) := by
  unfold seqIn
  cases hNumbered : js.numbered? with
  | none => simp
  | some stamp =>
      rcases stamp with ⟨other, number⟩
      by_cases hConv : other = conv <;> simp [hConv]

/- Serializing and parsing keeps a message's number. -/
theorem numbered?_normalize
    {js : Json}
    {conv : String}
    {seq : Nat}
    (hNumbered : js.numbered? = some (conv, seq)) :
    js.normalize.numbered? = some (conv, seq) := by
  unfold numbered? at hNumbered ⊢
  rw [find?_normalize, find?_normalize]
  split at hNumbered
  · rename_i name number hConvid hSeq
    rw [hConvid, hSeq]
    simpa [normalize] using hNumbered
  · simp at hNumbered

end Json

/- The numbers a list of messages carries in one
conversation. -/
def numbersIn
    (conv : String)
    (messages : List Json) : List Nat :=
  messages.filterMap (Json.seqIn conv)

@[simp] theorem numbersIn_nil (conv : String) :
    numbersIn conv [] = [] := rfl

@[simp] theorem numbersIn_append
    (conv : String)
    (front back : List Json) :
    numbersIn conv (front ++ back) =
      numbersIn conv front ++ numbersIn conv back :=
  List.filterMap_append

theorem mem_numbersIn_iff
    {conv : String}
    {messages : List Json}
    {seq : Nat} :
    seq ∈ numbersIn conv messages ↔
      ∃ js ∈ messages, js.numbered? = some (conv, seq) := by
  simp [numbersIn, Json.seqIn_eq_some_iff]

end ClusterChat
