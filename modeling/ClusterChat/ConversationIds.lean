import Mathlib.Data.Sym.Sym2.Order
import ClusterChat.JsonText
import ClusterChat.Orderer.Projection
import ClusterChat.Redis.Client

/-
  Which conversation an id stands for.

  A conversation is an unordered pair of users or a group.  A
  rendered number contains no underscore, so the id of a pair
  can be split again, and the first letter tells the two kinds
  apart.

  Main declarations:
    * `Conversation` and `Conversation.id`
    * `Conversation.id_injective`
    * `Redis.incrCommand`
    * `ids_identify_conversations`
-/

------------------------------------------------------------
-- Private Conversations
------------------------------------------------------------

namespace ClusterChat

theorem underscore_not_mem_int (value : Int) :
    '_' ∉ (toString value).toList := by
  intro hMember
  rcases digit_of_mem_int hMember with hDigit | hSign
  · exact absurd hDigit (by decide)
  · exact absurd hSign (by decide)

/- The smaller number ends at the first underscore. -/
theorem p2p_inj_sorted
    {userA userB userC userD : Int}
    (hSame : conv.p2p userA userB = conv.p2p userC userD) :
    min userA userB = min userC userD ∧
      max userA userB = max userC userD := by
  have hParts :
      (toString (min userA userB)).toList ++
          '_' :: (toString (max userA userB)).toList =
        (toString (min userC userD)).toList ++
          '_' :: (toString (max userC userD)).toList := by
    have hChars := congrArg String.toList hSame
    simpa [conv.p2p] using hChars
  rw [List.append_cons_inj_of_notMem
    (underscore_not_mem_int _) (underscore_not_mem_int _)]
    at hParts
  exact
    ⟨Int.repr_injective (String.toList_inj.mp hParts.1),
      Int.repr_injective
        (String.toList_inj.mp hParts.2.2)⟩

theorem p2p_eq_iff (userA userB userC userD : Int) :
    conv.p2p userA userB = conv.p2p userC userD ↔
      s(userA, userB) = s(userC, userD) := by
  constructor
  · intro hSame
    exact
      Sym2.inf_eq_inf_and_sup_eq_sup.mp
        (p2p_inj_sorted hSame)
  · intro hPair
    have hSorted :=
      Sym2.inf_eq_inf_and_sup_eq_sup.mpr hPair
    have hMin : min userA userB = min userC userD :=
      hSorted.1
    have hMax : max userA userB = max userC userD :=
      hSorted.2
    unfold conv.p2p
    rw [hMin, hMax]

------------------------------------------------------------
-- Conversations
------------------------------------------------------------

theorem group_eq_iff (groupid other : Int) :
    conv.group groupid = conv.group other ↔
      groupid = other := by
  constructor
  · intro hSame
    have hChars := congrArg String.toList hSame
    have hDigits :
        (toString groupid).toList =
          (toString other).toList := by
      simpa [conv.group] using hChars
    exact Int.repr_injective (String.toList_inj.mp hDigits)
  · exact congrArg conv.group

/- The first letter tells the kinds apart. -/
theorem p2p_ne_group (userA userB groupid : Int) :
    conv.p2p userA userB ≠ conv.group groupid := by
  intro hSame
  have hChars := congrArg String.toList hSame
  simp [conv.p2p, conv.group] at hChars

/- Two users, in either direction, or a group. -/
inductive Conversation where
| p2p (users : Sym2 Int)
| group (groupid : Int)

namespace Conversation

/- The id that both programs compute. -/
def id : Conversation → String
| p2p users => Sym2.lift ⟨conv.p2p, conv.p2p_comm⟩ users
| group groupid => conv.group groupid

theorem id_injective : Function.Injective id := by
  intro one other hSame
  cases one with
  | p2p users =>
      cases other with
      | p2p others =>
          induction users with
          | _ userA userB =>
              induction others with
              | _ userC userD =>
                  rw [(p2p_eq_iff _ _ _ _).mp hSame]
      | group groupid =>
          induction users with
          | _ userA userB =>
              exact absurd hSame (p2p_ne_group _ _ _)
  | group groupid =>
      cases other with
      | p2p others =>
          induction others with
          | _ userC userD =>
              exact absurd hSame.symm (p2p_ne_group _ _ _)
      | group other =>
          rw [(group_eq_iff _ _).mp hSame]

theorem hasNoNull_id (one : Conversation) :
    HasNoNull one.id := by
  cases one with
  | p2p users =>
      induction users with
      | _ userA userB =>
          have hLetter : HasNoNull "p" := by decide
          have hUnderscore : HasNoNull "_" := by decide
          exact
            ((hLetter.append (hasNoNull_int _)).append
              hUnderscore).append (hasNoNull_int _)
  | group groupid =>
      have hLetter : HasNoNull "g" := by decide
      exact hLetter.append (hasNoNull_int _)

end Conversation

------------------------------------------------------------
-- Counters and Channels
------------------------------------------------------------

namespace Redis

/- The key of a conversation's counter. -/
def seqKey (conversationId : String) : String :=
  "chat:seq:" ++ conversationId

/- `INCR %s`, as `incrSeq` sends it. -/
def incrCommand (conversationId : String) : List String :=
  ["INCR", cString (seqKey conversationId)]

theorem incrCommand_id_injective :
    Function.Injective fun one : Conversation =>
      incrCommand one.id := by
  intro one other hSame
  have hNoNull :
      ∀ any : Conversation,
        cString (seqKey any.id) = seqKey any.id := by
    intro any
    have hPrefix : HasNoNull "chat:seq:" := by decide
    exact (hPrefix.append any.hasNoNull_id).cString_eq
  have hKeys : seqKey one.id = seqKey other.id := by
    simpa [incrCommand, hNoNull] using hSame
  apply Conversation.id_injective
  have hChars := congrArg String.toList hKeys
  apply String.toList_inj.mp
  simpa [seqKey] using hChars

end Redis

namespace ConversationOrderer

/- A message of one conversation leaves the channel of every
other one alone. -/
theorem onMessage_other
    {one other : Conversation}
    (hNe : other ≠ one)
    {orderer after : ConversationOrderer}
    {js : Json}
    {now : TimePoint}
    {seq : Nat}
    {effects : List Effect}
    (hNumbered : js.numbered? = some (one.id, seq))
    (hReturned :
      orderer.onMessage js now = .ok (after, effects)) :
    after.channels other.id = orderer.channels other.id := by
  have hApply := onMessage_returned hReturned
  rw [apply_numbered orderer now hNumbered] at hApply
  have hAfter := congrArg Prod.fst hApply
  change after = _ at hAfter
  rw [hAfter]
  apply setChannel_of_ne
  intro hSame
  exact hNe (Conversation.id_injective hSame)

end ConversationOrderer

/-
  Ids identify conversations, and with them the counters in
  Redis and the channels of the client.
-/
theorem ids_identify_conversations :
    (∀ userA userB userC userD : Int,
        conv.p2p userA userB = conv.p2p userC userD ↔
          s(userA, userB) = s(userC, userD)) ∧
      (∀ groupid other : Int,
        conv.group groupid = conv.group other ↔
          groupid = other) ∧
      (∀ userA userB groupid : Int,
        conv.p2p userA userB ≠ conv.group groupid) ∧
      (∀ one other : Conversation,
        Redis.incrCommand one.id =
            Redis.incrCommand other.id ↔
          one = other) ∧
      ∀ (one other : Conversation)
        (orderer after : ConversationOrderer)
        (js : Json) (now : TimePoint) (seq : Nat)
        (effects : List Effect),
        other ≠ one →
          js.numbered? = some (one.id, seq) →
            orderer.onMessage js now =
                .ok (after, effects) →
              after.channels other.id =
                orderer.channels other.id := by
  refine
    ⟨p2p_eq_iff, group_eq_iff, p2p_ne_group, ?_, ?_⟩
  · intro one other
    exact Redis.incrCommand_id_injective.eq_iff
  · intro one other orderer after js now seq effects hNe
      hNumbered hReturned
    exact
      ConversationOrderer.onMessage_other hNe hNumbered
        hReturned

end ClusterChat
