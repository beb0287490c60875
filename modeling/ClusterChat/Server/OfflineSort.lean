import Mathlib.Data.Prod.Lex
import Mathlib.Order.WithBot
import ClusterChat.Library.StableSort
import ClusterChat.Server.OfflineMessages

/-
  What `sortOfflineMessages` does to any list of texts.

  The comparison of the items is that of their keys: the
  conversation and the number, and for an item that is not
  numbered a key above all of these.  So it is a strict weak
  order, and the result is the only stable sort by the key.

  Main declarations:
    * `ChatService.numberOf?`
    * `ChatService.itemBefore_iff`
    * `ChatService.stableSort_sortOfflineMessages`
    * `ChatService.sortOfflineMessages_spec`
-/

------------------------------------------------------------
-- Keys
------------------------------------------------------------

namespace ClusterChat

namespace ChatService

/-
  The number of a message: it is valid JSON with an unsigned
  `seq`, and its `convid` is absent or a string.
-/
def numberOf?
    (codec : JsonCodec)
    (raw : String) : Option (String × Nat) :=
  match codec.parse raw with
  | none => none
  | some js =>
      match js.find? msgFieldSeq, js.find? msgFieldConvid with
      | some (.unsigned seq), none => some ("", seq)
      | some (.unsigned seq), some (.string conv) =>
          some (conv, seq)
      | _, _ => none

/- Conversations in order, and numbers within them; what has
no number comes last. -/
def sortKey :
    Option (String × Nat) → WithTop (String ×ₗ Nat)
| some number => ((toLex number : String ×ₗ Nat) :)
| none => ⊤

/- What an item was read with. -/
def Item.number (item : Item) : Option (String × Nat) :=
  if item.ok then some (item.conv, item.seq) else none

theorem sortKey_injective :
    Function.Injective sortKey := by
  intro first second hSame
  cases first with
  | none =>
      cases second with
      | none => rfl
      | some number =>
          exact absurd hSame (WithTop.top_ne_coe)
  | some number =>
      cases second with
      | none => exact absurd hSame (WithTop.coe_ne_top)
      | some other =>
          have hLex := WithTop.coe_injective hSame
          rw [toLex.injective hLex]

theorem sortKey_eq_top_iff
    (number : Option (String × Nat)) :
    sortKey number = ⊤ ↔ number = none :=
  sortKey_injective.eq_iff' rfl

theorem sortKey_le_iff
    (first second : String × Nat) :
    sortKey (some first) ≤ sortKey (some second) ↔
      first.1 < second.1 ∨
        first.1 = second.1 ∧ first.2 ≤ second.2 := by
  unfold sortKey
  rw [WithTop.coe_le_coe, Prod.Lex.toLex_le_toLex]

/- The comparison given to `stable_sort` is that of the
keys. -/
theorem itemBefore_iff (a b : Item) :
    itemBefore a b = true ↔
      sortKey a.number < sortKey b.number := by
  unfold itemBefore Item.number
  cases hA : a.ok with
  | false =>
      cases hB : b.ok with
      | false => simp
      | true => simp [sortKey]
  | true =>
      cases hB : b.ok with
      | false => simp [sortKey]
      | true =>
          simp only [ne_eq, not_true_eq_false, if_false,
            Bool.true_eq_false, and_self, if_true, sortKey,
            WithTop.coe_lt_coe, Prod.Lex.toLex_lt_toLex]
          by_cases hConv : a.conv = b.conv
          · simp [hConv]
          · simp [hConv]

/- So it is what `stable_sort` demands of a comparison. -/
theorem strictWeakOrder_itemBefore :
    IsStrictWeakOrder Item
      fun a b => itemBefore a b = true :=
  StableSort.strictWeakOrder itemBefore_iff

/- The loop that fills `items` reads the number: an
exception at the conversation leaves none. -/
theorem number_readItem
    (codec : JsonCodec)
    (raw : String) :
    (readItem codec raw).number = numberOf? codec raw := by
  unfold readItem numberOf?
  cases codec.parse raw with
  | none => rfl
  | some js =>
      dsimp only
      unfold itemConv
      cases js.find? msgFieldSeq with
      | none => rfl
      | some seq =>
          cases seq with
          | unsigned number =>
              cases js.find? msgFieldConvid with
              | none => rfl
              | some conv => cases conv <;> rfl
          | _ => rfl

theorem raw_readItem
    (codec : JsonCodec)
    (raw : String) :
    (readItem codec raw).raw = raw := by
  unfold readItem
  split
  · rfl
  · split
    · split <;> rfl
    · rfl

------------------------------------------------------------
-- The Sorted Texts
------------------------------------------------------------

/- The key of a text. -/
def textKey
    (codec : JsonCodec)
    (raw : String) : WithTop (String ×ₗ Nat) :=
  sortKey (numberOf? codec raw)

theorem textKey_eq_top_iff
    (codec : JsonCodec)
    (raw : String) :
    textKey codec raw = ⊤ ↔ numberOf? codec raw = none :=
  sortKey_eq_top_iff _

/- Any stable sort of the items leaves the same texts. -/
theorem eq_of_stableSort
    {codec : JsonCodec}
    {msgs : List String}
    {items : List Item}
    (hItems :
      StableSort (fun item => sortKey (Item.number item))
        (msgs.map (readItem codec)) items) :
    items.map Item.raw =
      msgs.insertionSort
        fun a b => textKey codec a ≤ textKey codec b := by
  have hSorted :
      (msgs.insertionSort
            fun a b => textKey codec a ≤ textKey codec b).map
          (readItem codec) =
        (msgs.map (readItem codec)).insertionSort
          fun a b =>
            sortKey a.number ≤ sortKey b.number := by
    apply List.map_insertionSort
    intro a _ b _
    rw [number_readItem, number_readItem]
    rfl
  rw [hItems.unique (StableSort.insertionSort _ _),
    ← hSorted, List.map_map]
  exact
    (List.map_congr_left fun raw _ =>
      raw_readItem codec raw).trans (List.map_id' _)

/- `sortOfflineMessages` sorts the texts by their keys. -/
theorem stableSort_sortOfflineMessages
    (codec : JsonCodec)
    (msgs : List String) :
    StableSort (textKey codec) msgs
      (sortOfflineMessages codec msgs) := by
  have hItems :
      (msgs.map (readItem codec)).insertionSort
          (fun a b => itemBefore b a = false) =
        (msgs.map (readItem codec)).insertionSort
          fun a b =>
            sortKey a.number ≤ sortKey b.number := by
    have hSame :=
      List.map_insertionSort
        (r := fun a b => itemBefore b a = false)
        (s := fun a b : Item =>
          sortKey a.number ≤ sortKey b.number)
        id (msgs.map (readItem codec)) ?_
    · rwa [List.map_id, List.map_id] at hSame
    · intro a _ b _
      rw [← not_lt, ← itemBefore_iff, Bool.not_eq_true]
      rfl
  have hTexts :=
    eq_of_stableSort
      (StableSort.insertionSort
        (fun item => sortKey (Item.number item))
        (msgs.map (readItem codec)))
  unfold sortOfflineMessages
  rw [hItems, hTexts]
  exact StableSort.insertionSort (textKey codec) msgs

theorem mem_sortOfflineMessages_iff
    {codec : JsonCodec}
    {msgs : List String}
    {msg : String} :
    msg ∈ sortOfflineMessages codec msgs ↔ msg ∈ msgs :=
  (stableSort_sortOfflineMessages codec msgs).perm.mem_iff

/- The numbered ones of some texts. -/
def numberedOf
    (codec : JsonCodec)
    (msgs : List String) : List String :=
  msgs.filter fun raw => (numberOf? codec raw).isSome

/- The others. -/
def unnumberedOf
    (codec : JsonCodec)
    (msgs : List String) : List String :=
  msgs.filter fun raw => (numberOf? codec raw).isNone

/- The second text is not before the first one, by their
conversations and numbers. -/
def InOrder
    (codec : JsonCodec)
    (a b : String) : Prop :=
  ∀ first second,
    numberOf? codec a = some first →
      numberOf? codec b = some second →
        first.1 < second.1 ∨
          first.1 = second.1 ∧ first.2 ≤ second.2

theorem numberedOf_eq
    (codec : JsonCodec)
    (msgs : List String) :
    numberedOf codec msgs =
      msgs.filter fun raw => textKey codec raw ≠ ⊤ := by
  apply List.filter_congr
  intro raw _
  rw [Bool.eq_iff_iff, decide_eq_true_iff, ne_eq,
    textKey_eq_top_iff, ← ne_eq, Option.isSome_iff_ne_none]

theorem unnumberedOf_eq
    (codec : JsonCodec)
    (msgs : List String) :
    unnumberedOf codec msgs =
      msgs.filter fun raw => textKey codec raw = ⊤ := by
  apply List.filter_congr
  intro raw _
  rw [Bool.eq_iff_iff, decide_eq_true_iff,
    textKey_eq_top_iff, Option.isNone_iff_eq_none]

/- The numbered texts have different keys when they have
different numbers. -/
theorem nodup_textKey
    {codec : JsonCodec}
    {msgs : List String}
    (hDistinct :
      (msgs.filterMap (numberOf? codec)).Nodup) :
    ((numberedOf codec msgs).map (textKey codec)).Nodup := by
  have hKeys :
      (numberedOf codec msgs).map (textKey codec) =
        (msgs.filterMap (numberOf? codec)).map
          fun number => sortKey (some number) := by
    unfold numberedOf
    induction msgs with
    | nil => rfl
    | cons raw msgs ih =>
        cases hNumber : numberOf? codec raw with
        | none =>
            rw [List.filter_cons_of_neg (by simp [hNumber]),
              List.filterMap_cons_none hNumber]
            apply ih
            rwa [List.filterMap_cons_none hNumber]
              at hDistinct
        | some number =>
            rw [List.filter_cons_of_pos (by simp [hNumber]),
              List.filterMap_cons_some hNumber,
              List.map_cons, List.map_cons, ih]
            · unfold textKey
              rw [hNumber]
            · rw [List.filterMap_cons_some hNumber]
                at hDistinct
              exact hDistinct.of_cons
  rw [hKeys]
  apply hDistinct.map
  intro first second hSame
  exact Option.some.inj (sortKey_injective hSame)

/-
  Offline sorting.  The comparison is a strict weak order,
  so every stable sort of the items leaves the same texts.
  They are the texts of the list: first the numbered ones in
  order, those with one number as they came, and then all
  others as they came.  When the numbers are different, the
  numbered part does not depend on the order of the list.
-/
theorem sortOfflineMessages_spec
    (codec : JsonCodec)
    (msgs : List String) :
    IsStrictWeakOrder Item
        (fun a b => itemBefore a b = true) ∧
      (∀ items,
        StableSort (fun item => sortKey (Item.number item))
            (msgs.map (readItem codec)) items →
          items.map Item.raw =
            sortOfflineMessages codec msgs) ∧
      (sortOfflineMessages codec msgs).Perm msgs ∧
      sortOfflineMessages codec msgs =
        numberedOf codec (sortOfflineMessages codec msgs) ++
          unnumberedOf codec msgs ∧
      (numberedOf codec
          (sortOfflineMessages codec msgs)).Pairwise
        (InOrder codec) ∧
      (∀ number,
        ((sortOfflineMessages codec msgs).filter fun raw =>
            numberOf? codec raw = some number) =
          msgs.filter fun raw =>
            numberOf? codec raw = some number) ∧
      ∀ others : List String,
        others.Perm msgs →
          (msgs.filterMap (numberOf? codec)).Nodup →
            numberedOf codec
                (sortOfflineMessages codec others) =
              numberedOf codec
                (sortOfflineMessages codec msgs) := by
  have hSort := stableSort_sortOfflineMessages codec msgs
  refine
    ⟨strictWeakOrder_itemBefore, ?_, hSort.perm, ?_, ?_, ?_,
      ?_⟩
  · intro items hItems
    rw [eq_of_stableSort hItems]
    exact
      (StableSort.insertionSort (textKey codec) msgs).unique
        hSort
  · rw [numberedOf_eq, unnumberedOf_eq]
    exact hSort.eq_append
  · refine (hSort.ordered.filter _).imp ?_
    intro a b hLe first second hFirst hSecond
    unfold textKey at hLe
    rw [hFirst, hSecond] at hLe
    exact (sortKey_le_iff first second).mp hLe
  · intro number
    have hSame (raw : String) :
        decide (numberOf? codec raw = some number) =
          decide
            (textKey codec raw = sortKey (some number)) := by
      rw [decide_eq_decide]
      exact sortKey_injective.eq_iff.symm
    simp only [hSame]
    exact hSort.stable _
  · intro others hPerm hDistinct
    have hOthers := stableSort_sortOfflineMessages codec others
    exact
      (hSort.filter _).eq_of_perm (hOthers.filter _)
        (hPerm.filter _) (nodup_textKey hDistinct) |>.symm

end ChatService

end ClusterChat
