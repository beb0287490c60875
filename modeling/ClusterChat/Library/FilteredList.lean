import Mathlib.Data.List.Basic

/-
  Lists with the entries of one party taken out.

  An entry that is taken out may change or go away unseen.
  One that stays is found at its position in what is left, and
  changes or goes away there.

  Main declarations:
    * `FilteredList.filter_set_of_not` and
      `FilteredList.filter_eraseIdx_of_not`
    * `FilteredList.position`
    * `FilteredList.filter_set_position` and
      `FilteredList.filter_eraseIdx_position`
-/

------------------------------------------------------------
-- Entries That Are Taken Out
------------------------------------------------------------

namespace FilteredList

variable {α : Type} {entries : List α} {index : Nat}
variable {entry : α}

theorem split_at
    (hEntry : entries[index]? = some entry) :
    entries =
      entries.take index ++
        entry :: entries.drop (index + 1) := by
  rcases List.getElem?_eq_some_iff.mp hEntry with
    ⟨hBound, hSame⟩
  rw [← hSame, ← List.drop_eq_getElem_cons hBound,
    List.take_append_drop]

/- An entry that is filtered out may change or go away. -/
theorem filter_set_of_not
    {keep : α → Bool}
    (hEntry : entries[index]? = some entry)
    (hEntryOut : keep entry = false)
    {other : α}
    (hOtherOut : keep other = false) :
    (entries.set index other).filter keep =
      entries.filter keep := by
  have hBound := (List.getElem?_eq_some_iff.mp hEntry).1
  conv_rhs => rw [split_at hEntry]
  rw [List.set_eq_take_append_cons_drop, if_pos hBound,
    List.filter_append, List.filter_append,
    List.filter_cons_of_neg (by simp [hOtherOut]),
    List.filter_cons_of_neg (by simp [hEntryOut])]

theorem filter_eraseIdx_of_not
    {keep : α → Bool}
    (hEntry : entries[index]? = some entry)
    (hEntryOut : keep entry = false) :
    (entries.eraseIdx index).filter keep =
      entries.filter keep := by
  conv_rhs => rw [split_at hEntry]
  rw [List.eraseIdx_eq_take_drop_succ, List.filter_append,
    List.filter_append,
    List.filter_cons_of_neg (by simp [hEntryOut])]

------------------------------------------------------------
-- Entries That Stay
------------------------------------------------------------

/- Where an entry that stays is found. -/
def position
    (keep : α → Bool)
    (entries : List α)
    (index : Nat) : Nat :=
  ((entries.take index).filter keep).length

theorem filter_split
    {keep : α → Bool}
    (hEntry : entries[index]? = some entry)
    (hEntryIn : keep entry = true) :
    entries.filter keep =
      (entries.take index).filter keep ++
        entry :: (entries.drop (index + 1)).filter keep := by
  conv_lhs => rw [split_at hEntry]
  rw [List.filter_append, List.filter_cons_of_pos hEntryIn]

theorem getElem?_position
    {keep : α → Bool}
    (hEntry : entries[index]? = some entry)
    (hEntryIn : keep entry = true) :
    (entries.filter keep)[position keep entries index]? =
      some entry := by
  rw [filter_split hEntry hEntryIn, position,
    List.getElem?_append_right (Nat.le_refl _)]
  simp

theorem filter_set_position
    {keep : α → Bool}
    (hEntry : entries[index]? = some entry)
    (hEntryIn : keep entry = true)
    {other : α}
    (hOtherIn : keep other = true) :
    (entries.set index other).filter keep =
      (entries.filter keep).set (position keep entries index)
        other := by
  have hBound := (List.getElem?_eq_some_iff.mp hEntry).1
  rw [List.set_eq_take_append_cons_drop, if_pos hBound,
    List.filter_append, List.filter_cons_of_pos hOtherIn,
    filter_split hEntry hEntryIn, position,
    List.set_append_right _ _ (Nat.le_refl _)]
  simp

theorem filter_eraseIdx_position
    {keep : α → Bool}
    (hEntry : entries[index]? = some entry)
    (hEntryIn : keep entry = true) :
    (entries.eraseIdx index).filter keep =
      (entries.filter keep).eraseIdx
        (position keep entries index) := by
  rw [List.eraseIdx_eq_take_drop_succ, List.filter_append,
    filter_split hEntry hEntryIn, position,
    List.eraseIdx_append_of_length_le (Nat.le_refl _)]
  simp

end FilteredList
