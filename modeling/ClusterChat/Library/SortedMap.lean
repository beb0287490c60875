import Mathlib

/-
  Finite maps kept as entry lists in strictly ascending key
  order, the abstract value of an ordered container that is
  always read from its smallest key.

  Main declarations:
    * `SortedMap`
    * `SortedMap.insert` and `SortedMap.mem_insert_iff`
    * `SortedMap.rest`, the map without its smallest entry
-/

------------------------------------------------------------
-- Sorted Entry Lists
------------------------------------------------------------

/- A finite map given by its entries in ascending order. -/
structure SortedMap
    (κ ν : Type)
    [LinearOrder κ] where
  entries : List (κ × ν)
  sorted : entries.Pairwise (fun a b => a.1 < b.1)

namespace SortedMap

variable {κ ν : Type} [LinearOrder κ]

@[ext] theorem ext
    {left right : SortedMap κ ν}
    (hEntries : left.entries = right.entries) :
    left = right := by
  cases left
  cases right
  simp_all

/- The map without entries. -/
def empty : SortedMap κ ν where
  entries := []
  sorted := List.Pairwise.nil

@[simp] theorem entries_empty :
    (empty : SortedMap κ ν).entries = [] := rfl

/- The keys of the map in ascending order. -/
def keys (map : SortedMap κ ν) : List κ :=
  map.entries.map Prod.fst

@[simp] theorem keys_empty :
    (empty : SortedMap κ ν).keys = [] := rfl

theorem mem_keys_iff
    {map : SortedMap κ ν}
    {key : κ} :
    key ∈ map.keys ↔ ∃ value, (key, value) ∈ map.entries := by
  simp [keys]

/- The entries behind the first one form a map again. -/
def rest
    {entry : κ × ν}
    {entries : List (κ × ν)}
    (hSorted :
      (entry :: entries).Pairwise
        (fun a b => a.1 < b.1)) :
    SortedMap κ ν where
  entries := entries
  sorted := hSorted.of_cons

------------------------------------------------------------
-- Insertion
------------------------------------------------------------

/- Insert at the key's place; an equal key is overwritten. -/
def insertEntries
    (key : κ)
    (value : ν) : List (κ × ν) → List (κ × ν)
| [] => [(key, value)]
| entry :: entries =>
    if key < entry.1 then
      (key, value) :: entry :: entries
    else if entry.1 < key then
      entry :: insertEntries key value entries
    else
      (key, value) :: entries

theorem mem_insertEntries
    {key : κ}
    {value : ν}
    {entries : List (κ × ν)}
    {entry : κ × ν}
    (hMember : entry ∈ insertEntries key value entries) :
    entry = (key, value) ∨ entry ∈ entries := by
  induction entries with
  | nil =>
      simpa [insertEntries] using hMember
  | cons head tail ih =>
      unfold insertEntries at hMember
      split_ifs at hMember with hLt hGt
      · simpa using hMember
      · rcases List.mem_cons.mp hMember with rfl | hTail
        · simp
        · rcases ih hTail with h | h
          · exact Or.inl h
          · exact Or.inr (List.mem_cons_of_mem _ h)
      · rcases List.mem_cons.mp hMember with h | hTail
        · exact Or.inl h
        · exact Or.inr (List.mem_cons_of_mem _ hTail)

theorem insertEntries_sorted
    (key : κ)
    (value : ν)
    {entries : List (κ × ν)}
    (hSorted : entries.Pairwise (fun a b => a.1 < b.1)) :
    (insertEntries key value entries).Pairwise
      (fun a b => a.1 < b.1) := by
  induction entries with
  | nil =>
      simp [insertEntries]
  | cons head tail ih =>
      have hHead : ∀ e ∈ tail, head.1 < e.1 :=
        fun e hMember =>
          List.rel_of_pairwise_cons hSorted hMember
      unfold insertEntries
      split_ifs with hLt hGt
      · refine hSorted.cons ?_
        intro entry hEntry
        rcases List.mem_cons.mp hEntry with rfl | hTail
        · exact hLt
        · exact hLt.trans (hHead _ hTail)
      · refine (ih hSorted.of_cons).cons ?_
        intro entry hEntry
        rcases mem_insertEntries hEntry with rfl | hTail
        · exact hGt
        · exact hHead _ hTail
      · have hEq : key = head.1 :=
          le_antisymm (not_lt.mp hGt) (not_lt.mp hLt)
        refine hSorted.of_cons.cons ?_
        intro entry hEntry
        rw [hEq]
        exact hHead _ hEntry

/- A key above all others goes to the end. -/
theorem insertEntries_of_above
    (value : ν)
    {key : κ}
    {entries : List (κ × ν)}
    (hAbove : ∀ entry ∈ entries, entry.1 < key) :
    insertEntries key value entries =
      entries ++ [(key, value)] := by
  induction entries with
  | nil => rfl
  | cons head tail ih =>
      have hHead : head.1 < key :=
        hAbove head List.mem_cons_self
      have hTail :=
        ih (fun entry hMember =>
          hAbove entry (List.mem_cons_of_mem _ hMember))
      simp [insertEntries, hHead, not_lt_of_gt hHead, hTail]

/- The map with `value` stored under `key`. -/
def insert
    (key : κ)
    (value : ν)
    (map : SortedMap κ ν) : SortedMap κ ν where
  entries := insertEntries key value map.entries
  sorted := insertEntries_sorted key value map.sorted

theorem mem_insertEntries_iff
    {key : κ}
    {value : ν}
    {entries : List (κ × ν)}
    (hSorted : entries.Pairwise (fun a b => a.1 < b.1))
    (entry : κ × ν) :
    entry ∈ insertEntries key value entries ↔
      entry = (key, value) ∨
        (entry ∈ entries ∧ entry.1 ≠ key) := by
  induction entries with
  | nil =>
      simp [insertEntries]
  | cons head tail ih =>
      have hHead : ∀ e ∈ tail, head.1 < e.1 :=
        fun e hMember =>
          List.rel_of_pairwise_cons hSorted hMember
      unfold insertEntries
      split_ifs with hLt hGt
      · have hNe : ∀ e ∈ head :: tail, e.1 ≠ key := by
          intro e hMember
          rcases List.mem_cons.mp hMember with rfl | hTail
          · exact hLt.ne'
          · exact (hLt.trans (hHead _ hTail)).ne'
        rw [List.mem_cons]
        constructor
        · rintro (h | h)
          · exact Or.inl h
          · exact Or.inr ⟨h, hNe _ h⟩
        · rintro (h | h)
          · exact Or.inl h
          · exact Or.inr h.1
      · rw [List.mem_cons, ih hSorted.of_cons,
          List.mem_cons]
        constructor
        · rintro (rfl | h | h)
          · exact Or.inr ⟨Or.inl rfl, hGt.ne⟩
          · exact Or.inl h
          · exact Or.inr ⟨Or.inr h.1, h.2⟩
        · rintro (h | ⟨h | h, hNe⟩)
          · exact Or.inr (Or.inl h)
          · exact Or.inl h
          · exact Or.inr (Or.inr ⟨h, hNe⟩)
      · have hEq : key = head.1 :=
          le_antisymm (not_lt.mp hGt) (not_lt.mp hLt)
        rw [List.mem_cons, List.mem_cons]
        constructor
        · rintro (h | h)
          · exact Or.inl h
          · exact Or.inr
              ⟨Or.inr h, hEq ▸ (hHead _ h).ne'⟩
        · rintro (h | ⟨rfl | h, hNe⟩)
          · exact Or.inl h
          · exact absurd hEq.symm hNe
          · exact Or.inr h

/- Insertion keeps exactly the entries with other keys. -/
theorem mem_insert_iff
    {map : SortedMap κ ν}
    {key : κ}
    {value : ν}
    {entry : κ × ν} :
    entry ∈ (map.insert key value).entries ↔
      entry = (key, value) ∨
        (entry ∈ map.entries ∧ entry.1 ≠ key) :=
  mem_insertEntries_iff map.sorted entry

theorem mem_keys_insert_iff
    {map : SortedMap κ ν}
    {key other : κ}
    {value : ν} :
    other ∈ (map.insert key value).keys ↔
      other = key ∨ other ∈ map.keys := by
  simp only [mem_keys_iff, mem_insert_iff, Prod.mk.injEq]
  constructor
  · rintro ⟨stored, h | h⟩
    · exact Or.inl h.1
    · exact Or.inr ⟨stored, h.1⟩
  · rintro (h | ⟨stored, h⟩)
    · exact ⟨value, Or.inl ⟨h, rfl⟩⟩
    · by_cases hKey : other = key
      · exact ⟨value, Or.inl ⟨hKey, rfl⟩⟩
      · exact ⟨stored, Or.inr ⟨h, hKey⟩⟩

end SortedMap
