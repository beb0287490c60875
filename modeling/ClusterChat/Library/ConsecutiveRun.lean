import Mathlib.Data.List.Basic
import Mathlib.Tactic.SplitIfs

/-
  Runs of consecutive numbers at the front of a keyed list.

  `takeRun n` is the longest prefix whose keys continue
  `n, n + 1, ...`, and `dropRun n` is what stays behind it.

  Main declarations:
    * `takeRun`, `dropRun`
    * `takeFirstRun`, `dropFirstRun`, `runEnds`
    * `ConsecutiveRun.takeRun_append_dropRun`
    * `ConsecutiveRun.map_fst_takeRun`
    * `ConsecutiveRun.lt_of_mem_dropRun`
-/

------------------------------------------------------------
-- Runs at the Front of a List
------------------------------------------------------------

namespace ConsecutiveRun

variable {α : Type}

/- The longest prefix with keys `n, n + 1, ...`. -/
def takeRun (n : Nat) : List (Nat × α) → List (Nat × α)
| [] => []
| entry :: entries =>
    if entry.1 = n then
      entry :: takeRun (n + 1) entries
    else
      []

/- The entries behind `takeRun n`. -/
def dropRun (n : Nat) : List (Nat × α) → List (Nat × α)
| [] => []
| entry :: entries =>
    if entry.1 = n then
      dropRun (n + 1) entries
    else
      entry :: entries

@[simp] theorem takeRun_nil (n : Nat) :
    takeRun n ([] : List (Nat × α)) = [] := rfl

@[simp] theorem dropRun_nil (n : Nat) :
    dropRun n ([] : List (Nat × α)) = [] := rfl

theorem takeRun_cons_self
    (n : Nat)
    (value : α)
    (entries : List (Nat × α)) :
    takeRun n ((n, value) :: entries) =
      (n, value) :: takeRun (n + 1) entries := by
  simp [takeRun]

theorem dropRun_cons_self
    (n : Nat)
    (value : α)
    (entries : List (Nat × α)) :
    dropRun n ((n, value) :: entries) =
      dropRun (n + 1) entries := by
  simp [dropRun]

theorem takeRun_append_dropRun
    (n : Nat)
    (entries : List (Nat × α)) :
    takeRun n entries ++ dropRun n entries = entries := by
  induction entries generalizing n with
  | nil => rfl
  | cons entry entries ih =>
      unfold takeRun dropRun
      split_ifs
      · rw [List.cons_append, ih]
      · rfl

theorem mem_of_mem_takeRun
    {n : Nat}
    {entries : List (Nat × α)}
    {entry : Nat × α}
    (hMember : entry ∈ takeRun n entries) :
    entry ∈ entries := by
  rw [← takeRun_append_dropRun n entries]
  exact List.mem_append_left _ hMember

theorem mem_of_mem_dropRun
    {n : Nat}
    {entries : List (Nat × α)}
    {entry : Nat × α}
    (hMember : entry ∈ dropRun n entries) :
    entry ∈ entries := by
  rw [← takeRun_append_dropRun n entries]
  exact List.mem_append_right _ hMember

theorem mem_takeRun_or_mem_dropRun
    (n : Nat)
    {entries : List (Nat × α)}
    {entry : Nat × α}
    (hMember : entry ∈ entries) :
    entry ∈ takeRun n entries ∨
      entry ∈ dropRun n entries := by
  rw [← takeRun_append_dropRun n entries] at hMember
  exact List.mem_append.mp hMember

/- The keys of a run count up from its start. -/
theorem map_fst_takeRun
    (n : Nat)
    (entries : List (Nat × α)) :
    (takeRun n entries).map Prod.fst =
      List.range' n (takeRun n entries).length := by
  induction entries generalizing n with
  | nil => rfl
  | cons entry entries ih =>
      unfold takeRun
      split_ifs with hKey
      · rw [List.map_cons, ih, hKey, List.length_cons,
          List.range'_succ]
      · rfl

theorem key_bounds_of_mem_takeRun
    {n : Nat}
    {entries : List (Nat × α)}
    {entry : Nat × α}
    (hMember : entry ∈ takeRun n entries) :
    n ≤ entry.1 ∧
      entry.1 < n + (takeRun n entries).length := by
  have hKey :
      entry.1 ∈ (takeRun n entries).map Prod.fst :=
    List.mem_map_of_mem hMember
  rw [map_fst_takeRun] at hKey
  simpa using hKey

/-
  In an ascending list without keys below `n`, everything
  behind the run lies strictly above the run's end.
-/
theorem lt_of_mem_dropRun
    {n : Nat}
    {entries : List (Nat × α)}
    (hSorted : entries.Pairwise (fun a b => a.1 < b.1))
    (hLower : ∀ entry ∈ entries, n ≤ entry.1)
    {entry : Nat × α}
    (hMember : entry ∈ dropRun n entries) :
    n + (takeRun n entries).length < entry.1 := by
  induction entries generalizing n with
  | nil => simp at hMember
  | cons head tail ih =>
      have hHead : ∀ e ∈ tail, head.1 < e.1 :=
        fun e hTail =>
          List.rel_of_pairwise_cons hSorted hTail
      unfold dropRun at hMember
      unfold takeRun
      split_ifs at hMember ⊢ with hKey
      · have hTailLower : ∀ e ∈ tail, n + 1 ≤ e.1 := by
          intro e hTail
          have := hHead e hTail
          omega
        have hBound :=
          ih hSorted.of_cons hTailLower hMember
        rw [List.length_cons]
        omega
      · have hHeadLower := hLower head List.mem_cons_self
        rw [List.length_nil]
        rcases List.mem_cons.mp hMember with rfl | hTail
        · omega
        · have := hHead entry hTail
          omega

/- The run reaches beyond a number exactly if no key is
missing from its start up to the number. -/
theorem lt_runEnd_iff
    {n : Nat}
    {entries : List (Nat × α)}
    (hSorted : entries.Pairwise (fun a b => a.1 < b.1))
    (hLower : ∀ entry ∈ entries, n ≤ entry.1)
    (bound : Nat) :
    bound < n + (takeRun n entries).length ↔
      ∀ key,
        n ≤ key → key ≤ bound →
          key ∈ entries.map Prod.fst := by
  constructor
  · intro hBound key hStart hEnd
    have hKey :
        key ∈ (takeRun n entries).map Prod.fst := by
      rw [map_fst_takeRun, List.mem_range'_1]
      omega
    rcases List.mem_map.mp hKey with ⟨entry, hEntry, hSame⟩
    rw [← hSame]
    exact List.mem_map_of_mem (mem_of_mem_takeRun hEntry)
  · intro hCovered
    by_contra hBeyond
    have hEnd :
        n + (takeRun n entries).length ∈
          entries.map Prod.fst :=
      hCovered _ (by omega) (by omega)
    rcases List.mem_map.mp hEnd with ⟨entry, hEntry, hKey⟩
    rcases mem_takeRun_or_mem_dropRun n hEntry with
      hTaken | hDropped
    · have := (key_bounds_of_mem_takeRun hTaken).2
      omega
    · have := lt_of_mem_dropRun hSorted hLower hDropped
      omega

/- Two adjacent ranges of numbers make one. -/
theorem range'_glue
    {low middle high : Nat}
    (hLow : low ≤ middle)
    (hHigh : middle ≤ high) :
    List.range' low (middle - low) ++
        List.range' middle (high - middle) =
      List.range' low (high - low) := by
  have hMiddle : low + (middle - low) = middle := by
    omega
  calc
    List.range' low (middle - low) ++
          List.range' middle (high - middle) =
        List.range' low (middle - low) ++
          List.range' (low + (middle - low))
            (high - middle) := by rw [hMiddle]
    _ = List.range' low
          ((middle - low) + (high - middle)) :=
        List.range'_append_1
    _ = List.range' low (high - low) := by
        congr 1
        omega

theorem dropRun_sorted
    {n : Nat}
    {entries : List (Nat × α)}
    (hSorted : entries.Pairwise (fun a b => a.1 < b.1)) :
    (dropRun n entries).Pairwise
      (fun a b => a.1 < b.1) := by
  have hSublist :
      (dropRun n entries).Sublist entries := by
    conv_rhs => rw [← takeRun_append_dropRun n entries]
    exact List.sublist_append_right _ _
  exact hSorted.sublist hSublist

------------------------------------------------------------
-- Counting Runs
------------------------------------------------------------

/- The run that starts at the list's own first key. -/
def takeFirstRun : List (Nat × α) → List (Nat × α)
| [] => []
| entry :: entries => takeRun entry.1 (entry :: entries)

/- The entries behind the first run. -/
def dropFirstRun : List (Nat × α) → List (Nat × α)
| [] => []
| entry :: entries => dropRun entry.1 (entry :: entries)

theorem takeFirstRun_append_dropFirstRun
    (entries : List (Nat × α)) :
    takeFirstRun entries ++ dropFirstRun entries =
      entries := by
  cases entries with
  | nil => rfl
  | cons entry entries =>
      exact takeRun_append_dropRun entry.1 _

theorem dropFirstRun_sorted
    {entries : List (Nat × α)}
    (hSorted : entries.Pairwise (fun a b => a.1 < b.1)) :
    (dropFirstRun entries).Pairwise
      (fun a b => a.1 < b.1) := by
  cases entries with
  | nil => exact List.Pairwise.nil
  | cons entry entries => exact dropRun_sorted hSorted

/- The numbers whose successor is missing: one for each run
of consecutive numbers. -/
def runEnds (numbers : List Nat) : List Nat :=
  numbers.filter fun n => n + 1 ∉ numbers

theorem length_runEnds_of_perm
    {numbers others : List Nat}
    (hPerm : numbers.Perm others) :
    (runEnds numbers).length = (runEnds others).length := by
  have hSame :
      runEnds numbers =
        numbers.filter fun n => n + 1 ∉ others := by
    apply List.filter_congr
    intro n _
    simp [hPerm.mem_iff]
  rw [hSame]
  exact (hPerm.filter _).length_eq

theorem runEnds_range'
    (first count : Nat)
    {rest : List Nat}
    (hRest : ∀ n ∈ rest, first + count + 1 < n) :
    (List.range' first (count + 1)).filter
        (fun n =>
          n + 1 ∉ List.range' first (count + 1) ++ rest) =
      [first + count] := by
  rw [List.range'_1_concat, List.filter_append]
  have hInside :
      (List.range' first count).filter
          (fun n =>
            n + 1 ∉
              (List.range' first count ++ [first + count]) ++
                rest) = [] := by
    apply List.filter_eq_nil_iff.mpr
    intro n hMember
    have hRange := List.mem_range'_1.mp hMember
    have hSuccessor :
        n + 1 ∈
          (List.range' first count ++ [first + count]) ++
            rest := by
      apply List.mem_append_left
      rw [← List.range'_1_concat]
      apply List.mem_range'_1.mpr
      omega
    exact fun hMissing =>
      absurd hSuccessor (of_decide_eq_true hMissing)
  have hLast :
      first + count + 1 ∉
        (List.range' first count ++ [first + count]) ++
          rest := by
    rw [← List.range'_1_concat, List.mem_append]
    intro hMember
    rcases hMember with hRange | hLater
    · have := List.mem_range'_1.mp hRange
      omega
    · have := hRest _ hLater
      omega
  rw [hInside, List.nil_append]
  exact List.filter_cons_of_pos (by simpa using hLast)

/- Dropping the first run drops one run end. -/
theorem length_runEnds_cons
    {entry : Nat × α}
    {entries : List (Nat × α)}
    (hSorted :
      (entry :: entries).Pairwise
        (fun a b => a.1 < b.1)) :
    (runEnds ((entry :: entries).map Prod.fst)).length =
      (runEnds
        ((dropFirstRun (entry :: entries)).map
          Prod.fst)).length + 1 := by
  have hLower :
      ∀ e ∈ entry :: entries, entry.1 ≤ e.1 := by
    intro e hMember
    rcases List.mem_cons.mp hMember with hSelf | hTail
    · exact Nat.le_of_eq (by rw [hSelf])
    · exact
        Nat.le_of_lt
          (List.rel_of_pairwise_cons hSorted hTail)
  have hTaken :
      takeRun entry.1 (entry :: entries) ≠ [] := by
    simp [takeRun]
  rcases Nat.exists_eq_add_one_of_ne_zero
      (mt List.length_eq_zero_iff.mp hTaken) with
    ⟨count, hCount⟩
  have hAbove :
      ∀ n ∈ (dropRun entry.1 (entry :: entries)).map
          Prod.fst,
        entry.1 + count + 1 < n := by
    intro n hMember
    rcases List.mem_map.mp hMember with ⟨e, hDrop, hKey⟩
    have := lt_of_mem_dropRun hSorted hLower hDrop
    omega
  have hKeys :
      (entry :: entries).map Prod.fst =
        List.range' entry.1 (count + 1) ++
          (dropRun entry.1 (entry :: entries)).map
            Prod.fst := by
    rw [← hCount, ← map_fst_takeRun, ← List.map_append,
      takeRun_append_dropRun]
  have hLater :
      ((dropRun entry.1 (entry :: entries)).map
          Prod.fst).filter
          (fun n =>
            n + 1 ∉
              List.range' entry.1 (count + 1) ++
                (dropRun entry.1 (entry :: entries)).map
                  Prod.fst) =
        runEnds
          ((dropRun entry.1 (entry :: entries)).map
            Prod.fst) := by
    apply List.filter_congr
    intro n hMember
    have hNotFirst :
        n + 1 ∉ List.range' entry.1 (count + 1) := by
      intro hRange
      have := List.mem_range'_1.mp hRange
      have := hAbove n hMember
      omega
    simp [hNotFirst]
  unfold dropFirstRun
  conv_lhs => rw [runEnds, hKeys, List.filter_append]
  rw [runEnds_range' entry.1 count hAbove, hLater,
    List.length_append, List.length_singleton, Nat.add_comm]

/-
  Dropping the first run twice leaves nothing if and only if
  there were at most two runs.
-/
theorem dropFirstRun_twice_eq_nil_iff
    {entries : List (Nat × α)}
    (hSorted : entries.Pairwise (fun a b => a.1 < b.1)) :
    dropFirstRun (dropFirstRun entries) = [] ↔
      (runEnds (entries.map Prod.fst)).length ≤ 2 := by
  have hFirst := dropFirstRun_sorted hSorted
  cases entries with
  | nil => simp [dropFirstRun, runEnds]
  | cons entry entries =>
      rw [length_runEnds_cons hSorted]
      cases hRest : dropFirstRun (entry :: entries) with
      | nil => simp [dropFirstRun, runEnds]
      | cons next others =>
          rw [hRest] at hFirst
          rw [length_runEnds_cons hFirst]
          cases hLeft : dropFirstRun (next :: others) with
          | nil => simp [runEnds]
          | cons left rest =>
              have hSecond := dropFirstRun_sorted hFirst
              rw [hLeft] at hSecond
              rw [length_runEnds_cons hSecond]
              simp

end ConsecutiveRun
