import Mathlib.Data.List.Chain
import Mathlib.Data.List.Count

/-
  Items that are numbered one after another and then copied.

  Every item takes the next number, whether it is copied or
  not.  The copies show consecutive numbers exactly if the
  items that are copied form one block and none of them is
  copied twice.

  Main declarations:
    * `numberCopies` and `Consecutive`
    * `IsBlock`
    * `NumberedCopies.consecutive_iff_isBlock`
-/

------------------------------------------------------------
-- Numbers and Copies
------------------------------------------------------------

namespace NumberedCopies

/- The numbers on the copies: item `i` takes the number
`next + i` and is copied `copies[i]` times. -/
def numberCopies (next : Nat) : List Nat → List Nat
| [] => []
| count :: copies =>
    List.replicate count next ++
      numberCopies (next + 1) copies

/- Every number is the successor of the one before it. -/
def Consecutive (numbers : List Nat) : Prop :=
  numbers.IsChain fun n m => m = n + 1

@[simp] theorem consecutive_nil : Consecutive [] :=
  List.isChain_nil

@[simp] theorem consecutive_singleton (n : Nat) :
    Consecutive [n] :=
  List.isChain_singleton n

@[simp] theorem consecutive_cons_cons
    {n m : Nat}
    {numbers : List Nat} :
    Consecutive (n :: m :: numbers) ↔
      m = n + 1 ∧ Consecutive (m :: numbers) :=
  List.isChain_cons_cons

theorem le_of_mem_numberCopies
    {next : Nat}
    {copies : List Nat}
    {n : Nat}
    (hMember : n ∈ numberCopies next copies) :
    next ≤ n := by
  induction copies generalizing next with
  | nil => simp [numberCopies] at hMember
  | cons count copies ih =>
      rcases List.mem_append.mp hMember with hHere | hThere
      · rw [List.eq_of_mem_replicate hHere]
      · exact Nat.le_of_succ_le (ih hThere)

------------------------------------------------------------
-- Blocks
------------------------------------------------------------

/- Nothing is copied any more. -/
def IsOver (copies : List Nat) : Prop :=
  ∃ back, copies = List.replicate back 0

/- Single copies until nothing is copied any more. -/
def IsRest (copies : List Nat) : Prop :=
  ∃ block ended,
    copies = List.replicate block 1 ++ ended ∧ IsOver ended

/- The items that are copied form one block, and each of them
is copied once. -/
def IsBlock (copies : List Nat) : Prop :=
  ∃ front rest,
    copies = List.replicate front 0 ++ rest ∧ IsRest rest

theorem isOver_nil : IsOver [] :=
  ⟨0, rfl⟩

theorem isRest_nil : IsRest [] :=
  ⟨0, [], rfl, isOver_nil⟩

theorem isBlock_nil : IsBlock [] :=
  ⟨0, [], rfl, isRest_nil⟩

theorem isOver_cons_iff
    {count : Nat}
    {copies : List Nat} :
    IsOver (count :: copies) ↔
      count = 0 ∧ IsOver copies := by
  constructor
  · rintro ⟨back, hCopies⟩
    cases back with
    | zero => simp at hCopies
    | succ back =>
        rw [List.replicate_succ, List.cons.injEq] at hCopies
        exact ⟨hCopies.1, back, hCopies.2⟩
  · rintro ⟨rfl, back, rfl⟩
    exact ⟨back + 1, rfl⟩

theorem isRest_cons_iff
    {count : Nat}
    {copies : List Nat} :
    IsRest (count :: copies) ↔
      (count = 0 ∧ IsOver copies) ∨
        (count = 1 ∧ IsRest copies) := by
  constructor
  · rintro ⟨block, ended, hCopies, hOver⟩
    cases block with
    | zero =>
        have hSame : count :: copies = ended := hCopies
        rw [← hSame, isOver_cons_iff] at hOver
        exact Or.inl hOver
    | succ block =>
        rw [List.replicate_succ, List.cons_append,
          List.cons.injEq] at hCopies
        exact
          Or.inr ⟨hCopies.1, block, ended, hCopies.2, hOver⟩
  · rintro (hOver | ⟨rfl, block, ended, rfl, hOver⟩)
    · exact ⟨0, _, rfl, isOver_cons_iff.mpr hOver⟩
    · exact ⟨block + 1, ended, rfl, hOver⟩

theorem isBlock_cons_iff
    {count : Nat}
    {copies : List Nat} :
    IsBlock (count :: copies) ↔
      (count = 0 ∧ IsBlock copies) ∨
        (count = 1 ∧ IsRest copies) := by
  constructor
  · rintro ⟨front, rest, hCopies, hRest⟩
    cases front with
    | zero =>
        have hSame : count :: copies = rest := hCopies
        rw [← hSame, isRest_cons_iff] at hRest
        rcases hRest with ⟨hCount, hOver⟩ | hRest
        · exact
            Or.inl
              ⟨hCount, 0, copies, rfl, 0, copies, rfl,
                hOver⟩
        · exact Or.inr hRest
    | succ front =>
        rw [List.replicate_succ, List.cons_append,
          List.cons.injEq] at hCopies
        exact
          Or.inl ⟨hCopies.1, front, rest, hCopies.2, hRest⟩
  · rintro (⟨rfl, front, rest, rfl, hRest⟩ | hRest)
    · exact ⟨front + 1, rest, rfl, hRest⟩
    · exact
        ⟨0, _, rfl, isRest_cons_iff.mpr (Or.inr hRest)⟩

------------------------------------------------------------
-- Consecutive Copies
------------------------------------------------------------

theorem numberCopies_eq_nil_iff
    {next : Nat}
    {copies : List Nat} :
    numberCopies next copies = [] ↔ IsOver copies := by
  induction copies generalizing next with
  | nil => exact iff_of_true rfl isOver_nil
  | cons count copies ih =>
      rw [numberCopies, List.append_eq_nil_iff,
        List.replicate_eq_nil_iff, ih, isOver_cons_iff]

/- A number that is left out ends the copies. -/
theorem consecutive_skip_iff
    {last : Nat}
    {copies : List Nat} :
    Consecutive (last :: numberCopies (last + 2) copies) ↔
      IsOver copies := by
  have hOver :
      numberCopies (last + 2) copies = [] ↔ IsOver copies :=
    numberCopies_eq_nil_iff
  rw [← hOver]
  cases hRest : numberCopies (last + 2) copies with
  | nil => simp
  | cons n rest =>
      have hLower : last + 2 ≤ n :=
        le_of_mem_numberCopies (hRest ▸ List.mem_cons_self)
      refine iff_of_false ?_ (List.cons_ne_nil n rest)
      intro hConsecutive
      have := (consecutive_cons_cons.mp hConsecutive).1
      omega

/- Behind a copied item, the block goes on or has ended. -/
theorem consecutive_cons_iff
    {last : Nat}
    {copies : List Nat} :
    Consecutive (last :: numberCopies (last + 1) copies) ↔
      IsRest copies := by
  induction copies generalizing last with
  | nil =>
      exact iff_of_true (consecutive_singleton last) isRest_nil
  | cons count copies ih =>
      rw [isRest_cons_iff]
      match count with
      | 0 =>
          simpa [numberCopies] using consecutive_skip_iff
      | 1 => simpa [numberCopies] using ih
      | count + 2 =>
          simp [numberCopies, List.replicate_succ]

/- The copies show consecutive numbers exactly if they are
one block of single copies. -/
theorem consecutive_iff_isBlock
    {next : Nat}
    {copies : List Nat} :
    Consecutive (numberCopies next copies) ↔
      IsBlock copies := by
  induction copies generalizing next with
  | nil => exact iff_of_true consecutive_nil isBlock_nil
  | cons count copies ih =>
      rw [isBlock_cons_iff]
      match count with
      | 0 => simpa [numberCopies] using ih
      | 1 => simpa [numberCopies] using consecutive_cons_iff
      | count + 2 =>
          simp [numberCopies, List.replicate_succ]

end NumberedCopies
