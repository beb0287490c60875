import Mathlib.Data.List.Sort
import Mathlib.Order.Defs.Unbundled

/-
  Stable sorts by a key from a linear order.

  A stable sort keeps the entries with one key in the order
  in which they came, so there is exactly one for each
  input, whatever the algorithm.

  Main declarations:
    * `StableSort`
    * `StableSort.unique`
    * `StableSort.strictWeakOrder`
    * `StableSort.insertionSort`
    * `StableSort.eq_append`
-/

------------------------------------------------------------
-- Stable Sorts
------------------------------------------------------------

variable {α K : Type} [LinearOrder K]

/- The output has the entries of the input in the order of
their keys, those with one key in the order of the input. -/
structure StableSort
    (key : α → K)
    (input output : List α) : Prop where
  perm : output.Perm input
  ordered : output.Pairwise fun a b => key a ≤ key b
  stable :
    ∀ k,
      (output.filter fun a => key a = k) =
        input.filter fun a => key a = k

namespace StableSort

variable {key : α → K} {input output other : List α}

/- A comparison of keys is a strict weak order. -/
theorem strictWeakOrder
    {before : α → α → Prop}
    (hBefore : ∀ a b, before a b ↔ key a < key b) :
    IsStrictWeakOrder α before where
  irrefl a := by
    rw [hBefore]
    exact lt_irrefl _
  trans a b c := by
    simp only [hBefore]
    exact lt_trans
  incomp_trans a b c := by
    simp only [hBefore, not_lt]
    intro hFirst hSecond
    exact
      ⟨hSecond.1.trans hFirst.1, hFirst.2.trans hSecond.2⟩

/- Sorted lists with the same entries for each key. -/
theorem eq_of_filter_eq
    {first second : List α}
    (hPerm : first.Perm second)
    (hFirst : first.Pairwise fun a b => key a ≤ key b)
    (hSecond : second.Pairwise fun a b => key a ≤ key b)
    (hSame :
      ∀ k,
        (first.filter fun a => key a = k) =
          second.filter fun a => key a = k) :
    first = second := by
  induction first generalizing second with
  | nil => exact hPerm.nil_eq
  | cons a first ih =>
      cases second with
      | nil => exact absurd hPerm (List.not_perm_cons_nil)
      | cons b second =>
          have hHeads : key a = key b := by
            apply le_antisymm
            · rcases List.mem_cons.mp
                  (hPerm.mem_iff.mpr List.mem_cons_self) with
                hHere | hThere
              · rw [hHere]
              · exact List.rel_of_pairwise_cons hFirst hThere
            · rcases List.mem_cons.mp
                  (hPerm.mem_iff.mp List.mem_cons_self) with
                hHere | hThere
              · rw [hHere]
              · exact
                  List.rel_of_pairwise_cons hSecond hThere
          have hFilter := hSame (key a)
          rw [List.filter_cons_of_pos (by simp),
            List.filter_cons_of_pos (by simp [hHeads])]
              at hFilter
          have hEq : a = b := (List.cons.inj hFilter).1
          subst hEq
          congr 1
          apply
            ih (List.perm_cons a |>.mp hPerm) hFirst.of_cons
              hSecond.of_cons
          intro k
          have hThere := hSame k
          by_cases hKey : key a = k
          · rw [List.filter_cons_of_pos (by simpa using hKey),
              List.filter_cons_of_pos (by simpa using hKey)]
                at hThere
            exact (List.cons.inj hThere).2
          · rw [List.filter_cons_of_neg (by simpa using hKey),
              List.filter_cons_of_neg (by simpa using hKey)]
                at hThere
            exact hThere

/- There is only one stable sort of a list. -/
theorem unique
    (hOutput : StableSort key input output)
    (hOther : StableSort key input other) :
    output = other :=
  eq_of_filter_eq (hOutput.perm.trans hOther.perm.symm)
    hOutput.ordered hOther.ordered fun k =>
      (hOutput.stable k).trans (hOther.stable k).symm

/- Insertion sort is stable. -/
theorem insertionSort (key : α → K) (input : List α) :
    StableSort key input
      (input.insertionSort fun a b => key a ≤ key b) := by
  have hPerm :
      (input.insertionSort fun a b => key a ≤ key b).Perm
        input :=
    List.perm_insertionSort _ input
  have : Std.Total fun a b => key a ≤ key b :=
    ⟨fun a b => le_total (key a) (key b)⟩
  have : IsTrans α fun a b => key a ≤ key b :=
    ⟨fun _ _ _ => le_trans⟩
  refine ⟨hPerm, List.pairwise_insertionSort _ input, ?_⟩
  intro k
  have hTies :
      (input.filter fun a => key a = k).Pairwise
        fun a b => key a ≤ key b := by
    apply List.pairwise_of_forall_mem_list
    intro a hA b hB
    have hKeyA : key a = k := by
      simpa using (List.mem_filter.mp hA).2
    have hKeyB : key b = k := by
      simpa using (List.mem_filter.mp hB).2
    exact (hKeyA.trans hKeyB.symm).le
  have hKept :=
    (List.sublist_insertionSort hTies
      List.filter_sublist).filter fun a => key a = k
  rw [List.filter_filter] at hKept
  simp only [Bool.and_self] at hKept
  exact
    (hKept.eq_of_length (hPerm.filter _).length_eq.symm).symm

/- The entries below the greatest key come first, sorted,
and the others follow as they came. -/
theorem eq_append
    [OrderTop K]
    (hOutput : StableSort key input output) :
    output =
      (output.filter fun a => key a ≠ ⊤) ++
        input.filter fun a => key a = ⊤ := by
  rw [← hOutput.stable ⊤]
  have hOrdered := hOutput.ordered
  generalize output = entries at hOrdered
  induction entries with
  | nil => rfl
  | cons a entries ih =>
      have hRest := ih hOrdered.of_cons
      by_cases hTop : key a = ⊤
      · have hAll : ∀ b ∈ a :: entries, key b = ⊤ := by
          intro b hMember
          rcases List.mem_cons.mp hMember with hHere | hThere
          · rw [hHere, hTop]
          · have hLe :=
              List.rel_of_pairwise_cons hOrdered hThere
            rw [hTop] at hLe
            exact top_le_iff.mp hLe
        rw [List.filter_eq_nil_iff.mpr
            (fun b hB => by simp [hAll b hB]),
          List.filter_eq_self.mpr
            (fun b hB => by simp [hAll b hB])]
        rfl
      · rw [List.filter_cons_of_pos (by simpa using hTop),
          List.filter_cons_of_neg (by simpa using hTop),
          List.cons_append, ← hRest]

/- With one entry for each key, the order of the input does
not matter. -/
theorem eq_of_perm
    {others : List α}
    (hOutput : StableSort key input output)
    (hOther : StableSort key others other)
    (hPerm : others.Perm input)
    (hDistinct : (input.map key).Nodup) :
    output = other := by
  have hEntries : output.Perm other :=
    (hOutput.perm.trans hPerm.symm).trans hOther.perm.symm
  apply hEntries.eq_of_pairwise _ hOutput.ordered
    hOther.ordered
  intro a b hA hB hLe hGe
  apply List.inj_on_of_nodup_map hDistinct
  · exact hOutput.perm.mem_iff.mp hA
  · exact hPerm.mem_iff.mp (hOther.perm.mem_iff.mp hB)
  · exact le_antisymm hLe hGe

/- Leaving entries out before or after makes no
difference. -/
theorem filter
    (hOutput : StableSort key input output)
    (kept : α → Bool) :
    StableSort key (input.filter kept)
      (output.filter kept) where
  perm := hOutput.perm.filter kept
  ordered := hOutput.ordered.filter kept
  stable := by
    intro k
    rw [List.filter_comm, hOutput.stable, List.filter_comm]

end StableSort
