import ClusterChat.JsonSize

/-
  Upper bounds for the sizes of JSON texts.

  An escape takes at most six bytes for one, and a member adds
  its key, its value, and four marks at most.

  Main declarations:
    * `textSize_one_le` and `stringSize_zero_le`
    * `digits_le`
    * `JsonObject.Ascending.size_assign_le`
-/

------------------------------------------------------------
-- Texts and Numbers
------------------------------------------------------------

namespace ClusterChat

/- The letters of an escape are printed as such. -/
theorem charSize_one (c : Char) :
    charSize 1 c = (Json.escapeChar c).utf8ByteSize := by
  rw [utf8ByteSize_eq_sum]
  rfl

theorem utf8ByteSize_hexDigit (value : Nat) :
    (Json.hexDigit value).utf8ByteSize = 1 := by
  have hDigit : value % 16 < 16 := Nat.mod_lt _ (by decide)
  unfold Json.hexDigit
  interval_cases value % 16 <;> rfl

/- The longest escape is the one of a control character. -/
theorem charSize_one_le (c : Char) :
    charSize 1 c ≤ 6 * c.utf8Size := by
  have hSize := c.utf8Size_pos
  have hTwo :
      ∀ text : String, text.utf8ByteSize = 2 →
        text.utf8ByteSize ≤ 6 * c.utf8Size := by
    intro text hText
    omega
  rw [charSize_one]
  unfold Json.escapeChar
  split
  case h_8 =>
    split
    · rw [String.utf8ByteSize_append,
        String.utf8ByteSize_append, utf8ByteSize_hexDigit,
        utf8ByteSize_hexDigit]
      have hStart : "\\u00".utf8ByteSize = 4 := rfl
      omega
    · rw [String.utf8ByteSize_singleton]
      omega
  all_goals exact hTwo _ rfl

theorem textSize_one_le (text : String) :
    textSize 1 text ≤ 6 * text.utf8ByteSize := by
  unfold textSize
  rw [utf8ByteSize_eq_sum]
  induction text.toList with
  | nil => exact Nat.le_refl 0
  | cons c rest ih =>
      have hFirst := charSize_one_le c
      rw [List.map_cons, List.map_cons, List.sum_cons,
        List.sum_cons]
      omega

theorem stringSize_zero_le (text : String) :
    stringSize 0 text ≤ 2 + 6 * text.utf8ByteSize := by
  have hText := textSize_one_le text
  unfold stringSize
  change 2 + textSize 1 text ≤ _
  omega

/- Digits take a byte each. -/
theorem utf8Size_of_isDigit
    {c : Char}
    (hDigit : c.isDigit = true) :
    c.utf8Size = 1 := by
  have hRange : c.toNat ≤ 57 := by
    have hBounds : 48 ≤ c.toNat ∧ c.toNat ≤ 57 := by
      simpa [Char.isDigit, UInt32.le_iff_toNat_le] using hDigit
    exact hBounds.2
  rw [Char.utf8Size_eq_one_iff, UInt32.le_iff_toNat_le]
  exact hRange.trans (by decide)

theorem utf8ByteSize_repr (value : Nat) :
    value.repr.utf8ByteSize = value.repr.length := by
  have hDigits :
      ∀ c ∈ value.repr.toList, c.utf8Size = 1 := by
    intro c hC
    rw [Nat.toList_repr] at hC
    exact
      utf8Size_of_isDigit
        (Nat.isDigit_of_mem_toDigits (by decide) (by decide)
          hC)
  rw [utf8ByteSize_eq_sum,
    List.map_congr_left (g := fun _ => 1) hDigits,
    ← String.length_toList]
  simp

/- An `int` has at most ten digits and a sign. -/
theorem digits_le
    {value : Int}
    (hLow : -2 ^ 31 ≤ value)
    (hHigh : value < 2 ^ 31) :
    digits value ≤ 11 := by
  have hNumber :
      ∀ n : Nat, n ≤ 2 ^ 31 → n.repr.utf8ByteSize ≤ 10 := by
    intro n hBound
    rw [utf8ByteSize_repr, Nat.length_repr_le_iff (by decide)]
    omega
  unfold digits
  rw [Int.toString_eq_repr, Int.repr_eq_if]
  split
  · have hSize := hNumber value.toNat (by omega)
    omega
  · have hSize := hNumber (-value).toNat (by omega)
    have hSign : "-".utf8ByteSize = 1 := rfl
    rw [String.utf8ByteSize_append]
    omega

------------------------------------------------------------
-- Objects
------------------------------------------------------------

theorem sum_filter_le
    {members : List (String × Nat)}
    (keep : String × Nat → Bool)
    (size : String × Nat → Nat) :
    ((members.filter keep).map size).sum ≤
      (members.map size).sum :=
  (List.filter_sublist.map size).sum_le_sum fun _ _ =>
    Nat.zero_le _

/- One more member, or another value of one. -/
theorem JsonObject.Ascending.size_assign_le
    {js : JsonObject}
    (hAscending : JsonObject.Ascending js)
    (fraction : Rat → String)
    (key : String)
    (value : Json) :
    (Json.object (JsonObject.assign key value js)).size
        fraction 0 ≤
      (Json.object js).size fraction 0 +
        (stringSize 0 key + 2 + value.size fraction 0) := by
  have hSizes : HasSizes fraction 0 js
      (Json.fieldSizes fraction 0 js) :=
    ⟨hAscending, List.Perm.refl _⟩
  rw [(hSizes.assign key value).size_eq, hSizes.size_eq]
  generalize Json.fieldSizes fraction 0 js = members
  unfold membersSize elementsSize
  have hSum :=
    @sum_filter_le members
      (fun member => decide (member.1 ≠ key))
      fun member => stringSize 0 member.1 + 1 + member.2
  have hCount :
      (members.filter fun member =>
          decide (member.1 ≠ key)).length ≤
        members.length :=
    List.length_filter_le _ _
  rw [List.map_append, List.sum_append, List.length_append,
    List.length_map, List.length_map, List.length_map]
  simp only [List.map_cons, List.map_nil, List.sum_cons,
    List.sum_nil, List.length_cons, List.length_nil]
  omega

end ClusterChat
