import ClusterChat.Redis.Client

/-
  The characters in the text of a JSON value.

  Control characters are escaped, so no text contains a null
  character, and a text survives as a C string.

  Main declarations:
    * `JsonCodec.PrintsNoNull`
    * `Json.hasNoNull_text`
-/

------------------------------------------------------------
-- Null Characters
------------------------------------------------------------

namespace ClusterChat

/- The text can be a C string. -/
def HasNoNull (text : String) : Prop :=
  ∀ c ∈ text.toList, c.toNat ≠ 0

instance : DecidablePred HasNoNull := fun text =>
  List.decidableBAll (fun c : Char => c.toNat ≠ 0) text.toList

/- A C string is the whole text. -/
theorem HasNoNull.cString_eq
    {text : String}
    (hText : HasNoNull text) :
    cString text = text :=
  (cString_eq_self_iff text).mpr hText

/- The library prints no null character. -/
def JsonCodec.PrintsNoNull (codec : JsonCodec) : Prop :=
  ∀ js, HasNoNull (codec.dump js)

theorem HasNoNull.append
    {first second : String}
    (hFirst : HasNoNull first)
    (hSecond : HasNoNull second) :
    HasNoNull (first ++ second) := by
  intro c hMember
  rw [String.toList_append] at hMember
  rcases List.mem_append.mp hMember with hLeft | hRight
  · exact hFirst c hLeft
  · exact hSecond c hRight

theorem hasNoNull_join
    {texts : List String}
    (hTexts : ∀ text ∈ texts, HasNoNull text) :
    HasNoNull (String.join texts) := by
  intro c hMember
  rw [String.toList_join] at hMember
  rcases List.mem_flatMap.mp hMember with ⟨text, hText, hC⟩
  exact hTexts text hText c hC

theorem hasNoNull_intercalate
    {separator : String}
    (hSeparator : HasNoNull separator)
    {texts : List String}
    (hTexts : ∀ text ∈ texts, HasNoNull text) :
    HasNoNull (separator.intercalate texts) := by
  induction texts with
  | nil =>
      rw [String.intercalate_nil]
      simp [HasNoNull]
  | cons text texts ih =>
      have hHead := hTexts text List.mem_cons_self
      have hTail :=
        ih fun other hOther =>
          hTexts other (List.mem_cons_of_mem _ hOther)
      by_cases hNil : texts = []
      · rw [hNil, String.intercalate_singleton]
        exact hHead
      · rw [String.intercalate_cons_of_ne_nil hNil]
        exact (hHead.append hSeparator).append hTail

theorem hasNoNull_repr (value : Nat) :
    HasNoNull value.repr := by
  intro c hMember
  rw [Nat.toList_repr] at hMember
  have hDigit :=
    Nat.isDigit_of_mem_toDigits (by decide) (by decide)
      hMember
  intro hNull
  have hSame : c = Char.ofNat 0 := by
    rw [← hNull, Char.ofNat_toNat]
  rw [hSame] at hDigit
  exact absurd hDigit (by decide)

/- A rendered number has digits, behind a sign if any. -/
theorem digit_of_mem_int
    {value : Int}
    {c : Char}
    (hMember : c ∈ (toString value).toList) :
    c.isDigit = true ∨ c = '-' := by
  have hDigits :
      ∀ number : Nat,
        c ∈ number.repr.toList → c.isDigit = true := by
    intro number hDigit
    rw [Nat.toList_repr] at hDigit
    exact
      Nat.isDigit_of_mem_toDigits (by decide) (by decide)
        hDigit
  cases value with
  | ofNat value => exact Or.inl (hDigits value hMember)
  | negSucc value =>
      change c ∈ ("-" ++ (value + 1).repr).toList at hMember
      rw [String.toList_append] at hMember
      rcases List.mem_append.mp hMember with hSign | hDigit
      · exact Or.inr (by simpa using hSign)
      · exact Or.inl (hDigits _ hDigit)

theorem hasNoNull_int (value : Int) :
    HasNoNull (toString value) := by
  intro c hMember hNull
  have hSame : c = Char.ofNat 0 := by
    rw [← hNull, Char.ofNat_toNat]
  rw [hSame] at hMember
  rcases digit_of_mem_int hMember with hDigit | hSign
  · exact absurd hDigit (by decide)
  · exact absurd hSign (by decide)

namespace Json

theorem hasNoNull_hexDigit (value : Nat) :
    HasNoNull (hexDigit value) := by
  have hDigits :
      ∀ digit < 16,
        HasNoNull (String.singleton (Nat.digitChar digit)) := by
    decide
  exact hDigits _ (Nat.mod_lt _ (by decide))

theorem hasNoNull_escapeChar (c : Char) :
    HasNoNull (escapeChar c) := by
  unfold escapeChar
  split
  case h_8 =>
    split
    · have hFront : HasNoNull "\\u00" := by decide
      exact
        (hFront.append (hasNoNull_hexDigit _)).append
          (hasNoNull_hexDigit _)
    · rename_i hPrinted
      intro other hMember
      rw [String.toList_singleton, List.mem_singleton]
        at hMember
      rw [hMember]
      omega
  all_goals decide

theorem hasNoNull_quote (value : String) :
    HasNoNull (quote value) := by
  have hMark : HasNoNull "\"" := by decide
  refine (hMark.append (hasNoNull_join ?_)).append hMark
  intro text hText
  rcases List.mem_map.mp hText with ⟨c, _, hEscape⟩
  rw [← hEscape]
  exact hasNoNull_escapeChar c

mutual

/- No text contains a null character. -/
theorem hasNoNull_text (js : Json) : HasNoNull js.text := by
  cases js with
  | null => decide
  | boolean value => cases value <;> decide
  | integer value => exact hasNoNull_int value
  | unsigned value => exact hasNoNull_repr value
  | float value =>
      have hSlash : HasNoNull "/" := by decide
      exact
        ((hasNoNull_int _).append hSlash).append
          (hasNoNull_repr _)
  | string value => exact hasNoNull_quote value
  | array elements =>
      have hOpen : HasNoNull "[" := by decide
      have hClose : HasNoNull "]" := by decide
      exact
        (hOpen.append
          (hasNoNull_intercalate (by decide)
            (hasNoNull_textList elements))).append hClose
  | object fields =>
      have hOpen : HasNoNull "\x7b" := by decide
      have hClose : HasNoNull "\x7d" := by decide
      exact
        (hOpen.append
          (hasNoNull_intercalate (by decide)
            (hasNoNull_textFields fields))).append hClose

theorem hasNoNull_textList (elements : List Json) :
    ∀ text ∈ textList elements, HasNoNull text := by
  cases elements with
  | nil => simp [textList]
  | cons js rest =>
      intro text hText
      rcases List.mem_cons.mp hText with hHere | hThere
      · rw [hHere]
        exact hasNoNull_text js
      · exact hasNoNull_textList rest text hThere

theorem hasNoNull_textFields
    (fields : List (String × Json)) :
    ∀ text ∈ textFields fields, HasNoNull text := by
  cases fields with
  | nil => simp [textFields]
  | cons member rest =>
      rcases member with ⟨key, js⟩
      intro text hText
      rcases List.mem_cons.mp hText with hHere | hThere
      · rw [hHere]
        have hColon : HasNoNull ":" := by decide
        exact
          ((hasNoNull_quote key).append hColon).append
            (hasNoNull_text js)
      · exact hasNoNull_textFields rest text hThere

end

end Json

theorem JsonCodec.printsNoNull_ofTable (known : List Json) :
    (ofTable known).PrintsNoNull :=
  Json.hasNoNull_text

end ClusterChat
