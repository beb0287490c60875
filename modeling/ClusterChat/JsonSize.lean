import ClusterChat.Json

/-
  How many bytes the text of a JSON value takes.

  The library prints a value in compact form: the text of an
  array or an object is put together from the texts of its
  parts.  Only the digits of a fraction are up to the library.

  The program puts texts into strings of other values, which
  escapes them again, so the sizes are given for every depth:
  the number of strings that the text is inside of.

  Main declarations:
    * `charSize` and `textSize`
    * `stringSize`, `elementsSize`, and `membersSize`
    * `Json.print` and `Json.size`
    * `JsonObject.assign_perm` and `HasSizes`
    * `JsonCodec.Prints` and `JsonCodec.prints_ofTable`
-/

------------------------------------------------------------
-- Characters and Texts
------------------------------------------------------------

namespace ClusterChat

/- The bytes of a character after so many escapes. -/
def charSize : Nat → Char → Nat
| 0, c => c.utf8Size
| depth + 1, c =>
    ((Json.escapeChar c).toList.map (charSize depth)).sum

def textSize
    (depth : Nat)
    (text : String) : Nat :=
  (text.toList.map (charSize depth)).sum

/- The digits of a number, with its sign. -/
def digits (value : Int) : Nat :=
  (toString value).utf8ByteSize

theorem utf8ByteSize_eq_sum (text : String) :
    text.utf8ByteSize =
      (text.toList.map Char.utf8Size).sum := by
  conv_lhs =>
    rw [← String.ofList_toList (s := text),
      String.utf8ByteSize_ofList]
  induction text.toList with
  | nil => rfl
  | cons c rest ih =>
      rw [String.utf8Len_cons, ih, List.map_cons,
        List.sum_cons, Nat.add_comm]

theorem textSize_zero (text : String) :
    textSize 0 text = text.utf8ByteSize :=
  (utf8ByteSize_eq_sum text).symm

theorem textSize_append
    (depth : Nat)
    (first second : String) :
    textSize depth (first ++ second) =
      textSize depth first + textSize depth second := by
  unfold textSize
  rw [String.toList_append, List.map_append, List.sum_append]

theorem textSize_singleton
    (depth : Nat)
    (c : Char) :
    textSize depth (String.singleton c) = charSize depth c := by
  simp [textSize]

theorem textSize_join
    (depth : Nat)
    (texts : List String) :
    textSize depth (String.join texts) =
      (texts.map (textSize depth)).sum := by
  induction texts with
  | nil => rfl
  | cons text texts ih =>
      rw [String.join_cons, textSize_append, ih,
        List.map_cons, List.sum_cons]

/- One more string around the text. -/
theorem textSize_succ
    (depth : Nat)
    (text : String) :
    textSize (depth + 1) text =
      textSize depth
        (String.join (text.toList.map Json.escapeChar)) := by
  rw [textSize_join, List.map_map]
  rfl

/- A character that is not escaped. -/
def Plain (c : Char) : Prop :=
  Json.escapeChar c = String.singleton c

instance : DecidablePred Plain := fun c =>
  inferInstanceAs
    (Decidable (Json.escapeChar c = String.singleton c))

theorem charSize_of_plain
    {c : Char}
    (hPlain : Plain c)
    (depth : Nat) :
    charSize depth c = c.utf8Size := by
  induction depth with
  | zero => rfl
  | succ depth ih =>
      have hSame :
          charSize (depth + 1) c =
            textSize depth (Json.escapeChar c) := rfl
      rw [hSame, hPlain, textSize_singleton, ih]

theorem textSize_of_plain
    {text : String}
    (hPlain : ∀ c ∈ text.toList, Plain c)
    (depth : Nat) :
    textSize depth text = text.utf8ByteSize := by
  have hSizes :
      text.toList.map (charSize depth) =
        text.toList.map Char.utf8Size :=
    List.map_congr_left fun c hC =>
      charSize_of_plain (hPlain c hC) depth
  unfold textSize
  rw [hSizes, utf8ByteSize_eq_sum]

/- The condition as it is evaluated. -/
theorem textSize_of_all
    {text : String}
    (hPlain :
      (text.toList.all fun c => decide (Plain c)) = true)
    (depth : Nat) :
    textSize depth text = text.utf8ByteSize := by
  apply textSize_of_plain
  intro c hC
  exact of_decide_eq_true (List.all_eq_true.mp hPlain c hC)

theorem plain_of_isDigit
    {c : Char}
    (hDigit : c.isDigit = true) :
    Plain c := by
  have hRange : 48 ≤ c.toNat ∧ c.toNat ≤ 57 := by
    simpa [Char.isDigit, UInt32.le_iff_toNat_le] using hDigit
  unfold Plain Json.escapeChar
  split
  case h_8 => exact if_neg (by omega)
  all_goals omega

theorem plain_of_mem_repr
    {value : Nat}
    {c : Char}
    (hC : c ∈ value.repr.toList) :
    Plain c := by
  rw [Nat.toList_repr] at hC
  exact
    plain_of_isDigit
      (Nat.isDigit_of_mem_toDigits (by decide) (by decide) hC)

/- Numbers are not escaped. -/
theorem textSize_toString
    (depth : Nat)
    (value : Int) :
    textSize depth (toString value) = digits value := by
  apply textSize_of_plain
  intro c hC
  rw [Int.toString_eq_repr, Int.repr_eq_if] at hC
  split_ifs at hC
  · exact plain_of_mem_repr hC
  · rw [String.toList_append] at hC
    rcases List.mem_append.mp hC with hSign | hDigits
    · rw [List.mem_singleton.mp hSign]
      decide
    · exact plain_of_mem_repr hDigits
------------------------------------------------------------
-- Sizes of Parts
------------------------------------------------------------

/- The bytes of a string between quotation marks, with its
escapes.  Each escape doubles a quotation mark. -/
def stringSize
    (depth : Nat)
    (value : String) : Nat :=
  2 ^ (depth + 1) + textSize (depth + 1) value

/- Brackets, elements, and the commas between them. -/
def elementsSize (sizes : List Nat) : Nat :=
  2 + sizes.sum + (sizes.length - 1)

/- Braces, members, and the commas between them: a member is
a key, a colon, and a value. -/
def membersSize
    (depth : Nat)
    (members : List (String × Nat)) : Nat :=
  elementsSize
    (members.map fun member =>
      stringSize depth member.1 + 1 + member.2)

theorem textSize_intercalate
    (depth : Nat)
    (texts : List String) :
    textSize depth (",".intercalate texts) =
      (texts.map (textSize depth)).sum +
        (texts.length - 1) := by
  have hComma : textSize depth "," = 1 :=
    textSize_of_all (by decide) depth
  induction texts with
  | nil => rfl
  | cons text texts ih =>
      by_cases hNil : texts = []
      · rw [hNil, String.intercalate_singleton]
        simp
      · have hLength : 0 < texts.length :=
          List.length_pos_iff.mpr hNil
        rw [String.intercalate_cons_of_ne_nil hNil,
          textSize_append, textSize_append, ih, hComma,
          List.map_cons, List.sum_cons, List.length_cons]
        omega

theorem charSize_backslash (depth : Nat) :
    charSize depth '\\' = 2 ^ depth := by
  induction depth with
  | zero => rfl
  | succ depth ih =>
      have hTwice :
          charSize (depth + 1) '\\' =
            charSize depth '\\' + (charSize depth '\\' + 0) :=
        rfl
      rw [hTwice, ih, pow_succ]
      omega

theorem charSize_mark (depth : Nat) :
    charSize depth '"' = 2 ^ depth := by
  induction depth with
  | zero => rfl
  | succ depth ih =>
      have hEscaped :
          charSize (depth + 1) '"' =
            charSize depth '\\' + (charSize depth '"' + 0) :=
        rfl
      rw [hEscaped, ih, charSize_backslash, pow_succ]
      omega

theorem textSize_quote
    (depth : Nat)
    (value : String) :
    textSize depth (Json.quote value) =
      stringSize depth value := by
  have hMark : textSize depth "\"" = 2 ^ depth :=
    (textSize_singleton depth '"').trans (charSize_mark depth)
  unfold Json.quote stringSize
  rw [textSize_append, textSize_append, hMark,
    textSize_succ, pow_succ]
  omega

/- The brackets around the elements. -/
theorem textSize_enclose
    (depth : Nat)
    {opening closing : String}
    (hOpening : textSize depth opening = 1)
    (hClosing : textSize depth closing = 1)
    (texts : List String) :
    textSize depth
        (opening ++ ",".intercalate texts ++ closing) =
      elementsSize (texts.map (textSize depth)) := by
  unfold elementsSize
  rw [textSize_append, textSize_append, hOpening, hClosing,
    textSize_intercalate, List.length_map]
  omega

theorem elementsSize_perm
    {first second : List Nat}
    (hPerm : first.Perm second) :
    elementsSize first = elementsSize second := by
  unfold elementsSize
  rw [hPerm.sum_eq, hPerm.length_eq]

theorem membersSize_perm
    {depth : Nat}
    {first second : List (String × Nat)}
    (hPerm : first.Perm second) :
    membersSize depth first = membersSize depth second := by
  unfold membersSize
  exact elementsSize_perm (hPerm.map _)

/- There are always the braces. -/
theorem two_le_membersSize
    (depth : Nat)
    (members : List (String × Nat)) :
    2 ≤ membersSize depth members := by
  unfold membersSize elementsSize
  omega

------------------------------------------------------------
-- Sizes of Values
------------------------------------------------------------

namespace Json

mutual

/- The compact form, for a library with this way to print a
fraction. -/
def print (fraction : Rat → String) : Json → String
| .null => "null"
| .boolean value => toString value
| .integer value => toString value
| .unsigned value => toString value
| .float value => fraction value
| .string value => quote value
| .array elements =>
    "[" ++ ",".intercalate (printList fraction elements) ++
      "]"
| .object fields =>
    "\x7b" ++ ",".intercalate (printFields fraction fields) ++
      "\x7d"

/- The texts of the elements of an array. -/
def printList
    (fraction : Rat → String) : List Json → List String
| [] => []
| js :: rest => js.print fraction :: printList fraction rest

/- The texts of the members of an object. -/
def printFields
    (fraction : Rat → String) :
    List (String × Json) → List String
| [] => []
| (key, js) :: rest =>
    (quote key ++ ":" ++ js.print fraction) ::
      printFields fraction rest

end

section Sizes

variable (fraction : Rat → String) (depth : Nat)

mutual

/- The bytes of the compact form. -/
def size : Json → Nat
| .null => 4
| .boolean value => (toString value).utf8ByteSize
| .integer value => digits value
| .unsigned value => digits value
| .float value => textSize depth (fraction value)
| .string value => stringSize depth value
| .array elements => elementsSize (sizes elements)
| .object fields => membersSize depth (fieldSizes fields)

/- The sizes of the elements of an array. -/
def sizes : List Json → List Nat
| [] => []
| js :: rest => js.size :: sizes rest

/- The members of an object with the sizes of their values. -/
def fieldSizes :
    List (String × Json) → List (String × Nat)
| [] => []
| (key, js) :: rest => (key, js.size) :: fieldSizes rest

end

theorem sizes_eq_map (elements : List Json) :
    sizes fraction depth elements =
      elements.map (size fraction depth) := by
  induction elements with
  | nil => rfl
  | cons js rest ih => rw [sizes, ih, List.map_cons]

theorem fieldSizes_eq_map (fields : JsonObject) :
    fieldSizes fraction depth fields =
      fields.map fun member =>
        (member.1, member.2.size fraction depth) := by
  induction fields with
  | nil => rfl
  | cons member rest ih =>
      rcases member with ⟨key, js⟩
      rw [fieldSizes, ih, List.map_cons]

mutual

theorem textSize_print (js : Json) :
    textSize depth (js.print fraction) =
      js.size fraction depth := by
  cases js with
  | null =>
      have hNull : textSize depth "null" = 4 :=
        textSize_of_all (by decide) depth
      exact hNull
  | boolean value =>
      cases value with
      | true =>
          have hTrue : textSize depth "true" = 4 :=
            textSize_of_all (by decide) depth
          exact hTrue
      | false =>
          have hFalse : textSize depth "false" = 5 :=
            textSize_of_all (by decide) depth
          exact hFalse
  | integer value => exact textSize_toString depth value
  | unsigned value => exact textSize_toString depth value
  | float value => rfl
  | string value => exact textSize_quote depth value
  | array elements =>
      rw [print, size,
        textSize_enclose depth
          (textSize_of_all (by decide) depth)
          (textSize_of_all (by decide) depth),
        textSize_printList elements]
  | object fields =>
      rw [print, size,
        textSize_enclose depth
          (textSize_of_all (by decide) depth)
          (textSize_of_all (by decide) depth),
        textSize_printFields fields]
      rfl

theorem textSize_printList (elements : List Json) :
    (printList fraction elements).map (textSize depth) =
      sizes fraction depth elements := by
  cases elements with
  | nil => rfl
  | cons js rest =>
      rw [printList, sizes, List.map_cons,
        textSize_print js, textSize_printList rest]

theorem textSize_printFields
    (fields : List (String × Json)) :
    (printFields fraction fields).map (textSize depth) =
      (fieldSizes fraction depth fields).map fun member =>
        stringSize depth member.1 + 1 + member.2 := by
  cases fields with
  | nil => rfl
  | cons member rest =>
      rcases member with ⟨key, js⟩
      have hColon : textSize depth ":" = 1 :=
        textSize_of_all (by decide) depth
      rw [printFields, fieldSizes, List.map_cons,
        List.map_cons, textSize_append, textSize_append,
        textSize_quote, hColon, textSize_print js,
        textSize_printFields rest]

end

theorem utf8ByteSize_print (js : Json) :
    (js.print fraction).utf8ByteSize =
      js.size fraction 0 := by
  rw [← textSize_zero, textSize_print]

end Sizes

end Json

------------------------------------------------------------
-- Members in Order
------------------------------------------------------------

namespace JsonObject

/- The keys ascend, so no key comes twice. -/
def Ascending (js : JsonObject) : Prop :=
  js.Pairwise fun first second => first.1 < second.1

theorem mem_assign
    {key : String}
    {value : Json}
    {js : JsonObject}
    {member : String × Json}
    (hMember : member ∈ assign key value js) :
    member = (key, value) ∨ member ∈ js := by
  induction js with
  | nil => exact Or.inl (List.mem_singleton.mp hMember)
  | cons first rest ih =>
      unfold assign at hMember
      split_ifs at hMember with hSame hLess
      · rcases List.mem_cons.mp hMember with hNew | hOld
        · exact Or.inl hNew
        · exact Or.inr (List.mem_cons_of_mem _ hOld)
      · rcases List.mem_cons.mp hMember with hNew | hOld
        · exact Or.inl hNew
        · exact Or.inr hOld
      · rcases List.mem_cons.mp hMember with hFirst | hLater
        · exact Or.inr (hFirst ▸ List.mem_cons_self)
        · exact
            (ih hLater).imp_right (List.mem_cons_of_mem _)

theorem Ascending.assign
    {js : JsonObject}
    (hAscending : Ascending js)
    (key : String)
    (value : Json) :
    Ascending (JsonObject.assign key value js) := by
  induction js with
  | nil => exact List.pairwise_singleton _ _
  | cons first rest ih =>
      rcases List.pairwise_cons.mp hAscending with
        ⟨hFirst, hRest⟩
      unfold JsonObject.assign
      split_ifs with hSame hLess
      · refine List.pairwise_cons.mpr ⟨?_, hRest⟩
        intro member hMember
        rw [hSame]
        exact hFirst member hMember
      · refine List.pairwise_cons.mpr ⟨?_, hAscending⟩
        intro member hMember
        rcases List.mem_cons.mp hMember with hHere | hThere
        · rw [hHere]
          exact hLess
        · exact hLess.trans (hFirst member hThere)
      · refine List.pairwise_cons.mpr ⟨?_, ih hRest⟩
        intro member hMember
        rcases mem_assign hMember with hNew | hOld
        · rw [hNew]
          exact
            lt_of_le_of_ne (not_lt.mp hLess) (Ne.symm hSame)
        · exact hFirst member hOld

/- An assignment puts the member in the place of the one with
the same key. -/
theorem assign_perm
    {js : JsonObject}
    (hAscending : Ascending js)
    (key : String)
    (value : Json) :
    (assign key value js).Perm
      ((key, value) ::
        js.filter fun member => member.1 ≠ key) := by
  induction js with
  | nil => exact List.Perm.refl _
  | cons first rest ih =>
      rcases List.pairwise_cons.mp hAscending with
        ⟨hFirst, hRest⟩
      unfold assign
      split_ifs with hSame hLess
      · rw [List.filter_cons_of_neg (by simp [hSame])]
        rw [List.filter_eq_self.mpr]
        intro member hMember
        have hLater := hFirst member hMember
        rw [← hSame] at hLater
        exact decide_eq_true hLater.ne'
      · rw [List.filter_eq_self.mpr]
        intro member hMember
        rcases List.mem_cons.mp hMember with hHere | hThere
        · rw [hHere]
          exact decide_eq_true hLess.ne'
        · have hLater := hLess.trans (hFirst member hThere)
          exact decide_eq_true hLater.ne'
      · rw [List.filter_cons_of_pos
          (by simpa using Ne.symm hSame)]
        exact
          ((ih hRest).cons first).trans
            (List.Perm.swap _ _ _)

end JsonObject

------------------------------------------------------------
-- Sizes of Objects
------------------------------------------------------------

/- The members in ascending order, and in any order the sizes
of their values. -/
structure HasSizes
    (fraction : Rat → String)
    (depth : Nat)
    (js : JsonObject)
    (members : List (String × Nat)) : Prop where
  ascending : JsonObject.Ascending js
  perm : (Json.fieldSizes fraction depth js).Perm members

variable {fraction : Rat → String} {depth : Nat}
variable {js : JsonObject} {members : List (String × Nat)}

theorem hasSizes_nil : HasSizes fraction depth [] [] where
  ascending := List.Pairwise.nil
  perm := List.Perm.nil

theorem HasSizes.size_eq
    (hSizes : HasSizes fraction depth js members) :
    (Json.object js).size fraction depth =
      membersSize depth members :=
  membersSize_perm hSizes.perm

/- The member takes the place of the one with its key. -/
theorem HasSizes.assign
    (hSizes : HasSizes fraction depth js members)
    (key : String)
    (value : Json) :
    HasSizes fraction depth (JsonObject.assign key value js)
      ((members.filter fun member => member.1 ≠ key) ++
        [(key, value.size fraction depth)]) where
  ascending := hSizes.ascending.assign key value
  perm := by
    have hAssign :=
      JsonObject.assign_perm hSizes.ascending key value
    have hMembers :=
      hSizes.perm.filter fun member => member.1 ≠ key
    rw [Json.fieldSizes_eq_map] at hMembers ⊢
    rw [List.filter_map] at hMembers
    refine (hAssign.map _).trans ?_
    rw [List.map_cons]
    exact
      (hMembers.cons _).trans
        (@List.perm_append_comm _
          [(key, value.size fraction depth)] _)

/- There was none with its key. -/
theorem HasSizes.assign_new
    (hSizes : HasSizes fraction depth js members)
    {key : String}
    (hNew : ∀ member ∈ members, member.1 ≠ key)
    (value : Json) :
    HasSizes fraction depth (JsonObject.assign key value js)
      (members ++ [(key, value.size fraction depth)]) := by
  have hAssign := hSizes.assign key value
  rw [List.filter_eq_self.mpr fun member hMember =>
    decide_eq_true (hNew member hMember)] at hAssign
  exact hAssign

------------------------------------------------------------
-- The Library
------------------------------------------------------------

/-
  The library prints compact forms, and what it parses as an
  object has its members in ascending key order.
-/
structure JsonCodec.Prints
    (codec : JsonCodec)
    (fraction : Rat → String) : Prop where
  dump_eq : ∀ js, codec.dump js = js.print fraction
  ascending :
    ∀ body fields,
      codec.parse body = some (.object fields) →
        JsonObject.Ascending fields

/- How `Json.text` prints a fraction. -/
def ratioText (value : Rat) : String :=
  toString value.num ++ "/" ++ toString value.den

namespace Json

mutual

theorem print_ratioText (js : Json) :
    js.print ratioText = js.text := by
  cases js with
  | array elements =>
      rw [print, text, printList_ratioText elements]
  | object fields =>
      rw [print, text, printFields_ratioText fields]
  | _ => rfl

theorem printList_ratioText (elements : List Json) :
    printList ratioText elements = textList elements := by
  cases elements with
  | nil => rfl
  | cons js rest =>
      rw [printList, textList, print_ratioText js,
        printList_ratioText rest]

theorem printFields_ratioText
    (fields : List (String × Json)) :
    printFields ratioText fields = textFields fields := by
  cases fields with
  | nil => rfl
  | cons member rest =>
      rcases member with ⟨key, js⟩
      rw [printFields, textFields, print_ratioText js,
        printFields_ratioText rest]

end

theorem keys_normalizeFields (fields : JsonObject) :
    (normalizeFields fields).map Prod.fst =
      fields.map Prod.fst := by
  induction fields with
  | nil => rfl
  | cons member rest ih =>
      rcases member with ⟨key, js⟩
      rw [normalizeFields, List.map_cons, ih, List.map_cons]

theorem normalize_eq_object
    {js : Json}
    {fields : JsonObject}
    (hObject : js.normalize = .object fields) :
    ∃ members,
      js = .object members ∧
        normalizeFields members = fields := by
  cases js with
  | object members =>
      exact ⟨members, rfl, Json.object.inj hObject⟩
  | integer value =>
      rw [normalize] at hObject
      split at hObject <;> cases hObject
  | _ => cases hObject

end Json

theorem JsonObject.ascending_iff_keys (js : JsonObject) :
    Ascending js ↔
      (js.map Prod.fst).Pairwise fun a b => a < b :=
  List.pairwise_map.symm

/- A codec for given values prints compact forms. -/
theorem JsonCodec.prints_ofTable
    {known : List Json}
    (hAscending :
      ∀ fields,
        Json.object fields ∈ known →
          JsonObject.Ascending fields) :
    (ofTable known).Prints ratioText where
  dump_eq := fun js => (Json.print_ratioText js).symm
  ascending := by
    intro body fields hParse
    rcases Option.map_eq_some_iff.mp hParse with
      ⟨js, hFound, hNormal⟩
    rcases Json.normalize_eq_object hNormal with
      ⟨members, hObject, hSame⟩
    have hKnown := List.mem_of_find?_eq_some hFound
    rw [hObject] at hKnown
    have hMembers := hAscending members hKnown
    rw [JsonObject.ascending_iff_keys] at hMembers ⊢
    rw [← hSame, Json.keys_normalizeFields]
    exact hMembers

end ClusterChat
