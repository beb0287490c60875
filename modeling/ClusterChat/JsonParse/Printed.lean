import ClusterChat.JsonParse.Lexer
import ClusterChat.JsonSize

/-
  The lexer reads the text of a value back, token by token.

  A number ends where no digit, point, or exponent follows,
  and behind a printed number there is none.

  Main declarations:
    * `Json.WellFormed` and `Json.NoFraction`
    * `Json.tokens`
    * `Lexer.scanString_quoted`
    * `Lexer.scan_digits`
    * `Json.reads_text`
-/

------------------------------------------------------------
-- Values of the Library
------------------------------------------------------------

namespace ClusterChat

namespace Json

mutual

/- The integers fit their types, and the members of every
object are in ascending order. -/
def WellFormed : Json → Prop
| .integer value => -2 ^ 63 ≤ value ∧ value < 2 ^ 63
| .unsigned value => value < 2 ^ 64
| .array elements => WellFormedList elements
| .object fields =>
    JsonObject.Ascending fields ∧ WellFormedFields fields
| _ => True

def WellFormedList : List Json → Prop
| [] => True
| js :: rest => js.WellFormed ∧ WellFormedList rest

def WellFormedFields : List (String × Json) → Prop
| [] => True
| (_, js) :: rest => js.WellFormed ∧ WellFormedFields rest

end

mutual

/- No number is a fraction. -/
def NoFraction : Json → Prop
| .float _ => False
| .array elements => NoFractionList elements
| .object fields => NoFractionFields fields
| _ => True

def NoFractionList : List Json → Prop
| [] => True
| js :: rest => js.NoFraction ∧ NoFractionList rest

def NoFractionFields : List (String × Json) → Prop
| [] => True
| (_, js) :: rest => js.NoFraction ∧ NoFractionFields rest

end

mutual

/- The tokens of the text of a value without fractions. -/
def tokens : Json → List Token
| .null => [.literalNull]
| .boolean true => [.literalTrue]
| .boolean false => [.literalFalse]
| .integer value =>
    if 0 ≤ value then
      [.valueUnsigned value.toNat]
    else
      [.valueInteger value]
| .unsigned value => [.valueUnsigned value]
| .float _ => []
| .string value => [.valueString value]
| .array elements =>
    .beginArray ::
      ((tokensList elements).tail ++ [.endArray])
| .object fields =>
    .beginObject ::
      ((tokensFields fields).tail ++ [.endObject])

/- The tokens of the elements, a comma before each. -/
def tokensList : List Json → List Token
| [] => []
| js :: rest =>
    .valueSeparator :: (js.tokens ++ tokensList rest)

/- The tokens of the members, a comma before each. -/
def tokensFields : List (String × Json) → List Token
| [] => []
| (key, js) :: rest =>
    .valueSeparator :: .valueString key :: .nameSeparator ::
      (js.tokens ++ tokensFields rest)

end

end Json

namespace Lexer

------------------------------------------------------------
-- Strings
------------------------------------------------------------

theorem scanString_plain
    {c : Char}
    (hQuote : c ≠ '\x22')
    (hBackslash : c ≠ '\x5c')
    (hPrinted : ¬ c.toNat < 0x20)
    (rest : List Char) :
    scanString (c :: rest) = add c (scanString rest) := by
  rw [scanString.eq_def]
  dsimp only
  rw [if_neg hQuote, if_neg hBackslash, if_neg hPrinted]

theorem scanString_escaped
    {e value : Char}
    (hEscape : e ≠ 'u')
    (hValue : escaped e = some value)
    (rest : List Char) :
    scanString ('\x5c' :: e :: rest) =
      add value (scanString rest) := by
  rw [scanString.eq_def]
  dsimp only
  rw [if_neg (by decide), if_pos rfl, if_neg hEscape, hValue]

theorem scanString_unicode
    {c1 c2 c3 c4 : Char}
    {code : Nat}
    (hCode : getCodepoint c1 c2 c3 c4 = some code)
    (hBasic : code < 0xD800)
    (rest : List Char) :
    scanString ('\x5c' :: 'u' :: c1 :: c2 :: c3 :: c4 :: rest) =
      add (Char.ofNat code) (scanString rest) := by
  have hHigh : ¬ (0xD800 ≤ code ∧ code ≤ 0xDBFF) := by omega
  have hLow : ¬ (0xDC00 ≤ code ∧ code ≤ 0xDFFF) := by omega
  rw [scanString]
  simp only [hCode, if_neg hHigh, if_neg hLow]
  rfl

/- The digits of a control character are read back. -/
theorem getCodepoint_control :
    ∀ code < 32,
      getCodepoint '0' '0'
          (Nat.digitChar (code / 16 % 16))
          (Nat.digitChar (code % 16)) =
        some code := by
  decide

/- An escape stands for its character. -/
theorem scanString_escapeChar
    (c : Char)
    (rest : List Char) :
    scanString ((Json.escapeChar c).toList ++ rest) =
      add c (scanString rest) := by
  have hSame : Char.ofNat c.toNat = c := Char.ofNat_toNat c
  unfold Json.escapeChar
  split
  case h_8 hQuote hBackslash =>
      split
      · rename_i hControl
        have hCode := getCodepoint_control c.toNat hControl
        have hRead :=
          scanString_unicode hCode (by omega) rest
        rw [hSame] at hRead
        rw [String.toList_append, String.toList_append,
          Json.hexDigit, Json.hexDigit,
          String.toList_singleton, String.toList_singleton]
        exact hRead
      · rename_i hPrinted
        rw [String.toList_singleton]
        refine scanString_plain ?_ ?_ hPrinted rest
        · rintro rfl
          exact hQuote rfl
        · rintro rfl
          exact hBackslash rfl
  all_goals
    rename_i hCode
    rw [← hSame, hCode]
    exact scanString_escaped (by decide) (by decide) rest

theorem scanString_escapes
    (value rest : List Char) :
    scanString
        (value.flatMap (fun c => (Json.escapeChar c).toList) ++
          '\x22' :: rest) =
      some (value, rest) := by
  induction value with
  | nil =>
      rw [List.flatMap_nil, List.nil_append,
        scanString.eq_def]
      exact if_pos rfl
  | cons c value ih =>
      rw [List.flatMap_cons, List.append_assoc,
        scanString_escapeChar, ih]
      rfl

theorem toList_quote (value : String) :
    (Json.quote value).toList =
      '\x22' ::
        (value.toList.flatMap
            (fun c => (Json.escapeChar c).toList) ++
          ['\x22']) := by
  unfold Json.quote
  rw [String.toList_append, String.toList_append,
    String.toList_join, List.flatMap_map]
  rfl

variable (strtod : String → Option Rat)

theorem scan_quote
    (value : String)
    (rest : List Char) :
    scan strtod ((Json.quote value).toList ++ rest) =
      (.valueString value, rest) := by
  have hString := scanString_escapes value.toList rest
  rw [toList_quote, List.cons_append, List.append_assoc]
  change scanAt strtod '\x22' _ = _
  unfold scanAt
  simp only [List.singleton_append, hString]
  rw [String.ofList_toList]
  rfl

------------------------------------------------------------
-- Numbers
------------------------------------------------------------

/- No number goes on with these characters. -/
def EndsNumber (rest : List Char) : Prop :=
  NumberState.next .any1 rest.head? = .done

theorem next_zero_of_endsNumber
    {rest : List Char}
    (hRest : EndsNumber rest) :
    NumberState.next .zero rest.head? = .done := by
  unfold EndsNumber at hRest
  dsimp only [NumberState.next] at hRest ⊢
  by_cases hDigit : isDigit rest.head? = true
  · rw [if_pos hDigit] at hRest
    cases hRest
  · rw [if_neg hDigit] at hRest
    exact hRest

theorem scanNumberFrom_done
    {state : NumberState}
    {rest : List Char}
    (hRest : state.next rest.head? = .done)
    (type : NumberType) :
    scanNumberFrom state type rest =
      some ([], state.type type, rest) := by
  cases rest with
  | nil =>
      rw [scanNumberFrom]
      rw [List.head?_nil] at hRest
      rw [hRest]
  | cons c rest =>
      rw [scanNumberFrom]
      rw [List.head?_cons] at hRest
      rw [hRest]

theorem scanNumberFrom_digits
    {digits rest : List Char}
    (hDigits : ∀ c ∈ digits, c.isDigit = true)
    (hRest : EndsNumber rest)
    (type : NumberType) :
    scanNumberFrom .any1 type (digits ++ rest) =
      some (digits, type, rest) := by
  induction digits with
  | nil => exact scanNumberFrom_done hRest type
  | cons c digits ih =>
      have hNext :
          NumberState.next .any1 (some c) = .goto .any1 :=
        if_pos (hDigits c List.mem_cons_self)
      have hOthers :=
        ih fun d hMember =>
          hDigits d (List.mem_cons_of_mem _ hMember)
      rw [List.cons_append, scanNumberFrom, hNext]
      dsimp only [NumberState.type]
      rw [hOthers]
      rfl

/- Only the number zero starts with a zero. -/
theorem head?_toDigits
    {value : Nat}
    (hValue : 0 < value) :
    (Nat.toDigits 10 value).head? ≠ some '0' := by
  induction value using Nat.strongRecOn with
  | ind value ih =>
      by_cases hSmall : value < 10
      · rw [Nat.toDigits_of_lt_base hSmall]
        have hDigits :
            ∀ digit < 10,
              0 < digit →
                [Nat.digitChar digit].head? ≠ some '0' := by
          decide
        exact hDigits value hSmall hValue
      · have hFront :=
          ih (value / 10) (by omega) (by omega)
        rw [Nat.toDigits_of_base_le (by decide) (by omega),
          List.head?_append_of_ne_nil _ Nat.toDigits_ne_nil]
        exact hFront

/- The digits of a number, with the label that the first one
leads to. -/
theorem scanNumberFrom_toDigits
    (value : Nat)
    {rest : List Char}
    (hRest : EndsNumber rest)
    (type : NumberType) :
    ∃ first others,
      Nat.toDigits 10 value = first :: others ∧
        first.isDigit = true ∧
          scanNumberFrom
              (if first = '0' then .zero else .any1) type
              (others ++ rest) =
            some (others, type, rest) := by
  by_cases hZero : value = 0
  · refine ⟨'0', [], ?_, rfl, ?_⟩
    · rw [hZero]
      exact Nat.toDigits_zero 10
    · rw [if_pos rfl]
      exact
        scanNumberFrom_done (next_zero_of_endsNumber hRest)
          type
  · have hHead := head?_toDigits (Nat.pos_of_ne_zero hZero)
    have hDigits :
        ∀ c ∈ Nat.toDigits 10 value, c.isDigit = true :=
      fun c hMember =>
        Nat.isDigit_of_mem_toDigits (by decide) (by decide)
          hMember
    rcases List.exists_cons_of_ne_nil
      (Nat.toDigits_ne_nil (n := value) (b := 10)) with
      ⟨first, others, hAll⟩
    rw [hAll] at hHead hDigits
    refine
      ⟨first, others, hAll, hDigits first List.mem_cons_self,
        ?_⟩
    rw [if_neg (by simpa using hHead)]
    exact
      scanNumberFrom_digits
        (fun c hMember =>
          hDigits c (List.mem_cons_of_mem _ hMember))
        hRest type

theorem scan_digit
    {c : Char}
    (hDigit : c.isDigit = true)
    (rest : List Char) :
    scan strtod (c :: rest) = scanNumber strtod c rest := by
  have hOther :
      ∀ other : Char, other.isDigit = false → c ≠ other := by
    rintro other hOther rfl
    rw [hDigit] at hOther
    cases hOther
  have hSpace : isSpace c = false := by
    simp [isSpace, hOther ' ' (by decide),
      hOther '\t' (by decide), hOther '\n' (by decide),
      hOther '\x0d' (by decide)]
  unfold scan
  rw [List.dropWhile_cons_of_neg (by simp [hSpace])]
  dsimp only
  unfold scanAt
  rw [if_neg (hOther _ (by decide)),
    if_neg (hOther _ (by decide)),
    if_neg (hOther _ (by decide)),
    if_neg (hOther _ (by decide)),
    if_neg (hOther _ (by decide)),
    if_neg (hOther _ (by decide)),
    if_neg (hOther _ (by decide)),
    if_neg (hOther _ (by decide)),
    if_neg (hOther _ (by decide)),
    if_neg (hOther _ (by decide)), if_pos (Or.inr hDigit)]

/- A number without a sign. -/
theorem scan_repr
    {value : Nat}
    {rest : List Char}
    (hValue : value < 2 ^ 64)
    (hRest : EndsNumber rest) :
    scan strtod (value.repr.toList ++ rest) =
      (.valueUnsigned value, rest) := by
  rcases scanNumberFrom_toDigits value hRest .unsigned with
    ⟨first, others, hAll, hDigit, hOthers⟩
  have hMinus : first ≠ '-' := by
    rintro rfl
    cases hDigit
  have hNumber : Nat.ofDigitChars 10 (first :: others) 0 =
      value := by
    rw [← hAll]
    exact Nat.ofDigitChars_ten_toDigits
  rw [Nat.toList_repr, hAll, List.cons_append,
    scan_digit strtod hDigit]
  dsimp only [scanNumber]
  rw [if_neg hMinus, hOthers]
  dsimp only [numberToken]
  rw [hNumber, if_pos hValue]

/- A number behind a sign. -/
theorem scan_minus
    {value : Nat}
    {rest : List Char}
    (hValue : value ≤ 2 ^ 63)
    (hRest : EndsNumber rest) :
    scan strtod ('-' :: (value.repr.toList ++ rest)) =
      (.valueInteger (-value), rest) := by
  rcases scanNumberFrom_toDigits value hRest .integer with
    ⟨first, others, hAll, hDigit, hOthers⟩
  have hNumber : Nat.ofDigitChars 10 (first :: others) 0 =
      value := by
    rw [← hAll]
    exact Nat.ofDigitChars_ten_toDigits
  have hNext :
      NumberState.next .minus (some first) =
        .goto (if first = '0' then .zero else .any1) := by
    by_cases hZero : first = '0'
    · rw [hZero]
      rfl
    · rw [if_neg hZero]
      dsimp only [NumberState.next]
      rw [if_neg (by simpa using hZero)]
      exact if_pos hDigit
  have hMinus :
      scanNumberFrom .minus .unsigned
          (first :: (others ++ rest)) =
        some (first :: others, .integer, rest) := by
    rw [scanNumberFrom, hNext]
    dsimp only [NumberState.type]
    rw [hOthers]
    rfl
  change scanNumber strtod '-' _ = _
  rw [Nat.toList_repr, hAll, List.cons_append]
  dsimp only [scanNumber]
  rw [if_pos rfl, hMinus]
  dsimp only [numberToken]
  rw [List.drop_one, List.tail_cons, hNumber, if_pos hValue]

------------------------------------------------------------
-- Commas
------------------------------------------------------------

/- The texts with a comma before each. -/
def commaTexts (texts : List String) : List Char :=
  texts.flatMap fun text => ',' :: text.toList

theorem toList_intercalate (texts : List String) :
    (",".intercalate texts).toList =
      (commaTexts texts).tail := by
  induction texts with
  | nil => rfl
  | cons text texts ih =>
      cases texts with
      | nil =>
          rw [String.intercalate_singleton]
          exact (List.append_nil _).symm
      | cons next texts =>
          rw [String.intercalate_cons_of_ne_nil (by simp),
            String.toList_append, String.toList_append, ih,
            List.append_assoc]
          rfl

theorem endsNumber_commaTexts
    (texts : List String)
    {rest : List Char}
    (hRest : EndsNumber rest) :
    EndsNumber (commaTexts texts ++ rest) := by
  cases texts with
  | nil => exact hRest
  | cons text texts => rfl

/- Without the first comma there is one token less. -/
theorem reads_tail
    {texts : List String}
    {tokens : List Token}
    {rest : List Char}
    (hNil : texts = [] ↔ tokens = [])
    (hReads :
      (scanner strtod).Reads (commaTexts texts ++ rest) tokens
        rest) :
    (scanner strtod).Reads ((commaTexts texts).tail ++ rest)
      tokens.tail rest := by
  cases texts with
  | nil =>
      rw [hNil.mp rfl]
      exact Scanner.Reads.nil rest
  | cons text texts =>
      cases tokens with
      | nil => cases hNil.mpr rfl
      | cons token tokens =>
          cases hReads with
          | cons hFirst _ hOthers =>
              cases hFirst
              exact hOthers

end Lexer

------------------------------------------------------------
-- Texts
------------------------------------------------------------

namespace Json

open Lexer

variable (strtod : String → Option Rat)

theorem reads_int
    {value : Int}
    {rest : List Char}
    (hWellFormed : WellFormed (.integer value))
    (hRest : EndsNumber rest) :
    (scanner strtod).Reads ((toString value).toList ++ rest)
      (tokens (.integer value)) rest := by
  rcases hWellFormed with ⟨hLow, hHigh⟩
  cases value with
  | ofNat value =>
      have hValue : value < 2 ^ 64 := by
        rw [Int.ofNat_eq_natCast] at hHigh
        omega
      exact
        Scanner.reads_one (scan_repr strtod hValue hRest) rfl
  | negSucc value =>
      have hValue : value + 1 ≤ 2 ^ 63 := by omega
      have hText :
          (toString (Int.negSucc value)).toList =
            '-' :: (value + 1).repr.toList := by
        change ("-" ++ (value + 1).repr).toList = _
        rw [String.toList_append]
        rfl
      have hScan := scan_minus strtod hValue hRest
      rw [hText]
      exact Scanner.reads_one hScan rfl

theorem textList_eq_nil_iff (elements : List Json) :
    textList elements = [] ↔ tokensList elements = [] := by
  cases elements <;> simp [textList, tokensList]

theorem textFields_eq_nil_iff
    (fields : List (String × Json)) :
    textFields fields = [] ↔ tokensFields fields = [] := by
  cases fields <;> simp [textFields, tokensFields]

mutual

/- The text of a value in front of anything that does not go
on with a number. -/
theorem reads_text
    (js : Json)
    (hWellFormed : js.WellFormed)
    (hWhole : js.NoFraction)
    {rest : List Char}
    (hRest : EndsNumber rest) :
    (scanner strtod).Reads (js.text.toList ++ rest) js.tokens
      rest := by
  cases js with
  | null => exact Scanner.reads_one rfl rfl
  | boolean value =>
      cases value with
      | true => exact Scanner.reads_one rfl rfl
      | false => exact Scanner.reads_one rfl rfl
  | integer value => exact reads_int strtod hWellFormed hRest
  | unsigned value =>
      exact
        Scanner.reads_one (scan_repr strtod hWellFormed hRest)
          rfl
  | float value => exact hWhole.elim
  | string value =>
      exact Scanner.reads_one (scan_quote strtod value rest) rfl
  | array elements =>
      have hClose : EndsNumber (']' :: rest) := rfl
      have hAll :=
        reads_textList elements hWellFormed hWhole hClose
      have hInner :=
        reads_tail strtod (textList_eq_nil_iff elements) hAll
      have hLast :
          (scanner strtod).Reads (']' :: rest) [.endArray]
            rest := Scanner.reads_one rfl rfl
      rw [text, String.toList_append, String.toList_append,
        toList_intercalate, List.append_assoc,
        List.append_assoc]
      exact Scanner.Reads.cons rfl rfl (hInner.append hLast)
  | object fields =>
      have hClose : EndsNumber ('\x7d' :: rest) := rfl
      have hAll :=
        reads_textFields fields hWellFormed.2 hWhole hClose
      have hInner :=
        reads_tail strtod (textFields_eq_nil_iff fields) hAll
      have hLast :
          (scanner strtod).Reads ('\x7d' :: rest)
            [.endObject] rest := Scanner.reads_one rfl rfl
      rw [text, String.toList_append, String.toList_append,
        toList_intercalate, List.append_assoc,
        List.append_assoc]
      exact Scanner.Reads.cons rfl rfl (hInner.append hLast)

theorem reads_textList
    (elements : List Json)
    (hWellFormed : WellFormedList elements)
    (hWhole : NoFractionList elements)
    {rest : List Char}
    (hRest : EndsNumber rest) :
    (scanner strtod).Reads
      (commaTexts (textList elements) ++ rest)
      (tokensList elements) rest := by
  cases elements with
  | nil => exact Scanner.Reads.nil rest
  | cons js elements =>
      have hOthers :=
        reads_textList elements hWellFormed.2 hWhole.2 hRest
      have hFirst :=
        reads_text js hWellFormed.1 hWhole.1
          (endsNumber_commaTexts (textList elements) hRest)
      have hBoth := hFirst.append hOthers
      rw [← List.append_assoc] at hBoth
      exact Scanner.Reads.cons rfl rfl hBoth

theorem reads_textFields
    (fields : List (String × Json))
    (hWellFormed : WellFormedFields fields)
    (hWhole : NoFractionFields fields)
    {rest : List Char}
    (hRest : EndsNumber rest) :
    (scanner strtod).Reads
      (commaTexts (textFields fields) ++ rest)
      (tokensFields fields) rest := by
  cases fields with
  | nil => exact Scanner.Reads.nil rest
  | cons member fields =>
      rcases member with ⟨key, js⟩
      have hOthers :=
        reads_textFields fields hWellFormed.2 hWhole.2 hRest
      have hValue :=
        reads_text js hWellFormed.1 hWhole.1
          (endsNumber_commaTexts (textFields fields) hRest)
      have hColon :
          (scanner strtod).Reads
            (':' :: (js.text.toList ++
              (commaTexts (textFields fields) ++ rest)))
            (.nameSeparator ::
              (js.tokens ++ tokensFields fields))
            rest :=
        Scanner.Reads.cons rfl rfl (hValue.append hOthers)
      have hKey := scan_quote strtod key
        (':' :: (js.text.toList ++
          (commaTexts (textFields fields) ++ rest)))
      have hMember := Scanner.Reads.cons hKey rfl hColon
      have hText :
          (quote key ++ ":" ++ js.text).toList ++
              commaTexts (textFields fields) ++ rest =
            (quote key).toList ++ ':' ::
              (js.text.toList ++
                (commaTexts (textFields fields) ++ rest)) := by
        rw [String.toList_append, String.toList_append]
        simp
      rw [← hText] at hMember
      exact Scanner.Reads.cons rfl rfl hMember

end

end Json

end ClusterChat
