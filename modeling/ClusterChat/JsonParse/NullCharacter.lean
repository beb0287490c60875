import ClusterChat.JsonParse.Parser

/-
  The library reads a text up to its first null character.

  Behind a value this character ends the input, and inside a
  token it is an error, as the end of the input is.

  Main declarations:
    * `Lexer.untilNull`
    * `Lexer.stringUsed_of_scanString`
    * `Lexer.tokens_untilNull`
    * `Json.parse_untilNull`
-/

------------------------------------------------------------
-- Strings, Numbers, and Literals
------------------------------------------------------------

namespace ClusterChat

namespace Lexer

/- The input in front of its first null character. -/
def untilNull (input : List Char) : List Char :=
  input.takeWhile fun c => decide (c ≠ '\x00')

theorem untilNull_cons
    {c : Char}
    (hChar : c ≠ '\x00')
    (rest : List Char) :
    untilNull (c :: rest) = c :: untilNull rest :=
  List.takeWhile_cons_of_pos (decide_eq_true hChar)

theorem untilNull_null (rest : List Char) :
    untilNull ('\x00' :: rest) = [] :=
  List.takeWhile_cons_of_neg (by simp)

theorem untilNull_append
    {front : List Char}
    (hFront : '\x00' ∉ front)
    (rest : List Char) :
    untilNull (front ++ rest) = front ++ untilNull rest := by
  apply List.takeWhile_append_of_pos
  intro c hChar
  apply decide_eq_true
  intro hNull
  rw [hNull] at hChar
  exact hFront hChar

/- Digits are no null characters. -/
theorem not_null_of_getCodepoint
    {c1 c2 c3 c4 : Char}
    {codepoint : Nat}
    (hCodepoint :
      getCodepoint c1 c2 c3 c4 = some codepoint) :
    c1 ≠ '\x00' ∧ c2 ≠ '\x00' ∧ c3 ≠ '\x00' ∧
      c4 ≠ '\x00' := by
  unfold getCodepoint at hCodepoint
  refine ⟨?_, ?_, ?_, ?_⟩
  all_goals
    intro hNull
    rw [hNull] at hCodepoint
    simp [hexValue] at hCodepoint

/- What a string has used up, its closing quote included:
nothing behind it matters, and none of it is null. -/
def StringUsed
    (input : List Char)
    (result : List Char × List Char) : Prop :=
  ∃ used,
    input = used ++ result.2 ∧
      '\x00' ∉ used ∧
        ∀ other,
          scanString (used ++ other) = some (result.1, other)

/- One more character, which is written as `front`. -/
theorem stringUsed_add
    {front rest : List Char}
    {c : Char}
    {result : List Char × List Char}
    (hFront : '\x00' ∉ front)
    (hScan :
      ∀ other,
        scanString (front ++ other) = add c (scanString other))
    (hOthers :
      ∀ {others}, scanString rest = some others →
        StringUsed rest others)
    (hResult : add c (scanString rest) = some result) :
    StringUsed (front ++ rest) result := by
  rcases Option.map_eq_some_iff.mp hResult with
    ⟨others, hInner, hSame⟩
  rcases hOthers hInner with ⟨used, hRest, hUsed, hAll⟩
  rw [← hSame]
  refine ⟨front ++ used, ?_, ?_, ?_⟩
  · rw [hRest, List.append_assoc]
  · rw [List.mem_append, not_or]
    exact ⟨hFront, hUsed⟩
  · intro other
    rw [List.append_assoc, hScan, hAll]
    rfl

theorem stringUsed_of_scanString
    {input : List Char}
    {result : List Char × List Char}
    (hResult : scanString input = some result) :
    StringUsed input result := by
  fun_induction scanString input generalizing result
  case case2 rest =>
      cases hResult
      refine ⟨['\x22'], rfl, by decide, fun other => ?_⟩
      rw [scanString.eq_def]
      simp
  case case6 c1 c2 c3 c4 first hFirst hHigh s u d1 d2 d3 d4
      rest hMark second hSecond hLow hQuote ih =>
      have hDigits := not_null_of_getCodepoint hFirst
      have hOthers := not_null_of_getCodepoint hSecond
      refine
        @stringUsed_add
          ['\\', 'u', c1, c2, c3, c4, s, u, d1, d2, d3, d4]
          rest _ result ?_ ?_ ih hResult
      · rw [hMark.1, hMark.2]
        simp [hDigits, hOthers, Ne.symm]
      · intro other
        rw [scanString.eq_def]
        simp [hFirst, hHigh, hMark, hSecond, hLow]
  case case11 c1 c2 c3 c4 rest codepoint hCodepoint hHigh hLow
      hQuote ih =>
      have hDigits := not_null_of_getCodepoint hCodepoint
      refine
        @stringUsed_add ['\\', 'u', c1, c2, c3, c4] rest _
          result ?_ ?_ ih hResult
      · simp [hDigits, Ne.symm]
      · intro other
        rw [scanString.eq_def]
        simp [hCodepoint, hHigh, hLow]
  case case14 e rest hMark value hEscaped hQuote ih =>
      refine
        @stringUsed_add ['\\', e] rest _ result ?_ ?_ ih
          hResult
      · simp only [List.mem_cons, List.not_mem_nil, or_false,
          not_or]
        refine ⟨by decide, ?_⟩
        intro hNull
        rw [← hNull] at hEscaped
        cases hEscaped
      · intro other
        rw [scanString.eq_def]
        simp [hMark, hEscaped]
  case case16 c rest hQuote hMark hPlain ih =>
      refine
        @stringUsed_add [c] rest _ result ?_ ?_ ih hResult
      · rw [List.mem_singleton]
        intro hNull
        rw [← hNull] at hPlain
        exact hPlain (by decide)
      · intro other
        rw [scanString.eq_def]
        simp [hQuote, hMark, hPlain]
  all_goals cases hResult

/- A string is closed in front of the first null character,
or it is not closed. -/
theorem scanString_untilNull (input : List Char) :
    scanString (untilNull input) =
      (scanString input).map fun result =>
        (result.1, untilNull result.2) := by
  cases hResult : scanString input with
  | some result =>
      rcases stringUsed_of_scanString hResult with
        ⟨used, hInput, hUsed, hAll⟩
      rw [hInput, untilNull_append hUsed, hAll]
      rfl
  | none =>
      rw [Option.map_none, Option.eq_none_iff_forall_ne_some]
      intro result hCut
      rcases stringUsed_of_scanString hCut with
        ⟨used, hInput, hUsed, hAll⟩
      have hWhole :
          used ++
              (result.2 ++
                input.dropWhile fun c =>
                  decide (c ≠ '\x00')) =
            input := by
        rw [← List.append_assoc, ← hInput]
        exact List.takeWhile_append_dropWhile
      rw [← hWhole, hAll] at hResult
      cases hResult

/- A null character ends a number like the end of input. -/
theorem next_null (state : NumberState) :
    state.next (some '\x00') = state.next none := by
  cases state <;> rfl

/- The end of input does. -/
theorem next_none_ne_goto
    (state next : NumberState) :
    state.next none ≠ .goto next := by
  cases state <;> (intro hGoto; cases hGoto)

theorem scanNumberFrom_untilNull
    (state : NumberState)
    (type : NumberType)
    (input : List Char) :
    scanNumberFrom state type (untilNull input) =
      (scanNumberFrom state type input).map fun result =>
        (result.1, result.2.1, untilNull result.2.2) := by
  induction input generalizing state type with
  | nil =>
      unfold untilNull scanNumberFrom
      dsimp only [List.takeWhile_nil]
      split <;> rfl
  | cons c rest ih =>
      by_cases hNull : c = '\x00'
      · rw [hNull, untilNull_null]
        unfold scanNumberFrom
        rw [next_null]
        cases hNext : state.next none with
        | goto next =>
            exact absurd hNext (next_none_ne_goto state next)
        | done =>
            dsimp only [Option.map_some]
            rw [untilNull_null]
        | error => rfl
      · rw [untilNull_cons hNull]
        unfold scanNumberFrom
        cases hNext : state.next (some c) with
        | goto next =>
            dsimp only
            rw [ih, Option.map_map, Option.map_map]
            rfl
        | done =>
            dsimp only [Option.map_some]
            rw [untilNull_cons hNull]
        | error => rfl

theorem scanNumber_untilNull
    (strtod : String → Option Rat)
    (first : Char)
    (rest : List Char) :
    scanNumber strtod first (untilNull rest) =
      ((scanNumber strtod first rest).1,
        untilNull (scanNumber strtod first rest).2) := by
  unfold scanNumber
  dsimp only
  rw [scanNumberFrom_untilNull]
  split
  · rename_i hCut
    rcases Option.map_eq_some_iff.mp hCut with
      ⟨result, hResult, hSame⟩
    rw [hResult]
    cases hSame
    rfl
  · rename_i hCut
    rw [Option.map_eq_none_iff.mp hCut]
    rfl

theorem scanLiteral_untilNull
    {literal : String}
    (hLiteral : '\x00' ∉ literal.toList)
    (token : Token)
    (rest : List Char) :
    scanLiteral literal token (untilNull rest) =
      ((scanLiteral literal token rest).1,
        untilNull (scanLiteral literal token rest).2) := by
  have hLength : literal.length = literal.toList.length :=
    rfl
  unfold scanLiteral
  by_cases hPrefix : literal.toList.isPrefixOf rest = true
  · rcases List.isPrefixOf_iff_prefix.mp hPrefix with
      ⟨behind, hRest⟩
    rw [← hRest, untilNull_append hLiteral]
    simp [hLength]
  · have hCut :
        literal.toList.isPrefixOf (untilNull rest) ≠ true := by
      intro hCut
      apply hPrefix
      rw [List.isPrefixOf_iff_prefix] at hCut ⊢
      exact hCut.trans (List.takeWhile_prefix _)
    rw [if_neg hPrefix, if_neg hCut]
    rfl

------------------------------------------------------------
-- Tokens
------------------------------------------------------------

/- The same branch of two scanners. -/
theorem ite_untilNull
    {condition : Prop}
    [Decidable condition]
    {first second whole other : Token × List Char}
    (hFirst :
      condition → first = (whole.1, untilNull whole.2))
    (hSecond :
      ¬ condition → second = (other.1, untilNull other.2)) :
    (if condition then first else second) =
      ((if condition then whole else other).1,
        untilNull (if condition then whole else other).2) := by
  by_cases hCondition : condition
  · rw [if_pos hCondition, if_pos hCondition]
    exact hFirst hCondition
  · rw [if_neg hCondition, if_neg hCondition]
    exact hSecond hCondition

theorem scanAt_untilNull
    (strtod : String → Option Rat)
    {c : Char}
    (hChar : c ≠ '\x00')
    (rest : List Char) :
    scanAt strtod c (untilNull rest) =
      ((scanAt strtod c rest).1,
        untilNull (scanAt strtod c rest).2) := by
  have hLiteral :=
    fun literal hNull token =>
      @scanLiteral_untilNull literal hNull token rest
  unfold scanAt
  refine ite_untilNull (fun _ => rfl) fun _ => ?_
  refine ite_untilNull (fun _ => rfl) fun _ => ?_
  refine ite_untilNull (fun _ => rfl) fun _ => ?_
  refine ite_untilNull (fun _ => rfl) fun _ => ?_
  refine ite_untilNull (fun _ => rfl) fun _ => ?_
  refine ite_untilNull (fun _ => rfl) fun _ => ?_
  refine
    ite_untilNull (fun _ => hLiteral "rue" (by decide) _)
      fun _ => ?_
  refine
    ite_untilNull (fun _ => hLiteral "alse" (by decide) _)
      fun _ => ?_
  refine
    ite_untilNull (fun _ => hLiteral "ull" (by decide) _)
      fun _ => ?_
  refine ite_untilNull (fun _ => ?_) fun _ => ?_
  · rw [scanString_untilNull]
    cases scanString rest <;> rfl
  refine
    ite_untilNull (fun _ => scanNumber_untilNull strtod c rest)
      fun _ => ?_
  exact
    ite_untilNull (fun hNull => absurd hNull hChar)
      fun _ => rfl

theorem dropWhile_untilNull (input : List Char) :
    (untilNull input).dropWhile isSpace =
      untilNull (input.dropWhile isSpace) := by
  induction input with
  | nil => rfl
  | cons c rest ih =>
      by_cases hNull : c = '\x00'
      · rw [hNull, untilNull_null]
        rfl
      · rw [untilNull_cons hNull]
        by_cases hSpace : isSpace c = true
        · rw [List.dropWhile_cons_of_pos hSpace,
            List.dropWhile_cons_of_pos hSpace, ih]
        · rw [List.dropWhile_cons_of_neg hSpace,
            List.dropWhile_cons_of_neg hSpace,
            untilNull_cons hNull]

/- The next token is the same, and so is what is left, unless
it is the last token. -/
theorem scan_untilNull
    (strtod : String → Option Rat)
    (input : List Char) :
    (scan strtod (untilNull input)).1 =
        (scan strtod input).1 ∧
      (isLast (scan strtod input).1 = false →
        (scan strtod (untilNull input)).2 =
          untilNull (scan strtod input).2) := by
  unfold scan
  rw [dropWhile_untilNull]
  cases input.dropWhile isSpace with
  | nil => exact ⟨rfl, fun _ => rfl⟩
  | cons c rest =>
      by_cases hNull : c = '\x00'
      · rw [hNull, untilNull_null]
        refine ⟨rfl, fun hInner => ?_⟩
        cases hInner
      · rw [untilNull_cons hNull]
        dsimp only
        rw [scanAt_untilNull strtod hNull]
        exact ⟨rfl, fun _ => rfl⟩

/- What is behind a null character makes no token. -/
theorem tokens_untilNull
    (strtod : String → Option Rat)
    (input : List Char) :
    (scanner strtod).tokens (untilNull input) =
      (scanner strtod).tokens input := by
  induction hLength : input.length using
    Nat.strong_induction_on generalizing input with
  | _ length ih =>
      have hScan := scan_untilNull strtod input
      have hFirst :
          ((scanner strtod).scan (untilNull input)).1 =
            ((scanner strtod).scan input).1 := hScan.1
      rw [(scanner strtod).tokens_eq (untilNull input),
        (scanner strtod).tokens_eq input, hFirst]
      split
      · rfl
      · rename_i hInner
        rw [Bool.not_eq_true] at hInner
        have hRest :
            ((scanner strtod).scan (untilNull input)).2 =
              untilNull ((scanner strtod).scan input).2 :=
          hScan.2 hInner
        have hShorter :=
          (scanner strtod).shortens input hInner
        rw [hRest, ih _ (hLength ▸ hShorter) _ rfl]

theorem skipBom_untilNull (input : List Char) :
    skipBom (untilNull input) =
      untilNull (skipBom input) := by
  cases input with
  | nil => rfl
  | cons c rest =>
      by_cases hNull : c = '\x00'
      · rw [hNull, untilNull_null]
        rfl
      · have hSkip :
            ∀ others,
              skipBom (c :: others) =
                if c.toNat = 0xFEFF then others
                else c :: others := fun _ => rfl
        rw [untilNull_cons hNull, hSkip, hSkip]
        split
        · rfl
        · rw [untilNull_cons hNull]

end Lexer

/- `json::parse` reads a text up to its first null character:
behind a value it ends the input, and anywhere else it is an
error as the end of the input is. -/
theorem Json.parse_untilNull
    (strtod : String → Option Rat)
    (text : String) :
    Json.parse strtod
        (String.ofList (Lexer.untilNull text.toList)) =
      Json.parse strtod text := by
  unfold Json.parse
  rw [String.toList_ofList, Lexer.skipBom_untilNull,
    Lexer.tokens_untilNull]

end ClusterChat
