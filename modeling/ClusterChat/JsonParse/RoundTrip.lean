import ClusterChat.JsonParse.Grammar
import ClusterChat.JsonParse.Printed

/-
  What the JSON library prints, it parses back to the value
  in its normal form, and what it parses is well formed.

  So a value that was accepted and has no fraction can be
  printed and parsed again without a change.

  Main declarations:
    * `Json.derives_tokens`
    * `Json.parse_text`
    * `JsonCodec.library_roundTrips`
    * `Json.wellFormed_of_parse`
    * `Json.accepted_is_stable`
-/

------------------------------------------------------------
-- The Tokens of a Text Are in the Grammar
------------------------------------------------------------

namespace ClusterChat

theorem JsonObject.assign_last
    {fields : JsonObject}
    {key : String}
    (hLast : ∀ member ∈ fields, member.1 < key)
    (value : Json) :
    assign key value fields = fields ++ [(key, value)] := by
  induction fields with
  | nil => rfl
  | cons member fields ih =>
      have hLess := hLast member List.mem_cons_self
      rw [assign, if_neg hLess.ne', if_neg hLess.asymm,
        ih fun other hOther =>
          hLast other (List.mem_cons_of_mem _ hOther)]
      rfl

namespace Json

mutual

/- The parser makes the normal form of these tokens. -/
theorem derives_tokens
    (js : Json)
    (hWellFormed : js.WellFormed)
    (hWhole : js.NoFraction) :
    Derives (.value js.normalize) js.tokens := by
  cases js with
  | null => exact .scalar rfl
  | boolean value => cases value <;> exact .scalar rfl
  | integer value =>
      unfold normalize tokens
      split
      · exact .scalar rfl
      · exact .scalar rfl
  | unsigned value => exact .scalar rfl
  | float value => exact hWhole.elim
  | string value => exact .scalar rfl
  | array elements =>
      cases elements with
      | nil => exact .emptyArray
      | cons js elements =>
          have hFirst :=
            derives_tokens js hWellFormed.1 hWhole.1
          exact
            .array
              (derives_tokensList elements hWellFormed.2
                hWhole.2 (.firstElement hFirst))
  | object fields =>
      rcases hWellFormed with ⟨hAscending, hWellFormed⟩
      cases fields with
      | nil => exact .emptyObject
      | cons member fields =>
          rcases member with ⟨key, js⟩
          have hFirst :=
            derives_tokens js hWellFormed.1 hWhole.1
          exact
            .object
              (derives_tokensFields fields hWellFormed.2
                hWhole.2 (.firstMember key hFirst)
                ((JsonObject.ascending_iff_keys _).mp
                  hAscending))

/- More elements behind the first ones. -/
theorem derives_tokensList
    (elements : List Json)
    (hWellFormed : WellFormedList elements)
    (hWhole : NoFractionList elements)
    {values : List Json}
    {front : List Token}
    (hFront : Derives (.elements values) front) :
    Derives (.elements (values ++ normalizeList elements))
      (front ++ tokensList elements) := by
  cases elements with
  | nil =>
      rw [normalizeList, tokensList, List.append_nil,
        List.append_nil]
      exact hFront
  | cons js elements =>
      have hNext :=
        derives_tokens js hWellFormed.1 hWhole.1
      have hAll :=
        derives_tokensList elements hWellFormed.2 hWhole.2
          (hFront.nextElement hNext)
      rw [List.append_assoc, List.append_assoc] at hAll
      exact hAll

/- More members behind the first ones. -/
theorem derives_tokensFields
    (fields : List (String × Json))
    (hWellFormed : WellFormedFields fields)
    (hWhole : NoFractionFields fields)
    {others : JsonObject}
    {front : List Token}
    (hFront : Derives (.members others) front)
    (hAscending :
      (others.map Prod.fst ++ fields.map Prod.fst).Pairwise
        fun a b => a < b) :
    Derives (.members (others ++ normalizeFields fields))
      (front ++ tokensFields fields) := by
  cases fields with
  | nil =>
      rw [normalizeFields, tokensFields, List.append_nil,
        List.append_nil]
      exact hFront
  | cons member fields =>
      rcases member with ⟨key, js⟩
      have hNext :=
        derives_tokens js hWellFormed.1 hWhole.1
      have hLast : ∀ other ∈ others, other.1 < key := by
        intro other hOther
        exact
          (List.pairwise_append.mp hAscending).2.2 other.1
            (List.mem_map_of_mem hOther) key
            List.mem_cons_self
      have hOthers := hFront.nextMember key hNext
      rw [JsonObject.assign_last hLast] at hOthers
      have hKeys :
          ((others ++ [(key, js.normalize)]).map Prod.fst ++
              fields.map Prod.fst).Pairwise
            fun a b => a < b := by
        rw [List.map_append, List.append_assoc]
        exact hAscending
      have hAll :=
        derives_tokensFields fields hWellFormed.2 hWhole.2
          hOthers hKeys
      rw [List.append_assoc, List.append_assoc] at hAll
      exact hAll

end

------------------------------------------------------------
-- Texts Are Parsed Back
------------------------------------------------------------

variable {strtod : String → Option Rat}

theorem exists_token (js : Json) (hWhole : js.NoFraction) :
    ∃ token others, js.tokens = token :: others := by
  cases js with
  | boolean value => cases value <;> exact ⟨_, _, rfl⟩
  | integer value =>
      unfold tokens
      split
      · exact ⟨_, _, rfl⟩
      · exact ⟨_, _, rfl⟩
  | float value => exact hWhole.elim
  | _ => exact ⟨_, _, rfl⟩

/- Where a token starts there is no byte order mark. -/
theorem skipBom_of_reads
    {input rest : List Char}
    {token : Token}
    {others : List Token}
    (hReads :
      (Lexer.scanner strtod).Reads input (token :: others)
        rest) :
    Lexer.skipBom input = input := by
  cases input with
  | nil => rfl
  | cons c input =>
      cases hReads with
      | cons hFirst hInner _ =>
          have hMark : ¬ c.toNat = 0xFEFF := by
            intro hMark
            have hSame : c = Char.ofNat 0xFEFF := by
              rw [← hMark, Char.ofNat_toNat]
            rw [hSame] at hFirst
            cases hFirst
            cases hInner
          exact if_neg hMark

theorem tokensOf_text
    (js : Json)
    (hWellFormed : js.WellFormed)
    (hWhole : js.NoFraction) :
    tokensOf strtod js.text = js.tokens ++ [.endOfInput] := by
  have hEnd : Lexer.EndsNumber [] := rfl
  have hReads :=
    reads_text strtod js hWellFormed hWhole hEnd
  rw [List.append_nil] at hReads
  rcases exists_token js hWhole with ⟨token, others, hTokens⟩
  have hMark :
      Lexer.skipBom js.text.toList = js.text.toList := by
    rw [hTokens] at hReads
    exact skipBom_of_reads hReads
  unfold tokensOf
  rw [hMark, Scanner.tokens_of_reads hReads]
  rfl

/- What is printed is parsed back. -/
theorem parse_text
    (js : Json)
    (hWellFormed : js.WellFormed)
    (hWhole : js.NoFraction) :
    parse strtod js.text = some js.normalize :=
  parse_of_derives (tokensOf_text js hWellFormed hWhole)
    (derives_tokens js hWellFormed hWhole)

end Json

/-
  Every value of the library without a fraction is parsed back
  from its text, in its normal form.
-/
theorem JsonCodec.library_roundTrips
    (strtod : String → Option Rat)
    {js : Json}
    (hWellFormed : js.WellFormed)
    (hWhole : js.NoFraction) :
    (JsonCodec.library strtod).RoundTrips js :=
  Json.parse_text js hWellFormed hWhole

/- A text with a quotation mark in a list in an object. -/
def quotedReply : Json :=
  .object
    [("errno", .integer (-1)),
      ("users", .array [.string "a\x22b", .boolean true])]

theorem quotedReply_roundTrips :
    (JsonCodec.library fun _ => none).RoundTrips
      quotedReply := by
  refine JsonCodec.library_roundTrips _ ?_ ?_
  · refine ⟨?_, ⟨by decide, by decide⟩, ?_, trivial⟩
    · unfold JsonObject.Ascending
      decide +kernel
    · exact ⟨trivial, trivial, trivial⟩
  · exact ⟨trivial, ⟨trivial, trivial, trivial⟩, trivial⟩

------------------------------------------------------------
-- What Is Parsed Is Well Formed
------------------------------------------------------------

/- The number of a token fits its type. -/
def Token.InRange : Token → Prop
| .valueUnsigned value => value < 2 ^ 64
| .valueInteger value => -2 ^ 63 ≤ value ∧ value < 2 ^ 63
| _ => True

namespace Lexer

variable (strtod : String → Option Rat)

theorem numberToken_inRange
    (buffer : List Char)
    (type : NumberType) :
    (numberToken strtod buffer type).InRange := by
  cases type with
  | unsigned =>
      dsimp only [numberToken]
      split
      · assumption
      · exact trivial
  | integer =>
      dsimp only [numberToken]
      split
      · refine ⟨?_, ?_⟩ <;> omega
      · exact trivial
  | float => exact trivial

theorem scanNumber_inRange
    (first : Char)
    (rest : List Char) :
    (scanNumber strtod first rest).1.InRange := by
  unfold scanNumber
  dsimp only
  split
  · exact numberToken_inRange strtod _ _
  · exact trivial

theorem scanLiteral_inRange
    (literal : String)
    {token : Token}
    (hToken : token.InRange)
    (rest : List Char) :
    (scanLiteral literal token rest).1.InRange := by
  unfold scanLiteral
  split
  · exact hToken
  · exact trivial

theorem scan_inRange (input : List Char) :
    (scan strtod input).1.InRange := by
  unfold scan
  split
  · exact trivial
  · rename_i c rest _
    fun_cases scanAt strtod c rest
    all_goals
      first
      | exact trivial
      | exact scanLiteral_inRange _ (by trivial) _
      | exact scanNumber_inRange strtod _ _

end Lexer

namespace Json

theorem wellFormedList_append
    {front back : List Json} :
    WellFormedList (front ++ back) ↔
      WellFormedList front ∧ WellFormedList back := by
  induction front with
  | nil => simp [WellFormedList]
  | cons js front ih =>
      simp [WellFormedList, ih, and_assoc]

theorem wellFormedFields_assign
    {fields : JsonObject}
    {js : Json}
    (hFields : WellFormedFields fields)
    (hValue : js.WellFormed)
    (key : String) :
    WellFormedFields (JsonObject.assign key js fields) := by
  induction fields with
  | nil => exact ⟨hValue, trivial⟩
  | cons member fields ih =>
      rcases member with ⟨name, value⟩
      unfold JsonObject.assign
      split
      · exact ⟨hValue, hFields.2⟩
      · split
        · exact ⟨hValue, hFields⟩
        · exact ⟨hFields.1, ih hFields.2⟩

end Json

/- What a phrase means is well formed. -/
def Phrase.WellFormed : Phrase → Prop
| .value js => js.WellFormed
| .elements values => Json.WellFormedList values
| .members fields =>
    JsonObject.Ascending fields ∧ Json.WellFormedFields fields

theorem wellFormed_of_scalar
    {token : Token}
    {js : Json}
    (hScalar : Parser.scalar token = some js)
    (hToken : token.InRange) :
    js.WellFormed := by
  cases token with
  | valueUnsigned value =>
      cases hScalar
      exact hToken
  | valueInteger value =>
      cases hScalar
      exact hToken
  | valueFloat value =>
      rcases Option.map_eq_some_iff.mp hScalar with
        ⟨_, _, hSame⟩
      rw [← hSame]
      exact trivial
  | _ =>
      cases hScalar
      try exact trivial

/- Induction on the derivation. -/
theorem Derives.wellFormed
    {phrase : Phrase}
    {front : List Token}
    (hDerives : Derives phrase front)
    (hTokens : ∀ token ∈ front, token.InRange) :
    phrase.WellFormed := by
  induction hDerives with
  | scalar hScalar =>
      exact
        wellFormed_of_scalar hScalar
          (hTokens _ List.mem_cons_self)
  | emptyArray => exact trivial
  | array _ ih =>
      have hInner := (List.forall_mem_cons.mp hTokens).2
      exact ih (List.forall_mem_append.mp hInner).1
  | emptyObject => exact ⟨List.Pairwise.nil, trivial⟩
  | object _ ih =>
      have hInner := (List.forall_mem_cons.mp hTokens).2
      exact ih (List.forall_mem_append.mp hInner).1
  | firstElement _ ih => exact ⟨ih hTokens, trivial⟩
  | nextElement _ _ ihOthers ihNext =>
      rcases List.forall_mem_append.mp hTokens with
        ⟨hFront, hBack⟩
      have hNext := (List.forall_mem_cons.mp hBack).2
      exact
        Json.wellFormedList_append.mpr
          ⟨ihOthers hFront, ihNext hNext, trivial⟩
  | firstMember key _ ih =>
      have hColon := (List.forall_mem_cons.mp hTokens).2
      have hFirst := (List.forall_mem_cons.mp hColon).2
      exact ⟨List.pairwise_singleton _ _, ih hFirst, trivial⟩
  | nextMember key _ _ ihOthers ihNext =>
      rcases List.forall_mem_append.mp hTokens with
        ⟨hFront, hBack⟩
      have hKey := (List.forall_mem_cons.mp hBack).2
      have hColon := (List.forall_mem_cons.mp hKey).2
      have hNext := (List.forall_mem_cons.mp hColon).2
      have hOthers := ihOthers hFront
      exact
        ⟨hOthers.1.assign key _,
          Json.wellFormedFields_assign hOthers.2
            (ihNext hNext) key⟩

namespace Json

variable {strtod : String → Option Rat}

theorem wellFormed_of_parse
    {body : String}
    {js : Json}
    (hParse : parse strtod body = some js) :
    js.WellFormed := by
  rcases derives_of_parse hParse with
    ⟨front, hTokens, hValue⟩
  refine hValue.wellFormed fun token hMember => ?_
  have hToken : token ∈ tokensOf strtod body := by
    rw [hTokens]
    exact List.mem_append_left _ hMember
  rcases Scanner.exists_scan_of_mem_tokens hToken with
    ⟨input, hScan⟩
  rw [← hScan]
  exact Lexer.scan_inRange strtod input

------------------------------------------------------------
-- Parsed Values Are Printed and Parsed Again
------------------------------------------------------------

mutual

/- A value and its normal form have the same text. -/
theorem text_normalize (js : Json) :
    js.normalize.text = js.text := by
  cases js with
  | integer value =>
      cases value with
      | ofNat value => rfl
      | negSucc value => rfl
  | array elements =>
      rw [normalize, text, text, textList_normalize elements]
  | object fields =>
      rw [normalize, text, text, textFields_normalize fields]
  | _ => rfl

theorem textList_normalize (elements : List Json) :
    textList (normalizeList elements) = textList elements := by
  cases elements with
  | nil => rfl
  | cons js rest =>
      rw [normalizeList, textList, textList,
        text_normalize js, textList_normalize rest]

theorem textFields_normalize
    (fields : List (String × Json)) :
    textFields (normalizeFields fields) =
      textFields fields := by
  cases fields with
  | nil => rfl
  | cons member rest =>
      rcases member with ⟨key, js⟩
      rw [normalizeFields, textFields, textFields,
        text_normalize js, textFields_normalize rest]

end

mutual

theorem noFraction_normalize
    {js : Json}
    (hWhole : js.NoFraction) :
    js.normalize.NoFraction := by
  cases js with
  | integer value =>
      unfold normalize
      split <;> exact trivial
  | array elements => exact noFractionList_normalize hWhole
  | object fields => exact noFractionFields_normalize hWhole
  | _ => exact hWhole

theorem noFractionList_normalize
    {elements : List Json}
    (hWhole : NoFractionList elements) :
    NoFractionList (normalizeList elements) := by
  cases elements with
  | nil => exact trivial
  | cons js rest =>
      exact
        ⟨noFraction_normalize hWhole.1,
          noFractionList_normalize hWhole.2⟩

theorem noFractionFields_normalize
    {fields : List (String × Json)}
    (hWhole : NoFractionFields fields) :
    NoFractionFields (normalizeFields fields) := by
  cases fields with
  | nil => exact trivial
  | cons member rest =>
      rcases member with ⟨key, js⟩
      exact
        ⟨noFraction_normalize hWhole.1,
          noFractionFields_normalize hWhole.2⟩

end

/-
  What is parsed is well formed, and when it has no fraction,
  its text is parsed to its normal form, whose text is the
  same again.
-/
theorem accepted_is_stable
    {body : String}
    {js : Json}
    (hParse : parse strtod body = some js) :
    js.WellFormed ∧
      (js.NoFraction →
        parse strtod js.text = some js.normalize ∧
          js.normalize.text = js.text) := by
  have hWellFormed := wellFormed_of_parse hParse
  refine ⟨hWellFormed, fun hWhole => ?_⟩
  exact ⟨parse_text js hWellFormed hWhole, text_normalize js⟩

/- Blanks and an escape, which the library does not print. -/
theorem parse_spaced :
    parse (fun _ => none) "[ -1, \"\\u0041\" ]" =
      some (.array [.integer (-1), .string "A"]) := by
  have hTokens :
      tokensOf (fun _ => none) "[ -1, \"\\u0041\" ]" =
        [.beginArray, .valueInteger (-1), .valueSeparator,
          .valueString "A", .endArray] ++
            [.endOfInput] := by
    decide +kernel
  exact
    parse_of_derives hTokens
      (.array
        (.nextElement (.firstElement (.scalar rfl))
          (.scalar rfl)))

theorem spaced_is_stable :
    parse (fun _ => none)
        (text (.array [.integer (-1), .string "A"])) =
      some (.array [.integer (-1), .string "A"]) :=
  ((accepted_is_stable parse_spaced).2
    ⟨trivial, trivial, trivial⟩).1

end Json

end ClusterChat
