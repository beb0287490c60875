import ClusterChat.JsonParse.Parser

/-
  The grammar of JSON values over tokens, and that the parser
  with its stack accepts it and nothing else.

  Of two members with the same name the later one counts.

  Main declarations:
    * `Derives`
    * `Parser.parsed_of_derives`
    * `Parser.derives_of_run`
    * `Json.parse_eq_some_iff`
-/

------------------------------------------------------------
-- The Grammar
------------------------------------------------------------

namespace ClusterChat

/- What a sequence of tokens can be, with what it means. -/
inductive Phrase where
| value (js : Json)
| elements (values : List Json)
| members (fields : JsonObject)

/- The tokens of a phrase. -/
inductive Derives : Phrase → List Token → Prop where
| scalar
    {token : Token} {js : Json}
    (isScalar : Parser.scalar token = some js) :
    Derives (.value js) [token]
| emptyArray :
    Derives (.value (.array [])) [.beginArray, .endArray]
| array
    {values : List Json} {inner : List Token}
    (elements : Derives (.elements values) inner) :
    Derives (.value (.array values))
      (.beginArray :: (inner ++ [.endArray]))
| emptyObject :
    Derives (.value (.object [])) [.beginObject, .endObject]
| object
    {fields : JsonObject} {inner : List Token}
    (members : Derives (.members fields) inner) :
    Derives (.value (.object fields))
      (.beginObject :: (inner ++ [.endObject]))
| firstElement
    {js : Json} {front : List Token}
    (first : Derives (.value js) front) :
    Derives (.elements [js]) front
| nextElement
    {values : List Json} {js : Json}
    {front back : List Token}
    (others : Derives (.elements values) front)
    (next : Derives (.value js) back) :
    Derives (.elements (values ++ [js]))
      (front ++ .valueSeparator :: back)
| firstMember
    {js : Json} {front : List Token}
    (key : String)
    (first : Derives (.value js) front) :
    Derives (.members (JsonObject.assign key js []))
      (.valueString key :: .nameSeparator :: front)
| nextMember
    {fields : JsonObject} {js : Json}
    {front back : List Token}
    (key : String)
    (others : Derives (.members fields) front)
    (next : Derives (.value js) back) :
    Derives (.members (JsonObject.assign key js fields))
      (front ++ .valueSeparator :: .valueString key ::
        .nameSeparator :: back)

------------------------------------------------------------
-- What the Grammar Has Is Accepted
------------------------------------------------------------

namespace Parser

theorem run_scalar
    {token : Token}
    {js : Json}
    (hScalar : scalar token = some js)
    (stack : List Open)
    (rest : List Token) :
    run .value stack (token :: rest) =
      run (.evaluate js) stack rest := by
  cases token
  all_goals first | cases hScalar; done | skip
  all_goals simp only [run, hScalar]

/- No value starts with the end of an array. -/
theorem exists_cons_of_derives_value
    {js : Json}
    {front : List Token}
    (hValue : Derives (.value js) front) :
    ∃ first others,
      front = first :: others ∧ first ≠ .endArray := by
  cases hValue with
  | scalar hScalar =>
      refine ⟨_, [], rfl, ?_⟩
      intro hEnd
      rw [hEnd] at hScalar
      cases hScalar
  | emptyArray => exact ⟨_, _, rfl, by decide⟩
  | array _ => exact ⟨_, _, rfl, by decide⟩
  | emptyObject => exact ⟨_, _, rfl, by decide⟩
  | object _ => exact ⟨_, _, rfl, by decide⟩

/- A value behind an opening bracket is the first element. -/
theorem run_beginArray
    {js : Json}
    {front : List Token}
    (hValue : Derives (.value js) front)
    (stack : List Open)
    (rest : List Token) :
    run .value stack (.beginArray :: (front ++ rest)) =
      run .value (.array [] :: stack) (front ++ rest) := by
  rcases exists_cons_of_derives_value hValue with
    ⟨first, others, hFront, hFirst⟩
  rw [hFront, List.cons_append]
  cases first
  all_goals first | rfl | exact absurd rfl hFirst

/- How the parser gets over a phrase: behind its elements or
members, the last of them is about to be added. -/
def Parsed (front : List Token) : Phrase → Prop
| .value js =>
    ∀ stack rest,
      run .value stack (front ++ rest) =
        run (.evaluate js) stack rest
| .elements values =>
    ∃ init last,
      values = init ++ [last] ∧
        ∀ stack rest,
          run .value stack (.beginArray :: (front ++ rest)) =
            run (.evaluate last) (.array init :: stack) rest
| .members fields =>
    ∃ key last init,
      fields = JsonObject.assign key last init ∧
        ∀ stack rest,
          run .value stack
              (.beginObject :: (front ++ rest)) =
            run (.evaluate last) (.object init key :: stack)
              rest

/- Induction on the derivation. -/
theorem parsed_of_derives
    {phrase : Phrase}
    {front : List Token}
    (hDerives : Derives phrase front) :
    Parsed front phrase := by
  induction hDerives with
  | scalar hScalar => exact run_scalar hScalar
  | emptyArray => exact fun _ _ => rfl
  | @array values inner _ ih =>
      rcases ih with ⟨init, last, hValues, hRun⟩
      intro stack rest
      rw [List.cons_append, List.append_assoc, hRun, hValues]
      rfl
  | emptyObject => exact fun _ _ => rfl
  | @object fields inner _ ih =>
      rcases ih with ⟨key, last, init, hFields, hRun⟩
      intro stack rest
      rw [List.cons_append, List.append_assoc, hRun, hFields]
      rfl
  | @firstElement js front hFirst ih =>
      refine ⟨[], js, rfl, fun stack rest => ?_⟩
      rw [run_beginArray hFirst]
      exact ih _ rest
  | @nextElement values js front back _ _ ihOthers ihNext =>
      rcases ihOthers with ⟨init, last, hValues, hRun⟩
      refine ⟨values, js, rfl, fun stack rest => ?_⟩
      rw [List.append_assoc, hRun, hValues]
      exact ihNext _ rest
  | @firstMember js front key _ ih =>
      exact ⟨key, js, [], rfl, fun stack rest => ih _ rest⟩
  | @nextMember fields js front back key _ _ ihOthers
      ihNext =>
      rcases ihOthers with
        ⟨lastKey, last, init, hFields, hRun⟩
      refine ⟨key, js, fields, rfl, fun stack rest => ?_⟩
      rw [List.append_assoc, hRun, hFields]
      exact ihNext _ rest

------------------------------------------------------------
-- What Is Accepted Is in the Grammar
------------------------------------------------------------

/- What the parser has taken off when a value is due, for the
containers that are open. -/
inductive Opened : List Open → List Token → Prop where
| nil : Opened [] []
| firstElement
    {stack : List Open} {front : List Token}
    (outer : Opened stack front) :
    Opened (.array [] :: stack) (front ++ [.beginArray])
| nextElement
    {stack : List Open} {front inner : List Token}
    {values : List Json}
    (outer : Opened stack front)
    (others : Derives (.elements values) inner) :
    Opened (.array values :: stack)
      (front ++ .beginArray :: (inner ++ [.valueSeparator]))
| firstMember
    {stack : List Open} {front : List Token}
    (key : String)
    (outer : Opened stack front) :
    Opened (.object [] key :: stack)
      (front ++
        [.beginObject, .valueString key, .nameSeparator])
| nextMember
    {stack : List Open} {front inner : List Token}
    {fields : JsonObject}
    (key : String)
    (outer : Opened stack front)
    (others : Derives (.members fields) inner) :
    Opened (.object fields key :: stack)
      (front ++ .beginObject ::
        (inner ++
          [.valueSeparator, .valueString key,
            .nameSeparator]))

/- What the parser has taken off, in either mode. -/
inductive Consumed :
    Mode → List Open → List Token → Prop where
| value
    {stack : List Open} {front : List Token}
    (opened : Opened stack front) :
    Consumed .value stack front
| evaluate
    {stack : List Open} {front back : List Token}
    {js : Json}
    (opened : Opened stack front)
    (last : Derives (.value js) back) :
    Consumed (.evaluate js) stack (front ++ back)

/- A value behind open containers. -/
theorem Consumed.value_done
    {stack : List Open}
    {front back : List Token}
    {js : Json}
    (hConsumed : Consumed .value stack front)
    (hValue : Derives (.value js) back) :
    Consumed (.evaluate js) stack (front ++ back) := by
  cases hConsumed with
  | value hOpened => exact .evaluate hOpened hValue

theorem Consumed.opened
    {stack : List Open}
    {front : List Token}
    (hConsumed : Consumed .value stack front) :
    Opened stack front := by
  cases hConsumed with
  | value hOpened => exact hOpened

/- The elements of the innermost array, with the last one. -/
theorem Consumed.elements
    {stack : List Open}
    {front : List Token}
    {js : Json}
    {values : List Json}
    (hConsumed :
      Consumed (.evaluate js) (.array values :: stack)
        front) :
    ∃ outer inner,
      front = outer ++ .beginArray :: inner ∧
        Opened stack outer ∧
          Derives (.elements (values ++ [js])) inner := by
  cases hConsumed with
  | @evaluate _ front back _ hOpened hLast =>
      cases hOpened with
      | @firstElement _ outer hOuter =>
          refine ⟨outer, back, ?_, hOuter, .firstElement hLast⟩
          simp
      | @nextElement _ outer inner _ hOuter hOthers =>
          refine
            ⟨outer, inner ++ .valueSeparator :: back, ?_,
              hOuter, .nextElement hOthers hLast⟩
          simp

/- The members of the innermost object, with the last one. -/
theorem Consumed.members
    {stack : List Open}
    {front : List Token}
    {js : Json}
    {fields : JsonObject}
    {key : String}
    (hConsumed :
      Consumed (.evaluate js) (.object fields key :: stack)
        front) :
    ∃ outer inner,
      front = outer ++ .beginObject :: inner ∧
        Opened stack outer ∧
          Derives (.members (JsonObject.assign key js fields))
            inner := by
  cases hConsumed with
  | @evaluate _ front back _ hOpened hLast =>
      cases hOpened with
      | @firstMember _ outer _ hOuter =>
          refine
            ⟨outer, .valueString key :: .nameSeparator :: back,
              ?_, hOuter, .firstMember key hLast⟩
          simp
      | @nextMember _ outer inner _ _ hOuter hOthers =>
          refine
            ⟨outer,
              inner ++ .valueSeparator :: .valueString key ::
                .nameSeparator :: back,
              ?_, hOuter, .nextMember key hOthers hLast⟩
          simp

/- Induction on the calls of the parser. -/
theorem derives_of_run
    {mode : Mode}
    {stack : List Open}
    {tokens front : List Token}
    {js : Json}
    (hConsumed : Consumed mode stack front)
    (hRun : run mode stack tokens = some js) :
    ∃ value rest,
      front ++ tokens = value ++ .endOfInput :: rest ∧
        Derives (.value js) value := by
  fun_induction run mode stack tokens generalizing front
  case case1 ih =>
      have hValue := hConsumed.value_done .emptyObject
      simpa using ih hValue hRun
  case case2 key rest ih =>
      have hOpened := hConsumed.opened.firstMember key
      simpa using ih (.value hOpened) hRun
  case case3 ih =>
      have hValue := hConsumed.value_done .emptyArray
      simpa using ih hValue hRun
  case case4 ih =>
      have hOpened := hConsumed.opened.firstElement
      simpa using ih (.value hOpened) hRun
  case case5 hScalar ih =>
      have hValue := hConsumed.value_done (.scalar hScalar)
      simpa using ih hValue hRun
  case case7 =>
      cases hRun
      cases hConsumed with
      | evaluate hOpened hLast =>
          cases hOpened
          exact ⟨_, _, rfl, hLast⟩
  case case8 ih =>
      rcases hConsumed.elements with
        ⟨outer, inner, hFront, hOuter, hInner⟩
      have hOpened := hOuter.nextElement hInner
      rw [hFront]
      simpa using ih (.value hOpened) hRun
  case case9 ih =>
      rcases hConsumed.elements with
        ⟨outer, inner, hFront, hOuter, hInner⟩
      have hValue := Consumed.evaluate hOuter (.array hInner)
      rw [hFront]
      simpa using ih hValue hRun
  case case10 next rest ih =>
      rcases hConsumed.members with
        ⟨outer, inner, hFront, hOuter, hInner⟩
      have hOpened := hOuter.nextMember next hInner
      rw [hFront]
      simpa using ih (.value hOpened) hRun
  case case11 ih =>
      rcases hConsumed.members with
        ⟨outer, inner, hFront, hOuter, hInner⟩
      have hValue := Consumed.evaluate hOuter (.object hInner)
      rw [hFront]
      simpa using ih hValue hRun
  all_goals cases hRun

end Parser

------------------------------------------------------------
-- The Texts That Are Accepted
------------------------------------------------------------

namespace Json

/- The tokens of a text, up to its end. -/
def tokensOf
    (strtod : String → Option Rat)
    (body : String) : List Token :=
  (Lexer.scanner strtod).tokens (Lexer.skipBom body.toList)

theorem derives_of_parse
    {strtod : String → Option Rat}
    {body : String}
    {js : Json}
    (hParse : parse strtod body = some js) :
    ∃ front,
      tokensOf strtod body = front ++ [.endOfInput] ∧
        Derives (.value js) front := by
  rcases Parser.derives_of_run (.value .nil) hParse with
    ⟨front, rest, hTokens, hValue⟩
  have hRest : rest = [] :=
    Scanner.tokensWithin_end _ hTokens rfl
  refine ⟨front, ?_, hValue⟩
  rw [← hRest]
  exact hTokens

theorem parse_of_derives
    {strtod : String → Option Rat}
    {body : String}
    {js : Json}
    {front : List Token}
    (hTokens : tokensOf strtod body = front ++ [.endOfInput])
    (hValue : Derives (.value js) front) :
    parse strtod body = some js := by
  calc
    _ = Parser.run .value [] (tokensOf strtod body) := rfl
    _ = Parser.run .value [] (front ++ [.endOfInput]) := by
        rw [hTokens]
    _ = _ := Parser.parsed_of_derives hValue [] [.endOfInput]

/-
  The library accepts a text just when its tokens are those of
  a value, and it returns this value.
-/
theorem parse_eq_some_iff
    {strtod : String → Option Rat}
    {body : String}
    {js : Json} :
    parse strtod body = some js ↔
      ∃ front,
        tokensOf strtod body = front ++ [.endOfInput] ∧
          Derives (.value js) front := by
  constructor
  · exact derives_of_parse
  · rintro ⟨front, hTokens, hValue⟩
    exact parse_of_derives hTokens hValue

end Json

end ClusterChat
