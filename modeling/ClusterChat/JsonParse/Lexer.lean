import ClusterChat.Json
import ClusterChat.Library.Scanner

/-
  The lexer of the JSON library, translated from the class
  `lexer` of `json.hpp`.

  The input are characters: the library rejects a text at the
  first byte it reads that is not UTF-8.  A zero byte outside
  of strings ends the input.  Behind an error or the end
  nothing is read, so the rest does not matter there, whether
  it is UTF-8 or not.

  Main declarations:
    * `Token`
    * `Lexer.scanString` and `Lexer.scanNumber`
    * `Lexer.scan`
    * `Lexer.scanner`
-/

------------------------------------------------------------
-- Tokens
------------------------------------------------------------

namespace ClusterChat

/- `token_type`, with the value that the lexer holds.  A
number that is too large to be finite has no value. -/
inductive Token where
| literalTrue
| literalFalse
| literalNull
| valueString (value : String)
| valueUnsigned (value : Nat)
| valueInteger (value : Int)
| valueFloat (value : Option Rat)
| beginArray
| beginObject
| endArray
| endObject
| nameSeparator
| valueSeparator
| parseError
| endOfInput
deriving DecidableEq

namespace Lexer

------------------------------------------------------------
-- Strings
------------------------------------------------------------

/- The value of a hexadecimal digit. -/
def hexValue (c : Char) : Option Nat :=
  if '0' ≤ c ∧ c ≤ '9' then
    some (c.toNat - 0x30)
  else if 'A' ≤ c ∧ c ≤ 'F' then
    some (c.toNat - 0x37)
  else if 'a' ≤ c ∧ c ≤ 'f' then
    some (c.toNat - 0x57)
  else
    none

/- `get_codepoint`: the four digits behind `\u`. -/
def getCodepoint (c1 c2 c3 c4 : Char) : Option Nat := do
  let d1 ← hexValue c1
  let d2 ← hexValue c2
  let d3 ← hexValue c3
  let d4 ← hexValue c4
  return 0x1000 * d1 + 0x100 * d2 + 0x10 * d3 + d4

/- What a backslash and one character stand for. -/
def escaped (c : Char) : Option Char :=
  if c = '\x22' ∨ c = '\x5c' ∨ c = '/' then
    some c
  else if c = 'b' then
    some '\x08'
  else if c = 'f' then
    some '\x0c'
  else if c = 'n' then
    some '\n'
  else if c = 'r' then
    some '\x0d'
  else if c = 't' then
    some '\t'
  else
    none

/- One more character in the buffer. -/
def add
    (c : Char)
    (scanned : Option (List Char × List Char)) :
    Option (List Char × List Char) :=
  scanned.map fun result => (c :: result.1, result.2)

/-
  `scan_string` behind the opening quote: the characters of
  the string, and what follows the closing quote.  A high
  surrogate has to be followed by a low one.
-/
def scanString : List Char → Option (List Char × List Char)
| [] => none
| c :: rest =>
    if c = '\x22' then
      some ([], rest)
    else if c = '\x5c' then
      match rest with
      | [] => none
      | e :: rest =>
          if e = 'u' then
            match rest with
            | c1 :: c2 :: c3 :: c4 :: rest =>
                match getCodepoint c1 c2 c3 c4 with
                | none => none
                | some codepoint1 =>
                    if 0xD800 ≤ codepoint1 ∧
                        codepoint1 ≤ 0xDBFF then
                      match rest with
                      | s :: u :: d1 :: d2 :: d3 :: d4 ::
                          rest =>
                          if s = '\x5c' ∧ u = 'u' then
                            match getCodepoint d1 d2 d3 d4
                              with
                            | none => none
                            | some codepoint2 =>
                                if 0xDC00 ≤ codepoint2 ∧
                                    codepoint2 ≤ 0xDFFF then
                                  add
                                    (Char.ofNat
                                      (0x400 * codepoint1 +
                                        codepoint2 -
                                          0x35FDC00))
                                    (scanString rest)
                                else
                                  none
                          else
                            none
                      | _ => none
                    else if 0xDC00 ≤ codepoint1 ∧
                        codepoint1 ≤ 0xDFFF then
                      none
                    else
                      add (Char.ofNat codepoint1)
                        (scanString rest)
            | _ => none
          else
            match escaped e with
            | none => none
            | some value => add value (scanString rest)
    else if c.toNat < 0x20 then
      none
    else
      add c (scanString rest)

------------------------------------------------------------
-- Numbers
------------------------------------------------------------

/- The labels of `scan_number`. -/
inductive NumberState where
| minus
| zero
| any1
| decimal1
| decimal2
| exponent
| sign
| any2
deriving DecidableEq

/- Where `scan_number` goes from a label. -/
inductive NumberStep where
| goto (state : NumberState)
| done
| error

/- A decimal digit. -/
def isDigit (c : Option Char) : Bool :=
  c.any Char.isDigit

/- An exponent mark. -/
def isExponent (c : Option Char) : Bool :=
  decide (c = some 'e') || decide (c = some 'E')

namespace NumberState

/- The jump on the next character, if there is one. -/
def next
    (state : NumberState)
    (c : Option Char) : NumberStep :=
  match state with
  | minus =>
      if c = some '0' then .goto zero
      else if isDigit c then .goto any1
      else .error
  | zero =>
      if c = some '.' then .goto decimal1
      else if isExponent c then .goto exponent
      else .done
  | any1 =>
      if isDigit c then .goto any1
      else if c = some '.' then .goto decimal1
      else if isExponent c then .goto exponent
      else .done
  | decimal1 =>
      if isDigit c then .goto decimal2
      else .error
  | decimal2 =>
      if isDigit c then .goto decimal2
      else if isExponent c then .goto exponent
      else .done
  | exponent =>
      if c = some '+' ∨ c = some '-' then .goto sign
      else if isDigit c then .goto any2
      else .error
  | sign =>
      if isDigit c then .goto any2
      else .error
  | any2 =>
      if isDigit c then .goto any2
      else .done

end NumberState

/- `number_type` -/
inductive NumberType where
| unsigned
| integer
| float
deriving DecidableEq

/- What a label makes of `number_type`. -/
def NumberState.type
    (state : NumberState)
    (type : NumberType) : NumberType :=
  match state with
  | minus => .integer
  | decimal1 => .float
  | exponent => .float
  | _ => type

/- The rest of a number from a label on: its characters, its
type, and the input behind it. -/
def scanNumberFrom
    (state : NumberState)
    (type : NumberType) :
    List Char →
      Option (List Char × NumberType × List Char)
| [] =>
    match state.next none with
    | .done => some ([], state.type type, [])
    | _ => none
| c :: rest =>
    match state.next (some c) with
    | .goto next =>
        (scanNumberFrom next (state.type type) rest).map
          fun result => (c :: result.1, result.2)
    | .done => some ([], state.type type, c :: rest)
    | .error => none

/-
  `scan_number_done`: `strtoull` or `strtoll`, and `strtod`
  when there is a fraction or the integer is out of range.
-/
def numberToken
    (strtod : String → Option Rat)
    (buffer : List Char)
    (type : NumberType) : Token :=
  match type with
  | .unsigned =>
      let value := Nat.ofDigitChars 10 buffer 0
      if value < 2 ^ 64 then
        .valueUnsigned value
      else
        .valueFloat (strtod (String.ofList buffer))
  | .integer =>
      let value := Nat.ofDigitChars 10 (buffer.drop 1) 0
      if value ≤ 2 ^ 63 then
        .valueInteger (-value)
      else
        .valueFloat (strtod (String.ofList buffer))
  | .float => .valueFloat (strtod (String.ofList buffer))

/- `scan_number`, called with a digit or a sign. -/
def scanNumber
    (strtod : String → Option Rat)
    (first : Char)
    (rest : List Char) : Token × List Char :=
  let state : NumberState :=
    if first = '-' then .minus
    else if first = '0' then .zero
    else .any1
  match scanNumberFrom state .unsigned rest with
  | some (buffer, type, rest) =>
      (numberToken strtod (first :: buffer) type, rest)
  | none => (.parseError, [])

------------------------------------------------------------
-- The Scanner
------------------------------------------------------------

/- `scan_literal` behind the first character. -/
def scanLiteral
    (literal : String)
    (token : Token)
    (rest : List Char) : Token × List Char :=
  if literal.toList.isPrefixOf rest then
    (token, rest.drop literal.length)
  else
    (.parseError, [])

/- White space between tokens. -/
def isSpace (c : Char) : Bool :=
  c = ' ' || c = '\t' || c = '\n' || c = '\x0d'

/- The token that starts with the character.  A null character
ends the input. -/
def scanAt
    (strtod : String → Option Rat)
    (c : Char)
    (rest : List Char) : Token × List Char :=
  if c = '[' then (.beginArray, rest)
  else if c = ']' then (.endArray, rest)
  else if c = '\x7b' then (.beginObject, rest)
  else if c = '\x7d' then (.endObject, rest)
  else if c = ':' then (.nameSeparator, rest)
  else if c = ',' then (.valueSeparator, rest)
  else if c = 't' then scanLiteral "rue" .literalTrue rest
  else if c = 'f' then scanLiteral "alse" .literalFalse rest
  else if c = 'n' then scanLiteral "ull" .literalNull rest
  else if c = '\x22' then
    match scanString rest with
    | some (buffer, rest) =>
        (.valueString (String.ofList buffer), rest)
    | none => (.parseError, [])
  else if c = '-' ∨ c.isDigit then scanNumber strtod c rest
  else if c = '\x00' then (.endOfInput, rest)
  else (.parseError, [])

/- `scan` -/
def scan
    (strtod : String → Option Rat)
    (input : List Char) : Token × List Char :=
  match input.dropWhile isSpace with
  | [] => (.endOfInput, [])
  | c :: rest => scanAt strtod c rest

/- `skip_bom`; a first byte `EF` of anything else is an error
of `scan` as well. -/
def skipBom : List Char → List Char
| [] => []
| c :: rest =>
    if c.toNat = 0xFEFF then rest else c :: rest

------------------------------------------------------------
-- Tokens Are Not Empty
------------------------------------------------------------

/- What stands behind a character is behind the others. -/
theorem length_add
    {c : Char}
    {scanned : Option (List Char × List Char)}
    {result : List Char × List Char}
    {bound : Nat}
    (hOthers :
      ∀ {others}, scanned = some others →
        others.2.length < bound)
    (hResult : add c scanned = some result) :
    result.2.length < bound := by
  rcases Option.map_eq_some_iff.mp hResult with
    ⟨others, hScanned, hSame⟩
  have hShort := hOthers hScanned
  rw [← hSame]
  exact hShort

theorem length_scanString
    {input : List Char}
    {result : List Char × List Char}
    (hResult : scanString input = some result) :
    result.2.length < input.length := by
  fun_induction scanString input generalizing result
  case case2 rest =>
      cases hResult
      exact Nat.lt_succ_self _
  case case6 ih =>
      have hShort := length_add ih hResult
      simp only [List.length_cons]
      omega
  case case11 ih =>
      have hShort := length_add ih hResult
      simp only [List.length_cons]
      omega
  case case14 ih =>
      have hShort := length_add ih hResult
      simp only [List.length_cons]
      omega
  case case16 ih =>
      exact Nat.lt_succ_of_lt (length_add ih hResult)
  all_goals cases hResult

theorem length_scanNumberFrom
    {state : NumberState}
    {type : NumberType}
    {input : List Char}
    {result : List Char × NumberType × List Char}
    (hResult :
      scanNumberFrom state type input = some result) :
    result.2.2.length ≤ input.length := by
  induction input generalizing state type result with
  | nil =>
      unfold scanNumberFrom at hResult
      split at hResult
      · cases hResult
        exact Nat.le_refl _
      · cases hResult
  | cons c input ih =>
      unfold scanNumberFrom at hResult
      split at hResult
      · rcases Option.map_eq_some_iff.mp hResult with
          ⟨others, hOthers, hSame⟩
        have hShort := ih hOthers
        rw [← hSame]
        exact Nat.le_succ_of_le hShort
      · cases hResult
        exact Nat.le_refl _
      · cases hResult

theorem length_scanNumber
    (strtod : String → Option Rat)
    (first : Char)
    (rest : List Char) :
    (scanNumber strtod first rest).2.length ≤
      rest.length := by
  unfold scanNumber
  dsimp only
  split
  · rename_i hNumber
    exact length_scanNumberFrom hNumber
  · exact Nat.zero_le _

theorem length_scanLiteral
    (literal : String)
    (token : Token)
    (rest : List Char) :
    (scanLiteral literal token rest).2.length ≤
      rest.length := by
  unfold scanLiteral
  split
  · rw [List.length_drop]
    exact Nat.sub_le _ _
  · exact Nat.zero_le _

theorem length_scanAt
    (strtod : String → Option Rat)
    (c : Char)
    (rest : List Char) :
    (scanAt strtod c rest).2.length ≤ rest.length := by
  have hString :
      ∀ {result : List Char × List Char},
        scanString rest = some result →
          result.2.length ≤ rest.length :=
    fun hResult => Nat.le_of_lt (length_scanString hResult)
  fun_cases scanAt strtod c rest
  case case10 hResult => exact hString hResult
  all_goals
    first
    | exact Nat.le_refl _
    | exact Nat.zero_le _
    | exact length_scanLiteral _ _ _
    | exact length_scanNumber _ _ _

/- The tokens behind which nothing is read. -/
def isLast : Token → Bool
| .parseError => true
| .endOfInput => true
| _ => false

/- The lexer, token by token. -/
def scanner
    (strtod : String → Option Rat) : Scanner Char Token where
  scan := scan strtod
  isLast := isLast
  shortens := by
    intro input hInner
    have hSpace := List.length_dropWhile_le isSpace input
    unfold scan at hInner ⊢
    split
    · rename_i hEmpty
      rw [hEmpty] at hInner
      cases hInner
    · rename_i c rest hRest
      have hToken := length_scanAt strtod c rest
      rw [hRest, List.length_cons] at hSpace
      omega

end Lexer

end ClusterChat
