import ClusterChat.JsonParse.Lexer

/-
  The parser of the JSON library, translated from
  `sax_parse_internal` and the class `json_sax_dom_parser`
  of `json.hpp`.

  The source keeps a stack of references into the value that
  it builds.  Here an open container is kept with what it
  holds so far, and it is handed on when it is closed.  The
  tokens are scanned ahead: the parser asks for no token
  behind the last one.

  Main declarations:
    * `Parser.run`
    * `Json.parse`
    * `JsonCodec.library`
-/

------------------------------------------------------------
-- The Parser
------------------------------------------------------------

namespace ClusterChat

namespace Parser

/- A container that is not closed yet.  An object is waiting
for the value of its last key. -/
inductive Open where
| array (elements : List Json)
| object (members : JsonObject) (key : String)

/- Whether the next token starts a value, or a value has just
been parsed and the state is evaluated. -/
inductive Mode where
| value
| evaluate (js : Json)

/- The value that is one token. -/
def scalar : Token → Option Json
| .valueFloat value => value.map .float
| .literalFalse => some (.boolean false)
| .literalNull => some .null
| .literalTrue => some (.boolean true)
| .valueInteger value => some (.integer value)
| .valueString value => some (.string value)
| .valueUnsigned value => some (.unsigned value)
| _ => none

/- `sax_parse_internal`, and the check that the input ends
behind the value. -/
def run : Mode → List Open → List Token → Option Json
| .value, stack, .beginObject :: .endObject :: rest =>
    run (.evaluate (.object [])) stack rest
| .value, stack,
    .beginObject :: .valueString key :: .nameSeparator ::
      rest =>
    run .value (.object [] key :: stack) rest
| .value, stack, .beginArray :: .endArray :: rest =>
    run (.evaluate (.array [])) stack rest
| .value, stack, .beginArray :: rest =>
    run .value (.array [] :: stack) rest
| .value, stack, token :: rest =>
    match scalar token with
    | some js => run (.evaluate js) stack rest
    | none => none
| .evaluate js, [], .endOfInput :: _ => some js
| .evaluate js, .array elements :: stack,
    .valueSeparator :: rest =>
    run .value (.array (elements ++ [js]) :: stack) rest
| .evaluate js, .array elements :: stack,
    .endArray :: rest =>
    run (.evaluate (.array (elements ++ [js]))) stack rest
| .evaluate js, .object members key :: stack,
    .valueSeparator :: .valueString next :: .nameSeparator ::
      rest =>
    run .value
      (.object (JsonObject.assign key js members) next ::
        stack)
      rest
| .evaluate js, .object members key :: stack,
    .endObject :: rest =>
    run
      (.evaluate
        (.object (JsonObject.assign key js members)))
      stack rest
| _, _, _ => none

end Parser

/- `json::parse`; what `strtod` returns is a parameter, and
`none` stands for an infinite value. -/
def Json.parse
    (strtod : String → Option Rat)
    (body : String) : Option Json :=
  Parser.run .value []
    ((Lexer.scanner strtod).tokens
      (Lexer.skipBom body.toList))

/- The library as it prints and parses. -/
def JsonCodec.library
    (strtod : String → Option Rat) : JsonCodec where
  dump := Json.text
  parse := Json.parse strtod

end ClusterChat
