import Mathlib

/-
  JSON values as the program's JSON library keeps them, and
  the accessors the program uses on them.

  Serialization and parsing belong to the library and are a
  parameter, `JsonCodec`.  Parsing returns every non-negative
  integer as an unsigned one, which `Json.normalize` states.

  Main declarations:
    * `Json`, `JsonObject`, and `JsonException`
    * `Json.getInt` and `Json.getString`
    * `Json.normalize` and `JsonCodec.RoundTrips`
    * `Json.text` and `JsonCodec.ofTable`
-/

------------------------------------------------------------
-- Values
------------------------------------------------------------

namespace ClusterChat

/- The value types of the JSON library. -/
inductive Json where
| null
| boolean (value : Bool)
| integer (value : Int)
| unsigned (value : Nat)
| float (value : Rat)
| string (value : String)
| array (elements : List Json)
| object (fields : List (String × Json))

/- The members of an object in ascending key order. -/
abbrev JsonObject := List (String × Json)

/- The exceptions of the library that the program meets. -/
inductive JsonException where
| parseError
| typeError
deriving DecidableEq, Repr

/- A C++ `int` holds the number modulo `2 ^ 32`. -/
def toInt32 (value : Int) : Int :=
  value.bmod (2 ^ 32)

/- A C++ `uint64_t` holds the number modulo `2 ^ 64`. -/
def toUInt64 (value : Int) : Nat :=
  (value % 2 ^ 64).toNat

------------------------------------------------------------
-- Object Members
------------------------------------------------------------

namespace JsonObject

/- `find(key)` on an object. -/
def find?
    (key : String) : JsonObject → Option Json
| [] => none
| member :: members =>
    if member.1 = key then
      some member.2
    else
      find? key members

/- `contains(key)` on an object. -/
def contains
    (js : JsonObject)
    (key : String) : Bool :=
  (find? key js).isSome

/-
  `js[key]` on a mutable object: a missing member reads as
  null.
-/
def field
    (js : JsonObject)
    (key : String) : Json :=
  (find? key js).getD .null

/- `js[key] = value` on a mutable object. -/
def assign
    (key : String)
    (value : Json) : JsonObject → JsonObject
| [] => [(key, value)]
| member :: members =>
    if key = member.1 then
      (key, value) :: members
    else if key < member.1 then
      (key, value) :: member :: members
    else
      member :: assign key value members

@[simp] theorem find?_assign_self
    (key : String)
    (value : Json)
    (js : JsonObject) :
    find? key (assign key value js) = some value := by
  induction js with
  | nil =>
      simp [assign, find?]
  | cons member members ih =>
      unfold assign
      by_cases hKey : key = member.1
      · simp [hKey, find?]
      · by_cases hLess : key < member.1
        · simp [hKey, hLess, find?]
        · simp only [hKey, hLess, if_false, find?,
            Ne.symm hKey, ih]

theorem find?_assign_of_ne
    {key other : String}
    (hNe : other ≠ key)
    (value : Json)
    (js : JsonObject) :
    find? other (assign key value js) =
      find? other js := by
  induction js with
  | nil =>
      simp [assign, find?, hNe.symm]
  | cons member members ih =>
      unfold assign
      by_cases hKey : key = member.1
      · have hOther : member.1 ≠ other := by
          intro h
          exact hNe (by rw [hKey, h])
        simp [hKey, find?, hOther]
      · by_cases hLess : key < member.1
        · simp [hKey, hLess, find?, hNe.symm]
        · simp only [hKey, hLess, if_false, find?, ih]

end JsonObject

------------------------------------------------------------
-- Accessors
------------------------------------------------------------

namespace Json

/- `find(key)`: only an object has members. -/
def find?
    (js : Json)
    (key : String) : Option Json :=
  match js with
  | .object fields => JsonObject.find? key fields
  | _ => none

/- `contains(key)` on any value. -/
def contains
    (js : Json)
    (key : String) : Bool :=
  (js.find? key).isSome

/- `is_number_unsigned()` -/
def isNumberUnsigned : Json → Bool
| .unsigned _ => true
| _ => false

/- `is_number_integer()` holds for both integer types. -/
def isNumberInteger : Json → Bool
| .unsigned _ => true
| .integer _ => true
| _ => false

/- `is_string()` -/
def isString : Json → Bool
| .string _ => true
| _ => false

/-
  The whole number that `get<T>()` casts to an integer type
  `T`.  A fraction is cut off, and a Boolean counts as 0 or 1.
  What C++ makes of a fraction outside the range of `T` is
  undefined; the callers below reduce it like an integer.
-/
def getNumber : Json → Except JsonException Int
| .unsigned value => .ok value
| .integer value => .ok value
| .float value => .ok (value.num.tdiv value.den)
| .boolean value => .ok (if value then 1 else 0)
| _ => .error .typeError

/- `get<int>()` -/
def getInt (js : Json) : Except JsonException Int :=
  js.getNumber.map toInt32

/- `get<uint64_t>()` -/
def getUInt64 : Json → Except JsonException Nat
| .unsigned value => .ok value
| js => js.getNumber.map toUInt64

/- `get<string>()` -/
def getString : Json → Except JsonException String
| .string value => .ok value
| _ => .error .typeError

/- The string elements of `get<vector<string>>()`. -/
def getStrings : Json → Except JsonException (List String)
| .array elements => elements.mapM getString
| _ => .error .typeError

/-
  `value(key, 0)`: the member as an `int`, or zero when the
  object has no such member.
-/
def valueInt
    (js : Json)
    (key : String) : Except JsonException Int :=
  match js with
  | .object fields =>
      match JsonObject.find? key fields with
      | some member => member.getInt
      | none => .ok 0
  | _ => .error .typeError

@[simp] theorem find?_object
    (fields : JsonObject)
    (key : String) :
    (Json.object fields).find? key =
      JsonObject.find? key fields := rfl

------------------------------------------------------------
-- Normal Form of Parsed Values
------------------------------------------------------------

mutual

/- The value that parsing the serialized text returns. -/
def normalize : Json → Json
| .null => .null
| .boolean value => .boolean value
| .integer value =>
    if 0 ≤ value then
      .unsigned value.toNat
    else
      .integer value
| .unsigned value => .unsigned value
| .float value => .float value
| .string value => .string value
| .array elements => .array (normalizeList elements)
| .object fields => .object (normalizeFields fields)

/- Normalize every element of an array. -/
def normalizeList : List Json → List Json
| [] => []
| js :: rest => js.normalize :: normalizeList rest

/- Normalize every member of an object. -/
def normalizeFields :
    List (String × Json) → List (String × Json)
| [] => []
| (key, js) :: rest =>
    (key, js.normalize) :: normalizeFields rest

end

theorem find?_normalizeFields
    (key : String)
    (fields : JsonObject) :
    JsonObject.find? key (normalizeFields fields) =
      (JsonObject.find? key fields).map normalize := by
  induction fields with
  | nil => rfl
  | cons member members ih =>
      rcases member with ⟨name, value⟩
      simp only [normalizeFields, JsonObject.find?]
      by_cases hKey : name = key
      · simp [hKey]
      · simp [hKey, ih]

/- Normalization keeps the member names of an object. -/
theorem find?_normalize
    (js : Json)
    (key : String) :
    js.normalize.find? key =
      (js.find? key).map normalize := by
  cases js with
  | object fields =>
      simpa [normalize] using
        find?_normalizeFields key fields
  | integer value =>
      by_cases hSign : 0 ≤ value <;>
        simp [normalize, hSign, find?]
  | _ => simp [normalize, find?]

/- Normalization keeps the value of a number. -/
theorem getNumber_normalize (js : Json) :
    js.normalize.getNumber = js.getNumber := by
  cases js with
  | integer value =>
      by_cases hSign : 0 ≤ value
      · have hValue : (value.toNat : Int) = value :=
          Int.toNat_of_nonneg hSign
        rw [normalize, if_pos hSign]
        unfold getNumber
        dsimp only
        rw [hValue]
      · rw [normalize, if_neg hSign]
  | _ => simp [normalize, getNumber]

theorem getInt_normalize (js : Json) :
    js.normalize.getInt = js.getInt := by
  unfold getInt
  rw [getNumber_normalize]

end Json

------------------------------------------------------------
-- Serialization
------------------------------------------------------------

/-
  The library's `dump()` and `json::parse`.  Parsing returns
  `none` where the library throws a parse error.
-/
structure JsonCodec where
  dump : Json → String
  parse : String → Option Json

/- Parsing the serialized value returns its normal form. -/
def JsonCodec.RoundTrips
    (codec : JsonCodec)
    (js : Json) : Prop :=
  codec.parse (codec.dump js) = some js.normalize

------------------------------------------------------------
-- The Text of a Value
------------------------------------------------------------

namespace Json

/- The last hexadecimal digit of a number. -/
def hexDigit (value : Nat) : String :=
  String.singleton (Nat.digitChar (value % 16))

/- The escapes of the compact form, by character code. -/
def escapeChar (c : Char) : String :=
  match c.toNat with
  | 8 => "\\b"
  | 9 => "\\t"
  | 10 => "\\n"
  | 12 => "\\f"
  | 13 => "\\r"
  | 34 => "\\\""
  | 92 => "\\\\"
  | code =>
      if code < 32 then
        "\\u00" ++ hexDigit (code / 16) ++ hexDigit code
      else
        String.singleton c

/- A string between quotation marks. -/
def quote (value : String) : String :=
  "\"" ++ String.join (value.toList.map escapeChar) ++ "\""

mutual

/-
  The compact form, as `dump()` prints it.  A fraction is
  printed as such: no text of the program contains one.
-/
def text : Json → String
| .null => "null"
| .boolean value => toString value
| .integer value => toString value
| .unsigned value => toString value
| .float value =>
    toString value.num ++ "/" ++ toString value.den
| .string value => quote value
| .array elements =>
    "[" ++ ",".intercalate (textList elements) ++ "]"
| .object fields =>
    "\x7b" ++ ",".intercalate (textFields fields) ++ "\x7d"

/- The texts of the elements of an array. -/
def textList : List Json → List String
| [] => []
| js :: rest => js.text :: textList rest

/- The texts of the members of an object. -/
def textFields : List (String × Json) → List String
| [] => []
| (key, js) :: rest =>
    (quote key ++ ":" ++ js.text) :: textFields rest

end

end Json

/-
  A codec that prints every value and knows how to parse the
  texts of finitely many.
-/
def JsonCodec.ofTable (known : List Json) : JsonCodec where
  dump := Json.text
  parse := fun body =>
    (known.find? fun js => decide (js.text = body)).map
      Json.normalize

theorem JsonCodec.roundTrips_ofTable
    {known : List Json}
    (hTexts : (known.map Json.text).Nodup)
    {js : Json}
    (hKnown : js ∈ known) :
    (ofTable known).RoundTrips js := by
  unfold RoundTrips ofTable
  dsimp only
  induction known with
  | nil => simp at hKnown
  | cons first known ih =>
      rw [List.map_cons, List.nodup_cons] at hTexts
      rcases List.mem_cons.mp hKnown with hFirst | hRest
      · rw [hFirst, List.find?_cons_of_pos (by simp)]
        rfl
      · have hOther : first.text ≠ js.text := by
          intro hSame
          apply hTexts.1
          rw [hSame]
          exact List.mem_map_of_mem hRest
        rw [List.find?_cons_of_neg (by simpa using hOther)]
        exact ih hTexts.2 hRest

end ClusterChat
