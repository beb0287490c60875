import ClusterChat.JsonParse.RoundTrip
import ClusterChat.JsonText
import ClusterChat.Server.ChatRun

/-
  The JSON library as the codec of the program.

  It prints compact forms without null characters, and every
  object that the program puts together from texts, ints, and
  lists of texts is parsed back.

  Main declarations:
    * `JsonObject.Storable`
    * `JsonCodec.library_prints`
    * `ChatFrame.stamped_roundTrips`
-/

------------------------------------------------------------
-- Objects of the Program
------------------------------------------------------------

namespace ClusterChat

/- A value that the library prints and parses back. -/
structure Json.Storable (js : Json) : Prop where
  wellFormed : js.WellFormed
  noFraction : js.NoFraction

/- An object of such values. -/
abbrev JsonObject.Storable (fields : JsonObject) : Prop :=
  Json.Storable (.object fields)

namespace Json

theorem storable_string (value : String) :
    Storable (.string value) := ⟨trivial, trivial⟩

theorem storable_unsigned
    {value : Nat}
    (hValue : value < 2 ^ 64) :
    Storable (.unsigned value) := ⟨hValue, trivial⟩

theorem storable_integer
    {value : Int}
    (hLow : -2 ^ 63 ≤ value)
    (hHigh : value < 2 ^ 63) :
    Storable (.integer value) := ⟨⟨hLow, hHigh⟩, trivial⟩

theorem storable_strings (vec : List String) :
    Storable (.array (vec.map .string)) := by
  induction vec with
  | nil => exact ⟨trivial, trivial⟩
  | cons text vec ih =>
      exact
        ⟨⟨trivial, ih.wellFormed⟩, ⟨trivial, ih.noFraction⟩⟩

theorem noFractionFields_assign
    {fields : JsonObject}
    {js : Json}
    (hFields : NoFractionFields fields)
    (hValue : js.NoFraction)
    (key : String) :
    NoFractionFields (JsonObject.assign key js fields) := by
  induction fields with
  | nil => exact ⟨hValue, trivial⟩
  | cons member fields ih =>
      rcases member with ⟨name, value⟩
      unfold JsonObject.assign
      split
      · exact ⟨hValue, hFields.2⟩
      · split
        · exact ⟨hValue, hFields⟩
        · exact ⟨hFields.1, ih hFields.2⟩

end Json

namespace JsonObject

theorem storable_nil : Storable [] :=
  ⟨⟨List.Pairwise.nil, trivial⟩, trivial⟩

theorem Storable.assign
    {fields : JsonObject}
    {js : Json}
    (hFields : Storable fields)
    (key : String)
    (hValue : js.Storable) :
    Storable (JsonObject.assign key js fields) where
  wellFormed :=
    ⟨hFields.wellFormed.1.assign key js,
      Json.wellFormedFields_assign hFields.wellFormed.2
        hValue.wellFormed key⟩
  noFraction :=
    Json.noFractionFields_assign hFields.noFraction
      hValue.noFraction key

end JsonObject

------------------------------------------------------------
-- The Codec
------------------------------------------------------------

namespace JsonCodec

variable (strtod : String → Option Rat)

theorem library_roundTrips_storable
    {js : Json}
    (hStorable : js.Storable) :
    (library strtod).RoundTrips js :=
  Json.parse_text js hStorable.wellFormed
    hStorable.noFraction

theorem library_prints :
    (library strtod).Prints ratioText where
  dump_eq := fun js => (Json.print_ratioText js).symm
  ascending := fun _ _ hParse =>
    (Json.wellFormed_of_parse hParse).1

theorem library_printsNoNull :
    (library strtod).PrintsNoNull :=
  Json.hasNoNull_text

end JsonCodec

/- The program with this library, for texts without
fractions. -/
def libraryExternals : Externals where
  codec := JsonCodec.library fun _ => none
  sha256 := sampleSha256
  collate := fun text => text

------------------------------------------------------------
-- Chat Messages
------------------------------------------------------------

namespace ChatFrame

variable {strtod : String → Option Rat} {env : Externals}

/- A quotient is not larger than the number. -/
theorem tdiv_bounds
    {value : Int}
    (hLow : -2 ^ 63 ≤ value)
    (hHigh : value < 2 ^ 63) :
    -2 ^ 63 ≤ value.tdiv 1000 ∧
      value.tdiv 1000 < 2 ^ 63 := by
  have hDiv := Int.natAbs_tdiv value 1000
  have hLess := Nat.div_le_self value.natAbs 1000
  have hSmall :
      (value.tdiv 1000).natAbs = value.natAbs / 1000 := hDiv
  omega

/- The receive time fits its type. -/
def InTime (readings : Readings) : Prop :=
  -2 ^ 63 ≤ readings.time ∧ readings.time < 2 ^ 63

theorem storable_stamp
    {fields : JsonObject}
    (hFields : JsonObject.Storable fields)
    (convId : String)
    {seq : Nat}
    (hSeq : seq < 2 ^ 64)
    {readings : Readings}
    (hTime : InTime readings) :
    JsonObject.Storable
      (ChatService.stamp convId seq readings.time fields) := by
  have hTs := tdiv_bounds hTime.1 hTime.2
  have hConvid :=
    hFields.assign msgFieldConvid (Json.storable_string convId)
  have hNumber :=
    hConvid.assign msgFieldSeq (Json.storable_unsigned hSeq)
  exact
    hNumber.assign msgFieldTs
      (Json.storable_integer hTs.1 hTs.2)

/- What the library has parsed without a fraction is parsed
again behind the server. -/
theorem stamped_roundTrips
    (hCodec : env.codec = JsonCodec.library strtod)
    (frame : ChatFrame env)
    (hWhole : (Json.object frame.fields).NoFraction)
    {seq : Nat}
    (hSeq : seq < 2 ^ 64)
    (hTime : InTime frame.readings) :
    env.codec.RoundTrips (frame.message seq) := by
  have hParsed := frame.parsed
  rw [hCodec] at hParsed ⊢
  have hFields : JsonObject.Storable frame.fields :=
    ⟨Json.wellFormed_of_parse hParsed, hWhole⟩
  exact
    JsonCodec.library_roundTrips_storable strtod
      (storable_stamp hFields frame.convId hSeq hTime)

end ChatFrame

end ClusterChat
