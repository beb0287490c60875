import ClusterChat.Protocol

/-
  The payloads that the chat handlers make, and the order in
  which a login hands over the stored ones, translated from
  `chatservice.cpp`.

  Main declarations:
    * `ChatService.stamp`
    * `ChatService.sortOfflineMessages`
    * `ChatService.loginAccepted` and
      `ChatService.withOfflineMessages`
    * `ChatService.numbered?_stamp` and
      `ChatService.readItem_of_numbered`
-/

------------------------------------------------------------
-- Stamped Payloads
------------------------------------------------------------

namespace ClusterChat

/- Microseconds since the epoch, as the network library
reports them. -/
abbrev Timestamp := Int

namespace ChatService

/- The fields that `onechat` and `groupchat` set. -/
def stamp
    (convId : String)
    (seq : Nat)
    (time : Timestamp)
    (js : JsonObject) : JsonObject :=
  JsonObject.assign msgFieldTs (.integer (time.tdiv 1000))
    (JsonObject.assign msgFieldSeq (.unsigned seq)
      (JsonObject.assign msgFieldConvid (.string convId) js))

/- A stamped message carries the number it was given. -/
theorem numbered?_stamp
    (convId : String)
    (seq : Nat)
    (time : Timestamp)
    (js : JsonObject) :
    (Json.object (stamp convId seq time js)).numbered? =
      some (convId, seq) := by
  have hSeq :
      JsonObject.find? msgFieldSeq
          (stamp convId seq time js) =
        some (.unsigned seq) := by
    unfold stamp
    rw [JsonObject.find?_assign_of_ne (by decide),
      JsonObject.find?_assign_self]
  have hConvid :
      JsonObject.find? msgFieldConvid
          (stamp convId seq time js) =
        some (.string convId) := by
    unfold stamp
    rw [JsonObject.find?_assign_of_ne (by decide),
      JsonObject.find?_assign_of_ne (by decide),
      JsonObject.find?_assign_self]
  simp [Json.numbered?, hSeq, hConvid]

------------------------------------------------------------
-- Sorting
------------------------------------------------------------

/- `Item` of `sortOfflineMessages`. -/
structure Item where
  raw : String
  conv : String := ""
  seq : Nat := 0
  ok : Bool := false
deriving DecidableEq, Repr

/- The conversation id of an item: empty when missing. -/
def itemConv (js : Json) : Except JsonException String :=
  match js.find? msgFieldConvid with
  | some convid => convid.getString
  | none => .ok ""

/-
  One turn of the loop that fills `items`.  An exception
  leaves the item without `ok`.
-/
def readItem
    (codec : JsonCodec)
    (raw : String) : Item :=
  match codec.parse raw with
  | none => { raw := raw }
  | some js =>
      match js.find? msgFieldSeq with
      | some (.unsigned seq) =>
          match itemConv js with
          | .ok conv =>
              { raw := raw, conv := conv, seq := seq,
                ok := true }
          | .error _ => { raw := raw, seq := seq }
      | _ => { raw := raw }

/- The comparison given to `stable_sort`. -/
def itemBefore (a b : Item) : Bool :=
  if a.ok ≠ b.ok then
    a.ok
  else if a.ok = false ∧ b.ok = false then
    false
  else if a.conv ≠ b.conv then
    decide (a.conv < b.conv)
  else
    decide (a.seq < b.seq)

/-
  Sort the stored messages by conversation and number, those
  without a number last.  Insertion sort stands for
  `stable_sort`: the earlier of two equal items stays first.
-/
def sortOfflineMessages
    (codec : JsonCodec)
    (msgs : List String) : List String :=
  ((msgs.map (readItem codec)).insertionSort
    fun a b => itemBefore b a = false).map Item.raw

/- A numbered message is read with its number. -/
theorem readItem_of_numbered
    {codec : JsonCodec}
    {js : Json}
    (hRoundTrips : codec.RoundTrips js)
    {conv : String}
    {seq : Nat}
    (hNumbered : js.numbered? = some (conv, seq)) :
    readItem codec (codec.dump js) =
      { raw := codec.dump js, conv := conv, seq := seq,
        ok := true } := by
  have hParsed := Json.numbered?_normalize hNumbered
  unfold readItem
  rw [hRoundTrips]
  dsimp only
  unfold Json.numbered? at hParsed
  split at hParsed
  · rename_i name number hConvid hSeq
    rw [hSeq]
    have hStamp := Option.some.inj hParsed
    have hName : name = conv := congrArg Prod.fst hStamp
    have hNumber : number = seq := congrArg Prod.snd hStamp
    simp [itemConv, hConvid, Json.getString, hName, hNumber]
  · simp at hParsed

------------------------------------------------------------
-- The Login Answer
------------------------------------------------------------

/- The first fields of the answer to a successful login. -/
def loginAccepted
    (id : Int)
    (name : String) : JsonObject :=
  JsonObject.assign "name" (.string name)
    (JsonObject.assign "id" (.integer id)
      (JsonObject.assign "errno" (.integer 0)
        (JsonObject.assign "msgid"
          (.integer EnMsgType.loginAckMsg.code) [])))

/- The stored messages are added when there are any. -/
def withOfflineMessages
    (codec : JsonCodec)
    (vec : List String)
    (response : JsonObject) : JsonObject :=
  if vec.isEmpty then
    response
  else
    JsonObject.assign "offlinemsg"
      (.array ((sortOfflineMessages codec vec).map .string))
      response

end ChatService

end ClusterChat
