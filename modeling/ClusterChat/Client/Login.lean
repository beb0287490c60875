import ClusterChat.Orderer.Model

/-
  What the client does with the offline messages of a login
  answer, translated from `main.cpp` of the client.

  Main declarations:
    * `Client.offlineMessages`
    * `Client.showOffline`
    * `Client.offlineMessages_of_strings`
-/

------------------------------------------------------------
-- Offline Messages
------------------------------------------------------------

namespace ClusterChat

namespace Client

/-
  The messages that the client hands to `onOfflineBatch`:
  those of the answer's strings that parse.  Without the
  member there is no call.
-/
def offlineMessages
    (codec : JsonCodec)
    (response : Json) :
    Except JsonException (Option (List Json)) :=
  match response.find? "offlinemsg" with
  | some field => do
      let vec ← field.getStrings
      return some (vec.filterMap codec.parse)
  | none => return none

/- The replay: the clock is read once for every message. -/
def showOffline
    (orderer : ConversationOrderer)
    (offline : Option (List (Json × TimePoint)))
    (visits : Visits) :
    Except JsonException
      (ConversationOrderer × List Effect) :=
  match offline with
  | some batch => orderer.onOfflineBatch batch visits
  | none => return (orderer, [])

theorem getStrings_strings (vec : List String) :
    (Json.array (vec.map .string)).getStrings = .ok vec := by
  unfold Json.getStrings
  induction vec with
  | nil => rfl
  | cons text vec ih =>
      dsimp only at ih ⊢
      rw [List.map_cons, List.mapM_cons, ih]
      rfl

theorem normalize_strings (vec : List String) :
    (Json.array (vec.map .string)).normalize =
      Json.array (vec.map .string) := by
  have hList :
      Json.normalizeList (vec.map .string) =
        vec.map .string := by
    induction vec with
    | nil => rfl
    | cons text vec ih =>
        rw [List.map_cons, Json.normalizeList, ih,
          Json.normalize]
  rw [Json.normalize, hList]

/- A list of strings arrives as it was sent. -/
theorem offlineMessages_of_strings
    (codec : JsonCodec)
    {response : Json}
    {vec : List String}
    (hField :
      response.find? "offlinemsg" =
        some (.array (vec.map .string))) :
    offlineMessages codec response.normalize =
      .ok (some (vec.filterMap codec.parse)) := by
  unfold offlineMessages
  rw [Json.find?_normalize, hField, Option.map_some,
    normalize_strings]
  dsimp only
  rw [getStrings_strings]
  rfl

end Client

end ClusterChat
