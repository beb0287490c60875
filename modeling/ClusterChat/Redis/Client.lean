import ClusterChat.Json

/-
  The wrapper around the Redis library, translated from
  `redis.cpp`: the commands it sends, the sequence numbers it
  hands out, and what it reads from a subscription.

  A reply is what the library returns for one command; a null
  reply, after a lost connection, is `none`.

  Main declarations:
    * `RedisReply` and its fields
    * `Redis.publishCommand` and `Redis.subscribeCommand`
    * `Redis.observe`
    * `RedisClient.incrSeq`
-/

------------------------------------------------------------
-- Replies
------------------------------------------------------------

namespace ClusterChat

/- `redisReply` by its `type`. -/
inductive RedisReply where
| string (text : String)
| array (elements : List RedisReply)
| integer (value : Int)
| nil
| status (text : String)
| error (text : String)

namespace RedisReply

/- The `integer` field: zero for any other type. -/
def integerField : RedisReply → Int
| .integer value => value
| _ => 0

/- The `str` field: null where a reply has no text. -/
def str : RedisReply → Option String
| .string text => some text
| .status text => some text
| .error text => some text
| _ => none

/- `element[i]`: only an array has elements. -/
def element
    (reply : RedisReply)
    (i : Nat) : Option RedisReply :=
  match reply with
  | .array elements => elements[i]?
  | _ => none

end RedisReply

------------------------------------------------------------
-- Commands and Subscriptions
------------------------------------------------------------

/- A C string ends at the first null character. -/
def cString (text : String) : String :=
  String.ofList
    (text.toList.takeWhile fun c => decide (c.toNat ≠ 0))

/- A text without a null character is read as it is. -/
theorem cString_eq_self_iff (text : String) :
    cString text = text ↔
      ∀ c ∈ text.toList, c.toNat ≠ 0 := by
  have hList :
      cString text = text ↔
        text.toList.takeWhile
            (fun c => decide (c.toNat ≠ 0)) =
          text.toList := by
    rw [← String.toList_inj]
    unfold cString
    rw [String.toList_ofList]
  rw [hList, List.takeWhile_eq_self_iff]
  simp

@[simp] theorem cString_cString (text : String) :
    cString (cString text) = cString text := by
  rw [cString_eq_self_iff]
  intro c hMember
  unfold cString at hMember
  rw [String.toList_ofList] at hMember
  have hKept := List.mem_takeWhile_imp hMember
  exact of_decide_eq_true hKept

namespace Redis

/- The channel name that `%d` prints. -/
def channelName (channel : Int) : String :=
  toString channel

/- `PUBLISH %d %s` -/
def publishCommand
    (channel : Int)
    (message : String) : List String :=
  ["PUBLISH", channelName channel, cString message]

/- `SUBSCRIBE %d` -/
def subscribeCommand (channel : Int) : List String :=
  ["SUBSCRIBE", channelName channel]

/- `UNSUBSCRIBE %d` -/
def unsubscribeCommand (channel : Int) : List String :=
  ["UNSUBSCRIBE", channelName channel]

/- A published message, as a subscriber receives it. -/
def messageReply
    (channel message : String) : RedisReply :=
  .array
    [.string "message", .string channel, .string message]

/- The confirmation of a subscription or its end. -/
def confirmationReply
    (kind channel : String)
    (count : Int) : RedisReply :=
  .array [.string kind, .string channel, .integer count]

/-
  One turn of the loop in `observer_channel_message`: the
  arguments of the callback, if it is called.  A reply with
  fewer than three elements is never taken as a message.
-/
def observe (reply : RedisReply) : Option (Int × String) :=
  match reply.element 1, reply.element 2 with
  | some channel, some message =>
      match message.str with
      | some text =>
          some (toInt32 channel.integerField, cString text)
      | none => none
  | _, _ => none

end Redis

------------------------------------------------------------
-- Sequence Numbers
------------------------------------------------------------

/-
  The fields of `redis` that numbering uses: whether the
  command context exists, and the local counters.
-/
structure RedisClient where
  commandContext : Bool
  redisAvailable : Bool
  localSeq : String → Nat

namespace RedisClient

/- The client after `connect()` returned. -/
def connected (ok : Bool) : RedisClient where
  commandContext := ok
  redisAvailable := ok
  localSeq := fun _ => 0

/- `kFallbackBase` -/
def fallbackBase : Nat := 2 ^ 40

/- `localFallbackSeq` -/
def localFallbackSeq
    (client : RedisClient)
    (conversationId : String) : RedisClient × Nat :=
  let v := (client.localSeq conversationId + 1) % 2 ^ 64
  ({ client with
      localSeq :=
        Function.update client.localSeq conversationId v },
    (fallbackBase + v) % 2 ^ 64)

/- The first test of `incrSeq`: is the command sent at all? -/
def sendsIncr (client : RedisClient) : Bool :=
  client.commandContext && client.redisAvailable

@[simp] theorem sendsIncr_localFallbackSeq
    (client : RedisClient)
    (conversationId : String) :
    (client.localFallbackSeq conversationId).1.sendsIncr =
      client.sendsIncr := rfl

/- `incrSeq`, with the reply to its command. -/
def incrSeq
    (client : RedisClient)
    (conversationId : String)
    (reply : Option RedisReply) : RedisClient × Nat :=
  if client.sendsIncr then
    match reply with
    | none =>
        localFallbackSeq
          { client with redisAvailable := false }
          conversationId
    | some (.integer value) =>
        if toUInt64 value = 0 then
          client.localFallbackSeq conversationId
        else
          (client, toUInt64 value)
    | some _ => client.localFallbackSeq conversationId
  else
    client.localFallbackSeq conversationId

end RedisClient

end ClusterChat
