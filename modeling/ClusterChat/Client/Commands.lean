import ClusterChat.Frame
import ClusterChat.Protocol

/-
  The commands of the client, translated from `main.cpp` of
  the client.

  What the user types are bytes.  A handler sends at most one
  frame, and the dump of the frame throws when a text of it
  is not UTF-8.

  Main declarations:
    * `Client.stoi` and `Client.atoi`
    * `Client.splitColon`
    * `Client.Command` and `Client.commandHandlerMap`
    * `Client.Command.handle`
-/

------------------------------------------------------------
-- Numbers
------------------------------------------------------------

namespace ClusterChat

namespace Client

/- `isspace` of the C library. -/
def isSpace (byte : UInt8) : Bool :=
  byte = 32 || (9 ≤ byte && byte ≤ 13)

/- `isdigit` of the C library. -/
def isDigit (byte : UInt8) : Bool :=
  48 ≤ byte && byte ≤ 57

/- The value of decimal digits. -/
def digitsValue (text : Bytes) : Nat :=
  text.foldl (fun value digit =>
    10 * value + (digit.toNat - 48)) 0

/- The sign of a number, and what comes after it. -/
def takeSign : Bytes → Int × Bytes
| 45 :: rest => (-1, rest)
| 43 :: rest => (1, rest)
| rest => (1, rest)

/- The number at the start of a text, behind white space, if
there is one. -/
def leadingNumber (text : Bytes) : Option Int :=
  let (sign, rest) := takeSign (text.dropWhile isSpace)
  let digits := rest.takeWhile isDigit
  if digits.isEmpty then
    none
  else
    some (sign * digitsValue digits)

/- `stoi`, without a value where it throws: there is no
number, or it is not an `int`. -/
def stoi (text : Bytes) : Option Int :=
  match leadingNumber text with
  | none => none
  | some value =>
      if -2 ^ 31 ≤ value ∧ value < 2 ^ 31 then
        some value
      else
        none

/- `atoi`: a `long` within its bounds, cut to an `int`. -/
def atoi (text : Bytes) : Int :=
  match leadingNumber text with
  | none => 0
  | some value =>
      toInt32 (max (-2 ^ 63) (min value (2 ^ 63 - 1)))

------------------------------------------------------------
-- Texts
------------------------------------------------------------

/- The byte of `:`. -/
def colon : UInt8 := 58

/- What stands before and after the first colon, if there is
one: `find` and the two calls of `substr`. -/
def splitColon (text : Bytes) : Option (Bytes × Bytes) :=
  match text.findIdx? fun byte => byte = colon with
  | none => none
  | some idx =>
      some
        (text.take idx,
          (text.drop (idx + 1)).take (text.length - idx))

/- A text as the dump of a frame writes it. -/
def dumpedText
    (text : Bytes) : Except JsonException Json :=
  match String.fromUTF8? ⟨text.toArray⟩ with
  | some dumped => .ok (.string dumped)
  | none => .error .typeError

------------------------------------------------------------
-- Commands
------------------------------------------------------------

/- The id and the name of `g_currentUser`. -/
structure CurrentUser where
  id : Int
  name : String

/- The commands of `commandHandlerMap`. -/
inductive Command where
| help
| chat
| addfriend
| creategroup
| addgroup
| groupchat
| loginout
deriving DecidableEq, Repr

namespace Command

/- What the user types for a command. -/
def name : Command → String
| help => "help"
| chat => "chat"
| addfriend => "addfriend"
| creategroup => "creategroup"
| addgroup => "addgroup"
| groupchat => "groupchat"
| loginout => "loginout"

end Command

/- `commandHandlerMap`, as a function of the key. -/
def commandHandlerMap (command : Bytes) : Option Command :=
  [.help, .chat, .addfriend, .creategroup, .addgroup,
    .groupchat, .loginout].find? fun handler : Command =>
      utf8 handler.name = command

/- The frame that a handler sends, if any, or the exception of
its dump. -/
abbrev Sent := Except JsonException (Option JsonObject)

variable (user : CurrentUser) (time : String)

/- A frame with the type and the sender, and the members
that follow. -/
def request
    (type : EnMsgType)
    (members : List (String × Json)) : JsonObject :=
  members.foldl
    (fun js member => JsonObject.assign member.1 member.2 js)
    (JsonObject.assign "id" (.integer user.id)
      (JsonObject.assign "msgid" (.integer type.code) []))

/- `addfriend`; an error in the format is only printed. -/
def addfriend
    (str : Bytes) : Sent :=
  if str.isEmpty then
    .ok none
  else
    match stoi str with
    | none => .ok none
    | some friendid =>
        .ok (some (request user .addFriendMsg
          [("friendid", .integer friendid)]))

/- `chat` -/
def chat
    (str : Bytes) : Sent :=
  match splitColon str with
  | none => .ok none
  | some (friendid, message) => do
      let msg ← dumpedText message
      return some (request user .oneChatMsg
        [("name", .string user.name),
          ("toid", .integer (atoi friendid)), ("msg", msg),
          ("time", .string time)])

/- `creategroup` -/
def creategroup
    (str : Bytes) : Sent :=
  match splitColon str with
  | none => .ok none
  | some (groupname, groupdesc) => do
      let name ← dumpedText groupname
      let desc ← dumpedText groupdesc
      return some (request user .createGroupMsg
        [("groupname", name), ("groupdesc", desc)])

/- `addgroup` -/
def addgroup
    (str : Bytes) : Sent :=
  if str.isEmpty then
    .ok none
  else
    match stoi str with
    | none => .ok none
    | some groupid =>
        .ok (some (request user .addGroupMsg
          [("groupid", .integer groupid)]))

/- `groupchat` -/
def groupchat
    (str : Bytes) : Sent :=
  match splitColon str with
  | none => .ok none
  | some (target, message) =>
      match stoi target with
      | none => .ok none
      | some groupid => do
          let msg ← dumpedText message
          return some (request user .groupChatMsg
            [("name", .string user.name),
              ("groupid", .integer groupid), ("msg", msg),
              ("time", .string time)])

/- `loginout` -/
def loginout : Sent :=
  .ok (some (request user .loginoutMsg []))

/- The handler of a command.  `help` only prints. -/
def Command.handle
    (command : Command)
    (args : Bytes) : Sent :=
  match command with
  | .help => .ok none
  | .chat => Client.chat user time args
  | .addfriend => Client.addfriend user args
  | .creategroup => Client.creategroup user args
  | .addgroup => Client.addgroup user args
  | .groupchat => Client.groupchat user time args
  | .loginout => Client.loginout user

end Client

end ClusterChat
