import ClusterChat.Client.Commands

/-
  The frames that users make the client send, translated from
  `main` and the commands in `main.cpp` of the client.

  Main declarations:
    * `Client.Typed`
    * `Client.Typed.sent`
-/

------------------------------------------------------------
-- What Users Type
------------------------------------------------------------

namespace ClusterChat

namespace Client

/- A choice of the start menu with a name and a password, or
a command of the user who is logged in. -/
inductive Typed where
| login (name password : Bytes)
| register (name password : Bytes)
| command
    (user : CurrentUser) (time : String)
    (handler : Command) (args : Bytes)

/- The frame for a name and a password. -/
def credentials
    (type : EnMsgType)
    (name password : Bytes) : Sent := do
  let name ← dumpedText name
  let password ← dumpedText password
  return some
    (JsonObject.assign "password" password
      (JsonObject.assign "name" name
        (JsonObject.assign "msgid" (.integer type.code) [])))

/- The frame that is sent for it, if any. -/
def Typed.sent : Typed → Sent
| .login name password => credentials .loginMsg name password
| .register name password => credentials .regMsg name password
| .command user time handler args =>
    handler.handle user time args

end Client

end ClusterChat
