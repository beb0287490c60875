import ClusterChat.Client.MainMenu
import ClusterChat.Library.LastWriter
import ClusterChat.Server.ConnectionPool

/-
  The configuration of the database, translated from
  `loadConfig` in `connectionpool.cpp`.

  The environment is read first and the file afterwards, so a
  line of the file overrides the environment, although the
  comments of the code and of the example file promise the
  opposite.

  Main declarations:
    * `linesOf` and `DbConfig.readLine`
    * `loadConfig`
    * `lastValue` and `lastNumber`
    * `load_config_last_line_wins`
-/

------------------------------------------------------------
-- The File
------------------------------------------------------------

namespace ClusterChat

/- The lines that `getline` reads: a last one that is empty is
none. -/
def linesOf : Bytes → List Bytes
| [] => []
| byte :: rest =>
    if byte = Client.newline then
      [] :: linesOf rest
    else
      match linesOf rest with
      | [] => [[byte]]
      | line :: lines => (byte :: line) :: lines

/- The bytes of `#` and `=`. -/
def hash : UInt8 := 35

def equals : UInt8 := 61

/- The key and the value of a line, unless it is skipped. -/
def entryOf (line : Bytes) : Option (Bytes × Bytes) :=
  if line.isEmpty || line.head? = some hash then
    none
  else
    (line.findIdx? fun byte => byte = equals).map fun pos =>
      (line.take pos, line.drop (pos + 1))

/- The keys that are known. -/
inductive ConfigKey where
| host
| user
| password
| dbname
| port
| initSize
| maxSize
| maxIdleTime
deriving DecidableEq, Repr

namespace ConfigKey

def text : ConfigKey → String
| host => "host"
| user => "user"
| password => "password"
| dbname => "dbname"
| port => "port"
| initSize => "initSize"
| maxSize => "maxSize"
| maxIdleTime => "maxIdleTime"

/- The comparisons of a key, in their order. -/
def of? (k : Bytes) : Option ConfigKey :=
  [host, user, password, dbname, port, initSize, maxSize,
    maxIdleTime].find? fun key => k = utf8 key.text

theorem of?_text (key : ConfigKey) :
    of? (utf8 key.text) = some key := by
  cases key <;> decide +kernel

theorem of?_eq_some_iff
    {k : Bytes}
    {key : ConfigKey} :
    of? k = some key ↔ k = utf8 key.text := by
  constructor
  · intro hFound
    unfold of? at hFound
    have hText := List.find?_some hFound
    exact of_decide_eq_true hText
  · intro hText
    rw [hText, of?_text]

end ConfigKey

/- The members of `ConnectionPool` that are loaded, with the
values that they start with. -/
structure DbConfig where
  host : Bytes := []
  user : Bytes := []
  passwd : Bytes := []
  dbname : Bytes := []
  port : UInt16 := 3306
  pool : PoolConfig := {}

namespace DbConfig

/- The environment variables that are set. -/
def readEnvironment
    (getenv : String → Option Bytes)
    (config : DbConfig) : DbConfig where
  host := (getenv "CHAT_DB_HOST").getD config.host
  user := (getenv "CHAT_DB_USER").getD config.user
  passwd := (getenv "CHAT_DB_PASSWD").getD config.passwd
  dbname := (getenv "CHAT_DB_NAME").getD config.dbname
  port := config.port
  pool := config.pool

/- One entry of the file.  `stoi` may throw, and a key that is
not known is ignored. -/
def set
    (config : DbConfig)
    (k v : Bytes) : Option DbConfig :=
  match ConfigKey.of? k with
  | some .host => some { config with host := v }
  | some .user => some { config with user := v }
  | some .password => some { config with passwd := v }
  | some .dbname => some { config with dbname := v }
  | some .port =>
      (Client.stoi v).map fun n =>
        { config with port := UInt16.ofInt n }
  | some .initSize =>
      (Client.stoi v).map fun n =>
        { config with pool.initSize := n }
  | some .maxSize =>
      (Client.stoi v).map fun n =>
        { config with pool.maxSize := n }
  | some .maxIdleTime =>
      (Client.stoi v).map fun n =>
        { config with pool.maxIdleTime := n }
  | none => some config

/- One line of the file. -/
def readLine
    (config : DbConfig)
    (line : Bytes) : Option DbConfig :=
  match entryOf line with
  | none => some config
  | some (k, v) => config.set k v

/- The defaults of what is still empty. -/
def fillIn (config : DbConfig) : DbConfig :=
  { config with
    host :=
      if config.host.isEmpty then
        utf8 "127.0.0.1"
      else
        config.host
    dbname :=
      if config.dbname.isEmpty then
        utf8 "chat"
      else
        config.dbname }

end DbConfig

/- `loadConfig` with the environment and the file, if it can be
opened: the members, and whether there is a user.  There is no
result when `stoi` throws. -/
def loadConfig
    (getenv : String → Option Bytes)
    (file : Option Bytes) : Option (DbConfig × Bool) := do
  let config : DbConfig := DbConfig.readEnvironment getenv {}
  let config ←
    ((file.map linesOf).getD []).foldlM DbConfig.readLine
      config
  return (config.fillIn, !config.user.isEmpty)

------------------------------------------------------------
-- Settings
------------------------------------------------------------

/- The value of a line with this key. -/
def valueOf
    (key : ConfigKey)
    (line : Bytes) : Option Bytes :=
  (entryOf line).bind fun entry =>
    if ConfigKey.of? entry.1 = some key then
      some entry.2
    else
      none

/- The value of the last line with this key. -/
def lastValue
    (key : ConfigKey)
    (lines : List Bytes) : Option Bytes :=
  (lines.filterMap (valueOf key)).getLast?

/- The settings that are texts. -/
inductive TextSetting where
| host
| user
| passwd
| dbname
deriving DecidableEq, Repr

namespace TextSetting

def key : TextSetting → ConfigKey
| host => .host
| user => .user
| passwd => .password
| dbname => .dbname

/- The environment variable of the setting. -/
def environment : TextSetting → String
| host => "CHAT_DB_HOST"
| user => "CHAT_DB_USER"
| passwd => "CHAT_DB_PASSWD"
| dbname => "CHAT_DB_NAME"

def read (config : DbConfig) : TextSetting → Bytes
| host => config.host
| user => config.user
| passwd => config.passwd
| dbname => config.dbname

/- What is used when it is empty. -/
def default : TextSetting → Bytes
| host => utf8 "127.0.0.1"
| dbname => utf8 "chat"
| _ => []

end TextSetting

/- The settings that are numbers. -/
inductive NumberSetting where
| port
| initSize
| maxSize
| maxIdleTime
deriving DecidableEq, Repr

namespace NumberSetting

def key : NumberSetting → ConfigKey
| port => .port
| initSize => .initSize
| maxSize => .maxSize
| maxIdleTime => .maxIdleTime

def read (config : DbConfig) : NumberSetting → Int
| port => config.port.toNat
| initSize => config.pool.initSize
| maxSize => config.pool.maxSize
| maxIdleTime => config.pool.maxIdleTime

/- The cast of the port drops bits. -/
def stored (number : Int) : NumberSetting → Int
| port => number % 2 ^ 16
| _ => number

end NumberSetting

theorem toNat_ofInt (n : Int) :
    ((UInt16.ofInt n).toNat : Int) = n % 2 ^ 16 := by
  unfold UInt16.ofInt
  rw [UInt16.toNat_ofNat']
  omega

/- What a line makes of the setting. -/
def numberOf
    (setting : NumberSetting)
    (line : Bytes) : Option Int :=
  (valueOf setting.key line).bind fun v =>
    (Client.stoi v).map fun n => setting.stored n

/- What the last line with its key makes of the setting. -/
def lastNumber
    (setting : NumberSetting)
    (lines : List Bytes) : Option Int :=
  (lines.filterMap (numberOf setting)).getLast?

/- `stoi` throws on the value of the line. -/
def BadNumber (line : Bytes) : Prop :=
  ∃ setting : NumberSetting,
    ∃ v ∈ valueOf setting.key line, Client.stoi v = none

------------------------------------------------------------
-- One Line
------------------------------------------------------------

namespace DbConfig

variable {config next : DbConfig} {k v : Bytes}

/- Only an entry with its key writes a text. -/
theorem set_text
    (hSet : config.set k v = some next)
    (setting : TextSetting) :
    setting.read next =
      if ConfigKey.of? k = some setting.key then
        v
      else
        setting.read config := by
  unfold set at hSet
  cases hKey : ConfigKey.of? k with
  | none =>
      rw [hKey] at hSet
      rw [← Option.some.inj hSet]
      rfl
  | some key =>
      rw [hKey] at hSet
      cases key with
      | host | user | password | dbname =>
          rw [← Option.some.inj hSet]
          cases setting <;> rfl
      | port | initSize | maxSize | maxIdleTime =>
          rcases Option.map_eq_some_iff.mp hSet with
            ⟨n, _, hNext⟩
          rw [← hNext]
          cases setting <;> rfl

/- The same for a number, which has been read. -/
theorem set_number
    (hSet : config.set k v = some next)
    (setting : NumberSetting) :
    if ConfigKey.of? k = some setting.key then
      ∃ n, Client.stoi v = some n ∧
        setting.read next = setting.stored n
    else
      setting.read next = setting.read config := by
  unfold set at hSet
  cases hKey : ConfigKey.of? k with
  | none =>
      rw [hKey] at hSet
      rw [← Option.some.inj hSet]
      rfl
  | some key =>
      rw [hKey] at hSet
      cases key with
      | host | user | password | dbname =>
          rw [← Option.some.inj hSet]
          cases setting <;> rfl
      | port =>
          rcases Option.map_eq_some_iff.mp hSet with
            ⟨n, hN, hNext⟩
          rw [← hNext]
          cases setting with
          | port => exact ⟨n, hN, toNat_ofInt n⟩
          | _ => rfl
      | initSize | maxSize | maxIdleTime =>
          rcases Option.map_eq_some_iff.mp hSet with
            ⟨n, hN, hNext⟩
          rw [← hNext]
          cases setting <;> first | rfl | exact ⟨n, hN, rfl⟩

/- Only the value of a number can make it throw. -/
theorem set_eq_none_iff :
    config.set k v = none ↔
      ∃ setting : NumberSetting,
        ConfigKey.of? k = some setting.key ∧
          Client.stoi v = none := by
  have hNumber (setting : NumberSetting) :
      (∃ other : NumberSetting,
          some setting.key = some other.key ∧
            Client.stoi v = none) ↔
        Client.stoi v = none :=
    ⟨fun hSome => hSome.choose_spec.2,
      fun hNone => ⟨setting, rfl, hNone⟩⟩
  have hText (setting : TextSetting) :
      ¬ ∃ other : NumberSetting,
          some setting.key = some other.key ∧
            Client.stoi v = none := by
    rintro ⟨other, hSame, _⟩
    cases setting <;> cases other <;> cases hSame
  unfold set
  cases hKey : ConfigKey.of? k with
  | none => simp
  | some key =>
      cases key with
      | host => exact iff_of_false (by simp) (hText .host)
      | user => exact iff_of_false (by simp) (hText .user)
      | password => exact iff_of_false (by simp) (hText .passwd)
      | dbname => exact iff_of_false (by simp) (hText .dbname)
      | port =>
          exact
            Option.map_eq_none_iff.trans (hNumber .port).symm
      | initSize =>
          exact
            Option.map_eq_none_iff.trans
              (hNumber .initSize).symm
      | maxSize =>
          exact
            Option.map_eq_none_iff.trans
              (hNumber .maxSize).symm
      | maxIdleTime =>
          exact
            Option.map_eq_none_iff.trans
              (hNumber .maxIdleTime).symm

variable {line : Bytes}

theorem readLine_of_entry
    (config : DbConfig)
    (hEntry : entryOf line = some (k, v)) :
    config.readLine line = config.set k v ∧
      ∀ key, valueOf key line =
        if ConfigKey.of? k = some key then some v else none := by
  unfold readLine valueOf
  rw [hEntry]
  exact ⟨rfl, fun _ => rfl⟩

theorem readLine_of_none
    (config : DbConfig)
    (hEntry : entryOf line = none) :
    config.readLine line = some config ∧
      ∀ key, valueOf key line = none := by
  unfold readLine valueOf
  rw [hEntry]
  exact ⟨rfl, fun _ => rfl⟩

theorem readLine_text
    (setting : TextSetting)
    (hRead : config.readLine line = some next) :
    setting.read next =
      (valueOf setting.key line).getD
        (setting.read config) := by
  cases hEntry : entryOf line with
  | none =>
      rcases readLine_of_none config hEntry with
        ⟨hSame, hNone⟩
      rw [hSame] at hRead
      rw [hNone, ← Option.some.inj hRead]
      rfl
  | some entry =>
      rcases readLine_of_entry config hEntry with
        ⟨hSet, hValue⟩
      rw [hSet] at hRead
      rw [hValue, set_text hRead setting]
      split <;> rfl

theorem readLine_number
    (setting : NumberSetting)
    (hRead : config.readLine line = some next) :
    setting.read next =
      (numberOf setting line).getD (setting.read config) := by
  unfold numberOf
  cases hEntry : entryOf line with
  | none =>
      rcases readLine_of_none config hEntry with
        ⟨hSame, hNone⟩
      rw [hSame] at hRead
      rw [hNone, ← Option.some.inj hRead]
      rfl
  | some entry =>
      rcases readLine_of_entry config hEntry with
        ⟨hSet, hValue⟩
      rw [hSet] at hRead
      have hNumber := set_number hRead setting
      rw [hValue]
      split at hNumber
      · rename_i hKey
        rcases hNumber with ⟨n, hN, hStored⟩
        rw [if_pos hKey, Option.bind_some, hN, hStored]
        rfl
      · rename_i hKey
        rw [if_neg hKey, hNumber]
        rfl

theorem readLine_eq_none_iff :
    config.readLine line = none ↔ BadNumber line := by
  unfold BadNumber
  cases hEntry : entryOf line with
  | none =>
      rcases readLine_of_none config hEntry with
        ⟨hSame, hNone⟩
      rw [hSame]
      simp [hNone]
  | some entry =>
      rcases readLine_of_entry config hEntry with
        ⟨hSet, hValue⟩
      rw [hSet, set_eq_none_iff]
      simp [hValue]

end DbConfig

------------------------------------------------------------
-- The Whole File
------------------------------------------------------------

/-
  For every environment and every file, the last line with a
  key decides.  Only where there is none the environment is
  asked, and only an empty host or database has a default.
  Loading throws exactly when the value of some number is none
  in any of the lines, also in one that a later line overrides.
-/
theorem load_config_last_line_wins
    (getenv : String → Option Bytes)
    (file : Option Bytes) :
    let lines := (file.map linesOf).getD []
    (loadConfig getenv file = none ↔
      ∃ line ∈ lines, BadNumber line) ∧
      ∀ config ready,
        loadConfig getenv file = some (config, ready) →
          (∀ setting : TextSetting,
            let value :=
              (lastValue setting.key lines).getD
                ((getenv setting.environment).getD [])
            setting.read config =
              if value.isEmpty then
                setting.default
              else
                value) ∧
            (∀ setting : NumberSetting,
              setting.read config =
                (lastNumber setting lines).getD
                  (setting.read {})) ∧
              (ready = true ↔ config.user ≠ []) := by
  intro lines
  have hLoad :
      loadConfig getenv file =
        (lines.foldlM DbConfig.readLine
          (DbConfig.readEnvironment getenv {})).map
            fun config =>
              (config.fillIn, !config.user.isEmpty) :=
    Option.map_eq_bind.symm
  rw [hLoad]
  constructor
  · rw [Option.map_eq_none_iff]
    exact
      LastWriter.foldlM_eq_none_iff fun _ _ =>
        DbConfig.readLine_eq_none_iff
  · intro config ready hSome
    rcases Option.map_eq_some_iff.mp hSome with
      ⟨final, hRun, hSame⟩
    cases hSame
    have hText (setting : TextSetting) :
        setting.read final =
          (lastValue setting.key lines).getD
            ((getenv setting.environment).getD []) := by
      have hWrites (config : DbConfig) (line : Bytes) :=
        fun next =>
          @DbConfig.readLine_text config next line setting
      refine (LastWriter.read_foldlM hWrites hRun).trans ?_
      cases setting <;> rfl
    have hNumber (setting : NumberSetting) :
        setting.read final =
          (lastNumber setting lines).getD
            (setting.read {}) := by
      have hWrites (config : DbConfig) (line : Bytes) :=
        fun next =>
          @DbConfig.readLine_number config next line setting
      refine (LastWriter.read_foldlM hWrites hRun).trans ?_
      cases setting <;> rfl
    refine ⟨fun setting => ?_, fun setting => ?_, ?_⟩
    · rw [← hText]
      cases setting with
      | host | dbname => rfl
      | user | passwd =>
          dsimp only
          split
          · rename_i hEmpty
            exact List.isEmpty_iff.mp hEmpty
          · rfl
    · rw [← hNumber]
      cases setting <;> rfl
    · simp [DbConfig.fillIn]

/- The file overrides the environment. -/
example :
    (loadConfig (fun _ => some (utf8 "env"))
      (some (utf8 "user=file\n"))).map
        (fun loaded => loaded.1.user) =
      some (utf8 "file") := by
  decide +kernel

end ClusterChat
