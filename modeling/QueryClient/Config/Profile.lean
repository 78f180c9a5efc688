import QueryClient.Config.Basic
import QueryClient.Text.Utf8
import QueryClient.Toml.Reader

/-!
# Config files

A config file holds a table of defaults and any number of named profiles, all tables of the same
settings. `ConfigFile.read?` reads one, and `ConfigFile.config` makes a configuration of the
defaults and perhaps one profile: a profile's setting wins over the default, which wins over the
built-in one. Settings that are not known are kept by name.
-/

namespace QueryClient

open Toml (Item)

/-! ### Settings -/

/-- The settings of one table. -/
structure Profile where
  host : Option String
  port : Option Nat
  user : Option String
  password : Option String
  /-- The environment variable that holds the password. -/
  passwordVariable : Option String
  /-- How long connecting may take, in seconds. -/
  connectTimeout : Option Nat
  /-- How long a request may take, in seconds. -/
  socketTimeout : Option Nat
  maxWarnings : Option Int
  sqlCompat : Option Bool
  dataverse : Option String
  activeRequestsPath : Option String
  ssl : Option Bool
  policy : Option TransientPolicy
  /-- The names of the settings that are not known. -/
  unknown : List String

namespace Setting

/-- A text. -/
def text? : Item → Option String
  | .string s => some s
  | _ => none

/-- An integer. -/
def integer? : Item → Option Int
  | .integer n => some n
  | _ => none

/-- An integer from 0 to `most`. -/
def natural? (most : Nat) (item : Item) : Option Nat :=
  (integer? item).bind fun n => if 0 ≤ n ∧ n ≤ most then some n.toNat else none

/-- A truth value. -/
def bool? : Item → Option Bool
  | .bool b => some b
  | _ => none

/-- Whether an item is a table or an array that holds nothing. -/
def isEmpty : Item → Bool
  | .table _ members => members.isEmpty
  | .array items => items.isEmpty
  | _ => false

/-- A policy: its name, or a table in which the name stands for nothing. An inline table has no
other members, and of any other table the first one counts. -/
def policy? : Item → Option TransientPolicy
  | .string s => TransientPolicy.ofName? s
  | .table .inline (_ :: _ :: _) => none
  | .table _ ((name, item) :: _) => if isEmpty item then TransientPolicy.ofName? name else none
  | _ => none

/-- The name of the one member of a table that stands for a moment. -/
def momentName : String := "$__toml_private_datetime"

/-- The members of a table. A moment counts as a table with one member. -/
def members? : Item → Option (Members Item)
  | .table _ members => some members
  | .moment text => some [(momentName, .string text)]
  | _ => none

/-- Whether an item is a text that writes a moment. -/
def writesMoment : Item → Bool
  | .string s => Toml.isMoment s.toList
  | _ => false

mutual

/-- Whether an item can be the value of a setting that is not known. A table that starts with the
name for moments has to stand for one. -/
def isValue : Item → Bool
  | .array items => areValues items
  | .table _ members => areMembers members
  | .tables elements => areTables elements
  | _ => true

/-- Whether all items can be values. -/
def areValues : List Item → Bool
  | [] => true
  | item :: rest => isValue item && areValues rest

/-- Whether the members can be those of a table that is a value. -/
def areMembers : List (String × Item) → Bool
  | [] => true
  | (name, item) :: rest =>
    if name = momentName then writesMoment item && rest.isEmpty
    else isValue item && areLaterMembers rest

/-- Whether the members can be those of such a table after the first one. -/
def areLaterMembers : List (String × Item) → Bool
  | [] => true
  | (_, item) :: rest => isValue item && areLaterMembers rest

/-- Whether all tables of an array can be values. -/
def areTables : List (List (String × Item)) → Bool
  | [] => true
  | members :: rest => areMembers members && areTables rest

end

/-- The setting of the given name: nothing if it is absent, and a failure if it cannot be read. -/
def get? {α : Type} (read : Item → Option α) (name : String) (members : Members Item) :
    Option (Option α) :=
  match Members.get? name members with
  | none => some none
  | some item => (read item).map some

/-- The names of the known settings. -/
def names : List String :=
  ["host", "port", "user", "password", "password_env", "connect_timeout", "socket_timeout",
    "max_warnings", "sql_compat", "dataverse", "active_requests_path", "ssl", "transient_policy"]

/-- The names of the settings that are not known. Their values can be anything that is a value. -/
def unknown? (members : Members Item) : Option (List String) :=
  let others := members.filter fun (name, _) => !names.contains name
  if others.all fun (_, item) => isValue item then some (Members.names others) else none

end Setting

namespace Profile

/-- The profile without any settings. -/
def empty : Profile where
  host := none
  port := none
  user := none
  password := none
  passwordVariable := none
  connectTimeout := none
  socketTimeout := none
  maxWarnings := none
  sqlCompat := none
  dataverse := none
  activeRequestsPath := none
  ssl := none
  policy := none
  unknown := []

/-- The greatest count of seconds that a file can hold. -/
def longest : Nat := 9223372036854775807

/-- The settings with the given names. -/
def ofMembers? (members : Members Item) : Option Profile := do
  return {
    host := ← Setting.get? Setting.text? "host" members
    port := ← Setting.get? (Setting.natural? 65535) "port" members
    user := ← Setting.get? Setting.text? "user" members
    password := ← Setting.get? Setting.text? "password" members
    passwordVariable := ← Setting.get? Setting.text? "password_env" members
    connectTimeout := ← Setting.get? (Setting.natural? longest) "connect_timeout" members
    socketTimeout := ← Setting.get? (Setting.natural? longest) "socket_timeout" members
    maxWarnings := ← Setting.get? Setting.integer? "max_warnings" members
    sqlCompat := ← Setting.get? Setting.bool? "sql_compat" members
    dataverse := ← Setting.get? Setting.text? "dataverse" members
    activeRequestsPath := ← Setting.get? Setting.text? "active_requests_path" members
    ssl := ← Setting.get? Setting.bool? "ssl" members
    policy := ← Setting.get? Setting.policy? "transient_policy" members
    unknown := ← Setting.unknown? members }

/-- The settings of an item that has to be a table. -/
def ofItem? (item : Item) : Option Profile := (Setting.members? item).bind ofMembers?

/-- A profile completed by defaults: each setting is the profile's own if it has one. -/
def completedBy (p defaults : Profile) : Profile where
  host := p.host <|> defaults.host
  port := p.port <|> defaults.port
  user := p.user <|> defaults.user
  password := p.password <|> defaults.password
  passwordVariable := p.passwordVariable <|> defaults.passwordVariable
  connectTimeout := p.connectTimeout <|> defaults.connectTimeout
  socketTimeout := p.socketTimeout <|> defaults.socketTimeout
  maxWarnings := p.maxWarnings <|> defaults.maxWarnings
  sqlCompat := p.sqlCompat <|> defaults.sqlCompat
  dataverse := p.dataverse <|> defaults.dataverse
  activeRequestsPath := p.activeRequestsPath <|> defaults.activeRequestsPath
  ssl := p.ssl <|> defaults.ssl
  policy := p.policy <|> defaults.policy
  unknown := p.unknown ++ defaults.unknown

/-- The environment variable that holds the password if nothing else gives one. -/
def fallbackVariable : String := "ASTERIX_LINK_PASSWORD"

/-- The password: the setting, or what the named environment variable holds, or what the fallback
variable holds. An empty one counts as none. -/
def secret? (p : Profile) (environment : Members String) : Option String :=
  let nonEmpty (s : Option String) := s.filter (· ≠ "")
  nonEmpty p.password
    <|> nonEmpty (p.passwordVariable.bind fun name => Members.get? name environment)
    <|> nonEmpty (Members.get? fallbackVariable environment)

/-- The greatest number of warnings that a request can ask for. -/
def mostWarnings : Nat := 4294967295

/-- The names of the settings that are not known, sorted by their characters' codes and without
repetition. -/
def unsupported (p : Profile) : List String :=
  p.unknown.eraseDups.mergeSort fun a b => decide (a ≤ b)

/-- The configuration of a profile. What it does not set is as in the standard one. -/
def toConfig (p : Profile) (environment : Members String) : ClientConfig :=
  let base := ClientConfig.standard
  { host := p.host.getD base.host
    port := p.port.getD base.port
    user := p.user
    password := p.secret? environment
    connectTimeout := p.connectTimeout.map (· * 1000)
    socketTimeout := p.socketTimeout.map (· * 1000)
    maxWarnings := (p.maxWarnings.map fun n => min n.toNat mostWarnings).getD base.maxWarnings
    sqlCompat := p.sqlCompat.getD base.sqlCompat
    dataverse := p.dataverse
    activeRequestsPath := p.activeRequestsPath.getD base.activeRequestsPath
    ssl := p.ssl.getD base.ssl
    policy := p.policy.getD base.policy
    unsupported := p.unsupported }

end Profile

/-! ### Files -/

/-- The tables of a config file. -/
structure ConfigFile where
  defaults : Profile
  profiles : Members Profile

/-- Why no configuration could be loaded. -/
inductive ConfigError where
  /-- The file that was asked for does not exist. -/
  | missing (path : String)
  /-- The file cannot be read, or is not UTF-8. -/
  | unreadable (path : String)
  /-- The file is no TOML document, or a setting has the wrong type. -/
  | invalid (path : String)
  /-- The file has no profile of the given name. -/
  | unknownProfile (name : String)
  deriving DecidableEq

namespace ConfigError

/-- The text shown for a failure. -/
def message : ConfigError → String
  | .missing path => "config file not found: " ++ path
  | .unreadable path => "cannot read config file " ++ path
  | .invalid path => "invalid config file " ++ path
  | .unknownProfile name => "profile '" ++ name ++ "' not found in config file"

/-- The failure as an operation of the client reports it. -/
def toClientError (e : ConfigError) : ClientError := .config e.message

end ConfigError

namespace ConfigFile

/-- A file without any settings. -/
def empty : ConfigFile := ⟨Profile.empty, []⟩

/-- The tables of a document. Other items of it are ignored. -/
def ofDocument? (document : Toml.Table) : Option ConfigFile := do
  let defaults ← Setting.get? Profile.ofItem? "defaults" document.members
  let tables ← Setting.get? Setting.members? "profiles" document.members
  let profiles ← (tables.getD []).mapM fun (name, item) =>
    (Profile.ofItem? item).map (name, ·)
  return ⟨defaults.getD Profile.empty, profiles⟩

/-- The tables that a text writes. -/
def read? (text : List Char) : Option ConfigFile := (Toml.read? text).bind ofDocument?

/-- The configuration of the defaults, or of a profile completed by them. -/
def config (file : ConfigFile) (profile : Option String) (environment : Members String) :
    Except ConfigError ClientConfig :=
  match profile with
  | none => .ok (file.defaults.toConfig environment)
  | some name =>
    match Members.get? name file.profiles with
    | none => .error (.unknownProfile name)
    | some p => .ok ((p.completedBy file.defaults).toConfig environment)

/-- What is found at a path. -/
inductive Source where
  /-- There is nothing. -/
  | absent
  /-- There is something that is no file. -/
  | directory
  | file (bytes : List UInt8)

/-- The file at a path. It may only be absent if nobody asked for it. -/
def ofSource (path : String) (asked : Bool) : Source → Except ConfigError ConfigFile
  | .absent => if asked then .error (.missing path) else .ok empty
  | .directory => .error (.unreadable path)
  | .file bytes =>
    match Text.Utf8.decode? bytes with
    | none => .error (.unreadable path)
    | some text =>
      match read? text with
      | none => .error (.invalid path)
      | some file => .ok file

end ConfigFile

namespace ClientConfig

/-- Load the configuration of a profile, or of the defaults, from what is found at a path. -/
def load (path : String) (asked : Bool) (source : ConfigFile.Source) (profile : Option String)
    (environment : Members String) : Except ConfigError ClientConfig := do
  (← ConfigFile.ofSource path asked source).config profile environment

end ClientConfig

end QueryClient
