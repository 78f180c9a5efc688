import Mathlib
import QueryClient.Config.Profile
import QueryClient.Proofs.Members

/-!
# Which table a setting comes from

A configuration is made of the table of a profile, the table of defaults and what is built in, in
this order. `Gathers` says of a profile, and `FollowsFrom` of a configuration, that each setting is
that of the first table which has it. Main statement: `load_precedence`.
-/

namespace QueryClient

open Toml (Item)

namespace Setting

variable {α : Type} {read : Item → Option α} {name : String}

/-! ## Settings of one table and of several -/

/-- A setting that has been looked for is absent or has been read. -/
theorem absent_or_read {table : Members Item} {own : Option α}
    (h : get? read name table = some own) :
    (Members.get? name table = none ∧ own = none) ∨
      ∃ item a, Members.get? name table = some item ∧ read item = some a ∧ own = some a := by
  unfold get? at h
  split at h
  · next habsent => exact .inl ⟨habsent, (Option.some.inj h).symm⟩
  · next item hitem =>
    obtain ⟨a, ha, rfl⟩ := Option.map_eq_some_iff.mp h
    exact .inr ⟨item, a, hitem, ha, rfl⟩

/-- The setting of the given name in the first of the tables that has one. -/
def first? (read : Item → Option α) (name : String) (tables : List (Members Item)) : Option α :=
  (tables.findSome? (Members.get? name)).bind read

/-- A table's own setting hides those of the tables behind it. -/
theorem or_eq_first? {table : Members Item} {tables : List (Members Item)} {own rest : Option α}
    (h : get? read name table = some own) (hrest : rest = first? read name tables) :
    (own <|> rest) = first? read name (table :: tables) := by
  rw [first?, List.findSome?_cons]
  obtain ⟨habsent, rfl⟩ | ⟨item, a, hitem, ha, rfl⟩ := absent_or_read h
  · rw [habsent, hrest]
    rfl
  · rw [hitem, Option.bind_some, ha]
    rfl

/-- The key stands in one of the tables and is not the name of a setting. -/
def Unknown (tables : List (Members Item)) (key : String) : Prop :=
  ∃ table ∈ tables, key ∈ Members.names table ∧ key ∉ names

theorem mem_unknown? {table : Members Item} {keys : List String} (h : unknown? table = some keys)
    {key : String} : key ∈ keys ↔ key ∈ Members.names table ∧ key ∉ names := by
  dsimp only [unknown?] at h
  split at h
  · obtain rfl := Option.some.inj h
    simp only [Members.names, List.mem_map, List.mem_filter, Prod.exists, exists_and_right,
      exists_eq_right, Bool.not_eq_true', List.contains_eq_mem, decide_eq_false_iff_not]
  · cases h

end Setting

/-! ## Profiles gathered from tables -/

namespace Profile

open Setting

/-- Each setting of the profile is that of the first table that has it. -/
structure Gathers (p : Profile) (tables : List (Members Item)) : Prop where
  host : p.host = first? text? "host" tables
  port : p.port = first? (natural? 65535) "port" tables
  user : p.user = first? text? "user" tables
  password : p.password = first? text? "password" tables
  passwordVariable : p.passwordVariable = first? text? "password_env" tables
  connectTimeout : p.connectTimeout = first? (natural? longest) "connect_timeout" tables
  socketTimeout : p.socketTimeout = first? (natural? longest) "socket_timeout" tables
  maxWarnings : p.maxWarnings = first? integer? "max_warnings" tables
  sqlCompat : p.sqlCompat = first? bool? "sql_compat" tables
  dataverse : p.dataverse = first? text? "dataverse" tables
  activeRequestsPath : p.activeRequestsPath = first? text? "active_requests_path" tables
  ssl : p.ssl = first? bool? "ssl" tables
  policy : p.policy = first? policy? "transient_policy" tables
  mem_unknown : ∀ key, key ∈ p.unknown ↔ Unknown tables key

theorem gathers_nil : empty.Gathers [] := by
  constructor
  case mem_unknown =>
    intro key
    simp [empty, Unknown]
  all_goals rfl

/-- One more table in front is one more profile to be completed. -/
theorem Gathers.cons {p defaults : Profile} {table : Members Item} {tables : List (Members Item)}
    (h : ofMembers? table = some p) (hdefaults : defaults.Gathers tables) :
    (p.completedBy defaults).Gathers (table :: tables) := by
  obtain ⟨host, hhost, h⟩ := Option.bind_eq_some_iff.mp h
  obtain ⟨port, hport, h⟩ := Option.bind_eq_some_iff.mp h
  obtain ⟨user, huser, h⟩ := Option.bind_eq_some_iff.mp h
  obtain ⟨password, hpassword, h⟩ := Option.bind_eq_some_iff.mp h
  obtain ⟨named, hnamed, h⟩ := Option.bind_eq_some_iff.mp h
  obtain ⟨connect, hconnect, h⟩ := Option.bind_eq_some_iff.mp h
  obtain ⟨socket, hsocket, h⟩ := Option.bind_eq_some_iff.mp h
  obtain ⟨warnings, hwarnings, h⟩ := Option.bind_eq_some_iff.mp h
  obtain ⟨compat, hcompat, h⟩ := Option.bind_eq_some_iff.mp h
  obtain ⟨dataverse, hdataverse, h⟩ := Option.bind_eq_some_iff.mp h
  obtain ⟨requests, hrequests, h⟩ := Option.bind_eq_some_iff.mp h
  obtain ⟨ssl, hssl, h⟩ := Option.bind_eq_some_iff.mp h
  obtain ⟨policy, hpolicy, h⟩ := Option.bind_eq_some_iff.mp h
  obtain ⟨unknown, hunknown, h⟩ := Option.bind_eq_some_iff.mp h
  obtain rfl := Option.some.inj h
  -- setting by setting: the table's own one, or else what is gathered from those behind it
  constructor
  case host => exact or_eq_first? hhost hdefaults.host
  case port => exact or_eq_first? hport hdefaults.port
  case user => exact or_eq_first? huser hdefaults.user
  case password => exact or_eq_first? hpassword hdefaults.password
  case passwordVariable => exact or_eq_first? hnamed hdefaults.passwordVariable
  case connectTimeout => exact or_eq_first? hconnect hdefaults.connectTimeout
  case socketTimeout => exact or_eq_first? hsocket hdefaults.socketTimeout
  case maxWarnings => exact or_eq_first? hwarnings hdefaults.maxWarnings
  case sqlCompat => exact or_eq_first? hcompat hdefaults.sqlCompat
  case dataverse => exact or_eq_first? hdataverse hdefaults.dataverse
  case activeRequestsPath => exact or_eq_first? hrequests hdefaults.activeRequestsPath
  case ssl => exact or_eq_first? hssl hdefaults.ssl
  case policy => exact or_eq_first? hpolicy hdefaults.policy
  case mem_unknown =>
    intro key
    show key ∈ unknown ++ defaults.unknown ↔ _
    rw [List.mem_append, mem_unknown? hunknown, hdefaults.mem_unknown]
    simp only [Unknown, List.exists_mem_cons_iff]

/-- The profile of the first table, completed by those of the tables behind it. -/
def ofTables? : List (Members Item) → Option Profile
  | [] => some empty
  | table :: tables => do
    let p ← ofMembers? table
    let defaults ← ofTables? tables
    return p.completedBy defaults

theorem gathers_of_ofTables? {p : Profile} {tables : List (Members Item)}
    (h : ofTables? tables = some p) : p.Gathers tables := by
  induction tables generalizing p with
  | nil =>
    obtain rfl := Option.some.inj h
    exact gathers_nil
  | cons table tables ih =>
    obtain ⟨own, hown, h⟩ := Option.bind_eq_some_iff.mp h
    obtain ⟨defaults, hdefaults, h⟩ := Option.bind_eq_some_iff.mp h
    obtain rfl := Option.some.inj h
    exact (ih hdefaults).cons hown

/-- A table alone needs no completion. -/
theorem ofTables?_singleton (table : Members Item) : ofTables? [table] = ofMembers? table := by
  have hempty : ∀ p : Profile, p.completedBy empty = p := by
    intro p
    simp [completedBy, empty]
  simp [ofTables?, hempty]

/-! ### Settings that are not known -/

theorem mem_unsupported (p : Profile) (key : String) : key ∈ p.unsupported ↔ key ∈ p.unknown := by
  rw [unsupported, List.mem_mergeSort, List.mem_eraseDups]

/-- The names are in order, and none of them stands twice. -/
theorem pairwise_unsupported (p : Profile) : p.unsupported.Pairwise (· < ·) := by
  have hsorted : p.unsupported.Pairwise (· ≤ ·) := List.pairwise_mergeSort' (· ≤ ·) _
  have hnodup : p.unsupported.Nodup :=
    (List.mergeSort_perm _ _).nodup_iff.mpr (Members.nodup_eraseDups p.unknown)
  -- neighbours that are in order and differ are strictly so
  exact hsorted.imp₂ (fun _ _ hle hne => lt_of_le_of_ne hle hne) hnodup

end Profile

/-! ## Configurations that follow from tables -/

namespace ClientConfig

open Setting

/-- Apart from the password, each part of the configuration is the setting of the first table that
has it, and what is built in if none has. -/
structure FollowsFrom (c : ClientConfig) (tables : List (Members Item)) : Prop where
  host : c.host = (first? text? "host" tables).getD "localhost"
  port : c.port = (first? (natural? 65535) "port" tables).getD 19002
  user : c.user = first? text? "user" tables
  connectTimeout : c.connectTimeout =
    (first? (natural? Profile.longest) "connect_timeout" tables).map (· * 1000)
  socketTimeout : c.socketTimeout =
    (first? (natural? Profile.longest) "socket_timeout" tables).map (· * 1000)
  maxWarnings : (c.maxWarnings : Int) =
    max 0 (min ((first? integer? "max_warnings" tables).getD 10) 4294967295)
  sqlCompat : c.sqlCompat = (first? bool? "sql_compat" tables).getD true
  dataverse : c.dataverse = first? text? "dataverse" tables
  activeRequestsPath : c.activeRequestsPath =
    (first? text? "active_requests_path" tables).getD "/admin/requests/running"
  ssl : c.ssl = (first? bool? "ssl" tables).getD false
  policy : c.policy = (first? policy? "transient_policy" tables).getD .never
  /-- The keys are in order, and none of them stands twice. -/
  pairwise_unsupported : c.unsupported.Pairwise (· < ·)
  mem_unsupported : ∀ key, key ∈ c.unsupported ↔ Unknown tables key

theorem followsFrom_of_gathers {p : Profile} {tables : List (Members Item)} (h : p.Gathers tables)
    (environment : Members String) : (p.toConfig environment).FollowsFrom tables := by
  constructor
  case host => rw [← h.host]; rfl
  case port => rw [← h.port]; rfl
  case user => exact h.user
  case connectTimeout => rw [← h.connectTimeout]; rfl
  case socketTimeout => rw [← h.socketTimeout]; rfl
  case maxWarnings =>
    rw [← h.maxWarnings]
    show (((p.maxWarnings.map fun n => min n.toNat 4294967295).getD 10 : Nat) : Int) = _
    cases p.maxWarnings with
    | none => rfl
    | some n =>
      simp only [Option.map_some, Option.getD_some]
      omega
  case sqlCompat => rw [← h.sqlCompat]; rfl
  case dataverse => exact h.dataverse
  case activeRequestsPath => rw [← h.activeRequestsPath]; rfl
  case ssl => rw [← h.ssl]; rfl
  case policy => rw [← h.policy]; rfl
  case pairwise_unsupported => exact p.pairwise_unsupported
  case mem_unsupported =>
    intro key
    exact (p.mem_unsupported key).trans (h.mem_unknown key)

end ClientConfig

/-! ## Tables of a document -/

namespace ConfigFile

/-- The table of defaults, empty if there is none. -/
def defaultsTable (document : Toml.Table) : Members Item :=
  ((Members.get? "defaults" document.members).bind Setting.members?).getD []

/-- The table of the profile of the given name. -/
def profileTable? (document : Toml.Table) (name : String) : Option (Members Item) := do
  let profiles ← (Members.get? "profiles" document.members).bind Setting.members?
  let item ← Members.get? name profiles
  Setting.members? item

/-- The tables that count for a profile, the first of them most: the profile's own, which has to be
there, and the defaults. -/
def tables? (document : Toml.Table) : (profile : Option String) → Option (List (Members Item))
  | none => some [defaultsTable document]
  | some name => (profileTable? document name).map ([·, defaultsTable document])

/-- The document that is found at a path. Where there is nothing, it is an empty one. -/
def Source.document? : Source → Option Toml.Table
  | .absent => some ⟨.header, []⟩
  | .directory => none
  | .file bytes => (Text.Utf8.decode? bytes).bind Toml.read?

/-- What is found at the path is taken as a config file, and it is this document. -/
structure Source.Holds (source : Source) (path : String) (asked : Bool) (document : Toml.Table) :
    Prop where
  held : source.document? = some document
  parses : ∃ file, ofSource path asked source = .ok file

variable {source : Source} {path : String} {asked : Bool} {document : Toml.Table}
  {file : ConfigFile}

theorem Source.Holds.exists_file (h : source.Holds path asked document) :
    ∃ file, ofSource path asked source = .ok file ∧ ofDocument? document = some file := by
  obtain ⟨held, file, hfile⟩ := h
  refine ⟨file, hfile, ?_⟩
  cases source with
  | absent =>
    obtain rfl := Option.some.inj held
    cases asked with
    | true => cases hfile
    | false =>
      obtain rfl := Except.ok.inj hfile
      rfl
  | directory => cases held
  | file bytes =>
    obtain ⟨text, htext, hdocument⟩ := Option.bind_eq_some_iff.mp held
    simp only [ofSource, htext, read?, hdocument, Option.bind_some] at hfile
    split at hfile
    · cases hfile
    · next hread =>
      rw [hread, Except.ok.inj hfile]

/-- A file with a document the settings of which can be read is taken as a config file. -/
theorem Source.holds_file {bytes : List UInt8} (path : String) (asked : Bool)
    (held : (Source.file bytes).document? = some document)
    (parses : (ofDocument? document).isSome) : (Source.file bytes).Holds path asked document := by
  refine ⟨held, ?_⟩
  obtain ⟨text, htext, hdocument⟩ := Option.bind_eq_some_iff.mp held
  obtain ⟨file, hfile⟩ := Option.isSome_iff_exists.mp parses
  refine ⟨file, ?_⟩
  simp only [ofSource, htext, read?, hdocument, Option.bind_some, hfile]

/-- An absent table of defaults counts as an empty one. -/
theorem ofMembers?_defaultsTable (h : ofDocument? document = some file) :
    Profile.ofMembers? (defaultsTable document) = some file.defaults := by
  obtain ⟨defaults, hdefaults, h⟩ := Option.bind_eq_some_iff.mp h
  obtain ⟨tables, -, h⟩ := Option.bind_eq_some_iff.mp h
  obtain ⟨profiles, -, h⟩ := Option.bind_eq_some_iff.mp h
  obtain rfl := Option.some.inj h
  show _ = some (defaults.getD Profile.empty)
  unfold defaultsTable
  obtain ⟨habsent, rfl⟩ | ⟨item, p, hitem, hp, rfl⟩ := Setting.absent_or_read hdefaults
  · rw [habsent]
    rfl
  · obtain ⟨members, hmembers, hp⟩ := Option.bind_eq_some_iff.mp hp
    rw [hitem, Option.bind_some, hmembers]
    exact hp

/-- A profile is there if and only if its table is, and then it is read from this table. -/
theorem map_profileTable? (h : ofDocument? document = some file) (name : String) :
    (profileTable? document name).map Profile.ofMembers? =
      (Members.get? name file.profiles).map some := by
  obtain ⟨defaults, -, h⟩ := Option.bind_eq_some_iff.mp h
  obtain ⟨tables, htables, h⟩ := Option.bind_eq_some_iff.mp h
  obtain ⟨profiles, hprofiles, h⟩ := Option.bind_eq_some_iff.mp h
  obtain rfl := Option.some.inj h
  have hget := Members.get?_mapM hprofiles name
  show _ = (Members.get? name profiles).map some
  rw [← hget]
  unfold profileTable?
  obtain ⟨habsent, rfl⟩ | ⟨item, members, hitem, hmembers, rfl⟩ := Setting.absent_or_read htables
  · rw [habsent]
    rfl
  · simp only [hitem, hmembers, Option.bind_eq_bind, Option.bind_some, Option.getD_some] at hget ⊢
    cases hprofile : Members.get? name members with
    | none => rfl
    | some item =>
      -- every profile has been read, so this one is a table
      rw [hprofile, Option.map_some] at hget
      obtain ⟨p, -, hp⟩ := Option.map_eq_some_iff.mp hget.symm
      obtain ⟨table, htable, hread⟩ := Option.bind_eq_some_iff.mp hp.symm
      rw [Option.bind_some, htable, Option.map_some, Option.map_some, hread, ← hp]

end ConfigFile

/-! ## Loading -/

namespace ClientConfig

open ConfigFile

variable {source source' : Source} {path path' : String} {asked asked' : Bool}
  {document document' : Toml.Table} {profile : Option String} {tables : List (Members Item)}

theorem load_absent {name : String} (h : source.Holds path asked document)
    (absent : profileTable? document name = none) (environment : Members String) :
    load path asked source (some name) environment = .error (.unknownProfile name) := by
  obtain ⟨file, hfile, hdocument⟩ := h.exists_file
  have hprofile := map_profileTable? hdocument name
  rw [absent, Option.map_none] at hprofile
  rw [load, hfile]
  show file.config (some name) environment = _
  rw [config, Option.map_eq_none_iff.mp hprofile.symm]

/-- What is loaded is made of the tables that count, and of nothing else. -/
theorem load_of_tables (h : source.Holds path asked document)
    (htables : tables? document profile = some tables) :
    ∃ p, Profile.ofTables? tables = some p ∧
      ∀ environment, load path asked source profile environment = .ok (p.toConfig environment) := by
  obtain ⟨file, hfile, hdocument⟩ := h.exists_file
  have hdefaults := ofMembers?_defaultsTable hdocument
  cases profile with
  | none =>
    obtain rfl := Option.some.inj htables
    refine ⟨file.defaults, (Profile.ofTables?_singleton _).trans hdefaults, ?_⟩
    intro environment
    rw [load, hfile]
    rfl
  | some name =>
    obtain ⟨table, htable, rfl⟩ := Option.map_eq_some_iff.mp htables
    have hprofile := map_profileTable? hdocument name
    rw [htable, Option.map_some] at hprofile
    obtain ⟨p, hp, hread⟩ := Option.map_eq_some_iff.mp hprofile.symm
    refine ⟨p.completedBy file.defaults, ?_, ?_⟩
    · rw [Profile.ofTables?, ← hread, Profile.ofTables?_singleton, hdefaults]
      rfl
    · intro environment
      rw [load, hfile]
      show file.config (some name) environment = _
      rw [config, hp]

theorem load_eq_of_tables (h : source.Holds path asked document)
    (h' : source'.Holds path' asked' document') (htables : tables? document profile = some tables)
    (htables' : tables? document' profile = some tables) (environment : Members String) :
    load path' asked' source' profile environment = load path asked source profile environment := by
  obtain ⟨p, hp, hload⟩ := load_of_tables h htables
  obtain ⟨p', hp', hload'⟩ := load_of_tables h' htables'
  obtain rfl : p = p' := Option.some.inj (hp.symm.trans hp')
  rw [hload, hload']

/-- **Each setting is that of the first table that has it.** A profile that is not there cannot be
loaded. One that is there comes in front of the defaults, and without the name of a profile the
defaults stand alone. What else the file holds makes no difference: any other one with the same
tables gives the same configuration. -/
theorem load_precedence (h : source.Holds path asked document) :
    (∀ name, profileTable? document name = none → ∀ environment,
      load path asked source (some name) environment = .error (.unknownProfile name)) ∧
    ∀ profile tables, tables? document profile = some tables →
      (∀ environment, ∃ c, load path asked source profile environment = .ok c ∧
        c.FollowsFrom tables) ∧
      ∀ source' path' asked' document', Source.Holds source' path' asked' document' →
        tables? document' profile = some tables → ∀ environment,
          load path' asked' source' profile environment =
            load path asked source profile environment := by
  refine ⟨fun name absent => load_absent h absent, ?_⟩
  intro profile tables htables
  constructor
  · intro environment
    obtain ⟨p, hp, hload⟩ := load_of_tables h htables
    refine ⟨_, hload environment, ?_⟩
    exact followsFrom_of_gathers (Profile.gathers_of_ofTables? hp) environment
  · intro source' path' asked' document' h' htables'
    exact load_eq_of_tables h h' htables htables'

/-- Two profiles and the defaults. -/
def layeredText : List UInt8 :=
  Text.Utf8.encode
    ("defaults=\x7bmax_warnings=-1,hue=1\x7d\n[profiles]\n" ++
      "east=\x7bhost=\"b\",hue=2\x7d\nwest=\x7bssl=true\x7d").toList

def layeredDocument : Toml.Table :=
  ⟨.header, [
    ("defaults", .table .inline [("max_warnings", .integer (-1)), ("hue", .integer 1)]),
    ("profiles", .table .header [
      ("east", .table .inline [("host", .string "b"), ("hue", .integer 2)]),
      ("west", .table .inline [("ssl", .bool true)])])]⟩

set_option maxRecDepth 2048 in
theorem document?_layered : (Source.file layeredText).document? = some layeredDocument := by cbv

theorem load_layered : (Source.file layeredText).Holds "link.toml" true layeredDocument ∧
    ∃ c, load "link.toml" true (.file layeredText) (some "east") [] = .ok c ∧
      c.host = "b" ∧ c.port = 19002 ∧ c.maxWarnings = 0 ∧ c.ssl = false ∧
      "hue" ∈ c.unsupported := by
  have holds := Source.holds_file "link.toml" true document?_layered rfl
  obtain ⟨hload, -⟩ := (load_precedence holds).2 (some "east") _ rfl
  obtain ⟨c, hc, follows⟩ := hload []
  have hwarnings : (c.maxWarnings : Int) = 0 := follows.maxWarnings
  have hhue : "hue" ∈ c.unsupported :=
    (follows.mem_unsupported "hue").mpr ⟨_, List.mem_cons_self, by decide, by decide⟩
  exact ⟨holds, c, hc, follows.host, follows.port, by omega, follows.ssl, hhue⟩

end ClientConfig

end QueryClient
