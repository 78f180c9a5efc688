import QueryClient.Proofs.Config.Precedence

/-!
# Which password a profile sends

A table supplies a password directly, or else by the name of an environment variable that holds it;
an empty text supplies nothing (`supplied?`). A profile's own password should be the one that is
sent. But the two settings are completed from the defaults one by one, so a profile that names a
variable and leaves the password open takes over the password of the defaults, which then comes
first (`Overrides`). Main statement: `load_password`.
-/

namespace QueryClient

open Toml (Item)

namespace Setting

variable {α : Type} {read : Item → Option α} {name : String} {table : Members Item}
  {tables : List (Members Item)}

theorem first?_cons_of_absent (h : Members.get? name table = none) :
    first? read name (table :: tables) = first? read name tables := by
  rw [first?, List.findSome?_cons, h, first?]

theorem first?_cons_of_present {item : Item} (h : Members.get? name table = some item) :
    first? read name (table :: tables) = read item := by
  rw [first?, List.findSome?_cons, h, Option.bind_some]

/-- What one table alone says of a text setting. -/
def own? (name : String) (table : Members Item) : Option String := first? text? name [table]

theorem own?_of_absent (h : Members.get? name table = none) : own? name table = none :=
  first?_cons_of_absent h

/-- A setting that the front table has is not looked for behind it. -/
theorem first?_of_own? {s : String} (h : own? name table = some s) :
    first? text? name (table :: tables) = some s := by
  cases hitem : Members.get? name table with
  | none =>
    rw [own?_of_absent hitem] at h
    cases h
  | some item =>
    rw [own?, first?_cons_of_present hitem] at h
    rw [first?_cons_of_present hitem, h]

/-! ## What supplies a password -/

/-- A text, unless it is empty. -/
def usable? (s : Option String) : Option String := s.filter (· ≠ "")

/-- What the environment variable of a name holds, unless it is empty. -/
def held? (environment : Members String) (named : Option String) : Option String :=
  usable? (named.bind (Members.get? · environment))

/-- The password that a table supplies by itself: its own one, or else what the variable holds that
it names. -/
def supplied? (environment : Members String) (table : Members Item) : Option String :=
  usable? (own? "password" table) <|> held? environment (own? "password_env" table)

/-- The table leaves the password open, and the defaults have this one. -/
def Overrides (table defaults : Members Item) (password : String) : Prop :=
  Members.get? "password" table = none ∧ usable? (own? "password" defaults) = some password

variable {environment : Members String} {defaults : Members Item} {s d : String}

/-- A table that supplies a password directly does not leave it open. -/
theorem not_overrides_of_own (h : usable? (own? "password" table) = some s) :
    ¬Overrides table defaults d := by
  rintro ⟨habsent, -⟩
  rw [own?_of_absent habsent] at h
  cases h

/-- What the front table holds in a variable is found, whatever variables the other tables name. -/
theorem held?_first? (h : held? environment (own? name table) = some s) :
    held? environment (first? text? name (table :: tables)) = some s := by
  cases hname : own? name table with
  | none =>
    rw [hname] at h
    cases h
  | some key =>
    rw [first?_of_own? hname, ← hname]
    exact h

/-- The password found in the tables of a profile and of the defaults, if the profile supplies one:
this one, unless the defaults override it. -/
theorem password_of_supplied? (h : supplied? environment table = some s) :
    (usable? (first? text? "password" [table, defaults]) <|>
        held? environment (first? text? "password_env" [table, defaults])) =
      if Members.get? "password" table = none then
        some ((usable? (own? "password" defaults)).getD s)
      else some s := by
  cases hitem : Members.get? "password" table with
  | none =>
    have hheld : held? environment (own? "password_env" table) = some s := by
      rw [supplied?, own?_of_absent hitem] at h
      exact h
    rw [if_pos rfl, first?_cons_of_absent hitem, held?_first? hheld, ← own?]
    cases usable? (own? "password" defaults) <;> rfl
  | some item =>
    have hown : first? text? "password" [table, defaults] = own? "password" table := by
      rw [own?, first?_cons_of_present hitem, first?_cons_of_present hitem]
    rw [if_neg nofun, hown]
    cases hpassword : usable? (own? "password" table) with
    | some own =>
      rw [supplied?, hpassword] at h
      exact h
    | none =>
      rw [supplied?, hpassword] at h
      exact held?_first? h

end Setting

open Setting

/-- Where nothing supplies a password, the fallback variable does. -/
theorem Profile.secret?_of_gathers {p : Profile} {tables : List (Members Item)}
    (h : p.Gathers tables) (environment : Members String) :
    p.secret? environment =
      ((usable? (first? text? "password" tables) <|>
          held? environment (first? text? "password_env" tables)) <|>
        held? environment (some Profile.fallbackVariable)) := by
  rw [← h.password, ← h.passwordVariable]
  show (usable? p.password <|> held? environment p.passwordVariable <|> _) = _
  cases usable? p.password <;> rfl

namespace ClientConfig

open ConfigFile

/-- **A password that a profile supplies by itself is the one that is sent**, whatever the fallback
variable holds, unless the defaults override it: unless the profile only names a variable, with no
password at all, and the defaults have a password, which is sent then. A profile's own password is
never overridden, and even an empty one keeps that of the defaults from being taken. -/
theorem load_password {source : Source} {path name : String} {asked : Bool}
    {document : Toml.Table} {table : Members Item} {environment : Members String} {s : String}
    (h : source.Holds path asked document) (profile : profileTable? document name = some table)
    (supplied : supplied? environment table = some s) :
    ∃ c, load path asked source (some name) environment = .ok c ∧
      (c.password = some s ↔ ∀ d, Overrides table (defaultsTable document) d → d = s) ∧
      (∀ d, Overrides table (defaultsTable document) d → c.password = some d) ∧
      (usable? (own? "password" table) = some s → c.password = some s) := by
  have htables : tables? document (some name) = some [table, defaultsTable document] := by
    rw [tables?, profile, Option.map_some]
  obtain ⟨p, hp, hload⟩ := load_of_tables h htables
  have hpassword : (p.toConfig environment).password =
      if Members.get? "password" table = none then
        some ((usable? (own? "password" (defaultsTable document))).getD s)
      else some s := by
    show p.secret? environment = _
    rw [Profile.secret?_of_gathers (Profile.gathers_of_ofTables? hp),
      password_of_supplied? supplied]
    split <;> rfl
  have hoverrides : ∀ d, Overrides table (defaultsTable document) d →
      (p.toConfig environment).password = some d := by
    rintro d ⟨habsent, hd⟩
    rw [hpassword, if_pos habsent, hd, Option.getD_some]
  have hkept : (∀ d, ¬Overrides table (defaultsTable document) d) →
      (p.toConfig environment).password = some s := by
    intro hnone
    rw [hpassword]
    split
    · next habsent =>
      cases hd : usable? (own? "password" (defaultsTable document)) with
      | none => rfl
      | some d => exact absurd ⟨habsent, hd⟩ (hnone d)
    · rfl
  refine ⟨_, hload environment, ?_, hoverrides, fun hown => hkept fun d =>
    not_overrides_of_own hown⟩
  constructor
  · intro hsent d hd
    exact Option.some.inj ((hoverrides d hd).symm.trans hsent)
  · intro hsame
    by_cases hd : ∃ d, Overrides table (defaultsTable document) d
    · obtain ⟨d, hd⟩ := hd
      rw [hoverrides d hd, hsame d hd]
    · exact hkept fun d hd' => hd ⟨d, hd'⟩

/-- A profile that takes its password from a variable, and says so by an empty one. -/
def clearedText : List UInt8 :=
  Text.Utf8.encode ("[defaults]\npassword=\"base\"\n" ++
    "[profiles.p]\npassword=\"\"\npassword_env=\"OWN\"").toList

def clearedTable : Members Item := [("password", .string ""), ("password_env", .string "OWN")]

/-- A profile that takes its password from a variable and leaves the password open. -/
def openText : List UInt8 :=
  Text.Utf8.encode
    ("[defaults]\npassword=\"base\"\n" ++ "[profiles.p]\npassword_env=\"OWN\"").toList

def openTable : Members Item := [("password_env", .string "OWN")]

/-- The document with the given profile, behind defaults with a password. -/
def documentOf (table : Members Item) : Toml.Table :=
  ⟨.header, [("defaults", .table .header [("password", .string "base")]),
    ("profiles", .table .passed [("p", .table .header table)])]⟩

set_option maxRecDepth 2048 in
theorem document?_cleared :
    (Source.file clearedText).document? = some (documentOf clearedTable) := by
  cbv

set_option maxRecDepth 2048 in
theorem document?_open : (Source.file openText).document? = some (documentOf openTable) := by cbv

theorem load_password_cleared :
    (Source.file clearedText).Holds "link.toml" true (documentOf clearedTable) ∧
    profileTable? (documentOf clearedTable) "p" = some clearedTable ∧
    supplied? [("OWN", "own")] clearedTable = some "own" ∧
    ∃ c, load "link.toml" true (.file clearedText) (some "p") [("OWN", "own")] = .ok c ∧
      c.password = some "own" := by
  have holds := Source.holds_file "link.toml" true document?_cleared rfl
  have supplied : supplied? [("OWN", "own")] clearedTable = some "own" := by decide
  have profile : profileTable? (documentOf clearedTable) "p" = some clearedTable := rfl
  obtain ⟨c, hc, hsent, -⟩ := load_password holds profile supplied
  exact ⟨holds, profile, supplied, c, hc, hsent.mpr fun d hd => absurd hd.1 nofun⟩

/-- With the password left open, that of the defaults is sent and not the profile's own. -/
theorem load_password_open :
    (Source.file openText).Holds "link.toml" true (documentOf openTable) ∧
    profileTable? (documentOf openTable) "p" = some openTable ∧
    supplied? [("OWN", "own")] openTable = some "own" ∧
    ∃ c, load "link.toml" true (.file openText) (some "p") [("OWN", "own")] = .ok c ∧
      c.password = some "base" := by
  have holds := Source.holds_file "link.toml" true document?_open rfl
  have htables : tables? (documentOf openTable) (some "p") =
      some [openTable, [("password", .string "base")]] := rfl
  obtain ⟨p, hp, hload⟩ := load_of_tables holds htables
  obtain rfl := Option.some.inj hp
  exact ⟨holds, rfl, by decide, _, hload _, by decide⟩

end ClientConfig

end QueryClient
