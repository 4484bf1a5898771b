import RoleSync.Community
/-!
Settings: what a configuration file says. The cache section chooses where rule results are
kept, the sync section tunes resolution and reconciliation, the logging section filters log
records, and the file declares abstract roles and the communities to watch.

Every field has a default except a role's name and rule and a community's id. A settings value
is what a file decodes to; `Settings.validate` decides whether it may be used.
-/

namespace RoleSync

set_option autoImplicit false

/-- Where rule results are cached. -/
inductive CacheBackend where
  /-- Nowhere: every rule runs on every resolution. -/
  | none
  /-- In the memory of the running process. -/
  | memory
  /-- In a database file. -/
  | database
  deriving DecidableEq, Repr

/-- The name a settings file gives a backend. -/
def CacheBackend.label : CacheBackend → String
  | .none => "none"
  | .memory => "memory"
  | .database => "sqlite"

/-- How the database file keeps its journal. -/
inductive JournalMode where
  | writeAhead
  | delete
  deriving DecidableEq, Repr

/-- The name a settings file gives a journal mode. -/
def JournalMode.label : JournalMode → String
  | .writeAhead => "wal"
  | .delete => "delete"

/-- The cache section. -/
structure CacheSettings where
  backend : CacheBackend := .memory
  /-- Put in front of every cache key. -/
  keyPrefix : String := "rl_"
  /-- The database file, for the database backend. -/
  databasePath : Option String := none
  busyTimeoutMs : Nat := 5000
  journalMode : JournalMode := .writeAhead
  deriving DecidableEq, Repr

/-- The sync section. -/
structure SyncSettings where
  /-- How many rule or community branches may run at once. -/
  maxParallelism : Nat := 16
  /-- The deadline of each rule run, in milliseconds. -/
  ruleTimeoutMs : Option Nat := none
  removeUnwarranted : Bool := false
  notifyOnFailure : Bool := true
  deriving DecidableEq, Repr

/-- A community as a settings file lists it. -/
structure CommunitySettings where
  id : String
  name : Option String := none
  /-- Platform role ids that are never revoked, as written. -/
  sticky : List String := []
  /-- Abstract role name to platform role id. -/
  roles : Std.TreeMap String String compare := ∅

/-- The settings of a configuration file. -/
structure Settings where
  cache : CacheSettings := {}
  sync : SyncSettings := {}
  /-- The log filter, in the logging library's directive syntax. -/
  logFilter : String := "info"
  roles : List Declaration := []
  communities : List CommunitySettings := []

/-- Why settings could not be loaded. -/
inductive SettingsError where
  /-- The file could not be read; the text is the system's. -/
  | io (text : String)
  /-- The file is no TOML document, or a value has the wrong type or is missing. -/
  | parse
  /-- The settings break a rule. -/
  | invalid (text : String)
  deriving DecidableEq, Repr

/-- The text of a settings error. -/
def SettingsError.message : SettingsError → String
  | .io t => "config io error: " ++ t
  | .parse => "config parse error"
  | .invalid t => "invalid config: " ++ t

end RoleSync
