import RoleSync.Settings.Decode
import RoleSync.Settings.Validate
import RoleSync.Cache.RuleCache
import RoleSync.Manager.Basic
import RoleSync.LogFilter.Directive
/-!
Loading settings from a file, and what the rest of the library takes from them.

Loading checks the path (at most 4096 bytes, components of at most 255), reads the file, checks
its size (at most 1 MiB) and encoding (UTF-8), reads it as TOML, decodes the settings and
validates them, in that order; the first failure is the answer.

The host holds the given files and its known directories, and nothing else; reading anything
else fails as the operating system says.
-/

namespace RoleSync.Settings

set_option autoImplicit false

/-- The largest settings file, in bytes. -/
def maxFileBytes : Nat := 1048576

/-- The settings file read when no path is given. -/
def defaultFileName : String := "rolelink.toml"

/-- The path of a scratch file that holds settings given as text. -/
def scratchFile : String := Host.scratchDirectory ++ "/" ++ defaultFileName

/-- The components of a path from the root, with "." and ".." resolved. -/
def resolved (path : String) : List String := Host.normalize (Host.components path)

/-- Reads a file of the host, failing with the system's text: a path too long for the system, a
name that names nothing, a step through a file, or a directory. The given files are added to
the host's own. -/
def readFile (files : List (String × ByteArray)) (path : String) : Except String ByteArray :=
  if path.utf8ByteSize ≥ maxPathBytes then .error "File name too long (os error 36)"
  else
    match Host.locate (files.map fun (p, _) => resolved p) path with
    | .error .notFound => .error "No such file or directory (os error 2)"
    | .error .notDirectory => .error "Not a directory (os error 20)"
    | .ok (_, .directory) => .error "Is a directory (os error 21)"
    | .ok (loc, .file) =>
      match files.find? (fun (p, _) => resolved p == loc) with
      | some (_, bytes) => .ok bytes
      | none => .ok ((Host.knownFiles.find? (·.1 == loc)).map (·.2.toUTF8) |>.getD ByteArray.empty)

/-- Checks a settings path against the limits. -/
def checkPath (path : String) : Except SettingsError Unit :=
  if path.utf8ByteSize > maxPathBytes then .error (.invalid "config path exceeds max length")
  else if Host.longestComponent path > maxComponentBytes then
    .error (.invalid "config path component too long")
  else .ok ()

/-- What loading takes from the libraries it leans on: a reader of TOML documents, and the
logging library's parser of filter directives. -/
structure Readers where
  readToml : String → Option Toml.Value
  parseFilter : String → Except String Unit

/-- The readers this library runs with. -/
def Readers.standard : Readers := ⟨Toml.parse?, LogFilter.parse⟩

/-- Reads settings from the text of a file. -/
def ofText (rd : Readers) (text : String) : Except SettingsError Settings :=
  match rd.readToml text >>= ofValue with
  | some s => validate rd.parseFilter s
  | none => .error .parse

/-- Loads settings from a path of a host holding the given files. -/
def load (rd : Readers) (files : List (String × ByteArray)) (path : String) :
    Except SettingsError Settings := do
  checkPath path
  let bytes ← (readFile files path).mapError SettingsError.io
  if bytes.size > maxFileBytes then throw (.invalid "config file exceeds size limit")
  match String.fromUTF8? bytes with
  | none => throw (.invalid "config file must be utf-8")
  | some text => ofText rd text

/-! ## What the settings give -/

/-- The declaration table of the settings. -/
def declarations (s : Settings) : Declarations := Declarations.ofList s.roles

/-- A listed community as the manager sees it. -/
def CommunitySettings.toCommunity (g : CommunitySettings) : Community :=
  ⟨g.id, g.name, g.roles, NameSet.ofList g.sticky⟩

/-- The communities, in the order they are listed. -/
def communityConfigs (s : Settings) : List Community :=
  s.communities.map CommunitySettings.toCommunity

/-- What the manager is configured with: the declaration table, and the communities keyed by
id; of two listed communities with one id, the later one stays. -/
structure RoleConfiguration where
  declarations : Declarations
  communities : Std.TreeMap String Community compare

/-- The role configuration of the settings. -/
def roleConfiguration (s : Settings) : RoleConfiguration :=
  ⟨declarations s, (communityConfigs s).foldl (fun m g => m.insert g.id g) ∅⟩

/-- The ids of the configured communities, in ascending order. -/
def communityIds (s : Settings) : List String := (roleConfiguration s).communities.keys

/-- The manager's tuning. -/
def managerConfig (s : Settings) : ManagerConfig :=
  ⟨s.sync.maxParallelism, s.sync.ruleTimeoutMs, s.sync.removeUnwarranted, s.sync.notifyOnFailure⟩

/-- The rule cache the settings ask for: one ready to use, or a database file to open. -/
inductive CachePlan where
  | ready (cache : RuleCache)
  | databaseFile (path : String) (busyTimeoutMs : Nat) (mode : JournalMode) (keyPrefix : String)

/-- The rule cache the settings ask for. -/
def cachePlan (s : Settings) : CachePlan :=
  match s.cache.backend with
  | .none => .ready RuleCache.disabled
  | .memory => .ready ⟨some (.memory {} Faults.none), s.cache.keyPrefix⟩
  | .database =>
    .databaseFile (s.cache.databasePath.getD "") s.cache.busyTimeoutMs s.cache.journalMode
      s.cache.keyPrefix

end RoleSync.Settings
