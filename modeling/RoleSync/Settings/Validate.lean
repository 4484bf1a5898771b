import RoleSync.Settings.Basic
import RoleSync.Host
import RoleSync.Text.Blank
/-!
The rules settings must keep, checked section by section in a fixed order: cache, sync, logging,
roles, communities; the first broken rule is reported. A community's id is trimmed before its
rules are checked, and the trimmed id is what the settings keep.

Limits: a key prefix has at most 64 bytes and no blank; a path has at most 4096 bytes and
components of at most 255; between 1 and 256 branches may run at once; a rule timeout is not
zero.
-/

namespace RoleSync.Settings

set_option autoImplicit false

/-- The longest key prefix, in bytes. -/
def maxKeyPrefixBytes : Nat := 64

/-- The longest path, in bytes. -/
def maxPathBytes : Nat := 4096

/-- The longest path component, in bytes. -/
def maxComponentBytes : Nat := 255

/-- The most branches that may run at once. -/
def maxParallelismLimit : Nat := 256

/-- Checks a path-valued field: after trimming it must be non-empty and within the limits. -/
def checkPathField (field value : String) : Except String Unit :=
  let trimmed := Text.trim value
  if trimmed.isEmpty then .error (field ++ " must be non-empty")
  else if trimmed.utf8ByteSize > maxPathBytes then .error (field ++ " exceeds max length")
  else if Host.longestComponent trimmed > maxComponentBytes then
    .error (field ++ " path component too long")
  else .ok ()

/-- Checks the cache section. -/
def checkCache (c : CacheSettings) : Except String Unit :=
  if c.keyPrefix.utf8ByteSize > maxKeyPrefixBytes then .error "cache.key_prefix exceeds max length"
  else if Text.hasBlank c.keyPrefix then .error "cache.key_prefix must not contain whitespace"
  else
    match c.backend, c.databasePath with
    | .database, none => .error "cache.backend=sqlite requires cache.sqlite_path"
    | _, some path => checkPathField "cache.sqlite_path" path
    | _, none => .ok ()

/-- Checks the sync section. -/
def checkSync (s : SyncSettings) : Except String Unit :=
  if s.maxParallelism < 1 || s.maxParallelism > maxParallelismLimit then
    .error ("sync.max_parallelism must be between 1 and " ++ toString maxParallelismLimit)
  else if s.ruleTimeoutMs = some 0 then .error "sync.rule_timeout_ms must be greater than zero"
  else .ok ()

/-- Checks the log filter with the logging library's parser, reporting its text. -/
def checkLogFilter (parseFilter : String → Except String Unit) (filter : String) :
    Except String Unit :=
  (parseFilter filter).mapError ("logging.filter: " ++ ·)

/-- Checks the role declarations, in order: a name that is not blank and not standard, a rule
that is not blank, and no name twice. -/
def checkRoles (roles : List Declaration) : Except String Unit :=
  go [] roles
where
  /-- Checks the declarations after those whose names are given. -/
  go (seen : List String) : List Declaration → Except String Unit
    | [] => .ok ()
    | d :: rest =>
      if Text.isBlank d.name then .error "roles.name must be non-empty"
      else if isStandardName d.name then
        .error ("roles.name " ++ d.name ++ " is reserved for a standard role")
      else if Text.isBlank d.rule then .error ("role " ++ d.name ++ " must name a rule")
      else if seen.contains d.name then .error ("duplicate role name: " ++ d.name)
      else go (d.name :: seen) rest

/-- Checks one community with its id trimmed, and returns it with that id. -/
def checkCommunity (g : CommunitySettings) : Except String CommunitySettings :=
  let id := Text.trim g.id
  let named := g.name.any Text.isBlank
  if id.isEmpty then .error "guilds.id must be non-empty"
  else if named then .error ("guilds.name must be non-empty when set (guild " ++ id ++ ")")
  else
    match g.roles.toList.find? (fun (r, rid) => Text.isBlank r || Text.isBlank rid) with
    | some (r, _) =>
      if Text.isBlank r then .error ("guild " ++ id ++ " maps an empty role name")
      else .error ("guild " ++ id ++ " maps role " ++ r ++ " to an empty role id")
    | none =>
      if g.sticky.any Text.isBlank then .error ("guild " ++ id ++ " lists an empty sticky role id")
      else .ok { g with id := id }

/-- Checks the communities in order, each before the test that its id is new. -/
def checkCommunities (seen : List String) :
    List CommunitySettings → Except String (List CommunitySettings)
  | [] => .ok []
  | g :: rest => do
    let g' ← checkCommunity g
    if seen.contains g'.id then throw ("duplicate guild id: " ++ g'.id)
    let rest' ← checkCommunities (g'.id :: seen) rest
    pure (g' :: rest')

/-- Validates settings, reading the log filter with the given parser: the first broken rule, or
the settings with trimmed community ids. -/
def validate (parseFilter : String → Except String Unit) (s : Settings) :
    Except SettingsError Settings :=
  match (do
      checkCache s.cache
      checkSync s.sync
      checkLogFilter parseFilter s.logFilter
      checkRoles s.roles
      checkCommunities [] s.communities : Except String (List CommunitySettings)) with
  | .ok gs => .ok { s with communities := gs }
  | .error e => .error (.invalid e)

end RoleSync.Settings
