import RoleSync.Cache.Error
import RoleSync.Host
import RoleSync.Sql.Client
/-!
The database store: a cache kept in a database file, through an engine and a JSON codec given as
parameters. "cache_meta" holds the schema version, "cache_entries" one row per key with the
member list as JSON text and an expiry instant in milliseconds since the epoch, and "cache_index"
one row per index key and member. Expiry is judged on a wall-clock instant given to each method.
-/

namespace RoleSync

set_option autoImplicit false

/-- Why a database call failed, with its detail. -/
inductive DatabaseError where
  | io (detail : String)
  | db (detail : String)
  | corrupt (detail : String)
  | versionMismatch (detail : String)
  | invalid (detail : String)
  deriving DecidableEq, Repr

namespace DatabaseError

/-- The text of a database failure. -/
def message : DatabaseError → String
  | .io d => "sqlite cache io error: " ++ d
  | .db d => "sqlite cache db error: " ++ d
  | .corrupt d => "sqlite cache corruption: " ++ d
  | .versionMismatch d => "sqlite cache version mismatch: " ++ d
  | .invalid d => "sqlite cache invalid input: " ++ d

/-- The cache failure that a database failure becomes: corruption stays corruption, the rest
makes the store unavailable. -/
def toCacheError : DatabaseError → CacheError
  | .corrupt d => .corrupt d
  | e => .unavailable e.message

/-- The database failure of an engine call. -/
def ofCall (e : Sql.CallError) : DatabaseError := .db e.message

end DatabaseError

/-- A database engine as the store reaches it through a client library: files, connections to
them, and the calls the store makes. -/
structure SqlEngine where
  File : Type
  Conn : Type
  connect : File → Conn
  /-- Closes a connection; what an open transaction wrote is rolled back. -/
  close : Conn → File
  /-- Runs a statement with parameters; answers the names of its result columns and its rows. -/
  query : Conn → String → List Sql.Value →
    Except Sql.CallError (List String × List (List Sql.Value) × Conn)
  /-- Runs the one statement of a text with parameters; answers the rows it changed. -/
  execute : Conn → String → List Sql.Value → Except Sql.CallError (Nat × Conn)
  /-- Runs the statements of a text in turn. -/
  executeBatch : Conn → String → Except Sql.CallError Conn
  beginTransaction : Conn → Except Sql.CallError Conn
  commitTransaction : Conn → Except Sql.CallError Conn

/-- A connection closed and opened again on its file. -/
def SqlEngine.reopen (E : SqlEngine) (c : E.Conn) : E.Conn := E.connect (E.close c)

/-- How member lists are written as text, and read back: none for a text that is no list. -/
structure JsonCodec where
  write : List String → String
  read : String → Option (List String)

/-- The largest value of a signed 64-bit column. -/
def maxInstant : Int := 9223372036854775807

/-- The longest path the store accepts, in bytes. -/
def maxPathBytes : Nat := 4096

/-- The longest path component the store accepts, in bytes. -/
def maxComponentBytes : Nat := 255

/-- The schema version this library writes and reads. -/
def schemaVersion : Int := 1

namespace CacheFile

/-! ## The statements of the store -/

/-- Reads an entry's members and expiry. -/
def selectEntry : String := "SELECT members, expires_at_ms FROM cache_entries WHERE key = ?1"

/-- Deletes an entry read as expired, unless it changed since. -/
def deleteExpired : String := "DELETE FROM cache_entries WHERE key = ?1 AND expires_at_ms = ?2"

/-- Writes an entry over whatever was stored under its key. -/
def upsertEntry : String :=
  "INSERT INTO cache_entries (key, members, expires_at_ms) VALUES (?1, ?2, ?3) " ++
  "ON CONFLICT(key) DO UPDATE SET members = excluded.members, expires_at_ms = " ++
  "excluded.expires_at_ms"

/-- Deletes an entry. -/
def deleteEntry : String := "DELETE FROM cache_entries WHERE key = ?1"

/-- Adds an index row. -/
def insertIndex : String := "INSERT OR IGNORE INTO cache_index (index_key, member) VALUES (?1, ?2)"

/-- Reads the members of an index key in order. -/
def selectIndex : String := "SELECT member FROM cache_index WHERE index_key = ?1 ORDER BY member"

/-- Deletes the rows of an index key. -/
def deleteIndex : String := "DELETE FROM cache_index WHERE index_key = ?1"

/-- Deletes the expired entries. -/
def purgeEntries : String := "DELETE FROM cache_entries WHERE expires_at_ms <= ?1"

/-- Deletes the index rows whose member is no entry key. -/
def purgeIndex : String :=
  "DELETE FROM cache_index WHERE member NOT IN (SELECT key FROM cache_entries)"

/-- Creates the version table. -/
def createMeta : String := "CREATE TABLE IF NOT EXISTS cache_meta (version INTEGER NOT NULL);"

/-- Reads the version. -/
def selectVersion : String := "SELECT version FROM cache_meta LIMIT 1"

/-- Records the version. -/
def insertVersion : String := "INSERT INTO cache_meta (version) VALUES (?1)"

/-- Creates the cache tables, laid out as the library writes it. -/
def createTables : String :=
  "CREATE TABLE IF NOT EXISTS cache_entries (\n" ++
  "                    key TEXT PRIMARY KEY,\n" ++
  "                    members TEXT NOT NULL,\n" ++
  "                    expires_at_ms INTEGER NOT NULL\n" ++
  "                );\n" ++
  "                CREATE INDEX IF NOT EXISTS idx_cache_entries_expiry\n" ++
  "                    ON cache_entries (expires_at_ms);\n" ++
  "                CREATE TABLE IF NOT EXISTS cache_index (\n" ++
  "                    index_key TEXT NOT NULL,\n" ++
  "                    member TEXT NOT NULL,\n" ++
  "                    PRIMARY KEY (index_key, member)\n" ++
  "                );"

/-! ## The methods -/

variable (E : SqlEngine) (J : JsonCodec)

/-- Runs calls on a connection to a file: the result and the file after, or the failure and
the file as it was. -/
def onFile {α : Type} (db : E.File) (calls : E.Conn → Except DatabaseError (α × E.Conn)) :
    Except DatabaseError α × E.File :=
  match calls (E.connect db) with
  | .ok (a, c) => (.ok a, E.close c)
  | .error e => (.error e, db)

/-- Runs calls on the store's connection, which is then closed and opened again on its file:
the result with the file after the calls, or the failure with the file as it was. -/
def onHandle {α : Type} (h : E.Conn) (calls : E.Conn → Except DatabaseError (α × E.Conn)) :
    Except DatabaseError α × E.Conn :=
  match calls h with
  | .ok (a, c) => (.ok a, E.reopen c)
  | .error e => (.error e, E.reopen h)

/-- Lifts an engine call. -/
def call {α : Type} (r : Except Sql.CallError α) : Except DatabaseError α :=
  r.mapError DatabaseError.ofCall

@[simp] theorem call_ok {α : Type} (a : α) : call (.ok a : Except Sql.CallError α) = .ok a := rfl

/-- The members stored under a key at a wall-clock instant. An expired row is deleted and reads
as absent; members that are not a JSON array of strings are corrupt. -/
def get (h : E.Conn) (clock : Int) (key : String) :
    Except DatabaseError (Option (List String)) × E.Conn :=
  onHandle E h fun c => do
    let (names, rows, c) ← call (E.query c selectEntry [.text key])
    match rows with
    | [] => return (none, c)
    | row :: _ =>
      let members ← call (Sql.readText names 0 (row.getD 0 .null))
      let expires ← call (Sql.readInteger names 1 (row.getD 1 .null))
      if expires ≤ clock then
        let (_, c) ← call (E.execute c deleteExpired [.text key, .integer expires])
        return (none, c)
      else
        match J.read members with
        | some ms => return (some ms, c)
        | none => .error (.corrupt "undecodable members")

/-- The expiry instant of a row written at a wall-clock instant with a lifetime, saturating at
the column's largest value. -/
def expiryFor (clock : Int) (ttl : Nat) : Int :=
  min (clock + min (Int.ofNat ttl) maxInstant) maxInstant

/-- Writes a member list under a key at a wall-clock instant, over the row that was there. -/
def replace (h : E.Conn) (clock : Int) (key : String) (members : List String) (ttl : Nat) :
    Except DatabaseError Unit × E.Conn :=
  onHandle E h fun c => do
    let (_, c) ← call (E.execute c upsertEntry
      [.text key, .text (J.write members), .integer (expiryFor clock ttl)])
    return ((), c)

/-- Deletes the rows of the given keys one after another. -/
def deleteEach (c : E.Conn) : List String → Except DatabaseError E.Conn
  | [] => .ok c
  | k :: ks => do
    let (_, c) ← call (E.execute c deleteEntry [.text k])
    deleteEach c ks

/-- Deletes the rows of the given keys, in one transaction. -/
def delete (h : E.Conn) (keys : List String) : Except DatabaseError Unit × E.Conn :=
  onHandle E h fun c => do
    let c ← call (E.beginTransaction c)
    let c ← deleteEach E c keys
    let c ← call (E.commitTransaction c)
    return ((), c)

/-- Adds an index row, unless it is there already. -/
def indexAdd (h : E.Conn) (indexKey member : String) : Except DatabaseError Unit × E.Conn :=
  onHandle E h fun c => do
    let (_, c) ← call (E.execute c insertIndex [.text indexKey, .text member])
    return ((), c)

/-- Deletes the rows of an index key and returns their members in order, in one transaction. -/
def indexDrain (h : E.Conn) (indexKey : String) : Except DatabaseError (List String) × E.Conn :=
  onHandle E h fun c => do
    let c ← call (E.beginTransaction c)
    let (names, rows, c) ← call (E.query c selectIndex [.text indexKey])
    let members ← rows.mapM fun r => call (Sql.readText names 0 (r.getD 0 .null))
    let (_, c) ← call (E.execute c deleteIndex [.text indexKey])
    let c ← call (E.commitTransaction c)
    return (members, c)

/-- Deletes the rows expired at a wall-clock instant, then the index rows whose member is no
entry key, in one transaction; gives the number of rows of the first step. -/
def purge (h : E.Conn) (clock : Int) : Except DatabaseError Nat × E.Conn :=
  onHandle E h fun c => do
    let c ← call (E.beginTransaction c)
    let (n, c) ← call (E.execute c purgeEntries [.integer clock])
    let (_, c) ← call (E.execute c purgeIndex [])
    let c ← call (E.commitTransaction c)
    return (n, c)

/-! ## Opening -/


/-- The path checks made before a file is opened, in order. -/
def checkPath (path : String) : Except DatabaseError Unit :=
  if path.isEmpty then .error (.invalid "cache path is empty")
  else if path.utf8ByteSize > maxPathBytes then .error (.invalid "cache path exceeds length limit")
  else if Host.longestComponent path > maxComponentBytes then
    .error (.invalid "cache path contains an overlong component")
  else if Host.isDirectory path then .error (.invalid "cache path must be a file, not a directory")
  else .ok ()

/-- The parent of a path, as its components without the last; none for a path with no
components to drop, and the empty path for a bare relative name. -/
def parentPath (path : String) : Option String :=
  let parts := (Host.pieces path).filter fun p => p ≠ "" && p ≠ "."
  match parts.reverse with
  | [] => none
  | _ :: before =>
    let joined := "/".intercalate before.reverse
    some (if Host.isAbsolute path then "/" ++ joined else joined)

/-- Makes a directory and the directories above it, as far as they are missing: a file in
the way, or on the way, fails. -/
def makeDirectories (dir : String) : Except DatabaseError Unit :=
  if dir.isEmpty then .ok ()
  else
    match Host.locate [] dir with
    | .ok (_, .directory) => .ok ()
    | .ok (_, .file) => .error (.io "File exists (os error 17)")
    | .error .notDirectory => .error (.io "Not a directory (os error 20)")
    | .error .notFound => .ok ()

/-- Whether the host lets a database file be made at a path: not in the system's views of
processes and devices. -/
def openable (path : String) : Bool :=
  let loc := Host.normalize (if Host.isAbsolute path then Host.components path
    else Host.workingDirectory ++ Host.components path)
  !(loc.head? == some "proc" || loc.head? == some "sys")

/-- The statements that prepare the schema, in one transaction: record version 1 and create
the cache tables when there is no version, accept version 1, refuse any other. -/
def schemaSteps (c : E.Conn) : Except DatabaseError (Unit × E.Conn) := do
  let c ← call (E.beginTransaction c)
  let c ← call (E.executeBatch c createMeta)
  let (names, rows, c) ← call (E.query c selectVersion [])
  match rows with
  | [] =>
    let (_, c) ← call (E.execute c insertVersion [.integer schemaVersion])
    let c ← call (E.executeBatch c createTables)
    let c ← call (E.commitTransaction c)
    return ((), c)
  | row :: _ =>
    let v ← call (Sql.readInteger names 0 (row.getD 0 .null))
    if v = schemaVersion then
      let c ← call (E.commitTransaction c)
      return ((), c)
    else throw (.versionMismatch ("unsupported schema version: " ++ toString v))

/-- Prepares the schema of an opened file; nothing changes on refusal. -/
def prepareSchema (db : E.File) : Except DatabaseError E.File :=
  match onFile E db (schemaSteps E) with
  | (.ok _, db') => .ok db'
  | (.error e, _) => .error e

/-- Opens the database file at a path: checks the path, makes its directory, opens the file,
then prepares the schema. -/
def open? (path : String) (db : E.File) : Except DatabaseError E.File := do
  checkPath path
  match parentPath path with
  | some dir => makeDirectories dir
  | none => .error (.io "cache path missing parent directory")
  if !openable path then .error (.db ("unable to open database file: " ++ path))
  prepareSchema E db

/-- The store's connection to a file once its schema is prepared: to the prepared file, or to
the file as it was when the preparation was refused. -/
def connectPrepared (db : E.File) : Except DatabaseError E.File → E.Conn
  | .ok db' => E.connect db'
  | .error _ => E.connect db

end CacheFile

end RoleSync
