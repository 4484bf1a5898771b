import RoleSync.Cache.Database
import RoleSync.Sql.Call
import RoleSync.Text.Json
/-!
The engine and codec the database store runs on: the SQL engine of `RoleSync.Sql` and the JSON
texts of `RoleSync.Text.Json`. A file can also be changed beside the store, by another
connection, and the store's connection then holds a schema it has to read again.
-/

namespace RoleSync

set_option autoImplicit false

/-- The SQL engine, its files being databases and its connections those of `Sql.Connection`. -/
def Sql.engine : SqlEngine where
  File := Sql.Database
  Conn := Sql.Connection
  connect := Sql.Connection.onto
  close := Sql.Connection.close
  query := Sql.Connection.query
  execute := Sql.Connection.execute
  executeBatch := Sql.Connection.executeBatch
  beginTransaction := Sql.Connection.beginTransaction
  commitTransaction := Sql.Connection.commitTransaction

def Text.Json.codec : JsonCodec := ⟨Text.Json.writeStrings, Text.Json.readStrings⟩

namespace CacheFile

/-- A new file, opened. -/
def fresh : Sql.engine.Conn :=
  connectPrepared Sql.engine Sql.Database.empty (prepareSchema Sql.engine Sql.Database.empty)

/-- Runs one statement on the file through another connection; the store's connection then
holds the schema it read before, if the statement changed it. -/
def runAside (h : Sql.engine.Conn) (sql : String) :
    Except Sql.CallError (Nat × Sql.engine.Conn) :=
  match (Sql.Connection.onto h.main).execute sql [] with
  | .error e => .error e
  | .ok (n, c) =>
    let file := c.close
    let seen := if file.cookie != h.main.cookie then some (h.seen.getD h.main.schema) else h.seen
    .ok (n, { Sql.Connection.onto file with seen := seen })

end CacheFile

end RoleSync
