import RoleSync.Cache.Memory
import RoleSync.Cache.LocalEngine
/-!
Cache stores: the in-memory store on the runtime clock, which a fault plan can make fail, and the
database store on a wall clock. A failing method returns its failure and leaves the stored data
as it was.
-/

namespace RoleSync

set_option autoImplicit false

/-- A cache store. -/
inductive Store where
  /-- The in-memory store, with the failures planned for its methods. -/
  | memory (mem : MemoryStore) (faults : Faults)
  /-- The database store on its connection, with the wall-clock instant, in milliseconds since
  the epoch, that it reads at each runtime instant. -/
  | database (handle : Sql.engine.Conn) (wallClock : Nat → Int)

namespace Store

/-- Runs a method of the in-memory store unless its failure is planned; either way the call moves
the plan on to the method's next answer. -/
def guarded {α : Type} (mem : MemoryStore) (faults : Faults) (m : StoreMethod)
    (act : MemoryStore → α × MemoryStore) : Except CacheError α × Store :=
  match faults.of m with
  | some e => (.error e, .memory mem (faults.advance m))
  | none =>
    let (a, mem') := act mem
    (.ok a, .memory mem' (faults.advance m))

/-- Lifts a database call. -/
def onDatabase {α : Type} (wallClock : Nat → Int)
    (r : Except DatabaseError α × Sql.engine.Conn) : Except CacheError α × Store :=
  (r.1.mapError DatabaseError.toCacheError, .database r.2 wallClock)

/-- The members stored under a key, at a runtime instant. -/
def getMembers (s : Store) (now : Nat) (key : String) :
    Except CacheError (Option (List String)) × Store :=
  match s with
  | .memory mem f => guarded mem f .get fun m => m.get now key
  | .database d w => onDatabase w (CacheFile.get Sql.engine Text.Json.codec d (w now) key)

/-- Stores a member list under a key for a lifetime in milliseconds. -/
def replaceMembers (s : Store) (now : Nat) (key : String) (members : List String) (ttl : Nat) :
    Except CacheError Unit × Store :=
  match s with
  | .memory mem f => guarded mem f .replace fun m => ((), m.replace now key members ttl)
  | .database d w =>
    onDatabase w (CacheFile.replace Sql.engine Text.Json.codec d (w now) key members ttl)

/-- Removes the entries under the given keys. -/
def delete (s : Store) (keys : List String) : Except CacheError Unit × Store :=
  match s with
  | .memory mem f => guarded mem f .delete fun m => ((), m.delete keys)
  | .database d w => onDatabase w (CacheFile.delete Sql.engine d keys)

/-- Adds a member to an index set. -/
def indexAdd (s : Store) (indexKey member : String) : Except CacheError Unit × Store :=
  match s with
  | .memory mem f => guarded mem f .indexAdd fun m => ((), m.indexAdd indexKey member)
  | .database d w => onDatabase w (CacheFile.indexAdd Sql.engine d indexKey member)

/-- Removes an index set and returns its members in byte order. -/
def indexDrain (s : Store) (indexKey : String) : Except CacheError (List String) × Store :=
  match s with
  | .memory mem f => guarded mem f .indexDrain fun m => m.indexDrain indexKey
  | .database d w => onDatabase w (CacheFile.indexDrain Sql.engine d indexKey)

end Store

end RoleSync
