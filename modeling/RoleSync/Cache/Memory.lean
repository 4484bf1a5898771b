import RoleSync.Role
import Std.Data.TreeMap
/-!
The in-memory store: entries by key, each a member list with an expiry instant on the runtime
clock, and index sets by key. An entry is live while the clock is before its expiry. Reading a
dead entry removes it; purging removes every dead entry, then every index member that is no
longer an entry key, then every empty index set.

Instants are milliseconds on the runtime clock. A lifetime is capped at ten years.
-/

namespace RoleSync

set_option autoImplicit false

/-- The longest lifetime an entry is given: ten years of 365 days, in milliseconds. -/
def maxLifetimeMs : Nat := 10 * 365 * 24 * 60 * 60 * 1000

/-- A stored member list and the instant at which it stops being live. -/
structure MemoryEntry where
  members : List String
  expiresAt : Nat
  deriving DecidableEq, Repr

/-- Entries and index sets, by key. -/
structure MemoryStore where
  entries : Std.TreeMap String MemoryEntry compare := ∅
  indexes : Std.TreeMap String NameSet compare := ∅

namespace MemoryStore

/-- The members of a live entry; a dead entry found on the way is removed. -/
def get (s : MemoryStore) (now : Nat) (key : String) : Option (List String) × MemoryStore :=
  match s.entries.get? key with
  | some e =>
    if now < e.expiresAt then (some e.members, s)
    else (none, { s with entries := s.entries.erase key })
  | none => (none, s)

/-- Stores a member list under a key for a lifetime, replacing what was there. -/
def replace (s : MemoryStore) (now : Nat) (key : String) (members : List String) (ttl : Nat) :
    MemoryStore :=
  { s with entries := s.entries.insert key ⟨members, now + min ttl maxLifetimeMs⟩ }

/-- Removes the entries under the given keys; index sets are left alone. -/
def delete (s : MemoryStore) (keys : List String) : MemoryStore :=
  { s with entries := keys.foldl (fun es k => es.erase k) s.entries }

/-- Adds a member to an index set. -/
def indexAdd (s : MemoryStore) (indexKey member : String) : MemoryStore :=
  { s with indexes := s.indexes.insert indexKey ((s.indexes.getD indexKey ∅).insert member) }

/-- Removes an index set and returns its members in order. -/
def indexDrain (s : MemoryStore) (indexKey : String) : List String × MemoryStore :=
  ((s.indexes.getD indexKey ∅).toList, { s with indexes := s.indexes.erase indexKey })

/-- The members of an index set in order, none when it is absent. -/
def indexMembers (s : MemoryStore) (indexKey : String) : List String :=
  (s.indexes.getD indexKey ∅).toList

/-- The number of live entries. -/
def liveCount (s : MemoryStore) (now : Nat) : Nat :=
  (s.entries.values.filter fun e => now < e.expiresAt).length

/-- Removes the dead entries, then the index members that name no entry, then the empty index
sets; gives the number of entries removed. -/
def purge (s : MemoryStore) (now : Nat) : Nat × MemoryStore :=
  let live := s.entries.filter fun _ e => now < e.expiresAt
  let indexes := (s.indexes.map fun _ set => set.filter fun m => live.contains m).filter
    fun _ set => !set.isEmpty
  (s.entries.size - live.size, ⟨live, indexes⟩)

end MemoryStore

end RoleSync
