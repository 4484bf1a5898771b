import RoleSync.Cache.RuleCache
/-!
A cache session: a rule cache on a runtime clock, driven step by step. Besides the rule cache's
own operations, a step may call the store directly, move the clock, purge, inspect the
in-memory store, change its fault plan, or run a statement on the database file. A step that
does not apply to the store answers with the reason.
-/

namespace RoleSync

set_option autoImplicit false

/-- One step of a cache session. -/
inductive CacheStep where
  | put (rule : Rule) (user : String) (roles : List String)
  | get (rule : Rule) (user : String)
  | invalidate (user : String)
  | enabled
  | entryKey (rule user : String)
  | indexKey (user : String)
  | advance (ms : Nat)
  | purge
  | liveEntries
  | indexMembersOf (user : String)
  | indexMembersAt (indexKey : String)
  | rawGet (key : String)
  | rawReplace (key : String) (members : List String) (ttl : Nat)
  | rawDelete (keys : List String)
  | rawIndexAdd (indexKey member : String)
  | rawIndexDrain (indexKey : String)
  | setFaults (faults : Faults)
  | sql (text : String)

/-- The answer to one step. -/
inductive CacheAnswer where
  | done
  | found (roles : NameSet)
  | missing
  | drained (count : Nat)
  | enabled (on : Bool)
  | key (text : String)
  | purged (count : Nat)
  | live (count : Nat)
  | members (ms : List String)
  | stored (ms : Option (List String))
  | changed (count : Nat)
  | failed (e : CacheError)
  /-- A statement the engine refused, with its message. -/
  | refused (message : String)
  | unsupported (reason : String)

/-- Why a step does not apply. -/
def noStore : String := "no backend"

/-- Why a step applies to the in-memory store only. -/
def memoryOnly : String := "memory backend only"

/-- Why a step applies to the database store only. -/
def databaseOnly : String := "sqlite backend only"

/-- A rule cache and the runtime clock, in milliseconds. -/
structure CacheSession where
  cache : RuleCache
  clock : Nat := 0

namespace CacheSession

/-- Answers a store call that may fail. -/
def answer {α : Type} (r : Except CacheError α) (ok : α → CacheAnswer) : CacheAnswer :=
  match r with
  | .ok a => ok a
  | .error e => .failed e

/-- Runs a direct store call. -/
def direct {α : Type} (s : CacheSession) (call : Store → Except CacheError α × Store)
    (ok : α → CacheAnswer) : CacheAnswer × CacheSession :=
  match s.cache.store with
  | none => (.unsupported noStore, s)
  | some st =>
    let (r, st') := call st
    (answer r ok, { s with cache := { s.cache with store := some st' } })

/-- Runs one step. -/
def step (s : CacheSession) : CacheStep → CacheAnswer × CacheSession
  | .put rule user roles =>
    let (r, c) := s.cache.put s.clock rule user (NameSet.ofList roles)
    (answer r fun _ => .done, { s with cache := c })
  | .get rule user =>
    let (r, c) := s.cache.tryGet s.clock rule user
    (answer r fun l => match l with
      | .hit roles => .found roles
      | .notFound => .missing, { s with cache := c })
  | .invalidate user =>
    let (r, c) := s.cache.invalidateUser user
    (answer r .drained, { s with cache := c })
  | .enabled => (.enabled s.cache.isEnabled, s)
  | .entryKey rule user => (.key (s.cache.entryKey rule user), s)
  | .indexKey user => (.key (s.cache.indexKey user), s)
  | .advance ms => (.done, { s with clock := s.clock + ms })
  | .purge =>
    match s.cache.store with
    | some (.memory m f) =>
      let (n, m') := m.purge s.clock
      (.purged n, { s with cache := { s.cache with store := some (.memory m' f) } })
    | some (.database d w) =>
      let (r, d') := CacheFile.purge Sql.engine d (w s.clock)
      (match r with
        | .ok n => .purged n
        | .error e => .failed e.toCacheError,
       { s with cache := { s.cache with store := some (.database d' w) } })
    | none => (.unsupported noStore, s)
  | .liveEntries =>
    match s.cache.store with
    | some (.memory m _) => (.live (m.liveCount s.clock), s)
    | _ => (.unsupported memoryOnly, s)
  | .indexMembersOf user =>
    match s.cache.store with
    | some (.memory m _) => (.members (m.indexMembers (s.cache.indexKey user)), s)
    | _ => (.unsupported memoryOnly, s)
  | .indexMembersAt k =>
    match s.cache.store with
    | some (.memory m _) => (.members (m.indexMembers k), s)
    | _ => (.unsupported memoryOnly, s)
  | .rawGet key => s.direct (fun st => st.getMembers s.clock key) .stored
  | .rawReplace key ms ttl => s.direct (fun st => st.replaceMembers s.clock key ms ttl) fun _ => .done
  | .rawDelete keys => s.direct (fun st => st.delete keys) fun _ => .done
  | .rawIndexAdd k m => s.direct (fun st => st.indexAdd k m) fun _ => .done
  | .rawIndexDrain k => s.direct (fun st => st.indexDrain k) .members
  | .setFaults f =>
    match s.cache.store with
    | some (.memory m _) => (.done, { s with cache := { s.cache with store := some (.memory m f) } })
    | _ => (.unsupported memoryOnly, s)
  | .sql text =>
    match s.cache.store with
    | some (.database d w) =>
      match CacheFile.runAside d text with
      | .ok (n, h) => (.changed n, { s with cache := { s.cache with store := some (.database h w) } })
      | .error e => (.refused e.message, s)
    | _ => (.unsupported databaseOnly, s)

/-- Runs steps in order and gives their answers. -/
def run (s : CacheSession) : List CacheStep → List CacheAnswer
  | [] => []
  | st :: rest =>
    let (a, s') := s.step st
    a :: s'.run rest

end CacheSession

/-- Opens a database file several times in a row, after running setup statements on it; gives
the outcome of each opening, or the engine's refusal of the setup. -/
def openRepeatedly (path : String) (setup : Option String) (times : Nat) :
    Except String (List (Except DatabaseError Unit)) :=
  let start : Except String Sql.Database :=
    match setup with
    | none => .ok Sql.Database.empty
    | some sql =>
      match (Sql.Connection.onto Sql.Database.empty).executeBatch sql with
      | .ok c => .ok c.close
      | .error e => .error e.message
  start.map fun d0 =>
    ((List.range times).foldl (fun (acc : List (Except DatabaseError Unit) × Sql.Database) _ =>
      match CacheFile.open? Sql.engine path acc.2 with
      | .ok d' => (acc.1 ++ [.ok ()], d')
      | .error e => (acc.1 ++ [.error e], acc.2)) ([], d0)).1

end RoleSync
