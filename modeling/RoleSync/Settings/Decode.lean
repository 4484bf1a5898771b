import RoleSync.Settings.Basic
import RoleSync.Toml.Document
/-!
Decoding settings from a TOML document.

A record is read from a table, by field name, or from an array, by position; keys the record
does not know are passed over, a missing field takes its default, and a field without one must
be present. A choice among names (the cache backend, the journal mode) is a string naming it, or
a table with that name as its only key over an empty table. A count is an integer from 0 below
2^64. Anything else of the wrong kind makes the document undecodable.
-/

namespace RoleSync.Settings

set_option autoImplicit false

open Toml

/-- The values of a record's fields, in the order of the names: by key from a table, by
position from an array. -/
def fieldValues (names : List String) : Value → Option (List (Option Value))
  | .table es => some (names.map fun n => (es.find? (·.1 == n)).map (·.2))
  | .array items => some (names.mapIdx fun i _ => items[i]?)
  | _ => none

/-- A string. -/
def text : Value → Option String
  | .string s => some s
  | _ => none

/-- A boolean. -/
def flag : Value → Option Bool
  | .boolean b => some b
  | _ => none

/-- A count: an integer from 0 below 2^64. -/
def count : Value → Option Nat
  | .integer (.ofNat n) => if n < 18446744073709551616 then some n else none
  | _ => none

/-- One of several names. -/
def choice {α : Type} (names : List (String × α)) : Value → Option α
  | .string s => (names.find? (·.1 == s)).map (·.2)
  | .table [(k, .table [])] => (names.find? (·.1 == k)).map (·.2)
  | _ => none

/-- A list of decoded items. -/
def listOf {α : Type} (item : Value → Option α) : Value → Option (List α)
  | .array items => items.mapM item
  | _ => none

/-- A table of strings under string keys. -/
def stringTable : Value → Option (Std.TreeMap String String compare)
  | .table es => es.foldlM (fun (m : Std.TreeMap String String compare) (k, v) =>
      (text v).map fun s => m.insert k s) ∅
  | _ => none

/-- A field with a default. -/
def orDefault {α : Type} (d : α) (dec : Value → Option α) : Option Value → Option α
  | none => some d
  | some v => dec v

/-- A field that must be present. -/
def required {α : Type} (dec : Value → Option α) : Option Value → Option α
  | none => none
  | some v => dec v

/-- A field that may be absent. -/
def optional {α : Type} (dec : Value → Option α) : Option Value → Option (Option α)
  | none => some none
  | some v => (dec v).map some

/-- The cache section. -/
def cacheOf (v : Value) : Option CacheSettings := do
  let fs ← fieldValues ["backend", "key_prefix", "sqlite_path", "sqlite_busy_timeout_ms",
    "sqlite_journal_mode"] v
  match fs with
  | [b, k, p, t, j] =>
    pure { backend := ← orDefault .memory
             (choice [("none", .none), ("memory", .memory), ("sqlite", .database)]) b
           keyPrefix := ← orDefault "rl_" text k
           databasePath := ← optional text p
           busyTimeoutMs := ← orDefault 5000 count t
           journalMode := ← orDefault .writeAhead
             (choice [("wal", .writeAhead), ("delete", .delete)]) j }
  | _ => none

/-- The sync section. -/
def syncOf (v : Value) : Option SyncSettings := do
  let fs ← fieldValues ["max_parallelism", "rule_timeout_ms", "remove_unwarranted_roles",
    "notify_on_failure"] v
  match fs with
  | [m, t, r, n] =>
    pure { maxParallelism := ← orDefault 16 count m
           ruleTimeoutMs := ← optional count t
           removeUnwarranted := ← orDefault false flag r
           notifyOnFailure := ← orDefault true flag n }
  | _ => none

/-- The logging section: its filter. -/
def logFilterOf (v : Value) : Option String := do
  let fs ← fieldValues ["filter"] v
  match fs with
  | [f] => orDefault "info" text f
  | _ => none

/-- A role declaration. -/
def declarationOf (v : Value) : Option Declaration := do
  let fs ← fieldValues ["name", "display_name", "rule"] v
  match fs with
  | [n, d, r] => pure ⟨← required text n, ← optional text d, ← required text r⟩
  | _ => none

/-- A community. -/
def communityOf (v : Value) : Option CommunitySettings := do
  let fs ← fieldValues ["id", "name", "sticky_roles", "roles"] v
  match fs with
  | [i, n, s, r] =>
    pure { id := ← required text i
           name := ← optional text n
           sticky := ← orDefault [] (listOf text) s
           roles := ← orDefault ∅ stringTable r }
  | _ => none

/-- The settings a document holds; none when a value has the wrong kind or a required field is
missing. -/
def ofValue (v : Value) : Option Settings := do
  let fs ← fieldValues ["cache", "sync", "logging", "roles", "guilds"] v
  match fs with
  | [c, s, l, r, g] =>
    pure { cache := ← orDefault {} cacheOf c
           sync := ← orDefault {} syncOf s
           logFilter := ← orDefault "info" logFilterOf l
           roles := ← orDefault [] (listOf declarationOf) r
           communities := ← orDefault [] (listOf communityOf) g }
  | _ => none

end RoleSync.Settings
