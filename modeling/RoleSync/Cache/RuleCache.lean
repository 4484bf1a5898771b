import RoleSync.Cache.Store
import RoleSync.Rule.Basic
/-!
The rule cache: the role set a rule produced for a user, kept for the rule's lifetime under the
key prefix ++ "roles:" ++ rule ++ ":" ++ user, and listed in the user's index under
prefix ++ "index:" ++ user so that all of a user's entries can be dropped together.

Only cacheable rules are cached. An empty role set is stored as the single member "" so that it
differs from a missing entry, and a role set that contains "" itself is refused. Reading drops
the "" members; a stored empty list reads as a miss.
-/

namespace RoleSync

set_option autoImplicit false

/-- The member that stands for an empty role set. -/
def emptySetMember : String := ""

/-- The key prefix of a cache built without a store. -/
def defaultKeyPrefix : String := "rl_"

/-- What a cache read found. -/
inductive Lookup where
  | hit (roles : NameSet)
  | notFound

/-- A rule cache over an optional store. -/
structure RuleCache where
  store : Option Store
  keyPrefix : String

namespace RuleCache

/-- The cache without a store: nothing is read or written. -/
def disabled : RuleCache := ⟨none, defaultKeyPrefix⟩

/-- Whether the cache has a store. -/
def isEnabled (c : RuleCache) : Bool := c.store.isSome

/-- The key of a rule's entry for a user. -/
def entryKey (c : RuleCache) (rule user : String) : String :=
  c.keyPrefix ++ "roles:" ++ rule ++ ":" ++ user

/-- The key of a user's index. -/
def indexKey (c : RuleCache) (user : String) : String := c.keyPrefix ++ "index:" ++ user

/-- The member list that stores a role set. -/
def encodeRoles (roles : NameSet) : List String :=
  if roles.isEmpty then [emptySetMember] else roles.toList

/-- What a stored member list means. -/
def decodeMembers (members : List String) : Lookup :=
  if members.isEmpty then .notFound
  else .hit (NameSet.ofList (members.filter (· ≠ emptySetMember)))

/-- Reads a rule's entry for a user at a runtime instant. -/
def tryGet (c : RuleCache) (now : Nat) (rule : Rule) (user : String) :
    Except CacheError Lookup × RuleCache :=
  match c.store, rule.isCacheable with
  | some s, true =>
    let (r, s') := s.getMembers now (c.entryKey rule.name user)
    (r.map fun o => match o with
      | some ms => decodeMembers ms
      | none => .notFound, { c with store := some s' })
  | _, _ => (.ok .notFound, c)

/-- Writes a rule's role set for a user, then lists the entry in the user's index. -/
def put (c : RuleCache) (now : Nat) (rule : Rule) (user : String) (roles : NameSet) :
    Except CacheError Unit × RuleCache :=
  match c.store, rule.isCacheable with
  | some s, true =>
    if roles.contains emptySetMember then
      (.error (.invalidValue ("rule " ++ rule.name ++ " produced an empty role name")), c)
    else
      let key := c.entryKey rule.name user
      match s.replaceMembers now key (encodeRoles roles) rule.ttl with
      | (.error e, s') => (.error e, { c with store := some s' })
      | (.ok (), s') =>
        let (r, s'') := s'.indexAdd (c.indexKey user) key
        (r, { c with store := some s'' })
  | _, _ => (.ok (), c)

/-- Drops every entry listed in a user's index and the index itself; gives how many keys the
index listed. -/
def invalidateUser (c : RuleCache) (user : String) : Except CacheError Nat × RuleCache :=
  match c.store with
  | none => (.ok 0, c)
  | some s =>
    match s.indexDrain (c.indexKey user) with
    | (.error e, s') => (.error e, { c with store := some s' })
    | (.ok [], s') => (.ok 0, { c with store := some s' })
    | (.ok keys, s') =>
      let (r, s'') := s'.delete keys
      (r.map fun _ => keys.length, { c with store := some s'' })

end RuleCache

end RoleSync
