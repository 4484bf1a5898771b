import RoleSync.Manager.Resolve
/-!
A manager session: one role manager driven step by step. A step resolves or refreshes a user,
computes roles, drops cached results, asks for memberships, moves the clock, reloads the
rulebook, or changes the world. Each step reports its answer with the notices, identity
disclosures and platform calls it caused, and how often each rule's predicate has run so far.
-/

namespace RoleSync

set_option autoImplicit false

/-- One step of a manager session. -/
inductive ManagerStep where
  | sync (req : SyncRequest)
  | refresh (req : SyncRequest)
  | resolveRoles (user : String) (optedIn : Bool) (displayName discriminator : String)
      (communities : List String)
  | invalidate (user : String)
  | collectMemberships (user : String)
  | advance (ms : Nat)
  | replaceRulebook (rules : List Rule) (emailCheck : Option EmailCheck)
  | setPermission (verdict : JoinVerdict) (user : Option String)
  | setPlatform (change : Platform → Platform)
  | setCacheFaults (faults : Faults)
  | cacheState (user : String)

/-- The answer to one step. -/
inductive ManagerAnswer where
  | report (r : Report)
  | refreshed (r : Except CacheError Report)
  | resolved (r : ResolvedRoles)
  | drained (r : Except CacheError Nat)
  | memberships (found : List (String × Bool))
  | done
  | replaced (previous : Except RulebookError (List String))
  | cacheContents (live : Nat) (index : List String)
  | cacheEnabled (on : Bool)
  | unsupported (reason : String)

/-- What a step did: its answer, the notices, disclosures and platform calls it caused, and the
running count of predicate runs by rule. -/
structure StepRecord where
  answer : ManagerAnswer
  notices : List SentNotice
  identityCalls : List IdentityCall
  platformCalls : List PlatformCall
  ruleCalls : List (String × Nat)

/-- Whether a list of texts comes no later than another in lexicographic order. -/
def textsNoLater : List String → List String → Bool
  | [], _ => true
  | _ :: _, [] => false
  | a :: as, b :: bs =>
    match compare a b with
    | .lt => true
    | .eq => textsNoLater as bs
    | .gt => false

/-- The order in which platform calls are listed: by community, action label, user, then role. -/
def PlatformCall.before (a b : PlatformCall) : Bool :=
  textsNoLater [a.community, a.action.label, a.user, a.role]
    [b.community, b.action.label, b.user, b.role]

namespace Manager

/-- Runs one step. -/
def step (m : Manager) : ManagerStep → ManagerAnswer × Manager
  | .sync req =>
    let (r, m) := m.resolveAndSync req
    (.report r, m)
  | .refresh req =>
    let (r, m) := m.refreshUser req
    (.refreshed r, m)
  | .resolveRoles user optedIn name disc ids =>
    let (r, m) := m.resolveRoles user optedIn ⟨user, name, disc⟩ (NameSet.ofList ids)
    (.resolved r, m)
  | .invalidate user =>
    let (r, m) := m.invalidateUser user
    (.drained r, m)
  | .collectMemberships user =>
    let (r, m) := m.collectMemberships user
    (.memberships r, m)
  | .advance ms => (.done, { m with clock := m.clock + ms })
  | .replaceRulebook rules check =>
    match Rulebook.build rules check with
    | .ok b => (.replaced (.ok m.rulebook.names), { m with rulebook := b })
    | .error e => (.replaced (.error e), m)
  | .setPermission v none => (.done, { m with gate := { m.gate with fallback := v } })
  | .setPermission v (some user) =>
    (.done, { m with gate := { m.gate with byUser := m.gate.byUser.insert user v } })
  | .setPlatform change => (.done, { m with platform := change m.platform })
  | .setCacheFaults f =>
    match m.cache.store with
    | some (.memory mem _) => (.done, { m with cache := { m.cache with store := some (.memory mem f) } })
    | _ => (.unsupported "memory backend only", m)
  | .cacheState user =>
    match m.cache.store with
    | some (.memory mem _) =>
      (.cacheContents (mem.liveCount m.clock) (mem.indexMembers (m.cache.indexKey user)), m)
    | some (.database ..) => (.unsupported "memory backend only", m)
    | none => (.cacheEnabled false, m)

/-- Runs one step and records what it did. -/
def record (m : Manager) (st : ManagerStep) : StepRecord × Manager :=
  let (a, m') := { m with journal := {} }.step st
  (⟨a, m'.journal.notices, m'.journal.identityCalls,
    m'.journal.platformCalls.mergeSort PlatformCall.before, m'.counters.toList⟩, m')

/-- Runs steps in order and records each. -/
def runSteps (m : Manager) : List ManagerStep → List StepRecord
  | [] => []
  | st :: rest =>
    let (r, m') := m.record st
    r :: m'.runSteps rest

end Manager

end RoleSync
