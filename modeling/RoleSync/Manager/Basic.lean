import RoleSync.Manager.Reconcile
import RoleSync.Manager.FanOut
import RoleSync.Rulebook
/-!
The role manager and its reports. The manager holds the current rulebook, the role
declarations and monitored communities (each under its own id), the rule cache, its settings,
the world it talks to, the virtual clock, and how often each rule's predicate has run.

A resolution is refused, or it reports the resolved roles (with how the identity was handled,
the failed rules, and whether the cache was bypassed after a failure) and one outcome per
reconciled community.
-/

namespace RoleSync

set_option autoImplicit false

/-- Settings of the role manager. -/
structure ManagerConfig where
  maxParallelism : Nat := 16
  /-- The deadline of each predicate run, in milliseconds. -/
  ruleTimeout : Option Nat := none
  removeUnwarranted : Bool := false
  notifyOnFailure : Bool := true
  deriving DecidableEq, Repr

/-- How the verified identity was handled in a resolution. -/
inductive Disclosure where
  /-- No relevant rule is strong. -/
  | notRequired
  /-- The user did not opt into identity storage. -/
  | notOptedIn
  | disclosed
  | failed (reason : String)
  deriving DecidableEq, Repr

/-- Whether the identity was disclosed. -/
def Disclosure.isDisclosed : Disclosure → Bool
  | .disclosed => true
  | _ => false

/-- A rule that failed, with its failure. -/
structure RuleFailure where
  rule : String
  error : RuleError
  deriving DecidableEq, Repr

/-- The roles of a user after one resolution. -/
structure ResolvedRoles where
  roles : NameSet
  identity : Disclosure
  ruleFailures : List RuleFailure
  cacheDegraded : Bool

/-- The report of a resolution. -/
inductive Report where
  | denied (user reason : String)
  | synced (user : String) (resolved : ResolvedRoles) (communities : List CommunityOutcome)

/-- A user asking for their roles: id, identity opt-in, platform attributes, the communities with
their presence, and whether they want notices. -/
structure SyncRequest where
  user : String
  optedIn : Bool
  displayName : String
  discriminator : String
  memberships : List (String × Bool)
  notify : Bool

/-- The role manager and its world. -/
structure Manager where
  rulebook : Rulebook
  declarations : Declarations
  communities : Std.TreeMap String Community compare
  communitiesKeyed : KeyedBy Community.id communities
  cache : RuleCache
  config : ManagerConfig
  gate : Gate
  vault : Vault
  platform : Platform
  notifierDown : Bool
  clock : Nat := 0
  counters : Std.TreeMap String Nat compare := ∅
  journal : Journal := {}

end RoleSync
