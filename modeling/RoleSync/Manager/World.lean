import RoleSync.Notice
import RoleSync.Role
import Std.Data.TreeMap
/-!
The world around the role manager: who may join, where verified identities are kept, the chat
platform with its communities, members and role grants, and the channel on which members are
told about failures. Each is a value whose behaviour is data, so that any outage of any
collaborator can be written down; every call is recorded in a journal.
-/

namespace RoleSync

set_option autoImplicit false

/-- The answer of the permission checker about one user. -/
inductive JoinVerdict where
  | allow
  | deny (reason : String)
  /-- The checker itself failed with this message. -/
  | broken (message : String)
  deriving DecidableEq, Repr

/-- The text of a failed permission check. -/
def permissionErrorText (m : String) : String := "permission check error: " ++ m

/-- Who may join: a verdict for everyone, and verdicts for some users. -/
structure Gate where
  fallback : JoinVerdict := .allow
  byUser : Std.TreeMap String JoinVerdict compare := ∅

/-- The verdict for a user. -/
def Gate.verdict (g : Gate) (user : String) : JoinVerdict := g.byUser.getD user g.fallback

/-- Why an identity could not be read. -/
inductive IdentityError where
  | notAvailable (message : String)
  | accessFailed (message : String)
  deriving DecidableEq, Repr

/-- The text of an identity failure. -/
def IdentityError.message : IdentityError → String
  | .notAvailable m => "identity not available: " ++ m
  | .accessFailed m => "identity access error: " ++ m

/-- The verified identities by user, and users whose identity cannot be read. -/
structure Vault where
  identities : Std.TreeMap String String compare := ∅
  errors : Std.TreeMap String IdentityError compare := ∅

/-- Reads a user's identity; a user with neither an identity nor an error has none stored. -/
def Vault.disclose (v : Vault) (user : String) : Except IdentityError String :=
  match v.identities.get? user with
  | some id => .ok id
  | none =>
    match v.errors.get? user with
    | some e => .error e
    | none => .error (.notAvailable ("no identity stored for " ++ user))

/-- Why a platform call failed. -/
inductive PlatformError where
  | rejected (message : String)
  | unavailable (message : String)
  deriving DecidableEq, Repr

/-- The text of a platform failure. -/
def PlatformError.message : PlatformError → String
  | .rejected m => "platform rejected request: " ++ m
  | .unavailable m => "platform unavailable: " ++ m

/-- A platform call. -/
inductive PlatformAction where
  | listMembership
  | memberRoles
  | grant
  | revoke
  deriving DecidableEq, Repr

/-- The label of a platform call. -/
def PlatformAction.label : PlatformAction → String
  | .listMembership => "list_membership"
  | .memberRoles => "member_roles"
  | .grant => "grant"
  | .revoke => "revoke"

/-- A recorded platform call; a field that the call does not use is empty. -/
structure PlatformCall where
  community : String
  action : PlatformAction
  user : String
  role : String
  deriving DecidableEq, Repr

/-- The chat platform: the members of each community, the role ids each member holds, the error
each call gives when it fails, and the calls during which the client panics, with the text of
the branch that the panic aborts. A successful grant adds the id to the member's roles and a
successful revoke removes it; granting a held id or revoking a missing one changes nothing. -/
structure Platform where
  members : String → List String := fun _ => []
  held : String → String → NameSet := fun _ _ => ∅
  listRefusal : String → Option PlatformError := fun _ => none
  memberRolesRefusal : String → String → Option PlatformError := fun _ _ => none
  grantRefusal : String → String → String → Option PlatformError := fun _ _ _ => none
  revokeRefusal : String → String → String → Option PlatformError := fun _ _ _ => none
  panics : PlatformCall → Option String := fun _ => none

/-- A recorded identity disclosure. -/
structure IdentityCall where
  user : String
  automated : Bool
  justification : String
  deriving DecidableEq, Repr

/-- A notice sent to a user. -/
structure SentNotice where
  user : String
  notice : Notice
  deriving DecidableEq, Repr

/-- Why a notice was not delivered. -/
inductive NotifyError where
  | deliveryFailed (message : String)
  deriving DecidableEq, Repr

/-- Every call made to the collaborators, in call order: the users the permission checker was
asked about, the notices sent, the identity disclosures and the platform calls. -/
structure Journal where
  permissionChecks : List String := []
  notices : List SentNotice := []
  identityCalls : List IdentityCall := []
  platformCalls : List PlatformCall := []

namespace Platform

/-- The members of a community. -/
def listMembership (p : Platform) (community : String) : Except PlatformError (List String) :=
  match p.listRefusal community with
  | some e => .error e
  | none => .ok (p.members community)

/-- The role ids a member holds in a community. -/
def memberRoles (p : Platform) (community user : String) : Except PlatformError NameSet :=
  match p.memberRolesRefusal community user with
  | some e => .error e
  | none => .ok (p.held community user)

/-- Changes the role ids a member holds in a community. -/
def updateHeld (p : Platform) (community user : String) (f : NameSet → NameSet) : Platform :=
  { p with held := fun c u => if c = community ∧ u = user then f (p.held c u) else p.held c u }

/-- Grants a role id to a member. -/
def grant (p : Platform) (community user roleId : String) : Except PlatformError Unit × Platform :=
  match p.grantRefusal community user roleId with
  | some e => (.error e, p)
  | none => (.ok (), p.updateHeld community user fun s => s.insert roleId)

/-- Revokes a role id from a member. -/
def revoke (p : Platform) (community user roleId : String) : Except PlatformError Unit × Platform :=
  match p.revokeRefusal community user roleId with
  | some e => (.error e, p)
  | none => (.ok (), p.updateHeld community user fun s => s.erase roleId)

/-- What a recorded call did to the platform: a grant or revoke took effect unless refused, and
the reads changed nothing. -/
def apply (p : Platform) (c : PlatformCall) : Platform :=
  match c.action with
  | .grant => (p.grant c.community c.user c.role).2
  | .revoke => (p.revoke c.community c.user c.role).2
  | .listMembership | .memberRoles => p

/-- The first of some calls that panics: the calls before it, the call, and the panic's text. -/
def firstPanic (p : Platform) : List PlatformCall → Option (List PlatformCall × PlatformCall × String)
  | [] => none
  | c :: cs =>
    match p.panics c with
    | some text => some ([], c, text)
    | none => (p.firstPanic cs).map fun (before, c', text) => (c :: before, c', text)

end Platform

end RoleSync
