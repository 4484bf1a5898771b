import RoleSync.Manager.World
import RoleSync.Manager.Schedule
import RoleSync.Community
import RoleSync.Outcome
/-!
Reconciling one community: granting the platform role ids that a member's resolved roles map
to, and, when removal is on, revoking the managed ids the member holds but is no longer owed.
Sticky ids and ids the community does not manage are never revoked.

With removal on, the member's held ids are read first; what is already held is not granted
again, and a failed read is recorded and disables revoking. Grants go in ascending order, then
revokes in ascending order. The calls are recorded in the journal; a call that panics cuts the
branch short.
-/

namespace RoleSync

set_option autoImplicit false

/-- The state that reconciliation changes: the platform and the journal of its calls. -/
structure PlatformSession where
  platform : Platform
  calls : List PlatformCall := []

namespace PlatformSession

/-- Reads a member's held ids, recording the call. -/
def memberRoles (s : PlatformSession) (community user : String) :
    Except PlatformError NameSet × PlatformSession :=
  (s.platform.memberRoles community user,
    { s with calls := s.calls ++ [⟨community, .memberRoles, user, ""⟩] })

/-- Grants an id, recording the call. -/
def grant (s : PlatformSession) (community user roleId : String) :
    Except PlatformError Unit × PlatformSession :=
  let (r, p) := s.platform.grant community user roleId
  (r, { platform := p, calls := s.calls ++ [⟨community, .grant, user, roleId⟩] })

/-- Revokes an id, recording the call. -/
def revoke (s : PlatformSession) (community user roleId : String) :
    Except PlatformError Unit × PlatformSession :=
  let (r, p) := s.platform.revoke community user roleId
  (r, { platform := p, calls := s.calls ++ [⟨community, .revoke, user, roleId⟩] })

/-- Lists the members of a community, recording the call. -/
def listMembership (s : PlatformSession) (community : String) :
    Except PlatformError (List String) × PlatformSession :=
  (s.platform.listMembership community,
    { s with calls := s.calls ++ [⟨community, .listMembership, "", ""⟩] })

end PlatformSession

/-- The ids granted and revoked so far and the failed calls, in call order. -/
structure Tally where
  granted : NameSet := ∅
  revoked : NameSet := ∅
  failures : List OperationFailure := []

/-- Grants each id in order, skipping those already held. -/
def grantAll (community user : String) (held : Option NameSet) :
    List String → Tally × PlatformSession → Tally × PlatformSession
  | [], acc => acc
  | id :: ids, (t, s) =>
    if (held.map fun h => h.contains id) = some true then grantAll community user held ids (t, s)
    else
      match s.grant community user id with
      | (.ok (), s') => grantAll community user held ids ({ t with granted := t.granted.insert id }, s')
      | (.error e, s') =>
        grantAll community user held ids
          ({ t with failures := t.failures ++ [⟨.grant, some id, e.message⟩] }, s')

/-- Revokes each id in order. -/
def revokeAll (community user : String) :
    List String → Tally × PlatformSession → Tally × PlatformSession
  | [], acc => acc
  | id :: ids, (t, s) =>
    match s.revoke community user id with
    | (.ok (), s') => revokeAll community user ids ({ t with revoked := t.revoked.insert id }, s')
    | (.error e, s') =>
      revokeAll community user ids
        ({ t with failures := t.failures ++ [⟨.revoke, some id, e.message⟩] }, s')

/-- The held ids that are to be revoked: managed, not desired and not sticky, in order. -/
def unwarranted (g : Community) (desired held : NameSet) : List String :=
  held.toList.filter fun id =>
    g.managedIds.contains id && !desired.contains id && !g.isSticky id

/-- Reconciles one community for a member with resolved roles. -/
def reconcileCommunity (g : Community) (user : String) (roles : NameSet) (removeUnwarranted : Bool)
    (s : PlatformSession) : CommunityOutcome × PlatformSession :=
  let desired := g.mapRoles roles
  let (held, t, s) :=
    if removeUnwarranted then
      match s.memberRoles g.id user with
      | (.ok h, s') => (some h, ({} : Tally), s')
      | (.error e, s') => (none, ({ failures := [⟨.listRoles, none, e.message⟩] } : Tally), s')
    else (none, ({} : Tally), s)
  let (t, s) := grantAll g.id user held desired.toList (t, s)
  let (t, s) := match held with
    | some h => revokeAll g.id user (unwarranted g desired h) (t, s)
    | none => (t, s)
  (CommunityOutcome.ofOperations g.id t.granted t.revoked t.failures, s)

/-- Reconciles one community as a branch of a sync. A platform call that panics aborts the branch:
the calls before it took effect, the call itself was made, and nothing after it is; the outcome
is then the aborted one, carrying the panic's text. -/
def reconcileBranch (g : Community) (user : String) (roles : NameSet) (removeUnwarranted : Bool)
    (s : PlatformSession) : CommunityOutcome × PlatformSession :=
  let (o, s') := reconcileCommunity g user roles removeUnwarranted s
  match s.platform.firstPanic (s'.calls.drop s.calls.length) with
  | none => (o, s')
  | some (before, c, text) =>
    (CommunityOutcome.aborted g.id text,
      { platform := before.foldl Platform.apply s.platform, calls := s.calls ++ before ++ [c] })

/-- The community branches of a sync: each reconciles its community as soon as it holds a
permit, on the platform they share, and none pauses. -/
def communityKind (user : String) (roles : NameSet) (removeUnwarranted : Bool) :
    BranchKind Community PlatformSession Empty CommunityOutcome where
  start g _ s :=
    let r := reconcileBranch g user roles removeUnwarranted s
    (.done r.1, r.2)
  finish _ _ r _ := r.elim
  deadline := none
  pauseBound _ := 0
  pauseCount_le _ _ _ := Nat.le_refl 0

end RoleSync
