import RoleSync.Manager.Basic
import RoleSync.Relevance
/-!
One resolution for one user. The permission check comes first and alone can stop it. Then the
rules relevant to the present monitored communities are found; the identity is disclosed once,
only when a strong rule is relevant and the user opted in; the rules run concurrently, reading
and filling the cache; their roles are united with "_known", and with "_identified" when the
identity was disclosed; and each community is reconciled. Notices go out only when both the
manager and the request allow them: a refusal, the failed rules, and each community that was not
fully reconciled.
-/

namespace RoleSync

set_option autoImplicit false

/-- The opening words of the audit text of an identity disclosure. -/
def justificationLead : String := "Automated role update requested by: "

namespace Manager

/-- The notifier's answer to a notice: a delivery failure while it is down. -/
def notifierAnswer (m : Manager) : Except NotifyError Unit :=
  if m.notifierDown then .error (.deliveryFailed "notifier down") else .ok ()

/-- Sends a notice: the notifier records it and answers, and a failed delivery is only logged. -/
def sendNotice (m : Manager) (user : String) (n : Notice) : Manager :=
  let sent : Manager :=
    { m with journal := { m.journal with notices := m.journal.notices ++ [⟨user, n⟩] } }
  match sent.notifierAnswer with
  | .ok () => sent
  | .error _ => sent

theorem sendNotice_eq (m : Manager) (user : String) (n : Notice) :
    m.sendNotice user n =
      { m with journal := { m.journal with notices := m.journal.notices ++ [⟨user, n⟩] } } := by
  unfold sendNotice
  dsimp only
  split <;> rfl

/-- The reason a user may not join, if any. -/
def refusal (m : Manager) (user : String) : Option String :=
  match m.gate.verdict user with
  | .allow => none
  | .deny reason => some reason
  | .broken msg => some ("permission check unavailable: " ++ permissionErrorText msg)

/-- Records a call of the permission checker about a user. -/
def recordPermissionCheck (m : Manager) (user : String) : Manager :=
  { m with journal := { m.journal with permissionChecks := m.journal.permissionChecks ++ [user] } }

/-- The label of a community id: the community's label when it is monitored. -/
def labelOf (m : Manager) (id : String) : String :=
  match m.communities.get? id with
  | some g => g.label
  | none => id

/-- The audit text naming the communities that need the identity, in id order. -/
def justification (m : Manager) (ids : NameSet) : String :=
  justificationLead ++ ", ".intercalate (ids.toList.map m.labelOf)

/-- Decides whether to disclose the identity, and discloses it when needed. -/
def disclose (m : Manager) (user : String) (optedIn : Bool) (v : Relevance) :
    (Option String × Disclosure) × Manager :=
  if !v.requiresIdentity then ((none, .notRequired), m)
  else if !optedIn then ((none, .notOptedIn), m)
  else
    let call : IdentityCall := ⟨user, true, m.justification v.strongCommunities⟩
    let m := { m with journal := { m.journal with identityCalls := m.journal.identityCalls ++ [call] } }
    match m.vault.disclose user with
    | .ok id => ((some id, .disclosed), m)
    | .error e => ((none, .failed e.message), m)

/-- The rules relevant to a set of communities: those of its monitored communities. -/
def relevance (m : Manager) (communities : NameSet) : Relevance :=
  Relevance.compute m.rulebook m.declarations (communities.toList.filterMap m.communities.get?)

/-- The first half of a resolution: the identity is handled, then the relevant rules run to
the end from the manager's cache and clock. Gives the identity outcome, the finished fan-out and
the manager after the disclosure. -/
def fanOut (m : Manager) (user : String) (optedIn : Bool) (ctx : Context)
    (communities : NameSet) :
    Disclosure × Schedule FanOutShared RuleResult BranchOutcome × Manager :=
  let v := m.relevance communities
  let ((identity, disclosure), m) := m.disclose user optedIn v
  let rules := v.toList.map (·.rule)
  let fan : FanOut := ⟨user, ctx, identity, m.config.ruleTimeout, m.config.maxParallelism⟩
  (disclosure, fan.run rules m.clock ⟨m.cache, false, m.counters⟩, m)

/-- Computes a user's roles for a set of communities; no community is changed. -/
def resolveRoles (m : Manager) (user : String) (optedIn : Bool) (ctx : Context)
    (communities : NameSet) : ResolvedRoles × Manager :=
  let (disclosure, done, m) := m.fanOut user optedIn ctx communities
  let roles : NameSet := done.outcomes.foldl
    (fun (acc : NameSet) o => o.roles.foldl (fun (a : NameSet) r => a.insert r) acc) ∅
  let roles := roles.insert StandardRole.known.name
  let roles := if disclosure.isDisclosed then roles.insert StandardRole.identified.name else roles
  let failures := (done.outcomes.filterMap fun o => o.failure.map fun e => (⟨o.rule, e⟩ : RuleFailure))
    |>.mergeSort fun a b => decide (a.rule ≤ b.rule)
  (⟨roles, disclosure, failures, done.shared.degraded⟩,
    { m with cache := done.shared.cache, counters := done.shared.counters, clock := done.now })

/-- Reconciles every given community that is monitored, as concurrent branches under the
manager's parallelism limit; the outcomes are given in id order. -/
def reconcileAll (m : Manager) (user : String) (roles : NameSet) (communities : NameSet) :
    List CommunityOutcome × Manager :=
  let gs := communities.toList.filterMap m.communities.get?
  let done := Schedule.run (communityKind user roles m.config.removeUnwarranted) gs
    m.config.maxParallelism m.clock ⟨m.platform, []⟩
  (done.outcomes.mergeSort fun a b => decide (a.communityId ≤ b.communityId),
    { m with
      platform := done.shared.platform
      journal := { m.journal with platformCalls := m.journal.platformCalls ++ done.shared.calls } })

/-- The notice about a community that was not fully reconciled. -/
def reconciliationNotice (m : Manager) (o : CommunityOutcome) : Notice :=
  .reconciliationFailed (m.labelOf o.communityId) (o.failures.filterMap (·.roleId))

/-- The rest of a sync once the permission check let the user through: resolves the roles for
the present monitored communities, then reconciles each, with the notices that are allowed. -/
def syncPermitted (m : Manager) (req : SyncRequest) : Report × Manager :=
  let notify := m.config.notifyOnFailure && req.notify
  let present := NameSet.ofList ((req.memberships.filter fun p => p.2 && m.communities.contains p.1).map (·.1))
  let ctx : Context := ⟨req.user, req.displayName, req.discriminator⟩
  let (resolved, m) := m.resolveRoles req.user req.optedIn ctx present
  let m := if notify && !resolved.ruleFailures.isEmpty then
      m.sendNotice req.user (.ruleFailures (resolved.ruleFailures.map (·.rule)))
    else m
  let (outcomes, m) := m.reconcileAll req.user resolved.roles present
  let m := if notify then
      (outcomes.filter fun o => o.status != .succeeded).foldl
        (fun acc o => acc.sendNotice req.user (acc.reconciliationNotice o)) m
    else m
  (.synced req.user resolved outcomes, m)

/-- Resolves a user's roles and applies them to every present monitored community, once the
permission checker, asked first, lets the user through. -/
def resolveAndSync (m : Manager) (req : SyncRequest) : Report × Manager :=
  let notify := m.config.notifyOnFailure && req.notify
  let refused := m.refusal req.user
  let m := m.recordPermissionCheck req.user
  match refused with
  | some reason =>
    let m := if notify then m.sendNotice req.user (.joinDenied reason) else m
    (.denied req.user reason, m)
  | none => m.syncPermitted req

/-- Drops every cached rule result of a user. -/
def invalidateUser (m : Manager) (user : String) : Except CacheError Nat × Manager :=
  let (r, c) := m.cache.invalidateUser user
  (r, { m with cache := c })

/-- Drops a user's cached results, then resolves and syncs; no resolution runs when the cache
fails. -/
def refreshUser (m : Manager) (req : SyncRequest) : Except CacheError Report × Manager :=
  match m.invalidateUser req.user with
  | (.error e, m') => (.error e, m')
  | (.ok _, m') =>
    let (r, m'') := m'.resolveAndSync req
    (.ok r, m'')

/-- Asks every monitored community, in id order, whether the user is a member; communities whose
members cannot be listed are left out. -/
def collectMemberships (m : Manager) (user : String) : List (String × Bool) × Manager :=
  let (found, s) := m.communities.keys.foldl (fun (acc : List (String × Bool) × PlatformSession) id =>
    match acc.2.listMembership id with
    | (.ok members, s') => (acc.1 ++ [(id, members.contains user)], s')
    | (.error _, s') => (acc.1, s')) ([], ⟨m.platform, []⟩)
  (found, { m with
             platform := s.platform
             journal := { m.journal with platformCalls := m.journal.platformCalls ++ s.calls } })

end Manager

end RoleSync
