import RoleSync.Role
/-!
The outcome of reconciling one community: the ids granted and revoked, the calls that failed in
call order, and a status. The status is "succeeded" without failures, "failed" when something
failed and nothing was applied, and "partial" otherwise.
-/

namespace RoleSync

set_option autoImplicit false

/-- A platform operation on a member's roles. -/
inductive RoleAction where
  | grant
  | revoke
  | listRoles
  deriving DecidableEq, Repr

/-- The label of an action. -/
def RoleAction.label : RoleAction → String
  | .grant => "grant"
  | .revoke => "revoke"
  | .listRoles => "list_roles"

/-- A failed platform call: the action, the role id it was about, and the error text. -/
structure OperationFailure where
  action : RoleAction
  roleId : Option String
  error : String
  deriving DecidableEq, Repr

/-- How far a community was reconciled. -/
inductive SyncStatus where
  | succeeded
  | partiallySucceeded
  | failed
  deriving DecidableEq, Repr

/-- The label of a status. -/
def SyncStatus.label : SyncStatus → String
  | .succeeded => "succeeded"
  | .partiallySucceeded => "partial"
  | .failed => "failed"

/-- The status of a set of operations. -/
def SyncStatus.classify (applied : Nat) (failures : List OperationFailure) : SyncStatus :=
  if failures.isEmpty then .succeeded
  else if applied = 0 then .failed
  else .partiallySucceeded

/-- What reconciling one community did. -/
structure CommunityOutcome where
  communityId : String
  status : SyncStatus
  granted : NameSet
  revoked : NameSet
  failures : List OperationFailure

namespace CommunityOutcome

/-- The outcome of the given operations, with its status. -/
def ofOperations (communityId : String) (granted revoked : NameSet)
    (failures : List OperationFailure) : CommunityOutcome :=
  ⟨communityId, SyncStatus.classify (granted.size + revoked.size) failures, granted, revoked,
    failures⟩

/-- The outcome of a reconciliation that stopped before doing anything. -/
def aborted (communityId message : String) : CommunityOutcome :=
  ofOperations communityId ∅ ∅ [⟨.grant, none, message⟩]

end CommunityOutcome

end RoleSync
