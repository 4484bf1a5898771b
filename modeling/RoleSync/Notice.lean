import RoleSync.Text.Json
/-!
Notices: what a member is told when something went wrong for them. Each notice has one fixed
message text. The log sender writes one JSON record per notice, one line each.
-/

namespace RoleSync

set_option autoImplicit false

/-- A message to a member about their roles. -/
inductive Notice where
  /-- The member may not join the monitored communities. -/
  | joinDenied (reason : String)
  /-- Some rules failed, by name. -/
  | ruleFailures (rules : List String)
  /-- A community could not be fully reconciled; the ids of the failed calls. -/
  | reconciliationFailed (community : String) (failedRoleIds : List String)
  deriving DecidableEq, Repr

namespace Notice

/-- The text shown to the member. -/
def message : Notice → String
  | .joinDenied reason => "You cannot join monitored servers: " ++ reason
  | .ruleFailures rules => "Some roles could not be computed (failed rules: " ++ ", ".intercalate rules ++ ")"
  | .reconciliationFailed community [] => "Your roles could not be updated on " ++ community
  | .reconciliationFailed community ids =>
    "Some roles could not be updated on " ++ community ++ " (roles: " ++ ", ".intercalate ids ++ ")"

/-- The tag of a notice in its records. -/
def kindLabel : Notice → String
  | .joinDenied _ => "join_denied"
  | .ruleFailures _ => "rule_failures"
  | .reconciliationFailed _ _ => "reconciliation_failed"

/-- The JSON object of a notice, keys in byte order. -/
def toJsonText : Notice → String
  | .joinDenied reason =>
    "\x7b\"kind\":\"join_denied\",\"reason\":" ++ Text.Json.quote reason ++ "\x7d"
  | .ruleFailures rules =>
    "\x7b\"kind\":\"rule_failures\",\"rules\":" ++ Text.Json.writeStrings rules ++ "\x7d"
  | .reconciliationFailed community ids =>
    "\x7b\"community\":" ++ Text.Json.quote community ++ ",\"failed_role_ids\":" ++
      Text.Json.writeStrings ids ++ ",\"kind\":\"reconciliation_failed\"\x7d"

/-- The log record of a notice to a member at a time in milliseconds since the epoch, as one
line of JSON with its keys in byte order. -/
def logLine (userId : String) (timestampMs : Nat) (n : Notice) : String :=
  "\x7b\"event\":\"rolelink_notice\",\"message\":" ++ Text.Json.quote n.message ++
    ",\"notice\":" ++ n.toJsonText ++ ",\"timestamp_ms\":" ++ toString timestampMs ++
    ",\"user_id\":" ++ Text.Json.quote userId ++ "\x7d\n"

/-- The log written for notices sent in order. -/
def logText (userId : String) (timestampMs : Nat) (ns : List Notice) : String :=
  String.join (ns.map (logLine userId timestampMs))

end Notice

end RoleSync
