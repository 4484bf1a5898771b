/-!
Why a rule contributed no roles: its predicate reported an error, returned a malformed role set,
panicked, or ran past its deadline. Each cause has one fixed text.
-/

namespace RoleSync

set_option autoImplicit false

/-- The cause of a failed rule evaluation. -/
inductive RuleError where
  /-- The predicate reported a failure. -/
  | failed (detail : String)
  /-- The predicate returned role names that may not be granted. -/
  | malformed (detail : String)
  /-- The predicate panicked; the detail is the panic message. -/
  | panicked (detail : String)
  /-- The predicate needed more time than the deadline, in milliseconds. -/
  | timedOut (limitMs : Nat)
  deriving DecidableEq, Repr

/-- The largest count of milliseconds that a timeout reports. -/
def maxTimeoutMs : Nat := 18446744073709551615

/-- The failure of a predicate that ran past a deadline of this many milliseconds; a deadline
longer than `maxTimeoutMs` is reported as `maxTimeoutMs`. -/
def RuleError.timeout (limit : Nat) : RuleError := .timedOut (min limit maxTimeoutMs)

/-- The text of a rule failure. -/
def RuleError.message : RuleError → String
  | .failed d => "rule predicate failed: " ++ d
  | .malformed d => "rule predicate returned malformed roles: " ++ d
  | .panicked d => "rule predicate panicked: " ++ d
  | .timedOut n => "rule predicate timed out after " ++ toString n ++ " ms"

end RoleSync
