import RoleSync.Settings.Basic
import RoleSync.Rulebook
/-!
Checking settings against a rulebook. The report lists, in this order: an error for each
declared role whose rule the rulebook lacks, in declaration order; a warning for each role a
community maps that is neither declared nor standard, by community and then role name; and a
warning for each declared role that no community maps, in declaration order.
-/

namespace RoleSync.Settings

set_option autoImplicit false

/-- How serious a finding is. -/
inductive Severity where
  | warning
  | error
  deriving DecidableEq, Repr

/-- The name of a severity. -/
def Severity.label : Severity → String
  | .warning => "warning"
  | .error => "error"

/-- One finding of a report. -/
structure Finding where
  severity : Severity
  message : String
  deriving DecidableEq, Repr

/-- A finding as one line: severity, colon, message. -/
def Finding.display (f : Finding) : String := f.severity.label ++ ": " ++ f.message

/-- The findings of a check, in order. -/
structure Report where
  findings : List Finding
  deriving DecidableEq, Repr

namespace Report

/-- The number of findings of a severity. -/
def count (r : Report) (s : Severity) : Nat := (r.findings.filter (·.severity = s)).length

/-- Whether some finding is an error. -/
def hasErrors (r : Report) : Bool := r.findings.any (·.severity = .error)

/-- Whether there is no finding at all. -/
def isClean (r : Report) : Bool := r.findings.isEmpty

end Report

/-- The roles that communities map to and that are declared. -/
def mappedRoles (s : Settings) : List String :=
  s.communities.flatMap fun g =>
    g.roles.keys.filter fun r => !isStandardName r && s.roles.any (·.name = r)

/-- Checks settings against a rulebook. -/
def checkAgainst (s : Settings) (b : Rulebook) : Report :=
  let unknownRules := s.roles.filterMap fun d =>
    if (b.lookup? d.rule).isSome then none
    else some ⟨.error, "role " ++ d.name ++ " depends on unknown rule " ++ d.rule⟩
  let undeclared := s.communities.flatMap fun g =>
    (g.roles.keys.filter fun r => !isStandardName r && !s.roles.any (·.name = r)).map fun r =>
      ⟨.warning, "guild " ++ g.id ++ " maps undeclared role " ++ r⟩
  let used := mappedRoles s
  let unmapped := s.roles.filterMap fun d =>
    if used.contains d.name then none
    else some ⟨.warning, "role " ++ d.name ++ " is not mapped by any guild"⟩
  ⟨unknownRules ++ undeclared ++ unmapped⟩

end RoleSync.Settings
