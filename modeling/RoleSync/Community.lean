import RoleSync.Role
import Std.Data.TreeMap
/-!
Communities and role declarations. A declaration names an abstract role and the rule that
decides it. A community maps abstract role names to its own platform role ids and lists the ids
that are sticky, never revoked once granted.
-/

namespace RoleSync

set_option autoImplicit false

/-- An abstract role, decided by the named rule. -/
structure Declaration where
  name : String
  displayName : Option String
  rule : String
  deriving DecidableEq, Repr

/-- The declaration table: one declaration per role name. -/
structure Declarations where
  table : Std.TreeMap String Declaration compare

namespace Declarations

/-- Builds the table from a list; of two declarations with one name the later one stays. -/
def ofList (ds : List Declaration) : Declarations :=
  ⟨ds.foldl (fun t d => t.insert d.name d) ∅⟩

/-- The rule that decides a role, if the role is declared. -/
def ruleFor? (d : Declarations) (role : String) : Option String :=
  (d.table.get? role).map (·.rule)

/-- The declarations in name order. -/
def toList (d : Declarations) : List Declaration := d.table.values

/-- The number of declared roles. -/
def size (d : Declarations) : Nat := d.table.size

end Declarations

/-- A monitored community: its id, an optional name, the role mapping and the sticky ids. -/
structure Community where
  id : String
  name : Option String
  roleMap : Std.TreeMap String String compare
  sticky : NameSet

namespace Community

/-- "name (id)" when the community is named, else its id. -/
def label (g : Community) : String :=
  match g.name with
  | some n => n ++ " (" ++ g.id ++ ")"
  | none => g.id

/-- The mapped role names that a rule decides: all but the standard ones, in order. -/
def ruleDrivenRoles (g : Community) : List String :=
  g.roleMap.keys.filter fun r => !isStandardName r

/-- The rules that decide the community's rule-driven roles. -/
def requiredRules (g : Community) (d : Declarations) : NameSet :=
  NameSet.ofList (g.ruleDrivenRoles.filterMap d.ruleFor?)

/-- The platform ids of the given roles, for those that the community maps. -/
def mapRoles (g : Community) (roles : NameSet) : NameSet :=
  NameSet.ofList (roles.toList.filterMap g.roleMap.get?)

/-- Every platform id that the community maps a role to. -/
def managedIds (g : Community) : NameSet := NameSet.ofList g.roleMap.values

/-- Whether a platform id is sticky. -/
def isSticky (g : Community) (roleId : String) : Bool := g.sticky.contains roleId

/-- The table of the given communities by id; of two with one id the later one stays. -/
def table (gs : List Community) : Std.TreeMap String Community compare :=
  gs.foldl (fun t g => t.insert g.id g) ∅

theorem keyed_table (gs : List Community) : KeyedBy Community.id (table gs) :=
  KeyedBy.foldl_insert gs (KeyedBy.empty Community.id)

end Community

end RoleSync
