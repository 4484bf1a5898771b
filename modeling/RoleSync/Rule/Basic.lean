import RoleSync.Rule.Script
/-!
Rules. A rule has a name, a kind and an optional cache lifetime. A weak rule's predicate sees
only the platform context; a strong rule's predicate also sees the verified identity, and is not
run at all when no identity was disclosed. A rule is cacheable when its lifetime is set and not
zero.
-/

namespace RoleSync

set_option autoImplicit false

/-- Whether a rule needs the verified identity. -/
inductive RuleKind where
  | weak
  | strong
  deriving DecidableEq, Repr

/-- The label of a kind. -/
def RuleKind.label : RuleKind → String
  | .weak => "weak"
  | .strong => "strong"

/-- A named predicate with its kind and cache lifetime in milliseconds. -/
structure Rule where
  name : String
  kind : RuleKind
  cacheTtl : Option Nat
  predicate : Script

namespace Rule

/-- A rule is strong when its predicate needs the identity. -/
def isStrong (r : Rule) : Bool := r.kind == .strong

/-- A rule is cacheable when it has a lifetime other than zero. -/
def isCacheable (r : Rule) : Bool :=
  match r.cacheTtl with
  | some (_ + 1) => true
  | _ => false

/-- The cache lifetime in milliseconds, zero when none is set. -/
def ttl (r : Rule) : Nat := r.cacheTtl.getD 0

theorem isCacheable_iff (r : Rule) : r.isCacheable = true ↔ ∃ d, r.cacheTtl = some d ∧ d ≠ 0 := by
  unfold isCacheable
  rcases r.cacheTtl with _ | _ | d <;> simp

end Rule

end RoleSync
