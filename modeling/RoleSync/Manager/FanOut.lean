import RoleSync.Manager.Schedule
import RoleSync.Rule.Execute
import RoleSync.Cache.RuleCache
/-!
The rule branches of one resolution. A branch with a permit reads the cache (unless the
resolution is already degraded), runs the predicate on a miss, and writes a success back (unless
degraded, or the rule is strong and no identity was disclosed). A cache failure marks the
resolution degraded. The deadline counts from the start of the branch, after its permit and its
cache read, and a timeout is reported in whole milliseconds, saturating at `maxTimeoutMs`.
-/

namespace RoleSync

set_option autoImplicit false

/-- What one branch contributed: the rule, its roles, and the failure if it failed. -/
structure BranchOutcome where
  rule : String
  roles : NameSet
  failure : Option RuleError

/-- The state that the branches of one resolution share. -/
structure FanOutShared where
  cache : RuleCache
  degraded : Bool := false
  /-- How many times each rule's predicate has run, by rule name. -/
  counters : Std.TreeMap String Nat compare

/-- The fixed inputs of the branches of one resolution. -/
structure FanOut where
  user : String
  ctx : Context
  identity : Option String
  /-- The deadline of each predicate run, in milliseconds, if any. -/
  limit : Option Nat
  permits : Nat

namespace FanOut

variable (f : FanOut)

/-- A branch's cache read, made when the cache is on for its rule and the resolution is not
degraded: the roles found, and the shared state after; a failure marks the resolution
degraded. -/
def readCache (rule : Rule) (now : Nat) (shared : FanOutShared) : Option NameSet × FanOutShared :=
  if shared.cache.isEnabled && rule.isCacheable && !shared.degraded then
    match shared.cache.tryGet now rule f.user with
    | (.ok (.hit roles), c) => (some roles, { shared with cache := c })
    | (.ok .notFound, c) => (none, { shared with cache := c })
    | (.error _, c) => (none, { shared with cache := c, degraded := true })
  else (none, shared)

/-- Writes a branch's roles back, when the cache is on for its rule, the result is durable (a
strong rule evaluated without identity says nothing durable) and the resolution is not
degraded; a failure marks the resolution degraded. -/
def writeBack (rule : Rule) (now : Nat) (roles : NameSet) (shared : FanOutShared) : FanOutShared :=
  if shared.cache.isEnabled && rule.isCacheable && !(rule.isStrong && f.identity.isNone) &&
      !shared.degraded then
    match shared.cache.put now rule f.user roles with
    | (.ok (), c) => { shared with cache := c }
    | (.error _, c) => { shared with cache := c, degraded := true }
  else shared

/-- Starts a rule's branch: a cache hit ends it at once; on a miss the predicate runs, counted,
and the branch pauses as the predicate does (a pause of no time is none). -/
def startBranch (rule : Rule) (now : Nat) (shared : FanOutShared) :
    Launch RuleResult BranchOutcome × FanOutShared :=
  let (hit, shared) := f.readCache rule now shared
  match hit with
  | some roles => (.done ⟨rule.name, roles, none⟩, shared)
  | none =>
    let n := shared.counters.getD rule.name 0
    let ev := rule.evaluate f.ctx f.identity n
    let counters := if ev.invoked then shared.counters.insert rule.name (n + 1)
      else shared.counters
    (.pausing (ev.pauses.filter (· ≠ 0)) ev.result, { shared with counters := counters })

/-- Finishes a rule's branch with the predicate's result, writing a success back. -/
def finishBranch (rule : Rule) (now : Nat) (r : RuleResult) (shared : FanOutShared) :
    BranchOutcome × FanOutShared :=
  match r with
  | .failure e => (⟨rule.name, ∅, some e⟩, shared)
  | .success roles => (⟨rule.name, roles, none⟩, f.writeBack rule now roles shared)

theorem pauseCount_startBranch_le (rule : Rule) (now : Nat) (shared : FanOutShared) :
    (f.startBranch rule now shared).1.pauseCount ≤ rule.predicate.pauseBound := by
  unfold startBranch
  rcases f.readCache rule now shared with ⟨_ | roles, sh⟩
  · exact Nat.le_trans (List.length_filter_le _ _)
      (rule.pauses_evaluate_le f.ctx f.identity (sh.counters.getD rule.name 0))
  · exact Nat.zero_le _

/-- The rule branches of a fan-out; a timed-out rule contributes no roles. -/
def kind : BranchKind Rule FanOutShared RuleResult BranchOutcome where
  start := f.startBranch
  finish := f.finishBranch
  deadline := f.limit.map fun d => (d, fun rule => ⟨rule.name, ∅, some (.timeout d)⟩)
  pauseBound rule := rule.predicate.pauseBound
  pauseCount_le := f.pauseCount_startBranch_le

@[simp] theorem kind_start : f.kind.start = f.startBranch := rfl

@[simp] theorem kind_finish : f.kind.finish = f.finishBranch := rfl

theorem kind_deadline_eq_some {d : Nat} {late : Rule → BranchOutcome} :
    f.kind.deadline = some (d, late) ↔
      f.limit = some d ∧ late = fun rule => ⟨rule.name, ∅, some (.timeout d)⟩ := by
  change f.limit.map (fun d => (d, fun rule : Rule => (⟨rule.name, ∅, some (.timeout d)⟩ :
    BranchOutcome))) = some (d, late) ↔ _
  simp only [Option.map_eq_some_iff, Prod.mk.injEq]
  constructor
  · rintro ⟨d', hd', rfl, rfl⟩
    exact ⟨hd', rfl⟩
  · rintro ⟨hd, rfl⟩
    exact ⟨d, hd, rfl, rfl⟩

theorem kind_deadline_eq_none : f.kind.deadline = none ↔ f.limit = none := by
  change f.limit.map _ = none ↔ _
  exact Option.map_eq_none_iff

/-- The fan-out of the branches of the given rules, from a clock reading, to the end. -/
def run (rules : List Rule) (now : Nat) (shared : FanOutShared) :
    Schedule FanOutShared RuleResult BranchOutcome :=
  Schedule.run f.kind rules f.permits now shared

end FanOut

end RoleSync
