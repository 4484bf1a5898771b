import RoleSync.Proofs.BranchAccounts
import RoleSync.Proofs.StrongRules
import RoleSync.Proofs.SyncProtocol
import Mathlib.Data.List.Nodup
/-!
The roles one resolution computes. Its fan-out is told by a list of acts (`FanOut.run_accounts`);
the rulebook holds its rules under their own names, so every relevant rule closes exactly once
(`FanOut.outcome_names_perm`), so the outcomes are the rules' contributions, one each. The
resolution then unites them with "_known", and with "_identified" when the identity was
disclosed; lists the failed rules, each once, in name order; is degraded exactly when a cache call
failed; and grows each counter by the runs of its rule.

Main statement: `resolutions_compute_roles`.
-/

namespace RoleSync

set_option autoImplicit false

namespace FanOut

variable {f : FanOut} {c₀ : RuleCache} {n₀ : Std.TreeMap String Nat compare} {rules : List Rule}

/-! ## One outcome per rule -/

/-- The outcomes of the log under one name are the closing acts of that name's branch. -/
theorem filter_closes (name : String) (log : List BranchAct) :
    (log.filterMap BranchAct.closed?).filter (·.rule == name) =
      (actsOf name log).filterMap BranchAct.closed? := by
  rw [List.filter_filterMap, actsOf, List.filterMap_filter]
  congr 1
  funext a
  cases a <;> simp [BranchAct.closed?, BranchAct.name, Option.filter]

/-- An opening holds reads only, so it closes nothing. -/
theorem Opening.closes {rule : Rule} {acts : List BranchAct} (h : Opening rule acts) :
    acts.filterMap BranchAct.closed? = [] := by
  rcases h with rfl | ⟨_, rfl⟩ | ⟨_, _, rfl⟩ <;> rfl

/-- A finished branch closed exactly once, with an outcome under its rule's name. -/
theorem Told.closes {n : Nat} {rule : Rule} {acts : List BranchAct}
    (h : Told f n rule .finished acts) :
    ∃ o, acts.filterMap BranchAct.closed? = [o] ∧ o.rule = rule.name := by
  rcases h with ⟨_, roles, rfl⟩ | ⟨_, post, ⟨pre, hopen, rfl⟩, hclosing, rfl⟩
  · exact ⟨_, rfl, rfl⟩
  · simp only [List.filterMap_append, hopen.closes, List.nil_append]
    rcases hclosing with ⟨roles, -, rfl | ⟨_, _, rfl⟩⟩ | ⟨e, -, rfl⟩ | ⟨d, -, rfl⟩ <;>
      exact ⟨_, rfl, rfl⟩

theorem count_map_rule (name : String) (outs : List BranchOutcome) :
    (outs.map (·.rule)).count name = (outs.filter (·.rule == name)).length := by
  rw [List.count_eq_countP, List.countP_map, List.countP_eq_length_filter]
  rfl

/-- No act bears a name outside the rules. -/
theorem Accounts.actsOf_eq_nil {s : Schedule FanOutShared RuleResult BranchOutcome} {log : List BranchAct}
    (h : Accounts f c₀ n₀ rules s log) {name : String} (hmem : name ∉ rules.map Rule.name) :
    actsOf name log = [] :=
  List.filter_eq_nil_iff.mpr fun a ha hname => by
    obtain ⟨rule, hrule, hn⟩ := h.named a ha
    exact hmem (List.mem_map.mpr ⟨rule, hrule, hn.symm.trans (beq_iff_eq.mp hname)⟩)

/-- Over rules with distinct names, the outcomes of a finished run name each rule once: their
names are the rules' names, up to order. -/
theorem outcome_names_perm {s : Schedule FanOutShared RuleResult BranchOutcome} {log : List BranchAct}
    (hnames : (rules.map Rule.name).Nodup) (h : Accounts f c₀ n₀ rules s log)
    (htold : ∀ rule ∈ rules, Told f (n₀.getD rule.name 0) rule .finished (actsOf rule.name log)) :
    (s.outcomes.map (·.rule)).Perm (rules.map Rule.name) := by
  refine List.perm_iff_count.mpr fun name => ?_
  rw [count_map_rule, h.outcomes, filter_closes]
  by_cases hmem : name ∈ rules.map Rule.name
  · -- the rule of that name closed once
    obtain ⟨rule, hrule, rfl⟩ := List.mem_map.mp hmem
    obtain ⟨o, ho, -⟩ := (htold rule hrule).closes
    rw [ho, List.count_eq_one_of_mem hnames hmem]
    rfl
  · rw [h.actsOf_eq_nil hmem, List.count_eq_zero_of_not_mem hmem]
    rfl

/-- The outcomes of a told log are its closing acts. -/
theorem mem_closes {log : List BranchAct} {o : BranchOutcome} :
    o ∈ log.filterMap BranchAct.closed? ↔ BranchAct.close o ∈ log := by
  rw [List.mem_filterMap]
  constructor
  · rintro ⟨a, ha, hc⟩
    cases a <;> simp only [BranchAct.closed?, reduceCtorEq, Option.some.injEq] at hc
    exact hc ▸ ha
  · exact fun h => ⟨_, h, rfl⟩

/-- A closing act of a told log is one of a rule's branch. -/
theorem Accounts.close_mem {s : Schedule FanOutShared RuleResult BranchOutcome} {log : List BranchAct} (h : Accounts f c₀ n₀ rules s log)
    {o : BranchOutcome} : BranchAct.close o ∈ log ↔ ∃ r ∈ rules, BranchAct.close o ∈ actsOf r.name log := by
  constructor
  · intro ho
    obtain ⟨r, hr, hn⟩ := h.named _ ho
    exact ⟨r, hr, List.mem_filter.mpr ⟨ho, by simpa using hn⟩⟩
  · rintro ⟨r, -, hr⟩
    exact (List.mem_filter.mp hr).1

/-- A finished branch that failed closed with no roles and its failure. -/
theorem Told.close_failure {n : Nat} {rule : Rule} {acts : List BranchAct}
    (h : Told f n rule .finished acts) {o : BranchOutcome} (ho : BranchAct.close o ∈ acts)
    {e : RuleError} (he : o.failure = some e) : o = ⟨rule.name, ∅, some e⟩ := by
  rcases h with ⟨_, roles, rfl⟩ | ⟨_, post, ⟨pre, hopen, rfl⟩, hclosing, rfl⟩
  · simp only [List.mem_cons, reduceCtorEq, BranchAct.close.injEq, List.not_mem_nil, or_false,
      false_or] at ho
    rw [ho] at he
    cases he
  · rcases hopen with rfl | ⟨_, rfl⟩ | ⟨_, _, rfl⟩ <;>
    rcases hclosing with ⟨roles, -, rfl | ⟨_, _, rfl⟩⟩ | ⟨e', -, rfl⟩ | ⟨d, -, rfl⟩ <;>
    simp only [List.nil_append, List.cons_append, List.mem_cons, reduceCtorEq,
      BranchAct.close.injEq, List.not_mem_nil, or_false, false_or] at ho <;>
    rw [ho] at he ⊢ <;> cases he <;> rfl

/-- A finished branch invoked its predicate at most once. -/
theorem Told.runs {n : Nat} {rule : Rule} {acts : List BranchAct}
    (h : Told f n rule .finished acts) (name : String) :
    acts.countP (BranchAct.invokes f name) ≤ 1 := by
  rcases h with ⟨_, roles, rfl⟩ | ⟨_, post, ⟨pre, hopen, rfl⟩, hclosing, rfl⟩
  · simp [BranchAct.invokes]
  · rcases hopen with rfl | ⟨_, rfl⟩ | ⟨_, _, rfl⟩ <;>
    rcases hclosing with ⟨roles, -, rfl | ⟨_, _, rfl⟩⟩ | ⟨e', -, rfl⟩ | ⟨d, -, rfl⟩ <;>
    simp only [List.nil_append, List.cons_append, List.countP_cons, List.countP_nil,
      BranchAct.invokes, Bool.false_eq_true, ↓reduceIte] <;>
    by_cases hrun : (rule.name == name && (rule.evaluate f.ctx f.identity n).invoked) = true <;>
    simp only [hrun, ↓reduceIte, Bool.false_eq_true] <;> decide

/-- The runs of a rule's predicate are acts of its branch. -/
theorem countP_invokes (name : String) (log : List BranchAct) :
    log.countP (BranchAct.invokes f name) = (actsOf name log).countP (BranchAct.invokes f name) := by
  rw [actsOf, List.countP_filter]
  congr 1
  funext a
  cases a <;> simp +contextual [BranchAct.invokes, BranchAct.name]

section Finished

variable {s : Schedule FanOutShared RuleResult BranchOutcome} {log : List BranchAct}

/-- The roles of the outcomes are the roles the rules' branches closed with. -/
theorem Accounts.outcome_roles (h : Accounts f c₀ n₀ rules s log) {x : String} :
    (∃ o ∈ s.outcomes, x ∈ o.roles) ↔
      ∃ r ∈ rules, ∃ o, BranchAct.close o ∈ actsOf r.name log ∧ x ∈ o.roles := by
  rw [h.outcomes]
  constructor
  · rintro ⟨o, ho, hx⟩
    obtain ⟨r, hr, hc⟩ := h.close_mem.mp (mem_closes.mp ho)
    exact ⟨r, hr, o, hc, hx⟩
  · rintro ⟨r, hr, o, hc, hx⟩
    exact ⟨o, mem_closes.mpr (h.close_mem.mpr ⟨r, hr, hc⟩), hx⟩

variable (htold : ∀ rule ∈ rules, Told f (n₀.getD rule.name 0) rule .finished (actsOf rule.name log))
include htold

/-- The failures among the outcomes of a finished run are the branches that closed with a
failure, each under its rule's name. -/
theorem Accounts.outcome_failures (h : Accounts f c₀ n₀ rules s log) {rf : RuleFailure} :
    rf ∈ s.outcomes.filterMap (fun o => o.failure.map fun e => (⟨o.rule, e⟩ : RuleFailure)) ↔
      ∃ r ∈ rules, rf.rule = r.name ∧ BranchAct.close ⟨r.name, ∅, some rf.error⟩ ∈ actsOf r.name log := by
  obtain ⟨name, e⟩ := rf
  rw [List.mem_filterMap, h.outcomes]
  constructor
  · rintro ⟨o, ho, hf⟩
    obtain ⟨e', he', hfe⟩ := Option.map_eq_some_iff.mp hf
    obtain ⟨r, hr, hc⟩ := h.close_mem.mp (mem_closes.mp ho)
    -- a failed branch closed with its rule's name and its failure
    have hor := (htold r hr).close_failure hc he'
    rw [hor] at hc hfe
    cases hfe
    exact ⟨r, hr, rfl, hc⟩
  · rintro ⟨r, hr, hname, hc⟩
    refine ⟨_, mem_closes.mpr (h.close_mem.mpr ⟨r, hr, hc⟩), ?_⟩
    dsimp only at hname ⊢
    rw [hname]
    rfl

/-- In a finished run over rules with distinct names, a predicate ran at most once, and only
when it is one of the rules'. -/
theorem Accounts.runs_le_count (h : Accounts f c₀ n₀ rules s log)
    (hnames : (rules.map Rule.name).Nodup) (name : String) :
    log.countP (BranchAct.invokes f name) ≤ (rules.map Rule.name).count name := by
  rw [countP_invokes]
  by_cases hmem : name ∈ rules.map Rule.name
  · obtain ⟨r, hr, rfl⟩ := List.mem_map.mp hmem
    rw [List.count_eq_one_of_mem hnames hmem]
    exact (htold r hr).runs _
  · rw [h.actsOf_eq_nil hmem, List.count_eq_zero_of_not_mem hmem]
    exact Nat.le_refl _

end Finished

end FanOut

/-! ## One resolution -/

namespace Manager

variable (m : Manager) (user : String) (optedIn : Bool) (ctx : Context) (communities : NameSet)

/-- The rules a resolution runs: the relevant ones, in the rulebook's name order. -/
def resolutionRules : List Rule := (m.relevance communities).toList.map (·.rule)

/-- The fixed inputs of a resolution's branches: the identity the disclosure handed over, and the
manager's deadline and permits. -/
def resolutionFan : FanOut :=
  ⟨user, ctx, (m.disclose user optedIn (m.relevance communities)).1.1, m.config.ruleTimeout,
    m.config.maxParallelism⟩

theorem fanOut_schedule : (m.fanOut user optedIn ctx communities).2.1 =
    (m.resolutionFan user optedIn ctx communities).run (m.resolutionRules communities)
      m.clock ⟨m.cache, false, m.counters⟩ := by
  rw [fanOut_eq]
  rfl

theorem resolveRoles_failures : (m.resolveRoles user optedIn ctx communities).1.ruleFailures =
    ((m.fanOut user optedIn ctx communities).2.1.outcomes.filterMap
        fun o => o.failure.map fun e => (⟨o.rule, e⟩ : RuleFailure)).mergeSort
      fun a b => decide (a.rule ≤ b.rule) := by
  rcases h : m.fanOut user optedIn ctx communities with ⟨d, done, m'⟩
  simp only [resolveRoles, h]

theorem resolveRoles_degraded : (m.resolveRoles user optedIn ctx communities).1.cacheDegraded =
    (m.fanOut user optedIn ctx communities).2.1.shared.degraded := by
  rcases h : m.fanOut user optedIn ctx communities with ⟨d, done, m'⟩
  simp only [resolveRoles, h]

theorem resolveRoles_counters : (m.resolveRoles user optedIn ctx communities).2.counters =
    (m.fanOut user optedIn ctx communities).2.1.shared.counters := by
  rcases h : m.fanOut user optedIn ctx communities with ⟨d, done, m'⟩
  simp only [resolveRoles, h]

/-- What one resolution computed, told by the list of its branches' acts. The acts replay the
cache calls from the manager's cache to the cache it keeps, each where the cache allows it; every
act belongs to a relevant rule, whose branch finished its story (a hit closed with its roles, or
one run of the predicate, closed with its roles, its failure or the deadline). The roles are
"_known", "_identified" when the identity was disclosed, and the roles each branch closed with;
the failed rules are the branches that closed with a failure, with that failure, each once and in
strict name order; the resolution is degraded exactly when a cache call failed; each counter grew
by the runs of its rule's predicate, and a predicate ran at most once, and only when its rule is
relevant. -/
structure Computed (log : List BranchAct) : Prop where
  trail : Trail user m.cache log (m.resolveRoles user optedIn ctx communities).2.cache
  lawful : FanOut.Lawful (m.resolutionFan user optedIn ctx communities) m.cache.isEnabled log
  named : ∀ a ∈ log, ∃ r ∈ m.resolutionRules communities, a.name = r.name
  told : ∀ r ∈ m.resolutionRules communities,
    FanOut.Told (m.resolutionFan user optedIn ctx communities) (m.counters.getD r.name 0) r
      .finished (FanOut.actsOf r.name log)
  roles : ∀ x, x ∈ (m.resolveRoles user optedIn ctx communities).1.roles ↔
    x = StandardRole.known.name ∨
      ((m.resolveRoles user optedIn ctx communities).1.identity.isDisclosed = true ∧
        x = StandardRole.identified.name) ∨
      ∃ r ∈ m.resolutionRules communities, ∃ o,
        BranchAct.close o ∈ FanOut.actsOf r.name log ∧ x ∈ o.roles
  failures : ∀ rf, rf ∈ (m.resolveRoles user optedIn ctx communities).1.ruleFailures ↔
    ∃ r ∈ m.resolutionRules communities, rf.rule = r.name ∧
      BranchAct.close ⟨r.name, ∅, some rf.error⟩ ∈ FanOut.actsOf r.name log
  sorted : ((m.resolveRoles user optedIn ctx communities).1.ruleFailures.map (·.rule)).Pairwise
    (· < ·)
  degraded : (m.resolveRoles user optedIn ctx communities).1.cacheDegraded = true ↔
    ∃ a ∈ log, a.failed = true
  counters : ∀ name, (m.resolveRoles user optedIn ctx communities).2.counters.getD name 0 =
    m.counters.getD name 0 +
      log.countP (BranchAct.invokes (m.resolutionFan user optedIn ctx communities) name)
  runs : ∀ name,
    log.countP (BranchAct.invokes (m.resolutionFan user optedIn ctx communities) name) ≤
      ((m.resolutionRules communities).map Rule.name).count name

/-- The failed rules of a list of outcomes whose names are distinct are named once each. -/
theorem failure_names_nodup {outs : List BranchOutcome} (h : (outs.map (·.rule)).Nodup) :
    ((outs.filterMap fun o => o.failure.map fun e => (⟨o.rule, e⟩ : RuleFailure)).map
      (·.rule)).Nodup := by
  rw [List.Nodup, List.pairwise_map] at h
  rw [List.Nodup, List.pairwise_map, List.pairwise_filterMap]
  refine h.imp fun hne b hb b' hb' => ?_
  obtain ⟨_, -, rfl⟩ := Option.map_eq_some_iff.mp hb
  obtain ⟨_, -, rfl⟩ := Option.map_eq_some_iff.mp hb'
  exact hne

end Manager

/-- Every resolution is computed as its branches' acts tell: the roles are "_known", "_identified" exactly when the identity was
disclosed, and the roles each relevant rule closed with, from a cache hit or its one predicate
run; the failed rules are exactly the relevant rules whose run failed or timed out, in strict name
order; a cache error is never a failure and never costs a rule its roles, and the resolution is
degraded exactly when a cache call failed; no predicate runs but a relevant rule's, each at most
once, and each counter counts those runs. -/
theorem resolutions_compute_roles (m : Manager) (user : String) (optedIn : Bool) (ctx : Context)
    (communities : NameSet) : ∃ log, m.Computed user optedIn ctx communities log := by
  have hnames : ((m.resolutionRules communities).map Rule.name).Nodup := Relevance.nodup_names
  obtain ⟨log, h, htold⟩ := @FanOut.run_accounts (m.resolutionFan user optedIn ctx communities)
    m.cache m.counters (m.resolutionRules communities) hnames m.clock
  rw [← Manager.fanOut_schedule] at h
  have htold' : ∀ r ∈ m.resolutionRules communities, FanOut.Told _ (m.counters.getD r.name 0) r
      .finished (FanOut.actsOf r.name log) := fun r hr => by
    obtain ⟨i, hi⟩ := List.mem_iff_getElem?.mp hr
    exact htold i r hi
  -- the failed rules are a sorting of the failed outcomes, whose names are the rules' names
  have hnodup : ((m.resolveRoles user optedIn ctx communities).1.ruleFailures.map (·.rule)).Nodup := by
    rw [Manager.resolveRoles_failures]
    exact ((List.mergeSort_perm _ _).map _).nodup_iff.mpr (Manager.failure_names_nodup
      ((FanOut.outcome_names_perm hnames h htold').nodup_iff.mpr hnames))
  refine ⟨log, ⟨?_, h.lawful, h.named, htold', fun x => ?_, fun rf => ?_, ?_, ?_, fun name => ?_,
    h.runs_le_count htold' hnames⟩⟩
  · rw [Manager.resolveRoles_cache]
    exact h.trail
  · rw [Manager.mem_resolveRoles, Manager.resolveRoles_identity, h.outcome_roles]
  · rw [Manager.resolveRoles_failures, List.mem_mergeSort, h.outcome_failures htold']
  · exact ((m.resolveRoles_failures_sorted user optedIn ctx communities).and hnodup).imp
      fun hlt => Std.lt_iff_le_and_ne.mpr hlt
  · rw [Manager.resolveRoles_degraded]
    exact h.degraded
  · rw [Manager.resolveRoles_counters]
    exact h.counters name

end RoleSync
