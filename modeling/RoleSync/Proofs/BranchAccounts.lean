import RoleSync.Proofs.FanOutProgress
/-!
What each branch of a fan-out did, told as a list of acts in the order the fan-out made them: the
cache reads with their answers, the runs of the predicates, the write-backs with their answers,
and the outcomes the branches closed with (`BranchAct`).

Three things tie such a list to the run. Made in order from the starting cache, its cache calls
give the answers it records and leave the cache the run leaves (`Trail`). Each act could be made
when it was (`Lawful`): a read or a write-back only while no cache call had failed, a run without
a read only when the cache was off for the rule or had failed, and a success closed without its
write-back only when none was due. And each branch's own acts follow one of the stories of
`Told`: nothing before it starts; a hit closed with its roles; or at most one failed or empty read,
one run of the predicate, and the run's roles (maybe written back), its failure, or a timeout.

Main statement (`run_accounts`): every run of a fan-out whose rules have distinct names is told
by such a list, each rule's branch by a finished story, the outcomes being the closing acts, the
degraded flag saying whether a cache call failed, and each counter grown by the runs of its
rule.
-/

namespace RoleSync

set_option autoImplicit false

/-- What a branch does, in the order the fan-out does it: a cache read with its answer, a run of
the predicate given the count of earlier runs, a write-back with its answer, and the outcome it
closes with. -/
inductive BranchAct where
  | read (rule : Rule) (now : Nat) (answer : Except CacheError Lookup)
  | run (rule : Rule) (earlier : Nat)
  | write (rule : Rule) (now : Nat) (roles : NameSet) (answer : Except CacheError Unit)
  | close (outcome : BranchOutcome)

namespace BranchAct

/-- The name of the rule whose branch made the act. -/
def name : BranchAct → String
  | .read rule _ _ => rule.name
  | .run rule _ => rule.name
  | .write rule _ _ _ => rule.name
  | .close o => o.rule

/-- Whether the act is a cache call that failed. -/
def failed : BranchAct → Bool
  | .read _ _ (.error _) => true
  | .write _ _ _ (.error _) => true
  | _ => false

/-- The outcome of a closing act. -/
def closed? : BranchAct → Option BranchOutcome
  | .close o => some o
  | _ => none

/-- Whether the act is a run of the predicate of the rule with the given name that invoked it. -/
def invokes (f : FanOut) (name : String) : BranchAct → Bool
  | .run rule n => rule.name == name && (rule.evaluate f.ctx f.identity n).invoked
  | _ => false

end BranchAct

/-- The cache calls among the acts, made in order from a cache for one user, give the answers the
acts record and leave the last cache. -/
inductive Trail (user : String) (c₀ : RuleCache) : List BranchAct → RuleCache → Prop
  | nil : Trail user c₀ [] c₀
  | read {acts : List BranchAct} {c : RuleCache} (rule : Rule) (now : Nat) :
      Trail user c₀ acts c →
      Trail user c₀ (acts ++ [.read rule now (c.tryGet now rule user).1]) (c.tryGet now rule user).2
  | write {acts : List BranchAct} {c : RuleCache} (rule : Rule) (now : Nat) (roles : NameSet) :
      Trail user c₀ acts c →
      Trail user c₀ (acts ++ [.write rule now roles (c.put now rule user roles).1])
        (c.put now rule user roles).2
  | run {acts : List BranchAct} {c : RuleCache} (rule : Rule) (n : Nat) :
      Trail user c₀ acts c → Trail user c₀ (acts ++ [.run rule n]) c
  | close {acts : List BranchAct} {c : RuleCache} (o : BranchOutcome) :
      Trail user c₀ acts c → Trail user c₀ (acts ++ [.close o]) c

/-! ## The cache calls -/

namespace RuleCache

variable (c : RuleCache) (now : Nat) (rule : Rule) (user : String)

theorem isEnabled_tryGet : (c.tryGet now rule user).2.isEnabled = c.isEnabled := by
  unfold tryGet isEnabled
  split
  · rename_i hs _
    rw [hs]
    split
    rfl
  · rfl

theorem isEnabled_put (roles : NameSet) : (c.put now rule user roles).2.isEnabled = c.isEnabled := by
  unfold put isEnabled
  split
  · rename_i hs _
    rw [hs]
    dsimp only
    split
    · rw [hs]
    · split <;> rfl
  · rfl

end RuleCache

/-- Replaying cache calls never turns the cache on or off. -/
theorem Trail.isEnabled {user : String} {c₀ c : RuleCache} {log : List BranchAct}
    (h : Trail user c₀ log c) : c.isEnabled = c₀.isEnabled := by
  induction h with
  | nil => rfl
  | read rule now _ ih => rw [RuleCache.isEnabled_tryGet, ih]
  | write rule now roles _ ih => rw [RuleCache.isEnabled_put, ih]
  | run _ _ _ ih => exact ih
  | close _ _ ih => exact ih

namespace FanOut

variable (f : FanOut)

/-- An act is sound after the acts before it when the branch could make it then: a read or a
write-back only on an enabled cache, for a cacheable rule, while no cache call has failed (and a
write-back only of a result that says something without the identity); a run without a read
before it only when the cache was off for the rule or had failed; and a success closed after a run
without a write-back only when the write-back was not due. -/
def Sound (enabled : Bool) (pre : List BranchAct) : BranchAct → Prop
  | .read rule _ _ => enabled = true ∧ rule.isCacheable = true ∧ ∀ b ∈ pre, b.failed = false
  | .run rule _ => (∃ now a, BranchAct.read rule now a ∈ pre) ∨ enabled = false ∨
      rule.isCacheable = false ∨ ∃ b ∈ pre, b.failed = true
  | .write rule _ _ _ => enabled = true ∧ rule.isCacheable = true ∧
      (rule.isStrong && f.identity.isNone) = false ∧ ∀ b ∈ pre, b.failed = false
  | .close o => ∀ rule n, BranchAct.run rule n ∈ pre → rule.name = o.rule → o.failure = none →
      (∀ now roles a, BranchAct.write rule now roles a ∉ pre) →
      enabled = false ∨ rule.isCacheable = false ∨ (rule.isStrong && f.identity.isNone) = true ∨
        ∃ b ∈ pre, b.failed = true

/-- Every act of the list is sound after the acts before it. -/
def Lawful (enabled : Bool) (log : List BranchAct) : Prop :=
  ∀ k a, log[k]? = some a → f.Sound enabled (log.take k) a

/-- How a branch may open: with no read, a read that found nothing, or a read that failed. -/
def Opening (rule : Rule) (acts : List BranchAct) : Prop :=
  acts = [] ∨ (∃ now, acts = [.read rule now (.ok .notFound)]) ∨
    ∃ now e, acts = [.read rule now (.error e)]

/-- The outcome of a branch that passed the fan-out's deadline of `d` milliseconds. -/
def timedOut (rule : Rule) (d : Nat) : BranchOutcome := ⟨rule.name, ∅, some (.timeout d)⟩

/-- How a branch that ran its predicate may close: with the run's roles, maybe written back, with
the run's failure, or timed out at the fan-out's limit. -/
def Closing (rule : Rule) (result : RuleResult) (acts : List BranchAct) : Prop :=
  (∃ roles, result = .success roles ∧ (acts = [.close ⟨rule.name, roles, none⟩] ∨
    ∃ now a, acts = [.write rule now roles a, .close ⟨rule.name, roles, none⟩])) ∨
  (∃ e, result = .failure e ∧ acts = [.close ⟨rule.name, ∅, some e⟩]) ∨
  ∃ d, f.limit = some d ∧ acts = [.close (timedOut rule d)]

/-- A branch that has run its predicate, given `n` earlier runs: its opening, then the run. -/
def Ran (n : Nat) (rule : Rule) (acts : List BranchAct) : Prop :=
  ∃ pre, Opening rule pre ∧ acts = pre ++ [.run rule n]

/-- What a branch has done, by its phase, its predicate having run `n` times before the fan-out:
nothing before it starts; while it pauses, the run whose result it holds, with the fan-out's
deadline if any; once finished, a hit closed with its roles, or the run and its closing. -/
def Told (n : Nat) (rule : Rule) : BranchPhase RuleResult BranchOutcome → List BranchAct → Prop
  | .fresh, acts => acts = []
  | .queued, acts => acts = []
  | .admitted, acts => acts = []
  | .pausing _ _ dl res, acts => res = (rule.evaluate f.ctx f.identity n).result ∧
      (∀ at_ o, dl = some (at_, o) → ∃ d, f.limit = some d ∧ o = timedOut rule d) ∧
      Ran n rule acts
  | .finished, acts =>
      (∃ now roles, acts = [.read rule now (.ok (.hit roles)), .close ⟨rule.name, roles, none⟩]) ∨
        ∃ pre post, Ran n rule pre ∧ f.Closing rule (rule.evaluate f.ctx f.identity n).result post ∧
          acts = pre ++ post

/-- The acts of the branch of the rule with the given name. -/
def actsOf (name : String) (log : List BranchAct) : List BranchAct :=
  log.filter (·.name == name)

theorem actsOf_append (name : String) (log acts : List BranchAct) :
    actsOf name (log ++ acts) = actsOf name log ++ actsOf name acts :=
  List.filter_append log acts

/-- Acts of one branch are not acts of a branch with another name. -/
theorem actsOf_of_named {n n' : String} {acts : List BranchAct} (hacts : ∀ a ∈ acts, a.name = n)
    (hne : n ≠ n') : actsOf n' acts = [] :=
  List.filter_eq_nil_iff.mpr fun a ha => by simp [hacts a ha, hne]

theorem actsOf_self {n : String} {acts : List BranchAct} (hacts : ∀ a ∈ acts, a.name = n) :
    actsOf n acts = acts :=
  List.filter_eq_self.mpr fun a ha => by simp [hacts a ha]

/-! ## The shared state, told -/

variable {f}

/-- Appending an act sound after the list keeps the list lawful. -/
theorem Lawful.snoc {e : Bool} {log : List BranchAct} {a : BranchAct} (h : f.Lawful e log)
    (ha : f.Sound e log a) : f.Lawful e (log ++ [a]) := by
  intro k b hb
  rcases Nat.lt_or_ge k log.length with hk | hk
  · rw [List.getElem?_append_left hk] at hb
    rw [List.take_append_of_le_length (Nat.le_of_lt hk)]
    exact h k b hb
  · rw [List.getElem?_append_right hk] at hb
    -- only the appended act sits at or past the old length
    have hkl : k = log.length := by
      rcases Nat.lt_or_ge log.length k with hlt | hle
      · rw [List.getElem?_eq_none (by simp; omega)] at hb
        cases hb
      · omega
    subst hkl
    rw [Nat.sub_self, List.getElem?_cons_zero, Option.some.injEq] at hb
    rw [← hb, List.take_left' rfl]
    exact ha

variable (f) (c₀ : RuleCache) (n₀ : Std.TreeMap String Nat compare)

/-- The state the branches share, told by a list of acts from a starting cache and counters: the
cache calls replay onto the starting cache, every act is sound, the resolution is degraded exactly
when a cache call failed, the outcomes are the closing acts, and each counter has grown by the
runs that invoked its rule's predicate. -/
structure Journal (sh : FanOutShared) (outcomes : List BranchOutcome) (log : List BranchAct) :
    Prop where
  trail : Trail f.user c₀ log sh.cache
  lawful : f.Lawful c₀.isEnabled log
  degraded : sh.degraded = true ↔ ∃ a ∈ log, a.failed = true
  outcomes : outcomes = log.filterMap BranchAct.closed?
  counters : ∀ name, sh.counters.getD name 0 = n₀.getD name 0 + log.countP (BranchAct.invokes f name)

variable {f c₀ n₀}

section Journal

variable {sh : FanOutShared} {outs : List BranchOutcome} {log : List BranchAct}

theorem Journal.enabled (h : Journal f c₀ n₀ sh outs log) : sh.cache.isEnabled = c₀.isEnabled :=
  h.trail.isEnabled

theorem Journal.not_failed (h : Journal f c₀ n₀ sh outs log) (hd : sh.degraded = false) :
    ∀ b ∈ log, b.failed = false := fun b hb => by
  cases hf : b.failed
  · rfl
  · exact absurd (h.degraded.mpr ⟨b, hb, hf⟩) (by simp [hd])

/-- The degraded flag after an act: set before it, or by the act's failure. -/
theorem degraded_snoc {d d' : Bool} {a : BranchAct} (h : d = true ↔ ∃ b ∈ log, b.failed = true)
    (h' : d' = true ↔ d = true ∨ a.failed = true) :
    d' = true ↔ ∃ b ∈ log ++ [a], b.failed = true := by
  rw [h', h]
  simp only [List.mem_append, List.mem_singleton, or_and_right, exists_or, exists_eq_left]

/-- A branch's cache read, or the lack of one: the read is told, and after it a run is sound. A
hit is told as a read that found the roles; otherwise the branch opens as `Opening` says. -/
theorem Journal.readCache (h : Journal f c₀ n₀ sh outs log) (rule : Rule) (now : Nat) :
    ∃ acts, Journal f c₀ n₀ (f.readCache rule now sh).2 outs (log ++ acts) ∧
      (∀ n, f.Sound c₀.isEnabled (log ++ acts) (.run rule n)) ∧
      (((f.readCache rule now sh).1 = none ∧ Opening rule acts) ∨
        ∃ roles, (f.readCache rule now sh).1 = some roles ∧
          acts = [.read rule now (.ok (.hit roles))]) := by
  unfold FanOut.readCache
  split
  · rename_i hcond
    simp only [Bool.and_eq_true, Bool.not_eq_true'] at hcond
    obtain ⟨⟨hen, hcache⟩, hd⟩ := hcond
    have hsound : f.Sound c₀.isEnabled log (.read rule now (sh.cache.tryGet now rule f.user).1) :=
      ⟨h.enabled ▸ hen, hcache, h.not_failed hd⟩
    have htrail := Trail.read rule now h.trail
    have hlawful := h.lawful.snoc hsound
    have hread : ∀ n, f.Sound c₀.isEnabled
        (log ++ [.read rule now (sh.cache.tryGet now rule f.user).1]) (.run rule n) :=
      fun _ => .inl ⟨now, _, List.mem_append_right _ (List.mem_singleton_self _)⟩
    split <;> rename_i heq <;> rw [heq] at htrail hlawful hread
    · exact ⟨_, ⟨htrail, hlawful, degraded_snoc h.degraded (by simp [BranchAct.failed]),
        by simp [h.outcomes, BranchAct.closed?], by simp [h.counters, BranchAct.invokes]⟩,
        hread, .inr ⟨_, rfl, rfl⟩⟩
    · exact ⟨_, ⟨htrail, hlawful, degraded_snoc h.degraded (by simp [BranchAct.failed]),
        by simp [h.outcomes, BranchAct.closed?], by simp [h.counters, BranchAct.invokes]⟩,
        hread, .inl ⟨rfl, .inr (.inl ⟨now, rfl⟩)⟩⟩
    · exact ⟨_, ⟨htrail, hlawful, degraded_snoc h.degraded (by simp [BranchAct.failed]),
        by simp [h.outcomes, BranchAct.closed?], by simp [h.counters, BranchAct.invokes]⟩,
        hread, .inl ⟨rfl, .inr (.inr ⟨now, _, rfl⟩)⟩⟩
  · rename_i hcond
    -- the read is skipped: the cache is off for the rule, or a cache call has failed
    refine ⟨[], by simpa using h, fun n => ?_, .inl ⟨rfl, .inl rfl⟩⟩
    simp only [List.append_nil]
    cases hen : sh.cache.isEnabled
    · exact .inr (.inl (h.enabled ▸ hen))
    cases hcache : rule.isCacheable
    · exact .inr (.inr (.inl hcache))
    cases hd : sh.degraded
    · simp [hen, hcache, hd] at hcond
    · exact .inr (.inr (.inr (h.degraded.mp hd)))

/-- A run of the predicate, given the count of earlier runs the counters hold, is told; the
counter of its rule grows when the predicate was invoked. -/
theorem Journal.run (h : Journal f c₀ n₀ sh outs log) (rule : Rule)
    (hs : f.Sound c₀.isEnabled log (.run rule (sh.counters.getD rule.name 0))) :
    Journal f c₀ n₀
      { sh with
        counters := (if (rule.evaluate f.ctx f.identity (sh.counters.getD rule.name 0)).invoked then
          sh.counters.insert rule.name (sh.counters.getD rule.name 0 + 1) else sh.counters) }
      outs (log ++ [.run rule (sh.counters.getD rule.name 0)]) := by
  refine ⟨Trail.run _ _ h.trail, h.lawful.snoc hs,
    degraded_snoc h.degraded (by simp [BranchAct.failed]),
    by simp [h.outcomes, BranchAct.closed?], fun name => ?_⟩
  have hc := h.counters name
  by_cases hname : rule.name = name
  · subst hname
    by_cases hinv : (rule.evaluate f.ctx f.identity (sh.counters.getD rule.name 0)).invoked = true
    · simp [hinv, BranchAct.invokes] at hc ⊢
      omega
    · simp [hinv, BranchAct.invokes] at hc ⊢
      omega
  · have hne : (rule.name == name) = false := by simpa using hname
    split <;> simp [BranchAct.invokes, Std.TreeMap.getD_insert, hname, hne, hc]

/-- A branch that has done nothing yet starts, told: a hit closes it at once with the cached
roles; otherwise it opens, runs its predicate once, given the count the fan-out started with, and
holds the run's result. -/
theorem Journal.startBranch (h : Journal f c₀ n₀ sh outs log) (rule : Rule) (now : Nat)
    (hfresh : actsOf rule.name log = []) :
    ∃ acts, Journal f c₀ n₀ (f.startBranch rule now sh).2 outs (log ++ acts) ∧
      (∀ a ∈ acts, a.name = rule.name) ∧
      ((∃ roles, (f.startBranch rule now sh).1 = .done ⟨rule.name, roles, none⟩ ∧
          acts = [.read rule now (.ok (.hit roles))]) ∨
        ∃ ps, (f.startBranch rule now sh).1 =
            .pausing ps (rule.evaluate f.ctx f.identity (n₀.getD rule.name 0)).result ∧
          Ran (n₀.getD rule.name 0) rule acts) := by
  obtain ⟨acts, hj, hrun, hread⟩ := h.readCache rule now
  have hacts : ∀ a ∈ acts, a.name = rule.name := by
    rcases hread with ⟨-, rfl | ⟨_, rfl⟩ | ⟨_, _, rfl⟩⟩ | ⟨_, -, rfl⟩ <;> simp [BranchAct.name]
  have hself : actsOf rule.name (log ++ acts) = acts := by
    rw [actsOf_append, hfresh, actsOf_self hacts, List.nil_append]
  unfold FanOut.startBranch
  generalize f.readCache rule now sh = rd at hj hrun hread
  obtain ⟨hit, sh'⟩ := rd
  cases hit with
  | some roles =>
    obtain ⟨hnone, -⟩ | ⟨_, hsome, rfl⟩ := hread
    · cases hnone
    cases Option.some.inj hsome
    exact ⟨_, hj, hacts, .inl ⟨roles, rfl, rfl⟩⟩
  | none =>
    obtain ⟨-, hopen⟩ : (none : Option NameSet) = none ∧ Opening rule acts := by
      rcases hread with hread | ⟨_, hsome, -⟩
      · exact hread
      · cases hsome
    -- the predicate runs with the count the fan-out started with: the branch has not run before
    have hcount : sh'.counters.getD rule.name 0 = n₀.getD rule.name 0 := by
      rw [hj.counters rule.name, List.countP_eq_zero.mpr, Nat.add_zero]
      intro a ha hinv
      have hmem : a ∈ actsOf rule.name (log ++ acts) := List.mem_filter.mpr ⟨ha, by
        cases a <;> simp_all [BranchAct.invokes, BranchAct.name]⟩
      rw [hself] at hmem
      rcases hopen with rfl | ⟨_, rfl⟩ | ⟨_, _, rfl⟩ <;> simp at hmem <;>
        (rw [hmem] at hinv; simp [BranchAct.invokes] at hinv)
    have hj' := hj.run rule (hrun _)
    dsimp only at hj' ⊢
    rw [hcount] at hj' ⊢
    refine ⟨acts ++ [.run rule (n₀.getD rule.name 0)], ?_, ?_, .inr ⟨_, rfl, acts, hopen, rfl⟩⟩
    · rwa [← List.append_assoc]
    · intro a ha
      rcases List.mem_append.mp ha with ha | ha
      · exact hacts a ha
      · simp only [List.mem_singleton] at ha
        simp [ha, BranchAct.name]

/-- A write-back, or the lack of one: it is told, and when it is not made, it was not due. -/
theorem Journal.writeBack (h : Journal f c₀ n₀ sh outs log) (rule : Rule) (now : Nat)
    (roles : NameSet) :
    ∃ acts, Journal f c₀ n₀ (f.writeBack rule now roles sh) outs (log ++ acts) ∧
      ((acts = [] ∧ (c₀.isEnabled = false ∨ rule.isCacheable = false ∨
          (rule.isStrong && f.identity.isNone) = true ∨ ∃ b ∈ log, b.failed = true)) ∨
        ∃ a, acts = [.write rule now roles a]) := by
  unfold FanOut.writeBack
  split
  · rename_i hcond
    simp only [Bool.and_eq_true, Bool.not_eq_true'] at hcond
    obtain ⟨⟨⟨hen, hcache⟩, hstrong⟩, hd⟩ := hcond
    have hsound : f.Sound c₀.isEnabled log
        (.write rule now roles (sh.cache.put now rule f.user roles).1) :=
      ⟨h.enabled ▸ hen, hcache, hstrong, h.not_failed hd⟩
    have htrail := Trail.write rule now roles h.trail
    have hlawful := h.lawful.snoc hsound
    split <;> rename_i heq <;> rw [heq] at htrail hlawful
    · exact ⟨_, ⟨htrail, hlawful, degraded_snoc h.degraded (by simp [BranchAct.failed]),
        by simp [h.outcomes, BranchAct.closed?], by simp [h.counters, BranchAct.invokes]⟩,
        .inr ⟨_, rfl⟩⟩
    · exact ⟨_, ⟨htrail, hlawful, degraded_snoc h.degraded (by simp [BranchAct.failed]),
        by simp [h.outcomes, BranchAct.closed?], by simp [h.counters, BranchAct.invokes]⟩,
        .inr ⟨_, rfl⟩⟩
  · rename_i hcond
    -- the write-back is not due: the cache is off for the rule, the result says nothing
    -- without the identity, or a cache call has failed
    refine ⟨[], by simpa using h, .inl ⟨rfl, ?_⟩⟩
    cases hen : sh.cache.isEnabled
    · exact .inl (h.enabled ▸ hen)
    cases hcache : rule.isCacheable
    · exact .inr (.inl rfl)
    cases hstrong : (rule.isStrong && f.identity.isNone)
    · cases hd : sh.degraded
      · simp [hen, hcache, hstrong, hd] at hcond
      · exact .inr (.inr (.inr (h.degraded.mp hd)))
    · exact .inr (.inr (.inl rfl))

/-- A branch closing with an outcome sound at that point is told, and its outcome recorded. -/
theorem Journal.close (h : Journal f c₀ n₀ sh outs log) (o : BranchOutcome)
    (hs : f.Sound c₀.isEnabled log (.close o)) :
    Journal f c₀ n₀ sh (outs ++ [o]) (log ++ [.close o]) :=
  ⟨Trail.close _ h.trail, h.lawful.snoc hs, degraded_snoc h.degraded (by simp [BranchAct.failed]),
    by simp [h.outcomes, BranchAct.closed?], by simp [h.counters, BranchAct.invokes]⟩

end Journal

/-! ## Each branch, told -/

variable (f c₀ n₀) (rules : List Rule)

/-- A fan-out told by a list of acts: the shared state and outcomes are told, every act is of a
rule of the fan-out, and each branch's acts follow the story of its phase. -/
structure Accounts (s : Schedule FanOutShared RuleResult BranchOutcome) (log : List BranchAct) :
    Prop extends Journal f c₀ n₀ s.shared s.outcomes log where
  named : ∀ a ∈ log, ∃ rule ∈ rules, a.name = rule.name
  told : ∀ (i : Nat) rule p, rules[i]? = some rule → s.phases[i]? = some p →
    f.Told (n₀.getD rule.name 0) rule p (actsOf rule.name log)

/-- A fan-out while branch `i` acts: as `Accounts`, but for the acting branch, whose story is
under way. -/
structure Midway (s : Schedule FanOutShared RuleResult BranchOutcome) (log : List BranchAct)
    (i : Nat) : Prop extends Journal f c₀ n₀ s.shared s.outcomes log where
  named : ∀ a ∈ log, ∃ rule ∈ rules, a.name = rule.name
  others : ∀ (j : Nat) rule p, j ≠ i → rules[j]? = some rule → s.phases[j]? = some p →
    f.Told (n₀.getD rule.name 0) rule p (actsOf rule.name log)

variable {f c₀ n₀ rules}

section Branch

variable {s : Schedule FanOutShared RuleResult BranchOutcome} {log : List BranchAct} {i : Nat}

/-- Rules with distinct names sit at distinct places. -/
theorem index_eq_of_name (hnames : (rules.map Rule.name).Nodup) {j : Nat} {ri rj : Rule}
    (hi : rules[i]? = some ri) (hj : rules[j]? = some rj) (hn : ri.name = rj.name) : i = j := by
  have hi' : (rules.map Rule.name)[i]? = some ri.name := by simp [hi]
  have hj' : (rules.map Rule.name)[j]? = some rj.name := by simp [hj]
  exact (List.getElem?_inj (List.getElem?_eq_some_iff.mp hi').1 hnames).mp (hi'.trans (hn ▸ hj'.symm))

theorem Accounts.midway (h : Accounts f c₀ n₀ rules s log) (i : Nat) :
    Midway f c₀ n₀ rules s log i :=
  ⟨h.toJournal, h.named, fun j rule p _ hj hp => h.told j rule p hj hp⟩

/-- The acting branch's own acts, told along with the shared state they changed. -/
theorem Midway.append (h : Midway f c₀ n₀ rules s log i) (hnames : (rules.map Rule.name).Nodup)
    {rule : Rule} (hi : rules[i]? = some rule) {acts : List BranchAct}
    (hacts : ∀ a ∈ acts, a.name = rule.name) {sh : FanOutShared}
    (hj : Journal f c₀ n₀ sh s.outcomes (log ++ acts)) :
    Midway f c₀ n₀ rules { s with shared := sh } (log ++ acts) i := by
  refine ⟨hj, fun a ha => ?_, fun j rj p hji hj' hp => ?_⟩
  · rcases List.mem_append.mp ha with ha | ha
    · exact h.named a ha
    · exact ⟨rule, List.mem_of_getElem? hi, hacts a ha⟩
  · have hne : rule.name ≠ rj.name := fun hn => hji (index_eq_of_name hnames hi hj' hn).symm
    rw [actsOf_append, actsOf_of_named hacts hne, List.append_nil]
    exact h.others j rj p hji hj' hp

theorem Midway.setTimer (h : Midway f c₀ n₀ rules s log i) (due b : Nat) :
    Midway f c₀ n₀ rules (s.setTimer due b) log i :=
  ⟨h.toJournal, h.named, h.others⟩

/-- The acting branch goes to sleep on a pause: its story is that of a pausing branch. -/
theorem Midway.pause (h : Midway f c₀ n₀ rules s log i) {rule : Rule} (hi : rules[i]? = some rule)
    {p : BranchPhase RuleResult BranchOutcome}
    (htold : f.Told (n₀.getD rule.name 0) rule p (actsOf rule.name log)) :
    Accounts f c₀ n₀ rules (s.setPhase i p) log := by
  refine ⟨h.toJournal, h.named, fun j rj q hj hq => ?_⟩
  simp only [Schedule.setPhase] at hq
  by_cases hji : j = i
  · rw [hji] at hj hq
    obtain rfl : rule = rj := Option.some.inj (hi.symm.trans hj)
    have hlt : i < s.phases.length := by simpa using (List.getElem?_eq_some_iff.mp hq).1
    rw [List.getElem?_set_self hlt, Option.some.injEq] at hq
    exact hq ▸ htold
  · rw [List.getElem?_set_ne (Ne.symm hji)] at hq
    exact h.others j rj q hji hj hq

/-- The acting branch closes with an outcome that ends its story: the fan-out is told again, with
the branch finished and the first waiting branch, which has done nothing yet, admitted. -/
theorem Midway.close (h : Midway f c₀ n₀ rules s log i) (hnames : (rules.map Rule.name).Nodup)
    {rule : Rule} (hi : rules[i]? = some rule) (hiw : i ∉ s.waiting)
    (hwait : ∀ w ∈ s.waiting, s.phases[w]? = some .queued) {o : BranchOutcome}
    (ho : o.rule = rule.name)
    (htold : f.Told (n₀.getD rule.name 0) rule .finished (actsOf rule.name log ++ [.close o]))
    (hs : f.Sound c₀.isEnabled log (.close o)) :
    Accounts f c₀ n₀ rules (s.close i o) (log ++ [.close o]) := by
  have hj := h.toJournal.close o hs
  have hacts : ∀ a ∈ [BranchAct.close o], a.name = rule.name := by simp [BranchAct.name, ho]
  have hnamed : ∀ a ∈ log ++ [.close o], ∃ rule ∈ rules, a.name = rule.name := fun a ha => by
    rcases List.mem_append.mp ha with ha | ha
    · exact h.named a ha
    · exact ⟨rule, List.mem_of_getElem? hi, hacts a ha⟩
  -- the closing act is the branch's own: the others' stories stay as they were
  have hother : ∀ j rj p, j ≠ i → rules[j]? = some rj → s.phases[j]? = some p →
      f.Told (n₀.getD rj.name 0) rj p (actsOf rj.name (log ++ [.close o])) := by
    intro j rj p hji hj' hp
    have hne : rule.name ≠ rj.name := fun hn => hji (index_eq_of_name hnames hi hj' hn).symm
    rw [actsOf_append, actsOf_of_named hacts hne, List.append_nil]
    exact h.others j rj p hji hj' hp
  have hself : actsOf rule.name (log ++ [.close o]) = actsOf rule.name log ++ [.close o] := by
    rw [actsOf_append, actsOf_self hacts]
  rcases hw : s.waiting with _ | ⟨w, ws⟩
  · rw [Schedule.close_nil hw]
    refine ⟨hj, hnamed, fun j rj p hj' hp => ?_⟩
    dsimp only at hp
    by_cases hji : j = i
    · rw [hji] at hj' hp
      obtain rfl : rule = rj := Option.some.inj (hi.symm.trans hj')
      have hlt : i < s.phases.length := by simpa using (List.getElem?_eq_some_iff.mp hp).1
      rw [List.getElem?_set_self hlt, Option.some.injEq] at hp
      exact hp ▸ hself ▸ htold
    · rw [List.getElem?_set_ne (Ne.symm hji)] at hp
      exact hother j rj p hji hj' hp
  · -- the first waiting branch is admitted; it has done nothing yet
    have hwq : s.phases[w]? = some .queued := hwait w (by simp [hw])
    have hwi : w ≠ i := fun hwi => hiw (by simp [hw, hwi])
    rw [Schedule.close_cons hw]
    refine ⟨hj, hnamed, fun j rj p hj' hp => ?_⟩
    dsimp only at hp
    by_cases hjw : j = w
    · rw [hjw] at hj' hp
      have hlt : w < s.phases.length := (List.getElem?_eq_some_iff.mp hwq).1
      rw [List.getElem?_set_self (by simpa using hlt), Option.some.injEq] at hp
      rw [← hp]
      exact hother w rj .queued hwi hj' hwq
    · rw [List.getElem?_set_ne (Ne.symm hjw)] at hp
      by_cases hji : j = i
      · rw [hji] at hj' hp
        obtain rfl : rule = rj := Option.some.inj (hi.symm.trans hj')
        have hlt : i < s.phases.length := by simpa using (List.getElem?_eq_some_iff.mp hp).1
        rw [List.getElem?_set_self hlt, Option.some.injEq] at hp
        exact hp ▸ hself ▸ htold
      · rw [List.getElem?_set_ne (Ne.symm hji)] at hp
        exact hother j rj p hji hj' hp

/-- The only run among a branch's acts that ran so far is its own. -/
theorem Ran.run_eq {n : Nat} {rule : Rule} (hran : Ran n rule (actsOf rule.name log))
    {rule' : Rule} {n' : Nat} (hrun : BranchAct.run rule' n' ∈ log) (hname : rule'.name = rule.name) :
    rule' = rule ∧ n' = n := by
  obtain ⟨pre, hopen, hacts⟩ := hran
  have hmem : BranchAct.run rule' n' ∈ actsOf rule.name log :=
    List.mem_filter.mpr ⟨hrun, by simp [BranchAct.name, hname]⟩
  rw [hacts] at hmem
  rcases List.mem_append.mp hmem with hpre | hlast
  · -- an opening holds reads only
    rcases hopen with rfl | ⟨_, rfl⟩ | ⟨_, _, rfl⟩ <;> simp at hpre
  · simp only [List.mem_singleton, BranchAct.run.injEq] at hlast
    exact hlast

/-- The acting branch, having run its predicate, passes the fan-out's deadline: it closes timed
out, with no roles. -/
theorem Midway.timeOut (h : Midway f c₀ n₀ rules s log i) (hnames : (rules.map Rule.name).Nodup)
    {rule : Rule} (hi : rules[i]? = some rule) (hiw : i ∉ s.waiting)
    (hwait : ∀ w ∈ s.waiting, s.phases[w]? = some .queued)
    (hran : Ran (n₀.getD rule.name 0) rule (actsOf rule.name log)) {d : Nat}
    (hd : f.limit = some d) :
    Accounts f c₀ n₀ rules (s.close i (timedOut rule d)) (log ++ [.close (timedOut rule d)]) :=
  h.close hnames hi hiw hwait rfl (.inr ⟨_, _, hran, .inr (.inr ⟨d, hd, rfl⟩), rfl⟩)
    fun _ _ _ _ hnone => by cases hnone

/-- The acting branch, having run its predicate, finishes with the run's result: its success is
written back when due, and the fan-out is told again. -/
theorem Midway.finish (h : Midway f c₀ n₀ rules s log i) (hnames : (rules.map Rule.name).Nodup)
    {rule : Rule} (hi : rules[i]? = some rule) (hiw : i ∉ s.waiting)
    (hwait : ∀ w ∈ s.waiting, s.phases[w]? = some .queued)
    (hran : Ran (n₀.getD rule.name 0) rule (actsOf rule.name log)) :
    ∃ log', Accounts f c₀ n₀ rules (Schedule.finish f.kind rules s i
      (rule.evaluate f.ctx f.identity (n₀.getD rule.name 0)).result) log' := by
  unfold Schedule.finish
  rw [hi, kind_finish]
  generalize hres : (rule.evaluate f.ctx f.identity (n₀.getD rule.name 0)).result = r
  cases r with
  | failure e =>
    exact ⟨_, h.close hnames hi hiw hwait rfl (.inr ⟨_, _, hran, .inr (.inl ⟨e, hres, rfl⟩), rfl⟩)
      -- a failure is never written back
      fun _ _ _ _ hnone => by cases hnone⟩
  | success roles =>
    obtain ⟨acts, hj, hw⟩ := h.toJournal.writeBack rule s.now roles
    have hacts : ∀ a ∈ acts, a.name = rule.name := by
      rcases hw with ⟨rfl, -⟩ | ⟨a, rfl⟩ <;> simp [BranchAct.name]
    have hm := h.append hnames hi hacts hj
    have hself : actsOf rule.name (log ++ acts) = actsOf rule.name log ++ acts := by
      rw [actsOf_append, actsOf_self hacts]
    refine ⟨_, hm.close hnames hi hiw hwait rfl (.inr ⟨_, acts ++ [_], hran,
      .inl ⟨roles, hres, ?_⟩, by rw [hself, List.append_assoc]⟩) ?_⟩
    · rcases hw with ⟨rfl, -⟩ | ⟨a, rfl⟩
      · exact .inl rfl
      · exact .inr ⟨s.now, a, rfl⟩
    · intro rule' n' hrun hname _ hnowrite
      rcases hw with ⟨rfl, hdue⟩ | ⟨a, rfl⟩
      · -- no write-back: it was not due for the branch's rule
        rw [List.append_nil] at hrun
        obtain ⟨rfl, -⟩ := hran.run_eq hrun hname
        rcases hdue with hen | hcache | hstrong | ⟨b, hb, hf⟩
        · exact .inl hen
        · exact .inr (.inl hcache)
        · exact .inr (.inr (.inl hstrong))
        · exact .inr (.inr (.inr ⟨b, by simpa using hb, hf⟩))
      · rcases List.mem_append.mp hrun with hrun | hrun
        · obtain ⟨rfl, -⟩ := hran.run_eq hrun hname
          exact absurd (List.mem_append_right _ (List.mem_singleton_self _))
            (hnowrite s.now roles a)
        · simp at hrun

/-- Starting a branch that has done nothing yet: it reads the cache when the read is due and closes
on a hit; otherwise it runs its predicate once, given the count the fan-out started with, and then
finishes at once, times out at a deadline of no time, or goes to sleep on its first pause. -/
theorem Midway.start (h : Midway f c₀ n₀ rules s log i) (hnames : (rules.map Rule.name).Nodup)
    {rule : Rule} (hi : rules[i]? = some rule) (hiw : i ∉ s.waiting)
    (hwait : ∀ w ∈ s.waiting, s.phases[w]? = some .queued) (hnone : actsOf rule.name log = []) :
    ∃ log', Accounts f c₀ n₀ rules (Schedule.start f.kind rules s i) log' := by
  obtain ⟨acts, hj, hacts, hlaunch⟩ := h.toJournal.startBranch rule s.now hnone
  have hm := h.append hnames hi hacts hj
  have hself : actsOf rule.name (log ++ acts) = acts := by
    rw [actsOf_append, hnone, actsOf_self hacts, List.nil_append]
  unfold Schedule.start
  simp only [hi, kind_start]
  generalize f.startBranch rule s.now s.shared = st at hlaunch hm ⊢
  obtain ⟨launch, sh⟩ := st
  dsimp only at hlaunch hm ⊢
  rcases hlaunch with ⟨roles, rfl, rfl⟩ | ⟨ps, rfl, hran⟩
  · -- a hit: the branch closes with the cached roles, having run nothing
    refine ⟨_, hm.close hnames hi hiw hwait rfl (.inl ⟨s.now, roles, by rw [hself]; rfl⟩) ?_⟩
    intro rule' n' hrun' hname
    have hmem : BranchAct.run rule' n' ∈ actsOf rule.name (log ++ [.read rule s.now (.ok (.hit roles))]) :=
      List.mem_filter.mpr ⟨hrun', by simp [BranchAct.name, hname]⟩
    rw [hself] at hmem
    simp at hmem
  rw [← hself] at hran
  -- the pauses that take time, and the deadline, decide whether the branch ends now or sleeps
  rcases ps with _ | ⟨k, rest⟩
  · exact hm.finish hnames hi hiw hwait hran
  rcases hdl : f.kind.deadline with _ | ⟨_ | d, late⟩
  · exact ⟨_, (hm.setTimer _ i).pause hi
      ⟨rfl, fun _ _ hdl' => (Option.some_ne_none _ hdl'.symm).elim, hran⟩⟩
  · obtain ⟨hlimit, rfl⟩ := f.kind_deadline_eq_some.mp hdl
    exact ⟨_, hm.timeOut hnames hi hiw hwait hran hlimit⟩
  · obtain ⟨hlimit, rfl⟩ := f.kind_deadline_eq_some.mp hdl
    refine ⟨_, ((hm.setTimer _ i).setTimer _ i).pause hi ⟨rfl, fun at_ o hdl' => ?_, hran⟩⟩
    cases hdl'
    exact ⟨d + 1, hlimit, rfl⟩

/-- The accounts of a fan-out hold of any state with the same phases, shared state and
outcomes: the ready list, the timers, the clock and the permits are no part of them. -/
theorem Accounts.congr (h : Accounts f c₀ n₀ rules s log)
    {s' : Schedule FanOutShared RuleResult BranchOutcome} (hph : s'.phases = s.phases)
    (hsh : s'.shared = s.shared) (hout : s'.outcomes = s.outcomes) :
    Accounts f c₀ n₀ rules s' log :=
  ⟨hsh ▸ hout ▸ h.toJournal, h.named, fun j rj p hj hq => h.told j rj p hj (hph ▸ hq)⟩

theorem Accounts.midwayAt (h : Accounts f c₀ n₀ rules s log)
    (s' : Schedule FanOutShared RuleResult BranchOutcome) (hph : s'.phases = s.phases)
    (hsh : s'.shared = s.shared) (hout : s'.outcomes = s.outcomes) (i : Nat) :
    Midway f c₀ n₀ rules s' log i :=
  (h.congr hph hsh hout).midway i

end Branch

/-! ## One step, and a whole run -/

section Run

variable {s : Schedule FanOutShared RuleResult BranchOutcome} {log : List BranchAct} {cap : Nat}

/-- One step of a branch taken off the ready list keeps the fan-out told. -/
theorem Accounts.poll (h : Accounts f c₀ n₀ rules s log) (hp : Schedule.Progress rules cap s)
    (hnames : (rules.map Rule.name).Nodup) (i : Nat) (rest : List Nat) :
    ∃ log', Accounts f c₀ n₀ rules (Schedule.poll f.kind rules { s with ready := rest } i) log' := by
  have hwait : ∀ w ∈ s.waiting, s.phases[w]? = some .queued := fun w hw => (hp.queued w).mpr hw
  have hiw : ∀ q, s.phases[i]? = some q → q ≠ .queued → i ∉ s.waiting := fun q hq hne hw => by
    rw [(hp.queued i).mpr hw] at hq
    exact hne (Option.some.inj hq).symm
  rcases Schedule.poll_cases f.kind rules { s with ready := rest } i with ⟨-, heq⟩ |
      ⟨hph, -, heq⟩ | ⟨hph, -, heq⟩ | ⟨hph, heq⟩ | ⟨due, more, dl, res, hph, hpause⟩
  · -- nothing happens
    rw [heq]
    exact ⟨log, h.congr rfl rfl rfl⟩
  · -- a new branch takes a free permit and starts
    rw [heq]
    obtain ⟨rule, hr⟩ := hp.branch_of_phase hph
    exact (h.midwayAt { s with ready := rest, permits := s.permits - 1 } rfl rfl rfl i).start
      hnames hr (hiw _ hph (by simp)) hwait (h.told i rule .fresh hr hph)
  · -- a new branch waits for a permit
    rw [heq]
    refine ⟨log, h.toJournal, h.named, fun j rj q hj hq => ?_⟩
    simp only [Schedule.setPhase] at hq
    by_cases hji : j = i
    · rw [hji] at hj hq
      have hlt : i < s.phases.length := by simpa using (List.getElem?_eq_some_iff.mp hq).1
      rw [List.getElem?_set_self hlt, Option.some.injEq] at hq
      rw [← hq]
      exact h.told i rj .fresh hj hph
    · rw [List.getElem?_set_ne (Ne.symm hji)] at hq
      exact h.told j rj q hj hq
  · -- an admitted branch starts
    rw [heq]
    obtain ⟨rule, hr⟩ := hp.branch_of_phase hph
    exact (h.midwayAt { s with ready := rest } rfl rfl rfl i).start hnames hr
      (hiw _ hph (by simp)) hwait (h.told i rule .admitted hr hph)
  · obtain ⟨rule, hr⟩ := hp.branch_of_phase hph
    obtain ⟨hres, hdl, hran⟩ := h.told i rule _ hr hph
    have hm := h.midwayAt { s with ready := rest } rfl rfl rfl i
    have hiw' := hiw _ hph (by simp)
    rcases hpause with ⟨-, -, heq⟩ | ⟨at_, o, hdl', -, -, heq⟩ | ⟨k, more', -, -, -, heq⟩ |
        ⟨-, -, heq⟩ <;> rw [heq]
    · -- the branch's pauses are over: it finishes with its run's result
      rw [hres]
      exact hm.finish hnames hr hiw' hwait hran
    · -- the deadline has passed: the branch closes timed out
      obtain ⟨d, hd, rfl⟩ := hdl at_ o hdl'
      exact ⟨_, hm.timeOut hnames hr hiw' hwait hran hd⟩
    · -- the branch pauses again, with the same run and deadline
      exact ⟨log, (hm.setTimer _ i).pause hr ⟨hres, hdl, hran⟩⟩
    · exact ⟨log, h.congr rfl rfl rfl⟩

/-- Firing timers moves the clock and wakes branches; nothing of the accounts changes. -/
theorem Accounts.fire (h : Accounts f c₀ n₀ rules s log) : Accounts f c₀ n₀ rules s.fire log := by
  unfold Schedule.fire
  split
  · exact h
  · exact h.congr rfl rfl rfl

/-- A whole run from a told state with the scheduler's invariant ends told. -/
theorem Accounts.runFor (hnames : (rules.map Rule.name).Nodup) :
    ∀ (fuel : Nat) {s : Schedule FanOutShared RuleResult BranchOutcome} {log : List BranchAct},
      Schedule.Progress rules cap s → Accounts f c₀ n₀ rules s log →
      ∃ log', Accounts f c₀ n₀ rules (Schedule.runFor f.kind rules fuel s) log'
  | 0, _, log, _, h => ⟨log, h⟩
  | fuel + 1, s, _, hp, h => by
    unfold Schedule.runFor
    split
    · rename_i i rest hready
      obtain ⟨log', h'⟩ := h.poll hp hnames i rest
      exact Accounts.runFor hnames fuel (hp.poll f.kind hready).1 h'
    · split
      · exact ⟨_, h⟩
      · rename_i _ htimers
        have hne : s.timers ≠ [] := fun he => htimers (by simp [he])
        exact Accounts.runFor hnames fuel (hp.fire f.kind hne).1 h.fire

end Run

/-- A fan-out about to start is told by no acts. -/
theorem accounts_initial (now : Nat) :
    Accounts f c₀ n₀ rules (Schedule.initial rules f.permits now ⟨c₀, false, n₀⟩) [] := by
  refine ⟨⟨.nil, fun _ _ hk => by simp at hk, by simp [Schedule.initial], rfl,
    by simp [Schedule.initial]⟩, by simp,
    fun j rule p _ hp => ?_⟩
  simp only [Schedule.initial, List.getElem?_map, Option.map_eq_some_iff] at hp
  obtain ⟨_, -, rfl⟩ := hp
  rfl

/-- Every run of a fan-out whose rules have distinct names is told by a list of acts, in which
every rule's branch has finished its story. -/
theorem run_accounts (hnames : (rules.map Rule.name).Nodup) (now : Nat) :
    ∃ log, Accounts f c₀ n₀ rules (f.run rules now ⟨c₀, false, n₀⟩) log ∧
      ∀ (i : Nat) rule, rules[i]? = some rule →
        f.Told (n₀.getD rule.name 0) rule .finished (actsOf rule.name log) := by
  obtain ⟨log, h⟩ := Accounts.runFor hnames (Schedule.stepBound f.kind rules)
    (Schedule.progress_initial f.permits now ⟨c₀, false, n₀⟩) (accounts_initial now)
  refine ⟨log, h, fun i rule hi => h.told i rule .finished hi ?_⟩
  exact Schedule.run_finishes f.kind f.permits now _ i (List.getElem?_eq_some_iff.mp hi).1

end FanOut

end RoleSync
