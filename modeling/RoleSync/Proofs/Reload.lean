import RoleSync.Proofs.StandardRoles
import RoleSync.Proofs.StrongRules
import RoleSync.Proofs.CacheIsolation
/-!
Which rulebook the roles of a resolution come from. A manager reads its rulebook once per
resolution, and each branch runs the rule of that snapshot. But a branch reads the cache first,
the cache is keyed by the text `rule:user` alone, and a reload leaves it as it is. So a role set
that a resolution attributes to a rule was given by that rule of the snapshot it read, or was
served from the cache: then some rule of a snapshot the manager held, now or before, gave it,
under a rule name and a user whose entry text is the same. A rule of a later snapshot never
contributes, but an earlier one may (`cached_roles_outlive_a_reload`).

The invariant is on the cache (`RuleCache.Produced`): every entry reads back as a role set that
one of the given rules gave, stored under that rule's key. A branch writes back only what its
own rule gave, so every act of a fan-out keeps the invariant (`Schedule.provenance_laws`), and
so does every step of a manager, for the rules of the snapshots it held
(`Manager.after_produced`). As for the standard roles, the cache is in memory or absent.

Main statement: `resolutions_serve_held_snapshots`. When no rule name holds a `:` and no reload
changed a rule under a name the current snapshot keeps, every such role set comes from the
current snapshot (`resolutions_read_their_snapshot`).
-/

namespace RoleSync

set_option autoImplicit false

/-- A role set that some evaluation of a rule gives, member for member. -/
def Rule.Gives (r : Rule) (roles : NameSet) : Prop :=
  ∃ ctx identity n given, (r.evaluate ctx identity n).result = .success given ∧ roles.Equiv given

theorem Rule.gives_of_evaluate {r : Rule} {ctx : Context} {identity : Option String} {n : Nat}
    {roles : NameSet} (h : (r.evaluate ctx identity n).result = .success roles) : r.Gives roles :=
  ⟨ctx, identity, n, roles, h, .rfl⟩

/-- The stored form of a role set an evaluation gave reads back as that set. -/
theorem decode_encode_of_evaluate {r : Rule} {ctx : Context} {identity : Option String}
    {n : Nat} {roles read : NameSet} (h : (r.evaluate ctx identity n).result = .success roles)
    (hread : RuleCache.decodeMembers (RuleCache.encodeRoles roles) = .hit read) :
    read.Equiv roles := by
  have hn : emptySetMember ∉ roles := by
    rw [Std.TreeSet.mem_iff_contains, (Rule.acceptable_of_evaluate h).contains_empty]
    exact Bool.false_ne_true
  obtain ⟨read', hdec, hequiv⟩ := RuleCache.decode_encode hn
  rw [hread] at hdec
  cases hdec
  exact hequiv

/-! ## The invariant of the cache -/

namespace RuleCache

/-- An entry that reads back only as a role set one of the given rules gave, stored under that
rule's key for some user. -/
def EntryProduced (Past : Rule → Prop) (c : RuleCache) (k : String) (e : MemoryEntry) : Prop :=
  ∀ roles, decodeMembers e.members = .hit roles →
    ∃ r u, Past r ∧ k = c.entryKey r.name u ∧ r.Gives roles

/-- A cache whose entries the given rules produced: it keeps no database store, and every entry
of its in-memory store reads back as a role set one of the rules gave, under that rule's key. -/
structure Produced (Past : Rule → Prop) (c : RuleCache) : Prop where
  offDatabase : ∀ d w, c.store ≠ some (.database d w)
  entries : c.Holds (EntryProduced Past c)

variable {Past : Rule → Prop} {c : RuleCache}

theorem Produced.mono {Past' : Rule → Prop} (h : c.Produced Past) (hp : ∀ r, Past r → Past' r) :
    c.Produced Past' := by
  refine ⟨h.offDatabase, fun mem f hs k e he roles hdec => ?_⟩
  obtain ⟨r, u, hr, hk, hg⟩ := h.entries mem f hs k e he roles hdec
  exact ⟨r, u, hp r hr, hk, hg⟩

/-- An empty in-memory store holds nothing, so any rules produced it. -/
theorem produced_empty (f : Faults) (keyPrefix : String) :
    (⟨some (.memory {} f), keyPrefix⟩ : RuleCache).Produced Past :=
  ⟨(fun _ _ hd => by cases hd), fun mem f' hs k e he => by cases hs; simp at he⟩

/-- A new in-memory store whose entries are old ones or produced keeps the invariant, whatever
failures it plans. -/
theorem Produced.withMemory (h : c.Produced Past) {mem mem' : MemoryStore} {f f' : Faults}
    (hc : c.store = some (.memory mem f))
    (hw : ∀ (k : String) (e : MemoryEntry), mem'.entries[k]? = some e →
      mem.entries[k]? = some e ∨ EntryProduced Past c k e) :
    ({ c with store := some (.memory mem' f') } : RuleCache).Produced Past :=
  ⟨(fun _ _ hd => by cases hd), h.entries.withStore hc hw⟩

theorem Produced.tryGet (h : c.Produced Past) (now : Nat) (rule : Rule) (user : String) :
    (c.tryGet now rule user).2.Produced Past := by
  cases hs : c.store with
  | none => rwa [tryGet_disabled hs]
  | some s =>
    cases s with
    | memory mem f =>
      obtain ⟨mem', f', heq, hw⟩ := tryGet_onMemory now rule user hs
      rw [heq]
      exact h.withMemory hs (fun k e he => .inl (hw k e he))
    | database d w => exact absurd hs (h.offDatabase d w)

/-- What a read finds, one of the rules gave, under a rule name and user whose entry text is the
read's. -/
theorem Produced.hit (h : c.Produced Past) {now : Nat} {rule : Rule} {user : String}
    {roles : NameSet} (hr : (c.tryGet now rule user).1 = .ok (.hit roles)) :
    ∃ r u, Past r ∧ r.name ++ ":" ++ u = rule.name ++ ":" ++ user ∧ r.Gives roles := by
  cases hs : c.store with
  | none =>
    rw [tryGet_disabled hs] at hr
    cases hr
  | some s =>
    cases s with
    | memory mem f =>
      obtain ⟨e, he, -, hdec⟩ := hit_of_tryGet hs hr
      obtain ⟨r, u, hp, hk, hg⟩ := h.entries mem f hs _ e he roles hdec
      exact ⟨r, u, hp, ((entryKey_eq_iff_text c _ _ _ _).mp hk).symm, hg⟩
    | database d w => exact absurd hs (h.offDatabase d w)

/-- Writing what an evaluation of one of the rules gave keeps the invariant. -/
theorem Produced.put (h : c.Produced Past) (now : Nat) (rule : Rule) (user : String)
    {roles : NameSet} (hp : Past rule) {ctx : Context} {identity : Option String} {n : Nat}
    (hev : (rule.evaluate ctx identity n).result = .success roles) :
    (c.put now rule user roles).2.Produced Past := by
  cases hs : c.store with
  | none => rwa [put_disabled hs]
  | some s =>
    cases s with
    | memory mem f =>
      obtain ⟨mem', f', heq, hw⟩ := put_onMemory now rule user roles hs
      rw [heq]
      refine h.withMemory hs (fun k e he => ?_)
      rcases hw k e he with hold | ⟨rfl, rfl⟩
      · exact .inl hold
      · -- the new entry reads back as the set the rule gave, under the rule's own key
        refine .inr fun read hread => ⟨rule, user, hp, rfl, ctx, identity, n, roles, hev, ?_⟩
        exact decode_encode_of_evaluate hev hread
    | database d w => exact absurd hs (h.offDatabase d w)

theorem Produced.invalidateUser (h : c.Produced Past) (user : String) :
    (c.invalidateUser user).2.Produced Past := by
  cases hs : c.store with
  | none => rwa [invalidateUser_disabled hs]
  | some s =>
    cases s with
    | memory mem f =>
      obtain ⟨mem', f', heq, hw⟩ := invalidateUser_onMemory user hs
      rw [heq]
      exact h.withMemory hs (fun k e he => .inl (hw k e he))
    | database d w => exact absurd hs (h.offDatabase d w)

end RuleCache

/-! ## The fan-out -/

namespace FanOut

variable (f : FanOut) (rules : List Rule) (t₀ : Nat) (Past : Rule → Prop)

/-- A pending result of a branch is one that some evaluation of its rule gives. -/
def Evaluated (i : Nat) (r : RuleResult) : Prop :=
  ∀ rule, rules[i]? = some rule → ∃ n, (rule.evaluate f.ctx f.identity n).result = r

/-- An outcome is a branch rule's, and a success holds what that rule gave or, from the cache,
what one of the given rules gave under the same entry text. -/
def Sourced (o : BranchOutcome) : Prop :=
  ∃ rule ∈ rules, rule.name = o.rule ∧ (o.failure = none →
    rule.Gives o.roles ∨ ∃ r u, Past r ∧ r.name ++ ":" ++ u = o.rule ++ ":" ++ f.user ∧ r.Gives o.roles)

/-- The laws of a fan-out whose rules are among the given ones, over a cache they produced. -/
theorem provenance_laws (hpast : ∀ rule ∈ rules, Past rule) :
    Laws f rules t₀ (RuleCache.Produced Past) (Evaluated f rules) (Sourced f rules Past) where
  read {i rule c} now hi _ hc := by
    refine ⟨hc.tryGet now rule f.user, fun roles hhit => ?_⟩
    exact ⟨rule, List.mem_of_getElem? hi, rfl, fun _ => .inr (hc.hit hhit)⟩
  evaluate {i rule} n hi := by
    intro rule' hi'
    obtain rfl : rule = rule' := Option.some.inj (hi.symm.trans hi')
    exact ⟨n, rfl⟩
  failed {i rule} e hi := ⟨rule, List.mem_of_getElem? hi, rfl, fun h => by cases h⟩
  succeeded {i rule roles} hi hR := by
    obtain ⟨n, hn⟩ := hR rule hi
    exact ⟨rule, List.mem_of_getElem? hi, rfl, fun _ => .inl (Rule.gives_of_evaluate hn)⟩
  write {i rule roles c} now hi hR hc _ := by
    obtain ⟨n, hn⟩ := hR rule hi
    exact hc.put now rule f.user (hpast rule (List.mem_of_getElem? hi)) hn

end FanOut

/-! ## Resolutions and steps -/

namespace Manager

/-- Where the role sets that resolutions of this manager attribute to rules come from: each
outcome is a rule of the current snapshot's, and a success holds what that rule gave or, served
from the cache, what a rule of `Past` gave under a rule name and user with the same entry text. -/
def Provenant (Past : Rule → Prop) (m : Manager) : Prop :=
  ∀ user optedIn ctx communities, ∀ o ∈ (m.fanOut user optedIn ctx communities).2.1.outcomes,
    ∃ rule ∈ m.rulebook.toList, rule.name = o.rule ∧ (o.failure = none →
      rule.Gives o.roles ∨
        ∃ r u, Past r ∧ r.name ++ ":" ++ u = o.rule ++ ":" ++ user ∧ r.Gives o.roles)

/-- The rules of the snapshots a manager holds along steps: its own and each one a step
installs. -/
def Held (m : Manager) (steps : List ManagerStep) (r : Rule) : Prop :=
  ∃ pre, pre <+: steps ∧ r ∈ (m.after pre).rulebook.toList

variable {Past : Rule → Prop} (m : Manager)

theorem mem_toList_of_relevance {communities : NameSet} {r : Rule}
    (hr : r ∈ (m.relevance communities).toList.map (·.rule)) : r ∈ m.rulebook.toList := by
  obtain ⟨k, hk⟩ := Relevance.mem_rules hr
  exact mem_values_iff.mpr ⟨k, hk⟩

theorem fanOut_keeps_produced (hpast : ∀ r ∈ m.rulebook.toList, Past r)
    (hc : m.cache.Produced Past) (user : String) (optedIn : Bool) (ctx : Context)
    (communities : NameSet) :
    (m.fanOut user optedIn ctx communities).2.1.Keeps m.clock (fun sh => sh.cache.Produced Past)
      (FanOut.Evaluated ⟨user, ctx, (m.disclose user optedIn (m.relevance communities)).1.1,
        m.config.ruleTimeout, m.config.maxParallelism⟩
        ((m.relevance communities).toList.map (·.rule)))
      (FanOut.Sourced ⟨user, ctx, (m.disclose user optedIn (m.relevance communities)).1.1,
        m.config.ruleTimeout, m.config.maxParallelism⟩
        ((m.relevance communities).toList.map (·.rule)) Past) := by
  rw [fanOut_eq]
  exact FanOut.run_keeps
    (FanOut.provenance_laws _ _ _ _ fun r hr => hpast r (m.mem_toList_of_relevance hr)) hc

/-- A manager whose cache the rules of `Past` produced, and whose snapshot's rules are among
them, resolves with role sets from those rules. -/
theorem provenant_of_produced (hpast : ∀ r ∈ m.rulebook.toList, Past r)
    (hc : m.cache.Produced Past) : m.Provenant Past := by
  intro user optedIn ctx communities o ho
  obtain ⟨rule, hr, hname, hsrc⟩ :=
    (m.fanOut_keeps_produced hpast hc user optedIn ctx communities).outcomes o ho
  exact ⟨rule, m.mem_toList_of_relevance hr, hname, hsrc⟩

theorem resolveRoles_produced (hpast : ∀ r ∈ m.rulebook.toList, Past r)
    (hc : m.cache.Produced Past) (user : String) (optedIn : Bool) (ctx : Context)
    (communities : NameSet) : (m.resolveRoles user optedIn ctx communities).2.cache.Produced Past := by
  rw [resolveRoles_cache]
  exact (m.fanOut_keeps_produced hpast hc user optedIn ctx communities).shared

theorem resolveAndSync_produced (hpast : ∀ r ∈ m.rulebook.toList, Past r)
    (hc : m.cache.Produced Past) (req : SyncRequest) :
    (m.resolveAndSync req).2.cache.Produced Past := by
  rcases m.resolveAndSync_cases req with ⟨-, hc'⟩ | ⟨ctx, cs, -, hc'⟩
  · rwa [hc']
  · rw [hc']
    exact (m.recordPermissionCheck req.user).resolveRoles_produced hpast hc req.user req.optedIn
      ctx cs

theorem invalidateUser_snd (user : String) :
    (m.invalidateUser user).2 = { m with cache := (m.cache.invalidateUser user).2 } := by
  unfold invalidateUser
  rcases m.cache.invalidateUser user with ⟨r, c⟩
  rfl

/-- One step keeps the cache produced by rules that include the snapshot's. A reload changes
the snapshot and leaves the cache. -/
theorem step_produced (hpast : ∀ r ∈ m.rulebook.toList, Past r) (hc : m.cache.Produced Past)
    (st : ManagerStep) : (m.step st).2.cache.Produced Past := by
  cases st with
  | sync req => exact m.resolveAndSync_produced hpast hc req
  | refresh req =>
    rcases m.refreshUser_cases req with ⟨e, -, hc'⟩ | ⟨report, -, -, hm⟩
    · simp only [step]
      rw [hc']
      exact hc.invalidateUser req.user
    · simp only [step]
      rw [hm]
      exact resolveAndSync_produced { m with cache := (m.cache.invalidateUser req.user).2 } hpast
        (hc.invalidateUser req.user) req
  | resolveRoles user optedIn name disc ids =>
    exact m.resolveRoles_produced hpast hc user optedIn ⟨user, name, disc⟩ (NameSet.ofList ids)
  | invalidate user =>
    simp only [step]
    rw [invalidateUser_snd]
    exact hc.invalidateUser user
  | collectMemberships user => exact hc
  | advance ms => exact hc
  | replaceRulebook rules check =>
    simp only [step]
    split <;> exact hc
  | setPermission v user => cases user <;> exact hc
  | setPlatform u => exact hc
  | setCacheFaults faults =>
    -- new failures for an in-memory store leave its entries as they are
    simp only [step]
    split
    · rename_i mem _ hs
      exact hc.withMemory hs (fun _ _ he => .inl he)
    · exact hc
  | cacheState user =>
    simp only [step]
    split <;> exact hc

/-- Along steps, the cache stays produced by rules that include every snapshot held. -/
theorem after_produced :
    ∀ (steps : List ManagerStep) (m : Manager), m.cache.Produced Past →
      (∀ pre, pre <+: steps → ∀ r ∈ (m.after pre).rulebook.toList, Past r) →
      (m.after steps).cache.Produced Past
  | [], _, hc, _ => hc
  | st :: rest, m, hc, hpast => by
    have hstep := step_produced { m with journal := {} } (hpast [] List.nil_prefix) hc st
    refine after_produced rest (m.record st).2 hstep fun pre hpre => ?_
    exact hpast (st :: pre) (List.cons_prefix_cons.mpr ⟨rfl, hpre⟩)

/-- Along steps from a cache that the first snapshot's rules produced, the cache stays produced
by the rules of the snapshots held, and the current snapshot is one of them. -/
theorem after_held (hc : m.cache.Produced (· ∈ m.rulebook.toList)) (steps : List ManagerStep) :
    (m.after steps).cache.Produced (m.Held steps) ∧
      ∀ r ∈ (m.after steps).rulebook.toList, m.Held steps r := by
  have hheld : ∀ pre, pre <+: steps → ∀ r ∈ (m.after pre).rulebook.toList, m.Held steps r :=
    fun pre hpre r hr => ⟨pre, hpre, hr⟩
  have h₀ : m.cache.Produced (m.Held steps) := hc.mono fun r hr => ⟨[], List.nil_prefix, hr⟩
  exact ⟨after_produced steps m h₀ hheld, hheld steps (List.prefix_refl steps)⟩

end Manager

/-- Whatever steps a manager runs (resolutions, refreshes, reloads of the rulebook, invalidations,
clock advances, and any failures), from a cache that its first snapshot's rules produced: every
resolution of a manager it reaches, or of one that then drops a user's cached results as a
refresh does, attributes each role set to a rule of the snapshot it read; and that rule gave
the set, or a rule of some snapshot held along the way gave it and it was served from the cache
under a rule name and user with the same entry text. No rule of a later snapshot contributes. -/
theorem resolutions_serve_held_snapshots (m : Manager)
    (hc : m.cache.Produced (· ∈ m.rulebook.toList)) (steps : List ManagerStep) :
    (m.after steps).Provenant (m.Held steps) ∧
      ∀ user, ((m.after steps).invalidateUser user).2.Provenant (m.Held steps) := by
  obtain ⟨hafter, hnow⟩ := m.after_held hc steps
  refine ⟨(m.after steps).provenant_of_produced hnow hafter, fun user => ?_⟩
  rw [Manager.invalidateUser_snd]
  exact Manager.provenant_of_produced _ hnow (hafter.invalidateUser user)

/-- The manager of `cached_roles_outlive_a_reload`, before its steps, and the steps. -/
theorem resolutions_serve_held_snapshots_across_a_reload :
    let old : Rule := ⟨"R", .weak, some 60000, .roles ["a"]⟩
    let new : Rule := ⟨"R", .weak, some 60000, .roles ["b"]⟩
    let g : Community := ⟨"G", none, .ofList [("a", "1"), ("b", "2")], ∅⟩
    let m : Manager :=
      { rulebook := ⟨(∅ : Std.TreeMap String Rule compare).insert "R" old, none,
          (KeyedBy.empty Rule.name).insert old⟩
        declarations := .ofList [⟨"a", none, "R"⟩, ⟨"b", none, "R"⟩]
        communities := Community.table [g]
        communitiesKeyed := Community.keyed_table [g]
        cache := ⟨some (.memory {} {}), "rl_"⟩
        config := {}
        gate := {}
        vault := {}
        platform := {}
        notifierDown := false }
    let req : SyncRequest := ⟨"U", false, "Someone", "0001", [("G", true)], true⟩
    let steps : List ManagerStep := [.sync req, .replaceRulebook [new] none, .sync req]
    m.cache.Produced (· ∈ m.rulebook.toList) ∧
      (m.after steps).Provenant (m.Held steps) ∧
      ∀ user, ((m.after steps).invalidateUser user).2.Provenant (m.Held steps) := by
  intro old new g m req steps
  have hc : m.cache.Produced (· ∈ m.rulebook.toList) := RuleCache.produced_empty {} "rl_"
  exact ⟨hc, resolutions_serve_held_snapshots m hc steps⟩

/-- Cutting two entry texts at the ':' after the rule name: when neither rule name holds a ':',
the names agree. -/
theorem name_eq_of_text_eq {n n' u u' : String} (hn : NoColon n) (hn' : NoColon n')
    (h : n ++ ":" ++ u = n' ++ ":" ++ u') : n = n' := by
  have hl := congrArg (fun s : String => s.toList.reverse) h
  simp only [String.toList_append, List.reverse_append] at hl
  -- reversed, the ':' after the rule name is the last one in the text
  have hr : ':' ∉ n.toList.reverse := by rw [List.mem_reverse]; exact hn
  have hr' : ':' ∉ n'.toList.reverse := by rw [List.mem_reverse]; exact hn'
  obtain ⟨-, hrev⟩ := eq_of_append_cons_eq hr hr' (by simpa using hl)
  exact String.toList_inj.mp (List.reverse_inj.mp hrev)

/-- When no rule name of a snapshot held holds a ':', and no snapshot held has another rule
under a name the current snapshot uses, every role set a resolution attributes to a rule was
given by that rule of the snapshot it read. -/
theorem resolutions_read_their_snapshot (m : Manager)
    (hc : m.cache.Produced (· ∈ m.rulebook.toList)) (steps : List ManagerStep)
    (hcolon : ∀ r, m.Held steps r → NoColon r.name)
    (hkept : ∀ r, m.Held steps r → ∀ r' ∈ (m.after steps).rulebook.toList, r'.name = r.name →
      r' = r) :
    ∀ user optedIn ctx communities,
      ∀ o ∈ ((m.after steps).fanOut user optedIn ctx communities).2.1.outcomes, o.failure = none →
        ∃ rule ∈ (m.after steps).rulebook.toList, rule.name = o.rule ∧ rule.Gives o.roles := by
  intro user optedIn ctx communities o ho hok
  obtain ⟨hafter, hnow⟩ := m.after_held hc steps
  obtain ⟨rule, hr, hname, hsrc⟩ :=
    (m.after steps).provenant_of_produced hnow hafter user optedIn ctx communities o ho
  refine ⟨rule, hr, hname, ?_⟩
  rcases hsrc hok with hg | ⟨r, u, hheld, htext, hg⟩
  · exact hg
  · -- a cached set was given under the same rule name, so by the rule the snapshot kept
    have hsame : r.name = rule.name := by
      rw [← hname] at htext
      exact name_eq_of_text_eq (hcolon r hheld) (hcolon rule (hnow rule hr)) htext
    rw [hkept r hheld rule hr hsame.symm]
    exact hg

/-- A weak cacheable rule "R" gives role "a"; a sync caches that for user "U", and the rulebook
is reloaded with a rule "R" that never gives "a". The next resolution still attributes "a" to
"R": the cache served what the earlier snapshot's rule gave. -/
theorem cached_roles_outlive_a_reload :
    let old : Rule := ⟨"R", .weak, some 60000, .roles ["a"]⟩
    let new : Rule := ⟨"R", .weak, some 60000, .roles ["b"]⟩
    let g : Community := ⟨"G", none, .ofList [("a", "1"), ("b", "2")], ∅⟩
    let m : Manager :=
      { rulebook := ⟨(∅ : Std.TreeMap String Rule compare).insert "R" old, none,
          (KeyedBy.empty Rule.name).insert old⟩
        declarations := .ofList [⟨"a", none, "R"⟩, ⟨"b", none, "R"⟩]
        communities := Community.table [g]
        communitiesKeyed := Community.keyed_table [g]
        cache := ⟨some (.memory {} {}), "rl_"⟩
        config := {}
        gate := {}
        vault := {}
        platform := {}
        notifierDown := false }
    let req : SyncRequest := ⟨"U", false, "Someone", "0001", [("G", true)], true⟩
    let reloaded := m.after [.sync req, .replaceRulebook [new] none]
    (∀ r ∈ reloaded.rulebook.toList, r.name = "R" ∧
      ∀ ctx identity n roles, (r.evaluate ctx identity n).result = .success roles → "a" ∉ roles) ∧
      ∃ o ∈ (reloaded.fanOut "U" false ⟨"U", "Someone", "0001"⟩ (.ofList ["G"])).2.1.outcomes,
        o.rule = "R" ∧ "a" ∈ o.roles := by
  intro old new g m req reloaded
  have hins : Rulebook.insertAll ∅ [new] =
      .ok ((∅ : Std.TreeMap String Rule compare).insert "R" new) := by
    have hblank : Text.isBlank "R" = false := by decide +kernel
    simp only [Rulebook.insertAll, new, hblank, Std.TreeMap.contains_emptyc,
      Bool.false_eq_true, if_false]
  -- the reload installs the table holding the new rule alone
  obtain ⟨b, hbuild, hrules⟩ : ∃ b, Rulebook.build [new] none = .ok b ∧
      b.rules = (∅ : Std.TreeMap String Rule compare).insert "R" new := by
    unfold Rulebook.build
    split
    · rename_i t h
      rw [hins] at h
      cases h
      exact ⟨_, rfl, rfl⟩
    · rename_i h
      rw [hins] at h
      cases h
  have hbook : reloaded.rulebook.toList = [new] := by
    simp only [reloaded, Manager.after, List.foldl_cons, List.foldl_nil, Manager.record,
      Manager.step, hbuild]
    simp only [Rulebook.toList, hrules]
    rfl
  refine ⟨fun r hr => ?_, by decide +kernel⟩
  rw [hbook, List.mem_singleton] at hr
  subst hr
  refine ⟨rfl, fun ctx identity n roles h => ?_⟩
  -- the new rule gives "b" and nothing else
  have hb : (new.evaluate ctx identity n).result = .success (NameSet.ofList ["b"]) := rfl
  rw [hb] at h
  cases h
  simp [RuleCache.mem_ofList_iff]

end RoleSync
