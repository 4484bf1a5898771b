import RoleSync.Proofs.FanOut
import RoleSync.Proofs.CacheContents
import RoleSync.Proofs.Resolution
/-!
The standard roles of every resolution. A rule's role set is accepted only when no name in it is
blank or standard (`Acceptable`), but a cache hit is served without that check. What makes the
two agree is an invariant of the cache contents: every entry the manager's cache holds reads back
as an acceptable role set (`RuleCache.Clean`). A branch writes back only the roles its evaluation
produced, which passed the check, and every other act on the cache drops entries or changes the
failures it plans.

So the invariant holds of every manager a run of steps reaches from a clean cache, and every
resolution a step reports has "_known" and has "_identified" exactly when the identity was
disclosed: the outcomes of the fan-out add neither (`reachable_managers_keep_standard_roles`).
A branch's write-back is never refused by the cache for an empty role name, since an empty name
is blank; a refused value can only be a failure the store was set to give.

The manager is driven with an in-memory store, with or without planned failures, or with no
store; the invariant asks for no database store.
-/

namespace RoleSync

set_option autoImplicit false

/-! ## Acceptable role sets -/

/-- A role set a rule may produce: no name in it is blank once trimmed, and none is the name of
a standard role. -/
def Acceptable (roles : NameSet) : Prop :=
  ∀ x ∈ roles, Text.trim x ≠ "" ∧ ∀ r : StandardRole, x ≠ r.name

theorem isBadRoleName_eq_false_iff (x : String) :
    isBadRoleName x = false ↔ Text.trim x ≠ "" ∧ ∀ r : StandardRole, x ≠ r.name := by
  unfold isBadRoleName
  rw [Bool.or_eq_false_iff]
  apply and_congr
  · rw [← Bool.not_eq_true, Text.isBlank_iff_trim_eq_empty]
  · rw [← Bool.not_eq_true, isStandardName_iff]
    constructor
    · rintro h (_ | _) rfl
      · exact h (.inl rfl)
      · exact h (.inr rfl)
    · rintro h (rfl | rfl)
      · exact h .known rfl
      · exact h .identified rfl

theorem acceptable_empty : Acceptable ∅ :=
  fun _ hx => absurd hx Std.TreeSet.not_mem_emptyc

/-- The member that stands for an empty role set is blank, so no acceptable set holds it. -/
theorem Acceptable.contains_empty {roles : NameSet} (h : Acceptable roles) :
    roles.contains emptySetMember = false := by
  rw [Bool.eq_false_iff, ne_eq, ← Std.TreeSet.mem_iff_contains]
  exact fun hx => (h _ hx).1 rfl

/-- The check of a produced role set accepts only acceptable sets. -/
theorem checkRoles_acceptable {roles accepted : NameSet}
    (h : checkRoles roles = .success accepted) : Acceptable accepted := by
  unfold checkRoles at h
  split at h
  · rename_i hfind
    cases h
    intro x hx
    rw [← isBadRoleName_eq_false_iff]
    have hnot := List.find?_eq_none.mp hfind x (Std.TreeSet.mem_toList.mpr hx)
    simpa using hnot
  · cases h

/-- What a result may hold: a success is an acceptable role set. -/
def RuleResult.Acceptable : RuleResult → Prop
  | .success roles => RoleSync.Acceptable roles
  | .failure _ => True

/-- Every evaluation's result is acceptable: a strong rule without the identity produces no
roles, and every other result passed the check. -/
theorem Rule.evaluate_acceptable (r : Rule) (ctx : Context) (identity : Option String)
    (n : Nat) : (r.evaluate ctx identity n).result.Acceptable := by
  unfold Rule.evaluate
  -- the result of a run is its ending's; only a produced role set can be a success
  have hend : ∀ e : Ending, e.toResult.Acceptable := by
    intro e
    cases e with
    | roles names =>
      change (checkRoles (NameSet.ofList names)).Acceptable
      cases h : checkRoles (NameSet.ofList names) with
      | success accepted => exact checkRoles_acceptable h
      | failure _ => trivial
    | error _ => trivial
    | panic _ => trivial
  split
  · exact acceptable_empty
  · exact hend _
  · exact hend _

theorem Rule.acceptable_of_evaluate {r : Rule} {ctx : Context} {identity : Option String}
    {n : Nat} {roles : NameSet} (h : (r.evaluate ctx identity n).result = .success roles) :
    Acceptable roles := by
  have := r.evaluate_acceptable ctx identity n
  rw [h] at this
  exact this

/-! ## The invariant of the cache -/

/-- An entry whose member list reads back only as an acceptable role set. -/
def MemoryEntry.ReadsAcceptable (e : MemoryEntry) : Prop :=
  ∀ roles, RuleCache.decodeMembers e.members = .hit roles → Acceptable roles

namespace RuleCache

/-- The stored form of an acceptable role set reads back as an acceptable set. -/
theorem readsAcceptable_encode {roles : NameSet} (h : Acceptable roles) (expiresAt : Nat) :
    (⟨encodeRoles roles, expiresAt⟩ : MemoryEntry).ReadsAcceptable := by
  intro read hread
  have hn : emptySetMember ∉ roles := by
    rw [Std.TreeSet.mem_iff_contains, h.contains_empty]
    exact Bool.false_ne_true
  obtain ⟨read', hdec, hequiv⟩ := decode_encode hn
  have hsame : read = read' := by
    have := hread.symm.trans hdec
    cases this
    rfl
  subst hsame
  exact fun x hx => h x (hequiv.mem_iff.mp hx)

/-- A clean cache: it keeps no database store, and every entry of its in-memory store reads
back as an acceptable role set. -/
structure Clean (c : RuleCache) : Prop where
  offDatabase : ∀ d w, c.store ≠ some (.database d w)
  entries : c.Holds fun _ e => e.ReadsAcceptable

variable {c : RuleCache}

/-- A new in-memory store whose entries are old ones or read back as acceptable keeps the cache
clean, whatever failures it plans. -/
theorem Clean.withMemory (h : c.Clean) {mem mem' : MemoryStore} {f f' : Faults}
    (hc : c.store = some (.memory mem f))
    (hw : ∀ (k : String) (e : MemoryEntry), mem'.entries[k]? = some e →
      mem.entries[k]? = some e ∨ e.ReadsAcceptable) :
    ({ c with store := some (.memory mem' f') } : RuleCache).Clean :=
  ⟨(fun _ _ hd => by cases hd), h.entries.withStore hc hw⟩

/-- A read keeps the cache clean, and what it finds is acceptable. -/
theorem Clean.tryGet (h : c.Clean) (now : Nat) (rule : Rule) (user : String) :
    (c.tryGet now rule user).2.Clean ∧
      ∀ roles, (c.tryGet now rule user).1 = .ok (.hit roles) → Acceptable roles := by
  cases hs : c.store with
  | none =>
    rw [tryGet_disabled hs]
    exact ⟨h, fun _ hr => by cases hr⟩
  | some s =>
    cases s with
    | memory mem f =>
      obtain ⟨mem', f', heq, hw⟩ := tryGet_onMemory now rule user hs
      refine ⟨?_, fun roles hr => ?_⟩
      · rw [heq]
        exact h.withMemory hs (fun k e he => .inl (hw k e he))
      · obtain ⟨e, he, -, hdec⟩ := hit_of_tryGet hs hr
        exact h.entries mem f hs _ e he roles hdec
    | database d w => exact absurd hs (h.offDatabase d w)

/-- Writing an acceptable role set keeps the cache clean. -/
theorem Clean.put (h : c.Clean) (now : Nat) (rule : Rule) (user : String) {roles : NameSet}
    (hr : Acceptable roles) : (c.put now rule user roles).2.Clean := by
  cases hs : c.store with
  | none =>
    rw [put_disabled hs]
    exact h
  | some s =>
    cases s with
    | memory mem f =>
      obtain ⟨mem', f', heq, hw⟩ := put_onMemory now rule user roles hs
      rw [heq]
      refine h.withMemory hs (fun k e he => ?_)
      rcases hw k e he with hold | ⟨-, rfl⟩
      · exact .inl hold
      · exact .inr (readsAcceptable_encode hr _)
    | database d w => exact absurd hs (h.offDatabase d w)

/-- Invalidating a user keeps the cache clean. -/
theorem Clean.invalidateUser (h : c.Clean) (user : String) :
    (c.invalidateUser user).2.Clean := by
  cases hs : c.store with
  | none =>
    rw [invalidateUser_disabled hs]
    exact h
  | some s =>
    cases s with
    | memory mem f =>
      obtain ⟨mem', f', heq, hw⟩ := invalidateUser_onMemory user hs
      rw [heq]
      exact h.withMemory hs (fun k e he => .inl (hw k e he))
    | database d w => exact absurd hs (h.offDatabase d w)

/-- A database failure is never a refused value. -/
theorem toCacheError_ne_invalidValue (e : DatabaseError) (msg : String) :
    e.toCacheError ≠ .invalidValue msg := by
  cases e <;> simp [DatabaseError.toCacheError]

/-- A write of a role set without the empty member is refused only by a failure that an
in-memory store was set to give for its write or its index update. -/
theorem put_invalidValue_planned {now : Nat} {rule : Rule} {user msg : String} {roles : NameSet}
    (hn : roles.contains emptySetMember = false)
    (h : (c.put now rule user roles).1 = .error (.invalidValue msg)) :
    ∃ mem f, c.store = some (.memory mem f) ∧
      (f.replace = some (.invalidValue msg) ∨ f.indexAdd = some (.invalidValue msg)) := by
  cases hcr : rule.isCacheable
  case false =>
    rw [put_uncacheable now rule user roles hcr] at h
    cases h
  case true =>
  cases hs : c.store with
  | none =>
    rw [put_disabled hs] at h
    cases h
  | some s =>
    cases s with
    | memory mem f =>
      refine ⟨mem, f, rfl, ?_⟩
      cases hr : f.replace with
      | some e =>
        rw [put_replaceFault now rule user roles hs hcr hn hr] at h
        cases h
        exact .inl rfl
      | none =>
        cases hi : f.indexAdd with
        | some e =>
          rw [put_indexFault now rule user roles hs hcr hn hr hi] at h
          cases h
          exact .inr rfl
        | none =>
          rw [put_stored now rule user roles hs hcr hn hr hi] at h
          cases h
    | database d w =>
      -- both calls on the database lift its failures, which are never refused values
      unfold RuleCache.put at h
      rw [hs, hcr] at h
      simp only [hn, Bool.false_eq_true, ↓reduceIte] at h
      rcases hw : CacheFile.replace Sql.engine Text.Json.codec d (w now) (c.entryKey rule.name user)
        (encodeRoles roles) rule.ttl with ⟨_ | _, d'⟩
      · simp only [Store.replaceMembers, hw, Store.onDatabase_error, Except.error.injEq] at h
        exact absurd h (toCacheError_ne_invalidValue _ msg)
      · rcases hx : CacheFile.indexAdd Sql.engine d' (c.indexKey user) (c.entryKey rule.name user)
          with ⟨_ | _, d''⟩
        · simp only [Store.replaceMembers, hw, Store.onDatabase_ok, Store.indexAdd, hx,
            Store.onDatabase_error, Except.error.injEq] at h
          exact absurd h (toCacheError_ne_invalidValue _ msg)
        · simp only [Store.replaceMembers, hw, Store.onDatabase_ok, Store.indexAdd, hx,
            reduceCtorEq] at h

end RuleCache

/-! ## The fan-out keeps the cache clean -/

namespace FanOut

variable (f : FanOut) (rules : List Rule) (t₀ : Nat)

/-- The laws of a fan-out over a clean cache: a read keeps it clean and finds acceptable roles,
every evaluation is acceptable, and a write-back stores an acceptable success. -/
theorem clean_laws :
    Laws f rules t₀ RuleCache.Clean (fun _ r => r.Acceptable) (fun o => Acceptable o.roles) where
  read now _ _ hc := hc.tryGet now _ f.user
  evaluate n _ := Rule.evaluate_acceptable _ f.ctx f.identity n
  failed _ _ := acceptable_empty
  succeeded _ hR := hR
  write now _ hR hc _ := hc.put now _ f.user hR

end FanOut

/-! ## Resolutions and steps -/

/-- The standard roles of a resolution: "_known" always, and "_identified" exactly when the
identity was disclosed. -/
def ResolvedRoles.Standard (r : ResolvedRoles) : Prop :=
  StandardRole.known.name ∈ r.roles ∧
    (StandardRole.identified.name ∈ r.roles ↔ r.identity = .disclosed)

/-- The resolution a report gives, if it synced. -/
def Report.resolution? : Report → Option ResolvedRoles
  | .denied _ _ => none
  | .synced _ r _ => some r

/-- The resolution a step answered with: a sync's, a refresh's that synced, or a computation of
roles. -/
def ManagerAnswer.resolution? : ManagerAnswer → Option ResolvedRoles
  | .report r => r.resolution?
  | .refreshed (.ok r) => r.resolution?
  | .resolved r => some r
  | _ => none

theorem Disclosure.isDisclosed_iff (d : Disclosure) : d.isDisclosed = true ↔ d = .disclosed := by
  cases d <;> simp [Disclosure.isDisclosed]

namespace Manager

/-- The manager after running steps in order. -/
def after (m : Manager) (steps : List ManagerStep) : Manager :=
  steps.foldl (fun m st => (m.record st).2) m

variable (m : Manager) (user : String) (optedIn : Bool) (ctx : Context) (communities : NameSet)

/-- The fan-out of a resolution from a clean cache keeps it clean and records acceptable
outcomes. -/
theorem fanOut_keeps_clean (h : m.cache.Clean) :
    (m.fanOut user optedIn ctx communities).2.1.Keeps m.clock (fun sh => sh.cache.Clean)
      (fun _ r => r.Acceptable) (fun o => Acceptable o.roles) := by
  rw [fanOut_eq]
  exact FanOut.run_keeps (FanOut.clean_laws _ _ _) h

/-- A resolution from a clean cache leaves it clean and has the standard roles. -/
theorem resolveRoles_clean (h : m.cache.Clean) :
    (m.resolveRoles user optedIn ctx communities).2.cache.Clean ∧
      (m.resolveRoles user optedIn ctx communities).1.Standard := by
  have keeps := m.fanOut_keeps_clean user optedIn ctx communities h
  refine ⟨by rw [resolveRoles_cache]; exact keeps.shared, ?_, ?_⟩
  · exact (m.mem_resolveRoles user optedIn ctx communities).mpr (.inl rfl)
  · rw [mem_resolveRoles, resolveRoles_identity, ← Disclosure.isDisclosed_iff]
    constructor
    · rintro (hk | ⟨hd, -⟩ | ⟨o, ho, hx⟩)
      · exact absurd hk (by decide)
      · exact hd
      -- an outcome's roles are acceptable, so none is a standard name
      · exact absurd rfl ((keeps.outcomes o ho _ hx).2 .identified)
    · intro hd
      exact .inr (.inl ⟨hd, rfl⟩)

/-- A sync from a clean cache leaves it clean, and a resolution it reports has the standard
roles. -/
theorem resolveAndSync_clean (h : m.cache.Clean) (req : SyncRequest) :
    (m.resolveAndSync req).2.cache.Clean ∧
      ∀ r, (m.resolveAndSync req).1.resolution? = some r → r.Standard := by
  rcases m.resolveAndSync_cases req with ⟨⟨reason, hrep⟩, hc⟩ | ⟨ctx, cs, ⟨outs, hrep⟩, hc⟩
  · rw [hrep, hc]
    exact ⟨h, fun _ hr => by cases hr⟩
  · obtain ⟨hclean, hstd⟩ :=
      (m.recordPermissionCheck req.user).resolveRoles_clean req.user req.optedIn ctx cs h
    rw [hrep, hc]
    exact ⟨hclean, fun r hr => by cases hr; exact hstd⟩

/-- A refresh from a clean cache leaves it clean, and a resolution it reports has the standard
roles. -/
theorem refreshUser_clean (h : m.cache.Clean) (req : SyncRequest) :
    (m.refreshUser req).2.cache.Clean ∧
      ∀ r, ManagerAnswer.resolution? (.refreshed (m.refreshUser req).1) = some r → r.Standard := by
  rcases m.refreshUser_cases req with ⟨e, hrep, hc⟩ | ⟨report, hrep, rfl, hm⟩
  · rw [hrep, hc]
    exact ⟨h.invalidateUser req.user, fun _ hr => by cases hr⟩
  · rw [hrep, hm]
    exact resolveAndSync_clean _ (h.invalidateUser req.user) req

/-- One step from a clean cache leaves it clean, and a resolution it answers with has the
standard roles. -/
theorem step_clean (h : m.cache.Clean) (st : ManagerStep) :
    (m.step st).2.cache.Clean ∧ ∀ r, (m.step st).1.resolution? = some r → r.Standard := by
  cases st with
  | sync req => exact m.resolveAndSync_clean h req
  | refresh req => exact m.refreshUser_clean h req
  | resolveRoles user optedIn name disc ids =>
    obtain ⟨hc, hs⟩ := m.resolveRoles_clean user optedIn ⟨user, name, disc⟩ (NameSet.ofList ids) h
    exact ⟨hc, fun r hr => by cases hr; exact hs⟩
  | invalidate user => exact ⟨h.invalidateUser user, fun _ hr => by cases hr⟩
  | collectMemberships user => exact ⟨h, fun _ hr => by cases hr⟩
  | advance ms => exact ⟨h, fun _ hr => by cases hr⟩
  | replaceRulebook rules check =>
    simp only [step]
    split <;> exact ⟨h, fun _ hr => by cases hr⟩
  | setPermission v user =>
    cases user <;> exact ⟨h, fun _ hr => by cases hr⟩
  | setPlatform u => exact ⟨h, fun _ hr => by cases hr⟩
  | setCacheFaults faults =>
    -- new failures for an in-memory store leave its entries as they are
    simp only [step]
    split
    · rename_i mem _ hs
      exact ⟨h.withMemory hs (fun _ _ he => .inl he), fun _ hr => by cases hr⟩
    · exact ⟨h, fun _ hr => by cases hr⟩
  | cacheState user =>
    simp only [step]
    split <;> exact ⟨h, fun _ hr => by cases hr⟩

theorem record_clean (h : m.cache.Clean) (st : ManagerStep) :
    (m.record st).2.cache.Clean ∧
      ∀ r, (m.record st).1.answer.resolution? = some r → r.Standard :=
  step_clean { m with journal := {} } h st

/-- Every manager that steps reach from a clean cache has a clean cache. -/
theorem after_clean {m : Manager} (h : m.cache.Clean) (steps : List ManagerStep) :
    (m.after steps).cache.Clean := by
  induction steps generalizing m with
  | nil => exact h
  | cons st rest ih => exact ih (m.record_clean h st).1

/-- Each record of a run is the record of one step from a manager the run reaches. -/
theorem mem_runSteps {rec : StepRecord} {m : Manager} {steps : List ManagerStep}
    (h : rec ∈ m.runSteps steps) : ∃ pre st, rec = ((m.after pre).record st).1 := by
  induction steps generalizing m with
  | nil => cases h
  | cons st rest ih =>
    rcases hr : m.record st with ⟨r, m'⟩
    rw [runSteps, hr, List.mem_cons] at h
    rcases h with rfl | hrest
    · exact ⟨[], st, by rw [after, List.foldl_nil, hr]⟩
    · obtain ⟨pre, st', rfl⟩ := ih hrest
      refine ⟨st :: pre, st', ?_⟩
      have hafter : m.after (st :: pre) = m'.after pre := by
        simp only [after, List.foldl_cons, hr]
      rw [hafter]

end Manager

/-- From a clean cache, whatever steps run (syncs, refreshes, resolutions, invalidations,
rulebook reloads, clock advances, and any platform, permission or cache failures): every
manager reached keeps a clean cache; every resolution a step answers with has "_known", and has
"_identified" exactly when the identity was disclosed; and a branch's write-back of the roles its
evaluation produced is never refused for its value, unless an in-memory store was set to fail
so. -/
theorem reachable_managers_keep_standard_roles (m : Manager) (h : m.cache.Clean)
    (steps : List ManagerStep) :
    (m.after steps).cache.Clean ∧
      (∀ rec ∈ m.runSteps steps, ∀ r, rec.answer.resolution? = some r → r.Standard) ∧
      ∀ (rule : Rule) (ctx : Context) (identity : Option String) (n : Nat) (roles : NameSet),
        (rule.evaluate ctx identity n).result = .success roles →
        ∀ (c : RuleCache) (now : Nat) (user msg : String),
          (c.put now rule user roles).1 = .error (.invalidValue msg) →
          ∃ mem f, c.store = some (.memory mem f) ∧
            (f.replace = some (.invalidValue msg) ∨ f.indexAdd = some (.invalidValue msg)) := by
  refine ⟨Manager.after_clean h steps, fun rec hrec r hr => ?_, ?_⟩
  · obtain ⟨pre, st, rfl⟩ := Manager.mem_runSteps hrec
    exact ((m.after pre).record_clean (Manager.after_clean h pre) st).2 r hr
  · intro rule ctx identity n roles hev c now user msg hput
    exact RuleCache.put_invalidValue_planned (Rule.acceptable_of_evaluate hev).contains_empty hput

/-- A manager with a strong and a weak rule over an empty in-memory cache, driven through a sync
with the identity, a clock advance, a refresh of a user who is not opted in, and a computation of
roles. -/
theorem standard_roles_from_an_empty_cache :
    let strong : Rule := ⟨"RoleB", .strong, some 60000, .roles ["vip"]⟩
    let weak : Rule := ⟨"RoleA", .weak, some 60000, .roles ["member"]⟩
    let g : Community := ⟨"G", none, .ofList [("vip", "222"), ("member", "111")], ∅⟩
    let m : Manager :=
      { rulebook := ⟨(∅ : Std.TreeMap String Rule compare).insert "RoleB" strong |>.insert
          "RoleA" weak, none, ((KeyedBy.empty Rule.name).insert strong).insert weak⟩
        declarations := .ofList [⟨"vip", none, "RoleB"⟩, ⟨"member", none, "RoleA"⟩]
        communities := Community.table [g]
        communitiesKeyed := Community.keyed_table [g]
        cache := ⟨some (.memory {} {}), "rl_"⟩
        config := {}
        gate := {}
        vault := { identities := .ofList [("U", "u@example.org")] }
        platform := {}
        notifierDown := false }
    let req (optedIn : Bool) : SyncRequest := ⟨"U", optedIn, "Someone", "0001", [("G", true)], true⟩
    let steps : List ManagerStep :=
      [.sync (req true), .advance 1000, .refresh (req false),
        .resolveRoles "U" true "Someone" "0001" ["G"]]
    m.cache.Clean ∧
      (m.after steps).cache.Clean ∧
      (∀ rec ∈ m.runSteps steps, ∀ r, rec.answer.resolution? = some r → r.Standard) ∧
      ∀ (rule : Rule) (ctx : Context) (identity : Option String) (n : Nat) (roles : NameSet),
        (rule.evaluate ctx identity n).result = .success roles →
        ∀ (c : RuleCache) (now : Nat) (user msg : String),
          (c.put now rule user roles).1 = .error (.invalidValue msg) →
          ∃ mem f, c.store = some (.memory mem f) ∧
            (f.replace = some (.invalidValue msg) ∨ f.indexAdd = some (.invalidValue msg)) := by
  intro strong weak g m req steps
  have h : m.cache.Clean :=
    ⟨(fun _ _ hd => by cases hd), fun mem f hs k e he => by cases hs; simp at he⟩
  exact ⟨h, reachable_managers_keep_standard_roles m h steps⟩

end RoleSync
