import RoleSync.Manager.Session
/-!
One resolution, said once. A disclosure writes the audit journal and nothing else
(`disclose_eq`), and hands the rules no identity unless it was disclosed (`disclose_identity`);
so the fan-out of a resolution is the run of the relevant rules from the manager's cache and clock
(`fanOut_eq`). The resolved roles are "_known", "_identified" when the identity was disclosed, and
the roles of the outcomes (`mem_resolveRoles`); the manager keeps the cache the fan-out left.

A sync resolves once, for the present monitored communities, or is refused before anything runs;
reconciling and sending notices leave the cache alone (`resolveAndSync_cases`). Later proofs about
resolutions cite these equations and never unfold the manager's functions.
-/

namespace RoleSync

set_option autoImplicit false

theorem mem_foldl_insert {x : String} (l : List String) (acc : NameSet) :
    x ∈ l.foldl (fun (a : NameSet) r => a.insert r) acc ↔ x ∈ acc ∨ x ∈ l := by
  induction l generalizing acc with
  | nil => simp
  | cons y l ih =>
    simp only [List.foldl_cons, ih, Std.TreeSet.mem_insert, Std.LawfulEqCmp.compare_eq_iff_eq,
      List.mem_cons]
    simp only [or_assoc, or_left_comm, eq_comm]

/-- A role is in the union of the outcomes' roles exactly when some outcome holds it. -/
theorem mem_union_outcomes {x : String} (outcomes : List BranchOutcome) (acc : NameSet) :
    x ∈ outcomes.foldl
        (fun (acc : NameSet) o => o.roles.foldl (fun (a : NameSet) r => a.insert r) acc) acc ↔
      x ∈ acc ∨ ∃ o ∈ outcomes, x ∈ o.roles := by
  induction outcomes generalizing acc with
  | nil => simp
  | cons o rest ih =>
    rw [List.foldl_cons, ih, Std.TreeSet.foldl_eq_foldl_toList, mem_foldl_insert]
    simp only [Std.TreeSet.mem_toList, List.mem_cons, or_and_right, exists_or, exists_eq_left,
      or_assoc]

namespace Manager

variable (m : Manager) (user : String) (optedIn : Bool) (ctx : Context) (communities : NameSet)

/-! ## The fan-out of a resolution -/

/-- A disclosure writes the audit journal and nothing else. -/
theorem disclose_eq (v : Relevance) :
    (m.disclose user optedIn v).2 = { m with journal := (m.disclose user optedIn v).2.journal } := by
  unfold disclose
  split
  · rfl
  · split
    · rfl
    · dsimp only
      split <;> rfl

/-- No identity is handed to the rules unless it was disclosed. -/
theorem disclose_identity (v : Relevance)
    (hd : (m.disclose user optedIn v).1.2.isDisclosed = false) :
    (m.disclose user optedIn v).1.1 = none := by
  revert hd
  unfold disclose
  split
  · exact fun _ => rfl
  · split
    · exact fun _ => rfl
    · dsimp only
      split
      · intro hd
        cases hd
      · exact fun _ => rfl

/-- The fan-out of a resolution: the branches of the relevant rules, with the identity the
disclosure gave, run from the manager's cache, counters and clock. -/
theorem fanOut_eq : m.fanOut user optedIn ctx communities =
    ((m.disclose user optedIn (m.relevance communities)).1.2,
      FanOut.run ⟨user, ctx, (m.disclose user optedIn (m.relevance communities)).1.1,
          m.config.ruleTimeout, m.config.maxParallelism⟩
        ((m.relevance communities).toList.map (·.rule)) m.clock ⟨m.cache, false, m.counters⟩,
      (m.disclose user optedIn (m.relevance communities)).2) := by
  have hm := m.disclose_eq user optedIn (m.relevance communities)
  rcases hdis : m.disclose user optedIn (m.relevance communities) with ⟨⟨identity, disclosure⟩, m'⟩
  rw [hdis] at hm
  dsimp only at hm
  simp only [fanOut, hdis]
  rw [hm]

/-- A fan-out whose disclosure was refused runs its rules without the identity. -/
theorem fanOut_identity (hd : (m.fanOut user optedIn ctx communities).1.isDisclosed = false) :
    (m.disclose user optedIn (m.relevance communities)).1.1 = none := by
  rw [fanOut_eq] at hd
  exact m.disclose_identity user optedIn _ hd

/-- The roles of a resolution: "_known", "_identified" when the identity was disclosed, and the
roles of the outcomes. -/
theorem mem_resolveRoles {x : String} :
    x ∈ (m.resolveRoles user optedIn ctx communities).1.roles ↔
      x = StandardRole.known.name ∨
        ((m.fanOut user optedIn ctx communities).1.isDisclosed = true ∧
          x = StandardRole.identified.name) ∨
        ∃ o ∈ (m.fanOut user optedIn ctx communities).2.1.outcomes, x ∈ o.roles := by
  rcases h : m.fanOut user optedIn ctx communities with ⟨d, done, m'⟩
  simp only [resolveRoles, h]
  by_cases hd : d.isDisclosed = true
  · simp only [hd, if_true, Std.TreeSet.mem_insert, Std.LawfulEqCmp.compare_eq_iff_eq,
      mem_union_outcomes, Std.TreeSet.not_mem_emptyc, false_or, true_and, @eq_comm _ _ x]
    exact or_left_comm
  · rw [Bool.not_eq_true] at hd
    simp only [hd, Bool.false_eq_true, ↓reduceIte, Std.TreeSet.mem_insert,
      Std.LawfulEqCmp.compare_eq_iff_eq, mem_union_outcomes, Std.TreeSet.not_mem_emptyc,
      false_or, false_and, @eq_comm _ _ x]

theorem resolveRoles_identity :
    (m.resolveRoles user optedIn ctx communities).1.identity =
      (m.fanOut user optedIn ctx communities).1 := by
  rcases h : m.fanOut user optedIn ctx communities with ⟨d, done, m'⟩
  simp only [resolveRoles, h]

/-- The manager keeps the cache the fan-out left. -/
theorem resolveRoles_cache :
    (m.resolveRoles user optedIn ctx communities).2.cache =
      (m.fanOut user optedIn ctx communities).2.1.shared.cache := by
  rcases h : m.fanOut user optedIn ctx communities with ⟨d, done, m'⟩
  simp only [resolveRoles, h]

/-! ## Syncs and the other steps -/

@[simp] theorem sendNotice_cache (u : String) (n : Notice) : (m.sendNotice u n).cache = m.cache := by
  rw [sendNotice_eq]

@[simp] theorem reconcileAll_cache (roles : NameSet) :
    (m.reconcileAll user roles communities).2.cache = m.cache := rfl

theorem foldl_sendNotice_cache (u : String) (l : List CommunityOutcome) :
    (l.foldl (fun acc o => acc.sendNotice u (acc.reconciliationNotice o)) m).cache = m.cache := by
  induction l generalizing m with
  | nil => rfl
  | cons o rest ih => rw [List.foldl_cons, ih, sendNotice_cache]

/-- A sync is refused with the cache untouched, or resolves once, after the permission check,
and keeps the cache that resolution left. -/
theorem resolveAndSync_cases (req : SyncRequest) :
    ((∃ reason, (m.resolveAndSync req).1 = .denied req.user reason) ∧
        (m.resolveAndSync req).2.cache = m.cache) ∨
      ∃ ctx communities,
        (∃ outcomes, (m.resolveAndSync req).1 = .synced req.user
          ((m.recordPermissionCheck req.user).resolveRoles req.user req.optedIn ctx communities).1
            outcomes) ∧
        (m.resolveAndSync req).2.cache =
          ((m.recordPermissionCheck req.user).resolveRoles req.user req.optedIn ctx
            communities).2.cache := by
  unfold resolveAndSync
  dsimp only
  split
  · rename_i reason _
    refine .inl ⟨⟨reason, rfl⟩, ?_⟩
    split
    · exact sendNotice_cache _ _ _
    · rfl
  · right
    unfold syncPermitted
    refine ⟨_, _, ⟨_, rfl⟩, ?_⟩
    dsimp only
    -- the notices after the resolution and the reconciliation leave its cache
    split
    · rw [foldl_sendNotice_cache, reconcileAll_cache]
      split
      · exact sendNotice_cache _ _ _
      · rfl
    · rw [reconcileAll_cache]
      split
      · exact sendNotice_cache _ _ _
      · rfl

/-- A refresh fails at the invalidation with only that change made, or syncs from the cache the
invalidation left. -/
theorem refreshUser_cases (req : SyncRequest) :
    (∃ e, (m.refreshUser req).1 = .error e ∧
        (m.refreshUser req).2.cache = (m.cache.invalidateUser req.user).2) ∨
      ∃ report, (m.refreshUser req).1 = .ok report ∧
        report = (({ m with cache := (m.cache.invalidateUser req.user).2 } : Manager).resolveAndSync
          req).1 ∧
        (m.refreshUser req).2 = (({ m with cache := (m.cache.invalidateUser req.user).2 } :
          Manager).resolveAndSync req).2 := by
  unfold refreshUser invalidateUser
  rcases h : m.cache.invalidateUser req.user with ⟨_ | n, c⟩
  · exact .inl ⟨_, rfl, rfl⟩
  · exact .inr ⟨_, rfl, rfl, rfl⟩

end Manager

end RoleSync
