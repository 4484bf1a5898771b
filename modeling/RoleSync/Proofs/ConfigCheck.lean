import RoleSync.Settings.Report
import RoleSync.Settings.Load
import RoleSync.Relevance
import RoleSync.Proofs.CacheStore
/-!
The settings check against a rulebook misses no role that relevance drops. A community maps a
role name; relevance turns it into the rule its declaration names, if the role is declared,
standard names aside, and keeps that rule only if the rulebook holds it. So a mapped role is
dropped in two ways, and the check reports each: a role no declaration names gets a warning
about the community that maps it, and a declaration whose rule the rulebook lacks gets an error.
Conversely an error is only ever about a declared role whose rule relevance never gives, for any
communities.

Relevance is said once as what it holds under a rule name (`compute_getElem?`): the rulebook's
rule under that name with the communities whose mapped roles are declared with it, when the
rulebook holds the rule and some community needs it.

Main statement: `check_covers_dropped_roles`.
-/

namespace RoleSync

set_option autoImplicit false

/-! ## Folds that set keys -/

/-- A fold that, for each key and value, may set that key and touches no other key. Over
distinct keys, what it leaves under a key is what the key's value set there, or else what was
there before. -/
theorem getElem?_foldl_keys {β γ : Type}
    (F : Std.TreeMap String β compare → String × γ → Std.TreeMap String β compare)
    (set : String → γ → Option β)
    (hF : ∀ acc k v x, (F acc (k, v))[x]? = if k = x then (set k v).or acc[x]? else acc[x]?) :
    ∀ (L : List (String × γ)) (acc : Std.TreeMap String β compare) (x : String),
      (L.map Prod.fst).Nodup →
        (L.foldl F acc)[x]? = ((L.lookup x).bind (set x)).or acc[x]?
  | [], acc, x, _ => by simp
  | (k, v) :: L, acc, x, hnd => by
    rw [List.map_cons, List.nodup_cons] at hnd
    rw [List.foldl_cons, getElem?_foldl_keys F set hF L _ x hnd.2, hF]
    by_cases hk : k = x
    · -- the one place the key occurs
      subst hk
      have hnone : L.lookup k = none := by
        rw [List.lookup_eq_none_iff]
        intro p hp
        rw [bne_iff_ne]
        intro hkp
        exact hnd.1 (List.mem_map.mpr ⟨p, hp, hkp.symm⟩)
      rw [if_pos rfl, hnone, List.lookup_cons, beq_self_eq_true]
      simp
    · have hne : (x == k) = false := beq_eq_false_iff_ne.mpr (Ne.symm hk)
      rw [if_neg hk, List.lookup_cons, hne]

/-! ## Declarations -/

namespace Declarations

variable {k : String}

/-- Each declaration a table built by insertion holds is one it started with or one inserted,
under its own name. -/
theorem get?_foldl_insert :
    ∀ (ds : List Declaration) (t : Std.TreeMap String Declaration compare) (d : Declaration),
      (ds.foldl (fun t d => t.insert d.name d) t).get? k = some d →
        t.get? k = some d ∨ (d ∈ ds ∧ d.name = k)
  | [], _, _, h => .inl h
  | d₀ :: ds, t, d, h => by
    rcases get?_foldl_insert ds _ d h with h | ⟨hd, hk⟩
    · rw [Std.TreeMap.get?_eq_getElem?, Std.TreeMap.getElem?_insert] at h
      split at h
      · rename_i heq
        cases h
        exact .inr ⟨List.mem_cons_self .., Std.LawfulEqCmp.compare_eq_iff_eq.mp heq⟩
      · exact .inl (by rwa [Std.TreeMap.get?_eq_getElem?])
    · exact .inr ⟨List.mem_cons_of_mem _ hd, hk⟩

/-- A table built by insertion holds a declaration under every name it started with or
inserted. -/
theorem isSome_get?_foldl_insert :
    ∀ (ds : List Declaration) (t : Std.TreeMap String Declaration compare),
      (t.get? k).isSome = true ∨ (∃ d ∈ ds, d.name = k) →
        ((ds.foldl (fun t d => t.insert d.name d) t).get? k).isSome = true
  | [], _, h => h.resolve_right (by simp)
  | d₀ :: ds, t, h => by
    apply isSome_get?_foldl_insert ds
    rw [Std.TreeMap.get?_eq_getElem?, Std.TreeMap.getElem?_insert]
    split
    · exact .inl rfl
    · rename_i hne
      rcases h with h | ⟨d, hd, rfl⟩
      · exact .inl (by rwa [← Std.TreeMap.get?_eq_getElem?])
      · rcases List.mem_cons.mp hd with rfl | hd
        · exact absurd (Std.LawfulEqCmp.compare_eq_iff_eq.mpr rfl) hne
        · exact .inr ⟨d, hd, rfl⟩

/-- A declared role has a rule in the table: the rule of one of its declarations. -/
theorem ruleFor?_of_declared {ds : List Declaration} (h : ∃ d ∈ ds, d.name = k) :
    ∃ d ∈ ds, d.name = k ∧ (ofList ds).ruleFor? k = some d.rule := by
  have hsome := isSome_get?_foldl_insert ds ∅ (.inr h)
  obtain ⟨d, hd⟩ := Option.isSome_iff_exists.mp hsome
  rcases get?_foldl_insert ds ∅ d hd with h₀ | ⟨hmem, hname⟩
  · simp at h₀
  · refine ⟨d, hmem, hname, ?_⟩
    simp only [ruleFor?, ofList, hd, Option.map_some]

end Declarations

/-! ## Relevance -/

/-- Over distinct keys, a key's value is what the list looks the key up to. -/
theorem lookup_eq_some_iff_mem {β : Type} :
    ∀ {L : List (String × β)} {k : String} {v : β}, (L.map Prod.fst).Nodup →
      (L.lookup k = some v ↔ (k, v) ∈ L)
  | [], _, _, _ => by simp
  | (k', v') :: L, k, v, hnd => by
    rw [List.map_cons, List.nodup_cons] at hnd
    rw [List.lookup_cons, List.mem_cons]
    by_cases hk : k = k'
    · subst hk
      rw [beq_self_eq_true]
      constructor
      · rintro ⟨⟩
        exact .inl rfl
      · rintro (h | h)
        · cases h
          rfl
        · exact absurd (List.mem_map.mpr ⟨_, h, rfl⟩) hnd.1
    · rw [beq_eq_false_iff_ne.mpr hk]
      simp only [lookup_eq_some_iff_mem hnd.2, Prod.mk.injEq, hk, false_and, false_or]

theorem nodup_map_fst_toList {β : Type} (t : Std.TreeMap String β compare) :
    (t.toList.map Prod.fst).Nodup := by
  rw [Std.TreeMap.map_fst_toList_eq_keys]
  have h := t.distinct_keys
  simp only [Std.LawfulEqCmp.compare_eq_iff_eq] at h
  exact h

theorem lookup_toList {β : Type} (t : Std.TreeMap String β compare) (k : String) :
    t.toList.lookup k = t[k]? := by
  apply Option.ext
  intro v
  rw [lookup_eq_some_iff_mem (nodup_map_fst_toList t), Std.TreeMap.mem_toList_iff_getElem?_eq_some]

namespace Community

theorem mem_requiredRules {g : Community} {d : Declarations} {r : String} :
    r ∈ g.requiredRules d ↔ ∃ k ∈ g.roleMap.keys, isStandardName k = false ∧ d.ruleFor? k = some r := by
  simp [requiredRules, ruleDrivenRoles, RuleCache.mem_ofList_iff, List.mem_filterMap,
    List.mem_filter, and_assoc]

end Community

namespace Relevance

variable {d : Declarations} {r x : String}

/-- Adding a community id under each of some rule names. -/
theorem mem_getD_foldl_demand (gid : String) :
    ∀ (names : List String) (acc : Std.TreeMap String NameSet compare),
      x ∈ (names.foldl (fun acc₂ name => acc₂.insert name ((acc₂.getD name ∅).insert gid)) acc).getD
          r ∅ ↔ x ∈ acc.getD r ∅ ∨ (r ∈ names ∧ x = gid)
  | [], acc => by simp
  | name :: names, acc => by
    rw [List.foldl_cons, mem_getD_foldl_demand gid names, Std.TreeMap.getD_insert]
    by_cases hn : name = r
    · -- the id joins the set under this name
      subst hn
      simp only [Std.LawfulEqCmp.compare_eq_iff_eq, if_true, Std.TreeSet.mem_insert,
        List.mem_cons, true_or, true_and]
      constructor
      · rintro ((rfl | hx) | ⟨-, rfl⟩)
        · exact .inr rfl
        · exact .inl hx
        · exact .inr rfl
      · rintro (hx | rfl)
        · exact .inl (.inr hx)
        · exact .inl (.inl rfl)
    · have hc : compare name r ≠ .eq := fun h => hn (Std.LawfulEqCmp.compare_eq_iff_eq.mp h)
      simp [hc, Ne.symm hn]

/-- Adding each community's id under each rule it requires. -/
theorem mem_getD_foldl_communities :
    ∀ (gs : List Community) (acc : Std.TreeMap String NameSet compare),
      x ∈ (gs.foldl (fun acc g => (g.requiredRules d).toList.foldl (fun acc₂ name =>
          acc₂.insert name ((acc₂.getD name ∅).insert g.id)) acc) acc).getD r ∅ ↔
        x ∈ acc.getD r ∅ ∨ ∃ g ∈ gs, r ∈ g.requiredRules d ∧ g.id = x
  | [], acc => by simp
  | g :: gs, acc => by
    rw [List.foldl_cons, mem_getD_foldl_communities gs, mem_getD_foldl_demand,
      Std.TreeSet.mem_toList, @eq_comm _ x g.id, or_assoc]
    simp only [List.mem_cons, or_and_right, exists_or, exists_eq_left]

/-- The communities demand records under a rule name are those that require the rule. -/
theorem mem_getD_demand (gs : List Community) :
    x ∈ (demand d gs).getD r ∅ ↔ ∃ g ∈ gs, r ∈ g.requiredRules d ∧ g.id = x := by
  rw [demand, mem_getD_foldl_communities]
  simp

/-- What relevance holds under a rule name: the rulebook's rule of that name, with the
communities that demand it, when some community does and the rulebook holds it. -/
theorem compute_getElem? (b : Rulebook) (gs : List Community) :
    (compute b d gs).rules[r]? =
      ((demand d gs)[r]?).bind fun ids => (b.lookup? r).map (⟨·, ids⟩) := by
  rw [compute, Std.TreeMap.foldl_eq_foldl_toList,
    getElem?_foldl_keys _ (fun k ids => (b.lookup? k).map (⟨·, ids⟩)) ?step _ _ _
      (nodup_map_fst_toList _), lookup_toList]
  · simp
  case step =>
    intro acc k ids y
    dsimp only
    rcases b.lookup? k with _ | rule
    · by_cases hk : k = y <;> simp [hk]
    · rw [Std.TreeMap.getElem?_insert]
      by_cases hk : k = y
      · simp [hk]
      · have hc : compare k y ≠ .eq := fun h => hk (Std.LawfulEqCmp.compare_eq_iff_eq.mp h)
        simp [hk, hc]

/-- Relevance never holds a rule the rulebook lacks. -/
theorem compute_getElem?_of_lookup_none {b : Rulebook} (gs : List Community)
    (hb : b.lookup? r = none) : (compute b d gs).rules[r]? = none := by
  simp [compute_getElem?, hb]

/-- A rule that a listed community requires and that the rulebook holds is relevant, with that
community among those that need it. -/
theorem relevant_of_required {b : Rulebook} {gs : List Community} {g : Community} {rule : Rule}
    (hg : g ∈ gs) (hr : r ∈ g.requiredRules d) (hb : b.lookup? r = some rule) :
    ∃ ids, (compute b d gs).rules[r]? = some ⟨rule, ids⟩ ∧ g.id ∈ ids := by
  have hmem : g.id ∈ (demand d gs).getD r ∅ := mem_getD_demand gs |>.mpr ⟨g, hg, hr, rfl⟩
  rw [Std.TreeMap.getD_eq_getD_getElem?] at hmem
  rcases hd : (demand d gs)[r]? with _ | ids
  · rw [hd] at hmem
    simp at hmem
  · rw [hd, Option.getD_some] at hmem
    exact ⟨ids, by simp [compute_getElem?, hd, hb], hmem⟩

end Relevance

/-! ## The report -/

namespace Settings

variable {C : Settings} {RB : Rulebook}

/-- A declaration whose rule the rulebook lacks is reported as an error. -/
theorem unknownRule_mem_findings {d : Declaration} (hd : d ∈ C.roles)
    (hb : RB.lookup? d.rule = none) :
    ⟨.error, "role " ++ d.name ++ " depends on unknown rule " ++ d.rule⟩ ∈
      (C.checkAgainst RB).findings := by
  simp only [checkAgainst, List.mem_append]
  refine .inl (.inl (List.mem_filterMap.mpr ⟨d, hd, ?_⟩))
  simp [hb]

/-- A mapped role that is neither standard nor declared is reported, with its community. -/
theorem undeclared_mem_findings {g : CommunitySettings} {k : String} (hg : g ∈ C.communities)
    (hk : k ∈ g.roles.keys) (hs : isStandardName k = false)
    (hu : ¬∃ d ∈ C.roles, d.name = k) :
    ⟨.warning, "guild " ++ g.id ++ " maps undeclared role " ++ k⟩ ∈
      (C.checkAgainst RB).findings := by
  simp only [checkAgainst, List.mem_append]
  refine .inl (.inr (List.mem_flatMap.mpr ⟨g, hg, List.mem_map.mpr ⟨k, ?_, rfl⟩⟩))
  simp only [List.mem_filter, hs, Bool.not_false, Bool.true_and, Bool.not_eq_eq_eq_not,
    Bool.not_true, List.any_eq_false, decide_eq_true_eq]
  exact ⟨hk, fun d hd hn => hu ⟨d, hd, hn⟩⟩

/-- The only errors are about declarations whose rule the rulebook lacks. -/
theorem unknownRule_of_error {f : Finding} (hf : f ∈ (C.checkAgainst RB).findings)
    (he : f.severity = .error) :
    ∃ d ∈ C.roles, RB.lookup? d.rule = none ∧
      f = ⟨.error, "role " ++ d.name ++ " depends on unknown rule " ++ d.rule⟩ := by
  simp only [checkAgainst, List.mem_append] at hf
  rcases hf with (hf | hf) | hf
  · obtain ⟨d, hd, hdf⟩ := List.mem_filterMap.mp hf
    rcases hb : RB.lookup? d.rule with _ | rule
    · simp only [hb, Option.isSome_none, Bool.false_eq_true, if_false, Option.some.injEq] at hdf
      exact ⟨d, hd, hb, hdf.symm⟩
    · simp [hb] at hdf
  · -- an undeclared role is only ever a warning
    obtain ⟨g, -, hf⟩ := List.mem_flatMap.mp hf
    obtain ⟨k, -, rfl⟩ := List.mem_map.mp hf
    cases he
  · obtain ⟨d, -, hdf⟩ := List.mem_filterMap.mp hf
    split at hdf
    · cases hdf
    · cases hdf
      cases he

/-- The check misses no role that relevance drops. For each community and each non-standard
role it maps, relevance for that community alone holds the rule the role is declared with, with
the community's id among those needing it; or the check warns that the community maps an
undeclared role; or the role is declared with a rule the check reports unknown. Every error names
a declaration whose rule relevance never holds, whatever the declarations and communities.
Validated settings keep each community's id trimmed, and that id is the one named on both
sides. -/
theorem check_covers_dropped_roles (C : Settings) (RB : Rulebook) :
    (∀ g ∈ C.communities, ∀ k ∈ g.roles.keys, isStandardName k = false →
      (∃ r e, C.declarations.ruleFor? k = some r ∧
        (Relevance.compute RB C.declarations [CommunitySettings.toCommunity g]).rules[r]? = some e ∧
        RB.lookup? r = some e.rule ∧ g.id ∈ e.communities) ∨
      ⟨.warning, "guild " ++ g.id ++ " maps undeclared role " ++ k⟩ ∈
        (C.checkAgainst RB).findings ∨
      ∃ d ∈ C.roles, d.name = k ∧ C.declarations.ruleFor? k = some d.rule ∧
        ⟨.error, "role " ++ k ++ " depends on unknown rule " ++ d.rule⟩ ∈
          (C.checkAgainst RB).findings) ∧
    (∀ f ∈ (C.checkAgainst RB).findings, f.severity = .error →
      ∃ d ∈ C.roles, f.message = "role " ++ d.name ++ " depends on unknown rule " ++ d.rule ∧
        ∀ ds gs, (Relevance.compute RB ds gs).rules[d.rule]? = none) := by
  constructor
  · intro g hg k hk hs
    by_cases hdecl : ∃ d ∈ C.roles, d.name = k
    · -- declared: the table gives the rule of one of its declarations
      obtain ⟨d, hd, rfl, hrule⟩ := Declarations.ruleFor?_of_declared hdecl
      rcases hb : RB.lookup? d.rule with _ | rule
      · exact .inr (.inr ⟨d, hd, rfl, hrule, unknownRule_mem_findings hd hb⟩)
      · have hreq : d.rule ∈ (CommunitySettings.toCommunity g).requiredRules C.declarations :=
          Community.mem_requiredRules.mpr ⟨d.name, hk, hs, hrule⟩
        obtain ⟨ids, he, hid⟩ := Relevance.relevant_of_required (List.mem_singleton_self _) hreq hb
        exact .inl ⟨d.rule, ⟨rule, ids⟩, hrule, he, hb, hid⟩
    · exact .inr (.inl (undeclared_mem_findings hg hk hs hdecl))
  · intro f hf he
    obtain ⟨d, hd, hb, rfl⟩ := unknownRule_of_error hf he
    exact ⟨d, hd, rfl, fun _ gs => Relevance.compute_getElem?_of_lookup_none gs hb⟩

end Settings

end RoleSync
