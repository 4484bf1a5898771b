import RoleSync.Proofs.ConfigCheck
import RoleSync.Proofs.StrongRules
/-!
Relevance against its set definition. A community needs a rule name when it maps a role that is
not standard and whose declaration names that rule (`Community.Needs`). Relevance holds, under
each name the rulebook registers and some listed community needs, the rulebook's rule with the
ids of exactly the communities that need it (`getElem?_compute_eq_some`,
`exists_getElem?_compute`); under no other name.

The grouping is a fold over the communities and their required rule names, so the names it
keeps are read off the fold (`contains_demand`), and the ids under a name off `mem_getD_demand`.

Main statement (`relevant_rules_match_definition`): the relevant rules are, each once, the
rulebook's rules that some listed community needs, each with the ids of the communities that need it; the identity is required
exactly when one of them is strong, and the communities of the strong ones are their union.
-/

namespace RoleSync

set_option autoImplicit false

namespace Community

/-- A community needs a rule name when it maps a non-standard role declared with that rule. -/
def Needs (d : Declarations) (g : Community) (name : String) : Prop :=
  ∃ k ∈ g.roleMap.keys, isStandardName k = false ∧ d.ruleFor? k = some name

theorem needs_iff_mem_requiredRules {d : Declarations} {g : Community} {name : String} :
    g.Needs d name ↔ name ∈ g.requiredRules d :=
  mem_requiredRules.symm

end Community

namespace Rulebook

variable {b : Rulebook}

/-- A rulebook holds a rule exactly when a lookup of its name finds it. -/
theorem mem_toList_iff {ρ : Rule} : ρ ∈ b.toList ↔ b.lookup? ρ.name = some ρ := by
  rw [toList, mem_values_iff]
  constructor
  · rintro ⟨k, hk⟩
    have hget : b.lookup? k = some ρ := by rw [lookup?, Std.TreeMap.get?_eq_getElem?, hk]
    rwa [b.keyed k ρ hget]
  · intro h
    exact ⟨ρ.name, by rwa [lookup?, Std.TreeMap.get?_eq_getElem?] at h⟩

end Rulebook

namespace Relevance

variable {d : Declarations} {r : String}

/-! ## The names demand holds -/

theorem contains_foldl_demand (gid : String) :
    ∀ (names : List String) (acc : Std.TreeMap String NameSet compare),
      (names.foldl (fun acc₂ name => acc₂.insert name ((acc₂.getD name ∅).insert gid)) acc).contains
          r ↔ acc.contains r ∨ r ∈ names
  | [], acc => by simp
  | name :: names, acc => by
    rw [List.foldl_cons, contains_foldl_demand gid names, Std.TreeMap.contains_insert]
    simp only [Bool.or_eq_true, beq_iff_eq, Std.LawfulEqCmp.compare_eq_iff_eq, List.mem_cons,
      @eq_comm _ name r]
    simp only [or_assoc, or_left_comm]

theorem contains_foldl_communities :
    ∀ (gs : List Community) (acc : Std.TreeMap String NameSet compare),
      (gs.foldl (fun acc g => (g.requiredRules d).toList.foldl (fun acc₂ name =>
          acc₂.insert name ((acc₂.getD name ∅).insert g.id)) acc) acc).contains r ↔
        acc.contains r ∨ ∃ g ∈ gs, r ∈ g.requiredRules d
  | [], acc => by simp
  | g :: gs, acc => by
    rw [List.foldl_cons, contains_foldl_communities gs, contains_foldl_demand,
      Std.TreeSet.mem_toList, or_assoc]
    simp only [List.mem_cons, or_and_right, exists_or, exists_eq_left]

/-- Demand holds a rule name exactly when some listed community requires it. -/
theorem contains_demand (gs : List Community) :
    (demand d gs).contains r ↔ ∃ g ∈ gs, g.Needs d r := by
  rw [demand, contains_foldl_communities]
  simp [Community.needs_iff_mem_requiredRules]

/-! ## What relevance holds under a name -/

/-- What relevance holds under a name: the rulebook's rule of that name, with the ids of exactly
the listed communities that need it, and some community does. -/
theorem getElem?_compute_eq_some (b : Rulebook) (gs : List Community) {e : RelevantRule}
    (h : (compute b d gs).rules[r]? = some e) :
    b.lookup? r = some e.rule ∧ (∃ g ∈ gs, g.Needs d r) ∧
      ∀ x, x ∈ e.communities ↔ ∃ g ∈ gs, g.Needs d r ∧ g.id = x := by
  rw [compute_getElem?] at h
  obtain ⟨ids, hd, hl⟩ := Option.bind_eq_some_iff.mp h
  obtain ⟨rule, hrule, rfl⟩ := Option.map_eq_some_iff.mp hl
  have hneeded : ∃ g ∈ gs, g.Needs d r := (contains_demand gs).mp
    (by rw [Std.TreeMap.contains_eq_isSome_getElem?, hd]; rfl)
  refine ⟨hrule, hneeded, fun x => ?_⟩
  have hx := mem_getD_demand (d := d) (r := r) (x := x) gs
  rw [Std.TreeMap.getD_eq_getD_getElem?, hd, Option.getD_some] at hx
  simpa only [Community.needs_iff_mem_requiredRules] using hx

/-- Relevance holds an entry of the rulebook's rule under each name the rulebook registers and
some listed community needs. -/
theorem exists_getElem?_compute (b : Rulebook) (gs : List Community) {rule : Rule}
    (hrule : b.lookup? r = some rule) (hneeded : ∃ g ∈ gs, g.Needs d r) :
    ∃ ids, (compute b d gs).rules[r]? = some ⟨rule, ids⟩ := by
  obtain ⟨ids, hd⟩ : ∃ ids, (demand d gs)[r]? = some ids := by
    have hc := (contains_demand gs).mpr hneeded
    rw [Std.TreeMap.contains_eq_isSome_getElem?] at hc
    exact Option.isSome_iff_exists.mp hc
  exact ⟨ids, by simp [compute_getElem?, hd, hrule]⟩

/-! ## The relevant rules, their identity need and their strong communities -/

/-- An entry is relevant exactly when it sits under some name. -/
theorem mem_toList_iff_getElem? {v : Relevance} {e : RelevantRule} :
    e ∈ v.toList ↔ ∃ k : String, v.rules[k]? = some e :=
  mem_values_iff

theorem requiresIdentity_iff (v : Relevance) :
    v.requiresIdentity = true ↔ ∃ e ∈ v.toList, e.rule.isStrong = true := by
  simp [requiresIdentity]

/-- Collecting the communities of the strong entries of a list. -/
theorem mem_foldl_strong {x : String} :
    ∀ (es : List RelevantRule) (acc : NameSet),
      x ∈ es.foldl (fun acc e =>
          if e.rule.isStrong then e.communities.foldl (fun a c => a.insert c) acc else acc) acc ↔
        x ∈ acc ∨ ∃ e ∈ es, e.rule.isStrong = true ∧ x ∈ e.communities
  | [], acc => by simp
  | e :: es, acc => by
    rw [List.foldl_cons, mem_foldl_strong es]
    by_cases hs : e.rule.isStrong = true
    · rw [if_pos hs, Std.TreeSet.foldl_eq_foldl_toList, mem_foldl_insert, Std.TreeSet.mem_toList]
      simp only [List.mem_cons, or_and_right, exists_or, exists_eq_left, hs, true_and, or_assoc]
    · rw [if_neg hs]
      simp [hs]

theorem mem_strongCommunities_iff (v : Relevance) {x : String} :
    x ∈ v.strongCommunities ↔ ∃ e ∈ v.toList, e.rule.isStrong = true ∧ x ∈ e.communities := by
  rw [strongCommunities, mem_foldl_strong]
  simp

/-! ## Relevance by its set definition -/

section Definition

variable {b : Rulebook} {gs : List Community}

/-- A relevant entry sits under its own rule's name, so that name describes it: the rulebook
registers the rule, some listed community needs it, and the entry's ids are those of exactly the
communities that need it. -/
theorem entry_of_mem_toList {e : RelevantRule} (he : e ∈ (compute b d gs).toList) :
    b.lookup? e.rule.name = some e.rule ∧ (∃ g ∈ gs, g.Needs d e.rule.name) ∧
      ∀ x, x ∈ e.communities ↔ ∃ g ∈ gs, g.Needs d e.rule.name ∧ g.id = x := by
  obtain ⟨k, hk⟩ := mem_toList_iff_getElem?.mp he
  have hname : e.rule.name = k := b.keyed k e.rule (lookup_of_getElem? k e hk)
  rw [hname]
  exact getElem?_compute_eq_some b gs hk

/-- The relevant rules are the rulebook's rules that some listed community needs. -/
theorem mem_rules_compute_iff {ρ : Rule} :
    ρ ∈ (compute b d gs).toList.map (·.rule) ↔ ρ ∈ b.toList ∧ ∃ g ∈ gs, g.Needs d ρ.name := by
  rw [List.mem_map, Rulebook.mem_toList_iff]
  constructor
  · rintro ⟨e, he, rfl⟩
    obtain ⟨hl, hn, -⟩ := entry_of_mem_toList he
    exact ⟨hl, hn⟩
  · rintro ⟨hl, hn⟩
    obtain ⟨ids, he⟩ := exists_getElem?_compute b gs hl hn
    exact ⟨⟨ρ, ids⟩, mem_toList_iff_getElem?.mpr ⟨_, he⟩, rfl⟩

/-- The identity is required exactly when some listed community needs a strong rule of the
rulebook. -/
theorem requiresIdentity_compute_iff :
    (compute b d gs).requiresIdentity = true ↔
      ∃ ρ ∈ b.toList, ρ.isStrong = true ∧ ∃ g ∈ gs, g.Needs d ρ.name := by
  rw [requiresIdentity_iff]
  constructor
  · rintro ⟨e, he, hs⟩
    obtain ⟨hmem, hn⟩ := mem_rules_compute_iff.mp (List.mem_map_of_mem he)
    exact ⟨e.rule, hmem, hs, hn⟩
  · rintro ⟨ρ, hmem, hs, hn⟩
    obtain ⟨e, he, rfl⟩ := List.mem_map.mp (mem_rules_compute_iff.mpr ⟨hmem, hn⟩)
    exact ⟨e, he, hs⟩

/-- The communities that need the identity are the listed communities that need a strong rule
of the rulebook. -/
theorem mem_strongCommunities_compute_iff {x : String} :
    x ∈ (compute b d gs).strongCommunities ↔
      ∃ ρ ∈ b.toList, ρ.isStrong = true ∧ ∃ g ∈ gs, g.Needs d ρ.name ∧ g.id = x := by
  rw [mem_strongCommunities_iff]
  constructor
  · rintro ⟨e, he, hs, hx⟩
    obtain ⟨hl, -, hc⟩ := entry_of_mem_toList he
    obtain ⟨g, hg, hn, rfl⟩ := (hc x).mp hx
    exact ⟨e.rule, (Rulebook.mem_toList_iff).mpr hl, hs, g, hg, hn, rfl⟩
  · rintro ⟨ρ, hρ, hs, g, hg, hn, rfl⟩
    obtain ⟨e, he, rfl⟩ := List.mem_map.mp (mem_rules_compute_iff.mpr ⟨hρ, g, hg, hn⟩)
    exact ⟨e, he, hs, ((entry_of_mem_toList he).2.2 _).mpr ⟨g, hg, hn, rfl⟩⟩

end Definition

end Relevance

/-- Relevance matches its set definition. For any rulebook, declarations and list of communities,
repeated ones included: the relevant rules are exactly the rulebook's rules that some listed community needs (maps a non-standard role
declared with the rule), each once; each comes with the ids of exactly the communities that need
it; the identity is required exactly when a relevant rule is strong; and the communities needing
a strong rule are the union of the strong rules' communities. -/
theorem relevant_rules_match_definition (b : Rulebook) (d : Declarations) (gs : List Community) :
    let v := Relevance.compute b d gs
    (∀ ρ, ρ ∈ v.toList.map (·.rule) ↔ ρ ∈ b.toList ∧ ∃ g ∈ gs, g.Needs d ρ.name) ∧
      ((v.toList.map (·.rule)).map Rule.name).Nodup ∧
      (∀ e ∈ v.toList, ∀ x, x ∈ e.communities ↔ ∃ g ∈ gs, g.Needs d e.rule.name ∧ g.id = x) ∧
      (v.requiresIdentity = true ↔ ∃ ρ ∈ b.toList, ρ.isStrong = true ∧ ∃ g ∈ gs, g.Needs d ρ.name) ∧
      ∀ x, x ∈ v.strongCommunities ↔
        ∃ e ∈ v.toList, e.rule.isStrong = true ∧ x ∈ e.communities := by
  intro v
  exact ⟨fun ρ => Relevance.mem_rules_compute_iff, Relevance.nodup_names,
    fun e he => (Relevance.entry_of_mem_toList he).2.2, Relevance.requiresIdentity_compute_iff,
    fun x => Relevance.mem_strongCommunities_iff v⟩

end RoleSync
