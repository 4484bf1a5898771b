import RoleSync.Proofs.Relevance
import RoleSync.Proofs.RoleComputation
/-!
Minimal identity disclosure. A resolution asks the vault for the identity at most once, and only
when the user opted in and some present monitored community needs a strong rule of the rulebook
(`disclose_identityCalls`, `requiresIdentity_present_iff`). The call is marked automated and
names, in ascending id order, the label of each such community (`justification_of_monitored`,
`mem_strongCommunities_present`). A predicate is handed the identity only when its rule is strong,
and then it is the string the vault gave (`Rule.evaluate_of_invoked`, `disclose_identity_eq`).

The steps of a sync after the resolution send notices and call the platform, and leave the
identity calls as they were (`resolveAndSync_identityCalls`).

Main statement: `identity_disclosed_minimally`.
-/

namespace RoleSync

set_option autoImplicit false

/-! ## What a predicate is handed -/

/-- An invoked evaluation is one run of the rule's predicate. A weak predicate is handed no
identity; a strong one is invoked only on an identity, and it is handed that identity. -/
theorem Rule.evaluate_of_invoked {r : Rule} {ctx : Context} {identity : Option String} {n : Nat}
    (h : (r.evaluate ctx identity n).invoked = true) :
    ∃ seen, r.evaluate ctx identity n =
        ⟨true, (r.predicate.run ctx seen n).pauses, (r.predicate.run ctx seen n).ending.toResult⟩ ∧
      (r.isStrong = false → seen = none) ∧ (r.isStrong = true → seen.isSome ∧ seen = identity) := by
  obtain ⟨name, kind, ttl, predicate⟩ := r
  cases kind with
  | weak => exact ⟨none, rfl, fun _ => rfl, fun hs => by simp [Rule.isStrong] at hs⟩
  | strong =>
    cases identity with
    | none => simp [Rule.evaluate] at h
    | some id => exact ⟨some id, rfl, fun hs => by simp [Rule.isStrong] at hs, fun _ => ⟨rfl, rfl⟩⟩

namespace Manager

/-! ## One disclosure -/

section Disclose

variable (m : Manager) (user : String) (optedIn : Bool) (v : Relevance)

/-- A disclosure records one identity call, naming the user, marked automated and justified by the
communities that need the identity, exactly when a relevant rule is strong and the user opted
in; otherwise it records none. -/
theorem disclose_identityCalls :
    (m.disclose user optedIn v).2.journal.identityCalls = m.journal.identityCalls ++
      if v.requiresIdentity && optedIn then [⟨user, true, m.justification v.strongCommunities⟩]
      else [] := by
  unfold disclose
  cases v.requiresIdentity <;> cases optedIn <;> simp only [Bool.not_false, Bool.not_true,
    Bool.and_false, Bool.and_true, Bool.false_eq_true, if_true, if_false, List.append_nil]
  split <;> rfl

/-- The identity a disclosure hands the rules: the vault's answer when it asked, if the vault
gave one. -/
theorem disclose_identity_eq :
    (m.disclose user optedIn v).1.1 =
      if v.requiresIdentity && optedIn then (m.vault.disclose user).toOption else none := by
  unfold disclose
  cases v.requiresIdentity <;> cases optedIn <;> simp only [Bool.not_false, Bool.not_true,
    Bool.and_false, Bool.and_true, Bool.false_eq_true, if_true, if_false]
  split <;> rename_i h <;> simp [h, Except.toOption]

end Disclose

/-! ## The communities of a sync -/

variable (m : Manager)

/-- The communities a request marks present that are monitored: those a sync resolves for and
reconciles. -/
def presentCommunities (req : SyncRequest) : NameSet :=
  NameSet.ofList ((req.memberships.filter fun p => p.2 && m.communities.contains p.1).map (·.1))

theorem mem_presentCommunities {req : SyncRequest} {c : String} :
    c ∈ m.presentCommunities req ↔
      (∃ p ∈ req.memberships, p.1 = c ∧ p.2 = true) ∧ m.communities.contains c = true := by
  simp only [presentCommunities, RuleCache.mem_ofList_iff, List.mem_map, List.mem_filter,
    Bool.and_eq_true]
  constructor
  · rintro ⟨p, ⟨hp, h2, hc⟩, rfl⟩
    exact ⟨⟨p, hp, rfl, h2⟩, hc⟩
  · rintro ⟨⟨p, hp, rfl, h2⟩, hc⟩
    exact ⟨p, ⟨hp, h2, hc⟩, rfl⟩

variable {m}

/-- The communities looked up from a list of ids are the monitored ones whose ids are listed. -/
theorem mem_filterMap_get? {ids : List String} {g : Community} :
    g ∈ ids.filterMap m.communities.get? ↔ g.id ∈ ids ∧ m.communities.get? g.id = some g := by
  rw [List.mem_filterMap]
  constructor
  · rintro ⟨x, hx, hg⟩
    rw [m.communitiesKeyed x g hg]
    exact ⟨hx, hg⟩
  · rintro ⟨hx, hg⟩
    exact ⟨g.id, hx, hg⟩

/-- The communities a sync resolves for are the monitored communities the request marks
present. -/
theorem mem_present_monitored {req : SyncRequest} {g : Community} :
    g ∈ (m.presentCommunities req).toList.filterMap m.communities.get? ↔
      (∃ p ∈ req.memberships, p.1 = g.id ∧ p.2 = true) ∧ m.communities.get? g.id = some g := by
  rw [mem_filterMap_get?, Std.TreeSet.mem_toList, mem_presentCommunities]
  constructor
  · rintro ⟨⟨hp, -⟩, hg⟩
    exact ⟨hp, hg⟩
  · rintro ⟨hp, hg⟩
    refine ⟨⟨hp, ?_⟩, hg⟩
    rw [Std.TreeMap.contains_eq_isSome_getElem?, ← Std.TreeMap.get?_eq_getElem?, hg]
    rfl

/-! ## Who needs the identity, and the justification -/

section Justification

variable (req : SyncRequest)

/-- A sync needs the identity exactly when some monitored community the request marks present
needs a strong rule of the rulebook. -/
theorem requiresIdentity_present_iff :
    (m.relevance (m.presentCommunities req)).requiresIdentity = true ↔
      ∃ g : Community, (∃ p ∈ req.memberships, p.1 = g.id ∧ p.2 = true) ∧
        m.communities.get? g.id = some g ∧
        ∃ ρ ∈ m.rulebook.toList, ρ.isStrong = true ∧ g.Needs m.declarations ρ.name := by
  rw [relevance, Relevance.requiresIdentity_compute_iff]
  constructor
  · rintro ⟨ρ, hρ, hs, g, hg, hn⟩
    obtain ⟨hp, hget⟩ := mem_present_monitored.mp hg
    exact ⟨g, hp, hget, ρ, hρ, hs, hn⟩
  · rintro ⟨g, hp, hget, ρ, hρ, hs, hn⟩
    exact ⟨ρ, hρ, hs, g, mem_present_monitored.mpr ⟨hp, hget⟩, hn⟩

/-- The communities that need the identity in a sync are the monitored communities the request
marks present that need a strong rule of the rulebook. -/
theorem mem_strongCommunities_present {x : String} :
    x ∈ (m.relevance (m.presentCommunities req)).strongCommunities ↔
      ∃ g : Community, ((∃ p ∈ req.memberships, p.1 = g.id ∧ p.2 = true) ∧
        m.communities.get? g.id = some g ∧
        ∃ ρ ∈ m.rulebook.toList, ρ.isStrong = true ∧ g.Needs m.declarations ρ.name) ∧ g.id = x := by
  rw [relevance, Relevance.mem_strongCommunities_compute_iff]
  constructor
  · rintro ⟨ρ, hρ, hs, g, hg, hn, rfl⟩
    obtain ⟨hp, hget⟩ := mem_present_monitored.mp hg
    exact ⟨g, ⟨hp, hget, ρ, hρ, hs, hn⟩, rfl⟩
  · rintro ⟨g, ⟨hp, hget, ρ, hρ, hs, hn⟩, rfl⟩
    exact ⟨ρ, hρ, hs, g, mem_present_monitored.mpr ⟨hp, hget⟩, hn, rfl⟩

end Justification

/-- A list of monitored ids is the list of the ids of its communities, and its labels are
theirs. -/
theorem labels_of_monitored :
    ∀ ids : List String, (∀ x ∈ ids, (m.communities.get? x).isSome = true) →
      (ids.filterMap m.communities.get?).map (·.id) = ids ∧
        ids.map m.labelOf = (ids.filterMap m.communities.get?).map (·.label)
  | [], _ => ⟨rfl, rfl⟩
  | x :: ids, hs => by
    obtain ⟨g, hg⟩ := Option.isSome_iff_exists.mp (hs x (List.mem_cons_self ..))
    obtain ⟨h₁, h₂⟩ := labels_of_monitored ids fun y hy => hs y (List.mem_cons_of_mem x hy)
    have hlabel : m.labelOf x = g.label := by simp only [labelOf, hg]
    simp only [List.filterMap_cons, hg, List.map_cons, h₁, h₂, hlabel, m.communitiesKeyed x g hg, and_self]

/-- The justification of a set of monitored ids names, in ascending id order, the labels of their
communities. -/
theorem justification_of_monitored (ids : NameSet)
    (hs : ∀ x ∈ ids, (m.communities.get? x).isSome = true) :
    let gs := ids.toList.filterMap m.communities.get?
    (gs.map (·.id)).Pairwise (· < ·) ∧ (∀ g, g ∈ gs ↔ g.id ∈ ids ∧ m.communities.get? g.id = some g) ∧
      m.justification ids = justificationLead ++ ", ".intercalate (gs.map (·.label)) := by
  intro gs
  obtain ⟨hids, hlabels⟩ := labels_of_monitored ids.toList
    fun x hx => hs x (Std.TreeSet.mem_toList.mp hx)
  refine ⟨?_, fun g => ?_, by rw [justification, hlabels]⟩
  · rw [hids]
    exact ids.ordered_toList.imp fun h => compareOfLessAndEq_eq_lt.mp h
  · rw [mem_filterMap_get?, Std.TreeSet.mem_toList]

/-! ## The identity calls of a sync -/

section Frame

variable (m : Manager) (u : String)

@[simp] theorem sendNotice_identityCalls (n : Notice) :
    (m.sendNotice u n).journal.identityCalls = m.journal.identityCalls := by
  rw [sendNotice_eq]

@[simp] theorem reconcileAll_identityCalls (roles cs : NameSet) :
    (m.reconcileAll u roles cs).2.journal.identityCalls = m.journal.identityCalls := rfl

@[simp] theorem foldl_sendNotice_identityCalls (l : List CommunityOutcome) :
    (l.foldl (fun acc o => acc.sendNotice u (acc.reconciliationNotice o)) m).journal.identityCalls =
      m.journal.identityCalls := by
  induction l generalizing m with
  | nil => rfl
  | cons o rest ih => rw [List.foldl_cons, ih, sendNotice_identityCalls]

/-- A resolution records the identity calls of its disclosure. -/
theorem resolveRoles_journal (user : String) (optedIn : Bool) (ctx : Context) (cs : NameSet) :
    (m.resolveRoles user optedIn ctx cs).2.journal =
      (m.disclose user optedIn (m.relevance cs)).2.journal := by
  unfold resolveRoles
  rw [fanOut_eq]

theorem syncPermitted_identityCalls (req : SyncRequest) :
    (m.syncPermitted req).2.journal.identityCalls =
      (m.disclose req.user req.optedIn (m.relevance (m.presentCommunities req))).2.journal.identityCalls := by
  have hres := m.resolveRoles_journal req.user req.optedIn
    ⟨req.user, req.displayName, req.discriminator⟩ (m.presentCommunities req)
  unfold syncPermitted
  dsimp only
  rw [show NameSet.ofList ((req.memberships.filter fun p => p.2 && m.communities.contains p.1).map
    (·.1)) = m.presentCommunities req from rfl, ← hres]
  rcases m.resolveRoles req.user req.optedIn ⟨req.user, req.displayName, req.discriminator⟩
    (m.presentCommunities req) with ⟨resolved, m₁⟩
  dsimp only
  split <;> split <;> simp

/-- An allowed sync records the identity calls of the disclosure of its resolution, and no
other. -/
theorem resolveAndSync_identityCalls (req : SyncRequest) (h : m.refusal req.user = none) :
    (m.resolveAndSync req).2.journal.identityCalls =
      (m.disclose req.user req.optedIn (m.relevance (m.presentCommunities req))).2.journal.identityCalls := by
  rw [m.resolveAndSync_of_allowed req h, syncPermitted_identityCalls, disclose_identityCalls,
    disclose_identityCalls]
  -- recording the permission check leaves the identity calls and the justification as they were
  rfl

end Frame

end Manager

/-- Minimal identity disclosure, for every sync that passes the permission check. The vault is asked for the identity at most once: exactly when the
user opted in and some monitored community the request marks present needs a strong rule of the
rulebook. The call names the user, is marked automated, and is justified by the labels of exactly
those communities in ascending id order. Whatever rule the resolution evaluates, with whatever
count of earlier runs, an invoked predicate is handed no identity when the rule is weak, and when
it is strong it is handed the string the vault gave, which needed the call. -/
theorem identity_disclosed_minimally (m : Manager) (req : SyncRequest)
    (hallow : m.refusal req.user = none) :
    let fan := m.resolutionFan req.user req.optedIn ⟨req.user, req.displayName, req.discriminator⟩
      (m.presentCommunities req)
    let NeedsIdentity (g : Community) : Prop :=
      (∃ p ∈ req.memberships, p.1 = g.id ∧ p.2 = true) ∧ m.communities.get? g.id = some g ∧
        ∃ ρ ∈ m.rulebook.toList, ρ.isStrong = true ∧ g.Needs m.declarations ρ.name
    ∃ calls : List IdentityCall,
      (m.resolveAndSync req).2.journal.identityCalls = m.journal.identityCalls ++ calls ∧
      calls.length ≤ 1 ∧
      (calls ≠ [] ↔ req.optedIn = true ∧ ∃ g, NeedsIdentity g) ∧
      (∀ call ∈ calls, call.user = req.user ∧ call.automated = true ∧
        ∃ gs : List Community, (gs.map (·.id)).Pairwise (· < ·) ∧ (∀ g, g ∈ gs ↔ NeedsIdentity g) ∧
          call.justification = justificationLead ++ ", ".intercalate (gs.map (·.label))) ∧
      ∀ (ρ : Rule) (n : Nat), (ρ.evaluate fan.ctx fan.identity n).invoked = true →
        ∃ seen, ρ.evaluate fan.ctx fan.identity n =
            ⟨true, (ρ.predicate.run fan.ctx seen n).pauses,
              (ρ.predicate.run fan.ctx seen n).ending.toResult⟩ ∧
          (ρ.isStrong = false → seen = none) ∧
          (ρ.isStrong = true → calls ≠ [] ∧ ∃ id, m.vault.disclose req.user = .ok id ∧ seen = some id) := by
  intro fan NeedsIdentity
  have hcalls := m.resolveAndSync_identityCalls req hallow
  rw [Manager.disclose_identityCalls] at hcalls
  have hid : fan.identity = if (m.relevance (m.presentCommunities req)).requiresIdentity && req.optedIn
      then (m.vault.disclose req.user).toOption else none :=
    m.disclose_identity_eq req.user req.optedIn _
  have hneeds : (∃ g, NeedsIdentity g) ↔
      (m.relevance (m.presentCommunities req)).requiresIdentity = true :=
    (Manager.requiresIdentity_present_iff (m := m) req).symm
  have hstrong := fun x => Manager.mem_strongCommunities_present (m := m) req (x := x)
  generalize m.relevance (m.presentCommunities req) = v at hcalls hid hneeds hstrong
  refine ⟨_, hcalls, ?_, ?_, ?_, ?_⟩
  · split <;> simp
  · rw [hneeds]
    cases v.requiresIdentity <;> cases req.optedIn <;> simp
  · intro call hcall
    split at hcall
    · obtain rfl := List.mem_singleton.mp hcall
      -- the communities needing the identity are monitored, so the justification names their labels
      have hmon : ∀ x ∈ v.strongCommunities, (m.communities.get? x).isSome = true := by
        intro x hx
        obtain ⟨g, ⟨-, hget, -⟩, rfl⟩ := (hstrong x).mp hx
        rw [hget]
        rfl
      obtain ⟨hsorted, hmem, hjust⟩ := Manager.justification_of_monitored (m := m) v.strongCommunities hmon
      refine ⟨rfl, rfl, _, hsorted, fun g => ?_, hjust⟩
      rw [hmem, hstrong]
      constructor
      · rintro ⟨⟨g', hg', hsame⟩, hget⟩
        have heq : some g' = some g := by rw [← hg'.2.1, hsame, hget]
        obtain rfl := Option.some.inj heq
        exact hg'
      · intro hg
        exact ⟨⟨g, hg, rfl⟩, hg.2.1⟩
    · cases hcall
  · intro ρ n hinv
    obtain ⟨seen, hev, hweak, hstrong⟩ := Rule.evaluate_of_invoked hinv
    refine ⟨seen, hev, hweak, fun hs => ?_⟩
    obtain ⟨hsome, rfl⟩ := hstrong hs
    -- a strong predicate runs only on an identity, which only an asking disclosure hands over
    cases hc : (v.requiresIdentity && req.optedIn)
    · rw [hid, hc] at hsome
      cases hsome
    · cases hd : m.vault.disclose req.user with
      | error e =>
        rw [hid, hc, hd] at hsome
        cases hsome
      | ok id => exact ⟨by simp, id, rfl, by rw [hid, hc, hd]; rfl⟩

/-- A user opted in, a named community that maps a role declared with a strong rule, one that
maps only a weak rule's role, and an unmonitored community, all marked present. -/
theorem identity_disclosed_minimally_for_an_opted_in_user :
    let strong : Rule := ⟨"RoleB", .strong, some 60000, .roles ["vip"]⟩
    let weak : Rule := ⟨"RoleA", .weak, none, .roles ["member"]⟩
    let gs : List Community :=
      [⟨"G", some "Guild", .ofList [("vip", "222"), ("member", "111")], ∅⟩,
        ⟨"H", none, .ofList [("member", "333")], ∅⟩]
    let m : Manager :=
      { rulebook := ⟨((∅ : Std.TreeMap String Rule compare).insert strong.name strong).insert
          weak.name weak, none, ((KeyedBy.empty Rule.name).insert strong).insert weak⟩
        declarations := .ofList [⟨"vip", none, "RoleB"⟩, ⟨"member", none, "RoleA"⟩]
        communities := Community.table gs
        communitiesKeyed := Community.keyed_table gs
        cache := RuleCache.disabled
        config := {}
        gate := {}
        vault := { identities := .ofList [("U", "u@example.org")] }
        platform := {}
        notifierDown := false }
    let req : SyncRequest :=
      ⟨"U", true, "Someone", "0001", [("G", true), ("H", true), ("K", true)], true⟩
    m.refusal req.user = none ∧
    let fan := m.resolutionFan req.user req.optedIn ⟨req.user, req.displayName, req.discriminator⟩
      (m.presentCommunities req)
    let NeedsIdentity (g : Community) : Prop :=
      (∃ p ∈ req.memberships, p.1 = g.id ∧ p.2 = true) ∧ m.communities.get? g.id = some g ∧
        ∃ ρ ∈ m.rulebook.toList, ρ.isStrong = true ∧ g.Needs m.declarations ρ.name
    ∃ calls : List IdentityCall,
      (m.resolveAndSync req).2.journal.identityCalls = m.journal.identityCalls ++ calls ∧
      calls.length ≤ 1 ∧
      (calls ≠ [] ↔ req.optedIn = true ∧ ∃ g, NeedsIdentity g) ∧
      (∀ call ∈ calls, call.user = req.user ∧ call.automated = true ∧
        ∃ gs : List Community, (gs.map (·.id)).Pairwise (· < ·) ∧ (∀ g, g ∈ gs ↔ NeedsIdentity g) ∧
          call.justification = justificationLead ++ ", ".intercalate (gs.map (·.label))) ∧
      ∀ (ρ : Rule) (n : Nat), (ρ.evaluate fan.ctx fan.identity n).invoked = true →
        ∃ seen, ρ.evaluate fan.ctx fan.identity n =
            ⟨true, (ρ.predicate.run fan.ctx seen n).pauses,
              (ρ.predicate.run fan.ctx seen n).ending.toResult⟩ ∧
          (ρ.isStrong = false → seen = none) ∧
          (ρ.isStrong = true → calls ≠ [] ∧ ∃ id, m.vault.disclose req.user = .ok id ∧ seen = some id) := by
  intro strong weak gs m req
  have hallow : m.refusal req.user = none := rfl
  exact ⟨hallow, identity_disclosed_minimally m req hallow⟩

end RoleSync
