import RoleSync.Proofs.Reconcile
/-!
One reconciliation in closed form, on any platform. Whether the platform refuses a grant or a
revoke, and with which error, depends only on the call (`Platform.grantRefusal`,
`Platform.revokeRefusal`), so the calls a run makes, and which of them fail, are fixed before it
starts: with removal on, the read of the held ids, then a grant of each desired id not known to be
held (`grantIds`), then a revoke of each known held id that is managed, not desired and not sticky
(`revokeIds`), each list in ascending order.

The grant loop skips what is known to be held and is otherwise the loop over the ids it asks for
(`grantAll_skip`); each loop records its calls in order, adds the ids whose call succeeded, lists
a failure per refused call in order, and changes what the member holds by exactly the calls that
succeeded (`grantAll_exact`, `revokeAll_exact`).

Main statement: `reconciliation_is_exact`.
-/

namespace RoleSync

set_option autoImplicit false

namespace Platform

variable (p : Platform) (c u : String) (f : NameSet → NameSet)

@[simp] theorem grantRefusal_updateHeld : (p.updateHeld c u f).grantRefusal = p.grantRefusal := rfl

@[simp] theorem revokeRefusal_updateHeld : (p.updateHeld c u f).revokeRefusal = p.revokeRefusal :=
  rfl

@[simp] theorem memberRolesRefusal_updateHeld :
    (p.updateHeld c u f).memberRolesRefusal = p.memberRolesRefusal := rfl

end Platform

/-! ## The calls of one reconciliation -/

/-- What a reconciliation learns the member holds: with removal on, the platform's answer, unless
the read fails. -/
def readHeld (p : Platform) (g : Community) (user : String) (remove : Bool) : Option NameSet :=
  if remove then (p.memberRoles g.id user).toOption else none

/-- The failure a reconciliation records for its read of the held ids, if the read is made and
fails. -/
def listingFailures (p : Platform) (g : Community) (user : String) (remove : Bool) :
    List OperationFailure :=
  match remove, p.memberRoles g.id user with
  | true, .error e => [⟨.listRoles, none, e.message⟩]
  | _, _ => []

/-- The ids a reconciliation grants, in order: the desired ids not known to be held. -/
def grantIds (g : Community) (roles : NameSet) (held : Option NameSet) : List String :=
  (g.mapRoles roles).toList.filter fun id => (held.map fun h => h.contains id) != some true

/-- The ids a reconciliation revokes, in order: once the held ids are known, those that are
managed, not desired and not sticky. -/
def revokeIds (g : Community) (roles : NameSet) : Option NameSet → List String
  | some h => unwarranted g (g.mapRoles roles) h
  | none => []

/-- The failure a call on an id leaves when the platform refuses it. -/
def refusedCall (action : RoleAction) (refusal : String → Option PlatformError) (id : String) :
    Option OperationFailure :=
  (refusal id).map fun e => ⟨action, some id, e.message⟩

/-! ## The two loops on any platform -/

section Loops

variable (c u : String)

/-- A grant loop skips the ids known to be held without a call: it is the loop over the others,
with nothing known. -/
theorem grantAll_skip (held : Option NameSet) :
    ∀ (ids : List String) (acc : Tally × PlatformSession),
      grantAll c u held ids acc =
        grantAll c u none (ids.filter fun id => (held.map fun h => h.contains id) != some true) acc
  | [], _ => rfl
  | id :: ids, (t, s) => by
    by_cases hk : (held.map fun h => h.contains id) = some true
    · simp only [List.filter_cons, grantAll, hk, ↓reduceIte]
      exact grantAll_skip held ids (t, s)
    · have hk' : ((held.map fun h => h.contains id) != some true) = true := by simpa using hk
      simp only [List.filter_cons, hk', grantAll, hk, ↓reduceIte, Option.map_none, reduceCtorEq]
      split <;> exact grantAll_skip held ids _

/-- A grant loop with nothing known to be held: a grant call per id in order, the ids whose grant
succeeded added to the tally, a failure per refused grant in order, and each successful grant
given to the member. -/
theorem grantAll_exact :
    ∀ (ids : List String) (t : Tally) (s : PlatformSession),
      (grantAll c u none ids (t, s)).2.calls = s.calls ++ ids.map (⟨c, .grant, u, ·⟩) ∧
      (grantAll c u none ids (t, s)).2.platform.grantRefusal = s.platform.grantRefusal ∧
      (grantAll c u none ids (t, s)).2.platform.revokeRefusal = s.platform.revokeRefusal ∧
      (∀ x, x ∈ (grantAll c u none ids (t, s)).1.granted ↔
        x ∈ t.granted ∨ (x ∈ ids ∧ s.platform.grantRefusal c u x = none)) ∧
      (grantAll c u none ids (t, s)).1.revoked = t.revoked ∧
      (grantAll c u none ids (t, s)).1.failures =
        t.failures ++ ids.filterMap (refusedCall .grant (s.platform.grantRefusal c u)) ∧
      ∀ x, x ∈ (grantAll c u none ids (t, s)).2.platform.held c u ↔
        x ∈ s.platform.held c u ∨ (x ∈ ids ∧ s.platform.grantRefusal c u x = none)
  | [], t, s => by simp [grantAll]
  | id :: ids, t, s => by
    have hskip : ((none : Option NameSet).map fun h => h.contains id) = some true ↔ False := by
      simp
    cases hr : s.platform.grantRefusal c u id with
    | some e =>
      -- a refused grant: the call and its failure are recorded, nothing else changes
      have hg : s.grant c u id = (.error e, ⟨s.platform, s.calls ++ [⟨c, .grant, u, id⟩]⟩) := by
        simp only [PlatformSession.grant, Platform.grant, hr]
      obtain ⟨h₁, h₂, h₃, h₄, h₅, h₆, h₇⟩ := grantAll_exact ids
        { t with failures := t.failures ++ [⟨.grant, some id, e.message⟩] }
        ⟨s.platform, s.calls ++ [⟨c, .grant, u, id⟩]⟩
      simp only [grantAll, hskip, if_false, hg]
      refine ⟨by simp [h₁], h₂, h₃, fun x => ?_, h₅, by simp [h₆, refusedCall, hr], fun x => ?_⟩
      · rw [h₄, List.mem_cons]
        constructor
        · rintro (hx | ⟨hx, hn⟩)
          · exact .inl hx
          · exact .inr ⟨.inr hx, hn⟩
        · rintro (hx | ⟨rfl | hx, hn⟩)
          · exact .inl hx
          · rw [hr] at hn
            cases hn
          · exact .inr ⟨hx, hn⟩
      · rw [h₇, List.mem_cons]
        constructor
        · rintro (hx | ⟨hx, hn⟩)
          · exact .inl hx
          · exact .inr ⟨.inr hx, hn⟩
        · rintro (hx | ⟨rfl | hx, hn⟩)
          · exact .inl hx
          · rw [hr] at hn
            cases hn
          · exact .inr ⟨hx, hn⟩
    | none =>
      -- a granted id: the call is recorded, the id added, and the member holds it
      have hg : s.grant c u id = (.ok (), ⟨s.platform.updateHeld c u (·.insert id),
          s.calls ++ [⟨c, .grant, u, id⟩]⟩) := by
        simp only [PlatformSession.grant, Platform.grant, hr]
      obtain ⟨h₁, h₂, h₃, h₄, h₅, h₆, h₇⟩ := grantAll_exact ids
        { t with granted := t.granted.insert id }
        ⟨s.platform.updateHeld c u (·.insert id), s.calls ++ [⟨c, .grant, u, id⟩]⟩
      simp only [grantAll, hskip, if_false, hg]
      simp only [Platform.grantRefusal_updateHeld, Platform.revokeRefusal_updateHeld] at h₂ h₃ h₄ h₆ h₇
      refine ⟨by simp [h₁], h₂, h₃, fun x => ?_, h₅, by simp [h₆, refusedCall, hr], fun x => ?_⟩
      · rw [h₄, Std.TreeSet.mem_insert, Std.LawfulEqCmp.compare_eq_iff_eq, List.mem_cons]
        constructor
        · rintro ((rfl | hx) | ⟨hx, hn⟩)
          · exact .inr ⟨.inl rfl, hr⟩
          · exact .inl hx
          · exact .inr ⟨.inr hx, hn⟩
        · rintro (hx | ⟨rfl | hx, hn⟩)
          · exact .inl (.inr hx)
          · exact .inl (.inl rfl)
          · exact .inr ⟨hx, hn⟩
      · rw [h₇, Platform.held_updateHeld_self, Std.TreeSet.mem_insert,
          Std.LawfulEqCmp.compare_eq_iff_eq, List.mem_cons]
        constructor
        · rintro ((rfl | hx) | ⟨hx, hn⟩)
          · exact .inr ⟨.inl rfl, hr⟩
          · exact .inl hx
          · exact .inr ⟨.inr hx, hn⟩
        · rintro (hx | ⟨rfl | hx, hn⟩)
          · exact .inl (.inr hx)
          · exact .inl (.inl rfl)
          · exact .inr ⟨hx, hn⟩

/-- A revoke loop: a revoke call per id in order, the ids whose revoke succeeded added to the
tally, a failure per refused revoke in order, and each successful revoke taken from the member. -/
theorem revokeAll_exact :
    ∀ (ids : List String) (t : Tally) (s : PlatformSession),
      (revokeAll c u ids (t, s)).2.calls = s.calls ++ ids.map (⟨c, .revoke, u, ·⟩) ∧
      (∀ x, x ∈ (revokeAll c u ids (t, s)).1.revoked ↔
        x ∈ t.revoked ∨ (x ∈ ids ∧ s.platform.revokeRefusal c u x = none)) ∧
      (revokeAll c u ids (t, s)).1.granted = t.granted ∧
      (revokeAll c u ids (t, s)).1.failures =
        t.failures ++ ids.filterMap (refusedCall .revoke (s.platform.revokeRefusal c u)) ∧
      ∀ x, x ∈ (revokeAll c u ids (t, s)).2.platform.held c u ↔
        x ∈ s.platform.held c u ∧ ¬(x ∈ ids ∧ s.platform.revokeRefusal c u x = none)
  | [], t, s => by simp [revokeAll]
  | id :: ids, t, s => by
    cases hr : s.platform.revokeRefusal c u id with
    | some e =>
      have hv : s.revoke c u id = (.error e, ⟨s.platform, s.calls ++ [⟨c, .revoke, u, id⟩]⟩) := by
        simp only [PlatformSession.revoke, Platform.revoke, hr]
      obtain ⟨h₁, h₂, h₃, h₄, h₅⟩ := revokeAll_exact ids
        { t with failures := t.failures ++ [⟨.revoke, some id, e.message⟩] }
        ⟨s.platform, s.calls ++ [⟨c, .revoke, u, id⟩]⟩
      simp only [revokeAll, hv]
      refine ⟨by simp [h₁], fun x => ?_, h₃, by simp [h₄, refusedCall, hr], fun x => ?_⟩
      · rw [h₂, List.mem_cons]
        constructor
        · rintro (hx | ⟨hx, hn⟩)
          · exact .inl hx
          · exact .inr ⟨.inr hx, hn⟩
        · rintro (hx | ⟨rfl | hx, hn⟩)
          · exact .inl hx
          · rw [hr] at hn
            cases hn
          · exact .inr ⟨hx, hn⟩
      · rw [h₅, List.mem_cons]
        constructor
        · rintro ⟨hx, hn⟩
          refine ⟨hx, ?_⟩
          rintro ⟨rfl | hx', hn'⟩
          · rw [hr] at hn'
            cases hn'
          · exact hn ⟨hx', hn'⟩
        · rintro ⟨hx, hn⟩
          exact ⟨hx, fun h => hn ⟨.inr h.1, h.2⟩⟩
    | none =>
      have hv : s.revoke c u id = (.ok (), ⟨s.platform.updateHeld c u (·.erase id),
          s.calls ++ [⟨c, .revoke, u, id⟩]⟩) := by
        simp only [PlatformSession.revoke, Platform.revoke, hr]
      obtain ⟨h₁, h₂, h₃, h₄, h₅⟩ := revokeAll_exact ids
        { t with revoked := t.revoked.insert id }
        ⟨s.platform.updateHeld c u (·.erase id), s.calls ++ [⟨c, .revoke, u, id⟩]⟩
      simp only [revokeAll, hv]
      simp only [Platform.revokeRefusal_updateHeld] at h₂ h₄ h₅
      refine ⟨by simp [h₁], fun x => ?_, h₃, by simp [h₄, refusedCall, hr], fun x => ?_⟩
      · rw [h₂, Std.TreeSet.mem_insert, Std.LawfulEqCmp.compare_eq_iff_eq, List.mem_cons]
        constructor
        · rintro ((rfl | hx) | ⟨hx, hn⟩)
          · exact .inr ⟨.inl rfl, hr⟩
          · exact .inl hx
          · exact .inr ⟨.inr hx, hn⟩
        · rintro (hx | ⟨rfl | hx, hn⟩)
          · exact .inl (.inr hx)
          · exact .inl (.inl rfl)
          · exact .inr ⟨hx, hn⟩
      · rw [h₅, Platform.held_updateHeld_self, Std.TreeSet.mem_erase, ne_eq,
          Std.LawfulEqCmp.compare_eq_iff_eq, List.mem_cons]
        constructor
        · rintro ⟨⟨hne, hx⟩, hn⟩
          refine ⟨hx, ?_⟩
          rintro ⟨rfl | hx', hn'⟩
          · exact hne rfl
          · exact hn ⟨hx', hn'⟩
        · rintro ⟨hx, hn⟩
          exact ⟨⟨fun h => hn ⟨.inl h.symm, h ▸ hr⟩, hx⟩, fun h => hn ⟨.inr h.1, h.2⟩⟩

end Loops
/-! ## The ids called -/

section Ids

variable {g : Community} {roles : NameSet} {held : Option NameSet} {x : String}

theorem grantIds_sorted : (grantIds g roles held).Pairwise (· < ·) :=
  ((g.mapRoles roles).ordered_toList.filter _).imp fun h => compareOfLessAndEq_eq_lt.mp h

theorem mem_grantIds :
    x ∈ grantIds g roles held ↔ x ∈ g.mapRoles roles ∧ ∀ h, held = some h → x ∉ h := by
  rcases held with _ | h <;>
    simp [grantIds, Std.TreeSet.mem_toList, ← Std.TreeSet.contains_iff_mem]

theorem revokeIds_sorted : (revokeIds g roles held).Pairwise (· < ·) := by
  rcases held with _ | h
  · exact List.Pairwise.nil
  · exact (h.ordered_toList.filter _).imp fun h => compareOfLessAndEq_eq_lt.mp h

theorem mem_revokeIds :
    x ∈ revokeIds g roles held ↔ ∃ h, held = some h ∧ x ∈ h ∧ x ∈ g.managedIds ∧
      x ∉ g.mapRoles roles ∧ g.isSticky x = false := by
  rcases held with _ | h
  · simp [revokeIds]
  · simp [revokeIds, mem_unwarranted]

/-- No id is both granted and revoked in one run: the revoked ones are never desired. -/
theorem not_mem_revokeIds_of_mem_grantIds (hx : x ∈ grantIds g roles held) :
    x ∉ revokeIds g roles held := fun hv => by
  obtain ⟨-, -, -, -, hnd, -⟩ := mem_revokeIds.mp hv
  exact hnd (mem_grantIds.mp hx).1

end Ids

/-! ## One run -/

/-- A run, unfolded into its three phases: the read (with removal on), the grant loop over the
ids not known to be held, and the revoke loop. -/
theorem reconcile_phases (g : Community) (user : String) (roles : NameSet) (remove : Bool)
    (s : PlatformSession) :
    reconcileCommunity g user roles remove s =
      let held := readHeld s.platform g user remove
      let r₁ := grantAll g.id user none (grantIds g roles held)
        ({ failures := listingFailures s.platform g user remove },
          { s with calls := s.calls ++ if remove then [⟨g.id, .memberRoles, user, ""⟩] else [] })
      let r₂ := revokeAll g.id user (revokeIds g roles held) (r₁.1, r₁.2)
      (CommunityOutcome.ofOperations g.id r₂.1.granted r₂.1.revoked r₂.1.failures, r₂.2) := by
  cases remove with
  | false =>
    simp only [reconcileCommunity, readHeld, listingFailures, Bool.false_eq_true, if_false,
      List.append_nil, grantIds]
    rw [grantAll_skip]
    rfl
  | true =>
    cases hm : s.platform.memberRoles g.id user with
    | error e =>
      simp only [reconcileCommunity, readHeld, listingFailures, if_true, PlatformSession.memberRoles,
        hm, Except.toOption, grantIds]
      rw [grantAll_skip]
      rfl
    | ok h =>
      simp only [reconcileCommunity, readHeld, listingFailures, if_true, PlatformSession.memberRoles,
        hm, Except.toOption, grantIds]
      rw [grantAll_skip]
      rfl

namespace CommunityOutcome

variable (c : String) (granted revoked : NameSet) (failures : List OperationFailure)

theorem status_succeeded_iff :
    (ofOperations c granted revoked failures).status = .succeeded ↔ failures = [] := by
  simp only [ofOperations, SyncStatus.classify]
  rcases failures with _ | ⟨f, fs⟩
  · simp
  · simp only [List.isEmpty_cons, Bool.false_eq_true, if_false]
    split <;> simp_all

/-- Nothing was applied exactly when no id was granted or revoked. -/
theorem applied_eq_zero_iff :
    granted.size + revoked.size = 0 ↔ ∀ x, x ∉ granted ∧ x ∉ revoked := by
  have hg := Std.TreeSet.isEmpty_eq_size_eq_zero (t := granted)
  have hr := Std.TreeSet.isEmpty_eq_size_eq_zero (t := revoked)
  have eg := Std.TreeSet.isEmpty_iff_forall_not_mem (t := granted)
  have er := Std.TreeSet.isEmpty_iff_forall_not_mem (t := revoked)
  rw [hg, beq_iff_eq] at eg
  rw [hr, beq_iff_eq] at er
  rw [Nat.add_eq_zero_iff, eg, er]
  exact ⟨fun h x => ⟨h.1 x, h.2 x⟩, fun h => ⟨fun x => (h x).1, fun x => (h x).2⟩⟩

theorem status_failed_iff :
    (ofOperations c granted revoked failures).status = .failed ↔
      failures ≠ [] ∧ ∀ x, x ∉ granted ∧ x ∉ revoked := by
  rw [← applied_eq_zero_iff]
  simp only [ofOperations, SyncStatus.classify]
  rcases failures with _ | ⟨f, fs⟩
  · simp
  · simp only [List.isEmpty_cons, Bool.false_eq_true, if_false]
    split <;> simp_all

theorem status_partial_iff :
    (ofOperations c granted revoked failures).status = .partiallySucceeded ↔
      failures ≠ [] ∧ ∃ x, x ∈ granted ∨ x ∈ revoked := by
  have h : (∃ x, x ∈ granted ∨ x ∈ revoked) ↔ ¬∀ x, x ∉ granted ∧ x ∉ revoked := by
    simp only [Classical.not_forall, Classical.not_and_iff_not_or_not, Classical.not_not]
  rw [h, ← applied_eq_zero_iff]
  simp only [ofOperations, SyncStatus.classify]
  rcases failures with _ | ⟨f, fs⟩
  · simp
  · simp only [List.isEmpty_cons, Bool.false_eq_true, if_false]
    split <;> simp_all

end CommunityOutcome

/-! ## The run in closed form -/

/-- The outcome of a run is made from the operations it recorded. -/
theorem reconcile_outcome_eq (g : Community) (user : String) (roles : NameSet) (remove : Bool)
    (s : PlatformSession) :
    (reconcileCommunity g user roles remove s).1 = CommunityOutcome.ofOperations g.id
      (reconcileCommunity g user roles remove s).1.granted
      (reconcileCommunity g user roles remove s).1.revoked
      (reconcileCommunity g user roles remove s).1.failures := by
  rw [reconcile_phases]
  rfl

/-- What one run does, on any platform: its calls in order, the ids whose grant or revoke
succeeded, a failure per failed call in call order, and what the member then holds. -/
theorem reconcile_run (g : Community) (user : String) (roles : NameSet) (remove : Bool)
    (s : PlatformSession) :
    let held := readHeld s.platform g user remove
    let r := reconcileCommunity g user roles remove s
    r.2.calls = s.calls ++ (if remove then [⟨g.id, .memberRoles, user, ""⟩] else []) ++
        (grantIds g roles held).map (⟨g.id, .grant, user, ·⟩) ++
        (revokeIds g roles held).map (⟨g.id, .revoke, user, ·⟩) ∧
      r.1.communityId = g.id ∧
      (∀ x, x ∈ r.1.granted ↔ x ∈ grantIds g roles held ∧ s.platform.grantRefusal g.id user x = none) ∧
      (∀ x, x ∈ r.1.revoked ↔ x ∈ revokeIds g roles held ∧ s.platform.revokeRefusal g.id user x = none) ∧
      r.1.failures = listingFailures s.platform g user remove ++
        (grantIds g roles held).filterMap (refusedCall .grant (s.platform.grantRefusal g.id user)) ++
        (revokeIds g roles held).filterMap (refusedCall .revoke (s.platform.revokeRefusal g.id user)) ∧
      ∀ x, x ∈ r.2.platform.held g.id user ↔
        x ∈ r.1.granted ∨ (x ∈ s.platform.held g.id user ∧ x ∉ r.1.revoked) := by
  dsimp only
  rw [reconcile_phases]
  dsimp only
  generalize readHeld s.platform g user remove = held
  -- the grant loop starts after the read, on the same platform
  obtain ⟨g₁, -, g₃, g₄, g₅, g₆, g₇⟩ := grantAll_exact g.id user (grantIds g roles held)
    { failures := listingFailures s.platform g user remove }
    { s with calls := s.calls ++ if remove then [⟨g.id, .memberRoles, user, ""⟩] else [] }
  dsimp only at g₁ g₃ g₄ g₅ g₆ g₇
  generalize grantAll g.id user none (grantIds g roles held)
    ({ failures := listingFailures s.platform g user remove },
      { s with calls := s.calls ++ if remove then [⟨g.id, .memberRoles, user, ""⟩] else [] }) = r₁
    at g₁ g₃ g₄ g₅ g₆ g₇ ⊢
  obtain ⟨v₁, v₂, v₃, v₄, v₅⟩ := revokeAll_exact g.id user (revokeIds g roles held) r₁.1 r₁.2
  generalize revokeAll g.id user (revokeIds g roles held) (r₁.1, r₁.2) = r₂ at v₁ v₂ v₃ v₄ v₅ ⊢
  rw [g₃] at v₂ v₄ v₅
  have hgranted : ∀ x, x ∈ r₂.1.granted ↔
      x ∈ grantIds g roles held ∧ s.platform.grantRefusal g.id user x = none := by
    intro x
    rw [v₃, g₄]
    simp
  have hrevoked : ∀ x, x ∈ r₂.1.revoked ↔
      x ∈ revokeIds g roles held ∧ s.platform.revokeRefusal g.id user x = none := by
    intro x
    rw [v₂, g₅]
    simp
  refine ⟨by rw [v₁, g₁], rfl, hgranted, hrevoked, by rw [← g₆, ← v₄]; rfl, fun x => ?_⟩
  simp only [CommunityOutcome.ofOperations]
  rw [v₅, g₇, hgranted, hrevoked]
  -- a granted id is desired, so never revoked in the same run
  by_cases hg : x ∈ grantIds g roles held ∧ s.platform.grantRefusal g.id user x = none
  · have hv := not_mem_revokeIds_of_mem_grantIds hg.1
    simp [hg, hv]
  · simp [hg]

/-- A read that succeeds gives what the member holds. -/
theorem memberRoles_eq_ok {p : Platform} {c u : String} {h : NameSet}
    (hm : p.memberRoles c u = .ok h) : h = p.held c u := by
  simp only [Platform.memberRoles] at hm
  split at hm
  · cases hm
  · exact (Except.ok.inj hm).symm

/-- Exact reconciliation of one community, on any platform, whatever each call answers. With
removal on, the member's held ids are read first; a failed read records one failure and leaves
nothing known to be held. Then each desired id not known to be held is granted, in ascending
order, and, once the held ids are known, each held id that is managed, not desired and not sticky
is revoked, in ascending order; no other call is made. The granted and revoked ids are exactly
those whose call succeeded, the failures are the failed calls in call order, and the status says
whether none, some or all calls failed, counting as succeeded only grants and revokes. The
platform applies what succeeded; when removal is on and every call succeeds the member ends with
the desired ids and, of what they held, the unmanaged and the sticky ids. -/
theorem reconciliation_is_exact (g : Community) (user : String) (roles : NameSet) (remove : Bool)
    (s : PlatformSession) :
    let held := readHeld s.platform g user remove
    let grants := grantIds g roles held
    let revokes := revokeIds g roles held
    let o := (reconcileCommunity g user roles remove s).1
    let s' := (reconcileCommunity g user roles remove s).2
    (held = if remove then (s.platform.memberRoles g.id user).toOption else none) ∧
    (grants.Pairwise (· < ·) ∧
      ∀ x, x ∈ grants ↔ x ∈ g.mapRoles roles ∧ ∀ h, held = some h → x ∉ h) ∧
    (revokes.Pairwise (· < ·) ∧
      ∀ x, x ∈ revokes ↔ ∃ h, held = some h ∧ x ∈ h ∧ x ∈ g.managedIds ∧
        x ∉ g.mapRoles roles ∧ g.isSticky x = false) ∧
    s'.calls = s.calls ++ (if remove then [⟨g.id, .memberRoles, user, ""⟩] else []) ++
      grants.map (⟨g.id, .grant, user, ·⟩) ++ revokes.map (⟨g.id, .revoke, user, ·⟩) ∧
    o.communityId = g.id ∧
    (∀ x, x ∈ o.granted ↔ x ∈ grants ∧ s.platform.grantRefusal g.id user x = none) ∧
    (∀ x, x ∈ o.revoked ↔ x ∈ revokes ∧ s.platform.revokeRefusal g.id user x = none) ∧
    o.failures = listingFailures s.platform g user remove ++
      grants.filterMap (refusedCall .grant (s.platform.grantRefusal g.id user)) ++
      revokes.filterMap (refusedCall .revoke (s.platform.revokeRefusal g.id user)) ∧
    (o.status = .succeeded ↔ o.failures = []) ∧
    (o.status = .failed ↔ o.failures ≠ [] ∧ ∀ x, x ∉ o.granted ∧ x ∉ o.revoked) ∧
    (o.status = .partiallySucceeded ↔ o.failures ≠ [] ∧ ∃ x, x ∈ o.granted ∨ x ∈ o.revoked) ∧
    (∀ x, x ∈ s'.platform.held g.id user ↔
      x ∈ o.granted ∨ (x ∈ s.platform.held g.id user ∧ x ∉ o.revoked)) ∧
    (remove = true → o.failures = [] → ∀ x, x ∈ s'.platform.held g.id user ↔
      x ∈ g.mapRoles roles ∨
        (x ∈ s.platform.held g.id user ∧ (x ∉ g.managedIds ∨ g.isSticky x = true))) := by
  have hrun := reconcile_run g user roles remove s
  have hout := reconcile_outcome_eq g user roles remove s
  dsimp only at hrun ⊢
  obtain ⟨hcalls, hid, hgranted, hrevoked, hfailures, hheld⟩ := hrun
  have hstatus := congrArg CommunityOutcome.status hout
  refine ⟨rfl, ⟨grantIds_sorted, fun x => mem_grantIds⟩, ⟨revokeIds_sorted, fun x => mem_revokeIds⟩,
    hcalls, hid, hgranted, hrevoked, hfailures, ?_, ?_, ?_, hheld, fun hrem hnone x => ?_⟩
  · rw [hstatus, CommunityOutcome.status_succeeded_iff]
  · rw [hstatus, CommunityOutcome.status_failed_iff]
  · rw [hstatus, CommunityOutcome.status_partial_iff]
  · -- with no failure the read succeeded and every planned call went through
    rw [hfailures, List.append_eq_nil_iff, List.append_eq_nil_iff, List.filterMap_eq_nil_iff,
      List.filterMap_eq_nil_iff] at hnone
    obtain ⟨⟨hlist, hgok⟩, hvok⟩ := hnone
    subst hrem
    obtain ⟨h, hm⟩ : ∃ h, s.platform.memberRoles g.id user = .ok h := by
      cases hm : s.platform.memberRoles g.id user with
      | error e => simp [listingFailures, hm] at hlist
      | ok h => exact ⟨h, rfl⟩
    have hh : readHeld s.platform g user true = some (s.platform.held g.id user) := by
      simp [readHeld, hm, Except.toOption, memberRoles_eq_ok hm]
    rw [hh] at hgok hvok
    have hg : ∀ y ∈ grantIds g roles (some (s.platform.held g.id user)),
        s.platform.grantRefusal g.id user y = none := fun y hy => by
      simpa [refusedCall] using hgok y hy
    have hv : ∀ y ∈ revokeIds g roles (some (s.platform.held g.id user)),
        s.platform.revokeRefusal g.id user y = none := fun y hy => by
      simpa [refusedCall] using hvok y hy
    rw [hheld, hgranted, hrevoked, hh]
    constructor
    · rintro (⟨hG, -⟩ | ⟨hx, hnv⟩)
      · exact .inl (mem_grantIds.mp hG).1
      · by_cases hd : x ∈ g.mapRoles roles
        · exact .inl hd
        · -- a held id that stayed was not one to revoke
          refine .inr ⟨hx, ?_⟩
          by_cases hm : x ∈ g.managedIds
          · cases hs : g.isSticky x
            · have hV : x ∈ revokeIds g roles (some (s.platform.held g.id user)) :=
                mem_revokeIds.mpr ⟨_, rfl, hx, hm, hd, hs⟩
              exact absurd ⟨hV, hv x hV⟩ hnv
            · exact .inr rfl
          · exact .inl hm
    · rintro (hd | ⟨hx, hms⟩)
      · by_cases hx : x ∈ s.platform.held g.id user
        · refine .inr ⟨hx, ?_⟩
          rintro ⟨hV, -⟩
          obtain ⟨_, -, -, -, hnd, -⟩ := mem_revokeIds.mp hV
          exact hnd hd
        · have hG : x ∈ grantIds g roles (some (s.platform.held g.id user)) :=
            mem_grantIds.mpr ⟨hd, fun h hh => by cases hh; exact hx⟩
          exact .inl ⟨hG, hg x hG⟩
      · refine .inr ⟨hx, ?_⟩
        rintro ⟨hV, -⟩
        obtain ⟨_, -, -, hm, -, hs⟩ := mem_revokeIds.mp hV
        rcases hms with hms | hms
        · exact hms hm
        · rw [hms] at hs
          cases hs

end RoleSync
