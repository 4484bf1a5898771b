import RoleSync.Manager.Reconcile
import RoleSync.Proofs.CacheStore
/-!
Reconciling one community with removal on, on a platform that carries out every call about
that community. One run leaves the member holding every desired id and, of the ids they held
before, those the community does not manage and the sticky ones (`reconcile_held`): the member
is then settled for those roles (`Settled`), and a run for a settled member asks for the held ids
and does nothing else (`reconcile_of_settled`).

Main statement (`reconcile_idempotent_and_supersedable`): a second run with the same roles makes
no grant or revoke and changes nothing on the platform, and a run with `R1` followed by one with
`R2` leaves the member holding what one run with `R2` leaves from the held ids plus the sticky
ids `R1` maps to. So a superseded run leaves behind only sticky ids.
-/

namespace RoleSync

set_option autoImplicit false

theorem mem_values_of_get? {t : Std.TreeMap String String compare} {k v : String}
    (h : t.get? k = some v) : v ∈ t.values := by
  have hv : t.values = t.toList.map Prod.snd := by
    simp only [Std.TreeMap.values, Std.TreeMap.toList, Std.DTreeMap.values,
      Std.DTreeMap.Const.toList, Std.DTreeMap.Internal.Impl.values_eq_map_snd,
      Std.DTreeMap.Internal.Impl.Const.toList_eq_toListModel_map, List.map_map]
    rfl
  rw [hv, List.mem_map]
  exact ⟨(k, v), Std.TreeMap.mem_toList_iff_getElem?_eq_some.mpr (by simpa using h), rfl⟩

namespace Community

theorem mem_mapRoles {g : Community} {roles : NameSet} {x : String} :
    x ∈ g.mapRoles roles ↔ ∃ r ∈ roles, g.roleMap.get? r = some x := by
  simp [mapRoles, RuleCache.mem_ofList_iff, List.mem_filterMap, Std.TreeSet.mem_toList]

/-- Every id a community maps a role to is one it manages. -/
theorem managed_of_mem_mapRoles {g : Community} {roles : NameSet} {x : String}
    (h : x ∈ g.mapRoles roles) : x ∈ g.managedIds := by
  obtain ⟨r, -, hr⟩ := mem_mapRoles.mp h
  exact RuleCache.mem_ofList_iff.mpr (mem_values_of_get? hr)

/-- A member is settled in a community for the desired ids `D` when they hold all of `D` and
every other managed id they hold is sticky. -/
def Settled (g : Community) (desired held : NameSet) : Prop :=
  (∀ x ∈ desired, x ∈ held) ∧ ∀ x ∈ held, x ∈ g.managedIds → x ∉ desired → g.isSticky x = true

end Community

namespace Platform

/-- Every call about a community succeeds: any member's ids can be read, and no grant or revoke
of any id is refused. -/
structure Faithful (p : Platform) (community : String) : Prop where
  reads : ∀ user, p.memberRolesRefusal community user = none
  grants : ∀ user id, p.grantRefusal community user id = none
  revokes : ∀ user id, p.revokeRefusal community user id = none

variable {p : Platform} {c u : String}

@[simp] theorem held_updateHeld_self (f : NameSet → NameSet) :
    (p.updateHeld c u f).held c u = f (p.held c u) := by
  simp [updateHeld]

/-- Changing what a member holds changes none of the platform's refusals. -/
theorem Faithful.updateHeld (h : p.Faithful c) (c' u' : String) (f : NameSet → NameSet) :
    (p.updateHeld c' u' f).Faithful c :=
  ⟨h.reads, h.grants, h.revokes⟩

theorem memberRoles_of_faithful (h : p.Faithful c) : p.memberRoles c u = .ok (p.held c u) := by
  simp [memberRoles, h.reads u]

theorem grant_of_faithful (h : p.Faithful c) (id : String) :
    p.grant c u id = (.ok (), p.updateHeld c u fun s => s.insert id) := by
  simp [grant, h.grants u id]

theorem revoke_of_faithful (h : p.Faithful c) (id : String) :
    p.revoke c u id = (.ok (), p.updateHeld c u fun s => s.erase id) := by
  simp [revoke, h.revokes u id]

end Platform

/-! ## The two loops on a faithful platform -/

section Loops

variable {c : String} (u : String)

/-- Grants on a platform that carries them out: the member gains each id not found held. -/
theorem grantAll_held (h : NameSet) (ids : List String) :
    ∀ (t : Tally) (s : PlatformSession), s.platform.Faithful c →
      (grantAll c u (some h) ids (t, s)).2.platform.Faithful c ∧
      ∀ x, x ∈ (grantAll c u (some h) ids (t, s)).2.platform.held c u ↔
        x ∈ s.platform.held c u ∨ (x ∈ ids ∧ x ∉ h) := by
  induction ids with
  | nil => intro t s hf; exact ⟨hf, by simp [grantAll]⟩
  | cons id ids ih =>
    intro t s hf
    by_cases hid : h.contains id = true
    · -- a held id is skipped without a call
      simp only [grantAll, Option.map_some, hid, if_true]
      obtain ⟨hf', hx⟩ := ih t s hf
      refine ⟨hf', fun x => ?_⟩
      rw [hx, List.mem_cons]
      have : id ∈ h := Std.TreeSet.contains_iff_mem.mp hid
      constructor
      · rintro (hx | ⟨hx, hn⟩)
        · exact .inl hx
        · exact .inr ⟨.inr hx, hn⟩
      · rintro (hx | ⟨rfl | hx, hn⟩)
        · exact .inl hx
        · exact absurd this hn
        · exact .inr ⟨hx, hn⟩
    · simp only [grantAll, Option.map_some, hid, PlatformSession.grant,
        Platform.grant_of_faithful hf]
      simp only [Option.some.injEq, Bool.false_eq_true, if_false]
      obtain ⟨hf', hx⟩ := ih _ ⟨s.platform.updateHeld c u fun s => s.insert id,
        s.calls ++ [⟨c, .grant, u, id⟩]⟩ (hf.updateHeld c u fun s => s.insert id)
      refine ⟨hf', fun x => ?_⟩
      rw [hx, Platform.held_updateHeld_self, Std.TreeSet.mem_insert,
        Std.LawfulEqCmp.compare_eq_iff_eq, List.mem_cons]
      have : id ∉ h := fun hm => hid (Std.TreeSet.contains_iff_mem.mpr hm)
      constructor
      · rintro ((rfl | hx) | ⟨hx, hn⟩)
        · exact .inr ⟨.inl rfl, this⟩
        · exact .inl hx
        · exact .inr ⟨.inr hx, hn⟩
      · rintro (hx | ⟨rfl | hx, hn⟩)
        · exact .inl (.inr hx)
        · exact .inl (.inl rfl)
        · exact .inr ⟨hx, hn⟩

/-- Grants of ids that are all held already make no call. -/
theorem grantAll_of_held (h : NameSet) (ids : List String) (hall : ∀ x ∈ ids, x ∈ h)
    (acc : Tally × PlatformSession) : grantAll c u (some h) ids acc = acc := by
  induction ids with
  | nil => rfl
  | cons id ids ih =>
    have hid : h.contains id = true :=
      Std.TreeSet.contains_iff_mem.mpr (hall id (List.mem_cons_self ..))
    obtain ⟨t, s⟩ := acc
    simp only [grantAll, Option.map_some, hid, if_true]
    exact ih (fun x hx => hall x (List.mem_cons_of_mem _ hx))

/-- Revokes on a platform that carries them out: the member loses each listed id. -/
theorem revokeAll_held (ids : List String) :
    ∀ (t : Tally) (s : PlatformSession), s.platform.Faithful c →
      (revokeAll c u ids (t, s)).2.platform.Faithful c ∧
      ∀ x, x ∈ (revokeAll c u ids (t, s)).2.platform.held c u ↔
        x ∈ s.platform.held c u ∧ x ∉ ids := by
  induction ids with
  | nil => intro t s hf; exact ⟨hf, by simp [revokeAll]⟩
  | cons id ids ih =>
    intro t s hf
    simp only [revokeAll, PlatformSession.revoke, Platform.revoke_of_faithful hf]
    obtain ⟨hf', hx⟩ := ih _ ⟨s.platform.updateHeld c u fun s => s.erase id,
      s.calls ++ [⟨c, .revoke, u, id⟩]⟩ (hf.updateHeld c u fun s => s.erase id)
    refine ⟨hf', fun x => ?_⟩
    simp only [hx, Platform.held_updateHeld_self, Std.TreeSet.mem_erase, ne_eq,
      Std.LawfulEqCmp.compare_eq_iff_eq, List.mem_cons, not_or]
    constructor
    · rintro ⟨⟨hne, hx⟩, hn⟩
      exact ⟨hx, fun h => hne h.symm, hn⟩
    · rintro ⟨hx, hne, hn⟩
      exact ⟨⟨fun h => hne h.symm, hx⟩, hn⟩

end Loops

theorem mem_unwarranted {g : Community} {desired held : NameSet} {x : String} :
    x ∈ unwarranted g desired held ↔
      x ∈ held ∧ x ∈ g.managedIds ∧ x ∉ desired ∧ g.isSticky x = false := by
  simp [unwarranted, Std.TreeSet.mem_toList, ← Std.TreeSet.contains_iff_mem, and_assoc]

/-! ## One run -/

section Run

variable {g : Community} (user : String) (roles : NameSet) {s : PlatformSession}

/-- A run with removal on, on a faithful platform: read the held ids, grant the desired ones not
held, then revoke the unwarranted ones. -/
theorem reconcile_of_faithful (hf : s.platform.Faithful g.id) :
    reconcileCommunity g user roles true s =
      let held := s.platform.held g.id user
      let desired := g.mapRoles roles
      let read : PlatformSession := { s with calls := s.calls ++ [⟨g.id, .memberRoles, user, ""⟩] }
      let (t, s1) := grantAll g.id user (some held) desired.toList ({}, read)
      let (t, s2) := revokeAll g.id user (unwarranted g desired held) (t, s1)
      (CommunityOutcome.ofOperations g.id t.granted t.revoked t.failures, s2) := by
  simp [reconcileCommunity, PlatformSession.memberRoles, Platform.memberRoles_of_faithful hf]

/-- After one run the member holds every desired id and, of what they held, the ids the
community does not manage and the sticky ones; the platform still carries out every call. -/
theorem reconcile_held (hf : s.platform.Faithful g.id) :
    (reconcileCommunity g user roles true s).2.platform.Faithful g.id ∧
    ∀ x, x ∈ (reconcileCommunity g user roles true s).2.platform.held g.id user ↔
      x ∈ g.mapRoles roles ∨
        (x ∈ s.platform.held g.id user ∧ (x ∉ g.managedIds ∨ g.isSticky x = true)) := by
  rw [reconcile_of_faithful user roles hf]
  obtain ⟨hf1, hx1⟩ := grantAll_held user (s.platform.held g.id user)
    (g.mapRoles roles).toList {} { s with calls := s.calls ++ [⟨g.id, .memberRoles, user, ""⟩] } hf
  obtain ⟨hf2, hx2⟩ := revokeAll_held user
    (unwarranted g (g.mapRoles roles) (s.platform.held g.id user)) _ _ hf1
  refine ⟨hf2, fun x => ?_⟩
  rw [hx2, hx1, mem_unwarranted, Std.TreeSet.mem_toList]
  -- the grants add what was missing; the revokes take exactly the unwarranted held ids
  by_cases hd : x ∈ g.mapRoles roles
  · simpa [hd] using Classical.em (x ∈ s.platform.held g.id user)
  · by_cases hm : x ∈ g.managedIds <;> cases hs : g.isSticky x <;> simp [hd, hm]

/-- One run leaves the member settled for the roles it was given. -/
theorem reconcile_settled (hf : s.platform.Faithful g.id) :
    g.Settled (g.mapRoles roles)
      ((reconcileCommunity g user roles true s).2.platform.held g.id user) := by
  have hx := (reconcile_held user roles hf).2
  refine ⟨fun x hd => (hx x).mpr (.inl hd), fun x hh hm hd => ?_⟩
  rcases (hx x).mp hh with hd' | ⟨-, hm' | hs⟩
  · exact absurd hd' hd
  · exact absurd hm hm'
  · exact hs

/-- A run for a settled member only reads the held ids: no grant, no revoke, nothing changed. -/
theorem reconcile_of_settled (hf : s.platform.Faithful g.id)
    (hs : g.Settled (g.mapRoles roles) (s.platform.held g.id user)) :
    reconcileCommunity g user roles true s =
      (CommunityOutcome.ofOperations g.id ∅ ∅ [],
        { s with calls := s.calls ++ [⟨g.id, .memberRoles, user, ""⟩] }) := by
  rw [reconcile_of_faithful user roles hf]
  have hnone : unwarranted g (g.mapRoles roles) (s.platform.held g.id user) = [] := by
    apply List.eq_nil_iff_forall_not_mem.mpr
    intro x hx
    obtain ⟨hh, hm, hd, hns⟩ := mem_unwarranted.mp hx
    rw [hs.2 x hh hm hd] at hns
    exact Bool.noConfusion hns
  dsimp only
  rw [grantAll_of_held _ _ _ (fun x hx => hs.1 x (Std.TreeSet.mem_toList.mp hx)), hnone]
  rfl

end Run

/-- Reconciling twice with the same roles changes nothing the second time, and a run superseded
by a later one leaves behind only the sticky ids it granted. -/
theorem reconcile_idempotent_and_supersedable (g : Community) (user : String)
    (roles r1 r2 : NameSet) (s s' : PlatformSession) (hf : s.platform.Faithful g.id)
    (hf' : s'.platform.Faithful g.id)
    (hstart : ∀ x, x ∈ s'.platform.held g.id user ↔
      x ∈ s.platform.held g.id user ∨ (x ∈ g.mapRoles r1 ∧ g.isSticky x = true)) :
    (let s1 := (reconcileCommunity g user roles true s).2
     let (o2, s2) := reconcileCommunity g user roles true s1
     s2.platform = s1.platform ∧ s2.calls = s1.calls ++ [⟨g.id, .memberRoles, user, ""⟩] ∧
       o2.status = .succeeded ∧ o2.granted = ∅ ∧ o2.revoked = ∅) ∧
    ∀ x, x ∈ (reconcileCommunity g user r2 true
          (reconcileCommunity g user r1 true s).2).2.platform.held g.id user ↔
        x ∈ (reconcileCommunity g user r2 true s').2.platform.held g.id user := by
  refine ⟨?_, fun x => ?_⟩
  · -- the first run settles the member, so the second finds nothing to do
    have hf1 := (reconcile_held user roles hf).1
    dsimp only
    rw [reconcile_of_settled user roles hf1 (reconcile_settled user roles hf)]
    exact ⟨rfl, rfl, rfl, rfl, rfl⟩
  · obtain ⟨hf1, hx1⟩ := reconcile_held user r1 hf
    rw [(reconcile_held user r2 hf1).2, hx1, (reconcile_held user r2 hf').2, hstart]
    -- what `r1` maps to is managed, so of it only the sticky ids survive `r2`
    have hman : x ∈ g.mapRoles r1 → x ∈ g.managedIds := Community.managed_of_mem_mapRoles
    by_cases h1 : x ∈ g.mapRoles r1 <;> by_cases hm : x ∈ g.managedIds <;>
      cases hs : g.isSticky x <;> simp_all

/-- A community mapping a sticky "vip" and a plain "member": superseding a "vip" run by a
"member" run keeps the sticky id, as one "member" run from a member already holding it does. -/
theorem reconcile_laws_on_sticky_vip :
    let g : Community := ⟨"g", none, .ofList [("member", "111"), ("vip", "222")], .ofList ["222"]⟩
    let s : PlatformSession := ⟨{}, []⟩
    let s' : PlatformSession := ⟨(({} : Platform).updateHeld "g" "u" fun _ => .ofList ["222"]), []⟩
    s.platform.Faithful g.id ∧ s'.platform.Faithful g.id ∧
    (∀ x, x ∈ s'.platform.held g.id "u" ↔
      x ∈ s.platform.held g.id "u" ∨ (x ∈ g.mapRoles (.ofList ["vip"]) ∧ g.isSticky x = true)) ∧
    ((let s1 := (reconcileCommunity g "u" (.ofList ["vip"]) true s).2
      let (o2, s2) := reconcileCommunity g "u" (.ofList ["vip"]) true s1
      s2.platform = s1.platform ∧ s2.calls = s1.calls ++ [⟨g.id, .memberRoles, "u", ""⟩] ∧
        o2.status = .succeeded ∧ o2.granted = ∅ ∧ o2.revoked = ∅) ∧
     ∀ x, x ∈ (reconcileCommunity g "u" (.ofList ["member"]) true
          (reconcileCommunity g "u" (.ofList ["vip"]) true s).2).2.platform.held g.id "u" ↔
        x ∈ (reconcileCommunity g "u" (.ofList ["member"]) true s').2.platform.held g.id "u") := by
  intro g s s'
  have hf : s.platform.Faithful g.id := ⟨fun _ => rfl, fun _ _ => rfl, fun _ _ => rfl⟩
  have hf' : s'.platform.Faithful g.id := ⟨fun _ => rfl, fun _ _ => rfl, fun _ _ => rfl⟩
  have hvip : g.roleMap.get? "vip" = some "222" := rfl
  have hsticky : g.isSticky "222" = true := rfl
  have hstart : ∀ x, x ∈ s'.platform.held g.id "u" ↔
      x ∈ s.platform.held g.id "u" ∨ (x ∈ g.mapRoles (.ofList ["vip"]) ∧ g.isSticky x = true) := by
    intro x
    have hl : s'.platform.held g.id "u" = NameSet.ofList ["222"] :=
      Platform.held_updateHeld_self (p := {}) (c := "g") (u := "u") fun _ => .ofList ["222"]
    have h0 : s.platform.held g.id "u" = ∅ := rfl
    rw [hl, h0, RuleCache.mem_ofList_iff, List.mem_singleton, Community.mem_mapRoles]
    constructor
    · rintro rfl
      exact .inr ⟨⟨"vip", RuleCache.mem_ofList_iff.mpr (List.mem_singleton_self _), hvip⟩, hsticky⟩
    · rintro (hx | ⟨⟨r, hr, hget⟩, -⟩)
      · exact absurd hx Std.TreeSet.not_mem_emptyc
      · rw [RuleCache.mem_ofList_iff, List.mem_singleton] at hr
        subst hr
        rw [hvip] at hget
        exact (Option.some.inj hget).symm
  exact ⟨hf, hf', hstart, reconcile_idempotent_and_supersedable g "u" (.ofList ["vip"])
    (.ofList ["vip"]) (.ofList ["member"]) s s' hf hf' hstart⟩

end RoleSync
