import RoleSync.Proofs.Resolution
import RoleSync.Proofs.Reconcile
import RoleSync.Proofs.FanOutProgress
/-!
The protocol of one sync. The permission check decides first. A refusal, with the checker's
reason or its failure as text, ends the sync with the refusal notice when notices are on and
with nothing else: no disclosure, no rule, no cache access and no platform call
(`resolveAndSync_refused`).

Otherwise the sync resolves the user's roles once and reconciles each community that the
request marks present and that is monitored, once, in ascending id order (`reconcileAll_ids`);
every platform call it makes is about one of those communities. With notices on, the notices
are the failed rules in name order when some rule failed, then one notice per community that
was not fully reconciled, in id order, carrying the role ids of its failed grants and revokes
(`resolveAndSync_notices`). A notice whose delivery fails changes nothing.

Main statement: `sync_protocol`.
-/

namespace RoleSync

set_option autoImplicit false

/-! ## Reconciling one community -/

/-- A failure names a role id exactly when it is a failed grant or revoke; a failed read of the
held ids names none. -/
def OperationFailure.NamesRole (f : OperationFailure) : Prop :=
  f.roleId.isSome = true ↔ f.action ≠ .listRoles

/-- The calls a session made since `s₀` are all about one community. -/
def PlatformSession.CallsAbout (community : String) (s₀ s : PlatformSession) : Prop :=
  ∃ new, s.calls = s₀.calls ++ new ∧ ∀ c ∈ new, c.community = community

namespace PlatformSession.CallsAbout

variable {community : String}

theorem refl (s : PlatformSession) : s.CallsAbout community s :=
  ⟨[], by simp, by simp⟩

theorem trans {s₀ s₁ s₂ : PlatformSession} (h₁ : s₀.CallsAbout community s₁)
    (h₂ : s₁.CallsAbout community s₂) : s₀.CallsAbout community s₂ := by
  obtain ⟨n₁, e₁, a₁⟩ := h₁
  obtain ⟨n₂, e₂, a₂⟩ := h₂
  refine ⟨n₁ ++ n₂, by rw [e₂, e₁, List.append_assoc], fun c hc => ?_⟩
  rcases List.mem_append.mp hc with hc | hc
  · exact a₁ c hc
  · exact a₂ c hc

/-- One more recorded call about the community. -/
theorem snoc (s : PlatformSession) (p : Platform) (a : PlatformAction) (user role : String) :
    s.CallsAbout community ⟨p, s.calls ++ [⟨community, a, user, role⟩]⟩ :=
  ⟨[_], rfl, by simp⟩

end PlatformSession.CallsAbout

section Loops

variable (community user : String)

/-- A run of grants records its failures with their role ids, and calls only about its
community. -/
theorem grantAll_records (held : Option NameSet) :
    ∀ (ids : List String) (t : Tally) (s : PlatformSession),
      (∀ f ∈ t.failures, f.NamesRole) →
      (∀ f ∈ (grantAll community user held ids (t, s)).1.failures, f.NamesRole) ∧
        s.CallsAbout community (grantAll community user held ids (t, s)).2
  | [], _, s, ht => ⟨ht, .refl s⟩
  | id :: ids, t, s, ht => by
    simp only [grantAll]
    split
    · exact grantAll_records held ids t s ht
    · rcases hg : s.platform.grant community user id with ⟨e | _, p⟩
      · -- a refused grant records its id with the failure
        have hf : ∀ f ∈ t.failures ++ [⟨.grant, some id, e.message⟩], f.NamesRole := by
          intro f hf
          rcases List.mem_append.mp hf with hf | hf
          · exact ht f hf
          · simp only [List.mem_singleton] at hf
            subst hf
            simp [OperationFailure.NamesRole]
        obtain ⟨hr, hc⟩ := grantAll_records held ids
          { t with failures := t.failures ++ [⟨.grant, some id, e.message⟩] } ⟨p, s.calls ++ [⟨community, .grant, user, id⟩]⟩ hf
        simp only [PlatformSession.grant, hg]
        exact ⟨hr, (PlatformSession.CallsAbout.snoc s p .grant user id).trans hc⟩
      · obtain ⟨hr, hc⟩ := grantAll_records held ids { t with granted := t.granted.insert id }
          ⟨p, s.calls ++ [⟨community, .grant, user, id⟩]⟩ ht
        simp only [PlatformSession.grant, hg]
        exact ⟨hr, (PlatformSession.CallsAbout.snoc s p .grant user id).trans hc⟩

/-- A run of revokes records its failures with their role ids, and calls only about its
community. -/
theorem revokeAll_records :
    ∀ (ids : List String) (t : Tally) (s : PlatformSession),
      (∀ f ∈ t.failures, f.NamesRole) →
      (∀ f ∈ (revokeAll community user ids (t, s)).1.failures, f.NamesRole) ∧
        s.CallsAbout community (revokeAll community user ids (t, s)).2
  | [], _, s, ht => ⟨ht, .refl s⟩
  | id :: ids, t, s, ht => by
    simp only [revokeAll]
    rcases hg : s.platform.revoke community user id with ⟨e | _, p⟩
    · have hf : ∀ f ∈ t.failures ++ [⟨.revoke, some id, e.message⟩], f.NamesRole := by
        intro f hf
        rcases List.mem_append.mp hf with hf | hf
        · exact ht f hf
        · simp only [List.mem_singleton] at hf
          subst hf
          simp [OperationFailure.NamesRole]
      obtain ⟨hr, hc⟩ := revokeAll_records ids
        { t with failures := t.failures ++ [⟨.revoke, some id, e.message⟩] } ⟨p, s.calls ++ [⟨community, .revoke, user, id⟩]⟩ hf
      simp only [PlatformSession.revoke, hg]
      exact ⟨hr, (PlatformSession.CallsAbout.snoc s p .revoke user id).trans hc⟩
    · obtain ⟨hr, hc⟩ := revokeAll_records ids { t with revoked := t.revoked.insert id }
        ⟨p, s.calls ++ [⟨community, .revoke, user, id⟩]⟩ ht
      simp only [PlatformSession.revoke, hg]
      exact ⟨hr, (PlatformSession.CallsAbout.snoc s p .revoke user id).trans hc⟩

end Loops

/-- Reconciling a community gives its outcome, whose failures name a role id exactly for a
failed grant or revoke, and makes calls only about that community. -/
theorem reconcileCommunity_records (g : Community) (user : String) (roles : NameSet)
    (remove : Bool) (s : PlatformSession) :
    (reconcileCommunity g user roles remove s).1.communityId = g.id ∧
      (∀ f ∈ (reconcileCommunity g user roles remove s).1.failures, f.NamesRole) ∧
      s.CallsAbout g.id (reconcileCommunity g user roles remove s).2 := by
  unfold reconcileCommunity
  cases remove with
  | false =>
    simp only [Bool.false_eq_true, if_false]
    obtain ⟨hr, hc⟩ := grantAll_records g.id user none (g.mapRoles roles).toList {} s (by simp)
    rcases hga : grantAll g.id user none (g.mapRoles roles).toList ({}, s) with ⟨t, s₂⟩
    rw [hga] at hr hc
    exact ⟨rfl, hr, hc⟩
  | true =>
    have hread : s.CallsAbout g.id (s.memberRoles g.id user).2 := .snoc s _ _ _ _
    rcases hm : s.memberRoles g.id user with ⟨e | h, s₁⟩
    · -- the held ids could not be read: the failed read, then the grants
      rw [hm] at hread
      simp only [if_true]
      obtain ⟨hr, hc⟩ := grantAll_records g.id user none (g.mapRoles roles).toList
        { failures := [⟨.listRoles, none, e.message⟩] } s₁ (by simp [OperationFailure.NamesRole])
      exact ⟨rfl, hr, hread.trans hc⟩
    · rw [hm] at hread
      simp only [if_true]
      obtain ⟨hr, hc⟩ := grantAll_records g.id user (some h) (g.mapRoles roles).toList {} s₁ (by simp)
      rcases hga : grantAll g.id user (some h) (g.mapRoles roles).toList ({}, s₁) with ⟨t, s₂⟩
      rw [hga] at hr hc
      obtain ⟨hr', hc'⟩ := revokeAll_records g.id user (unwarranted g (g.mapRoles roles) h) t s₂ hr
      exact ⟨rfl, hr', hread.trans (hc.trans hc')⟩

/-! ## A community branch -/

namespace Platform

/-- The calls up to the first that panics are among the calls given: they start them. -/
theorem firstPanic_prefix (p : Platform) :
    ∀ {calls before : List PlatformCall} {c : PlatformCall} {text : String},
      p.firstPanic calls = some (before, c, text) → ∃ after, calls = before ++ c :: after
  | [], _, _, _, h => by cases h
  | c₀ :: cs, before, c, text, h => by
    unfold firstPanic at h
    split at h
    · cases h
      exact ⟨cs, rfl⟩
    · obtain ⟨⟨before', c', text'⟩, hrest, heq⟩ := Option.map_eq_some_iff.mp h
      cases heq
      obtain ⟨after, rfl⟩ := firstPanic_prefix p hrest
      exact ⟨after, rfl⟩

end Platform

/-- A community branch gives an outcome for its community, whose failures name a role id exactly
for a failed grant or revoke unless a panic aborted it, and makes calls only about that
community. -/
theorem reconcileBranch_records (g : Community) (user : String) (roles : NameSet)
    (remove : Bool) (s : PlatformSession) :
    (reconcileBranch g user roles remove s).1.communityId = g.id ∧
      ((∀ f ∈ (reconcileBranch g user roles remove s).1.failures, f.NamesRole) ∨
        ∃ text, (reconcileBranch g user roles remove s).1 = .aborted g.id text) ∧
      s.CallsAbout g.id (reconcileBranch g user roles remove s).2 := by
  obtain ⟨hid, hfail, new, hcalls, habout⟩ := reconcileCommunity_records g user roles remove s
  unfold reconcileBranch
  rcases hrc : reconcileCommunity g user roles remove s with ⟨o, s'⟩
  rw [hrc] at hid hfail hcalls
  dsimp only at hid hfail hcalls ⊢
  split
  · exact ⟨hid, .inl hfail, new, hcalls, habout⟩
  · -- the calls up to the panic are the branch's own first calls, all about its community
    rename_i before c text hpanic
    rw [hcalls, List.drop_left] at hpanic
    obtain ⟨after, hnew⟩ := s.platform.firstPanic_prefix hpanic
    refine ⟨rfl, .inr ⟨text, rfl⟩, before ++ [c], by rw [List.append_assoc], fun c' hc' => ?_⟩
    have hmem : c' ∈ before ++ c :: after := by
      rcases List.mem_append.mp hc' with h | h
      · exact List.mem_append_left _ h
      · exact List.mem_append_right _ (List.mem_cons.mpr (.inl (List.mem_singleton.mp h)))
    exact habout c' (hnew ▸ hmem)

/-! ## Reconciling the communities of a sync -/

/-- Community branches run one after another: one outcome per community, in order, each
reconciled or aborted, and platform calls only about those communities. -/
theorem runInOrder_reconcileBranch (user : String) (roles : NameSet) (remove : Bool) :
    ∀ (gs : List Community) (s : PlatformSession),
      (Schedule.runInOrder (fun g s => reconcileBranch g user roles remove s) gs s).1.map
          (·.communityId) = gs.map (·.id) ∧
        (∀ o ∈ (Schedule.runInOrder (fun g s => reconcileBranch g user roles remove s) gs s).1,
          (∀ f ∈ o.failures, f.NamesRole) ∨ ∃ text, o = .aborted o.communityId text) ∧
        ∃ calls, (Schedule.runInOrder (fun g s => reconcileBranch g user roles remove s) gs s).2.calls =
          s.calls ++ calls ∧ ∀ c ∈ calls, c.community ∈ gs.map (·.id)
  | [], s => ⟨rfl, by simp [Schedule.runInOrder], [], by simp [Schedule.runInOrder], by simp⟩
  | g :: gs, s => by
    obtain ⟨hid, hfail, first, hfirst, habout⟩ := reconcileBranch_records g user roles remove s
    obtain ⟨hids, hfails, calls, hcalls, hcallsIn⟩ :=
      runInOrder_reconcileBranch user roles remove gs (reconcileBranch g user roles remove s).2
    simp only [Schedule.runInOrder, List.map_cons, List.mem_cons, forall_eq_or_imp]
    refine ⟨by rw [hid, hids], ⟨?_, hfails⟩, first ++ calls, by rw [hcalls, hfirst,
      List.append_assoc], fun c hc => ?_⟩
    · rcases hfail with h | ⟨text, h⟩
      · exact .inl h
      · exact .inr ⟨text, by rw [h]; rfl⟩
    · rcases List.mem_append.mp hc with hc | hc
      · exact .inl (habout c hc)
      · exact .inr (hcallsIn c hc)

/-- The names of a name set, in ascending order. -/
theorem NameSet.toList_ascending (cs : NameSet) : cs.toList.Pairwise (· < ·) :=
  cs.ordered_toList.imp fun h => compareOfLessAndEq_eq_lt.mp h

namespace Manager

variable (m : Manager) (user : String) (roles : NameSet)

/-- The monitored communities among some ids, found by id, are those ids that are monitored. -/
theorem filterMap_get?_ids (ids : List String) :
    (ids.filterMap m.communities.get?).map (·.id) = ids.filter (m.communities.contains ·) := by
  induction ids with
  | nil => rfl
  | cons id ids ih =>
    cases hg : m.communities.get? id with
    | none =>
      have hc : m.communities.contains id = false := by
        rw [Std.TreeMap.contains_eq_isSome_getElem?, ← Std.TreeMap.get?_eq_getElem?, hg]
        rfl
      rw [List.filterMap_cons, hg, List.filter_cons, hc]
      simp only [Bool.false_eq_true, if_false]
      exact ih
    | some g =>
      have hc : m.communities.contains id = true := by
        rw [Std.TreeMap.contains_eq_isSome_getElem?, ← Std.TreeMap.get?_eq_getElem?, hg]
        rfl
      rw [List.filterMap_cons, hg, List.filter_cons, hc, if_pos rfl, List.map_cons, ih,
        m.communitiesKeyed id g hg]

/-- Reconciling the communities of a sync: the community branches run one after another, and
their outcomes, already in id order, are given as they came. -/
theorem reconcileAll_eq (cs : NameSet) :
    m.reconcileAll user roles cs =
      ((Schedule.runInOrder (fun g s => reconcileBranch g user roles m.config.removeUnwarranted s)
          (cs.toList.filterMap m.communities.get?) ⟨m.platform, []⟩).1,
        { m with
          platform := (Schedule.runInOrder
            (fun g s => reconcileBranch g user roles m.config.removeUnwarranted s)
            (cs.toList.filterMap m.communities.get?) ⟨m.platform, []⟩).2.platform
          journal := { m.journal with
            platformCalls := m.journal.platformCalls ++ (Schedule.runInOrder
              (fun g s => reconcileBranch g user roles m.config.removeUnwarranted s)
              (cs.toList.filterMap m.communities.get?) ⟨m.platform, []⟩).2.calls } }) := by
  obtain ⟨hout, hsh⟩ := @Schedule.run_inOrder _ _ _ _
    (communityKind user roles m.config.removeUnwarranted) (cs.toList.filterMap m.communities.get?)
    (fun g s => reconcileBranch g user roles m.config.removeUnwarranted s) (fun _ _ _ => rfl)
    m.config.maxParallelism m.clock ⟨m.platform, []⟩
  obtain ⟨hids, -, -⟩ := runInOrder_reconcileBranch user roles m.config.removeUnwarranted
    (cs.toList.filterMap m.communities.get?) ⟨m.platform, []⟩
  -- the outcomes come in the order of the ids, which ascend: sorting keeps them as they are
  have hasc : ((Schedule.runInOrder (fun g s => reconcileBranch g user roles
      m.config.removeUnwarranted s) (cs.toList.filterMap m.communities.get?)
      ⟨m.platform, []⟩).1.map (·.communityId)).Pairwise (· < ·) := by
    rw [hids, m.filterMap_get?_ids]
    exact (NameSet.toList_ascending cs).filter _
  have hsorted := @List.mergeSort_of_pairwise _
    (fun a b : CommunityOutcome => decide (a.communityId ≤ b.communityId)) _
    ((List.pairwise_map.mp hasc).imp fun h =>
      decide_eq_true (String.not_lt.mp (String.lt_asymm h)))
  unfold reconcileAll
  dsimp only
  rw [hout, hsh, hsorted]

/-- Reconciling the communities of a sync: one outcome per given id that is monitored, in
ascending order, each reconciled or aborted; the platform calls are all about those ids, and
the notices are left as they were. -/
theorem reconcileAll_records (cs : NameSet) :
    ((m.reconcileAll user roles cs).1.map (·.communityId) =
        cs.toList.filter (m.communities.contains ·)) ∧
      (∀ o ∈ (m.reconcileAll user roles cs).1,
        (∀ f ∈ o.failures, f.NamesRole) ∨ ∃ text, o = .aborted o.communityId text) ∧
      (∃ calls, (m.reconcileAll user roles cs).2.journal.platformCalls =
          m.journal.platformCalls ++ calls ∧
        ∀ c ∈ calls, c.community ∈ cs.toList.filter (m.communities.contains ·)) ∧
      (m.reconcileAll user roles cs).2.journal.notices = m.journal.notices ∧
      (m.reconcileAll user roles cs).2.journal.permissionChecks = m.journal.permissionChecks ∧
      (m.reconcileAll user roles cs).2.communities = m.communities := by
  obtain ⟨hids, hfail, calls, hcalls, hcallsIn⟩ := runInOrder_reconcileBranch user roles
    m.config.removeUnwarranted (cs.toList.filterMap m.communities.get?) ⟨m.platform, []⟩
  rw [m.filterMap_get?_ids] at hids hcallsIn
  rw [reconcileAll_eq]
  refine ⟨hids, hfail, ⟨calls, ?_, hcallsIn⟩, rfl, rfl, rfl⟩
  simp only [hcalls, List.nil_append]

end Manager

/-! ## A sync, step by step -/

namespace Manager

variable (m : Manager)

/-- The checker's answer decides: a denial gives its reason, and a failed check gives its
text after "permission check unavailable: ". -/
theorem refusal_of_verdict {user reason : String}
    (h : m.gate.verdict user = .deny reason ∨
      ∃ e, m.gate.verdict user = .broken e ∧
        reason = "permission check unavailable: " ++ permissionErrorText e) :
    m.refusal user = some reason := by
  rcases h with h | ⟨e, h, rfl⟩ <;> simp [refusal, h]

theorem refusal_of_allow {user : String} (h : m.gate.verdict user = .allow) :
    m.refusal user = none := by
  simp [refusal, h]

/-- A refused sync gives the refusal and sends the refusal notice when both the manager and the
request allow notices; it changes nothing else but the record of the check. -/
theorem resolveAndSync_refused (req : SyncRequest) {reason : String}
    (h : m.refusal req.user = some reason) :
    m.resolveAndSync req = (.denied req.user reason,
      if m.config.notifyOnFailure && req.notify then
        (m.recordPermissionCheck req.user).sendNotice req.user (.joinDenied reason)
      else m.recordPermissionCheck req.user) := by
  simp only [resolveAndSync, h]

/-- An allowed sync goes on with the rest of the sync, after the check is recorded. -/
theorem resolveAndSync_of_allowed (req : SyncRequest) (h : m.refusal req.user = none) :
    m.resolveAndSync req = (m.recordPermissionCheck req.user).syncPermitted req := by
  simp only [resolveAndSync, h]


@[simp] theorem sendNotice_notices (u : String) (n : Notice) :
    (m.sendNotice u n).journal.notices = m.journal.notices ++ [⟨u, n⟩] := by
  rw [sendNotice_eq]

@[simp] theorem sendNotice_platformCalls (u : String) (n : Notice) :
    (m.sendNotice u n).journal.platformCalls = m.journal.platformCalls := by
  rw [sendNotice_eq]

@[simp] theorem sendNotice_communities (u : String) (n : Notice) :
    (m.sendNotice u n).communities = m.communities := by
  rw [sendNotice_eq]

@[simp] theorem sendNotice_config (u : String) (n : Notice) :
    (m.sendNotice u n).config = m.config := by
  rw [sendNotice_eq]

@[simp] theorem sendNotice_permissionChecks (u : String) (n : Notice) :
    (m.sendNotice u n).journal.permissionChecks = m.journal.permissionChecks := by
  rw [sendNotice_eq]

/-- Sending a notice per outcome, each naming the outcome's community by its label. -/
theorem foldl_sendNotice_journal (u : String) (l : List CommunityOutcome) :
    (l.foldl (fun acc o => acc.sendNotice u (acc.reconciliationNotice o)) m).journal.notices =
        m.journal.notices ++ l.map (fun o => ⟨u, m.reconciliationNotice o⟩) ∧
      (l.foldl (fun acc o => acc.sendNotice u (acc.reconciliationNotice o)) m).journal.platformCalls =
        m.journal.platformCalls ∧
      (l.foldl (fun acc o => acc.sendNotice u (acc.reconciliationNotice o)) m).journal.permissionChecks =
        m.journal.permissionChecks := by
  induction l generalizing m with
  | nil => simp
  | cons o rest ih =>
    obtain ⟨h₁, h₂, h₃⟩ := ih (m.sendNotice u (m.reconciliationNotice o))
    refine ⟨?_, ?_, ?_⟩
    · rw [List.foldl_cons, h₁]
      simp [reconciliationNotice, labelOf, sendNotice_eq]
    · rw [List.foldl_cons, h₂, sendNotice_platformCalls]
    · rw [List.foldl_cons, h₃, sendNotice_permissionChecks]

theorem disclose_journal (user : String) (optedIn : Bool) (v : Relevance) :
    (m.disclose user optedIn v).2.journal.notices = m.journal.notices ∧
      (m.disclose user optedIn v).2.journal.platformCalls = m.journal.platformCalls ∧
      (m.disclose user optedIn v).2.journal.permissionChecks = m.journal.permissionChecks := by
  unfold disclose
  split
  · exact ⟨rfl, rfl, rfl⟩
  · split
    · exact ⟨rfl, rfl, rfl⟩
    · dsimp only
      split <;> exact ⟨rfl, rfl, rfl⟩

/-- A resolution sends no notice, makes no platform or permission call, and keeps the monitored
communities and the settings. -/
theorem resolveRoles_frame (user : String) (optedIn : Bool) (ctx : Context) (cs : NameSet) :
    (m.resolveRoles user optedIn ctx cs).2.journal.notices = m.journal.notices ∧
      (m.resolveRoles user optedIn ctx cs).2.journal.platformCalls = m.journal.platformCalls ∧
      (m.resolveRoles user optedIn ctx cs).2.journal.permissionChecks = m.journal.permissionChecks ∧
      (m.resolveRoles user optedIn ctx cs).2.communities = m.communities ∧
      (m.resolveRoles user optedIn ctx cs).2.config = m.config := by
  have hm := m.disclose_eq user optedIn (m.relevance cs)
  obtain ⟨hn, hp, hq⟩ := m.disclose_journal user optedIn (m.relevance cs)
  unfold resolveRoles
  rw [fanOut_eq]
  dsimp only
  rw [hm]
  exact ⟨hn, hp, hq, rfl, rfl⟩

/-- The failed rules of a resolution are listed in name order. -/
theorem resolveRoles_failures_sorted (user : String) (optedIn : Bool) (ctx : Context)
    (cs : NameSet) :
    ((m.resolveRoles user optedIn ctx cs).1.ruleFailures.map (·.rule)).Pairwise (· ≤ ·) := by
  rcases h : m.fanOut user optedIn ctx cs with ⟨d, done, m'⟩
  simp only [resolveRoles, h]
  have hsorted := @List.pairwise_mergeSort RuleFailure (fun a b => decide (a.rule ≤ b.rule))
    (fun a b c hab hbc => by simpa using String.le_trans (by simpa using hab) (by simpa using hbc))
    (fun a b => by simpa using String.le_total a.rule b.rule)
    (done.outcomes.filterMap fun o => o.failure.map fun e => (⟨o.rule, e⟩ : RuleFailure))
  rw [List.pairwise_map]
  exact hsorted.imp (fun h => by simpa using h)

end Manager

/-! ## An allowed sync -/

/-- What an allowed sync of a request leaves, from `m` to `m'`, with the resolved roles and the
outcomes it reports: one outcome per community the request marks present that is monitored, in
ascending id order; platform calls only about those communities; the failed rules in name order;
outcome failures that name a role id exactly when a grant or revoke failed; and the notices the
manager's and the request's flags allow together. -/
structure SyncLaws (m : Manager) (req : SyncRequest) (resolved : ResolvedRoles)
    (outcomes : List CommunityOutcome) (m' : Manager) : Prop where
  ascending : (outcomes.map (·.communityId)).Pairwise (· < ·)
  reconciled : ∀ c, c ∈ outcomes.map (·.communityId) ↔
    (∃ p ∈ req.memberships, p.1 = c ∧ p.2 = true) ∧ m.communities.contains c = true
  platformCalls : ∃ calls, m'.journal.platformCalls = m.journal.platformCalls ++ calls ∧
    ∀ c ∈ calls, c.community ∈ outcomes.map (·.communityId)
  permissionChecks : m'.journal.permissionChecks = m.journal.permissionChecks
  failuresByName : (resolved.ruleFailures.map (·.rule)).Pairwise (· ≤ ·)
  namesRole : ∀ o ∈ outcomes,
    (∀ f ∈ o.failures, f.NamesRole) ∨ ∃ text, o = .aborted o.communityId text
  notices : m'.journal.notices = m.journal.notices ++
    if m.config.notifyOnFailure && req.notify then
      (if resolved.ruleFailures.isEmpty then [] else
        [⟨req.user, .ruleFailures (resolved.ruleFailures.map (·.rule))⟩]) ++
      (outcomes.filter (·.status != .succeeded)).map fun o =>
        ⟨req.user, .reconciliationFailed (m.labelOf o.communityId) (o.failures.filterMap (·.roleId))⟩
    else []

namespace Manager

variable (m : Manager)

/-- The communities a request marks present that are monitored, in ascending order. -/
theorem present_toList (req : SyncRequest) :
    let present := NameSet.ofList
      ((req.memberships.filter fun p => p.2 && m.communities.contains p.1).map (·.1))
    (present.toList.filter (m.communities.contains ·)).Pairwise (· < ·) ∧
      ∀ c, c ∈ present.toList.filter (m.communities.contains ·) ↔
        (∃ p ∈ req.memberships, p.1 = c ∧ p.2 = true) ∧ m.communities.contains c = true := by
  intro present
  refine ⟨?_, fun c => ?_⟩
  · refine (present.ordered_toList.filter _).imp fun h => ?_
    exact compareOfLessAndEq_eq_lt.mp h
  · simp only [List.mem_filter, Std.TreeSet.mem_toList, present, RuleCache.mem_ofList_iff,
      List.mem_map, Bool.and_eq_true]
    constructor
    · rintro ⟨⟨p, ⟨hp, h2, -⟩, rfl⟩, hc⟩
      exact ⟨⟨p, hp, rfl, h2⟩, hc⟩
    · rintro ⟨⟨p, hp, rfl, h2⟩, hc⟩
      exact ⟨⟨p, ⟨hp, h2, hc⟩, rfl⟩, hc⟩

/-- The rest of a sync reports the resolved roles and the outcomes, as `SyncLaws` says. -/
theorem syncPermitted_laws (req : SyncRequest) :
    ∃ resolved outcomes, (m.syncPermitted req).1 = .synced req.user resolved outcomes ∧
      SyncLaws m req resolved outcomes (m.syncPermitted req).2 := by
  obtain ⟨hsorted, hmem⟩ := m.present_toList req
  unfold syncPermitted
  dsimp only
  generalize NameSet.ofList
    ((req.memberships.filter fun p => p.2 && m.communities.contains p.1).map (·.1)) = present
    at hsorted hmem ⊢
  obtain ⟨hn₁, hp₁, hq₁, hc₁, hg₁⟩ :=
    m.resolveRoles_frame req.user req.optedIn ⟨req.user, req.displayName, req.discriminator⟩ present
  have hfs := m.resolveRoles_failures_sorted req.user req.optedIn
    ⟨req.user, req.displayName, req.discriminator⟩ present
  rcases hr : m.resolveRoles req.user req.optedIn ⟨req.user, req.displayName, req.discriminator⟩
    present with ⟨resolved, m₁⟩
  rw [hr] at hn₁ hp₁ hq₁ hc₁ hg₁ hfs
  dsimp only at hn₁ hp₁ hq₁ hc₁ hg₁ hfs ⊢
  -- the notice about failed rules, sent when notices are on and some rule failed
  have hm₂ : ∀ c : Bool,
      (if c = true then m₁.sendNotice req.user (.ruleFailures (resolved.ruleFailures.map (·.rule)))
        else m₁).communities = m.communities ∧
      (if c = true then m₁.sendNotice req.user (.ruleFailures (resolved.ruleFailures.map (·.rule)))
        else m₁).journal.platformCalls = m.journal.platformCalls ∧
      (if c = true then m₁.sendNotice req.user (.ruleFailures (resolved.ruleFailures.map (·.rule)))
        else m₁).journal.permissionChecks = m.journal.permissionChecks ∧
      (if c = true then m₁.sendNotice req.user (.ruleFailures (resolved.ruleFailures.map (·.rule)))
        else m₁).journal.notices = m.journal.notices ++
          if c = true then [⟨req.user, .ruleFailures (resolved.ruleFailures.map (·.rule))⟩] else [] := by
    intro c
    cases c <;> simp [hc₁, hp₁, hq₁, hn₁]
  obtain ⟨h₂c, h₂p, h₂q, h₂n⟩ := hm₂ (m.config.notifyOnFailure && req.notify && !resolved.ruleFailures.isEmpty)
  generalize (if (m.config.notifyOnFailure && req.notify && !resolved.ruleFailures.isEmpty) = true then
      m₁.sendNotice req.user (.ruleFailures (resolved.ruleFailures.map (·.rule))) else m₁) = m₂
    at h₂c h₂p h₂q h₂n ⊢
  obtain ⟨hids, hfail, ⟨calls, hcalls, hcallsIn⟩, h₃n, h₃q, h₃c⟩ :=
    m₂.reconcileAll_records req.user resolved.roles present
  rcases hrc : m₂.reconcileAll req.user resolved.roles present with ⟨outcomes, m₃⟩
  rw [hrc] at hids hfail hcalls h₃n h₃q h₃c
  dsimp only at hids hfail hcalls h₃n h₃q h₃c ⊢
  rw [h₂c] at hids hcallsIn h₃c
  refine ⟨resolved, outcomes, rfl, ⟨?_, ?_, ?_, ?_, hfs, hfail, ?_⟩⟩
  · rw [hids]
    exact hsorted
  · intro c
    rw [hids]
    exact hmem c
  · -- the notices sent after reconciling make no platform call
    refine ⟨calls, ?_, fun c hc => hids ▸ hcallsIn c hc⟩
    have hfold := (m₃.foldl_sendNotice_journal req.user
      (outcomes.filter (·.status != .succeeded))).2
    split <;> simp only [hfold, hcalls, h₂p]
  · have hfold := (m₃.foldl_sendNotice_journal req.user
      (outcomes.filter (·.status != .succeeded))).2.2
    split <;> simp only [hfold, h₃q, h₂q]
  · -- the communities are named by their labels, which reconciling leaves as they were
    have hlabel : ∀ o, m₃.reconciliationNotice o =
        .reconciliationFailed (m.labelOf o.communityId) (o.failures.filterMap (·.roleId)) := by
      intro o
      simp only [reconciliationNotice, labelOf, h₃c]
    cases hn : (m.config.notifyOnFailure && req.notify)
    · simp [h₃n, h₂n, hn]
    · rw [if_pos rfl, if_pos rfl, (m₃.foldl_sendNotice_journal _ _).1, h₃n, h₂n, hn]
      cases he : resolved.ruleFailures.isEmpty <;> simp [hlabel]

/-- An allowed sync reports the resolved roles and the outcomes, as `SyncLaws` says of the
manager with the check recorded. -/
theorem resolveAndSync_allowed (req : SyncRequest)
    (h : m.refusal req.user = none) :
    ∃ resolved outcomes, (m.resolveAndSync req).1 = .synced req.user resolved outcomes ∧
      SyncLaws (m.recordPermissionCheck req.user) req resolved outcomes (m.resolveAndSync req).2 := by
  rw [m.resolveAndSync_of_allowed req h]
  exact (m.recordPermissionCheck req.user).syncPermitted_laws req

/-- The permission checker is asked once per sync, about the requesting user. -/
theorem resolveAndSync_permissionChecks (req : SyncRequest) :
    (m.resolveAndSync req).2.journal.permissionChecks =
      m.journal.permissionChecks ++ [req.user] := by
  cases h : m.refusal req.user with
  | some reason =>
    rw [m.resolveAndSync_refused req h]
    split
    · rw [sendNotice_permissionChecks]
      rfl
    · rfl
  | none =>
    obtain ⟨_, _, -, hlaws⟩ := m.resolveAndSync_allowed req h
    rw [hlaws.permissionChecks]
    rfl

end Manager

/-! ## A failed delivery changes nothing -/

namespace Manager

variable (m : Manager) (down : Bool)

theorem disclose_notifier (user : String) (optedIn : Bool) (v : Relevance) :
    ({ m with notifierDown := down } : Manager).disclose user optedIn v =
      ((m.disclose user optedIn v).1, { (m.disclose user optedIn v).2 with notifierDown := down }) := by
  unfold disclose
  split
  · rfl
  · split
    · rfl
    · dsimp only
      split <;> rfl

theorem resolveRoles_notifier (user : String) (optedIn : Bool) (ctx : Context) (cs : NameSet) :
    ({ m with notifierDown := down } : Manager).resolveRoles user optedIn ctx cs =
      ((m.resolveRoles user optedIn ctx cs).1,
        { (m.resolveRoles user optedIn ctx cs).2 with notifierDown := down }) := by
  unfold resolveRoles
  rw [fanOut_eq, fanOut_eq]
  have hv : ({ m with notifierDown := down } : Manager).relevance cs = m.relevance cs := rfl
  have h := m.disclose_notifier down user optedIn (m.relevance cs)
  rw [hv, h]

theorem reconcileAll_notifier (user : String) (roles cs : NameSet) :
    ({ m with notifierDown := down } : Manager).reconcileAll user roles cs =
      ((m.reconcileAll user roles cs).1,
        { (m.reconcileAll user roles cs).2 with notifierDown := down }) := rfl

theorem sendNotice_notifier (user : String) (n : Notice) :
    ({ m with notifierDown := down } : Manager).sendNotice user n =
      { m.sendNotice user n with notifierDown := down } := by
  rw [sendNotice_eq, sendNotice_eq]

theorem foldl_sendNotice_notifier (user : String) (l : List CommunityOutcome) :
    l.foldl (fun acc o => acc.sendNotice user (acc.reconciliationNotice o))
        ({ m with notifierDown := down } : Manager) =
      { l.foldl (fun acc o => acc.sendNotice user (acc.reconciliationNotice o)) m with
        notifierDown := down } := by
  induction l generalizing m with
  | nil => rfl
  | cons o rest ih =>
    rw [List.foldl_cons, List.foldl_cons, sendNotice_notifier]
    exact ih (m.sendNotice user (m.reconciliationNotice o))

theorem syncPermitted_notifier (req : SyncRequest) :
    ({ m with notifierDown := down } : Manager).syncPermitted req =
      ((m.syncPermitted req).1, { (m.syncPermitted req).2 with notifierDown := down }) := by
  unfold syncPermitted
  simp only [resolveRoles_notifier]
  -- with the two notice flags fixed, each step commutes with the notifier's state
  by_cases hn : (m.config.notifyOnFailure && req.notify) = true <;>
    by_cases he : (m.resolveRoles req.user req.optedIn ⟨req.user, req.displayName, req.discriminator⟩
      (NameSet.ofList ((req.memberships.filter fun p => p.2 && m.communities.contains p.1).map
        (·.1)))).1.ruleFailures.isEmpty = true <;>
    simp only [hn, he, Bool.false_and, Bool.true_and, Bool.not_true, Bool.not_false,
      Bool.false_eq_true, if_true, if_false, sendNotice_notifier, reconcileAll_notifier,
      foldl_sendNotice_notifier]

/-- Whether the notifier delivers or fails makes no difference to a sync: the report and every
other part of the manager come out the same. -/
theorem resolveAndSync_notifier (req : SyncRequest) :
    ({ m with notifierDown := down } : Manager).resolveAndSync req =
      ((m.resolveAndSync req).1, { (m.resolveAndSync req).2 with notifierDown := down }) := by
  have hc : ({ m with notifierDown := down } : Manager).recordPermissionCheck req.user =
      { m.recordPermissionCheck req.user with notifierDown := down } := rfl
  cases h : m.refusal req.user with
  | some reason =>
    have h' : ({ m with notifierDown := down } : Manager).refusal req.user = some reason := h
    rw [resolveAndSync_refused _ req h', m.resolveAndSync_refused req h, hc]
    split <;> simp only [sendNotice_notifier]
  | none =>
    have h' : ({ m with notifierDown := down } : Manager).refusal req.user = none := h
    rw [resolveAndSync_of_allowed _ req h', m.resolveAndSync_of_allowed req h, hc]
    exact syncPermitted_notifier _ down req

end Manager

/-! ## The protocol -/

/-- The protocol of one sync of a request. The permission check, asked once and recorded, decides
first: a denial, or a failure of the check itself, refuses the sync with the checker's reason or
the failure's text, and the refusal notice, sent only when both the manager and the request allow
notices, is all that happens. An allowed sync reports the resolved roles and the outcomes as `SyncLaws` says.
Whether the notifier delivers or fails makes no difference to the report or to anything else. -/
structure Manager.SyncProtocol (m : Manager) (req : SyncRequest) : Prop where
  refused : ∀ reason, (m.gate.verdict req.user = .deny reason ∨
      ∃ e, m.gate.verdict req.user = .broken e ∧
        reason = "permission check unavailable: " ++ permissionErrorText e) →
    m.resolveAndSync req = (.denied req.user reason,
      if m.config.notifyOnFailure && req.notify then
        (m.recordPermissionCheck req.user).sendNotice req.user (.joinDenied reason)
      else m.recordPermissionCheck req.user)
  allowed : m.gate.verdict req.user = .allow →
    ∃ resolved outcomes, (m.resolveAndSync req).1 = .synced req.user resolved outcomes ∧
      SyncLaws (m.recordPermissionCheck req.user) req resolved outcomes (m.resolveAndSync req).2
  checked : (m.resolveAndSync req).2.journal.permissionChecks =
    m.journal.permissionChecks ++ [req.user]
  notifier : ∀ down, ({ m with notifierDown := down } : Manager).resolveAndSync req =
    ((m.resolveAndSync req).1, { (m.resolveAndSync req).2 with notifierDown := down })

/-- Every sync follows the protocol. -/
theorem sync_protocol (m : Manager) (req : SyncRequest) : m.SyncProtocol req where
  refused _ h := m.resolveAndSync_refused req (m.refusal_of_verdict h)
  allowed h := m.resolveAndSync_allowed req (m.refusal_of_allow h)
  checked := m.resolveAndSync_permissionChecks req
  notifier down := m.resolveAndSync_notifier down req

end RoleSync
