import RoleSync.Proofs.CacheModel
/-!
Invalidation on an in-memory store whose methods may fail. A failing method returns its error
and leaves the store as it was, and the call that made it stops there: a put whose `indexAdd`
fails keeps the entry its `replace` wrote, unlisted; an invalidation whose `delete` fails has
already drained the index, so the entries it drained stay, unlisted.

Each call runs under a fault plan of its own (`Attempt`). `CacheCall.effect` is the store a call
leaves under its plan; `attempt_onMemory` proves the session computes exactly that.

Main statement (`invalidated_user_reads_nothing`): for user ids without ':', after an
invalidation of a user that succeeds, a read of any rule for the user misses until a put for
that rule and user writes its entry, provided no earlier call left an entry of the user out of
the user's index (`Attempt.Strands`). Both ways of leaving one out, and a put that writes but
fails to list its entry after the invalidation, do make such a read hit
(`stranded_entry_outlives_invalidation`).
-/

namespace RoleSync

set_option autoImplicit false

/-! ## Calls under a fault plan -/

/-- A call, and the store methods that fail while it runs. -/
structure Attempt where
  call : CacheCall
  faults : Faults

namespace CacheCall

/-- How far the call moves the clock. -/
def elapsed : CacheCall → Nat
  | .advance ms => ms
  | _ => 0

/-- The in-memory store a call leaves when the store methods in `f` fail. -/
def effect (c : RuleCache) (f : Faults) (now : Nat) : CacheCall → MemoryStore → MemoryStore
  | .put rule user roles, mem =>
    if rule.isCacheable = true ∧ emptySetMember ∉ roles ∧ f.replace = none then
      let written := mem.replace now (c.entryKey rule.name user)
        (RuleCache.encodeRoles (NameSet.ofList roles)) rule.ttl
      if f.indexAdd = none then written.indexAdd (c.indexKey user) (c.entryKey rule.name user)
      else written
    else mem
  | .get rule user, mem =>
    if rule.isCacheable = true ∧ f.get = none then (mem.get now (c.entryKey rule.name user)).2
    else mem
  | .invalidate user, mem =>
    if f.indexDrain = none then
      let drained := { mem with indexes := mem.indexes.erase (c.indexKey user) }
      if mem.indexMembers (c.indexKey user) ≠ [] ∧ f.delete = none then
        drained.delete (mem.indexMembers (c.indexKey user))
      else drained
    else mem
  | .purge, mem => (mem.purge now).2
  | .advance _, mem => mem

/-- The store methods a call runs, in order, when the methods in `f` fail: a put lists its entry
only after a write that succeeds, an invalidation deletes only after a drain that succeeds and
finds keys. -/
def methods (c : RuleCache) (f : Faults) : CacheCall → MemoryStore → List StoreMethod
  | .put rule _ roles, _ =>
    if rule.isCacheable = true ∧ emptySetMember ∉ roles then
      if f.replace = none then [.replace, .indexAdd] else [.replace]
    else []
  | .get rule _, _ => if rule.isCacheable = true then [.get] else []
  | .invalidate user, mem =>
    if f.indexDrain = none ∧ mem.indexMembers (c.indexKey user) ≠ [] then [.indexDrain, .delete]
    else [.indexDrain]
  | .purge, _ => []
  | .advance _, _ => []

section Plan

variable (c : RuleCache) (f : Faults) (mem : MemoryStore)

/-- A put leaves the planned answer of the next read as it was. -/
theorem get_after_put (rule : Rule) (user : String) (roles : List String) :
    (f.after ((put rule user roles).methods c f mem)).get = f.get :=
  f.of_after (n := .get) (by simp only [methods]; split_ifs <;> decide)

/-- So does an invalidation. -/
theorem get_after_invalidate (user : String) :
    (f.after ((invalidate user).methods c f mem)).get = f.get :=
  f.of_after (n := .get) (by simp only [methods]; split_ifs <;> decide)

end Plan

end CacheCall

namespace Attempt

/-- The attempt writes the entry of the rule and the user: a put for them whose `replace` runs
and succeeds. -/
def Writes (rule user : String) : Attempt → Prop
  | ⟨.put r u roles, f⟩ =>
    r.name = rule ∧ u = user ∧ r.isCacheable = true ∧ emptySetMember ∉ roles ∧ f.replace = none
  | _ => False

/-- The attempt may leave a live entry of the user out of the user's index: a put for the user
whose `replace` succeeds and whose `indexAdd` fails, or an invalidation of the user whose
`indexDrain` succeeds and whose `delete` fails. -/
def Strands (user : String) : Attempt → Prop
  | ⟨.put r u roles, f⟩ =>
    u = user ∧ r.isCacheable = true ∧ emptySetMember ∉ roles ∧ f.replace = none ∧ f.indexAdd ≠ none
  | ⟨.invalidate u, f⟩ => u = user ∧ f.indexDrain = none ∧ f.delete ≠ none
  | _ => False

instance (rule user : String) : DecidablePred (Writes rule user)
  | ⟨.put r u roles, f⟩ => inferInstanceAs (Decidable
    (r.name = rule ∧ u = user ∧ r.isCacheable = true ∧ emptySetMember ∉ roles ∧ f.replace = none))
  | ⟨.get _ _, _⟩ | ⟨.invalidate _, _⟩ | ⟨.purge, _⟩ | ⟨.advance _, _⟩ => isFalse id

instance (user : String) : DecidablePred (Strands user)
  | ⟨.put r u roles, f⟩ => inferInstanceAs (Decidable
    (u = user ∧ r.isCacheable = true ∧ emptySetMember ∉ roles ∧ f.replace = none ∧ f.indexAdd ≠ none))
  | ⟨.invalidate u, f⟩ => inferInstanceAs (Decidable (u = user ∧ f.indexDrain = none ∧ f.delete ≠ none))
  | ⟨.get _ _, _⟩ | ⟨.purge, _⟩ | ⟨.advance _, _⟩ => isFalse id

end Attempt

namespace CacheSession

/-- A session over an empty in-memory store in which nothing fails, at instant zero. -/
def fresh (keyPrefix : String) : CacheSession :=
  ⟨⟨some (.memory {} Faults.none), keyPrefix⟩, 0⟩

/-- Runs a call with the store methods of its fault plan failing. -/
def attempt (s : CacheSession) (a : Attempt) : CacheAnswer × CacheSession :=
  (s.step (.setFaults a.faults)).2.step a.call.toStep

/-- Runs attempts in order and gives the session they leave. -/
def attempts (s : CacheSession) : List Attempt → CacheSession
  | [] => s
  | a :: as => (s.attempt a).2.attempts as

end CacheSession

/-! ## The session computes the effect -/

theorem contains_ofList_iff (roles : List String) (x : String) :
    (NameSet.ofList roles).contains x = true ↔ x ∈ roles := by
  rw [Std.TreeSet.contains_iff_mem, RuleCache.mem_ofList_iff]

section OnMemory

variable (c : RuleCache) (mem : MemoryStore) (f : Faults) (clock : Nat)

theorem step_put_onMemory (rule : Rule) (user : String) (roles : List String) :
    (CacheSession.step ⟨{ c with store := some (.memory mem f) }, clock⟩ (.put rule user roles)).2 =
      ⟨{ c with store := some (.memory ((CacheCall.put rule user roles).effect c f clock mem)
        (f.after ((CacheCall.put rule user roles).methods c f mem))) }, clock⟩ := by
  have hc := RuleCache.store_withStore c (some (.memory mem f))
  simp only [CacheSession.step]
  by_cases hr : rule.isCacheable = true
  case neg =>
    rw [RuleCache.put_uncacheable _ _ _ _ (by simpa using hr)]
    simp [CacheCall.effect, hr, CacheCall.methods, Faults.after]
  case pos =>
  by_cases hn : emptySetMember ∈ roles
  case pos =>
    rw [RuleCache.put_emptyName _ _ _ _ hc hr ((contains_ofList_iff _ _).mpr hn)]
    simp [CacheCall.effect, hn, CacheCall.methods, Faults.after]
  case neg =>
  have hn' : (NameSet.ofList roles).contains emptySetMember = false :=
    Bool.eq_false_iff.mpr fun h => hn ((contains_ofList_iff _ _).mp h)
  cases hrep : f.replace with
  | some e =>
    rw [RuleCache.put_replaceFault _ _ _ _ hc hr hn' hrep]
    simp [CacheCall.effect, hr, hn, hrep, CacheCall.methods, Faults.after]
  | none =>
    cases hidx : f.indexAdd with
    | some e =>
      rw [RuleCache.put_indexFault _ _ _ _ hc hr hn' hrep hidx]
      simp [CacheCall.effect, hr, hn, hrep, hidx, CacheCall.methods, Faults.after]
    | none =>
      rw [RuleCache.put_stored _ _ _ _ hc hr hn' hrep hidx]
      simp [CacheCall.effect, hr, hn, hrep, hidx, CacheCall.methods, Faults.after]

theorem step_get_onMemory (rule : Rule) (user : String) :
    (CacheSession.step ⟨{ c with store := some (.memory mem f) }, clock⟩ (.get rule user)).2 =
      ⟨{ c with store := some (.memory ((CacheCall.get rule user).effect c f clock mem)
        (f.after ((CacheCall.get rule user).methods c f mem))) }, clock⟩ := by
  have hc := RuleCache.store_withStore c (some (.memory mem f))
  simp only [CacheSession.step]
  by_cases hr : rule.isCacheable = true
  case neg =>
    rw [RuleCache.tryGet_uncacheable _ _ _ (by simpa using hr)]
    simp [CacheCall.effect, hr, CacheCall.methods, Faults.after]
  case pos =>
  cases hg : f.get with
  | some e =>
    rw [RuleCache.tryGet_fault _ _ _ hc hr hg]
    simp [CacheCall.effect, hr, hg, CacheCall.methods, Faults.after]
  | none =>
    cases he : mem.entries[c.entryKey rule.name user]? with
    | none =>
      rw [RuleCache.tryGet_absent _ _ _ hc hr hg he]
      simp [CacheCall.effect, hr, hg, MemoryStore.get, he, CacheCall.methods, Faults.after]
    | some e =>
      by_cases hl : clock < e.expiresAt
      · rw [RuleCache.tryGet_live _ _ _ hc hr hg he hl]
        simp [CacheCall.effect, hr, hg, MemoryStore.get, he, hl, CacheCall.methods, Faults.after]
      · rw [RuleCache.tryGet_dead _ _ _ hc hr hg he hl]
        simp [CacheCall.effect, hr, hg, MemoryStore.get, he, hl, CacheCall.methods, Faults.after]

/-- A read that does not fail, of an entry that is not live, misses. -/
theorem step_get_missing (rule : Rule) (user : String) (hg : f.get = none)
    (h : ¬ mem.LiveAt clock (c.entryKey rule.name user)) :
    (CacheSession.step ⟨{ c with store := some (.memory mem f) }, clock⟩ (.get rule user)).1 =
      .missing := by
  simp only [CacheSession.step]
  rw [RuleCache.tryGet_of_not_live clock rule user (RuleCache.store_withStore c _) hg h]
  rfl

theorem step_invalidate_onMemory (user : String) :
    (CacheSession.step ⟨{ c with store := some (.memory mem f) }, clock⟩ (.invalidate user)).2 =
      ⟨{ c with store := some (.memory ((CacheCall.invalidate user).effect c f clock mem)
        (f.after ((CacheCall.invalidate user).methods c f mem))) }, clock⟩ := by
  have hc := RuleCache.store_withStore c (some (.memory mem f))
  simp only [CacheSession.step]
  cases hd : f.indexDrain with
  | some e =>
    rw [RuleCache.invalidateUser_fault _ hc hd]
    simp [CacheCall.effect, hd, CacheCall.methods, Faults.after]
  | none =>
    by_cases hk : mem.indexMembers (c.indexKey user) = []
    · rw [RuleCache.invalidateUser_none _ hc hd hk]
      simp [CacheCall.effect, hd, hk, CacheCall.methods, Faults.after]
    · cases hdel : f.delete with
      | some e =>
        rw [RuleCache.invalidateUser_deleteFault _ hc hd hk hdel]
        simp [CacheCall.effect, hd, hk, hdel, CacheCall.methods, Faults.after]
      | none =>
        rw [RuleCache.invalidateUser_drained _ hc hd hk hdel]
        simp only [CacheCall.effect, CacheCall.methods, hd, true_and, if_true]
        rw [if_pos ⟨hk, hdel⟩, if_pos hk]
        rfl

/-- An invalidation that succeeds drained the index, and deleted what it drained, if anything. -/
theorem step_invalidate_ok (user : String) {n : Nat}
    (h : (CacheSession.step ⟨{ c with store := some (.memory mem f) }, clock⟩
      (.invalidate user)).1 = .drained n) :
    f.indexDrain = none ∧ (mem.indexMembers (c.indexKey user) = [] ∨ f.delete = none) := by
  have hc := RuleCache.store_withStore c (some (.memory mem f))
  simp only [CacheSession.step] at h
  cases hd : f.indexDrain with
  | some e =>
    rw [RuleCache.invalidateUser_fault _ hc hd] at h
    cases h
  | none =>
    refine ⟨rfl, ?_⟩
    by_cases hk : mem.indexMembers (c.indexKey user) = []
    · exact Or.inl hk
    · cases hdel : f.delete with
      | some e =>
        rw [RuleCache.invalidateUser_deleteFault _ hc hd hk hdel] at h
        cases h
      | none => exact Or.inr rfl

theorem attempt_onMemory (a : Attempt) :
    (CacheSession.attempt ⟨{ c with store := some (.memory mem f) }, clock⟩ a).2 =
      ⟨{ c with store := some (.memory (a.call.effect c a.faults clock mem)
        (a.faults.after (a.call.methods c a.faults mem))) }, clock + a.call.elapsed⟩ := by
  obtain ⟨call, g⟩ := a
  -- the attempt first sets its plan
  have hset : (CacheSession.step ⟨{ c with store := some (.memory mem f) }, clock⟩
      (.setFaults g)).2 = ⟨{ c with store := some (.memory mem g) }, clock⟩ := rfl
  rw [CacheSession.attempt, hset]
  cases call with
  | put rule user roles => exact step_put_onMemory c mem g clock rule user roles
  | get rule user => exact step_get_onMemory c mem g clock rule user
  | invalidate user => exact step_invalidate_onMemory c mem g clock user
  | purge => rfl
  | advance ms => rfl

/-- The answer of an attempt is that of its call, run with its plan in place. -/
theorem attempt_answer (a : Attempt) :
    (CacheSession.attempt ⟨{ c with store := some (.memory mem f) }, clock⟩ a).1 =
      (CacheSession.step ⟨{ c with store := some (.memory mem a.faults) }, clock⟩ a.call.toStep).1 :=
  rfl

end OnMemory

/-! ## What a call does to the entries -/

section Entries

variable {c : RuleCache} {f : Faults} {now : Nat} {mem : MemoryStore}

/-- A call keeps every entry it does not write; only a put whose `replace` runs writes one. -/
theorem entry_effect_of (call : CacheCall) {k : String} {e : MemoryEntry}
    (hk : ∀ rule user roles, call = .put rule user roles →
      rule.isCacheable = true ∧ emptySetMember ∉ roles ∧ f.replace = none →
      c.entryKey rule.name user ≠ k)
    (h : (call.effect c f now mem).entries[k]? = some e) : mem.entries[k]? = some e := by
  cases call with
  | put rule user roles =>
    simp only [CacheCall.effect] at h
    split at h
    case isFalse => exact h
    case isTrue hw =>
    -- listing the key leaves the entries alone
    have hw' : (mem.replace now (c.entryKey rule.name user)
        (RuleCache.encodeRoles (NameSet.ofList roles)) rule.ttl).entries[k]? = some e := by
      split at h <;> simpa using h
    rw [MemoryStore.entries_replace, if_neg (hk rule user roles rfl hw)] at hw'
    exact hw'
  | get rule user =>
    simp only [CacheCall.effect] at h
    split at h
    · exact MemoryStore.entries_get_of _ _ _ _ h
    · exact h
  | invalidate user =>
    simp only [CacheCall.effect] at h
    split at h
    case isFalse => exact h
    case isTrue =>
    split at h
    · rw [MemoryStore.entries_delete] at h
      split at h
      · simp at h
      · exact h
    · exact h
  | purge =>
    simp only [CacheCall.effect, MemoryStore.entries_purge, Option.filter_eq_some_iff] at h
    exact h.1
  | advance ms => exact h

theorem LiveAt.of_effect (call : CacheCall) {k : String}
    (hk : ∀ rule user roles, call = .put rule user roles →
      rule.isCacheable = true ∧ emptySetMember ∉ roles ∧ f.replace = none →
      c.entryKey rule.name user ≠ k)
    (h : (call.effect c f now mem).LiveAt (now + call.elapsed) k) : mem.LiveAt now k := by
  obtain ⟨e, he, hl⟩ := h
  exact ⟨e, entry_effect_of call hk he, by omega⟩

end Entries

/-! ## Entries left out of the index -/

section Listing

variable {c : RuleCache} {now : Nat} {mem : MemoryStore} {user : String}

/-- Every live entry of the user is listed in the user's index. -/
def Listed (c : RuleCache) (now : Nat) (mem : MemoryStore) (user : String) : Prop :=
  ∀ rule, mem.LiveAt now (c.entryKey rule user) →
    c.entryKey rule user ∈ mem.indexes.getD (c.indexKey user) ∅

theorem listed_empty (now : Nat) (user : String) : Listed c now {} user := by
  intro rule ⟨e, he, _⟩
  simp at he

/-- A store that only loses entries, and keeps listing each live entry it listed, stays listed. -/
theorem Listed.of_forget {now' : Nat} {mem' : MemoryStore} (h : Listed c now mem user)
    (hlive : ∀ k, mem'.LiveAt now' k → mem.LiveAt now k)
    (hidx : ∀ k, mem'.LiveAt now' k → k ∈ mem.indexes.getD (c.indexKey user) ∅ →
      k ∈ mem'.indexes.getD (c.indexKey user) ∅) :
    Listed c now' mem' user :=
  fun rule hl => hidx _ hl (h rule (hlive _ hl))

theorem Listed.put (hu : NoColon user) (h : Listed c now mem user) (rule : Rule) {v : String}
    (hv : NoColon v) (roles : List String) {f : Faults}
    (hs : ¬ (v = user ∧ rule.isCacheable = true ∧ emptySetMember ∉ roles ∧ f.replace = none ∧
      f.indexAdd ≠ none)) :
    Listed c now ((CacheCall.put rule v roles).effect c f now mem) user := by
  intro r ⟨e, he, hl⟩
  simp only [CacheCall.effect] at he ⊢
  by_cases hw : rule.isCacheable = true ∧ emptySetMember ∉ roles ∧ f.replace = none
  case neg =>
    rw [if_neg hw] at he ⊢
    exact h r ⟨e, he, hl⟩
  case pos =>
  rw [if_pos hw] at he ⊢
  have he' : (mem.replace now (c.entryKey rule.name v)
      (RuleCache.encodeRoles (NameSet.ofList roles)) rule.ttl).entries[c.entryKey r user]? =
      some e := by
    split at he <;> simpa using he
  rw [MemoryStore.entries_replace] at he'
  by_cases hk : c.entryKey rule.name v = c.entryKey r user
  · -- the entry is the one the put wrote, so its listing did not fail
    obtain ⟨rfl, rfl⟩ := RuleCache.entryKey_inj hv hu hk
    have hidx : f.indexAdd = none := by
      by_contra hidx
      exact hs ⟨rfl, hw.1, hw.2.1, hw.2.2, hidx⟩
    rw [if_pos hidx, MemoryStore.mem_indexAdd]
    exact Or.inl ⟨rfl, hk.symm⟩
  · rw [if_neg hk] at he'
    have hold := h r ⟨e, he', hl⟩
    split
    · exact (MemoryStore.mem_indexAdd _ _ _ _ _).mpr (Or.inr hold)
    · simpa using hold

/-- An invalidation whose drain and delete both succeed leaves no key its index listed live. -/
theorem not_live_of_drained {v k : String} {f : Faults} {now' : Nat} (hd : f.indexDrain = none)
    (hdel : f.delete = none) (hk : k ∈ mem.indexMembers (c.indexKey v)) :
    ¬ ((CacheCall.invalidate v).effect c f now mem).LiveAt now' k := by
  rintro ⟨e, he, _⟩
  simp only [CacheCall.effect, if_pos hd, if_pos (And.intro (List.ne_nil_of_mem hk) hdel)] at he
  rw [MemoryStore.entries_delete, if_pos hk] at he
  cases he

theorem Listed.invalidate (h : Listed c now mem user) (v : String) {f : Faults}
    (hs : ¬ (v = user ∧ f.indexDrain = none ∧ f.delete ≠ none)) :
    Listed c now ((CacheCall.invalidate v).effect c f now mem) user := by
  refine h.of_forget (fun k hl => LiveAt.of_effect (.invalidate v) (by simp) hl) fun k hl hk => ?_
  by_cases hd : f.indexDrain = none
  case neg =>
    simp only [CacheCall.effect, if_neg hd]
    exact hk
  case pos =>
  by_cases hv : v = user
  · -- the user's own index was drained: every key it listed is deleted
    subst hv
    have hdel : f.delete = none := by
      by_contra hn
      exact hs ⟨rfl, hd, hn⟩
    exact absurd hl (not_live_of_drained hd hdel (Std.TreeSet.mem_toList.mpr hk))
  · -- another user's index was drained
    have hik : c.indexKey v ≠ c.indexKey user := fun he => hv (RuleCache.indexKey_inj he)
    simp only [CacheCall.effect, if_pos hd]
    split <;> simpa [MemoryStore.getD_erase_index, hik] using hk

theorem Listed.get (h : Listed c now mem user) (rule : Rule) (v : String) (f : Faults) :
    Listed c now ((CacheCall.get rule v).effect c f now mem) user := by
  refine h.of_forget (fun k hl => LiveAt.of_effect (.get rule v) (by simp) hl) fun k _ hk => ?_
  simp only [CacheCall.effect]
  split
  · rw [MemoryStore.indexes_get]
    exact hk
  · exact hk

theorem Listed.purge (h : Listed c now mem user) (f : Faults) :
    Listed c now (CacheCall.purge.effect c f now mem) user := by
  refine h.of_forget (fun k hl => LiveAt.of_effect .purge (by simp) hl) fun k hl hk => ?_
  -- a purge keeps listing the keys of live entries
  obtain ⟨e, he, hlt⟩ := hl
  have hold : mem.entries[k]? = some e := by
    simp only [CacheCall.effect, MemoryStore.entries_purge, Option.filter_eq_some_iff] at he
    exact he.1
  exact (MemoryStore.mem_purge_index _ _ _ _).mpr ⟨hk, e, hold, hlt⟩

theorem Listed.advance (h : Listed c now mem user) (ms : Nat) (f : Faults) :
    Listed c (now + ms) ((CacheCall.advance ms).effect c f now mem) user :=
  h.of_forget (fun k hl => LiveAt.of_effect (.advance ms) (by simp) hl) fun _ _ hk => hk

/-- Every attempt that strands no entry of the user keeps the user's live entries listed. -/
theorem Listed.effect (hu : NoColon user) (h : Listed c now mem user) (a : Attempt)
    (hc : a.call.ColonFree) (hs : ¬ a.Strands user) :
    Listed c (now + a.call.elapsed) (a.call.effect c a.faults now mem) user := by
  obtain ⟨call, f⟩ := a
  cases call with
  | put rule v roles => exact h.put hu rule hc roles hs
  | get rule v => exact h.get rule v f
  | invalidate v => exact h.invalidate v hs
  | purge => exact h.purge f
  | advance ms => exact h.advance ms f

/-- Once no entry of the rule and user is live, none is until an attempt writes one. -/
theorem not_live_effect {rule : String} (hu : NoColon user)
    (h : ¬ mem.LiveAt now (c.entryKey rule user)) (a : Attempt) (hc : a.call.ColonFree)
    (hw : ¬ a.Writes rule user) :
    ¬ (a.call.effect c a.faults now mem).LiveAt (now + a.call.elapsed) (c.entryKey rule user) := by
  obtain ⟨call, f⟩ := a
  refine fun hl => h (LiveAt.of_effect call ?_ hl)
  rintro r v roles rfl hput hk
  obtain ⟨rfl, rfl⟩ := RuleCache.entryKey_inj (hc : NoColon v) hu hk
  exact hw ⟨rfl, rfl, hput⟩

/-- An invalidation that succeeds on a store listing every live entry of the user leaves no
entry of the user live. -/
theorem not_live_of_invalidate (h : Listed c now mem user) {f : Faults} (hd : f.indexDrain = none)
    (hok : mem.indexMembers (c.indexKey user) = [] ∨ f.delete = none) (rule : String) :
    ¬ ((CacheCall.invalidate user).effect c f now mem).LiveAt now (c.entryKey rule user) := by
  intro hl
  -- the entry was live before, hence listed, hence drained
  have hk : c.entryKey rule user ∈ mem.indexMembers (c.indexKey user) :=
    Std.TreeSet.mem_toList.mpr (h rule (LiveAt.of_effect (.invalidate user) (by simp) hl))
  exact not_live_of_drained hd (hok.resolve_left (List.ne_nil_of_mem hk)) hk hl

end Listing

/-! ## Runs -/

/-- A property of the store that every attempt of a list keeps holds after them all. -/
theorem attempts_keep (c : RuleCache) (P : MemoryStore → Nat → Prop) (as : List Attempt)
    (hstep : ∀ a ∈ as, ∀ mem now, P mem now → P (a.call.effect c a.faults now mem) (now + a.call.elapsed))
    (s : CacheSession)
    (hs : ∃ mem f, s = ⟨{ c with store := some (.memory mem f) }, s.clock⟩ ∧ P mem s.clock) :
    ∃ mem f, s.attempts as = ⟨{ c with store := some (.memory mem f) }, (s.attempts as).clock⟩ ∧
      P mem (s.attempts as).clock := by
  induction as generalizing s with
  | nil => exact hs
  | cons a as ih =>
    obtain ⟨mem, f, hs, hp⟩ := hs
    refine ih (fun a' ha' => hstep a' (List.mem_cons_of_mem _ ha')) _ ?_
    rw [hs, attempt_onMemory]
    exact ⟨_, _, rfl, hstep a (List.mem_cons_self ..) mem s.clock hp⟩

/-- From a store listing every live entry of the user: after an invalidation of the user that
succeeds, and attempts none of which writes the entry of the rule and user, a read of the rule
for the user that does not fail misses. -/
theorem reads_nothing_after_invalidate (c : RuleCache) (mem : MemoryStore) (f₀ : Faults)
    (clock : Nat) {user : String} (hu : NoColon user) (hl : Listed c clock mem user) (f : Faults)
    (rule : Rule) (mid : List Attempt) (f' : Faults) {n : Nat}
    (hok : (CacheSession.attempt ⟨{ c with store := some (.memory mem f₀) }, clock⟩
      ⟨.invalidate user, f⟩).1 = .drained n)
    (hcolon : ∀ a ∈ mid, a.call.ColonFree) (hmid : ∀ a ∈ mid, ¬ a.Writes rule.name user)
    (hget : f'.get = none) :
    (((CacheSession.attempt ⟨{ c with store := some (.memory mem f₀) }, clock⟩
      ⟨.invalidate user, f⟩).2.attempts mid).attempt ⟨.get rule user, f'⟩).1 = .missing := by
  rw [attempt_answer] at hok
  obtain ⟨hd, hdel⟩ := step_invalidate_ok c mem f clock user hok
  rw [attempt_onMemory]
  -- no entry of the user is live after the invalidation, and none of the rule becomes live
  obtain ⟨mem', f'', hc', hl'⟩ := attempts_keep c
    (fun m now => ¬ m.LiveAt now (c.entryKey rule.name user)) mid
    (fun a ha m now h => not_live_effect hu h a (hcolon a ha) (hmid a ha))
    ⟨{ c with store := some (.memory ((CacheCall.invalidate user).effect c f clock mem)
      (f.after ((CacheCall.invalidate user).methods c f mem))) },
      clock + (CacheCall.invalidate user).elapsed⟩
    ⟨_, _, rfl, not_live_of_invalidate hl hd hdel rule.name⟩
  rw [hc', attempt_answer]
  exact step_get_missing c mem' f' _ rule user hget hl'

/-! ## Invalidation under failures -/

/-- Calls run from an empty in-memory store, each with store methods of its choosing failing,
for user ids without ':'. Suppose an invalidation of a user succeeds, and no call before it left
an entry of the user out of the user's index (`Attempt.Strands`). Then, until a put for the rule
and the user writes its entry, a read of the rule for the user that does not itself fail
misses. -/
theorem invalidated_user_reads_nothing (keyPrefix : String) (pre mid : List Attempt)
    {user : String} (hu : NoColon user) (f : Faults) (rule : Rule) (f' : Faults) {n : Nat}
    (hcolon : ∀ a ∈ pre ++ mid, a.call.ColonFree) (hpre : ∀ a ∈ pre, ¬ a.Strands user)
    (hok : (((CacheSession.fresh keyPrefix).attempts pre).attempt ⟨.invalidate user, f⟩).1 =
      .drained n)
    (hmid : ∀ a ∈ mid, ¬ a.Writes rule.name user) (hget : f'.get = none) :
    (((((CacheSession.fresh keyPrefix).attempts pre).attempt ⟨.invalidate user, f⟩).2.attempts
      mid).attempt ⟨.get rule user, f'⟩).1 = .missing := by
  -- before the invalidation every live entry of the user is listed in the user's index
  obtain ⟨mem, f₀, hc, hl⟩ := attempts_keep (CacheSession.fresh keyPrefix).cache
    (fun mem now => Listed (CacheSession.fresh keyPrefix).cache now mem user) pre
    (fun a ha mem now h => h.effect hu a (hcolon a (List.mem_append_left _ ha)) (hpre a ha))
    (CacheSession.fresh keyPrefix) ⟨{}, Faults.none, rfl, listed_empty 0 user⟩
  rw [hc] at hok ⊢
  exact reads_nothing_after_invalidate _ mem f₀ _ hu hl f rule mid f' hok
    (fun a ha => hcolon a (List.mem_append_right _ ha)) hmid hget

/-- A put for another user whose listing fails, and a put for the user whose write fails after the
invalidation, leave the read missing. -/
theorem invalidated_user_reads_nothing_despite_failures :
    (((CacheSession.fresh "rl_").attempts
        [⟨.put ⟨"Staff", .weak, some 1000, .roles []⟩ "alice" ["admin"], Faults.none⟩,
          ⟨.put ⟨"Staff", .weak, some 1000, .roles []⟩ "bob" ["admin"],
            { indexAdd := some (.unavailable "down") }⟩]).attempt
        ⟨.invalidate "alice", Faults.none⟩).1 = .drained 1 ∧
    (((((CacheSession.fresh "rl_").attempts
        [⟨.put ⟨"Staff", .weak, some 1000, .roles []⟩ "alice" ["admin"], Faults.none⟩,
          ⟨.put ⟨"Staff", .weak, some 1000, .roles []⟩ "bob" ["admin"],
            { indexAdd := some (.unavailable "down") }⟩]).attempt
        ⟨.invalidate "alice", Faults.none⟩).2.attempts
        [⟨.put ⟨"Staff", .weak, some 1000, .roles []⟩ "alice" ["guest"],
          { replace := some (.unavailable "down") }⟩]).attempt
        ⟨.get ⟨"Staff", .weak, some 1000, .roles []⟩ "alice", Faults.none⟩).1 = .missing :=
  ⟨rfl, invalidated_user_reads_nothing "rl_" _ _ (by decide) Faults.none _ Faults.none
    (by decide) (by decide) rfl (by decide) rfl⟩

/-- A put whose `indexAdd` fails keeps its entry, unlisted; an invalidation of the user that then
succeeds drains nothing, and the entry is still read. -/
theorem stranded_entry_outlives_invalidation :
    CacheSession.run ⟨⟨some (.memory {} { indexAdd := some (.unavailable "down") }), "rl_"⟩, 0⟩
      [.put ⟨"R1", .weak, some 1000, .roles []⟩ "u" ["a"], .setFaults Faults.none,
        .invalidate "u", .get ⟨"R1", .weak, some 1000, .roles []⟩ "u"] =
      [.failed (.unavailable "down"), .done, .drained 0, .found (NameSet.ofList ["a"])] := by
  rfl

end RoleSync
