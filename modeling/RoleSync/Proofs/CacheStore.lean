import RoleSync.Cache.Session
import Std.Data.TreeMap.Lemmas
import Std.Data.TreeSet.Lemmas
/-!
The storage layer of the rule cache, as the cache's own proofs use it: how the entry keys of
different rules and users relate, what reading back a stored role set gives, what each method of
the in-memory store does to entries and index sets, and one equation for each outcome of the rule
cache's three operations over an in-memory store with a fault plan.

Entry keys are `prefix ++ "roles:" ++ rule ++ ":" ++ user`. For user ids without ':' the key
determines the rule and the user (`RuleCache.entryKey_inj`); for other ids it does not, which is
the subject of the isolation theorems.
-/

namespace RoleSync

set_option autoImplicit false

/-! ## Keys -/

/-- A user id in which ':' does not occur. -/
def NoColon (u : String) : Prop := ':' ∉ u.toList

instance (u : String) : Decidable (NoColon u) := inferInstanceAs (Decidable (':' ∉ u.toList))

/-- Cutting two lists at the last occurrence of a separator: when the separator occurs in
neither tail, both sides agree. -/
theorem eq_of_append_cons_eq {α : Type} {c : α} :
    ∀ {a a' b b' : List α}, c ∉ b → c ∉ b' → a ++ c :: b = a' ++ c :: b' → a = a' ∧ b = b'
  | [], [], b, b', _, _, h => by simpa using h
  | [], x :: a', b, b', hb, _, h => by
    simp only [List.nil_append, List.cons_append, List.cons.injEq] at h
    obtain ⟨rfl, rfl⟩ := h
    simp at hb
  | x :: a, [], b, b', _, hb', h => by
    simp only [List.nil_append, List.cons_append, List.cons.injEq] at h
    obtain ⟨rfl, rfl⟩ := h
    simp at hb'
  | x :: a, y :: a', b, b', hb, hb', h => by
    simp only [List.cons_append, List.cons.injEq] at h
    obtain ⟨rfl, h⟩ := h
    obtain ⟨rfl, rfl⟩ := eq_of_append_cons_eq hb hb' h
    exact ⟨rfl, rfl⟩

namespace RuleCache

theorem entryKey_toList (c : RuleCache) (rule user : String) :
    (c.entryKey rule user).toList =
      (c.keyPrefix ++ "roles:").toList ++ rule.toList ++ ':' :: user.toList := by
  simp [entryKey, String.toList_append]

theorem entryKey_inj {c : RuleCache} {r r' u u' : String} (hu : NoColon u) (hu' : NoColon u')
    (h : c.entryKey r u = c.entryKey r' u') : r = r' ∧ u = u' := by
  have h' := congrArg String.toList h
  rw [entryKey_toList, entryKey_toList, List.append_assoc, List.append_assoc] at h'
  -- the prefix cancels; the user is what follows the last ':'
  obtain ⟨hr, hu⟩ := eq_of_append_cons_eq hu hu' (List.append_cancel_left h')
  exact ⟨String.toList_inj.mp hr, String.toList_inj.mp hu⟩

theorem entryKey_eq_iff {c : RuleCache} {r r' u u' : String} (hu : NoColon u) (hu' : NoColon u') :
    c.entryKey r u = c.entryKey r' u' ↔ r = r' ∧ u = u' :=
  ⟨entryKey_inj hu hu', fun ⟨hr, hu⟩ => hr ▸ hu ▸ rfl⟩

theorem indexKey_inj {c : RuleCache} {u u' : String} (h : c.indexKey u = c.indexKey u') :
    u = u' := by
  simpa [indexKey] using h

/-! ## Stored role sets -/

theorem mem_ofList_iff {l : List String} {x : String} : x ∈ NameSet.ofList l ↔ x ∈ l := by
  simp [NameSet.ofList, Std.TreeSet.mem_ofList]

/-- A role set without the empty name reads back as a hit on the same roles; an empty set is a
hit too, not a miss. -/
theorem decode_encode {roles : NameSet} (h : emptySetMember ∉ roles) :
    ∃ read, decodeMembers (encodeRoles roles) = .hit read ∧ read.Equiv roles := by
  unfold encodeRoles
  split
  · rename_i hempty
    refine ⟨NameSet.ofList [], by simp [decodeMembers, emptySetMember], ?_⟩
    apply Std.TreeSet.Equiv.of_forall_mem_iff
    intro x
    simp only [mem_ofList_iff, List.not_mem_nil, false_iff]
    exact Std.TreeSet.isEmpty_iff_forall_not_mem.mp hempty x
  · rename_i hne
    have hlist : roles.toList.isEmpty = false := by
      rw [Std.TreeSet.isEmpty_toList]
      simpa using hne
    refine ⟨NameSet.ofList (roles.toList.filter (· ≠ emptySetMember)),
      by simp [decodeMembers, hlist], ?_⟩
    apply Std.TreeSet.Equiv.of_forall_mem_iff
    intro x
    simp only [mem_ofList_iff, List.mem_filter, Std.TreeSet.mem_toList, decide_eq_true_eq]
    constructor
    · exact fun hx => hx.1
    · intro hx
      exact ⟨hx, fun he => h (he ▸ hx)⟩

end RuleCache

theorem mem_filter_names {t : NameSet} {f : String → Bool} {x : String} :
    x ∈ t.filter f ↔ x ∈ t ∧ f x = true := by
  rw [Std.TreeSet.mem_filter]
  constructor
  · rintro ⟨h, hf⟩
    rw [Std.TreeSet.get_eq h] at hf
    exact ⟨h, hf⟩
  · rintro ⟨h, hf⟩
    exact ⟨h, by rw [Std.TreeSet.get_eq h]; exact hf⟩

theorem nodup_toList_names (t : NameSet) : t.toList.Nodup := by
  have h := t.distinct_toList
  simp only [Std.LawfulEqCmp.compare_eq_iff_eq] at h
  exact h

/-! ## The in-memory store, method by method -/

namespace MemoryStore

/-- A live entry is stored under the key: present, and expiring after the instant. -/
def LiveAt (s : MemoryStore) (now : Nat) (key : String) : Prop :=
  ∃ e, s.entries[key]? = some e ∧ now < e.expiresAt

variable (s : MemoryStore) (now : Nat)

@[simp] theorem indexes_replace (key : String) (ms : List String) (ttl : Nat) :
    (s.replace now key ms ttl).indexes = s.indexes := rfl

@[simp] theorem entries_indexAdd (ik m : String) : (s.indexAdd ik m).entries = s.entries := rfl

@[simp] theorem indexes_delete (keys : List String) : (s.delete keys).indexes = s.indexes := rfl

theorem entries_replace (key : String) (ms : List String) (ttl : Nat) (k : String) :
    (s.replace now key ms ttl).entries[k]? =
      if key = k then some ⟨ms, now + min ttl maxLifetimeMs⟩ else s.entries[k]? := by
  simp only [replace, Std.TreeMap.getElem?_insert, Std.LawfulEqCmp.compare_eq_iff_eq]

theorem entries_delete (keys : List String) (k : String) :
    (s.delete keys).entries[k]? = if k ∈ keys then none else s.entries[k]? := by
  unfold delete
  simp only
  induction keys generalizing s with
  | nil => simp
  | cons x xs ih =>
    rw [List.foldl_cons]
    have h := ih { s with entries := s.entries.erase x }
    simp only at h
    rw [h, Std.TreeMap.getElem?_erase]
    by_cases hx : x = k
    · subst hx
      simp
    · simp [hx, Ne.symm hx]

theorem mem_indexAdd (ik m ik' x : String) :
    x ∈ (s.indexAdd ik m).indexes.getD ik' ∅ ↔ (ik = ik' ∧ x = m) ∨ x ∈ s.indexes.getD ik' ∅ := by
  simp only [indexAdd, Std.TreeMap.getD_insert, Std.LawfulEqCmp.compare_eq_iff_eq]
  by_cases h : ik = ik'
  · subst h
    simp only [if_true, Std.TreeSet.mem_insert, Std.LawfulEqCmp.compare_eq_iff_eq, true_and]
    rw [eq_comm]
  · simp [h]

theorem getD_erase_index (ik ik' : String) :
    (s.indexes.erase ik).getD ik' ∅ = if ik = ik' then ∅ else s.indexes.getD ik' ∅ := by
  simp only [Std.TreeMap.getD_erase, Std.LawfulEqCmp.compare_eq_iff_eq]

@[simp] theorem indexes_get (key : String) : (s.get now key).2.indexes = s.indexes := by
  unfold get
  split
  · split <;> rfl
  · rfl

/-- A read keeps every entry it does not drop. -/
theorem entries_get_of (key k : String) {e : MemoryEntry}
    (h : (s.get now key).2.entries[k]? = some e) : s.entries[k]? = some e := by
  unfold get at h
  split at h
  · split at h
    · exact h
    · -- a dead entry read is dropped; the others are untouched
      rw [Std.TreeMap.getElem?_erase] at h
      split at h
      · simp at h
      · exact h
  · exact h

theorem entries_purge (k : String) :
    (s.purge now).2.entries[k]? = s.entries[k]?.filter fun e => decide (now < e.expiresAt) := by
  simp only [purge, Std.TreeMap.getElem?_filter']

/-- After a purge an index lists exactly the members it listed that still name a live entry. -/
theorem mem_purge_index (ik x : String) :
    x ∈ (s.purge now).2.indexes.getD ik ∅ ↔
      x ∈ s.indexes.getD ik ∅ ∧ ∃ e, s.entries[x]? = some e ∧ now < e.expiresAt := by
  simp only [purge, Std.TreeMap.getD_filter', Std.TreeMap.getElem?_map]
  rw [Std.TreeMap.getD_eq_getD_getElem?]
  cases h : s.indexes[ik]? with
  | none => simp [Std.TreeSet.not_mem_emptyc]
  | some set =>
    have hlive : ∀ m, (s.entries.filter fun _ e => decide (now < e.expiresAt)).contains m = true ↔
        ∃ e, s.entries[m]? = some e ∧ now < e.expiresAt := by
      intro m
      rw [Std.TreeMap.contains_eq_isSome_getElem?, Std.TreeMap.getElem?_filter']
      cases s.entries[m]? <;> simp
    simp only [Option.map_some, Option.filter_some, Option.getD_some, ← hlive]
    split
    · simp only [Option.getD_some, mem_filter_names]
    · -- a set left empty by the purge is dropped, and then no member is listed
      rename_i hne
      have hempty := Std.TreeSet.isEmpty_iff_forall_not_mem.mp (by simpa using hne)
      simp only [Option.getD_none, Std.TreeSet.not_mem_emptyc, false_iff, not_and]
      intro hx hc
      exact hempty x (mem_filter_names.mpr ⟨hx, hc⟩)

end MemoryStore

/-! ## The rule cache over an in-memory store

One equation per outcome. A cache is read through its store field; the fault plan `f` says which
method fails. -/

namespace RuleCache

-- a cache whose store is replaced keeps its keys
theorem store_withStore (c : RuleCache) (st : Option Store) :
    ({ c with store := st } : RuleCache).store = st := rfl

@[simp] theorem entryKey_withStore (c : RuleCache) (st : Option Store) :
    ({ c with store := st } : RuleCache).entryKey = c.entryKey := rfl

@[simp] theorem indexKey_withStore (c : RuleCache) (st : Option Store) :
    ({ c with store := st } : RuleCache).indexKey = c.indexKey := rfl

section OnMemory

variable {c : RuleCache} {mem : MemoryStore} {f : Faults} (now : Nat) (rule : Rule) (user : String)

theorem tryGet_uncacheable (hr : rule.isCacheable = false) :
    c.tryGet now rule user = (.ok .notFound, c) := by
  unfold tryGet
  split <;> simp_all

theorem tryGet_fault (hc : c.store = some (.memory mem f)) (hr : rule.isCacheable = true)
    {e : CacheError} (he : f.get = some e) :
    c.tryGet now rule user = (.error e, { c with store := some (.memory mem (f.advance .get)) }) := by
  simp [tryGet, hc, hr, Store.getMembers, Store.guarded, Faults.of, Except.map, he]

theorem tryGet_live (hc : c.store = some (.memory mem f)) (hr : rule.isCacheable = true)
    (hf : f.get = none) {e : MemoryEntry} (he : mem.entries[c.entryKey rule.name user]? = some e)
    (hl : now < e.expiresAt) :
    c.tryGet now rule user =
      (.ok (decodeMembers e.members), { c with store := some (.memory mem (f.advance .get)) }) := by
  simp [tryGet, hc, hr, Store.getMembers, Store.guarded, Faults.of, Except.map, hf,
    MemoryStore.get, he, hl]

theorem tryGet_dead (hc : c.store = some (.memory mem f)) (hr : rule.isCacheable = true)
    (hf : f.get = none) {e : MemoryEntry} (he : mem.entries[c.entryKey rule.name user]? = some e)
    (hl : ¬ now < e.expiresAt) :
    c.tryGet now rule user = (.ok .notFound, { c with store := some (.memory
      { mem with entries := mem.entries.erase (c.entryKey rule.name user) } (f.advance .get)) }) := by
  simp [tryGet, hc, hr, Store.getMembers, Store.guarded, Faults.of, Except.map, hf,
    MemoryStore.get, he, hl]

theorem tryGet_absent (hc : c.store = some (.memory mem f)) (hr : rule.isCacheable = true)
    (hf : f.get = none) (he : mem.entries[c.entryKey rule.name user]? = none) :
    c.tryGet now rule user = (.ok .notFound, { c with store := some (.memory mem (f.advance .get)) }) := by
  simp [tryGet, hc, hr, Store.getMembers, Store.guarded, Faults.of, Except.map, hf,
    MemoryStore.get, he]

/-- A read that does not fail, of a pair whose entry is not live, finds nothing. -/
theorem tryGet_of_not_live (hc : c.store = some (.memory mem f)) (hf : f.get = none)
    (h : ¬ mem.LiveAt now (c.entryKey rule.name user)) : (c.tryGet now rule user).1 = .ok .notFound := by
  cases hr : rule.isCacheable
  case false => rw [tryGet_uncacheable _ _ _ hr]
  case true =>
  cases he : mem.entries[c.entryKey rule.name user]? with
  | none => rw [tryGet_absent _ _ _ hc hr hf he]
  | some e =>
    have hl : ¬ now < e.expiresAt := fun hl => h ⟨e, he, hl⟩
    rw [tryGet_dead _ _ _ hc hr hf he hl]

variable (roles : NameSet)

theorem put_uncacheable (hr : rule.isCacheable = false) :
    c.put now rule user roles = (.ok (), c) := by
  unfold put
  split <;> simp_all

theorem put_emptyName (hc : c.store = some (.memory mem f)) (hr : rule.isCacheable = true)
    (hn : roles.contains emptySetMember = true) :
    c.put now rule user roles =
      (.error (.invalidValue ("rule " ++ rule.name ++ " produced an empty role name")), c) := by
  simp [put, hc, hr, hn]

theorem put_replaceFault (hc : c.store = some (.memory mem f)) (hr : rule.isCacheable = true)
    (hn : roles.contains emptySetMember = false) {e : CacheError} (he : f.replace = some e) :
    c.put now rule user roles =
      (.error e, { c with store := some (.memory mem (f.advance .replace)) }) := by
  simp [put, hc, hr, hn, Store.replaceMembers, Store.guarded, Faults.of, he]

/-- The write succeeds and the index update fails: the entry stays, unlisted. -/
theorem put_indexFault (hc : c.store = some (.memory mem f)) (hr : rule.isCacheable = true)
    (hn : roles.contains emptySetMember = false) (hf : f.replace = none) {e : CacheError}
    (he : f.indexAdd = some e) :
    c.put now rule user roles = (.error e, { c with store := some (.memory
      (mem.replace now (c.entryKey rule.name user) (encodeRoles roles) rule.ttl)
      ((f.advance .replace).advance .indexAdd)) }) := by
  simp [put, hc, hr, hn, Store.replaceMembers, Store.indexAdd, Store.guarded, Faults.of, hf, he]

theorem put_stored (hc : c.store = some (.memory mem f)) (hr : rule.isCacheable = true)
    (hn : roles.contains emptySetMember = false) (hf : f.replace = none) (hi : f.indexAdd = none) :
    c.put now rule user roles = (.ok (), { c with store := some (.memory
      ((mem.replace now (c.entryKey rule.name user) (encodeRoles roles) rule.ttl).indexAdd
        (c.indexKey user) (c.entryKey rule.name user)) ((f.advance .replace).advance .indexAdd)) }) := by
  simp [put, hc, hr, hn, Store.replaceMembers, Store.indexAdd, Store.guarded, Faults.of, hf, hi]

theorem invalidateUser_fault (hc : c.store = some (.memory mem f)) {e : CacheError}
    (he : f.indexDrain = some e) :
    c.invalidateUser user = (.error e, { c with store := some (.memory mem (f.advance .indexDrain)) }) := by
  simp [invalidateUser, hc, Store.indexDrain, Store.guarded, Faults.of, he]

theorem invalidateUser_none (hc : c.store = some (.memory mem f)) (hd : f.indexDrain = none)
    (hk : (mem.indexes.getD (c.indexKey user) ∅).toList = []) :
    c.invalidateUser user = (.ok 0, { c with store := some (.memory
      { mem with indexes := mem.indexes.erase (c.indexKey user) } (f.advance .indexDrain)) }) := by
  simp [invalidateUser, hc, Store.indexDrain, Store.guarded, Faults.of, hd, MemoryStore.indexDrain,
    hk]

/-- The drain succeeds and the delete fails: the index is gone, the entries stay. -/
theorem invalidateUser_deleteFault (hc : c.store = some (.memory mem f)) (hd : f.indexDrain = none)
    (hk : (mem.indexes.getD (c.indexKey user) ∅).toList ≠ []) {e : CacheError}
    (he : f.delete = some e) :
    c.invalidateUser user = (.error e, { c with store := some (.memory
      { mem with indexes := mem.indexes.erase (c.indexKey user) }
        ((f.advance .indexDrain).advance .delete)) }) := by
  obtain ⟨x, xs, hxs⟩ := List.exists_cons_of_ne_nil hk
  simp [invalidateUser, hc, Store.indexDrain, Store.delete, Store.guarded, Faults.of, hd,
    MemoryStore.indexDrain, hxs, he, Except.map]

theorem invalidateUser_drained (hc : c.store = some (.memory mem f)) (hd : f.indexDrain = none)
    (hk : (mem.indexes.getD (c.indexKey user) ∅).toList ≠ []) (hdel : f.delete = none) :
    c.invalidateUser user =
      (.ok (mem.indexes.getD (c.indexKey user) ∅).toList.length, { c with store := some (.memory
        ({ mem with indexes := mem.indexes.erase (c.indexKey user) }.delete
          (mem.indexes.getD (c.indexKey user) ∅).toList) ((f.advance .indexDrain).advance .delete)) }) := by
  obtain ⟨x, xs, hxs⟩ := List.exists_cons_of_ne_nil hk
  simp [invalidateUser, hc, Store.indexDrain, Store.delete, Store.guarded, Faults.of, hd,
    MemoryStore.indexDrain, hxs, hdel, Except.map]

end OnMemory

end RuleCache

end RoleSync
