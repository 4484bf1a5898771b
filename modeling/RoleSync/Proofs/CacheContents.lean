import RoleSync.Proofs.CacheStore
/-!
What the entries of a rule cache can hold. Each cache method is said once by what it may do to
its store (`tryGet_onMemory`, `put_onMemory`, `invalidateUser_onMemory`, and their database
twins): an in-memory store stays in memory with the same fault plan, and its entries are the old
ones less some dropped, plus, for a write, the entry it writes; a database store stays a
database; a cache without a store is unchanged.

So a property of every stored entry, by key (`RuleCache.Holds`), is kept by every read and every
invalidation, and by a write whose new entry has the property, whatever store method fails on
the way; and a read that hits decodes an entry that was stored under the pair's key and is live.
These are the cache's half of every invariant of a resolution: the fan-out's laws for reads and
write-backs (`Schedule.Laws`) are proved from them.
-/

namespace RoleSync

set_option autoImplicit false

namespace MemoryStore

theorem entries_erase_within (s : MemoryStore) (key : String) :
    ∀ (k : String) (e : MemoryEntry), (s.entries.erase key)[k]? = some e →
      s.entries[k]? = some e := by
  intro k e h
  rw [Std.TreeMap.getElem?_erase] at h
  split at h
  · cases h
  · exact h

theorem entries_delete_within (s : MemoryStore) (keys : List String) :
    ∀ (k : String) (e : MemoryEntry), (s.delete keys).entries[k]? = some e →
      s.entries[k]? = some e := by
  intro k e h
  rw [entries_delete] at h
  split at h
  · cases h
  · exact h

end MemoryStore

namespace Store

theorem onDatabase_error {α : Type} (w : Nat → Int) (e : DatabaseError) (d : Sql.engine.Conn) :
    onDatabase w ((.error e, d) : Except DatabaseError α × Sql.engine.Conn) =
      (.error e.toCacheError, .database d w) :=
  rfl

theorem onDatabase_ok {α : Type} (w : Nat → Int) (a : α) (d : Sql.engine.Conn) :
    onDatabase w ((.ok a, d) : Except DatabaseError α × Sql.engine.Conn) =
      (.ok a, .database d w) :=
  rfl

end Store

namespace RuleCache

variable {c : RuleCache}

theorem eq_withStore {s : Store} (hc : c.store = some s) : c = { c with store := some s } := by
  cases c
  cases hc
  rfl

/-! ## What each method does to its store -/

section OnMemory

variable {mem : MemoryStore} {f : Faults} (now : Nat) (rule : Rule) (user : String)

/-- A read keeps an in-memory store in memory and at most drops an entry. -/
theorem tryGet_onMemory (hc : c.store = some (.memory mem f)) :
    ∃ mem' : MemoryStore, ∃ f' : Faults,
      (c.tryGet now rule user).2 = { c with store := some (.memory mem' f') } ∧
      ∀ (k : String) (e : MemoryEntry), mem'.entries[k]? = some e → mem.entries[k]? = some e := by
  cases hcr : rule.isCacheable
  case false =>
    rw [tryGet_uncacheable now rule user hcr]
    exact ⟨mem, f, eq_withStore hc, fun _ _ he => he⟩
  case true =>
  cases hf : f.get with
  | some err => exact ⟨mem, _, by rw [tryGet_fault now rule user hc hcr hf], fun _ _ he => he⟩
  | none =>
    cases he : mem.entries[c.entryKey rule.name user]? with
    | none => exact ⟨mem, _, by rw [tryGet_absent now rule user hc hcr hf he], fun _ _ he => he⟩
    | some e =>
      by_cases hl : now < e.expiresAt
      · exact ⟨mem, _, by rw [tryGet_live now rule user hc hcr hf he hl], fun _ _ he => he⟩
      · -- the dead entry is what the read drops
        exact ⟨{ mem with entries := mem.entries.erase (c.entryKey rule.name user) }, _,
          by rw [tryGet_dead now rule user hc hcr hf he hl],
          mem.entries_erase_within (c.entryKey rule.name user)⟩

/-- A write keeps an in-memory store in memory; its entries are the old ones and, if the write
reached the store, the entry it wrote. -/
theorem put_onMemory (roles : NameSet) (hc : c.store = some (.memory mem f)) :
    ∃ mem' : MemoryStore, ∃ f' : Faults,
      (c.put now rule user roles).2 = { c with store := some (.memory mem' f') } ∧
      ∀ (k : String) (e : MemoryEntry), mem'.entries[k]? = some e →
        mem.entries[k]? = some e ∨ (k = c.entryKey rule.name user ∧
          e = ⟨encodeRoles roles, now + min rule.ttl maxLifetimeMs⟩) := by
  have hwritten : ∀ (k : String) (e : MemoryEntry),
      (mem.replace now (c.entryKey rule.name user) (encodeRoles roles) rule.ttl).entries[k]? =
        some e → mem.entries[k]? = some e ∨ (k = c.entryKey rule.name user ∧
          e = ⟨encodeRoles roles, now + min rule.ttl maxLifetimeMs⟩) := by
    intro k e he
    rw [MemoryStore.entries_replace] at he
    split at he
    · rename_i hkey
      exact .inr ⟨hkey.symm, (Option.some.inj he).symm⟩
    · exact .inl he
  cases hcr : rule.isCacheable
  case false =>
    rw [put_uncacheable now rule user roles hcr]
    exact ⟨mem, f, eq_withStore hc, fun _ _ he => .inl he⟩
  case true =>
  cases hn : roles.contains emptySetMember
  case true =>
    rw [put_emptyName now rule user roles hc hcr hn]
    exact ⟨mem, f, eq_withStore hc, fun _ _ he => .inl he⟩
  case false =>
  cases hrf : f.replace with
  | some err =>
    exact ⟨mem, _, by rw [put_replaceFault now rule user roles hc hcr hn hrf], fun _ _ he => .inl he⟩
  | none =>
    cases hif : f.indexAdd with
    | some err =>
      exact ⟨mem.replace now (c.entryKey rule.name user) (encodeRoles roles) rule.ttl, _,
        by rw [put_indexFault now rule user roles hc hcr hn hrf hif], hwritten⟩
    | none =>
      exact ⟨(mem.replace now (c.entryKey rule.name user) (encodeRoles roles) rule.ttl).indexAdd
          (c.indexKey user) (c.entryKey rule.name user), _,
        by rw [put_stored now rule user roles hc hcr hn hrf hif], hwritten⟩

/-- An invalidation keeps an in-memory store in memory and at most drops entries. -/
theorem invalidateUser_onMemory (hc : c.store = some (.memory mem f)) :
    ∃ mem' : MemoryStore, ∃ f' : Faults,
      (c.invalidateUser user).2 = { c with store := some (.memory mem' f') } ∧
      ∀ (k : String) (e : MemoryEntry), mem'.entries[k]? = some e → mem.entries[k]? = some e := by
  cases hd : f.indexDrain with
  | some err => exact ⟨mem, _, by rw [invalidateUser_fault user hc hd], fun _ _ he => he⟩
  | none =>
    -- the drain leaves the entries, the delete drops some
    let drained : MemoryStore := { mem with indexes := mem.indexes.erase (c.indexKey user) }
    by_cases hk : (mem.indexes.getD (c.indexKey user) ∅).toList = []
    · exact ⟨drained, _, by rw [invalidateUser_none user hc hd hk], fun _ _ he => he⟩
    · cases hdel : f.delete with
      | some err =>
        exact ⟨drained, _, by rw [invalidateUser_deleteFault user hc hd hk hdel], fun _ _ he => he⟩
      | none =>
        exact ⟨drained.delete (mem.indexes.getD (c.indexKey user) ∅).toList, _,
          by rw [invalidateUser_drained user hc hd hk hdel], drained.entries_delete_within _⟩

end OnMemory

section OnDatabase

variable {d : Sql.engine.Conn} {w : Nat → Int} (now : Nat) (rule : Rule) (user : String)

theorem tryGet_onDatabase (hc : c.store = some (.database d w)) :
    ∃ d', (c.tryGet now rule user).2 = c ∨
      (c.tryGet now rule user).2 = { c with store := some (.database d' w) } := by
  unfold RuleCache.tryGet
  rw [hc]
  cases rule.isCacheable
  · exact ⟨d, .inl rfl⟩
  · exact ⟨_, .inr rfl⟩

theorem put_onDatabase (roles : NameSet) (hc : c.store = some (.database d w)) :
    ∃ d', (c.put now rule user roles).2 = c ∨
      (c.put now rule user roles).2 = { c with store := some (.database d' w) } := by
  unfold RuleCache.put
  rw [hc]
  cases rule.isCacheable
  · exact ⟨d, .inl rfl⟩
  · dsimp only
    split
    · exact ⟨d, .inl rfl⟩
    · rcases hr : CacheFile.replace Sql.engine Text.Json.codec d (w now) (c.entryKey rule.name user)
        (encodeRoles roles) rule.ttl with ⟨_ | _, d'⟩
      · simp only [Store.replaceMembers, Store.onDatabase, hr]
        exact ⟨_, .inr rfl⟩
      · simp only [Store.replaceMembers, Store.onDatabase, hr, Store.indexAdd]
        exact ⟨_, .inr rfl⟩

theorem invalidateUser_onDatabase (hc : c.store = some (.database d w)) :
    ∃ d', (c.invalidateUser user).2 = { c with store := some (.database d' w) } := by
  unfold RuleCache.invalidateUser
  rw [hc]
  dsimp only
  rcases hr : CacheFile.indexDrain Sql.engine d (c.indexKey user) with ⟨_ | _ | ⟨k, ks⟩, d'⟩
  · simp only [Store.indexDrain, Store.onDatabase, hr]
    exact ⟨_, rfl⟩
  · simp only [Store.indexDrain, Store.onDatabase, hr]
    exact ⟨_, rfl⟩
  · simp only [Store.indexDrain, Store.onDatabase, hr, Store.delete]
    exact ⟨_, rfl⟩

end OnDatabase

theorem tryGet_disabled (hc : c.store = none) (now : Nat) (rule : Rule) (user : String) :
    c.tryGet now rule user = (.ok .notFound, c) := by
  simp [RuleCache.tryGet, hc]

theorem put_disabled (hc : c.store = none) (now : Nat) (rule : Rule) (user : String)
    (roles : NameSet) : c.put now rule user roles = (.ok (), c) := by
  simp [RuleCache.put, hc]

theorem invalidateUser_disabled (hc : c.store = none) (user : String) :
    c.invalidateUser user = (.ok 0, c) := by
  simp [RuleCache.invalidateUser, hc]

/-- A read that hits decodes a live entry stored under the pair's key. -/
theorem hit_of_tryGet {now : Nat} {rule : Rule} {user : String} {roles : NameSet}
    {mem : MemoryStore} {f : Faults} (hc : c.store = some (.memory mem f))
    (hr : (c.tryGet now rule user).1 = .ok (.hit roles)) :
    ∃ e, mem.entries[c.entryKey rule.name user]? = some e ∧ now < e.expiresAt ∧
      decodeMembers e.members = .hit roles := by
  cases hcr : rule.isCacheable
  case false => rw [tryGet_uncacheable now rule user hcr] at hr; cases hr
  case true =>
  cases hf : f.get with
  | some err => rw [tryGet_fault now rule user hc hcr hf] at hr; cases hr
  | none =>
    cases he : mem.entries[c.entryKey rule.name user]? with
    | none => rw [tryGet_absent now rule user hc hcr hf he] at hr; cases hr
    | some e =>
      by_cases hl : now < e.expiresAt
      · rw [tryGet_live now rule user hc hcr hf he hl] at hr
        exact ⟨e, rfl, hl, Except.ok.inj hr⟩
      · rw [tryGet_dead now rule user hc hcr hf he hl] at hr
        cases hr

/-! ## A property of every stored entry -/

/-- Every entry that the cache's in-memory store holds has the property, given its key. A
cache without a store, or over a database, holds no such entry. -/
def Holds (Q : String → MemoryEntry → Prop) (c : RuleCache) : Prop :=
  ∀ mem f, c.store = some (.memory mem f) → ∀ (k : String) (e : MemoryEntry),
    mem.entries[k]? = some e → Q k e

variable {Q : String → MemoryEntry → Prop}

theorem Holds.withStore {mem mem' : MemoryStore} {f f' : Faults}
    (h : c.Holds Q) (hc : c.store = some (.memory mem f))
    (hw : ∀ (k : String) (e : MemoryEntry), mem'.entries[k]? = some e →
      mem.entries[k]? = some e ∨ Q k e) :
    ({ c with store := some (.memory mem' f') } : RuleCache).Holds Q := by
  intro m g hs k e he
  cases hs
  rcases hw k e he with hold | hnew
  · exact h mem f hc k e hold
  · exact hnew

theorem Holds.withDatabase (d : Sql.engine.Conn) (w : Nat → Int) :
    ({ c with store := some (.database d w) } : RuleCache).Holds Q := by
  intro mem f hs
  cases hs

/-- Reading keeps the property: a read at most drops the entry it finds dead. -/
theorem Holds.tryGet (h : c.Holds Q) (now : Nat) (rule : Rule) (user : String) :
    (c.tryGet now rule user).2.Holds Q := by
  cases hs : c.store with
  | none => rw [tryGet_disabled hs]; exact h
  | some s =>
    cases s with
    | memory mem f =>
      obtain ⟨mem', f', heq, hw⟩ := tryGet_onMemory now rule user hs
      rw [heq]
      exact h.withStore hs (fun k e he => .inl (hw k e he))
    | database d w =>
      obtain ⟨d', heq | heq⟩ := tryGet_onDatabase now rule user hs <;> rw [heq]
      · exact h
      · exact Holds.withDatabase d' w

/-- Writing keeps the property when the entry the write would store has it. -/
theorem Holds.put (h : c.Holds Q) (now : Nat) (rule : Rule) (user : String) (roles : NameSet)
    (hq : Q (c.entryKey rule.name user) ⟨encodeRoles roles, now + min rule.ttl maxLifetimeMs⟩) :
    (c.put now rule user roles).2.Holds Q := by
  cases hs : c.store with
  | none => rw [put_disabled hs]; exact h
  | some s =>
    cases s with
    | memory mem f =>
      obtain ⟨mem', f', heq, hw⟩ := put_onMemory now rule user roles hs
      rw [heq]
      refine h.withStore hs (fun k e he => ?_)
      rcases hw k e he with hold | ⟨rfl, rfl⟩
      · exact .inl hold
      · exact .inr hq
    | database d w =>
      obtain ⟨d', heq | heq⟩ := put_onDatabase now rule user roles hs <;> rw [heq]
      · exact h
      · exact Holds.withDatabase d' w

/-- Invalidating keeps the property: it drains an index and drops entries. -/
theorem Holds.invalidateUser (h : c.Holds Q) (user : String) :
    (c.invalidateUser user).2.Holds Q := by
  cases hs : c.store with
  | none => rw [invalidateUser_disabled hs]; exact h
  | some s =>
    cases s with
    | memory mem f =>
      obtain ⟨mem', f', heq, hw⟩ := invalidateUser_onMemory user hs
      rw [heq]
      exact h.withStore hs (fun k e he => .inl (hw k e he))
    | database d w =>
      obtain ⟨d', heq⟩ := invalidateUser_onDatabase user hs
      rw [heq]
      exact Holds.withDatabase d' w

end RuleCache

end RoleSync
