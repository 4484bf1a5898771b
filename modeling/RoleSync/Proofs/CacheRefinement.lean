import RoleSync.Proofs.CacheModel
import Mathlib.Data.List.Basic
/-!
The rule cache over the in-memory store, when no store method fails and no user id contains ':',
answers every sequence of calls as the documented cache of `CacheModel` does
(`memory_cache_refines_model`).

The proof carries one relation between the store and the model, `Matches`: each pair's entry is
its holding, stored with the empty-set member for an empty role set; every entry belongs to some
pair; and a user's index lists the entry keys of the rule names in the model's index of the user.
Each operation keeps it (`Matches.hold`, `Matches.forget`, `Matches.dropUser`,
`Matches.dropDead`), and the counts a purge and an invalidation answer are read off it:
entry keys of different pairs differ, so the store has as many entries as the model has holdings
(`Matches.size_eq`) and an index as many members as the model's index (`Matches.drained_count`).
-/

namespace RoleSync

set_option autoImplicit false

/-- The store entry of a holding: its roles, written as the cache writes them, and its expiry. -/
def Holding.stored (h : Holding) : MemoryEntry := ⟨RuleCache.encodeRoles h.roles, h.expiresAt⟩

/-- The in-memory store of a cache holds what the model holds. -/
structure Matches (c : RuleCache) (mem : MemoryStore) (m : CacheModel) : Prop where
  /-- The entry of each pair is the pair's holding, stored. -/
  entry : ∀ rule user, NoColon user →
    mem.entries[c.entryKey rule user]? = (m.lookup rule user).map Holding.stored
  /-- Every entry is the entry of some pair. -/
  keyed : ∀ k ∈ mem.entries, ∃ rule user, NoColon user ∧ k = c.entryKey rule user
  /-- Every holding is of a user without ':'. -/
  users : ∀ h ∈ m.holdings, NoColon h.user
  /-- A user's index lists the entry keys of the rules in the model's index of the user. -/
  index : ∀ user, NoColon user → ∀ k,
    k ∈ mem.indexes.getD (c.indexKey user) ∅ ↔ ∃ rule ∈ m.index user, k = c.entryKey rule user

namespace Matches

variable {c : RuleCache} {mem : MemoryStore} {m : CacheModel}

/-- The relation reads only the key prefix of the cache. -/
theorem withStore (h : Matches c mem m) (store : Option Store) :
    Matches { c with store := store } mem m :=
  ⟨h.entry, h.keyed, h.users, h.index⟩

/-- The relation does not read the clock. -/
theorem tick (h : Matches c mem m) (ms : Nat) : Matches c mem (m.tick ms) :=
  ⟨h.entry, h.keyed, h.users, h.index⟩

theorem empty (c : RuleCache) : Matches c {} CacheModel.empty where
  entry rule user _ := by simp [CacheModel.empty, CacheModel.lookup]
  keyed k hk := absurd hk Std.TreeMap.not_mem_emptyc
  users h hh := by simp [CacheModel.empty] at hh
  index user _ k := by simp [CacheModel.empty, Std.TreeSet.not_mem_emptyc]

/-! ## Counts -/

/-- The store has one entry per holding. -/
theorem size_eq (h : Matches c mem m) : mem.entries.size = m.holdings.length := by
  let key : Holding → String := fun x => c.entryKey x.rule x.user
  have hinj : ∀ x ∈ m.holdings, ∀ y ∈ m.holdings, key x = key y → x = y := by
    intro x hx y hy hxy
    obtain ⟨hr, hu⟩ := RuleCache.entryKey_inj (h.users x hx) (h.users y hy) hxy
    exact List.inj_on_of_nodup_map m.distinct hx hy (by simp [Holding.pair, hr, hu])
  have hnodup : (m.holdings.map key).Nodup := (List.Nodup.of_map _ m.distinct).map_on hinj
  have hmem : ∀ k, k ∈ mem.entries.keys ↔ k ∈ m.holdings.map key := by
    intro k
    rw [Std.TreeMap.mem_keys, List.mem_map]
    constructor
    · intro hk
      obtain ⟨r, u, hu, rfl⟩ := h.keyed k hk
      have hsome := Std.TreeMap.mem_iff_isSome_getElem?.mp hk
      rw [h.entry r u hu, Option.isSome_map] at hsome
      obtain ⟨x, hx⟩ := Option.isSome_iff_exists.mp hsome
      obtain ⟨hxm, rfl, rfl⟩ := CacheModel.lookup_eq_some_iff.mp hx
      exact ⟨x, hxm, rfl⟩
    · rintro ⟨x, hx, rfl⟩
      have he := h.entry x.rule x.user (h.users x hx)
      rw [CacheModel.lookup_eq_some_iff.mpr ⟨hx, rfl, rfl⟩] at he
      exact Std.TreeMap.mem_iff_isSome_getElem?.mpr (by simp [key, he])
  rw [← Std.TreeMap.length_keys,
    ((List.perm_ext_iff_of_nodup Std.TreeMap.nodup_keys hnodup).mpr hmem).length_eq,
    List.length_map]

/-- A user's index in the store has as many members as the model's index of the user. -/
theorem drained_count (h : Matches c mem m) {user : String} (hu : NoColon user) :
    (mem.indexes.getD (c.indexKey user) ∅).toList.length = (m.index user).size := by
  have hnodup : ((m.index user).toList.map fun r => c.entryKey r user).Nodup :=
    (nodup_toList_names _).map_on fun x _ y _ hxy => (RuleCache.entryKey_inj hu hu hxy).1
  have hmem : ∀ k, k ∈ (mem.indexes.getD (c.indexKey user) ∅).toList ↔
      k ∈ (m.index user).toList.map fun r => c.entryKey r user := by
    intro k
    rw [Std.TreeSet.mem_toList, h.index user hu, List.mem_map]
    simp only [Std.TreeSet.mem_toList]
    exact ⟨fun ⟨r, hr, hk⟩ => ⟨r, hr, hk.symm⟩, fun ⟨r, hr, hk⟩ => ⟨r, hr, hk.symm⟩⟩
  rw [((List.perm_ext_iff_of_nodup (nodup_toList_names _) hnodup).mpr hmem).length_eq,
    List.length_map, Std.TreeSet.length_toList]

/-! ## Each operation keeps the relation -/

/-- A put writes the holding's entry and lists it in the user's index. -/
theorem hold (h : Matches c mem m) {x : Holding} (hx : emptySetMember ∉ x.roles)
    (hu : NoColon x.user) {now ttl : Nat} (hexp : x.expiresAt = now + min ttl maxLifetimeMs) :
    Matches c ((mem.replace now (c.entryKey x.rule x.user) (RuleCache.encodeRoles x.roles)
      ttl).indexAdd (c.indexKey x.user) (c.entryKey x.rule x.user)) (m.hold x hx) where
  entry r u hu' := by
    rw [MemoryStore.entries_indexAdd, MemoryStore.entries_replace, CacheModel.lookup_hold]
    by_cases he : x.rule = r ∧ x.user = u
    · obtain ⟨rfl, rfl⟩ := he
      simp [Holding.stored, hexp]
    · have hk : c.entryKey x.rule x.user ≠ c.entryKey r u :=
        fun hk => he (RuleCache.entryKey_inj hu hu' hk)
      simp only [hk, he, if_false]
      exact h.entry r u hu'
  keyed k hk := by
    rw [MemoryStore.entries_indexAdd, Std.TreeMap.mem_iff_isSome_getElem?,
      MemoryStore.entries_replace] at hk
    split at hk
    · rename_i he
      exact ⟨x.rule, x.user, hu, he.symm⟩
    · exact h.keyed k (Std.TreeMap.mem_iff_isSome_getElem?.mpr hk)
  users y hy := by
    rcases List.mem_cons.mp hy with rfl | hy
    · exact hu
    · exact h.users y (List.mem_filter.mp hy).1
  index u hu' k := by
    rw [MemoryStore.mem_indexAdd, MemoryStore.indexes_replace, h.index u hu']
    simp only [CacheModel.hold]
    by_cases he : x.user = u
    · subst he
      simp only [if_true, Std.TreeSet.mem_insert, Std.LawfulEqCmp.compare_eq_iff_eq, true_and]
      constructor
      · rintro (rfl | ⟨r, hr, rfl⟩)
        · exact ⟨x.rule, .inl rfl, rfl⟩
        · exact ⟨r, .inr hr, rfl⟩
      · rintro ⟨r, rfl | hr, rfl⟩
        · exact .inl rfl
        · exact .inr ⟨r, hr, rfl⟩
    · have hi : c.indexKey x.user ≠ c.indexKey u := fun hi => he (RuleCache.indexKey_inj hi)
      simp [hi, Ne.symm he]

/-- A read of a dead entry drops it. -/
theorem forget (h : Matches c mem m) {r u : String} (hu : NoColon u) :
    Matches c { mem with entries := mem.entries.erase (c.entryKey r u) } (m.forget r u) where
  entry r' u' hu' := by
    simp only [Std.TreeMap.getElem?_erase, Std.LawfulEqCmp.compare_eq_iff_eq,
      CacheModel.lookup_forget, RuleCache.entryKey_eq_iff hu hu']
    split
    · rfl
    · exact h.entry r' u' hu'
  keyed k hk := by
    rw [Std.TreeMap.mem_erase] at hk
    exact h.keyed k hk.2
  users y hy := h.users y (List.mem_filter.mp hy).1
  index := h.index

/-- An invalidation drops the user's index and the entries it listed. -/
theorem dropUser (h : Matches c mem m) {u : String} (hu : NoColon u) :
    Matches c ({ mem with indexes := mem.indexes.erase (c.indexKey u) }.delete
      (mem.indexes.getD (c.indexKey u) ∅).toList) (m.dropUser u) where
  entry r u' hu' := by
    rw [MemoryStore.entries_delete, CacheModel.lookup_dropUser]
    have hlisted : c.entryKey r u' ∈ (mem.indexes.getD (c.indexKey u) ∅).toList ↔
        u = u' ∧ r ∈ m.index u := by
      rw [Std.TreeSet.mem_toList, h.index u hu]
      constructor
      · rintro ⟨r', hr', hk⟩
        obtain ⟨rfl, rfl⟩ := RuleCache.entryKey_inj hu' hu hk
        exact ⟨rfl, hr'⟩
      · rintro ⟨rfl, hr⟩
        exact ⟨r, hr, rfl⟩
    by_cases hl : u = u' ∧ r ∈ m.index u
    · rw [if_pos (hlisted.mpr hl), if_pos hl.1]
      rfl
    · rw [if_neg (mt hlisted.mp hl)]
      split
      · -- a holding of the user is always listed in their index, so there is none here
        rename_i he
        subst he
        have hnone : m.lookup r u = none := by
          apply CacheModel.lookup_eq_none_iff.mpr
          rintro y hy ⟨rfl, rfl⟩
          exact hl ⟨rfl, m.indexed y hy⟩
        rw [h.entry r u hu', hnone]
      · exact h.entry r u' hu'
  keyed k hk := by
    rw [Std.TreeMap.mem_iff_isSome_getElem?, MemoryStore.entries_delete] at hk
    split at hk
    · simp at hk
    · exact h.keyed k (Std.TreeMap.mem_iff_isSome_getElem?.mpr hk)
  users y hy := h.users y (List.mem_filter.mp hy).1
  index u' hu' k := by
    rw [MemoryStore.indexes_delete, MemoryStore.getD_erase_index]
    simp only [CacheModel.dropUser]
    by_cases he : u' = u
    · subst he
      simp [Std.TreeSet.not_mem_emptyc]
    · have hi : c.indexKey u ≠ c.indexKey u' := fun hi => he (RuleCache.indexKey_inj hi).symm
      simp only [hi, he, if_false]
      exact h.index u' hu' k

/-- A purge at the model's clock drops the dead entries and the index members without a live
entry. -/
theorem dropDead (h : Matches c mem m) : Matches c (mem.purge m.clock).2 m.dropDead where
  entry r u hu := by
    rw [MemoryStore.entries_purge, h.entry r u hu, CacheModel.lookup_dropDead]
    cases m.lookup r u with
    | none => rfl
    | some x => simp [Option.filter_some, Holding.stored, CacheModel.live]
  keyed k hk := by
    rw [Std.TreeMap.mem_iff_isSome_getElem?, MemoryStore.entries_purge] at hk
    have hk' : (mem.entries[k]?).isSome := by
      cases he : mem.entries[k]? with
      | none => simp [he] at hk
      | some e => rfl
    exact h.keyed k (Std.TreeMap.mem_iff_isSome_getElem?.mpr hk')
  users y hy := h.users y (List.mem_filter.mp hy).1
  index u hu k := by
    rw [MemoryStore.mem_purge_index, h.index u hu]
    simp only [CacheModel.dropDead, mem_filter_names, List.any_eq_true, List.mem_filter]
    constructor
    · rintro ⟨⟨r, hr, rfl⟩, e, he, hl⟩
      rw [h.entry r u hu] at he
      obtain ⟨x, hx, rfl⟩ := Option.map_eq_some_iff.mp he
      obtain ⟨hxm, rfl, rfl⟩ := CacheModel.lookup_eq_some_iff.mp hx
      exact ⟨x.rule, ⟨hr, x, ⟨hxm, by simpa [CacheModel.live, Holding.stored] using hl⟩, by simp⟩, rfl⟩
    · rintro ⟨r, ⟨hr, x, ⟨hxm, hl⟩, hx⟩, rfl⟩
      obtain ⟨rfl, rfl⟩ := Holding.isFor_eq_true.mp hx
      refine ⟨⟨x.rule, hr, rfl⟩, x.stored, ?_, by simpa [CacheModel.live, Holding.stored] using hl⟩
      rw [h.entry x.rule x.user hu, CacheModel.lookup_eq_some_iff.mpr ⟨hxm, rfl, rfl⟩]
      rfl

end Matches

/-! ## Sessions -/

/-- A session over an in-memory store that never fails, in step with the model: the same clock,
and a store that matches. -/
structure Refines (s : CacheSession) (m : CacheModel) : Prop where
  clock : s.clock = m.clock
  memory : ∃ mem, s.cache.store = some (.memory mem Faults.none) ∧ Matches s.cache mem m

namespace Refines

variable {s : CacheSession} {m : CacheModel}

/-- A fresh in-memory cache at instant zero is in step with the empty model. -/
theorem start (keyPrefix : String) :
    Refines ⟨⟨some (.memory {} Faults.none), keyPrefix⟩, 0⟩ CacheModel.empty where
  clock := rfl
  memory := ⟨{}, rfl, Matches.empty _⟩

theorem put (h : Refines s m) (rule : Rule) (user : String) (roles : List String)
    (hu : NoColon user) :
    (s.step (.put rule user roles)).1.Agrees (m.step (.put rule user roles)).1 ∧
      Refines (s.step (.put rule user roles)).2 (m.step (.put rule user roles)).2 := by
  obtain ⟨mem, hs, hm⟩ := h.memory
  cases hr : rule.isCacheable with
  | false =>
    simp only [CacheSession.step, RuleCache.put_uncacheable _ _ _ _ hr, CacheModel.step, hr]
    exact ⟨CacheAnswer.Agrees.refl _, h⟩
  | true =>
    by_cases hn : (NameSet.ofList roles).contains emptySetMember = true
    · simp only [CacheSession.step, RuleCache.put_emptyName _ _ _ _ hs hr hn, CacheModel.step, hr,
        hn, if_true, dif_pos, CacheSession.answer]
      exact ⟨CacheAnswer.Agrees.refl _, h⟩
    · -- the write and the index update both succeed
      have hn' : (NameSet.ofList roles).contains emptySetMember = false := Bool.eq_false_iff.mpr hn
      simp only [CacheSession.step, RuleCache.put_stored _ _ _ _ hs hr hn' rfl rfl, CacheModel.step,
        hr, hn, if_true, CacheSession.answer]
      refine ⟨CacheAnswer.Agrees.refl _, h.clock, _, rfl, ?_⟩
      exact (hm.hold (x := ⟨rule.name, user, NameSet.ofList roles, m.clock + min rule.ttl maxLifetimeMs⟩)
        (by simpa using hn) hu (by rw [h.clock])).withStore _

theorem get (h : Refines s m) (rule : Rule) (user : String) (hu : NoColon user) :
    (s.step (.get rule user)).1.Agrees (m.step (.get rule user)).1 ∧
      Refines (s.step (.get rule user)).2 (m.step (.get rule user)).2 := by
  obtain ⟨mem, hs, hm⟩ := h.memory
  cases hr : rule.isCacheable with
  | false =>
    simp only [CacheSession.step, RuleCache.tryGet_uncacheable _ _ _ hr, CacheModel.step, hr]
    exact ⟨CacheAnswer.Agrees.refl _, h⟩
  | true =>
    have he := hm.entry rule.name user hu
    cases hl : m.lookup rule.name user with
    | none =>
      rw [hl] at he
      simp only [CacheSession.step, RuleCache.tryGet_absent _ _ _ hs hr rfl he, CacheModel.step, hr,
        hl, if_true, CacheSession.answer]
      exact ⟨CacheAnswer.Agrees.refl _, h.clock, _, rfl, hm.withStore _⟩
    | some x =>
      rw [hl] at he
      have hxm := (CacheModel.lookup_eq_some_iff.mp hl).1
      by_cases hlive : m.clock < x.expiresAt
      · -- a live entry reads back as its holding's roles
        obtain ⟨read, hread, hequiv⟩ := RuleCache.decode_encode (m.noEmptyName x hxm)
        have hl' : s.clock < x.stored.expiresAt := by rw [h.clock]; exact hlive
        simp only [CacheSession.step, RuleCache.tryGet_live _ _ _ hs hr rfl he hl', Holding.stored, hread,
          CacheModel.step, hr, hl, if_true, CacheModel.live, decide_eq_true_eq, hlive,
          CacheSession.answer]
        exact ⟨hequiv, h.clock, _, rfl, hm.withStore _⟩
      · have hl' : ¬ s.clock < x.stored.expiresAt := by rw [h.clock]; exact hlive
        simp only [CacheSession.step, RuleCache.tryGet_dead _ _ _ hs hr rfl he hl', CacheModel.step,
          hr, hl, if_true, CacheModel.live, decide_eq_true_eq, hlive, if_false, CacheSession.answer]
        exact ⟨CacheAnswer.Agrees.refl _, h.clock, _, rfl, (hm.forget hu).withStore _⟩

theorem invalidate (h : Refines s m) (user : String) (hu : NoColon user) :
    (s.step (.invalidate user)).1.Agrees (m.step (.invalidate user)).1 ∧
      Refines (s.step (.invalidate user)).2 (m.step (.invalidate user)).2 := by
  obtain ⟨mem, hs, hm⟩ := h.memory
  have hcount := hm.drained_count hu
  by_cases hk : (mem.indexes.getD (s.cache.indexKey user) ∅).toList = []
  · -- nothing listed: no delete is made
    have hdrop := hm.dropUser hu
    rw [hk] at hdrop hcount
    simp only [CacheSession.step, RuleCache.invalidateUser_none _ hs rfl hk, CacheModel.step,
      CacheSession.answer, ← hcount, List.length_nil]
    exact ⟨CacheAnswer.Agrees.refl _, h.clock, _, rfl, hdrop.withStore _⟩
  · simp only [CacheSession.step, RuleCache.invalidateUser_drained _ hs rfl hk rfl,
      CacheModel.step, CacheSession.answer, hcount]
    exact ⟨CacheAnswer.Agrees.refl _, h.clock, _, rfl, (hm.dropUser hu).withStore _⟩

theorem purge (h : Refines s m) :
    (s.step .purge).1.Agrees (m.step .purge).1 ∧ Refines (s.step .purge).2 (m.step .purge).2 := by
  obtain ⟨mem, hs, hm⟩ := h.memory
  have hdead := hm.dropDead
  -- the count is entries before less entries after, on both sides
  have hcount : (mem.purge s.clock).1 = (m.holdings.filter (!m.live ·)).length := by
    have hbefore := hm.size_eq
    have hafter := hdead.size_eq
    have hsplit := List.length_eq_length_filter_add (l := m.holdings) m.live
    rw [← h.clock] at hafter
    simp only [CacheModel.dropDead] at hafter
    show mem.entries.size - (mem.purge s.clock).2.entries.size = _
    omega
  simp only [CacheSession.step, hs, CacheModel.step, hcount]
  refine ⟨CacheAnswer.Agrees.refl _, h.clock, _, rfl, ?_⟩
  rw [h.clock]
  exact hdead.withStore _

theorem advance (h : Refines s m) (ms : Nat) :
    (s.step (.advance ms)).1.Agrees (m.step (.advance ms)).1 ∧
      Refines (s.step (.advance ms)).2 (m.step (.advance ms)).2 := by
  obtain ⟨mem, hs, hm⟩ := h.memory
  simp only [CacheSession.step, CacheModel.step]
  exact ⟨CacheAnswer.Agrees.refl _, by simp [CacheModel.tick, h.clock], mem, hs, hm.tick ms⟩

/-- One call: the answers agree and the session stays in step. -/
theorem step (h : Refines s m) (call : CacheCall) (hc : call.ColonFree) :
    (s.step call.toStep).1.Agrees (m.step call).1 ∧
      Refines (s.step call.toStep).2 (m.step call).2 := by
  cases call with
  | put rule user roles => exact h.put rule user roles hc
  | get rule user => exact h.get rule user hc
  | invalidate user => exact h.invalidate user hc
  | purge => exact h.purge
  | advance ms => exact h.advance ms

/-- A whole sequence of calls: answer by answer, the session agrees with the model. -/
theorem run (h : Refines s m) (calls : List CacheCall) (hc : ∀ call ∈ calls, call.ColonFree) :
    List.Forall₂ CacheAnswer.Agrees (s.run (calls.map CacheCall.toStep)) (m.run calls) := by
  induction calls generalizing s m with
  | nil => exact List.Forall₂.nil
  | cons call rest ih =>
    obtain ⟨ha, h'⟩ := h.step call (hc call List.mem_cons_self)
    simp only [List.map_cons, CacheSession.run, CacheModel.run]
    exact List.Forall₂.cons ha (ih h' fun c hc' => hc c (List.mem_cons_of_mem _ hc'))

end Refines

/-- The rule cache over a fresh in-memory store, with any key prefix, no failing store method and
user ids without ':', answers every sequence of puts, reads, invalidations, purges and clock
moves as the documented cache does. -/
theorem memory_cache_refines_model (keyPrefix : String) (calls : List CacheCall)
    (hc : ∀ call ∈ calls, call.ColonFree) :
    List.Forall₂ CacheAnswer.Agrees
      (CacheSession.run ⟨⟨some (.memory {} Faults.none), keyPrefix⟩, 0⟩
        (calls.map CacheCall.toStep))
      (CacheModel.empty.run calls) :=
  (Refines.start keyPrefix).run calls hc

/-- A rule cached for a second: a put, a read while live, a read once expired, and an
invalidation of the user, all answered as the documented cache answers them. -/
theorem memory_cache_refines_model_on_expiry :
    (∀ call ∈ [CacheCall.put ⟨"Staff", .weak, some 1000, .roles []⟩ "alice" ["staff"],
        .get ⟨"Staff", .weak, some 1000, .roles []⟩ "alice", .advance 1000,
        .get ⟨"Staff", .weak, some 1000, .roles []⟩ "alice", .invalidate "alice"],
      call.ColonFree) ∧
    List.Forall₂ CacheAnswer.Agrees
      (CacheSession.run ⟨⟨some (.memory {} Faults.none), "rl_"⟩, 0⟩
        ([CacheCall.put ⟨"Staff", .weak, some 1000, .roles []⟩ "alice" ["staff"],
          .get ⟨"Staff", .weak, some 1000, .roles []⟩ "alice", .advance 1000,
          .get ⟨"Staff", .weak, some 1000, .roles []⟩ "alice", .invalidate "alice"].map
          CacheCall.toStep))
      (CacheModel.empty.run [CacheCall.put ⟨"Staff", .weak, some 1000, .roles []⟩ "alice" ["staff"],
        .get ⟨"Staff", .weak, some 1000, .roles []⟩ "alice", .advance 1000,
        .get ⟨"Staff", .weak, some 1000, .roles []⟩ "alice", .invalidate "alice"]) :=
  ⟨by decide, memory_cache_refines_model "rl_" _ (by decide)⟩

end RoleSync
