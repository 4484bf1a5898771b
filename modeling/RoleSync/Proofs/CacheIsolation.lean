import RoleSync.Proofs.CacheFaults
/-!
Which pairs of rule and user the cache keeps apart. An entry key is the prefix, `roles:`, the rule
name, `:` and the user id, so two pairs share an entry exactly when their texts
`rule ++ ":" ++ user` agree. For distinct pairs that happens once a user id holds a `:`:
rule `a:b` with user `c`, and rule `a` with user `b:c`.

Main statement (`cache_isolation_by_entry_text`): in every state the cache reaches, a put for one
pair leaves the reads of another pair as they were when the two texts differ, and an invalidation
of a user leaves them as they were when no rule name makes the texts agree. Both conditions hold
for distinct pairs whose user ids have no `:` (`entryText_ne_of_noColon`). When the texts agree,
a put that stores its roles is what the other pair reads (`colliding_put_is_read`).
-/

namespace RoleSync

set_option autoImplicit false

/-! ## Keys and their texts -/

theorem RuleCache.entryKey_eq_iff_text (c : RuleCache) (rule user rule' user' : String) :
    c.entryKey rule user = c.entryKey rule' user' ↔
      rule ++ ":" ++ user = rule' ++ ":" ++ user' := by
  have htext : ∀ r u : String, (r ++ ":" ++ u).toList = r.toList ++ ':' :: u.toList := by
    intro r u
    simp [String.toList_append]
  rw [← String.toList_inj, ← String.toList_inj, entryKey_toList, entryKey_toList, htext, htext,
    List.append_assoc, List.append_assoc, List.append_right_inj]

theorem entryText_ne_of_noColon {rule user rule' user' : String} (hu : NoColon user)
    (hu' : NoColon user') (h : (rule, user) ≠ (rule', user')) :
    rule ++ ":" ++ user ≠ rule' ++ ":" ++ user' := by
  intro heq
  have hl := congrArg String.toList heq
  simp only [String.toList_append] at hl
  -- the ':' before the user id is the last one in the text
  obtain ⟨hr, hu⟩ := eq_of_append_cons_eq hu hu' (by simpa using hl)
  exact h (by rw [String.toList_inj.mp hr, String.toList_inj.mp hu])

/-! ## What an index lists -/

section Owned

variable {c : RuleCache} {mem : MemoryStore} {user : String}

/-- Every key the user's index lists is the entry key of some rule for the user. -/
def Owned (c : RuleCache) (mem : MemoryStore) (user : String) : Prop :=
  ∀ k ∈ mem.indexes.getD (c.indexKey user) ∅, ∃ rule, k = c.entryKey rule user

theorem owned_empty : Owned c {} user := by
  intro k hk
  simp at hk

/-- Every call keeps each index listing only its own user's keys. -/
theorem Owned.effect (h : Owned c mem user) (call : CacheCall) (f : Faults) (now : Nat) :
    Owned c (call.effect c f now mem) user := by
  intro k hk
  cases call with
  | put rule v roles =>
    simp only [CacheCall.effect] at hk
    split at hk
    case isFalse => exact h k hk
    case isTrue =>
    split at hk
    · rcases (MemoryStore.mem_indexAdd _ _ _ _ _).mp hk with ⟨hik, rfl⟩ | hold
      · -- the key listed is the put's own, in its own user's index
        rw [RuleCache.indexKey_inj hik]
        exact ⟨rule.name, rfl⟩
      · exact h k (by simpa using hold)
    · exact h k (by simpa using hk)
  | get rule v =>
    simp only [CacheCall.effect] at hk
    split at hk
    · exact h k (by simpa using hk)
    · exact h k hk
  | invalidate v =>
    simp only [CacheCall.effect] at hk
    split at hk
    case isFalse => exact h k hk
    case isTrue =>
    have hdrained : k ∈ (mem.indexes.erase (c.indexKey v)).getD (c.indexKey user) ∅ := by
      split at hk <;> simpa using hk
    rw [MemoryStore.getD_erase_index] at hdrained
    split at hdrained
    · simp at hdrained
    · exact h k hdrained
  | purge =>
    exact h k ((MemoryStore.mem_purge_index _ _ _ _).mp hk).1
  | advance ms => exact h k hk

end Owned

/-! ## Entries a call leaves alone -/

section Frame

variable {c : RuleCache} {f : Faults} {now : Nat} {mem : MemoryStore}

theorem entries_put_effect {rule : Rule} {v : String} {roles : List String} {k : String}
    (hk : c.entryKey rule.name v ≠ k) :
    ((CacheCall.put rule v roles).effect c f now mem).entries[k]? = mem.entries[k]? := by
  simp only [CacheCall.effect]
  split
  · split <;> simp [MemoryStore.entries_replace, hk]
  · rfl

theorem entries_invalidate_effect {v k : String}
    (hk : k ∉ mem.indexes.getD (c.indexKey v) ∅) :
    ((CacheCall.invalidate v).effect c f now mem).entries[k]? = mem.entries[k]? := by
  have hk' : k ∉ mem.indexMembers (c.indexKey v) := fun h => hk (Std.TreeSet.mem_toList.mp h)
  simp only [CacheCall.effect]
  split
  · split
    · rw [MemoryStore.entries_delete, if_neg hk']
    · rfl
  · rfl

/-- A read answers from the entry under its key and from the planned answer of the read alone. -/
theorem step_get_congr (clock : Nat) {mem' : MemoryStore} {g : Faults} (rule : Rule) (user : String)
    (hf : g.get = f.get)
    (h : mem'.entries[c.entryKey rule.name user]? = mem.entries[c.entryKey rule.name user]?) :
    (CacheSession.step ⟨{ c with store := some (.memory mem' g) }, clock⟩ (.get rule user)).1 =
      (CacheSession.step ⟨{ c with store := some (.memory mem f) }, clock⟩ (.get rule user)).1 := by
  have hc' := RuleCache.store_withStore c (some (.memory mem' g))
  have hc := RuleCache.store_withStore c (some (.memory mem f))
  simp only [CacheSession.step]
  by_cases hr : rule.isCacheable = true
  case neg =>
    rw [RuleCache.tryGet_uncacheable _ _ _ (by simpa using hr),
      RuleCache.tryGet_uncacheable _ _ _ (by simpa using hr)]
  case pos =>
  cases hg : f.get with
  | some e =>
    rw [RuleCache.tryGet_fault _ _ _ hc' hr (hf.trans hg), RuleCache.tryGet_fault _ _ _ hc hr hg]
  | none =>
    have hg' := hf.trans hg
    cases he : mem.entries[c.entryKey rule.name user]? with
    | none =>
      rw [RuleCache.tryGet_absent _ _ _ hc' hr hg' (h.trans he),
        RuleCache.tryGet_absent _ _ _ hc hr hg he]
    | some e =>
      by_cases hl : clock < e.expiresAt
      · rw [RuleCache.tryGet_live _ _ _ hc' hr hg' (h.trans he) hl,
          RuleCache.tryGet_live _ _ _ hc hr hg he hl]
      · rw [RuleCache.tryGet_dead _ _ _ hc' hr hg' (h.trans he) hl,
          RuleCache.tryGet_dead _ _ _ hc hr hg he hl]

end Frame

/-! ## Isolation -/

/-- In every state calls reach from an empty in-memory store, whatever store methods failed on
the way: a put for one pair leaves what a read of another pair answers as it was when the texts
`rule ++ ":" ++ user` of the two pairs differ; an invalidation of a user leaves it as it was when
no rule name gives the user the other pair's text. -/
theorem cache_isolation_by_entry_text (keyPrefix : String) (calls : List Attempt) (r1 r2 : Rule)
    (u1 u2 : String) (roles : List String) :
    (r1.name ++ ":" ++ u1 ≠ r2.name ++ ":" ++ u2 →
      ((((CacheSession.fresh keyPrefix).attempts calls).step (.put r1 u1 roles)).2.step
        (.get r2 u2)).1 = (((CacheSession.fresh keyPrefix).attempts calls).step (.get r2 u2)).1) ∧
    ((∀ rule : String, rule ++ ":" ++ u1 ≠ r2.name ++ ":" ++ u2) →
      ((((CacheSession.fresh keyPrefix).attempts calls).step (.invalidate u1)).2.step
        (.get r2 u2)).1 = (((CacheSession.fresh keyPrefix).attempts calls).step (.get r2 u2)).1) := by
  -- every reachable index lists only its own user's keys
  obtain ⟨mem, f, hc, hown⟩ := attempts_keep (CacheSession.fresh keyPrefix).cache
    (fun mem _ => Owned (CacheSession.fresh keyPrefix).cache mem u1) calls
    (fun a _ mem now h => h.effect a.call a.faults now) (CacheSession.fresh keyPrefix)
    ⟨{}, Faults.none, rfl, owned_empty⟩
  rw [hc]
  constructor
  · intro htext
    rw [step_put_onMemory]
    exact step_get_congr _ r2 u2 (CacheCall.get_after_put ..)
      (entries_put_effect fun hk => htext ((RuleCache.entryKey_eq_iff_text ..).mp hk))
  · intro htext
    rw [step_invalidate_onMemory]
    refine step_get_congr _ r2 u2 (CacheCall.get_after_invalidate ..)
      (entries_invalidate_effect fun hk => ?_)
    obtain ⟨rule, hrule⟩ := hown _ hk
    exact htext rule ((RuleCache.entryKey_eq_iff_text ..).mp hrule.symm)

/-- Plain user ids "alice" and "bob", one rule: neither a put nor an invalidation for "alice"
changes what a read for "bob" answers. -/
theorem cache_isolation_for_plain_users :
    ((((CacheSession.fresh "rl_").attempts []).step
        (.put ⟨"Staff", .weak, some 1000, .roles []⟩ "alice" ["admin"])).2.step
        (.get ⟨"Staff", .weak, some 1000, .roles []⟩ "bob")).1 =
      (((CacheSession.fresh "rl_").attempts []).step
        (.get ⟨"Staff", .weak, some 1000, .roles []⟩ "bob")).1 ∧
    ((((CacheSession.fresh "rl_").attempts []).step (.invalidate "alice")).2.step
        (.get ⟨"Staff", .weak, some 1000, .roles []⟩ "bob")).1 =
      (((CacheSession.fresh "rl_").attempts []).step
        (.get ⟨"Staff", .weak, some 1000, .roles []⟩ "bob")).1 :=
  have h := cache_isolation_by_entry_text "rl_" [] ⟨"Staff", .weak, some 1000, .roles []⟩
    ⟨"Staff", .weak, some 1000, .roles []⟩ "alice" "bob" ["admin"]
  ⟨h.1 (entryText_ne_of_noColon (by decide) (by decide) (by decide)),
    h.2 fun _ => entryText_ne_of_noColon (by decide) (by decide) (by simp)⟩

/-- When the texts of two pairs agree, a put for one that stores its roles is what a read of the
other finds. -/
theorem colliding_put_is_read (c : RuleCache) (mem : MemoryStore) (f : Faults) (clock : Nat)
    {r1 r2 : Rule} {u1 u2 : String} {roles : List String}
    (htext : r1.name ++ ":" ++ u1 = r2.name ++ ":" ++ u2) (hr1 : r1.isCacheable = true)
    (hr2 : r2.isCacheable = true) (hn : emptySetMember ∉ roles) (hrep : f.replace = none)
    (hget : f.get = none) :
    ∃ read, ((CacheSession.step ⟨{ c with store := some (.memory mem f) }, clock⟩
      (.put r1 u1 roles)).2.step (.get r2 u2)).1 = .found read ∧
      read.Equiv (NameSet.ofList roles) := by
  rw [step_put_onMemory]
  have hk : c.entryKey r1.name u1 = c.entryKey r2.name u2 :=
    (RuleCache.entryKey_eq_iff_text ..).mpr htext
  -- the put's entry sits under the key the read looks up
  have hent : ((CacheCall.put r1 u1 roles).effect c f clock mem).entries[c.entryKey r2.name u2]? =
      some ⟨RuleCache.encodeRoles (NameSet.ofList roles), clock + min r1.ttl maxLifetimeMs⟩ := by
    simp only [CacheCall.effect, if_pos (And.intro hr1 (And.intro hn hrep))]
    split <;> simp [MemoryStore.entries_replace, hk]
  -- and it is live: a cacheable rule has a positive lifetime
  have hlive : clock < clock + min r1.ttl maxLifetimeMs := by
    obtain ⟨d, hd, hd0⟩ := (Rule.isCacheable_iff r1).mp hr1
    have httl : r1.ttl = d := by simp [Rule.ttl, hd]
    have hmax : 0 < maxLifetimeMs := by decide
    omega
  have hn' : emptySetMember ∉ NameSet.ofList roles := fun h => hn (RuleCache.mem_ofList_iff.mp h)
  obtain ⟨read, hdec, hequiv⟩ := RuleCache.decode_encode hn'
  refine ⟨read, ?_, hequiv⟩
  have hget' := CacheCall.get_after_put c f mem r1 u1 roles
  generalize (CacheCall.put r1 u1 roles).effect c f clock mem = m at hent ⊢
  generalize f.after ((CacheCall.put r1 u1 roles).methods c f mem) = g at hget' ⊢
  have hc := RuleCache.store_withStore c (some (.memory m g))
  simp only [CacheSession.step]
  rw [RuleCache.tryGet_live _ _ _ hc hr2 (hget'.trans hget) hent hlive]
  simp [CacheSession.answer, hdec]

/-- Rule "a:b" with user "c" and rule "a" with user "b:c" share an entry: a put for the first is
read by the second. -/
theorem colliding_pairs_share_an_entry :
    CacheSession.run (CacheSession.fresh "rl_")
      [.get ⟨"a", .weak, some 1000, .roles []⟩ "b:c",
        .put ⟨"a:b", .weak, some 1000, .roles []⟩ "c" ["x"],
        .get ⟨"a", .weak, some 1000, .roles []⟩ "b:c"] =
      [.missing, .done, .found (NameSet.ofList ["x"])] := by
  rfl

end RoleSync
