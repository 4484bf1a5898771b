import RoleSync.Proofs.DocumentedEngine
import RoleSync.Proofs.JsonStrings
import RoleSync.Cache.LocalEngine
/-!
The two cache stores agree. Calls made at the same clock readings get the same answers from the
in-memory store as from the database store on a documented engine with a codec that reads back
what it writes (`cache_backends_agree`), when both start empty and lifetimes are at most ten
years: the same member lists, the same drained index members, in byte order and without
duplicates, and the same purge counts.
-/

namespace RoleSync

set_option autoImplicit false

/-! ## Calls and answers -/

/-- A call on a cache store, with the clock reading it is made at where it reads the clock. -/
inductive BackendCall where
  | get (now : Nat) (key : String)
  | replace (now : Nat) (key : String) (members : List String) (ttl : Nat)
  | delete (keys : List String)
  | indexAdd (indexKey member : String)
  | indexDrain (indexKey : String)
  | purge (now : Nat)
  deriving DecidableEq, Repr

/-- What a store answers to a call. -/
inductive BackendAnswer where
  | members (found : Option (List String))
  | done
  | drained (members : List String)
  | purged (count : Nat)
  deriving DecidableEq, Repr

namespace BackendCall

/-- The calls the stores are compared on: a lifetime of at most ten years, and an expiry instant
that the file's integer column holds. -/
def Admissible : BackendCall → Prop
  | .replace now _ _ ttl => ttl ≤ maxLifetimeMs ∧ (now : Int) + ttl ≤ maxInstant
  | _ => True

instance (c : BackendCall) : Decidable c.Admissible :=
  match c with
  | .replace now _ _ ttl =>
    inferInstanceAs (Decidable (ttl ≤ maxLifetimeMs ∧ (now : Int) + ttl ≤ maxInstant))
  | .get .. | .delete .. | .indexAdd .. | .indexDrain .. | .purge .. => isTrue trivial

/-- The clock reading of a call that reads the clock. -/
def clock? : BackendCall → Option Nat
  | .get now _ | .replace now .. | .purge now => some now
  | .delete .. | .indexAdd .. | .indexDrain .. => none

/-- Whether a call writes or deletes the entry of a key. -/
def writes (key : String) : BackendCall → Bool
  | .replace _ k .. => k == key
  | .delete keys => keys.contains key
  | .get .. | .indexAdd .. | .indexDrain .. | .purge .. => false

/-- A call on the in-memory store. -/
def onMemory : BackendCall → MemoryStore → BackendAnswer × MemoryStore
  | .get now key, s => let (found, s') := s.get now key; (.members found, s')
  | .replace now key ms ttl, s => (.done, s.replace now key ms ttl)
  | .delete keys, s => (.done, s.delete keys)
  | .indexAdd ik m, s => (.done, s.indexAdd ik m)
  | .indexDrain ik, s => let (ms, s') := s.indexDrain ik; (.drained ms, s')
  | .purge now, s => let (n, s') := s.purge now; (.purged n, s')

/-- A call on the database store over an engine and a codec, the clock reading taken as the
wall-clock instant. -/
def onFile (E : SqlEngine) (J : JsonCodec) :
    BackendCall → E.Conn → Except DatabaseError BackendAnswer × E.Conn
  | .get now key, h => let (r, h') := CacheFile.get E J h now key; (r.map .members, h')
  | .replace now key ms ttl, h =>
    let (r, h') := CacheFile.replace E J h now key ms ttl; (r.map fun _ => .done, h')
  | .delete keys, h => let (r, h') := CacheFile.delete E h keys; (r.map fun _ => .done, h')
  | .indexAdd ik m, h => let (r, h') := CacheFile.indexAdd E h ik m; (r.map fun _ => .done, h')
  | .indexDrain ik, h => let (r, h') := CacheFile.indexDrain E h ik; (r.map .drained, h')
  | .purge now, h => let (r, h') := CacheFile.purge E h now; (r.map .purged, h')

/-- The answers of the in-memory store to calls made one after another. -/
def runMemory : List BackendCall → MemoryStore → List BackendAnswer
  | [], _ => []
  | c :: cs, s => (c.onMemory s).1 :: runMemory cs (c.onMemory s).2

/-- The in-memory store after calls made one after another. -/
def memoryAfter : List BackendCall → MemoryStore → MemoryStore
  | [], s => s
  | c :: cs, s => memoryAfter cs (c.onMemory s).2

/-- The answers of the database store to calls made one after another. -/
def runFile (E : SqlEngine) (J : JsonCodec) : List BackendCall → E.Conn →
    List (Except DatabaseError BackendAnswer)
  | [], _ => []
  | c :: cs, h => (c.onFile E J h).1 :: runFile E J cs (c.onFile E J h).2

theorem length_runMemory (calls : List BackendCall) (s : MemoryStore) :
    (runMemory calls s).length = calls.length := by
  induction calls generalizing s with
  | nil => rfl
  | cons c cs ih => simp [runMemory, ih]

theorem runMemory_append (xs ys : List BackendCall) (s : MemoryStore) :
    runMemory (xs ++ ys) s = runMemory xs s ++ runMemory ys (memoryAfter xs s) := by
  induction xs generalizing s with
  | nil => rfl
  | cons c cs ih => simp [runMemory, memoryAfter, ih]

end BackendCall

/-! ## Drained members come sorted -/

/-- The comparison of texts agrees with their order. -/
theorem compare_eq_lt_string (a b : String) : compare a b = .lt ↔ a < b :=
  compareOfLessAndEq_eq_lt

/-- A list of texts in strictly ascending order is the ordered list of the set of its members. -/
theorem eq_toList_of_sorted {ms : List String} {t : NameSet} (hsorted : ms.Pairwise (· < ·))
    (hmem : ∀ x, x ∈ ms ↔ x ∈ t) : ms = t.toList := by
  have hperm : ms.Perm t.toList := by
    refine (List.perm_ext_iff_of_nodup (hsorted.imp String.ne_of_lt) (nodup_toList_names t)).mpr
      fun x => ?_
    rw [Std.TreeSet.mem_toList, hmem]
  refine List.Perm.eq_of_pairwise (fun a b _ _ hab hba => absurd hba (String.lt_asymm hab))
    hsorted ?_ hperm
  exact Std.TreeSet.ordered_toList.imp fun h => (compare_eq_lt_string _ _).mp h

namespace MemoryStore

variable (s : MemoryStore) (now : Nat)

theorem get_of_none {key : String} (hk : s.entries[key]? = none) : s.get now key = (none, s) := by
  rw [get, Std.TreeMap.get?_eq_getElem?, hk]

theorem get_of_some {key : String} {e : MemoryEntry} (hk : s.entries[key]? = some e) :
    s.get now key = if now < e.expiresAt then (some e.members, s)
      else (none, { s with entries := s.entries.erase key }) := by
  rw [get, Std.TreeMap.get?_eq_getElem?, hk]

theorem getElem?_erase_entries (key k : String) :
    (s.entries.erase key)[k]? = s.entries[k]?.filter fun _ => k != key := by
  simp only [Std.TreeMap.getElem?_erase, Std.LawfulEqCmp.compare_eq_iff_eq]
  by_cases hk : key = k
  · subst hk
    cases s.entries[key]? <;> simp
  · rw [if_neg hk]
    have hne : (k != key) = true := bne_iff_ne.mpr (Ne.symm hk)
    cases s.entries[k]? with
    | none => rfl
    | some e => rw [Option.filter_some, hne, if_pos rfl]

theorem entries_delete_filter (keys : List String) (k : String) :
    (s.delete keys).entries[k]? = s.entries[k]?.filter fun _ => !keys.contains k := by
  rw [entries_delete]
  by_cases hk : k ∈ keys
  · rw [if_pos hk]
    cases s.entries[k]? <;> simp [hk]
  · rw [if_neg hk]
    cases s.entries[k]? <;> simp [hk, Option.filter_some]

/-- A purge counts the entries it drops. -/
theorem purge_count : (s.purge now).1 = s.entries.size - (s.purge now).2.entries.size := rfl

end MemoryStore

/-- Under the documented lifetimes, the file stores a write's expiry as the memory store does. -/
theorem expiryFor_of_admissible {now ttl : Nat} (httl : ttl ≤ maxLifetimeMs)
    (hfit : (now : Int) + ttl ≤ maxInstant) :
    CacheFile.expiryFor now ttl = ((now + min ttl maxLifetimeMs : Nat) : Int) := by
  rw [CacheFile.expiryFor, Nat.min_eq_left httl, Int.ofNat_eq_natCast]
  unfold maxLifetimeMs at httl
  unfold maxInstant at hfit ⊢
  push_cast
  omega

/-! ## The rows that mirror a memory store -/

/-- The cache tables hold what a memory store holds: each entry as its key's row, with its
members as text and its expiry, and each index member as a row. -/
structure Mirrors (J : JsonCodec) (s : MemoryStore) (r : CacheRows) : Prop where
  entry : ∀ k, r.entry k = s.entries[k]?.map fun e => (J.write e.members, (e.expiresAt : Int))
  indexed : ∀ ik m, r.indexed ik m = true ↔ m ∈ s.indexes.getD ik ∅

theorem Mirrors.empty (J : JsonCodec) : Mirrors J {} CacheRows.empty where
  entry k := by simp [CacheRows.empty]
  indexed ik m := by simp [CacheRows.empty, Std.TreeSet.not_mem_emptyc]

namespace CacheRows

theorem entry_foldl_deleteKey (keys : List String) (r : CacheRows) (k : String) :
    (keys.foldl deleteKey r).entry k = if k ∈ keys then none else r.entry k := by
  induction keys generalizing r with
  | nil => simp
  | cons x xs ih =>
    rw [List.foldl_cons, ih]
    by_cases hx : k = x
    · subst hx
      simp [deleteKey]
    · by_cases hk : k ∈ xs
      · simp [hk]
      · have hkeep : (k != x) = true := bne_iff_ne.mpr hx
        cases h : r.entry k <;> simp [deleteKey, hk, hx, h, hkeep, Option.filter_some]

theorem indexed_foldl_deleteKey (keys : List String) (r : CacheRows) :
    (keys.foldl deleteKey r).indexed = r.indexed := by
  induction keys generalizing r with
  | nil => rfl
  | cons x xs ih => exact ih _

end CacheRows

/-- A purge's count: the entries of a map less those it keeps are those it drops. -/
theorem size_sub_size_filter {β : Type} (t : Std.TreeMap String β compare) (p : String → β → Bool) :
    t.size - (t.filter p).size = (t.filter fun k v => !p k v).size := by
  rw [← Std.TreeMap.length_toList, ← Std.TreeMap.length_toList, ← Std.TreeMap.length_toList,
    Std.TreeMap.toList_filter, Std.TreeMap.toList_filter]
  have hsplit : (t.toList.filter fun kv => p kv.1 kv.2).length +
      (t.toList.filter fun kv => !p kv.1 kv.2).length = t.toList.length := by
    simpa [List.countP_eq_length_filter] using
      (List.length_eq_countP_add_countP (fun kv : String × β => p kv.1 kv.2) (l := t.toList)).symm
  omega

/-- A list of distinct keys is as long as a map holding exactly those keys. -/
theorem length_eq_size_of_keys {β : Type} {t : Std.TreeMap String β compare} {ks : List String}
    (hnodup : ks.Nodup) (hmem : ∀ k, k ∈ ks ↔ k ∈ t) : ks.length = t.size := by
  rw [← Std.TreeMap.length_keys]
  refine ((List.perm_ext_iff_of_nodup hnodup Std.TreeMap.nodup_keys).mpr fun k => ?_).length_eq
  rw [Std.TreeMap.mem_keys, hmem]

namespace Mirrors

variable {J : JsonCodec} {s : MemoryStore} {r : CacheRows}

/-- A read answers the members of a live entry on both stores, and drops an expired entry from
both. -/
theorem read (hjson : J.RoundTrips) (h : Mirrors J s r) (now : Nat) (key : String) :
    (r.read J now key).1 = .ok (s.get now key).1 ∧ Mirrors J (s.get now key).2 (r.read J now key).2 := by
  unfold CacheRows.read
  cases hk : s.entries[key]? with
  | none =>
    have hr : r.entry key = none := by rw [h.entry, hk]; rfl
    rw [MemoryStore.get_of_none s now hk, hr]
    exact ⟨rfl, h⟩
  | some e =>
    have hr : r.entry key = some (J.write e.members, (e.expiresAt : Int)) := by
      rw [h.entry, hk]; rfl
    rw [MemoryStore.get_of_some s now hk, hr]
    dsimp only
    by_cases hlive : now < e.expiresAt
    · have hkeep : ¬(e.expiresAt : Int) ≤ now := by omega
      rw [if_neg hkeep, hjson, if_pos hlive]
      exact ⟨rfl, h⟩
    · have hexp : (e.expiresAt : Int) ≤ now := by omega
      rw [if_pos hexp, if_neg hlive]
      refine ⟨rfl, fun k => ?_, h.indexed⟩
      -- the expired entry goes from the store and its row from the tables
      show (r.entry k).filter _ = (s.entries.erase key)[k]?.map _
      rw [MemoryStore.getElem?_erase_entries, h.entry]
      by_cases hkk : k = key
      · subst hkk
        simp [hk]
      · have hne : (k != key) = true := bne_iff_ne.mpr hkk
        cases s.entries[k]? <;> simp [hkk, hne, Option.filter_some]

/-- A write stores the same members and, under the documented lifetimes, the same expiry. -/
theorem upsert (h : Mirrors J s r) {now ttl : Nat} (httl : ttl ≤ maxLifetimeMs)
    (hfit : (now : Int) + ttl ≤ maxInstant) (key : String) (ms : List String) :
    Mirrors J (s.replace now key ms ttl) (r.upsert key (J.write ms) (CacheFile.expiryFor now ttl))
    where
  entry k := by
    rw [MemoryStore.entries_replace, expiryFor_of_admissible httl hfit]
    by_cases hk : k = key
    · subst hk
      simp [CacheRows.upsert]
    · simp [CacheRows.upsert, hk, Ne.symm hk, h.entry k]
  indexed := h.indexed

theorem deleteKeys (h : Mirrors J s r) (keys : List String) :
    Mirrors J (s.delete keys) (keys.foldl CacheRows.deleteKey r) where
  entry k := by
    rw [CacheRows.entry_foldl_deleteKey, MemoryStore.entries_delete, h.entry k]
    split <;> rfl
  indexed ik m := by
    rw [CacheRows.indexed_foldl_deleteKey]
    exact h.indexed ik m

theorem addIndex (h : Mirrors J s r) (ik m : String) :
    Mirrors J (s.indexAdd ik m) (r.addIndex ik m) where
  entry := h.entry
  indexed ik' m' := by
    rw [MemoryStore.mem_indexAdd, ← h.indexed]
    simp only [CacheRows.addIndex, Bool.or_eq_true, Bool.and_eq_true, beq_iff_eq]
    constructor
    · rintro (hold | ⟨rfl, rfl⟩)
      · exact .inr hold
      · exact .inl ⟨rfl, rfl⟩
    · rintro (⟨rfl, rfl⟩ | hold)
      · exact .inr ⟨rfl, rfl⟩
      · exact .inl hold

/-- A drain answers the ordered members of the index key on both stores, and drops them. -/
theorem drain (h : Mirrors J s r) (ik : String) {ms : List String} (hsorted : ms.Pairwise (· < ·))
    (hmem : ∀ m, m ∈ ms ↔ r.indexed ik m = true) :
    ms = (s.indexDrain ik).1 ∧ Mirrors J (s.indexDrain ik).2 (r.dropIndex ik) := by
  refine ⟨eq_toList_of_sorted hsorted fun m => (hmem m).trans (h.indexed ik m), h.entry,
    fun ik' m => ?_⟩
  show _ ↔ m ∈ (s.indexes.erase ik).getD ik' ∅
  rw [MemoryStore.getD_erase_index]
  simp only [CacheRows.dropIndex, Bool.and_eq_true, bne_iff_ne]
  by_cases hik : ik = ik'
  · subst hik
    simp [Std.TreeSet.not_mem_emptyc]
  · simp [hik, Ne.symm hik, h.indexed]

/-- A purge drops the expired entries and the index members left without a live entry, and
both stores count the entries dropped. -/
theorem purge (h : Mirrors J s r) (now : Nat) {ks : List String} (hnodup : ks.Nodup)
    (hks : ∀ k, k ∈ ks ↔ ∃ row, r.entry k = some row ∧ row.2 ≤ now) :
    ks.length = (s.purge now).1 ∧
      Mirrors J (s.purge now).2 ((r.dropExpired now).dropOrphans) := by
  -- the dropped entries are the keys the tables count
  have hcount : ks.length = (s.purge now).1 := by
    rw [MemoryStore.purge_count, show (s.purge now).2.entries =
      s.entries.filter fun _ e => decide (now < e.expiresAt) from rfl, size_sub_size_filter]
    refine length_eq_size_of_keys hnodup fun k => ?_
    rw [hks, Std.TreeMap.mem_iff_isSome_getElem?, Std.TreeMap.getElem?_filter', h.entry]
    cases s.entries[k]? with
    | none => simp
    | some e => simp
  have hentry : ∀ k, (r.dropExpired now).entry k =
      (s.purge now).2.entries[k]?.map fun e => (J.write e.members, (e.expiresAt : Int)) := by
    intro k
    show (r.entry k).filter _ = _
    rw [MemoryStore.entries_purge, h.entry]
    cases s.entries[k]? with
    | none => rfl
    | some e =>
      by_cases hlive : now < e.expiresAt
      · simp [Option.filter_some, hlive]
      · simp [Option.filter_some, hlive]
  have hindexed : (r.dropExpired now).indexed = r.indexed := rfl
  refine ⟨hcount, hentry, fun ik m => ?_⟩
  rw [MemoryStore.mem_purge_index, ← h.indexed]
  simp only [CacheRows.dropOrphans, hindexed, Bool.and_eq_true, hentry, MemoryStore.entries_purge,
    Option.isSome_map, Option.isSome_filter]
  cases s.entries[m]? with
  | none => simp
  | some e => simp

end Mirrors

/-! ## Runs -/

section Runs

variable {E : SqlEngine} {view : E.Conn → Option CacheView} (hdoc : E.Documented view)
  {J : JsonCodec} (hjson : J.RoundTrips)

include hdoc hjson

/-- One admissible call answers alike on both stores and keeps the mirror. -/
theorem Mirrors.step {s : MemoryStore} {r : CacheRows} (h : Mirrors J s r) {conn : E.Conn}
    (hv : view conn = some ⟨r, none⟩) (c : BackendCall) (hc : c.Admissible) :
    ∃ r', (c.onFile E J conn).1 = .ok (c.onMemory s).1 ∧
      view (c.onFile E J conn).2 = some ⟨r', none⟩ ∧ Mirrors J (c.onMemory s).2 r' := by
  cases c with
  | get now key =>
    obtain ⟨hres, hview⟩ := CacheFile.get_documented hdoc J hv now key
    obtain ⟨hread, hm⟩ := h.read hjson now key
    exact ⟨_, by simp only [BackendCall.onFile, BackendCall.onMemory, hres, hread]; rfl, hview, hm⟩
  | replace now key ms ttl =>
    obtain ⟨hres, hview⟩ := CacheFile.replace_documented hdoc J hv now key ms ttl
    exact ⟨_, by simp only [BackendCall.onFile, BackendCall.onMemory, hres]; rfl, hview,
      h.upsert hc.1 hc.2 key ms⟩
  | delete keys =>
    obtain ⟨hres, hview⟩ := CacheFile.delete_documented hdoc hv keys
    exact ⟨_, by simp only [BackendCall.onFile, BackendCall.onMemory, hres]; rfl, hview,
      h.deleteKeys keys⟩
  | indexAdd ik m =>
    obtain ⟨hres, hview⟩ := CacheFile.indexAdd_documented hdoc hv ik m
    exact ⟨_, by simp only [BackendCall.onFile, BackendCall.onMemory, hres]; rfl, hview,
      h.addIndex ik m⟩
  | indexDrain ik =>
    obtain ⟨ms, hsorted, hmem, hres, hview⟩ := CacheFile.indexDrain_documented hdoc hv ik
    obtain ⟨hms, hm⟩ := h.drain ik hsorted hmem
    exact ⟨_, by simp only [BackendCall.onFile, BackendCall.onMemory, hres, hms]; rfl, hview, hm⟩
  | purge now =>
    obtain ⟨ks, hnodup, hks, hres, hview⟩ := CacheFile.purge_documented hdoc hv now
    obtain ⟨hlen, hm⟩ := h.purge now hnodup hks
    exact ⟨_, by simp only [BackendCall.onFile, BackendCall.onMemory, hres, hlen]; rfl, hview, hm⟩

/-- A run of admissible calls answers alike on both stores. -/
theorem Mirrors.run {s : MemoryStore} {r : CacheRows} (h : Mirrors J s r) {conn : E.Conn}
    (hv : view conn = some ⟨r, none⟩) (calls : List BackendCall)
    (hadm : ∀ c ∈ calls, c.Admissible) :
    BackendCall.runFile E J calls conn = (BackendCall.runMemory calls s).map .ok := by
  induction calls generalizing s r conn with
  | nil => rfl
  | cons c cs ih =>
    obtain ⟨r', hres, hv', hm⟩ := h.step hdoc hjson hv c (hadm c List.mem_cons_self)
    rw [BackendCall.runFile, BackendCall.runMemory, hres, List.map_cons,
      ih hm hv' fun c hc => hadm c (List.mem_cons_of_mem _ hc)]

end Runs

/-! ## The memory store's answers -/

namespace BackendCall

/-- The memory store drains an index in strictly increasing order, so with no member twice. -/
theorem onMemory_drained (c : BackendCall) (s : MemoryStore) {ms : List String}
    (h : (c.onMemory s).1 = .drained ms) : ms.Pairwise (· < ·) := by
  cases c with
  | indexDrain ik =>
    cases h
    exact Std.TreeSet.ordered_toList.imp fun hlt => (compare_eq_lt_string _ _).mp hlt
  | get | replace | delete | indexAdd | purge => cases h

theorem runMemory_drained (calls : List BackendCall) (s : MemoryStore) :
    ∀ ms, .drained ms ∈ runMemory calls s → ms.Pairwise (· < ·) := by
  induction calls generalizing s with
  | nil => intro ms hms; cases hms
  | cons c cs ih =>
    intro ms hms
    rcases List.mem_cons.mp hms with hhead | htail
    · exact onMemory_drained c s hhead.symm
    · exact ih _ ms htail

/-- A call that neither writes nor deletes a key keeps the key's entry, or drops an entry that
expired by the call's clock reading. -/
theorem entry_after (c : BackendCall) (s : MemoryStore) {key : String}
    (hw : c.writes key = false) :
    (c.onMemory s).2.entries[key]? = s.entries[key]? ∨
      ((c.onMemory s).2.entries[key]? = none ∧
        ∃ e, s.entries[key]? = some e ∧ ∃ now ∈ c.clock?, e.expiresAt ≤ now) := by
  cases c with
  | get now k =>
    show (s.get now k).2.entries[key]? = _ ∨ ((s.get now k).2.entries[key]? = none ∧ _)
    cases hk : s.entries[k]? with
    | none =>
      rw [MemoryStore.get_of_none s now hk]
      exact Or.inl rfl
    | some e =>
      rw [MemoryStore.get_of_some s now hk]
      by_cases hlive : now < e.expiresAt
      · rw [if_pos hlive]
        exact Or.inl rfl
      · -- the entry read is dropped as expired; any other key keeps its entry
        rw [if_neg hlive]
        show (s.entries.erase k)[key]? = _ ∨ ((s.entries.erase k)[key]? = none ∧ _)
        rw [MemoryStore.getElem?_erase_entries]
        by_cases hkey : key = k
        · subst hkey
          refine Or.inr ⟨by simp [hk], e, hk, now, rfl, by omega⟩
        · left
          cases s.entries[key]? with
          | none => rfl
          | some e' => rw [Option.filter_some, bne_iff_ne.mpr hkey, if_pos rfl]
  | replace now k ms ttl =>
    left
    have hk : k ≠ key := fun hk => by simp [writes, hk] at hw
    show (s.replace now k ms ttl).entries[key]? = _
    rw [MemoryStore.entries_replace, if_neg hk]
  | delete keys =>
    left
    have hk : key ∉ keys := fun hk => by simp [writes, hk] at hw
    show (s.delete keys).entries[key]? = _
    rw [MemoryStore.entries_delete, if_neg hk]
  | indexAdd | indexDrain => exact Or.inl rfl
  | purge now =>
    show (s.purge now).2.entries[key]? = _ ∨ ((s.purge now).2.entries[key]? = none ∧ _)
    rw [MemoryStore.entries_purge]
    cases hk : s.entries[key]? with
    | none => exact Or.inl rfl
    | some e =>
      by_cases hlive : now < e.expiresAt
      · left
        simp [hlive]
      · right
        have hexp : e.expiresAt ≤ now := Nat.not_lt.mp hlive
        exact ⟨by simpa using hexp, e, rfl, now, rfl, hexp⟩

/-- Along calls that neither write nor delete a key and read the clock no later than `later`,
an entry written under the key stays, or is gone having expired by `later`. -/
theorem entry_along (mid : List BackendCall) (s : MemoryStore) {key : String} {e : MemoryEntry}
    {later : Nat} (hmid : ∀ c ∈ mid, c.writes key = false ∧ ∀ now ∈ c.clock?, now ≤ later)
    (hs : s.entries[key]? = some e ∨ (s.entries[key]? = none ∧ e.expiresAt ≤ later)) :
    (memoryAfter mid s).entries[key]? = some e ∨
      ((memoryAfter mid s).entries[key]? = none ∧ e.expiresAt ≤ later) := by
  induction mid generalizing s with
  | nil => exact hs
  | cons c cs ih =>
    obtain ⟨hw, hclock⟩ := hmid c List.mem_cons_self
    refine ih (c.onMemory s).2 (fun c' hc' => hmid c' (List.mem_cons_of_mem _ hc')) ?_
    rcases entry_after c s hw with hsame | ⟨hgone, e', he', now, hnow, hexp⟩
    · rw [hsame]
      exact hs
    · -- an entry dropped by the call expired by its clock reading, so by `later`
      refine Or.inr ⟨hgone, ?_⟩
      rcases hs with hs | ⟨hs, _⟩
      · rw [hs] at he'
        cases he'
        exact Nat.le_trans hexp (hclock now hnow)
      · rw [hs] at he'
        cases he'

theorem memoryAfter_append (xs ys : List BackendCall) (s : MemoryStore) :
    memoryAfter (xs ++ ys) s = memoryAfter ys (memoryAfter xs s) := by
  induction xs generalizing s with
  | nil => rfl
  | cons c cs ih => exact ih _

theorem getElem?_runMemory_append (xs ys : List BackendCall) (s : MemoryStore) (i : Nat) :
    (runMemory (xs ++ ys) s)[xs.length + i]? = (runMemory ys (memoryAfter xs s))[i]? := by
  rw [runMemory_append, ← length_runMemory xs s, List.getElem?_append_right (Nat.le_add_right _ _),
    Nat.add_sub_cancel_left]

/-- In the memory store an entry is live exactly while the clock is before its write instant
plus its lifetime: a read of a key, after calls that neither write nor delete it and read the
clock no later than the read, finds the members written last exactly then. -/
theorem runMemory_read_after_write (s : MemoryStore) (pre mid post : List BackendCall) (t : Nat)
    (key : String) (ms : List String) {ttl : Nat} (later : Nat) (httl : ttl ≤ maxLifetimeMs)
    (hmid : ∀ c ∈ mid, c.writes key = false ∧ ∀ now ∈ c.clock?, now ≤ later) :
    (runMemory (pre ++ .replace t key ms ttl :: mid ++ .get later key :: post) s)[pre.length + 1 + mid.length]? =
      some (.members (if later < t + ttl then some ms else none)) := by
  -- the read comes right after the calls up to the end of `mid`
  rw [show pre.length + 1 + mid.length = (pre ++ replace t key ms ttl :: mid).length + 0 by
      simp only [List.length_append, List.length_cons]; omega,
    getElem?_runMemory_append, runMemory, List.getElem?_cons_zero, memoryAfter_append,
    memoryAfter]
  -- the write stores the members until `t + ttl`
  have hwritten : ((replace t key ms ttl).onMemory (memoryAfter pre s)).2.entries[key]? =
      some ⟨ms, t + ttl⟩ := by
    show (MemoryStore.replace _ t key ms ttl).entries[key]? = _
    rw [MemoryStore.entries_replace, if_pos rfl, Nat.min_eq_left httl]
  obtain hstays | ⟨hgone, hexp⟩ := entry_along mid _ hmid (Or.inl hwritten)
  · show some (BackendAnswer.members ((MemoryStore.get _ later key).1)) = _
    rw [MemoryStore.get_of_some _ later hstays]
    by_cases hlive : later < t + ttl
    · rw [if_pos hlive, if_pos hlive]
    · rw [if_neg hlive, if_neg hlive]
  · show some (BackendAnswer.members ((MemoryStore.get _ later key).1)) = _
    rw [MemoryStore.get_of_none _ later hgone, if_neg (Nat.not_lt.mpr hexp)]

end BackendCall

/-! ## The two stores agree -/

open BackendCall in
/-- The in-memory store and the database store, on an engine that runs the store's statements
as documented and a codec that reads back what it writes, both starting empty, answer every run
of admissible calls alike. Drained index members come in byte order with none twice, and on
both stores a read after a write finds the members exactly while the clock is before the write
instant plus the lifetime, when no call between writes or deletes the key or reads the clock
later than the read. -/
theorem cache_backends_agree (E : SqlEngine) (J : JsonCodec) (view : E.Conn → Option CacheView)
    (hdoc : E.Documented view) (hjson : J.RoundTrips) (conn : E.Conn)
    (hempty : view conn = some ⟨CacheRows.empty, none⟩) (calls : List BackendCall)
    (hadm : ∀ c ∈ calls, c.Admissible) :
    runFile E J calls conn = (runMemory calls {}).map .ok ∧
      (∀ ms, .drained ms ∈ runMemory calls {} → ms.Pairwise (· < ·)) ∧
      ∀ pre t key ms ttl mid later post,
        calls = pre ++ .replace t key ms ttl :: mid ++ .get later key :: post →
        (∀ c ∈ mid, c.writes key = false ∧ ∀ now ∈ c.clock?, now ≤ later) →
        (runMemory calls {})[pre.length + 1 + mid.length]? =
            some (.members (if later < t + ttl then some ms else none)) ∧
          (runFile E J calls conn)[pre.length + 1 + mid.length]? =
            some (.ok (.members (if later < t + ttl then some ms else none))) := by
  have hrun : runFile E J calls conn = (runMemory calls {}).map .ok :=
    (Mirrors.empty J).run hdoc hjson hempty calls hadm
  refine ⟨hrun, runMemory_drained calls {}, ?_⟩
  intro pre t key ms ttl mid later post hcalls hmid
  have hwrite : replace t key ms ttl ∈ calls := by
    rw [hcalls]
    simp
  have hmem := runMemory_read_after_write {} pre mid post t key ms later (hadm _ hwrite).1 hmid
  rw [← hcalls] at hmem
  refine ⟨hmem, ?_⟩
  rw [hrun, List.getElem?_map, hmem]
  rfl

/-- The JSON texts of this library read back as the member lists they were written from. -/
theorem Text.Json.codec_roundTrips : Text.Json.codec.RoundTrips :=
  Text.Json.readStrings_writeStrings

theorem CacheTables.rows_empty : CacheTables.rows {} = CacheRows.empty := by
  simp only [CacheTables.rows, CacheRows.empty, CacheRows.mk.injEq]
  constructor
  · funext k
    simp
  · funext ik m
    simp

/-- A write read back before and at the end of its lifetime, an index member added and drained,
and a purge, answered alike by both stores over the engine on cache tables. -/
theorem cache_backends_agree_on_a_session :
    BackendCall.runFile tableEngine Text.Json.codec [.replace 0 "k" ["a", "b"] 5, .get 4 "k",
        .indexAdd "u" "k", .indexDrain "u", .purge 5, .get 5 "k"] (tableEngine.connect {}) =
      [.ok .done, .ok (.members (some ["a", "b"])), .ok .done, .ok (.drained ["k"]),
        .ok (.purged 1), .ok (.members none)] := by
  rw [(cache_backends_agree tableEngine Text.Json.codec tableView tableEngine_documented
    Text.Json.codec_roundTrips (tableEngine.connect {})
    (by rw [show tableEngine.connect {} = ({}, none) from rfl, tableView_pair,
      CacheTables.rows_empty]; rfl) _ (by decide)).1]
  have hmem : BackendCall.runMemory [.replace 0 "k" ["a", "b"] 5, .get 4 "k", .indexAdd "u" "k",
      .indexDrain "u", .purge 5, .get 5 "k"] {} =
      [.done, .members (some ["a", "b"]), .done, .drained ["k"], .purged 1, .members none] := by
    decide +kernel
  rw [hmem]
  rfl

end RoleSync
