import RoleSync.Proofs.CacheStore
/-!
What the database store assumes of its engine and codec, and what its methods then do to the
rows of the two cache tables. `SqlEngine.Documented` gives each statement of the store the
meaning the engine documents for it on those tables; `JsonCodec.RoundTrips` asks that a
written member list reads back.
-/

namespace RoleSync

set_option autoImplicit false

/-- The rows of the two cache tables: the entry row of each key, its member text and expiry
instant, and whether the index table holds a row for an index key and a member. -/
structure CacheRows where
  entry : String → Option (String × Int)
  indexed : String → String → Bool

/-- The rows seen on a connection, with the rows as they were when its open transaction
began. -/
structure CacheView where
  rows : CacheRows
  begun : Option CacheRows

namespace CacheRows

def empty : CacheRows := ⟨fun _ => none, fun _ _ => false⟩

variable (r : CacheRows)

/-- The rows after an entry is written over whatever its key held. -/
def upsert (k m : String) (e : Int) : CacheRows :=
  { r with entry := fun k' => if k' = k then some (m, e) else r.entry k' }

/-- The rows after the entry of a key is deleted, if it has the given expiry. -/
def deleteIfExpiry (k : String) (e : Int) : CacheRows :=
  { r with entry := fun k' => (r.entry k').filter fun row => !(k' == k && row.2 == e) }

/-- The rows after the entry of a key is deleted. -/
def deleteKey (k : String) : CacheRows :=
  { r with entry := fun k' => (r.entry k').filter fun _ => k' != k }

/-- The rows after the entries expired at an instant are deleted. -/
def dropExpired (t : Int) : CacheRows :=
  { r with entry := fun k => (r.entry k).filter fun row => decide (t < row.2) }

def addIndex (ik m : String) : CacheRows :=
  { r with indexed := fun ik' m' => r.indexed ik' m' || (ik' == ik && m' == m) }

def dropIndex (ik : String) : CacheRows :=
  { r with indexed := fun ik' m => r.indexed ik' m && ik' != ik }

/-- The rows after the index rows whose member is no entry key are deleted. -/
def dropOrphans : CacheRows :=
  { r with indexed := fun ik m => r.indexed ik m && (r.entry m).isSome }

/-- A read of a key at a wall-clock instant, on the rows: an expired entry is deleted and reads
as absent, a live one reads as its decoded members, and an undecodable one is corrupt. -/
def read (J : JsonCodec) (clock : Int) (key : String) :
    Except DatabaseError (Option (List String)) × CacheRows :=
  match r.entry key with
  | none => (.ok none, r)
  | some (m, e) =>
    if e ≤ clock then (.ok none, r.deleteIfExpiry key e)
    else
      match J.read m with
      | some ms => (.ok (some ms), r)
      | none => (.error (.corrupt "undecodable members"), r)

end CacheRows

/-- A written member list reads back. -/
def JsonCodec.RoundTrips (J : JsonCodec) : Prop := ∀ ms, J.read (J.write ms) = some ms

/-- The engine runs each statement of the store as documented, on connections that `view`
reads as the cache tables. Every statement succeeds there and changes the rows as its text
says; a transaction's rows stay until it commits, and closing a connection rolls back what an
open transaction wrote. -/
structure SqlEngine.Documented (E : SqlEngine) (view : E.Conn → Option CacheView) : Prop where
  selectEntry : ∀ c v k, view c = some v → ∃ names c',
    E.query c CacheFile.selectEntry [.text k] =
      .ok (names, (v.rows.entry k).toList.map fun row => [.text row.1, .integer row.2], c') ∧
    view c' = some v
  deleteExpired : ∀ c v k e, view c = some v → ∃ n c',
    E.execute c CacheFile.deleteExpired [.text k, .integer e] = .ok (n, c') ∧
    view c' = some { v with rows := v.rows.deleteIfExpiry k e }
  upsertEntry : ∀ c v k m e, view c = some v → ∃ n c',
    E.execute c CacheFile.upsertEntry [.text k, .text m, .integer e] = .ok (n, c') ∧
    view c' = some { v with rows := v.rows.upsert k m e }
  deleteEntry : ∀ c v k, view c = some v → ∃ n c',
    E.execute c CacheFile.deleteEntry [.text k] = .ok (n, c') ∧
    view c' = some { v with rows := v.rows.deleteKey k }
  insertIndex : ∀ c v ik m, view c = some v → ∃ n c',
    E.execute c CacheFile.insertIndex [.text ik, .text m] = .ok (n, c') ∧
    view c' = some { v with rows := v.rows.addIndex ik m }
  /-- The members of an index key come once each, in ascending order: the BINARY collation
  orders texts as `<` on `String` does. -/
  selectIndex : ∀ c v ik, view c = some v → ∃ names, ∃ ms : List String, ∃ c',
    E.query c CacheFile.selectIndex [.text ik] = .ok (names, ms.map fun m => [.text m], c') ∧
    ms.Pairwise (· < ·) ∧ (∀ m, m ∈ ms ↔ v.rows.indexed ik m = true) ∧ view c' = some v
  deleteIndex : ∀ c v ik, view c = some v → ∃ n c',
    E.execute c CacheFile.deleteIndex [.text ik] = .ok (n, c') ∧
    view c' = some { v with rows := v.rows.dropIndex ik }
  /-- The count is that of the expired entries, each key once. -/
  purgeEntries : ∀ c v t, view c = some v → ∃ ks : List String, ∃ c', ks.Nodup ∧
    (∀ k, k ∈ ks ↔ ∃ row, v.rows.entry k = some row ∧ row.2 ≤ t) ∧
    E.execute c CacheFile.purgeEntries [.integer t] = .ok (ks.length, c') ∧
    view c' = some { v with rows := v.rows.dropExpired t }
  purgeIndex : ∀ c v, view c = some v → ∃ n c',
    E.execute c CacheFile.purgeIndex [] = .ok (n, c') ∧
    view c' = some { v with rows := v.rows.dropOrphans }
  begin : ∀ c r, view c = some ⟨r, none⟩ → ∃ c',
    E.beginTransaction c = .ok c' ∧ view c' = some ⟨r, some r⟩
  commit : ∀ c r b, view c = some ⟨r, some b⟩ → ∃ c',
    E.commitTransaction c = .ok c' ∧ view c' = some ⟨r, none⟩
  /-- Each transaction is atomic: a connection closed with one open keeps none of its rows. -/
  reopen : ∀ c r b, view c = some ⟨r, b⟩ → view (E.reopen c) = some ⟨b.getD r, none⟩

/-- A method's result, and the rows its connection reads after, with no transaction open. -/
def SqlEngine.Answers {E : SqlEngine} (view : E.Conn → Option CacheView) {α : Type}
    (p : Except DatabaseError α × E.Conn) (res : Except DatabaseError α) (r : CacheRows) : Prop :=
  p.1 = res ∧ view p.2 = some ⟨r, none⟩

namespace CacheFile

/-! ## The methods on a documented engine -/

@[simp] theorem ok_bind {ε α β : Type} (a : α) (f : α → Except ε β) :
    (Except.ok a >>= f) = f a := rfl

@[simp] theorem pure_eq_ok {ε α : Type} (a : α) : (pure a : Except ε α) = .ok a := rfl

@[simp] theorem map_ok {ε α β : Type} (f : α → β) (a : α) :
    Except.map f (.ok a : Except ε α) = .ok (f a) := rfl

/-- Rows of one text each read back as their texts. -/
theorem mapM_readText_texts (names : List String) : ∀ ms : List String,
    ms.mapM ((fun row => call (Sql.readText names 0 (row[0]?.getD .null))) ∘
      fun m => [Sql.Value.text m]) = .ok ms
  | [] => rfl
  | m :: rest => by simp [List.mapM_cons, mapM_readText_texts names rest]

section Documented

variable {E : SqlEngine} {view : E.Conn → Option CacheView} (hdoc : E.Documented view)
  (J : JsonCodec) {h : E.Conn} {r : CacheRows}

include hdoc

theorem onHandle_ok {α : Type} {calls : E.Conn → Except DatabaseError (α × E.Conn)} {a : α}
    {c : E.Conn} {r' : CacheRows} (hcalls : calls h = .ok (a, c))
    (hc : view c = some ⟨r', none⟩) : E.Answers view (onHandle E h calls) (.ok a) r' := by
  unfold onHandle
  rw [hcalls]
  exact ⟨rfl, hdoc.reopen c r' none hc⟩

theorem onHandle_error {α : Type} {calls : E.Conn → Except DatabaseError (α × E.Conn)}
    {e : DatabaseError} (hh : view h = some ⟨r, none⟩) (hcalls : calls h = .error e) :
    E.Answers view (onHandle E h calls) (.error e) r := by
  unfold onHandle
  rw [hcalls]
  exact ⟨rfl, hdoc.reopen h r none hh⟩

/-- A read answers as the rows say, deleting an entry it finds expired. -/
theorem get_documented (hh : view h = some ⟨r, none⟩) (clock : Int) (key : String) :
    E.Answers view (get E J h clock key) (r.read J clock key).1 (r.read J clock key).2 := by
  obtain ⟨names, c₁, hq, hv₁⟩ := hdoc.selectEntry h _ key hh
  unfold get CacheRows.read
  cases he : r.entry key with
  | none =>
    refine onHandle_ok hdoc (c := c₁) ?_ hv₁
    simp [hq, he]
  | some row =>
    obtain ⟨m, e⟩ := row
    by_cases hexp : e ≤ clock
    · obtain ⟨n, c₂, hx, hv₂⟩ := hdoc.deleteExpired c₁ _ key e hv₁
      simp only [hexp, if_true]
      refine onHandle_ok hdoc (c := c₂) ?_ hv₂
      simp [hq, he, hx, hexp]
    · simp only [hexp, if_false]
      cases hj : J.read m with
      | none =>
        refine onHandle_error hdoc hh ?_
        simp [hq, he, hexp, hj]
      | some ms =>
        refine onHandle_ok hdoc (c := c₁) ?_ hv₁
        simp [hq, he, hexp, hj]

/-- A write upserts the row of its key, its expiry saturated at the column's largest value. -/
theorem replace_documented (hh : view h = some ⟨r, none⟩) (clock : Int) (key : String)
    (ms : List String) (ttl : Nat) :
    E.Answers view (replace E J h clock key ms ttl) (.ok ())
      (r.upsert key (J.write ms) (expiryFor clock ttl)) := by
  obtain ⟨n, c₁, hx, hv₁⟩ := hdoc.upsertEntry h _ key (J.write ms) (expiryFor clock ttl) hh
  exact onHandle_ok hdoc (by simp [hx]) hv₁

/-- Inside a transaction, the deletions of keys one after another delete each key's row. -/
theorem deleteEach_documented {b : CacheRows} :
    ∀ (keys : List String) (c : E.Conn) (r : CacheRows), view c = some ⟨r, some b⟩ →
      ∃ c', deleteEach E c keys = .ok c' ∧
        view c' = some ⟨keys.foldl CacheRows.deleteKey r, some b⟩
  | [], c, r, hc => ⟨c, rfl, hc⟩
  | k :: ks, c, r, hc => by
    obtain ⟨n, c₁, hx, hv₁⟩ := hdoc.deleteEntry c _ k hc
    obtain ⟨c', hrest, hv'⟩ := deleteEach_documented ks c₁ (r.deleteKey k) hv₁
    exact ⟨c', by simp [deleteEach, hx, hrest], hv'⟩

theorem delete_documented (hh : view h = some ⟨r, none⟩) (keys : List String) :
    E.Answers view (delete E h keys) (.ok ()) (keys.foldl CacheRows.deleteKey r) := by
  obtain ⟨c₁, hb, hv₁⟩ := hdoc.begin h r hh
  obtain ⟨c₂, hd, hv₂⟩ := deleteEach_documented hdoc keys c₁ r hv₁
  obtain ⟨c₃, hc, hv₃⟩ := hdoc.commit c₂ _ r hv₂
  exact onHandle_ok hdoc (by simp [hb, hd, hc]) hv₃

theorem indexAdd_documented (hh : view h = some ⟨r, none⟩) (ik m : String) :
    E.Answers view (indexAdd E h ik m) (.ok ()) (r.addIndex ik m) := by
  obtain ⟨n, c₁, hx, hv₁⟩ := hdoc.insertIndex h _ ik m hh
  exact onHandle_ok hdoc (by simp [hx]) hv₁

/-- A drain answers the members of the index key once each in ascending order, and deletes
their rows. -/
theorem indexDrain_documented (hh : view h = some ⟨r, none⟩) (ik : String) :
    ∃ ms : List String, ms.Pairwise (· < ·) ∧ (∀ m, m ∈ ms ↔ r.indexed ik m = true) ∧
      E.Answers view (indexDrain E h ik) (.ok ms) (r.dropIndex ik) := by
  obtain ⟨c₁, hb, hv₁⟩ := hdoc.begin h r hh
  obtain ⟨names, ms, c₂, hq, hsorted, hmem, hv₂⟩ := hdoc.selectIndex c₁ _ ik hv₁
  obtain ⟨n, c₃, hx, hv₃⟩ := hdoc.deleteIndex c₂ _ ik hv₂
  obtain ⟨c₄, hc, hv₄⟩ := hdoc.commit c₃ _ r hv₃
  exact ⟨ms, hsorted, hmem,
    onHandle_ok hdoc (by simp [hb, hq, mapM_readText_texts names ms, hx, hc]) hv₄⟩

/-- A purge counts the expired entries, each once, and deletes them with the index rows left
without an entry. -/
theorem purge_documented (hh : view h = some ⟨r, none⟩) (clock : Int) :
    ∃ ks : List String, ks.Nodup ∧ (∀ k, k ∈ ks ↔ ∃ row, r.entry k = some row ∧ row.2 ≤ clock) ∧
      E.Answers view (purge E h clock) (.ok ks.length) (r.dropExpired clock).dropOrphans := by
  obtain ⟨c₁, hb, hv₁⟩ := hdoc.begin h r hh
  obtain ⟨ks, c₂, hnodup, hks, hx, hv₂⟩ := hdoc.purgeEntries c₁ _ clock hv₁
  obtain ⟨n, c₃, hy, hv₃⟩ := hdoc.purgeIndex c₂ _ hv₂
  obtain ⟨c₄, hc, hv₄⟩ := hdoc.commit c₃ _ r hv₃
  exact ⟨ks, hnodup, hks, onHandle_ok hdoc (by simp [hb, hx, hy, hc]) hv₄⟩

end Documented

end CacheFile

/-! ## A documented engine

The laws are met by an engine that keeps the two tables as maps and runs the store's statements
on them; it refuses every other statement. -/

/-- The cache tables as maps: entry rows by key, and the members of each index key. -/
structure CacheTables where
  entries : Std.TreeMap String (String × Int) compare := ∅
  index : Std.TreeMap String NameSet compare := ∅

namespace CacheTables

def rows (t : CacheTables) : CacheRows :=
  ⟨fun k => t.entries[k]?, fun ik m => (t.index.getD ik ∅).contains m⟩

/-- The refusal of a statement the tables do not run. -/
def unknown : Sql.CallError := .engine "not a cache statement"

/-- Runs one of the store's queries. -/
def query (t : CacheTables) (sql : String) :
    List Sql.Value → Except Sql.CallError (List String × List (List Sql.Value))
  | [.text k] =>
    if sql = CacheFile.selectEntry then
      .ok (["members", "expires_at_ms"],
        (t.entries[k]?).toList.map fun row => [.text row.1, .integer row.2])
    else if sql = CacheFile.selectIndex then
      .ok (["member"], (t.index.getD k ∅).toList.map fun m => [.text m])
    else .error unknown
  | _ => .error unknown

/-- Runs one of the store's statements that change rows. -/
def execute (t : CacheTables) (sql : String) :
    List Sql.Value → Except Sql.CallError (Nat × CacheTables)
  | [.text k, .integer e] =>
    if sql = CacheFile.deleteExpired then
      .ok (0, { t with entries := t.entries.filter fun k' row => !(k' == k && row.2 == e) })
    else .error unknown
  | [.text k, .text m, .integer e] =>
    if sql = CacheFile.upsertEntry then .ok (1, { t with entries := t.entries.insert k (m, e) })
    else .error unknown
  | [.text k] =>
    if sql = CacheFile.deleteEntry then .ok (0, { t with entries := t.entries.erase k })
    else if sql = CacheFile.deleteIndex then .ok (0, { t with index := t.index.erase k })
    else .error unknown
  | [.text ik, .text m] =>
    if sql = CacheFile.insertIndex then
      .ok (1, { t with index := t.index.insert ik ((t.index.getD ik ∅).insert m) })
    else .error unknown
  | [.integer now] =>
    if sql = CacheFile.purgeEntries then
      .ok ((t.entries.filter fun _ row => decide (row.2 ≤ now)).size,
        { t with entries := t.entries.filter fun _ row => decide (now < row.2) })
    else .error unknown
  | [] =>
    if sql = CacheFile.purgeIndex then
      .ok (0, { t with index := t.index.map fun _ ms => ms.filter (t.entries.contains ·) })
    else .error unknown
  | _ => .error unknown

end CacheTables

/-- The engine on cache tables; a connection holds the tables, and the tables as they were when
its open transaction began. -/
def tableEngine : SqlEngine where
  File := CacheTables
  Conn := CacheTables × Option CacheTables
  connect t := (t, none)
  close c := c.2.getD c.1
  query c sql params := (c.1.query sql params).map fun (names, rows) => (names, rows, c)
  execute c sql params := (c.1.execute sql params).map fun (n, t) => (n, (t, c.2))
  executeBatch _ _ := .error CacheTables.unknown
  beginTransaction c := match c.2 with
    | none => .ok (c.1, some c.1)
    | some _ => .error (.engine "cannot start a transaction within a transaction")
  commitTransaction c := match c.2 with
    | some _ => .ok (c.1, none)
    | none => .error (.engine "cannot commit - no transaction is active")

def tableView (c : tableEngine.Conn) : Option CacheView :=
  some ⟨c.1.rows, c.2.map CacheTables.rows⟩

namespace CacheTables

variable (t : CacheTables)

theorem rows_deleteExpired (k : String) (e : Int) :
    ({ t with entries := t.entries.filter fun k' row => !(k' == k && row.2 == e) } :
      CacheTables).rows = t.rows.deleteIfExpiry k e := by
  simp only [rows, CacheRows.deleteIfExpiry, Std.TreeMap.getElem?_filter']

theorem rows_upsert (k m : String) (e : Int) :
    ({ t with entries := t.entries.insert k (m, e) } : CacheTables).rows = t.rows.upsert k m e := by
  simp only [rows, CacheRows.upsert, CacheRows.mk.injEq, and_true]
  funext k'
  by_cases hk : k' = k
  · subst hk
    simp
  · simp [Std.TreeMap.getElem?_insert, hk, Ne.symm hk]

theorem rows_erase_entry (k : String) :
    ({ t with entries := t.entries.erase k } : CacheTables).rows = t.rows.deleteKey k := by
  simp only [rows, CacheRows.deleteKey, CacheRows.mk.injEq, and_true]
  funext k'
  by_cases hk : k' = k
  · subst hk
    cases t.entries[k']? <;> simp
  · have hkeep : (k' != k) = true := bne_iff_ne.mpr hk
    cases h : t.entries[k']? <;>
      simp [Std.TreeMap.getElem?_erase, Ne.symm hk, h, hkeep, Option.filter_some]

theorem rows_insert_index (ik m : String) :
    ({ t with index := t.index.insert ik ((t.index.getD ik ∅).insert m) } : CacheTables).rows =
      t.rows.addIndex ik m := by
  simp only [rows, CacheRows.addIndex, CacheRows.mk.injEq, true_and]
  funext ik' m'
  by_cases hk : ik' = ik
  · subst hk
    by_cases hm : m' = m
    · subst hm
      simp
    · have hnew : (compare m m' == .eq) = false := by simp [Ne.symm hm]
      simp [Std.TreeSet.contains_insert, hnew, hm]
  · simp [Std.TreeMap.getD_insert, hk, Ne.symm hk]

theorem rows_erase_index (ik : String) :
    ({ t with index := t.index.erase ik } : CacheTables).rows = t.rows.dropIndex ik := by
  simp only [rows, CacheRows.dropIndex, CacheRows.mk.injEq, true_and]
  funext ik' m
  by_cases hk : ik' = ik
  · subst hk
    simp
  · simp [Std.TreeMap.getD_erase, hk, Ne.symm hk]

theorem rows_dropExpired (now : Int) :
    ({ t with entries := t.entries.filter fun _ row => decide (now < row.2) } : CacheTables).rows =
      t.rows.dropExpired now := by
  simp only [rows, CacheRows.dropExpired, Std.TreeMap.getElem?_filter']

theorem rows_dropOrphans :
    ({ t with index := t.index.map fun _ ms => ms.filter (t.entries.contains ·) } :
      CacheTables).rows = t.rows.dropOrphans := by
  simp only [rows, CacheRows.dropOrphans, CacheRows.mk.injEq, true_and]
  funext ik m
  rw [Std.TreeMap.getD_eq_getD_getElem?, Std.TreeMap.getElem?_map,
    Std.TreeMap.getD_eq_getD_getElem?]
  cases t.index[ik]? with
  | none => simp
  | some ms =>
    simp only [Option.map_some, Option.getD_some]
    rw [Bool.eq_iff_iff, Bool.and_eq_true, ← Std.TreeSet.mem_iff_contains,
      ← Std.TreeSet.mem_iff_contains, mem_filter_names, Std.TreeMap.contains_eq_isSome_getElem?]

/-- The keys of the entries expired at an instant, each once. -/
theorem expired_keys (now : Int) :
    (t.entries.filter fun _ row => decide (row.2 ≤ now)).keys.Nodup ∧
      ∀ k, k ∈ (t.entries.filter fun _ row => decide (row.2 ≤ now)).keys ↔
        ∃ row, t.entries[k]? = some row ∧ row.2 ≤ now := by
  refine ⟨Std.TreeMap.nodup_keys, fun k => ?_⟩
  rw [Std.TreeMap.mem_keys, Std.TreeMap.mem_iff_isSome_getElem?, Std.TreeMap.getElem?_filter']
  cases t.entries[k]? <;> simp

end CacheTables

theorem tableView_eq {c : tableEngine.Conn} {v : CacheView} (hc : tableView c = some v) :
    v = ⟨c.1.rows, c.2.map CacheTables.rows⟩ :=
  (Option.some.inj hc).symm

theorem tableView_pair (t : CacheTables) (b : Option CacheTables) :
    tableView (t, b) = some ⟨t.rows, b.map CacheTables.rows⟩ := rfl

/-- The engine on cache tables runs the store's statements as documented. -/
theorem tableEngine_documented : tableEngine.Documented tableView where
  selectEntry c v k hc := by
    obtain rfl := tableView_eq hc
    refine ⟨["members", "expires_at_ms"], c, ?_, rfl⟩
    simp [tableEngine, CacheTables.query, CacheTables.rows]
  deleteExpired c v k e hc := by
    obtain rfl := tableView_eq hc
    refine ⟨0, ({ c.1 with entries := c.1.entries.filter fun k' row => !(k' == k && row.2 == e) },
      c.2), ?_, by rw [tableView_pair, CacheTables.rows_deleteExpired]⟩
    simp [tableEngine, CacheTables.execute]
  upsertEntry c v k m e hc := by
    obtain rfl := tableView_eq hc
    refine ⟨1, ({ c.1 with entries := c.1.entries.insert k (m, e) }, c.2), ?_,
      by rw [tableView_pair, CacheTables.rows_upsert]⟩
    simp [tableEngine, CacheTables.execute]
  deleteEntry c v k hc := by
    obtain rfl := tableView_eq hc
    refine ⟨0, ({ c.1 with entries := c.1.entries.erase k }, c.2), ?_,
      by rw [tableView_pair, CacheTables.rows_erase_entry]⟩
    simp [tableEngine, CacheTables.execute]
  insertIndex c v ik m hc := by
    obtain rfl := tableView_eq hc
    refine ⟨1, ({ c.1 with index := c.1.index.insert ik ((c.1.index.getD ik ∅).insert m) }, c.2),
      ?_, by rw [tableView_pair, CacheTables.rows_insert_index]⟩
    simp [tableEngine, CacheTables.execute]
  selectIndex c v ik hc := by
    obtain rfl := tableView_eq hc
    refine ⟨["member"], (c.1.index.getD ik ∅).toList, c, ?_, ?_, fun m => ?_, rfl⟩
    · simp [tableEngine, CacheTables.query, CacheFile.selectIndex, CacheFile.selectEntry]
    · exact (Std.TreeSet.ordered_toList (t := c.1.index.getD ik ∅)).imp fun h =>
        compareOfLessAndEq_eq_lt.mp h
    · rw [Std.TreeSet.mem_toList, Std.TreeSet.mem_iff_contains]
      rfl
  deleteIndex c v ik hc := by
    obtain rfl := tableView_eq hc
    refine ⟨0, ({ c.1 with index := c.1.index.erase ik }, c.2), ?_,
      by rw [tableView_pair, CacheTables.rows_erase_index]⟩
    simp [tableEngine, CacheTables.execute, CacheFile.deleteIndex, CacheFile.deleteEntry]
  purgeEntries c v t hc := by
    obtain rfl := tableView_eq hc
    obtain ⟨hnodup, hmem⟩ := c.1.expired_keys t
    refine ⟨_, ({ c.1 with entries := c.1.entries.filter fun _ row => decide (t < row.2) }, c.2),
      hnodup, hmem, ?_, by rw [tableView_pair, CacheTables.rows_dropExpired]⟩
    simp [tableEngine, CacheTables.execute, Std.TreeMap.length_keys]
  purgeIndex c v hc := by
    obtain rfl := tableView_eq hc
    refine ⟨0, ({ c.1 with index := c.1.index.map fun _ ms => ms.filter (c.1.entries.contains ·) },
      c.2), ?_, by rw [tableView_pair, CacheTables.rows_dropOrphans]⟩
    simp [tableEngine, CacheTables.execute]
  begin c r hc := by
    obtain ⟨hr, hb⟩ := CacheView.mk.inj (tableView_eq hc)
    rcases c with ⟨t, _ | b⟩
    · exact ⟨(t, some t), rfl, by rw [tableView_pair, hr]; rfl⟩
    · cases hb
  commit c r b hc := by
    obtain ⟨hr, hb⟩ := CacheView.mk.inj (tableView_eq hc)
    rcases c with ⟨t, _ | b'⟩
    · cases hb
    · exact ⟨(t, none), rfl, by rw [tableView_pair, hr]; rfl⟩
  reopen c r b hc := by
    obtain ⟨hr, hb⟩ := CacheView.mk.inj (tableView_eq hc)
    subst hr hb
    rcases c with ⟨t, _ | b'⟩ <;> rfl

end RoleSync
