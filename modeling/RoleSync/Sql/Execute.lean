import RoleSync.Sql.Eval
import RoleSync.Sql.Script
/-!
Running statements against a connection.

A connection holds the database, the temporary schema, and while a transaction is open, the
state to return to if it rolls back. A statement is first checked (its names, its functions,
the columns it writes) and then run; a statement that fails leaves the connection as it was.

Storing a row converts each value by its column's affinity and then checks, in order, the NOT
NULL constraints, the CHECK constraints, the rowid, and every uniqueness key. A violation is
resolved as the statement says (OR IGNORE, OR REPLACE), else as the constraint says, else by
failing: IGNORE drops the row, REPLACE deletes the rows in the way (or, for NOT NULL, stores the
column's default). An insertion's ON CONFLICT clause takes a uniqueness conflict on its target
first: DO NOTHING drops the row, DO UPDATE updates the row in the way instead.

A new rowid is one more than the largest in the table, or 1; an AUTOINCREMENT table also never
reuses one it has handed out.
-/

namespace RoleSync.Sql

set_option autoImplicit false

/-- A connection to a database: the database, the temporary schema, while a transaction is
open the two as they were when it began, and the database's schema as the connection last read
it, when another connection has changed it since. -/
structure Connection where
  main : Database
  temp : Schema
  saved : Option (Database × Schema)
  seen : Option Schema

/-- What a statement did: the rows it changed, when it is an insertion, update or deletion, and
the rows it returned. -/
structure Outcome where
  changes : Option Nat
  rows : List (List Value)

/-- The outcome of a statement that changes and returns nothing. -/
def Outcome.none : Outcome := ⟨Option.none, []⟩

namespace Connection

/-- Opens a connection to a database. -/
def onto (db : Database) : Connection := ⟨db, Schema.empty, none, none⟩

/-- Closes a connection: an open transaction rolls back and temporary objects go. -/
def close (c : Connection) : Database :=
  match c.saved with
  | some (db, _) => db
  | none => c.main

/-- The schemas the connection's statements see. -/
def catalog (c : Connection) : Catalog := ⟨c.main, c.temp⟩

/-- The schema of the database, or the temporary one. -/
def schemaOf (c : Connection) (temporary : Bool) : Schema :=
  if temporary then c.temp else c.main.schema

/-- Changes the schema of the database, or the temporary one. -/
def changeSchema (c : Connection) (temporary : Bool) (f : Schema → Schema) : Connection :=
  if temporary then { c with temp := f c.temp }
  else { c with main := { c.main with schema := f c.main.schema } }

/-- The table of a name, with whether it is temporary: temporary objects come first. -/
def findTable (c : Connection) (name : String) : Option (Bool × Table) :=
  match c.temp.table? name with
  | some t => some (true, t)
  | none => (c.main.schema.table? name).map fun t => (false, t)

/-- Stores a changed table back in its schema. -/
def putTable (c : Connection) (temporary : Bool) (t : Table) : Connection :=
  c.changeSchema temporary fun s => s.putTable t

end Connection

/-- The fuel that checking and evaluation get: deeper than any statement nests. -/
def evalFuel : Nat := 4096

/-- A failure while a statement runs. -/
def runError {α : Type} (m : String) : Except Failure α := .error (.run m)

/-- A failure while a statement is prepared, without a place. -/
def prepareError {α : Type} (m : String) : Except Failure α := .error (.prepare m none)

/-- The table a statement writes to: it must be a table, not a view. -/
def writableTable (c : Connection) (name : String) : Except Failure (Bool × Table) :=
  match c.findTable name with
  | some r => .ok r
  | none =>
    if (c.catalog.view? name).isSome then
      prepareError ("cannot modify " ++ name ++ " because it is a view")
    else prepareError ("no such table: " ++ name)

/-! ## Creating tables -/

/-- Whether a declared type makes an INTEGER PRIMARY KEY: the type is exactly INTEGER. -/
def isIntegerType (t : String) : Bool := foldAscii t == "integer"

/-- Builds a table from its definition. -/
def buildTable (name : String) (defs : List ColumnDef)
    (constraints : List (Option String × TableConstraint)) (withoutRowid : Bool) :
    Except Failure Table := do
  -- columns, refusing duplicate names
  let names := defs.map (·.name)
  for (d, i) in defs.zipIdx do
    if (names.take i).any (sameName · d.name) then
      prepareError ("duplicate column name: " ++ d.name)
  let column (d : ColumnDef) : Column :=
    d.constraints.foldl (fun (c : Column) (_, k) =>
      match k with
      | .notNull cf => { c with notNull := some cf }
      | .default e => { c with default := some e }
      | .collate co => { c with collation := co }
      | _ => c)
      ⟨d.name, d.declaredType, Affinity.ofDeclaredType d.declaredType, none, none, .binary⟩
  let columns := defs.map column
  let indexOf (n : String) : Except Failure Nat :=
    match names.findIdx? (sameName · n) with
    | some i => .ok i
    | none => prepareError ("no such column: " ++ n)
  -- primary keys: from a column constraint or a table constraint, at most one
  let columnKeys := (defs.zipIdx).flatMap fun (d, i) =>
    d.constraints.filterMap fun (_, k) =>
      match k with
      | .primaryKey desc cf auto => some (i, desc, cf, auto)
      | _ => none
  let tableKeys ← constraints.filterMapM fun (_, k) =>
    match k with
    | .primaryKey cols cf => do
      let is ← cols.mapM indexOf
      pure (some (is, cf))
    | _ => pure none
  if columnKeys.length + tableKeys.length > 1 then
    prepareError ("table \"" ++ name ++ "\" has more than one primary key")
  let primary : Option (List Nat × Bool × Option Conflict × Bool) :=
    match columnKeys, tableKeys with
    | (i, desc, cf, auto) :: _, _ => some ([i], desc, cf, auto)
    | [], (is, cf) :: _ => some (is, false, cf, false)
    | [], [] => none
  let (rowidColumn, rowidConflict, primaryKeys, autoincrement) ←
    match primary with
    | some ([i], desc, cf, auto) =>
      if !withoutRowid && !desc && isIntegerType ((defs[i]?.map (·.declaredType)).getD "") then
        pure (some i, cf, [], auto)
      else if auto then prepareError "AUTOINCREMENT is only allowed on an INTEGER PRIMARY KEY"
      else pure (none, none, [(⟨[i], cf, true, none⟩ : Key)], false)
    | some (is, _, cf, auto) =>
      if auto then prepareError "AUTOINCREMENT is only allowed on an INTEGER PRIMARY KEY"
      else pure (none, none, [(⟨is, cf, true, none⟩ : Key)], false)
    | none => pure (none, none, [], false)
  if withoutRowid && primary.isNone then prepareError ("PRIMARY KEY missing on table " ++ name)
  -- unique constraints, from columns then from the table
  let columnUniques := (defs.zipIdx).flatMap fun (d, i) =>
    d.constraints.filterMap fun (_, k) =>
      match k with
      | .unique cf => some (⟨[i], cf, false, none⟩ : Key)
      | _ => none
  let tableUniques ← constraints.filterMapM fun (_, k) =>
    match k with
    | .unique cols cf => do
      let is ← cols.mapM indexOf
      pure (some (⟨is, cf, false, none⟩ : Key))
    | _ => pure none
  let checks := ((defs.zipIdx).flatMap fun (d, i) => d.constraints.filterMap fun (label, k) =>
      match k with
      | .check e text => some (⟨label, e, text, some i⟩ : Check)
      | _ => none) ++
    constraints.filterMap fun (label, k) =>
      match k with
      | .check e text => some (⟨label, e, text, none⟩ : Check)
      | _ => none
  -- the key columns of a table without rowids refuse NULL
  let columns := if withoutRowid then
      columns.mapIdx fun i c =>
        if primaryKeys.any (·.columns.contains i) && c.notNull.isNone then { c with notNull := some none }
        else c
    else columns
  return ⟨name, columns, rowidColumn, rowidConflict, primaryKeys ++ columnUniques ++ tableUniques,
    checks, [], autoincrement, false⟩

/-- The standard types a column of a strict table may have. -/
def strictTypes : List String := ["int", "integer", "real", "text", "blob", "any"]

/-- Makes a table strict: every column must have a standard type, and ANY converts nothing. -/
def strictTable (t : Table) : Except Failure Table := do
  for col in t.columns do
    if col.declaredType.isEmpty then
      prepareError ("missing datatype for " ++ t.name ++ "." ++ col.name)
    if !strictTypes.contains (foldAscii col.declaredType) then
      prepareError ("unknown datatype for " ++ t.name ++ "." ++ col.name ++ ": \"" ++
        col.declaredType ++ "\"")
  return { t with
    strict := true
    columns := t.columns.map fun col =>
      if foldAscii col.declaredType == "any" then { col with affinity := .blob } else col }

/-- The name of a value's storage class in the complaints of strict tables. -/
def strictTypeName : Value → String
  | .null => "NULL"
  | .integer _ => "INT"
  | .real _ => "REAL"
  | .text _ => "TEXT"
  | .blob _ => "BLOB"

/-- Whether a strict column of a type holds a value. -/
def strictAccepts (type : String) (v : Value) : Bool :=
  match foldAscii type, v with
  | _, .null => true
  | "any", _ => true
  | "int", .integer _ => true
  | "integer", .integer _ => true
  | "real", .real _ => true
  | "text", .text _ => true
  | "blob", .blob _ => true
  | _, _ => false

/-- Refuses a name that a new table or view may not take in a schema. -/
def checkNewName (s : Schema) (name : String) (ifNotExists : Bool) : Except Failure Bool :=
  if "sqlite_".toList.isPrefixOf (foldAscii name).toList then
    prepareError ("object name reserved for internal use: " ++ name)
  else
    match s.table? name, s.view? name with
    | some _, _ => if ifNotExists then .ok false else prepareError ("table " ++ name ++ " already exists")
    | _, some _ => if ifNotExists then .ok false else prepareError ("view " ++ name ++ " already exists")
    | none, none =>
      if (s.index? name).isSome then prepareError ("there is already an index named " ++ name)
      else .ok true

/-- The declared type that a result column of CREATE TABLE AS gets from its affinity. -/
def Affinity.typeName : Affinity → String
  | .text => "TEXT"
  | .numeric => "NUM"
  | .integer => "INT"
  | .real => "REAL"
  | .blob => ""

/-- Makes names distinct by suffixing repeats with a colon and a count. -/
def distinctNames (names : List String) : List String :=
  names.foldl (fun acc n =>
    if acc.any (sameName · n) then
      let rec pick : Nat → Nat → String
        | 0, k => n ++ ":" ++ toString k
        | fuel + 1, k =>
          let cand := n ++ ":" ++ toString k
          if acc.any (sameName · cand) then pick fuel (k + 1) else cand
      acc ++ [pick (acc.length + 1) 1]
    else acc ++ [n]) []

/-! ## Storing rows -/

/-- What happens to a row being stored. -/
inductive Placement where
  /-- The row is dropped. -/
  | skip
  /-- The row goes in, into the table with the rows in its way removed. -/
  | place (t : Table) (row : Row)
  /-- A uniqueness conflict with a row that an ON CONFLICT clause takes. -/
  | upsert (existing : Row) (clause : Upsert)

/-- How a violated constraint is resolved: as the statement says, unless it says nothing
(ABORT), then as the constraint says. -/
def resolution (stmt : Conflict) (own : Option Conflict) : Conflict :=
  if stmt = .abort then own.getD .abort else stmt

/-- Whether a row holds the same key values as another, under the columns' collations. -/
def keyClash (t : Table) (cols : List Nat) (a b : List Value) : Bool :=
  cols.all fun i =>
    let x := a.getD i .null
    let y := b.getD i .null
    !x.isNull && !y.isNull &&
      Value.compareWith ((t.columns[i]?.map (·.collation)).getD .binary) x y == .eq

/-- Whether an ON CONFLICT target names a key: the same columns, in any order. -/
def targetMatches (t : Table) (target : List String) (cols : List Nat) : Bool :=
  let is := target.filterMap t.columnIndex?
  is.length == target.length && is.length == cols.length && is.all cols.contains &&
    cols.all is.contains

/-- The ON CONFLICT clause that takes a conflict on a key, if any. -/
def upsertFor (t : Table) (upserts : List Upsert) (cols : List Nat) : Option Upsert :=
  upserts.find? fun u =>
    match u.target with
    | some target => targetMatches t target cols
    | none => true

/-- The message of a NOT NULL violation. -/
def notNullFailed (t : Table) (i : Nat) : String :=
  "NOT NULL constraint failed: " ++ t.qualifiedNames [i]

/-- Admits a row into a table, checking its constraints; the row whose place it takes, if any,
is not in its way. -/
def placeRow (env : Env) (t : Table) (stmt : Conflict) (upserts : List Upsert)
    (defaults : List Value) (replacing : Option Int) (row : Row) : Except Failure Placement := do
  -- NOT NULL
  let mut values := row.values
  for (c, i) in t.columns.zipIdx do
    if (values.getD i .null).isNull then
      match c.notNull with
      | some own =>
        match resolution stmt own with
        | .ignore => return .skip
        | .replace =>
          let d := defaults.getD i .null
          if d.isNull then runError (notNullFailed t i)
          else values := values.set i d
        | _ => runError (notNullFailed t i)
      | none => pure ()
  let row : Row := ⟨row.rowid, values⟩
  -- the types of a strict table
  if t.strict then
    for (c, i) in t.columns.zipIdx do
      let v := values.getD i .null
      if !strictAccepts c.declaredType v then
        runError ("cannot store " ++ strictTypeName v ++ " value in " ++
          (foldAscii c.declaredType).toUpper ++ " column " ++ t.name ++ "." ++ c.name)
  -- CHECK
  let scope : Scope := [[t.binding t.name row]]
  for ck in t.checks do
    let v ← eval evalFuel env scope none ck.condition
    if v.truth? == some false then
      match resolution stmt none with
      | .ignore => return .skip
      | _ => runError ("CHECK constraint failed: " ++ ck.name.getD ck.text)
  -- the rowid
  let mut table := t
  let others (tb : Table) : List Row := tb.rows.filter fun r => some r.rowid != replacing
  match (others table).find? (·.rowid == row.rowid) with
  | some existing =>
    let ipk := t.rowidColumn.toList
    match (if ipk.isEmpty then none else upsertFor t upserts ipk) with
    | some u => return .upsert existing u
    | none =>
      match resolution stmt t.rowidConflict with
      | .ignore => return .skip
      | .replace => table := table.removeRow existing.rowid
      | _ =>
        let label := match t.rowidColumn with
          | some i => t.qualifiedNames [i]
          | none => t.name ++ ".rowid"
        runError ("UNIQUE constraint failed: " ++ label)
  | none => pure ()
  -- the uniqueness keys
  for k in t.keys do
    let clashes := (others table).filter fun r => keyClash t k.columns r.values row.values
    match clashes with
    | [] => pure ()
    | existing :: _ =>
      match upsertFor t upserts k.columns with
      | some u => return .upsert existing u
      | none =>
        match resolution stmt k.conflict with
        | .ignore => return .skip
        | .replace => table := clashes.foldl (fun tb r => tb.removeRow r.rowid) table
        | _ => runError ("UNIQUE constraint failed: " ++ t.qualifiedNames k.columns)
  return .place table row

/-- The rowid the next new row gets. -/
def nextRowid (t : Table) (sequence : Int) : Except Failure Int :=
  let top := max ((t.maxRowid?).getD 0) (if t.autoincrement then sequence else 0)
  if top < Double.maxInt then .ok (top + 1) else runError "database or disk is full"

/-- The rowid a stored value stands for: an integer, after the column's affinity. -/
def rowidOf (v : Value) : Except Failure Int :=
  match v.withAffinity .integer with
  | .integer i => .ok i
  | _ => runError "datatype mismatch"

/-- The values of a table's column defaults, NULL where a column has none. -/
def defaultValues (env : Env) (t : Table) : Except Failure (List Value) :=
  t.columns.mapM fun c =>
    match c.default with
    | some e => do return (← eval evalFuel env [] none e).withAffinity c.affinity
    | none => pure .null

/-- The result of writing rows into a table: the table, the number of rows changed, and the
largest rowid handed out. -/
structure Written where
  table : Table
  changes : Nat
  sequence : Int

/-- Applies assignments to a row: each value is evaluated in the scope, converted by its
column's affinity; an assignment to a rowid name gives the new rowid. -/
def assignRow (env : Env) (t : Table) (scope : Scope) (sets : List Assignment) (row : Row) :
    Except Failure Row := do
  let mut values := row.values
  let mut rowid := row.rowid
  for (cols, e) in sets do
    let v ← eval evalFuel env scope none e
    for (c, _) in cols do
      match t.columnIndex? c with
      | some i =>
        let v := v.withAffinity ((t.columns[i]?.map (·.affinity)).getD .blob)
        if t.rowidColumn = some i then
          rowid ← rowidOf v
          values := values.set i (.integer rowid)
        else values := values.set i v
      | none =>
        if isRowidName c then
          rowid ← rowidOf v
          match t.rowidColumn with
          | some i => values := values.set i (.integer rowid)
          | none => pure ()
        else prepareError ("no such column: " ++ c)
  return ⟨rowid, values⟩

/-- Updates one stored row to new values, checking constraints; answers the table, or none
when the update is dropped. -/
def updateRow (env : Env) (t : Table) (stmt : Conflict) (defaults : List Value) (old new : Row) :
    Except Failure (Option Table) := do
  match ← placeRow env t stmt [] defaults (some old.rowid) new with
  | .skip => return none
  | .upsert _ _ => return none
  | .place table row => return some ((table.removeRow old.rowid).putRow row)

/-- Inserts rows of values into a table. -/
def insertRows (env : Env) (t : Table) (stmt : Conflict) (upserts : List Upsert)
    (positions : List (Option Nat)) (sequence : Int) (rows : List (List Value)) :
    Except Failure Written := do
  let defaults ← defaultValues env t
  let mut w : Written := ⟨t, 0, sequence⟩
  for given in rows do
    let table := w.table
    -- the values of every column: given, or the default
    let mut values := defaults
    let mut explicitRowid : Value := .null
    for (pos, v) in positions.zip given do
      match pos with
      | some i => values := values.set i (v.withAffinity ((table.columns[i]?.map (·.affinity)).getD .blob))
      | none => explicitRowid := v
    let rowidValue := match table.rowidColumn with
      | some i => values.getD i .null
      | none => explicitRowid
    let rowid ← if rowidValue.isNull then nextRowid table w.sequence else rowidOf rowidValue
    let stored := match table.rowidColumn with
      | some i => values.set i (.integer rowid)
      | none => values
    let row : Row := ⟨rowid, stored⟩
    match ← placeRow env table stmt upserts defaults none row with
    | .skip => pure ()
    | .place tb r =>
      w := ⟨tb.putRow r, w.changes + 1, max w.sequence r.rowid⟩
    | .upsert existing u =>
      match u.action with
      | .nothing => pure ()
      | .update sets filter =>
        let excluded : Binding :=
          ⟨{ table.frame "excluded" with qualifiedOnly := true }, row.values, .integer row.rowid⟩
        let scope : Scope := [[table.binding table.name existing, excluded]]
        let go ← match filter with
          | some f => do pure ((← eval evalFuel env scope none f).truth? == some true)
          | none => pure true
        if go then
          let new ← assignRow env table scope sets existing
          match ← updateRow env table .abort defaults existing new with
          | some tb => w := ⟨tb, w.changes + 1, max w.sequence new.rowid⟩
          | none => pure ()
  return w

/-! ## Checking statements -/

/-- Renames the references to a column in an expression over one table; subqueries are left
as they are, since constraints and indexes hold none. -/
def renameRefs (old new : String) : Nat → Expr → Expr
  | 0, e => e
  | n + 1, e =>
    let r := renameRefs old new n
    match e with
    | .column t name off dq => if sameName name old then .column t new off dq else e
    | .unary op a => .unary op (r a)
    | .binary op a b => .binary op (r a) (r b)
    | .isNull a neg => .isNull (r a) neg
    | .between a l h neg => .between (r a) (r l) (r h) neg
    | .inList a items neg => .inList (r a) (items.map r) neg
    | .inQuery a q neg => .inQuery (r a) q neg
    | .like a p esc g neg => .like (r a) (r p) (esc.map r) g neg
    | .cases o arms other => .cases (o.map r) (arms.map fun (x, y) => (r x, r y)) (other.map r)
    | .cast a ty => .cast (r a) ty
    | .collate a co => .collate (r a) co
    | .call name args star d off => .call name (args.map r) star d off
    | other => other

/-- The positions an insertion's values go to: a column each, or the rowid. -/
def insertPositions (t : Table) (columns : Option (List (String × Nat))) :
    Except Failure (List (Option Nat)) :=
  match columns with
  | none => .ok ((List.range t.columns.length).map some)
  | some cs => cs.mapM fun (c, _) =>
    match t.columnIndex? c with
    | some i => .ok (some i)
    | none =>
      if isRowidName c then .ok none
      else prepareError ("table " ++ t.name ++ " has no column named " ++ c)

/-- Checks the assignments of a SET clause against a table. -/
def checkAssignments (env : Env) (t : Table) (scope : Scope) (sets : List Assignment) :
    Except Failure Unit :=
  sets.forM fun (cols, e) => do
    checkExpr evalFuel env scope .plain e
    cols.forM fun (c, off) =>
      if (t.columnIndex? c).isSome || isRowidName c then pure ()
      else .error (.prepare ("no such column: " ++ c) (some off))

/-- Checks an insertion and answers its target, the positions of its values and its rows'
width. -/
def checkInsert (c : Connection) (env : Env) (table : String)
    (columns : Option (List (String × Nat))) (source : InsertSource) (upserts : List Upsert) :
    Except Failure (Bool × Table × List (Option Nat)) := do
  let (temporary, t) ← writableTable c table
  let positions ← insertPositions t columns
  let width ← match source with
    | .values rows => do
      rows.forM fun r => r.forM (checkExpr evalFuel env [] .plain)
      match rows with
      | first :: more =>
        if more.any (fun r => r.length != first.length) then
          prepareError "all VALUES must have the same number of terms"
        else pure (some first.length)
      | [] => pure (some 0)
    | .query q => do pure (some (← queryShape evalFuel env [] q).length)
    | .defaults => pure none
  match width, columns with
  | some w, none =>
    if w != t.columns.length then
      prepareError ("table " ++ t.name ++ " has " ++ toString t.columns.length ++
        " columns but " ++ toString w ++ " values were supplied")
  | some w, some cs =>
    if w != cs.length then
      prepareError (toString w ++ " values for " ++ toString cs.length ++ " columns")
  | none, _ => pure ()
  for u in upserts do
    match u.target with
    | some target =>
      let keys := (t.rowidColumn.map fun i => [i]).toList ++ t.keys.map (·.columns)
      if !keys.any (targetMatches t target) then
        prepareError "ON CONFLICT clause does not match any PRIMARY KEY or UNIQUE constraint"
    | none => pure ()
    match u.action with
    | .update sets filter =>
      let scope : Scope :=
        [[(t.frame t.name).nullBinding, ({ t.frame "excluded" with qualifiedOnly := true }).nullBinding]]
      checkAssignments env t scope sets
      filter.forM (checkExpr evalFuel env scope .plain)
    | .nothing => pure ()
  return (temporary, t, positions)

/-! ## Running statements -/

/-- Whether a PRAGMA answers with rows: reading most settings does, and setting a few does. -/
def pragmaAnswers (c : Connection) (name : String) (value : Option String) : Bool :=
  match value with
  | none =>
    !(["case_sensitive_like", "shrink_memory", "optimize", "incremental_vacuum",
      "wal_checkpoint_passive"].contains name) &&
    ["application_id", "auto_vacuum", "automatic_index", "busy_timeout", "cache_size",
      "cache_spill", "cell_size_check", "checkpoint_fullfsync", "collation_list",
      "compile_options", "data_version", "database_list", "defer_foreign_keys", "encoding",
      "foreign_key_check", "foreign_keys", "freelist_count", "fullfsync", "function_list",
      "hard_heap_limit", "ignore_check_constraints", "integrity_check", "journal_mode",
      "journal_size_limit", "legacy_alter_table", "locking_mode", "max_page_count",
      "mmap_size", "module_list", "page_count", "page_size", "pragma_list", "query_only",
      "quick_check", "read_uncommitted", "recursive_triggers", "reverse_unordered_selects",
      "schema_version", "secure_delete", "soft_heap_limit", "synchronous", "table_list",
      "temp_store", "threads", "trusted_schema", "user_version", "wal_autocheckpoint",
      "wal_checkpoint", "analysis_limit"].contains name
  | some v =>
    ["journal_mode", "locking_mode", "busy_timeout", "max_page_count", "wal_checkpoint",
      "soft_heap_limit", "hard_heap_limit", "threads", "mmap_size", "analysis_limit",
      "journal_size_limit", "wal_autocheckpoint", "secure_delete", "integrity_check",
      "quick_check", "foreign_key_check"].contains name ||
    (["table_info", "table_xinfo", "index_list", "foreign_key_list"].contains name &&
      (c.catalog.table? v).isSome) ||
    (["index_info", "index_xinfo"].contains name &&
      ((c.main.schema.index? v).isSome || (c.temp.index? v).isSome))

/-- Reads a PRAGMA value as a 32-bit integer, as the user version takes it. -/
def pragmaInteger (v : String) : Int :=
  let i := castIntegerText v
  let m := i % 4294967296
  if m < 2147483648 then m else m - 4294967296

/-- Performs a checked statement. -/
def perform (c : Connection) (params : List Value) (st : Statement) :
    Except Failure (Outcome × Connection) := do
  let env : Env := { catalog := c.catalog, params := params }
  match st with
  | .createTable name temporary ine defs constraints withoutRowid strict =>
    let s := c.schemaOf temporary
    if ← checkNewName s name ine then
      let t ← buildTable name defs constraints withoutRowid
      let t ← if strict then strictTable t else pure t
      return (.none, c.changeSchema temporary fun s => { s with tables := s.tables ++ [t] })
    else return (.none, c)
  | .createTableAs name temporary ine q =>
    let fields ← queryShape evalFuel env [] q
    let s := c.schemaOf temporary
    if ← checkNewName s name ine then
      let (_, rows) ← runQuery evalFuel env [] q
      let names := distinctNames (fields.map (·.name))
      let columns := (fields.zip names).map fun (f, n) =>
        (⟨n, f.affinity.typeName, Affinity.ofDeclaredType f.affinity.typeName, none, none, .binary⟩ :
          Column)
      let t : Table := ⟨name, columns, none, none, [], [], [], false, false⟩
      let stored := (rows.zipIdx).map fun (r, i) =>
        (⟨i + 1, (r.zip columns).map fun (v, col) => v.withAffinity col.affinity⟩ : Row)
      return (.none, c.changeSchema temporary fun s =>
        { s with tables := s.tables ++ [{ t with rows := stored }] })
    else return (.none, c)
  | .createIndex name table cols unique ine filter =>
    match c.findTable table with
    | none =>
      if (c.catalog.view? table).isSome then prepareError "views may not be indexed"
      else prepareError ("no such table: main." ++ table)
    | some (temporary, t) =>
      let s := c.schemaOf temporary
      if (s.table? name).isSome || (s.view? name).isSome then
        prepareError ("there is already a table named " ++ name)
      if (s.index? name).isSome then
        if ine then return (.none, c) else prepareError ("index " ++ name ++ " already exists")
      let scope : Scope := [[(t.frame t.name).nullBinding]]
      cols.forM (checkExpr evalFuel env scope .plain)
      filter.forM (checkExpr evalFuel env scope .plain)
      let plain := cols.filterMap fun e =>
        match e with
        | .column _ n _ _ => t.columnIndex? n
        | .collate (.column _ n _ _) _ => t.columnIndex? n
        | _ => none
      let index : Index := ⟨name, t.name, cols, unique, false⟩
      let c' := c.changeSchema temporary fun s => { s with indexes := s.indexes ++ [index] }
      if unique && plain.length == cols.length && filter.isNone then
        let clash := t.rows.any fun r => t.rows.any fun r2 =>
          r.rowid != r2.rowid && keyClash t plain r.values r2.values
        if clash then runError ("UNIQUE constraint failed: " ++ t.qualifiedNames plain)
        let t' := { t with keys := t.keys ++ [⟨plain, none, false, some name⟩] }
        return (.none, c'.putTable temporary t')
      else return (.none, c')
  | .createView name temporary ine columns q =>
    let s := c.schemaOf temporary
    if ← checkNewName s name ine then
      return (.none, c.changeSchema temporary fun s => { s with views := s.views ++ [⟨name, columns, q⟩] })
    else return (.none, c)
  | .drop kind name ifExists =>
    match kind with
    | .table =>
      match c.findTable name with
      | some (temporary, t) =>
        return (.none, c.changeSchema temporary fun s =>
          { s with
            tables := s.tables.filter fun u => !sameName u.name t.name
            indexes := s.indexes.filter fun i => !sameName i.table t.name
            sequences := s.sequences.filter fun (n, _) => !sameName n t.name })
      | none =>
        if (c.catalog.view? name).isSome then prepareError ("use DROP VIEW to delete view " ++ name)
        else if ifExists then return (.none, c)
        else prepareError ("no such table: " ++ name)
    | .view =>
      let temporary := (c.temp.view? name).isSome
      if (c.catalog.view? name).isSome then
        return (.none, c.changeSchema temporary fun s =>
          { s with views := s.views.filter fun v => !sameName v.name name })
      else if (c.findTable name).isSome then prepareError ("use DROP TABLE to delete table " ++ name)
      else if ifExists then return (.none, c)
      else prepareError ("no such view: " ++ name)
    | .index =>
      let temporary := (c.temp.index? name).isSome
      match (c.schemaOf temporary).index? name with
      | some i =>
        let c' := c.changeSchema temporary fun s =>
          { s with indexes := s.indexes.filter fun j => !sameName j.name name }
        match c'.findTable i.table with
        | some (tmp, t) =>
          return (.none, c'.putTable tmp
            { t with keys := t.keys.filter fun k => !((k.index.map (sameName · name)).getD false) })
        | none => return (.none, c')
      | none => if ifExists then return (.none, c) else prepareError ("no such index: " ++ name)
    | .trigger => if ifExists then return (.none, c) else prepareError ("no such trigger: " ++ name)
  | .insert conflict table columns source upserts returning =>
    let (temporary, t, positions) ← checkInsert c env table columns source upserts
    let rows ← match source with
      | .values rows => rows.mapM fun r => r.mapM (eval evalFuel env [] none)
      | .query q => do pure (← runQuery evalFuel env [] q).2
      | .defaults => pure [[]]
    let positions := match source with
      | .defaults => []
      | _ => positions
    let s := c.schemaOf temporary
    let sequence := ((s.sequences.find? fun (n, _) => sameName n t.name).map (·.2)).getD 0
    let w ← insertRows env t conflict upserts positions sequence rows
    let c' := c.putTable temporary w.table
    let c' := if t.autoincrement then
        c'.changeSchema temporary fun s =>
          { s with sequences := (s.sequences.filter fun (n, _) => !sameName n t.name) ++ [(t.name, w.sequence)] }
      else c'
    return (⟨some w.changes, if returning then List.replicate w.changes [] else []⟩, c')
  | .update conflict table sets filter returning =>
    let (temporary, t) ← writableTable c table
    let scope0 : Scope := [[(t.frame t.name).nullBinding]]
    checkAssignments env t scope0 sets
    filter.forM (checkExpr evalFuel env scope0 .plain)
    let targets ← t.rows.filterM fun r =>
      match filter with
      | some f => do pure ((← eval evalFuel env [[t.binding t.name r]] none f).truth? == some true)
      | none => pure true
    let defaults ← defaultValues env t
    let mut table := t
    let mut changes := 0
    for old in targets do
      match table.row? old.rowid with
      | none => pure ()
      | some current =>
        let new ← assignRow env table [[table.binding table.name current]] sets current
        match ← updateRow env table conflict defaults current new with
        | some tb =>
          table := tb
          changes := changes + 1
        | none => pure ()
    return (⟨some changes, if returning then List.replicate changes [] else []⟩,
      c.putTable temporary table)
  | .delete table filter returning =>
    let (temporary, t) ← writableTable c table
    let scope0 : Scope := [[(t.frame t.name).nullBinding]]
    filter.forM (checkExpr evalFuel env scope0 .plain)
    let doomed ← t.rows.filterM fun r =>
      match filter with
      | some f => do pure ((← eval evalFuel env [[t.binding t.name r]] none f).truth? == some true)
      | none => pure true
    let kept := t.rows.filter fun r => !doomed.any (·.rowid == r.rowid)
    return (⟨some doomed.length, if returning then doomed.map fun _ => [] else []⟩,
      c.putTable temporary { t with rows := kept })
  | .query q =>
    let _ ← queryShape evalFuel env [] q
    let (_, rows) ← runQuery evalFuel env [] q
    return (⟨none, rows⟩, c)
  | .begin =>
    match c.saved with
    | some _ => runError "cannot start a transaction within a transaction"
    | none => return (.none, { c with saved := some (c.main, c.temp) })
  | .commit =>
    match c.saved with
    | some _ => return (.none, { c with saved := none })
    | none => runError "cannot commit - no transaction is active"
  | .rollback =>
    match c.saved with
    | some (db, tmp) => return (.none, { c with main := db, temp := tmp, saved := none })
    | none => runError "cannot rollback - no transaction is active"
  | .pragma name value =>
    let rows := if pragmaAnswers c name value then [[Value.integer 0]] else []
    match name, value with
    | "user_version", some v =>
      return (.none, { c with main := { c.main with userVersion := pragmaInteger v } })
    | "user_version", none => return (⟨none, [[.integer c.main.userVersion]]⟩, c)
    | _, _ => return (⟨none, rows⟩, c)
  | .maintenance => return (.none, c)
  | .renameTable table newName =>
    match c.findTable table with
    | none => prepareError ("no such table: " ++ table)
    | some (temporary, t) =>
      let s := c.schemaOf temporary
      if s.holds newName then
        prepareError ("there is already another table or index with this name: " ++ newName)
      let c' := c.changeSchema temporary fun s =>
        { s with
          tables := s.tables.map fun u => if sameName u.name t.name then { u with name := newName } else u
          indexes := s.indexes.map fun i => if sameName i.table t.name then { i with table := newName } else i
          sequences := s.sequences.map fun (n, v) => if sameName n t.name then (newName, v) else (n, v) }
      return (.none, c')
  | .addColumn table d =>
    let (temporary, t) ← writableTable c table
    if (t.columnIndex? d.name).isSome then prepareError ("duplicate column name: " ++ d.name)
    if d.constraints.any (fun (_, k) => match k with
        | .primaryKey .. => true
        | _ => false) then prepareError "Cannot add a PRIMARY KEY column"
    if d.constraints.any (fun (_, k) => match k with
        | .unique _ => true
        | _ => false) then prepareError "Cannot add a UNIQUE column"
    let built ← buildTable t.name [d] [] false
    match built.columns with
    | col :: _ =>
      let dv ← match col.default with
        | some e => do pure ((← eval evalFuel env [] none e).withAffinity col.affinity)
        | none => pure .null
      if col.notNull.isSome && dv.isNull && !t.rows.isEmpty then
        runError "Cannot add a NOT NULL column with default value NULL"
      let t' := { t with
        columns := t.columns ++ [col]
        checks := t.checks ++ built.checks
        rows := t.rows.map fun r => { r with values := r.values ++ [dv] } }
      return (.none, c.putTable temporary t')
    | [] => return (.none, c)
  | .renameColumn table old new offset =>
    let (temporary, t) ← writableTable c table
    match t.columnIndex? old with
    | none => .error (.prepare ("no such column: \"" ++ old ++ "\"") (some offset))
    | some i =>
      if (t.columnIndex? new).isSome then
        prepareError ("error in table " ++ t.name ++ " after rename: duplicate column name: " ++ new)
      let rename := renameRefs old new evalFuel
      let t' := { t with
        columns := t.columns.mapIdx fun j col => if j = i then { col with name := new } else col
        checks := t.checks.map fun ck => { ck with condition := rename ck.condition } }
      let c' := c.changeSchema temporary fun s =>
        { s with indexes := s.indexes.map fun ix =>
            if sameName ix.table t.name then { ix with columns := ix.columns.map rename } else ix }
      return (.none, c'.putTable temporary t')
  | .dropColumn table column offset =>
    let (temporary, t) ← writableTable c table
    match t.columnIndex? column with
    | none => .error (.prepare ("no such column: \"" ++ column ++ "\"") (some offset))
    | some i =>
      let name := ((t.columns[i]?).map (·.name)).getD column
      if t.rowidColumn = some i || t.keys.any (fun k => k.primary && k.columns.contains i) then
        prepareError ("cannot drop PRIMARY KEY column: \"" ++ name ++ "\"")
      if t.keys.any (fun k => k.index.isNone && k.columns == [i]) then
        prepareError ("cannot drop UNIQUE column: \"" ++ name ++ "\"")
      if t.columns.length ≤ 1 then
        prepareError ("cannot drop column \"" ++ name ++ "\": no other columns exist")
      let shift (j : Nat) : Nat := if j > i then j - 1 else j
      let t' := { t with
        columns := t.columns.eraseIdx i
        rowidColumn := t.rowidColumn.map shift
        keys := t.keys.map fun k => { k with columns := k.columns.map shift }
        checks := (t.checks.filter fun ck => ck.owner != some i).map fun ck =>
          { ck with owner := ck.owner.map shift }
        rows := t.rows.map fun r => { r with values := r.values.eraseIdx i } }
      let c' := c.putTable temporary t'
      -- every object of the schema must still stand without the column
      let after (kind label : String) (r : Except Failure Unit) : Except Failure Unit :=
        match r with
        | .ok () => .ok ()
        | .error f => prepareError ("error in " ++ kind ++ " " ++ label ++ " after drop column: " ++ f.message)
      let envAfter : Env := { catalog := c'.catalog, params := [] }
      let scope : Scope := [[(t'.frame t'.name).nullBinding]]
      for ck in t'.checks do
        after "table" t.name (checkExpr evalFuel envAfter scope .plain ck.condition)
      if t.keys.any (fun k => k.index.isNone && k.columns.length > 1 && k.columns.contains i) then
        prepareError ("error in table " ++ t.name ++ " after drop column: no such column: " ++ name)
      for ix in (c'.schemaOf temporary).indexes do
        if sameName ix.table t.name then
          after "index" ix.name (ix.columns.forM (checkExpr evalFuel envAfter scope .plain))
      for v in (c'.schemaOf temporary).views do
        after "view" v.name (discard (queryShape evalFuel envAfter [] v.query))
      return (.none, c')

/-- Whether a statement changes the schema. -/
def Statement.changesSchema : Statement → Bool
  | .createTable .. | .createTableAs .. | .createIndex .. | .createView .. | .drop ..
  | .renameTable .. | .addColumn .. | .renameColumn .. | .dropColumn .. | .maintenance => true
  | _ => false

/-- Whether running a statement reads the schema: all but those that begin and end
transactions. -/
def Statement.readsSchema : Statement → Bool
  | .begin | .commit | .rollback => false
  | _ => true

/-- Runs a checked statement; a change of the schema is counted. -/
def runStatement (c : Connection) (params : List Value) (st : Statement) :
    Except Failure (Outcome × Connection) := do
  let (o, c') ← perform c params st
  if st.changesSchema then
    return (o, { c' with main := { c'.main with cookie := c'.main.cookie + 1 } })
  else return (o, c')

/-- Checks a statement before it runs, as preparing it does: the names it reads and the
columns it writes must exist. -/
def checkStatement (c : Connection) (st : Statement) : Except Failure Unit := do
  let env : Env := { catalog := c.catalog, params := [] }
  match st with
  | .insert _ table columns source upserts _ =>
    discard (checkInsert c env table columns source upserts)
  | .update _ table sets filter _ =>
    let (_, t) ← writableTable c table
    let scope0 : Scope := [[(t.frame t.name).nullBinding]]
    checkAssignments env t scope0 sets
    filter.forM (checkExpr evalFuel env scope0 .plain)
  | .delete table filter _ =>
    let (_, t) ← writableTable c table
    filter.forM (checkExpr evalFuel env [[(t.frame t.name).nullBinding]] .plain)
  | .query q => discard (queryShape evalFuel env [] q)
  | .createTableAs _ _ _ q => discard (queryShape evalFuel env [] q)
  | _ => pure ()

end RoleSync.Sql
