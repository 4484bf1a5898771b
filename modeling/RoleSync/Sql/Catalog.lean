import RoleSync.Sql.Syntax
/-!
The schema and the stored rows of a database.

A table is a list of columns, the constraints on them, and its rows in ascending rowid order.
When a column is declared `INTEGER PRIMARY KEY` it stands for the rowid itself, and its value in
every row is the rowid. Every other primary key and every unique constraint or unique index is a
`Key`: a list of columns whose values no two rows share, where a row with a NULL in one of them
shares nothing. A database holds tables, views and indexes, with its user version; a connection
adds a second schema for temporary objects, which names reach first.

Names of tables, views, indexes and columns match without regard to ASCII case.
-/

namespace RoleSync.Sql

set_option autoImplicit false

/-- Whether two names match, ignoring ASCII case. -/
def sameName (a b : String) : Bool := foldAscii a == foldAscii b

/-- A column of a table. -/
structure Column where
  name : String
  declaredType : String
  affinity : Affinity
  /-- Set when the column refuses NULL, with the resolution its constraint names. -/
  notNull : Option (Option Conflict)
  default : Option Expr
  collation : Collation

/-- A uniqueness constraint: the columns whose values no two rows may share, unless one of them
is NULL. -/
structure Key where
  columns : List Nat
  conflict : Option Conflict
  primary : Bool
  /-- The index that holds it, when it was made by CREATE UNIQUE INDEX. -/
  index : Option String

/-- A CHECK constraint, with its name if it has one, the text of its condition, and the column
it was declared with, if it was declared with one. -/
structure Check where
  name : Option String
  condition : Expr
  text : String
  owner : Option Nat

/-- A stored row: its rowid and its values in column order. -/
structure Row where
  rowid : Int
  values : List Value

/-- A table: its columns and constraints, and its rows by ascending rowid. -/
structure Table where
  name : String
  columns : List Column
  /-- The column that stands for the rowid, declared INTEGER PRIMARY KEY. -/
  rowidColumn : Option Nat
  /-- The resolution that the INTEGER PRIMARY KEY constraint names. -/
  rowidConflict : Option Conflict
  keys : List Key
  checks : List Check
  rows : List Row
  autoincrement : Bool
  /-- Whether the table is strict: every column has one of the standard types, and a value of
  another storage class is refused instead of stored. -/
  strict : Bool

/-- An index, on columns or expressions of a table. -/
structure Index where
  name : String
  table : String
  columns : List Expr
  unique : Bool
  /-- Whether it was made for a constraint of its table, and goes with it. -/
  automatic : Bool

/-- A view: a named query, with the names of its columns when they were given. -/
structure View where
  name : String
  columns : List String
  query : Query

/-- The objects of one schema. -/
structure Schema where
  tables : List Table
  views : List View
  indexes : List Index
  /-- The largest rowid handed out in each AUTOINCREMENT table. -/
  sequences : List (String × Int)

/-- The schema with nothing in it. -/
def Schema.empty : Schema := ⟨[], [], [], []⟩

/-- A database: its schema, its user version, and how many times its schema has changed, which
tells a connection that read the schema earlier to read it again. -/
structure Database where
  schema : Schema
  userVersion : Int
  cookie : Nat

/-- The database with nothing in it. -/
def Database.empty : Database := ⟨Schema.empty, 0, 0⟩

namespace Schema

/-- The table of a name. -/
def table? (s : Schema) (name : String) : Option Table :=
  s.tables.find? fun t => sameName t.name name

/-- The view of a name. -/
def view? (s : Schema) (name : String) : Option View :=
  s.views.find? fun v => sameName v.name name

/-- The index of a name. -/
def index? (s : Schema) (name : String) : Option Index :=
  s.indexes.find? fun i => sameName i.name name

/-- Replaces the table of a name. -/
def putTable (s : Schema) (t : Table) : Schema :=
  { s with tables := s.tables.map fun u => if sameName u.name t.name then t else u }

/-- Whether any table, view or index has a name. -/
def holds (s : Schema) (name : String) : Bool :=
  (s.table? name).isSome || (s.view? name).isSome || (s.index? name).isSome

end Schema

namespace Table

/-- The position of a column of a name. -/
def columnIndex? (t : Table) (name : String) : Option Nat :=
  t.columns.findIdx? fun c => sameName c.name name

/-- The row with a rowid. -/
def row? (t : Table) (rowid : Int) : Option Row :=
  t.rows.find? fun r => r.rowid = rowid

/-- The largest rowid in use. -/
def maxRowid? (t : Table) : Option Int :=
  t.rows.foldl (fun m r => some (match m with
    | some x => max x r.rowid
    | none => r.rowid)) none

/-- Puts a row in its place by rowid, replacing a row with the same rowid. -/
def insertRow (rows : List Row) (r : Row) : List Row :=
  match rows with
  | [] => [r]
  | x :: more =>
    if r.rowid < x.rowid then r :: x :: more
    else if r.rowid = x.rowid then r :: more
    else x :: insertRow more r

/-- Removes the row with a rowid. -/
def removeRow (t : Table) (rowid : Int) : Table :=
  { t with rows := t.rows.filter fun r => r.rowid != rowid }

/-- Stores a row. -/
def putRow (t : Table) (r : Row) : Table := { t with rows := insertRow t.rows r }

/-- The names of columns, for messages: the table's name, a point, and the column's. -/
def qualifiedNames (t : Table) (cols : List Nat) : String :=
  ", ".intercalate (cols.map fun i => t.name ++ "." ++ ((t.columns[i]?.map (·.name)).getD ""))

end Table

end RoleSync.Sql
