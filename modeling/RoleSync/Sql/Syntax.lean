import RoleSync.Sql.Value
/-!
The syntax of SQL statements: expressions, queries, and the statements that define, change and
read tables.

An expression is built from literals, column references, parameters, operators, function calls
and subqueries. A column reference keeps the byte offset of its name, so that an unknown name
can be reported where it stands, and whether it was written in double quotes, in which case it
may stand for a string instead. A query is a selection, a list of rows, or a compound of two,
ordered and limited.
-/

namespace RoleSync.Sql

set_option autoImplicit false

/-- How a statement resolves a violated constraint. -/
inductive Conflict where
  | abort
  | fail
  | ignore
  | replace
  | rollback
  deriving DecidableEq, Repr

/-- A prefix operator. -/
inductive UnaryOp where
  | negate
  | plus
  | bitNot
  | not
  deriving DecidableEq, Repr

/-- An infix operator. -/
inductive BinaryOp where
  | or
  | and
  | eq
  | ne
  | lt
  | le
  | gt
  | ge
  | is
  | isNot
  | concat
  | add
  | sub
  | mul
  | div
  | rem
  | bitAnd
  | bitOr
  | shiftLeft
  | shiftRight
  deriving DecidableEq, Repr

/-- How two queries combine. -/
inductive CompoundOp where
  | union
  | unionAll
  | intersect
  | except
  deriving DecidableEq, Repr

/-- How two sources join. -/
inductive JoinKind where
  | inner
  | left
  deriving DecidableEq, Repr

mutual

/-- An expression. -/
inductive Expr where
  | literal (v : Value)
  /-- A column, optionally qualified by a table, with the byte offset of its name and whether it
  was written in double quotes. -/
  | column (table : Option String) (name : String) (offset : Nat) (doubleQuoted : Bool)
  /-- The parameter at a position, from 1. -/
  | parameter (index : Nat)
  | unary (op : UnaryOp) (e : Expr)
  | binary (op : BinaryOp) (a b : Expr)
  | isNull (e : Expr) (negated : Bool)
  | between (e low high : Expr) (negated : Bool)
  | inList (e : Expr) (items : List Expr) (negated : Bool)
  | inQuery (e : Expr) (q : Query) (negated : Bool)
  /-- LIKE, or GLOB when the flag is set. -/
  | like (e pattern : Expr) (escape : Option Expr) (glob negated : Bool)
  | cases (operand : Option Expr) (arms : List (Expr × Expr)) (otherwise : Option Expr)
  | cast (e : Expr) (type : String)
  | collate (e : Expr) (c : Collation)
  /-- A function call, with the byte offset of its name; `f(*)` has the star set. -/
  | call (name : String) (args : List Expr) (star distinct : Bool) (offset : Nat)
  | scalar (q : Query)
  | exists (q : Query)

/-- A query: a body, then its order, limit and offset. -/
inductive Query where
  | mk (body : QueryBody) (orderBy : List (Expr × Bool)) (limit offset : Option Expr)

/-- The body of a query. -/
inductive QueryBody where
  /-- A selection: result columns from a source, filtered, grouped. -/
  | select (distinct : Bool) (columns : List ResultColumn) (source : Option Source)
      (filter : Option Expr) (groupBy : List Expr) (having : Option Expr)
  /-- Literal rows. -/
  | values (rows : List (List Expr))
  | compound (op : CompoundOp) (left right : QueryBody)

/-- A result column of a selection. -/
inductive ResultColumn where
  /-- Every column of every source. -/
  | all
  /-- Every column of one source. -/
  | allOf (table : String)
  /-- An expression, with its alias if one was given and the text it was written as. -/
  | expr (e : Expr) (given : Option String) (text : String)

/-- Where a selection reads rows from. -/
inductive Source where
  /-- A table or view, with an alias and the byte offset of its name. -/
  | table (name : String) (given : Option String) (offset : Nat)
  | query (q : Query) (given : Option String)
  | join (left : Source) (kind : JoinKind) (right : Source) (on : Option Expr)

end

/-- A constraint on one column. -/
inductive ColumnConstraint where
  | primaryKey (descending : Bool) (conflict : Option Conflict) (autoincrement : Bool)
  | notNull (conflict : Option Conflict)
  | unique (conflict : Option Conflict)
  /-- A check, with the text of its expression. -/
  | check (e : Expr) (text : String)
  | default (e : Expr)
  | collate (c : Collation)
  | references
  | generated (e : Expr) (stored : Bool)

/-- A column of a table definition. -/
structure ColumnDef where
  name : String
  declaredType : String
  /-- The constraints, each with its name if one was given. -/
  constraints : List (Option String × ColumnConstraint)

/-- A constraint on a table. -/
inductive TableConstraint where
  | primaryKey (columns : List String) (conflict : Option Conflict)
  | unique (columns : List String) (conflict : Option Conflict)
  | check (e : Expr) (text : String)
  | foreignKey

/-- What an insertion takes its rows from. -/
inductive InsertSource where
  | values (rows : List (List Expr))
  | query (q : Query)
  | defaults

/-- An assignment of a SET clause: the columns and the value. -/
abbrev Assignment := List (String × Nat) × Expr

/-- What an upsert does with a conflicting row. -/
inductive UpsertAction where
  | nothing
  | update (assignments : List Assignment) (filter : Option Expr)

/-- An ON CONFLICT clause of an insertion: the columns of the constraint it handles, if named,
and what to do. -/
structure Upsert where
  target : Option (List String)
  action : UpsertAction

/-- The kinds of schema objects. -/
inductive ObjectKind where
  | table
  | view
  | index
  | trigger
  deriving DecidableEq, Repr

/-- A statement. -/
inductive Statement where
  | createTable (name : String) (temporary ifNotExists : Bool) (columns : List ColumnDef)
      (constraints : List (Option String × TableConstraint)) (withoutRowid strict : Bool)
  | createTableAs (name : String) (temporary ifNotExists : Bool) (q : Query)
  /-- An index on columns or expressions of a table, with the byte offset of each column. -/
  | createIndex (name table : String) (columns : List Expr) (unique ifNotExists : Bool)
      (filter : Option Expr)
  | createView (name : String) (temporary ifNotExists : Bool) (columns : List String) (q : Query)
  | drop (kind : ObjectKind) (name : String) (ifExists : Bool)
  | insert (conflict : Conflict) (table : String) (columns : Option (List (String × Nat)))
      (source : InsertSource) (upserts : List Upsert) (returning : Bool)
  | update (conflict : Conflict) (table : String) (assignments : List Assignment)
      (filter : Option Expr) (returning : Bool)
  | delete (table : String) (filter : Option Expr) (returning : Bool)
  | query (q : Query)
  | begin
  | commit
  | rollback
  | pragma (name : String) (value : Option String)
  /-- A statement with no effect on the data: VACUUM, ANALYZE, REINDEX, ATTACH, DETACH. -/
  | maintenance
  | renameTable (table newName : String)
  | addColumn (table : String) (column : ColumnDef)
  /-- A column's new name, with the byte offset of its old name. -/
  | renameColumn (table old new : String) (offset : Nat)
  /-- A column to drop, with the byte offset of its name. -/
  | dropColumn (table column : String) (offset : Nat)

/-- Why a statement failed: refused while it was prepared, with the byte offset of the token at
fault when one is known, or failed while it ran. -/
inductive Failure where
  | prepare (message : String) (offset : Option Nat)
  | run (message : String)

/-- The message of a failure. -/
def Failure.message : Failure → String
  | .prepare m _ => m
  | .run m => m

end RoleSync.Sql
