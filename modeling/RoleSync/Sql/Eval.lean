import RoleSync.Sql.Catalog
import RoleSync.Sql.Function
/-!
Names, expressions and queries: how a statement sees the rows of its tables.

A query reads rows from its sources; each source is a `Frame` (a name and its fields), and a
row of it is a `Binding` of values to those fields. Names resolve through a `Scope`, the current
row of every source at each level of nesting, the innermost level first. A name found in two
sources of one level is ambiguous; a name found nowhere is an error, unless it was written in
double quotes, when it stands for the string of its text.

Before a statement runs it is checked: every name must resolve, every function must exist and
take its arguments, and aggregates may stand only where a query groups rows. The check visits
every part of an expression, also those that evaluation would skip, so that a statement is
refused the same way whatever rows its tables hold.

Evaluation follows SQL's three-valued logic. Comparisons convert operands by the affinities of
their expressions and compare texts under the collation that the operands name. An aggregate
query folds each group of rows; without GROUP BY, all rows form one group, even when there are
none. Results are ordered by their ORDER BY terms, stably, NULL first; a result without an order
comes in the order its rows were read.
-/

namespace RoleSync.Sql

set_option autoImplicit false

/-- A column as a query sees it: its name, affinity and collation. -/
structure Field where
  name : String
  affinity : Affinity
  collation : Collation

/-- A source of rows as names resolve against it: the name that qualifies its columns, its
fields, whether its rows have rowids, and whether only a qualified name reaches it (as the
proposed row of an upsert is reached, through its name "excluded"). -/
structure Frame where
  label : String
  fields : List Field
  hasRowid : Bool
  qualifiedOnly : Bool

/-- One row of a frame: a value for each field, and the rowid, or NULL. -/
structure Binding where
  frame : Frame
  values : List Value
  rowid : Value

/-- The rows an expression sees: one binding per source at each level, innermost level first. -/
abbrev Scope := List (List Binding)

/-- The rows of a group, each as the scope it is evaluated in. -/
abbrev Group := List Scope

/-- The schemas a statement sees: the database's and the connection's temporary one, which
names reach first. -/
structure Catalog where
  main : Database
  temp : Schema

/-- The table of a name. -/
def Catalog.table? (c : Catalog) (name : String) : Option Table :=
  match c.temp.table? name with
  | some t => some t
  | none => c.main.schema.table? name

/-- The view of a name. -/
def Catalog.view? (c : Catalog) (name : String) : Option View :=
  match c.temp.view? name with
  | some v => some v
  | none => c.main.schema.view? name

/-- What a statement is evaluated with: the schemas, its parameters, and inside a view of the
database's schema, that schema's name: names there reach that schema only. -/
structure Env where
  catalog : Catalog
  params : List Value
  inside : Option String := none

/-- The table of a name as a statement sees it. -/
def Env.table? (env : Env) (name : String) : Option Table :=
  match env.inside with
  | some _ => env.catalog.main.schema.table? name
  | none => env.catalog.table? name

/-- The view of a name as a statement sees it, with the environment its query is seen in. -/
def Env.view? (env : Env) (name : String) : Option (View × Env) :=
  let inMain := fun (v : View) => (v, { env with inside := some "main" })
  match env.inside with
  | some _ => (env.catalog.main.schema.view? name).map inMain
  | none =>
    match env.catalog.temp.view? name with
    | some v => some (v, env)
    | none => (env.catalog.main.schema.view? name).map inMain

/-- The complaint about a missing table, qualified inside a view of the database's schema. -/
def Env.noSuchTable (env : Env) (name : String) : Failure :=
  .prepare ("no such table: " ++ (env.inside.map (· ++ ".")).getD "" ++ name) none

/-- The frame of a table under a name. -/
def Table.frame (t : Table) (label : String) : Frame :=
  ⟨label, t.columns.map fun c => ⟨c.name, c.affinity, c.collation⟩, true, false⟩

/-- The binding of a stored row. -/
def Table.binding (t : Table) (label : String) (r : Row) : Binding :=
  ⟨t.frame label, r.values, .integer r.rowid⟩

/-- A row of NULLs for a frame, as an outer join pads with and a check resolves against. -/
def Frame.nullBinding (f : Frame) : Binding := ⟨f, f.fields.map fun _ => .null, .null⟩

/-- A failure for a statement nested deeper than evaluation follows. -/
def tooDeep : Failure := .prepare "expression tree is too large (maximum depth 1000)" none

/-- What a name resolves to: its value in the current row, with its affinity and collation. -/
structure Resolved where
  value : Value
  affinity : Affinity
  collation : Collation

/-- Whether a name is one of the names of the rowid. -/
def isRowidName (n : String) : Bool :=
  let u := foldAscii n
  u == "rowid" || u == "oid" || u == "_rowid_"

/-- Whether a binding answers to a qualifier. -/
def Binding.answers (b : Binding) (table : Option String) : Bool :=
  match table with
  | none => !b.frame.qualifiedOnly
  | some t => sameName t b.frame.label

/-- The fields of a level that a name may mean. -/
def levelHits (level : List Binding) (table : Option String) (name : String) : List Resolved :=
  level.filterMap fun b =>
    if b.answers table then
      match b.frame.fields.findIdx? (fun f => sameName f.name name) with
      | some i =>
        match b.frame.fields[i]? with
        | some f => some ⟨b.values.getD i .null, f.affinity, f.collation⟩
        | none => none
      | none => none
    else none

/-- The rowids of a level that a rowid name may mean. -/
def levelRowids (level : List Binding) (table : Option String) : List Resolved :=
  level.filterMap fun b =>
    if b.answers table && b.frame.hasRowid then some ⟨b.rowid, .integer, .binary⟩ else none

/-- Resolves a name through the levels of a scope, innermost first. -/
def resolveIn (table : Option String) (name : String) (full : String) (offset : Nat) :
    Scope → Except Failure (Option Resolved)
  | [] => .ok none
  | level :: outer =>
    match levelHits level table name with
    | [r] => .ok (some r)
    | _ :: _ :: _ => .error (.prepare ("ambiguous column name: " ++ full) (some offset))
    | [] =>
      if isRowidName name then
        match levelRowids level table with
        | [r] => .ok (some r)
        | _ :: _ :: _ => .error (.prepare ("ambiguous column name: " ++ full) (some offset))
        | [] => resolveIn table name full offset outer
      else resolveIn table name full offset outer

/-- Resolves a column reference: a field of a source, a rowid, or failing those a string for a
double-quoted name, or a truth value for TRUE and FALSE. -/
def resolveColumn (scope : Scope) (table : Option String) (name : String) (offset : Nat)
    (doubleQuoted : Bool) : Except Failure Resolved :=
  let full := match table with
    | some t => t ++ "." ++ name
    | none => name
  match resolveIn table name full offset scope with
  | .error e => .error e
  | .ok (some r) => .ok r
  | .ok none =>
    if table.isNone && doubleQuoted then .ok ⟨.text name, .blob, .binary⟩
    else if table.isNone && !doubleQuoted && foldAscii name == "true" then .ok ⟨.integer 1, .blob, .binary⟩
    else if table.isNone && !doubleQuoted && foldAscii name == "false" then .ok ⟨.integer 0, .blob, .binary⟩
    else .error (.prepare ("no such column: " ++ full) (some offset))

/-- The truth value that the right operand of IS names, when it is the word TRUE or FALSE and
no column of that name is in scope: IS and IS NOT then test the truth of their left operand,
so that a text reading as a non-zero number IS TRUE. -/
def truthWord? (scope : Scope) : Expr → Option Bool
  | .collate e _ => truthWord? scope e
  | .column none name off false =>
    let n := foldAscii name
    if n = "true" || n = "false" then
      match resolveIn none name name off scope with
      | .ok none => some (n = "true")
      | _ => none
    else none
  | _ => none

/-- Whether an expression is constant: it reads no column and runs no query, and every
function it calls gives the same value for the same arguments. -/
def isConstant : Nat → Expr → Bool
  | 0, _ => false
  | n + 1, e =>
    match e with
    | .literal _ | .parameter _ => true
    | .column none name _ false => foldAscii name = "true" || foldAscii name = "false"
    | .column _ _ _ _ => false
    | .unary _ a => isConstant n a
    | .binary _ a b => isConstant n a && isConstant n b
    | .isNull a _ => isConstant n a
    | .between a l h _ => isConstant n a && isConstant n l && isConstant n h
    | .inList a items _ => isConstant n a && items.all (isConstant n)
    | .like a p esc _ _ => isConstant n a && isConstant n p && (esc.map (isConstant n)).getD true
    | .cases o arms other =>
      (o.map (isConstant n)).getD true && arms.all (fun (c, r) => isConstant n c && isConstant n r) &&
        (other.map (isConstant n)).getD true
    | .cast a _ => isConstant n a
    | .collate a _ => isConstant n a
    | .call name args _ _ _ =>
      !(["random", "randomblob", "changes", "total_changes", "last_insert_rowid"].contains (foldAscii name)) &&
        args.all (isConstant n)
    | .inQuery _ _ _ | .scalar _ | .exists _ => false

/-- The affinity of an expression: a column's own, the type of a CAST, or none. -/
def exprAffinity (scope : Scope) : Expr → Affinity
  | .column t n off dq =>
    match resolveColumn scope t n off dq with
    | .ok r => r.affinity
    | .error _ => .blob
  | .cast _ ty => Affinity.ofDeclaredType ty
  | .collate e _ => exprAffinity scope e
  | _ => .blob

/-- The collation an expression names, and whether it names it with COLLATE. -/
def exprCollation (scope : Scope) : Expr → Option (Collation × Bool)
  | .collate _ c => some (c, true)
  | .column t n off dq =>
    match resolveColumn scope t n off dq with
    | .ok r => some (r.collation, false)
    | .error _ => none
  | .cast e _ => exprCollation scope e
  | .unary .plus e => exprCollation scope e
  | .binary _ a b =>
    match exprCollation scope a with
    | some (c, true) => some (c, true)
    | _ =>
      match exprCollation scope b with
      | some (c, true) => some (c, true)
      | _ => none
  | _ => none

/-- The collation a comparison uses: one named with COLLATE, the left's first; else a column's,
the left's first; else binary. -/
def comparisonCollation (scope : Scope) (a b : Expr) : Collation :=
  match exprCollation scope a, exprCollation scope b with
  | some (c, true), _ => c
  | _, some (c, true) => c
  | some (c, _), _ => c
  | _, some (c, _) => c
  | _, _ => .binary

/-- The English ordinal of a number, as messages count terms. -/
def ordinal (n : Nat) : String :=
  let suffix :=
    if n % 100 ≥ 11 && n % 100 ≤ 13 then "th"
    else match n % 10 with
      | 1 => "st"
      | 2 => "nd"
      | 3 => "rd"
      | _ => "th"
  toString n ++ suffix

/-- Whether an expression calls an aggregate outside of subqueries. -/
def hasAggregate : Nat → Expr → Bool
  | 0, _ => false
  | n + 1, e =>
    match e with
    | .unary _ a => hasAggregate n a
    | .binary _ a b => hasAggregate n a || hasAggregate n b
    | .isNull a _ => hasAggregate n a
    | .between a l h _ => hasAggregate n a || hasAggregate n l || hasAggregate n h
    | .inList a items _ => hasAggregate n a || items.any (hasAggregate n)
    | .inQuery a _ _ => hasAggregate n a
    | .like a p esc _ _ =>
      hasAggregate n a || hasAggregate n p || (esc.map (hasAggregate n)).getD false
    | .cases o arms other =>
      (o.map (hasAggregate n)).getD false ||
        arms.any (fun (c, r) => hasAggregate n c || hasAggregate n r) ||
        (other.map (hasAggregate n)).getD false
    | .cast a _ => hasAggregate n a
    | .collate a _ => hasAggregate n a
    | .call name args star _ _ => isAggregateCall name args.length star || args.any (hasAggregate n)
    | _ => false

/-- The integer an ORDER BY or GROUP BY term names a result column by, when it is an integer
literal. -/
def termPosition? : Expr → Option Int
  | .literal (.integer i) => some i
  | _ => none

/-- The bare name of a term, when it is an unqualified column reference. -/
def termName? : Expr → Option String
  | .column none n _ _ => some n
  | _ => none

/-- Where an expression stands, for the aggregates it may call. -/
inductive Place where
  /-- No aggregates: a filter, a join condition, a value to store. -/
  | plain
  /-- A result, HAVING or ORDER BY term of a query that groups rows. -/
  | grouped
  /-- The argument of an aggregate, where aggregates may not nest. -/
  | folded
  deriving DecidableEq

/-- A result column of a selection after stars are expanded: a field of a source, or an
expression with the name it goes by. -/
inductive Output where
  | pick (source column : Nat)
  | expr (e : Expr) (name : String)

/-- The name a result expression goes by: its alias, the name of the column it is, or its text. -/
def outputName (scope : Scope) (e : Expr) (given : Option String) (text : String) : String :=
  match given with
  | some a => a
  | none =>
    match e with
    | .column t n off dq =>
      match resolveIn t n n off scope with
      | .ok (some _) =>
        -- the declared name of the column, as its source spells it
        match scope.head? with
        | some level =>
          match (level.filterMap fun b =>
              if b.answers t then b.frame.fields.find? (fun f => sameName f.name n) else none) with
          | f :: _ => f.name
          | [] => n
        | none => n
      | _ => if dq then text else text
    | _ => text

/-- Expands the result columns of a selection against its frames. -/
def expandOutputs (frames : List Frame) (scope : Scope) :
    List ResultColumn → Except Failure (List Output)
  | [] => .ok []
  | c :: rest => do
    let more ← expandOutputs frames scope rest
    match c with
    | .all =>
      if frames.isEmpty then .error (.prepare "no tables specified" none)
      else
        let picks := (frames.zipIdx).flatMap fun (f, i) =>
          (List.range f.fields.length).map fun j => Output.pick i j
        return picks ++ more
    | .allOf t =>
      match (frames.zipIdx).find? (fun (f, _) => sameName f.label t) with
      | some (f, i) => return (List.range f.fields.length).map (fun j => Output.pick i j) ++ more
      | none => .error (.prepare ("no such table: " ++ t) none)
    | .expr e given text => return .expr e (outputName scope e given text) :: more

/-- The field of a result column. -/
def outputField (frames : List Frame) (scope : Scope) : Output → Field
  | .pick i j =>
    match frames[i]? with
    | some f => (f.fields[j]?).getD ⟨"", .blob, .binary⟩
    | none => ⟨"", .blob, .binary⟩
  | .expr e name =>
    ⟨name, exprAffinity scope e, ((exprCollation scope e).map (·.1)).getD .binary⟩

/-- Compares two rows by sort keys, each term with whether it descends and its collation. -/
def compareKeys : List (Bool × Collation) → List Value → List Value → Ordering
  | (desc, c) :: terms, a :: as, b :: bs =>
    match Value.compareWith c a b with
    | .eq => compareKeys terms as bs
    | o => if desc then o.swap else o
  | _, _, _ => .eq

/-- Whether two rows hold the same values, as DISTINCT and compounds compare them. -/
def sameRow (a b : List Value) : Bool :=
  a.length == b.length && (a.zip b).all fun (x, y) => Value.compareWith .binary x y == .eq

/-- Drops rows equal to an earlier one. -/
def distinctRows {α : Type} (key : α → List Value) (rows : List α) : List α :=
  rows.foldl (fun kept r => if kept.any (fun k => sameRow (key k) (key r)) then kept else kept ++ [r]) []

/-- Sorts rows by their keys, stably. -/
def sortRows {α : Type} (dirs : List (Bool × Collation)) (key : α → List Value) (rows : List α) :
    List α :=
  rows.mergeSort fun a b => compareKeys dirs (key a) (key b) != .gt

/-- Collects rows into groups of equal keys, the groups in order of their keys. -/
def groupRows {α : Type} (key : α → List Value) (rows : List α) : List (List α) :=
  let sorted := sortRows ((key <$> rows.head?).getD [] |>.map fun _ => (false, Collation.binary)) key rows
  sorted.foldr (fun r groups =>
    match groups with
    | (g :: gs) :: more => if sameRow (key r) (key g) then (r :: g :: gs) :: more else [r] :: (g :: gs) :: more
    | _ => [r] :: groups) []

/-- The integer a LIMIT or OFFSET value gives; other values are a datatype mismatch. -/
def limitNumber (v : Value) : Except Failure Int :=
  match v.withAffinity .numeric with
  | .integer i => .ok i
  | _ => .error (.run "datatype mismatch")

/-- Applies an offset and a limit to rows: a negative limit means none. -/
def limitRows {α : Type} (limit offset : Option Int) (rows : List α) : List α :=
  let rows := match offset with
    | some o => if 0 < o then rows.drop o.toNat else rows
    | none => rows
  match limit with
  | some l => if 0 ≤ l then rows.take l.toNat else rows
  | none => rows

/-- CAST of a value to a type, by the affinity of the type. -/
def castValue (type : String) (v : Value) : Value :=
  match v with
  | .null => .null
  | _ =>
    match Affinity.ofDeclaredType type with
    | .blob =>
      match v with
      | .blob b => .blob b
      | _ => .blob (textBytes (textOf v))
    | .text => .text (textOf v)
    | .integer =>
      match v with
      | .integer i => .integer i
      | .real r => .integer (Double.truncate r)
      | _ => .integer (castIntegerText (textOf v))
    | .real => .real v.toReal
    | .numeric =>
      match v with
      | .integer i => .integer i
      | .real r => .real r
      | _ =>
        match v.toNumeric with
        | .real r =>
          match Double.exactInt? r with
          | some i => .integer i
          | none => .real r
        | n => n

/-- Folds the argument values of a group's rows with an aggregate. -/
def foldAggregate (name : String) (star distinct : Bool) (collation : Collation)
    (rows : List (List Value)) (isJson : Bool) : Except Failure Value :=
  let firsts := rows.map fun r => r.getD 0 .null
  let present := firsts.filter (!·.isNull)
  let present := if distinct then distinctRows (fun v => [v]) present else present
  match foldAscii name with
  | "count" => .ok (.integer (if star || rows.all (·.isEmpty) then rows.length else present.length))
  | "sum" | "total" | "avg" =>
    let nums := present.map (·.withAffinity .numeric)
    let allInt := nums.all fun v => match v with
      | .integer _ => true
      | _ => false
    let total : Float := nums.foldl (fun s v => s + v.toReal) 0
    match foldAscii name with
    | "total" => .ok (.real total)
    | "avg" => .ok (if nums.isEmpty then .null else .real (total / Double.ofInt nums.length))
    | _ =>
      if nums.isEmpty then .ok .null
      else if allInt then
        let s := nums.foldl (fun (s : Int) v => s + v.toInt) 0
        if fitsInt s then .ok (.integer s) else .error (.run "integer overflow")
      else .ok (.real total)
  | "json_group_array" =>
    let values := rows.map fun r => r.getD 0 .null
    groupArray (if distinct then distinctRows (fun v => [v]) values else values) isJson
  | "json_group_object" => groupObject (rows.map fun r => (r.getD 0 .null, r.getD 1 .null)) isJson
  | "min" | "max" =>
    let better (a b : Value) : Value :=
      let o := Value.compareWith collation b a
      if foldAscii name = "max" then (if o == .gt then b else a) else (if o == .lt then b else a)
    match present with
    | v :: more => .ok (more.foldl better v)
    | [] => .ok .null
  | _ =>
    let pairs := rows.filter fun r => !(r.getD 0 .null).isNull
    match pairs with
    | [] => .ok .null
    | first :: more =>
      let sepOf (r : List Value) : String :=
        if r.length ≥ 2 then textOf (r.getD 1 .null) else ","
      let text := more.foldl (fun acc r => acc ++ sepOf r ++ textOf (r.getD 0 .null))
        (textOf (first.getD 0 .null))
      .ok (.text text)

/-- The condition and result pairs of an iif call, and its last argument when it has no pair. -/
def conditionPairs : List Expr → List (Expr × Expr) × Option Expr
  | c :: r :: more =>
    let (arms, otherwise) := conditionPairs more
    ((c, r) :: arms, otherwise)
  | [r] => ([], some r)
  | [] => ([], none)

mutual

/-- Checks an expression: every name resolves, every function exists and takes its arguments,
and aggregates stand only where the place allows them. -/
def checkExpr : Nat → Env → Scope → Place → Expr → Except Failure Unit
  | 0, _, _, _, _ => .error tooDeep
  | n + 1, env, scope, place, e =>
    match e with
    | .literal _ => .ok ()
    | .parameter _ => .ok ()
    | .column t name off dq => do
      let _ ← resolveColumn scope t name off dq
      return ()
    | .unary _ a => checkExpr n env scope place a
    | .binary _ a b => do
      checkExpr n env scope place a
      checkExpr n env scope place b
    | .isNull a _ => checkExpr n env scope place a
    | .between a l h _ => do
      checkExpr n env scope place a
      checkExpr n env scope place l
      checkExpr n env scope place h
    | .inList a items _ => do
      checkExpr n env scope place a
      items.forM (checkExpr n env scope place)
    | .inQuery a q _ => do
      checkExpr n env scope place a
      let fields ← queryShape n env scope q
      if fields.length != 1 then
        .error (.prepare ("sub-select returns " ++ toString fields.length ++ " columns - expected 1") none)
    | .like a p esc _ _ => do
      checkExpr n env scope place a
      checkExpr n env scope place p
      esc.forM (checkExpr n env scope place)
    | .cases o arms other => do
      o.forM (checkExpr n env scope place)
      arms.forM fun (c, r) => do
        checkExpr n env scope place c
        checkExpr n env scope place r
      other.forM (checkExpr n env scope place)
    | .cast a _ => checkExpr n env scope place a
    | .collate a _ => checkExpr n env scope place a
    | .call name args star _ off =>
      if isAggregateCall name args.length star then
        if !aggregateArity name args.length star then
          .error (.prepare ("wrong number of arguments to function " ++ name ++ "()") (some off))
        else if place = .grouped then
          args.forM (checkExpr n env scope .folded)
        else
          .error (.prepare ("misuse of aggregate function " ++ name ++ "()") (some off))
      else
        match scalarArity? name with
        | none => .error (.prepare ("no such function: " ++ name) (some off))
        | some accepts =>
          if star || !accepts args.length then
            .error (.prepare ("wrong number of arguments to function " ++ name ++ "()") (some off))
          else args.forM (checkExpr n env scope place)
    | .scalar q => do
      let _ ← queryShape n env scope q
      return ()
    | .exists q => do
      let _ ← queryShape n env scope q
      return ()

/-- Checks a query and answers the fields of its result. -/
def queryShape : Nat → Env → Scope → Query → Except Failure (List Field)
  | 0, _, _, _ => .error tooDeep
  | n + 1, env, outer, .mk body orderBy limit offset => do
    let fields ← match body with
      | .select _ cols source filter groupBy having => do
        let frames ← match source with
          | some s => sourceShape n env outer s
          | none => pure []
        let level := frames.map Frame.nullBinding
        let scope := level :: outer
        let outputs ← expandOutputs frames scope cols
        let grouped := !groupBy.isEmpty || having.isSome ||
          outputs.any (fun o => match o with
            | .expr e _ => hasAggregate n e
            | .pick _ _ => false) ||
          orderBy.any (fun (t, _) => hasAggregate n t)
        let place := if grouped then Place.grouped else Place.plain
        outputs.forM fun o => match o with
          | .expr e _ => checkExpr n env scope place e
          | .pick _ _ => pure ()
        filter.forM (checkExpr n env scope .plain)
        (groupBy.zipIdx).forM fun (t, i) => match termPosition? t with
          | some k =>
            if k < 1 || outputs.length < k then
              .error (.prepare (ordinal (i + 1) ++ " GROUP BY term out of range - should be between 1 and " ++ toString outputs.length) none)
            else pure ()
          | none => checkExpr n env scope .plain t
        having.forM (checkExpr n env scope .grouped)
        let fields := outputs.map (outputField frames scope)
        (orderBy.zipIdx).forM fun ((t, _), i) =>
          match termPosition? t with
          | some k =>
            if k < 1 || fields.length < k then
              .error (.prepare (ordinal (i + 1) ++ " ORDER BY term out of range - should be between 1 and " ++ toString fields.length) none)
            else pure ()
          | none =>
            match termName? t with
            | some nm =>
              if outputs.any (fun o => match o with
                  | .expr _ a => sameName a nm
                  | _ => false) && (resolveIn none nm nm 0 [level]).toOption.join.isNone then pure ()
              else checkExpr n env scope place t
            | none => checkExpr n env scope place t
        pure fields
      | _ => do
        let fields ← bodyShape n env outer body
        (orderBy.zipIdx).forM fun ((t, _), i) =>
          match termPosition? t with
          | some k =>
            if k < 1 || fields.length < k then
              .error (.prepare (ordinal (i + 1) ++ " ORDER BY term out of range - should be between 1 and " ++ toString fields.length) none)
            else pure ()
          | none =>
            match termName? t with
            | some nm => if fields.any (fun f => sameName f.name nm) then pure ()
              else .error (.prepare (ordinal (i + 1) ++ " ORDER BY term does not match any column in the result set") none)
            | none => .error (.prepare (ordinal (i + 1) ++ " ORDER BY term does not match any column in the result set") none)
        pure fields
    limit.forM (checkExpr n env outer .plain)
    offset.forM (checkExpr n env outer .plain)
    return fields

/-- Checks the body of a query and answers the fields of its result. -/
def bodyShape : Nat → Env → Scope → QueryBody → Except Failure (List Field)
  | 0, _, _, _ => .error tooDeep
  | n + 1, env, outer, body =>
    match body with
    | .select .. => queryShape n env outer (.mk body [] none none)
    | .values rows => do
      rows.forM fun r => r.forM (checkExpr n env outer .plain)
      match rows with
      | first :: more =>
        if more.any (fun r => r.length != first.length) then
          .error (.prepare "all VALUES must have the same number of terms" none)
        else
          return (List.range first.length).map fun i =>
            ⟨"column" ++ toString (i + 1), .blob, .binary⟩
      | [] => return []
    | .compound op left right => do
      let l ← bodyShape n env outer left
      let r ← bodyShape n env outer right
      if l.length != r.length then
        let word := match op with
          | .union => "UNION"
          | .unionAll => "UNION ALL"
          | .intersect => "INTERSECT"
          | .except => "EXCEPT"
        .error (.prepare ("SELECTs to the left and right of " ++ word ++ " do not have the same number of result columns") none)
      else return l

/-- Checks a source and answers its frames. -/
def sourceShape : Nat → Env → Scope → Source → Except Failure (List Frame)
  | 0, _, _, _ => .error tooDeep
  | n + 1, env, outer, src =>
    match src with
    | .table name given _ =>
      match env.table? name with
      | some t => return [t.frame (given.getD t.name)]
      | none =>
        match env.view? name with
        | some (v, venv) => do
          let fields ← queryShape n venv [] v.query
          let fields ← viewFields v fields
          return [⟨given.getD v.name, fields, false, false⟩]
        | none => .error (env.noSuchTable name)
    | .query q given => do
      let fields ← queryShape n env outer q
      return [⟨given.getD "", fields, false, false⟩]
    | .join l _ r on => do
      let lf ← sourceShape n env outer l
      let rf ← sourceShape n env outer r
      let frames := lf ++ rf
      on.forM (checkExpr n env ((frames.map Frame.nullBinding) :: outer) .plain)
      return frames

/-- The fields of a view: its query's, renamed by the view's column list when it has one. -/
def viewFields : View → List Field → Except Failure (List Field)
  | v, fields =>
    if v.columns.isEmpty then .ok fields
    else if v.columns.length != fields.length then
      .error (.prepare ("expected " ++ toString v.columns.length ++ " columns for '" ++ v.name ++
        "' but got " ++ toString fields.length) none)
    else .ok ((fields.zip v.columns).map fun (f, c) => { f with name := c })

end

mutual

/-- Evaluates an expression in a scope; in a group, aggregates fold its rows. -/
def eval : Nat → Env → Scope → Option Group → Expr → Except Failure Value
  | 0, _, _, _, _ => .error tooDeep
  | n + 1, env, scope, group, e =>
    match e with
    | .literal v => .ok v
    | .parameter i => .ok (env.params.getD (i - 1) .null)
    | .column t name off dq => do
      return (← resolveColumn scope t name off dq).value
    | .unary op a => do
      let v ← eval n env scope group a
      match op with
      | .negate => return negateValue v
      | .plus => return v
      | .bitNot => return (if v.isNull then .null else .integer (-v.toInt - 1))
      | .not => return notValue v
    | .binary op a b => do
      match op with
      | .and =>
        let x ← eval n env scope group a
        if x.truth? == some false then return ofBool false
        let y ← eval n env scope group b
        return andValues x y
      | .or =>
        let x ← eval n env scope group a
        if x.truth? == some true then return ofBool true
        let y ← eval n env scope group b
        return orValues x y
      | .concat => return concatValues (← eval n env scope group a) (← eval n env scope group b)
      | .add | .sub | .mul | .div | .rem =>
        return arithmetic op (← eval n env scope group a) (← eval n env scope group b)
      | .bitAnd | .bitOr | .shiftLeft | .shiftRight =>
        return bitwise op (← eval n env scope group a) (← eval n env scope group b)
      | .is | .isNot =>
        let x ← eval n env scope group a
        match truthWord? scope b with
        | some w =>
          let hit := x.truth? == some w
          return ofBool (if op == .is then hit else !hit)
        | none =>
          let y ← eval n env scope group b
          return compareValues op (exprAffinity scope a) (exprAffinity scope b)
            (comparisonCollation scope a b) x y
      | _ =>
        let x ← eval n env scope group a
        let y ← eval n env scope group b
        return compareValues op (exprAffinity scope a) (exprAffinity scope b)
          (comparisonCollation scope a b) x y
    | .isNull a negated => do
      let v ← eval n env scope group a
      return ofBool (v.isNull != negated)
    | .between a l h negated => do
      let x ← eval n env scope group a
      let lo ← eval n env scope group l
      let hi ← eval n env scope group h
      let aa := exprAffinity scope a
      let r := andValues
        (compareValues .ge aa (exprAffinity scope l) (comparisonCollation scope a l) x lo)
        (compareValues .le aa (exprAffinity scope h) (comparisonCollation scope a h) x hi)
      return (if negated then notValue r else r)
    | .inList a items negated => do
      let x ← eval n env scope group a
      if items.isEmpty then return ofBool negated
      let aa := exprAffinity scope a
      let coll := ((exprCollation scope a).map (·.1)).getD .binary
      -- more than two constant items are all evaluated first; otherwise the items are
      -- evaluated in turn up to the first that matches
      let whole := 2 < items.length && items.all (isConstant n)
      let mut hit := false
      let mut sawNull := false
      for item in items do
        if !hit || whole then
          let v ← eval n env scope group item
          if !hit then
            if v.isNull then sawNull := true
            else if (compareValues .eq aa .blob coll x v).truth? == some true then hit := true
      if x.isNull then return .null
      if hit then return ofBool !negated
      else if sawNull then return .null
      else return ofBool negated
    | .inQuery a q negated => do
      let x ← eval n env scope group a
      let (fields, rows) ← runQuery n env scope q
      let vs := rows.map fun r => r.getD 0 .null
      if vs.isEmpty then return ofBool negated
      if x.isNull then return .null
      let ra := ((fields.head?).map (·.affinity)).getD .blob
      let coll := ((exprCollation scope a).map (·.1)).getD .binary
      let hit := vs.any fun v => (compareValues .eq (exprAffinity scope a) ra coll x v).truth? == some true
      if hit then return ofBool !negated
      else if vs.any (·.isNull) then return .null
      else return ofBool negated
    | .like a p esc glob negated => do
      let x ← eval n env scope group a
      let pat ← eval n env scope group p
      let escape ← esc.mapM (eval n env scope group)
      let r ← if glob then pure (globValues pat x) else likeValues pat x escape
      return (if negated then notValue r else r)
    | .cases operand arms otherwise => do
      let subject ← operand.mapM (eval n env scope group)
      for (c, r) in arms do
        let cv ← eval n env scope group c
        let hit := match subject, operand with
          | some sv, some o =>
            (compareValues .eq (exprAffinity scope o) (exprAffinity scope c)
              (comparisonCollation scope o c) sv cv).truth? == some true
          | _, _ => cv.truth? == some true
        if hit then return (← eval n env scope group r)
      match otherwise with
      | some o => eval n env scope group o
      | none => return .null
    | .cast a ty => return castValue ty (← eval n env scope group a)
    | .collate a _ => eval n env scope group a
    | .call name args star distinct _ =>
      if isAggregateCall name args.length star then
        match group with
        | some rows => do
          let vals ← rows.mapM fun s => args.mapM (eval n env s none)
          let coll := match args.head? with
            | some a => ((exprCollation scope a).map (·.1)).getD .binary
            | none => .binary
          let isJson := match args.getLast? with
            | some (.call inner innerArgs _ _ _) => givesJson (foldAscii inner) innerArgs.length
            | _ => false
          foldAggregate name star distinct coll vals isJson
        | none => .error (.prepare ("misuse of aggregate function " ++ name ++ "()") none)
      else
        match foldAscii name with
        | "iif" | "if" => do
          let (arms, otherwise) := conditionPairs args
          for (c, r) in arms do
            if (← eval n env scope group c).truth? == some true then
              return (← eval n env scope group r)
          match otherwise with
          | some o => eval n env scope group o
          | none => return .null
        | "coalesce" | "ifnull" => do
          for a in args do
            let v ← eval n env scope group a
            if !v.isNull then return v
          return .null
        | _ => do
          let vs ← args.mapM (eval n env scope group)
          -- an argument made by a JSON function is JSON to another; one path of json_extract
          -- makes JSON when it leads to an array or an object
          let marks ← (args.zip vs).mapM fun (a, v) => do
            match a, v with
            | .call inner innerArgs _ _ _, .text _ =>
              let f := foldAscii inner
              if f = "json_extract" && innerArgs.length = 2 then
                let ivs ← innerArgs.mapM (eval n env scope group)
                match callJson "json_type" (ivs.map (·, false)) with
                | .ok (.text t) => pure (t = "array" || t = "object")
                | _ => pure false
              else pure (givesJson f innerArgs.length)
            | _, _ => pure false
          callScalar name vs marks
    | .scalar q => do
      let (_, rows) ← runQuery n env scope q
      match rows with
      | r :: _ => return r.getD 0 .null
      | [] => return .null
    | .exists q => do
      let (_, rows) ← runQuery n env scope q
      return ofBool !rows.isEmpty

/-- Runs a query: the fields of its result and its rows, ordered and limited. -/
def runQuery : Nat → Env → Scope → Query → Except Failure (List Field × List (List Value))
  | 0, _, _, _ => .error tooDeep
  | n + 1, env, outer, .mk body orderBy limit offset => do
    let limitN ← limit.mapM fun l => do limitNumber (← eval n env outer none l)
    let offsetN ← offset.mapM fun o => do limitNumber (← eval n env outer none o)
    match body with
    | .select distinct cols source filter groupBy having => do
      let (frames, rows) ← match source with
        | some s => sourceRows n env outer s
        | none => pure ([], [[]])
      let scopeOf (row : List Binding) : Scope := row :: outer
      let nullRow := frames.map Frame.nullBinding
      let outputs ← expandOutputs frames (scopeOf nullRow) cols
      let fields := outputs.map (outputField frames (scopeOf nullRow))
      let rows ← rows.filterM fun row => do
        match filter with
        | some f => return (← eval n env (scopeOf row) none f).truth? == some true
        | none => return true
      let grouped := !groupBy.isEmpty || having.isSome ||
        outputs.any (fun o => match o with
          | .expr e _ => hasAggregate n e
          | .pick _ _ => false) ||
        orderBy.any (fun (t, _) => hasAggregate n t)
      -- a term that is a position or an alias stands for that result column
      let termExpr (t : Expr) : Option Nat :=
        match termPosition? t with
        | some k => if 1 ≤ k then some (k.toNat - 1) else none
        | none =>
          match termName? t with
          | some nm =>
            if (resolveIn none nm nm 0 [nullRow]).toOption.join.isSome then none
            else outputs.findIdx? fun o => match o with
              | .expr _ a => sameName a nm
              | _ => false
          | none => none
      let valueOf (row : List Binding) (g : Option Group) (o : Output) : Except Failure Value :=
        match o with
        | .pick i j =>
          match row[i]? with
          | some b => .ok (b.values.getD j .null)
          | none => .ok .null
        | .expr e _ => eval n env (scopeOf row) g e
      let produce (row : List Binding) (g : Option Group) :
          Except Failure (List Value × List Value) := do
        let vals ← outputs.mapM (valueOf row g)
        let keys ← orderBy.mapM fun (t, _) =>
          match termExpr t with
          | some k => pure (vals.getD k .null)
          | none => eval n env (scopeOf row) g t
        return (vals, keys)
      let produced ← if grouped then do
          let keyed ← rows.mapM fun row => do
            let k ← groupBy.mapM fun t =>
              match termExpr t with
              | some k =>
                match outputs[k]? with
                | some o => valueOf row none o
                | none => pure .null
              | none => eval n env (scopeOf row) none t
            return (k, row)
          let groups := if groupBy.isEmpty then [keyed] else groupRows (·.1) keyed
          let results ← groups.mapM fun g => do
            let members : Group := g.map fun (_, row) => scopeOf row
            let rep := ((g.getLast?).map (·.2)).getD nullRow
            let keep ← match having with
              | some h => do pure ((← eval n env (scopeOf rep) (some members) h).truth? == some true)
              | none => pure true
            if keep then return [← produce rep (some members)] else return []
          pure results.flatten
        else rows.mapM fun row => produce row none
      let produced := if distinct then distinctRows (·.1) produced else produced
      let dirs := orderBy.map fun (t, desc) =>
        (desc, ((exprCollation (scopeOf nullRow) t).map (·.1)).getD .binary)
      let sorted := if orderBy.isEmpty then produced else sortRows dirs (·.2) produced
      return (fields, limitRows limitN offsetN (sorted.map (·.1)))
    | _ => do
      let (fields, rows) : List Field × List (List Value) ← runBody n env outer body
      let positions := orderBy.map fun (t, desc) =>
        let k := match termPosition? t with
          | some k => (k.toNat - 1)
          | none =>
            match termName? t with
            | some nm => (fields.findIdx? fun (f : Field) => sameName f.name nm).getD 0
            | none => 0
        (k, desc)
      let dirs := positions.map fun (k, desc) =>
        (desc, ((fields[k]?).map Field.collation).getD .binary)
      let key (r : List Value) : List Value := positions.map fun (k, _) => r.getD k .null
      let sorted := if orderBy.isEmpty then rows else sortRows dirs key rows
      return (fields, limitRows limitN offsetN sorted)

/-- Runs the body of a query, before its order and limit. -/
def runBody : Nat → Env → Scope → QueryBody → Except Failure (List Field × List (List Value))
  | 0, _, _, _ => .error tooDeep
  | n + 1, env, outer, body =>
    match body with
    | .select .. => runQuery n env outer (.mk body [] none none)
    | .values rows => do
      let vals ← rows.mapM fun r => r.mapM (eval n env outer none)
      let width := ((rows.head?).map List.length).getD 0
      return ((List.range width).map fun i => ⟨"column" ++ toString (i + 1), .blob, .binary⟩, vals)
    | .compound op left right => do
      let (fields, l) ← runBody n env outer left
      let (_, r) ← runBody n env outer right
      let dirs := fields.map fun f => (false, f.collation)
      match op with
      | .unionAll => return (fields, l ++ r)
      | .union => return (fields, sortRows dirs id (distinctRows id (l ++ r)))
      | .intersect =>
        return (fields, sortRows dirs id (distinctRows id (l.filter fun x => r.any (sameRow x))))
      | .except =>
        return (fields, sortRows dirs id (distinctRows id (l.filter fun x => !r.any (sameRow x))))

/-- The rows of a source: its frames, and for each row a binding per frame. -/
def sourceRows : Nat → Env → Scope → Source → Except Failure (List Frame × List (List Binding))
  | 0, _, _, _ => .error tooDeep
  | n + 1, env, outer, src =>
    match src with
    | .table name given _ =>
      match env.table? name with
      | some t =>
        let label := given.getD t.name
        return ([t.frame label], t.rows.map fun r => [t.binding label r])
      | none =>
        match env.view? name with
        | some (v, venv) => do
          let (fields, rows) ← runQuery n venv [] v.query
          let fields ← if v.columns.isEmpty then pure fields
            else if v.columns.length != fields.length then
              .error (.prepare ("expected " ++ toString v.columns.length ++ " columns for '" ++
                v.name ++ "' but got " ++ toString fields.length) none)
            else pure ((fields.zip v.columns).map fun (f, c) => { f with name := c })
          let frame : Frame := ⟨given.getD v.name, fields, false, false⟩
          return ([frame], rows.map fun r => [⟨frame, r, .null⟩])
        | none => .error (env.noSuchTable name)
    | .query q given => do
      let (fields, rows) ← runQuery n env outer q
      let frame : Frame := ⟨given.getD "", fields, false, false⟩
      return ([frame], rows.map fun r => [⟨frame, r, .null⟩])
    | .join l kind r on => do
      let (lf, lrows) ← sourceRows n env outer l
      let (rf, rrows) ← sourceRows n env outer r
      let joined ← lrows.mapM fun lrow => do
        let hits ← rrows.filterM fun rrow => do
          match on with
          | some c => return (← eval n env ((lrow ++ rrow) :: outer) none c).truth? == some true
          | none => return true
        if hits.isEmpty && kind = .left then return [lrow ++ rf.map Frame.nullBinding]
        else return hits.map (lrow ++ ·)
      return (lf ++ rf, joined.flatten)

end

end RoleSync.Sql
