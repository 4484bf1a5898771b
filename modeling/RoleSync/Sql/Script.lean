import RoleSync.Sql.Parser
/-!
Reading whole statements, and taking the first statement off a script.

A statement defines schema objects (CREATE and DROP of tables, views and indexes, ALTER TABLE),
changes rows (INSERT, REPLACE, UPDATE, DELETE), reads them (a query), or manages the connection
(BEGIN, COMMIT, ROLLBACK, PRAGMA, VACUUM and the like). A script is statements separated by
semicolons; reading one statement takes it and its semicolon, and tells where the rest begins.
-/

namespace RoleSync.Sql

set_option autoImplicit false

/-- The resolution a conflict word names. -/
def conflictWord : Reader Conflict := do
  if ← acceptWord "rollback" then return .rollback
  else if ← acceptWord "abort" then return .abort
  else if ← acceptWord "fail" then return .fail
  else if ← acceptWord "ignore" then return .ignore
  else if ← acceptWord "replace" then return .replace
  else syntaxError

/-- An ON CONFLICT clause after a constraint, if one stands next. -/
def conflictClause : Reader (Option Conflict) := do
  if (← atWord "on") && (← secondIsWord "conflict") then
    advance; advance
    return some (← conflictWord)
  else return none

/-- Names separated by commas, with their byte offsets; each may be followed by a collation
and a direction, which are read and dropped. -/
def nameList : Nat → Reader (List (String × Nat))
  | 0 => syntaxError
  | n + 1 => do
    let (nm, off, _) ← name
    if ← acceptWord "collate" then discard name
    if !(← acceptWord "asc") then discard (acceptWord "desc")
    if ← acceptSymbol "," then return (nm, off) :: (← nameList n) else return [(nm, off)]

/-- Skips the clauses of a foreign key after REFERENCES. -/
def skipReferenceClauses : Nat → Reader Unit
  | 0 => pure ()
  | n + 1 => do
    if ← acceptWord "on" then
      if !(← acceptWord "delete") then expectWord "update"
      if ← acceptWord "set" then
        if !(← acceptWord "null") then expectWord "default"
      else if ← acceptWord "no" then expectWord "action"
      else if !(← acceptWord "cascade") then expectWord "restrict"
      skipReferenceClauses n
    else if ← acceptWord "match" then
      discard name
      skipReferenceClauses n
    else if (← atWord "not") && (← secondIsWord "deferrable") then
      advance; advance
      skipDeferral
      skipReferenceClauses n
    else if ← acceptWord "deferrable" then
      skipDeferral
      skipReferenceClauses n
    else pure ()
where
  /-- INITIALLY DEFERRED or INITIALLY IMMEDIATE, if present. -/
  skipDeferral : Reader Unit := do
    if ← acceptWord "initially" then
      if !(← acceptWord "deferred") then expectWord "immediate"

/-- Reads REFERENCES and the foreign key it states. -/
def references : Reader Unit := do
  expectWord "references"
  discard name
  if ← acceptSymbol "(" then
    discard (nameList 1000)
    expectSymbol ")"
  skipReferenceClauses 100

/-- The text of the expression between parentheses, and the expression. -/
def parenthesized (n : Nat) : Reader (Expr × String) := do
  expectSymbol "("
  let start := ((← peek).map (·.start)).getD 0
  let e ← expr n
  let c ← get
  let text := spanText c.chars start c.lastStop
  expectSymbol ")"
  return (e, text)

/-- A default value: an expression in parentheses, a signed number, a literal, or a bare name,
which stands for its text. -/
def defaultValue (n : Nat) : Reader Expr := do
  if ← atSymbol "(" then return (← parenthesized n).1
  else if ← acceptSymbol "-" then return .unary .negate (← primary n)
  else if ← acceptSymbol "+" then return (← primary n)
  else
    match ← peek with
    | some ⟨.word w, _, _, _⟩ =>
      if ["null", "true", "false", "current_time", "current_date", "current_timestamp"].contains
          (foldAscii w) then primary n
      else do advance; return .literal (.text w)
    | some ⟨.quoted t _, _, _, _⟩ => do advance; return .literal (.text t)
    | _ => primary n

/-- The constraints of a column, each with its name if one was given. -/
def columnConstraints : Nat → Reader (List (Option String × ColumnConstraint))
  | 0 => syntaxError
  | n + 1 => do
    let label ← if ← acceptWord "constraint" then some <$> (·.1) <$> name else pure none
    let c? : Option ColumnConstraint ← do
      if ← acceptWord "primary" then
        expectWord "key"
        let desc ← if ← acceptWord "desc" then pure true
          else do discard (acceptWord "asc"); pure false
        let conflict ← conflictClause
        let auto ← acceptWord "autoincrement"
        pure (some (.primaryKey desc conflict auto))
      else if ← acceptWord "not" then
        expectWord "null"
        pure (some (.notNull (← conflictClause)))
      else if ← acceptWord "null" then
        discard conflictClause
        pure none
      else if ← acceptWord "unique" then pure (some (.unique (← conflictClause)))
      else if ← acceptWord "check" then
        let (e, text) ← parenthesized n
        pure (some (.check e text))
      else if ← acceptWord "default" then pure (some (.default (← defaultValue n)))
      else if ← acceptWord "collate" then
        let (c, _, _) ← name
        pure (some (.collate (← collationNamed c)))
      else if ← atWord "references" then
        references
        pure (some .references)
      else if (← atWord "generated") || (← atWord "as") then
        if ← acceptWord "generated" then expectWord "always"
        expectWord "as"
        let (e, _) ← parenthesized n
        let stored ← if ← acceptWord "stored" then pure true
          else do discard (acceptWord "virtual"); pure false
        pure (some (.generated e stored))
      else if label.isSome then syntaxError
      else return []
    let more ← columnConstraints n
    match c? with
    | some c => return (label, c) :: more
    | none => return more

/-- A column of a table definition. -/
def columnDef (n : Nat) : Reader ColumnDef := do
  let (nm, _, _) ← name
  let t ← typeName
  return ⟨nm, t, ← columnConstraints n⟩

/-- Whether a table constraint starts at the current token. -/
def atTableConstraint : Reader Bool := do
  return (← atWord "constraint") || (← atWord "primary") || (← atWord "unique") ||
    (← atWord "check") || (← atWord "foreign")

/-- A constraint of a table definition. -/
def tableConstraint (n : Nat) : Reader (Option String × TableConstraint) := do
  let label ← if ← acceptWord "constraint" then some <$> (·.1) <$> name else pure none
  if ← acceptWord "primary" then
    expectWord "key"
    expectSymbol "("
    let cols ← nameList n
    expectSymbol ")"
    return (label, .primaryKey (cols.map (·.1)) (← conflictClause))
  else if ← acceptWord "unique" then
    expectSymbol "("
    let cols ← nameList n
    expectSymbol ")"
    return (label, .unique (cols.map (·.1)) (← conflictClause))
  else if ← acceptWord "check" then
    let (e, text) ← parenthesized n
    return (label, .check e text)
  else if ← acceptWord "foreign" then
    expectWord "key"
    expectSymbol "("
    discard (nameList n)
    expectSymbol ")"
    references
    return (label, .foreignKey)
  else syntaxError

/-- The column definitions and table constraints between the parentheses of a table. -/
def tableBody : Nat → Reader (List ColumnDef × List (Option String × TableConstraint))
  | 0 => syntaxError
  | n + 1 => do
    if ← atTableConstraint then
      let tc ← tableConstraint n
      if ← acceptSymbol "," then
        let (cols, tcs) ← tableBody n
        if !cols.isEmpty then syntaxError
        return ([], tc :: tcs)
      else return ([], [tc])
    else
      let c ← columnDef n
      if ← acceptSymbol "," then
        let (cols, tcs) ← tableBody n
        return (c :: cols, tcs)
      else return ([c], [])

/-- The options after a table definition; answers whether the table has no rowid and whether
it is strict. -/
def tableOptions : Nat → Reader (Bool × Bool)
  | 0 => syntaxError
  | n + 1 => do
    let here ← if ← acceptWord "without" then do
        let (w, _, _) ← name
        if foldAscii w != "rowid" then
          throw (.prepare ("unknown table option: " ++ w) none)
        pure (true, false)
      else if ← acceptWord "strict" then pure (false, true)
      else return (false, false)
    if ← acceptSymbol "," then
      let (w, s) ← tableOptions n
      return (here.1 || w, here.2 || s)
    else return here

/-- IF NOT EXISTS, if it stands next. -/
def ifNotExists : Reader Bool := do
  if ← acceptWord "if" then
    expectWord "not"
    expectWord "exists"
    return true
  else return false

/-- The rest of a CREATE statement. -/
def createStatement (n : Nat) : Reader Statement := do
  let temporary ← do
    if (← acceptWord "temp") || (← acceptWord "temporary") then pure true else pure false
  let unique ← acceptWord "unique"
  if ← acceptWord "table" then
    if unique then syntaxError
    let ine ← ifNotExists
    let (nm, _) ← qualifiedName
    if ← acceptWord "as" then return .createTableAs nm temporary ine (← query n)
    expectSymbol "("
    let (cols, tcs) ← tableBody n
    expectSymbol ")"
    let (withoutRowid, strict) ← if (← atWord "without") || (← atWord "strict") then tableOptions n
      else pure (false, false)
    return .createTable nm temporary ine cols tcs withoutRowid strict
  else if ← acceptWord "index" then
    let ine ← ifNotExists
    let (nm, _) ← qualifiedName
    expectWord "on"
    let (t, _, _) ← name
    expectSymbol "("
    let cols ← indexColumns n
    expectSymbol ")"
    let filter ← if ← acceptWord "where" then some <$> expr n else pure none
    return .createIndex nm t cols unique ine filter
  else if ← acceptWord "view" then
    if unique then syntaxError
    let ine ← ifNotExists
    let (nm, _) ← qualifiedName
    let cols ← if ← acceptSymbol "(" then do
        let cs ← nameList n
        expectSymbol ")"
        pure (cs.map (·.1))
      else pure []
    expectWord "as"
    return .createView nm temporary ine cols (← query n)
  else if (← atWord "trigger") || (← atWord "virtual") then
    throw (.prepare "triggers and virtual tables are not supported" none)
  else syntaxError
where
  /-- The columns of an index: expressions, each with an optional direction. -/
  indexColumns : Nat → Reader (List Expr)
    | 0 => syntaxError
    | k + 1 => do
      let e ← expr k
      if !(← acceptWord "asc") then discard (acceptWord "desc")
      if ← acceptSymbol "," then return e :: (← indexColumns k) else return [e]

/-- The assignments of a SET clause. A parenthesized list of columns takes a parenthesized list
of values, one each. -/
def assignments : Nat → Reader (List Assignment)
  | 0 => syntaxError
  | n + 1 => do
    let these ← if ← acceptSymbol "(" then do
        let cols ← nameList n
        expectSymbol ")"
        expectSymbol "="
        expectSymbol "("
        let vals ← exprList n
        expectSymbol ")"
        if cols.length != vals.length then
          throw (.prepare (toString cols.length ++ " columns assigned " ++
            toString vals.length ++ " values") none)
        pure ((cols.zip vals).map fun (c, v) => ([c], v))
      else do
        let (c, off, _) ← name
        expectSymbol "="
        pure [([(c, off)], ← expr n)]
    if ← acceptSymbol "," then return these ++ (← assignments n) else return these

/-- The ON CONFLICT clauses of an insertion. -/
def upserts : Nat → Reader (List Upsert)
  | 0 => syntaxError
  | n + 1 => do
    if (← atWord "on") && (← secondIsWord "conflict") then
      advance; advance
      let target ← if ← acceptSymbol "(" then do
          let cols ← nameList n
          expectSymbol ")"
          if ← acceptWord "where" then discard (expr n)
          pure (some (cols.map (·.1)))
        else pure none
      expectWord "do"
      let action ← if ← acceptWord "nothing" then pure UpsertAction.nothing
        else do
          expectWord "update"
          expectWord "set"
          let sets ← assignments n
          let filter ← if ← acceptWord "where" then some <$> expr n else pure none
          pure (UpsertAction.update sets filter)
      return ⟨target, action⟩ :: (← upserts n)
    else return []

/-- A RETURNING clause, if one stands next; its columns are read and dropped. -/
def returningClause (n : Nat) : Reader Bool := do
  if ← acceptWord "returning" then
    discard (resultColumns n)
    return true
  else return false

/-- The rest of an insertion after INSERT [OR …] or REPLACE. -/
def insertStatement (n : Nat) (conflict : Conflict) : Reader Statement := do
  expectWord "into"
  let (t, _) ← qualifiedName
  if ← acceptWord "as" then discard name
  let cols ← if ← acceptSymbol "(" then do
      let cs ← nameList n
      expectSymbol ")"
      pure (some cs)
    else pure none
  let src ← if ← acceptWord "default" then do
      expectWord "values"
      pure InsertSource.defaults
    else if ← atWord "values" then do
      advance
      pure (InsertSource.values (← valueRows n))
    else pure (InsertSource.query (← query n))
  let ups ← upserts n
  let ret ← returningClause n
  return .insert conflict t cols src ups ret

/-- A statement. -/
def statement (n : Nat) : Reader Statement := do
  if ← acceptWord "explain" then
    if ← acceptWord "query" then expectWord "plan"
    discard (statementBody n)
    return .query (.mk (.values [[.literal (.integer 0)]]) [] none none)
  else statementBody n
where
  /-- A statement after any EXPLAIN. -/
  statementBody (n : Nat) : Reader Statement := do
    if ← acceptWord "create" then createStatement n
    else if ← acceptWord "drop" then
      let kind ← if ← acceptWord "table" then pure ObjectKind.table
        else if ← acceptWord "view" then pure ObjectKind.view
        else if ← acceptWord "index" then pure ObjectKind.index
        else if ← acceptWord "trigger" then pure ObjectKind.trigger
        else syntaxError
      let ie ← if ← acceptWord "if" then do expectWord "exists"; pure true else pure false
      let (nm, _) ← qualifiedName
      return .drop kind nm ie
    else if ← acceptWord "insert" then
      let conflict ← if ← acceptWord "or" then conflictWord else pure .abort
      insertStatement n conflict
    else if ← acceptWord "replace" then insertStatement n .replace
    else if ← acceptWord "update" then
      let conflict ← if ← acceptWord "or" then conflictWord else pure .abort
      let (t, _) ← qualifiedName
      if ← acceptWord "as" then discard name
      expectWord "set"
      let sets ← assignments n
      if ← atWord "from" then throw (.prepare "UPDATE FROM is not supported" none)
      let filter ← if ← acceptWord "where" then some <$> expr n else pure none
      let ret ← returningClause n
      return .update conflict t sets filter ret
    else if ← acceptWord "delete" then
      expectWord "from"
      let (t, _) ← qualifiedName
      if ← acceptWord "as" then discard name
      let filter ← if ← acceptWord "where" then some <$> expr n else pure none
      let ret ← returningClause n
      return .delete t filter ret
    else if ← atWord "select" then return .query (← query n)
    else if ← atWord "values" then return .query (← query n)
    else if ← atWord "with" then return .query (← query n)
    else if ← acceptWord "begin" then
      discard (acceptWord "deferred" <||> acceptWord "immediate" <||> acceptWord "exclusive")
      if ← acceptWord "transaction" then
        if (← peek).isSome && !(← atSymbol ";") then discard name
      return .begin
    else if (← acceptWord "commit") || (← acceptWord "end") then
      discard (acceptWord "transaction")
      return .commit
    else if ← acceptWord "rollback" then
      discard (acceptWord "transaction")
      if ← atWord "to" then throw (.prepare "ROLLBACK TO is not supported" none)
      return .rollback
    else if (← acceptWord "savepoint") || (← acceptWord "release") then
      discard (acceptWord "savepoint")
      discard name
      return .maintenance
    else if ← acceptWord "pragma" then
      let (nm, _) ← qualifiedName
      let value ← if ← acceptSymbol "=" then some <$> pragmaValue
        else if ← acceptSymbol "(" then do
          let v ← pragmaValue
          expectSymbol ")"
          pure (some v)
        else pure none
      return .pragma (foldAscii nm) value
    else if (← acceptWord "vacuum") || (← acceptWord "analyze") || (← acceptWord "reindex") then
      let rec skip : Nat → Reader Unit
        | 0 => pure ()
        | k + 1 => do
          if (← peek).isNone || (← atSymbol ";") then pure () else do advance; skip k
      skip ((← get).rest.length)
      return .maintenance
    else if ← acceptWord "alter" then
      expectWord "table"
      let (t, _) ← qualifiedName
      if ← acceptWord "rename" then
        if ← acceptWord "to" then return .renameTable t (← name).1
        discard (acceptWord "column")
        let (old, off, _) ← name
        expectWord "to"
        return .renameColumn t old (← name).1 off
      else if ← acceptWord "add" then
        discard (acceptWord "column")
        return .addColumn t (← columnDef n)
      else if ← acceptWord "drop" then
        discard (acceptWord "column")
        let (col, off, _) ← name
        return .dropColumn t col off
      else syntaxError
    else if ← acceptWord "attach" then
      discard (acceptWord "database")
      discard (expr n)
      expectWord "as"
      discard name
      return .maintenance
    else if ← acceptWord "detach" then
      discard (acceptWord "database")
      discard name
      return .maintenance
    else syntaxError
  /-- The value of a PRAGMA: a signed number, a name or a string, as text. -/
  pragmaValue : Reader String := do
    let sign ← if ← acceptSymbol "-" then pure "-" else do discard (acceptSymbol "+"); pure ""
    match ← peek with
    | some l =>
      match l.token with
      | .number t => advance; return sign ++ t
      | .word w => advance; return w
      | .quoted t _ => advance; return t
      | .string t => advance; return t
      | _ => syntaxError
    | none => syntaxError

/-- The first statement of a script given by its characters: the statement, and where the rest
of the script starts when a semicolon ended it; none when only blanks, comments and semicolons
are left. -/
def firstStatementOf (text : List Char) : Except Failure (Option (Statement × Option Nat)) :=
  let (toks, bad) := tokenize text
  let chars := text.toArray
  let toks := toks.dropWhile (·.token.isSymbol ";")
  if toks.isEmpty then
    match bad with
    | some u => .error (.prepare ("unrecognized token: \"" ++ u.text ++ "\"") (some u.offset))
    | none => .ok none
  else
    let run : Reader (Statement × Option Nat) := do
      let st ← statement (16 * toks.length + 64)
      match ← peek with
      | none => if bad.isSome then syntaxError else return (st, none)
      | some l =>
        if l.token.isSymbol ";" then
          advance
          return (st, some l.stop)
        else syntaxError
    match run.run ⟨toks, chars, 0, 0, bad⟩ with
    | .ok ((st, tail), _) => .ok (some (st, tail))
    | .error e => .error e

/-- The first statement of a script. -/
def firstStatement (text : String) : Except Failure (Option (Statement × Option Nat)) :=
  firstStatementOf text.toList

end RoleSync.Sql
