import RoleSync.Sql.Execute
import RoleSync.Sql.Client
/-!
Calls on a connection, as a client library makes them: `execute` runs the one statement of a
text, `executeBatch` the statements of a text in turn, and `query` answers a statement's rows.
A failure found at a known place of a statement's text is reported with the text and offset.
-/

namespace RoleSync.Sql

set_option autoImplicit false

/-- The error a failure of a statement becomes, given the text it was prepared from. -/
def Failure.inText (sql : String) : Failure → CallError
  | .prepare m (some offset) => .input m sql offset
  | .prepare m none => .engine m
  | .run m => .engine m

/-- The error of stepping a statement that was never prepared, as an empty text gives. -/
def misuse : CallError := .engine "bad parameter or other API misuse"

namespace Connection

/-- A statement ready to run: the statement, where the text after it starts, and whether it was
checked against a schema that another connection has changed since. -/
structure Prepared where
  statement : Statement
  tail : Option Nat
  stale : Bool

/-- The connection after it reads the database's schema again. -/
def refresh (c : Connection) : Connection := { c with seen := none }

/-- Prepares the first statement of a text given by its characters: reads it and checks it
against the schemas; answers it, or none for a text without a statement, with the connection
after. A connection checks against the schema as it last read it; when that check fails and the
schema has changed since, it reads the schema again and checks once more. -/
def prepareChars (c : Connection) (sql : List Char) :
    Except CallError (Option Prepared) × Connection :=
  match firstStatementOf sql with
  | .error f => (.error (f.inText (String.ofList sql)), c)
  | .ok none => (.ok none, c)
  | .ok (some (st, tail)) =>
    let fresh (c : Connection) : Except CallError (Option Prepared) × Connection :=
      match checkStatement c st with
      | .error f => (.error (f.inText (String.ofList sql)), c)
      | .ok () => (.ok (some ⟨st, tail, false⟩), c)
    match c.seen with
    | some old =>
      if st.readsSchema then
        match checkStatement { c with main := { c.main with schema := old } } st with
        | .ok () => (.ok (some ⟨st, tail, true⟩), c)
        | .error _ => fresh c.refresh
      else fresh c
    | none => fresh c

/-- Prepares the first statement of a text, as `prepareChars` does its characters. -/
def prepare (c : Connection) (sql : String) : Except CallError (Option Prepared) × Connection :=
  c.prepareChars sql.toList

/-- Runs a prepared statement. One checked against an old schema is checked again against the
current one first, and a failure of that check is the engine's, without a place. -/
def step (c : Connection) (sql : String) (params : List Value) (p : Prepared) :
    Except CallError (Outcome × Connection) :=
  let c := if p.stale then c.refresh else c
  let recheck := if p.stale then checkStatement c p.statement else .ok ()
  match recheck with
  | .error f => .error (.engine f.message)
  | .ok () =>
    match runStatement c params p.statement with
    | .error f => .error (f.inText sql)
    | .ok r => .ok r

/-- Runs the one statement of a text with parameters and answers the rows it changed. -/
def execute (c : Connection) (sql : String) (params : List Value) :
    Except CallError (Nat × Connection) :=
  match c.prepare sql with
  | (.error e, _) => .error e
  | (.ok none, _) => .error misuse
  | (.ok (some p), c) =>
    if (p.tail.map fun t => decide (t < sql.length)).getD false then .error .multipleStatements
    else
      match c.step sql params p with
      | .error e => .error e
      | .ok (outcome, c') =>
        if outcome.rows.isEmpty then .ok (outcome.changes.getD 0, c')
        else .error .returnedRows

/-- Runs the statements of a text in order, each prepared from the text left after the last;
rows they return are dropped. -/
def executeBatch (c : Connection) (sql : String) : Except CallError Connection :=
  go c sql.toList (sql.length + 1)
where
  /-- Runs the statements of what is left of the text, given by its characters. -/
  go (c : Connection) (rest : List Char) : Nat → Except CallError Connection
    | 0 => .ok c
    | fuel + 1 =>
      match c.prepareChars rest with
      | (.error e, _) => .error e
      | (.ok none, c) => .ok c
      | (.ok (some p), c) =>
        match c.step (String.ofList rest) [] p with
        | .error e => .error e
        | .ok (_, c') =>
          match p.tail with
          | some t => if t < rest.length then go c' (rest.drop t) fuel else .ok c'
          | none => .ok c'

/-- Runs a statement with parameters and answers the names of its result columns and its rows,
with the connection after. -/
def query (c : Connection) (sql : String) (params : List Value) :
    Except CallError (List String × List (List Value) × Connection) :=
  match c.prepare sql with
  | (.error e, _) => .error e
  | (.ok none, _) => .error misuse
  | (.ok (some p), c) =>
    match c.step sql params p with
    | .error e => .error e
    | .ok (outcome, c') =>
      let names := match p.statement with
        | .query q => ((queryShape evalFuel { catalog := c'.catalog, params := params } [] q).toOption.getD []).map (·.name)
        | _ => []
      .ok (names, outcome.rows, c')

/-- Begins a transaction, as a client's transaction call does. -/
def beginTransaction (c : Connection) : Except CallError Connection :=
  (c.execute "BEGIN DEFERRED" []).map (·.2)

/-- Commits the open transaction. -/
def commitTransaction (c : Connection) : Except CallError Connection :=
  (c.execute "COMMIT" []).map (·.2)

end Connection

end RoleSync.Sql
