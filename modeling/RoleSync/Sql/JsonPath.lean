import RoleSync.Sql.Json
/-!
Paths into JSON values, and the edits made at them.

A path is `$` and then steps: `.key` or `."key"` names a member of an object, `[n]` an item of
an array counting from 0, and `[#-n]` an item counting back from the end; `[#]` names the place
just past the last item. A path is read one step at a time as a value is walked, so a malformed
step is only an error when the walk reaches it: a step into a value of the wrong kind, or to a
member or item that is not there, ends the walk with nothing found.

An edit inserts, replaces, sets (inserts or replaces) or removes the value at a path. Inserting
or setting where the path leads past the end of an object or to the place just past the last
item of an array adds the value there, first building the objects and arrays that the rest of
the path walks through.
-/

namespace RoleSync.Sql

set_option autoImplicit false

/-- A step of a path, as far as its kind: a key, or a position in an array. -/
inductive PathKey where
  /-- A key, with whether it was written without escapes. -/
  | key (name : String) (plain : Bool)
  /-- A position from the start. -/
  | index (i : Nat)
  /-- A position back from the end: 0 is the place just past the last item. -/
  | fromEnd (back : Nat)

/-- Why a walk along a path stopped without a value. -/
inductive PathStop where
  /-- The path leads nowhere in the value. -/
  | notFound
  /-- The path is malformed. -/
  | malformed
  deriving DecidableEq

/-- The value of decimal digits. -/
def decimalDigits (ds : List Char) : Nat := ds.foldl (fun a c => 10 * a + (c.toNat - '0'.toNat)) 0

/-- Reads the key of a step after its point: a quoted key up to the next quote, or a bare key
up to the next point or bracket; answers it with the rest of the path. -/
def readKey : List Char → Except PathStop (PathKey × List Char)
  | '"' :: rest =>
    let name := rest.takeWhile (· ≠ '"')
    match rest.drop name.length with
    | '"' :: more => .ok (.key (String.ofList name) (!name.contains '\\'), more)
    | _ => .error .malformed
  | cs =>
    let name := cs.takeWhile fun c => c ≠ '.' && c ≠ '['
    if name.isEmpty then .error .malformed
    else .ok (.key (String.ofList name) true, cs.drop name.length)

/-- Reads the position of a step after its opening bracket, for an array of a length: answers
it with the rest of the path. A position back from the end past the start leads nowhere. -/
def readIndex (length : Nat) : List Char → Except PathStop (Nat × List Char)
  | cs =>
    let ds := cs.takeWhile isDigit
    match cs.drop ds.length with
    | ']' :: more => if ds.isEmpty then .error .malformed else .ok (decimalDigits ds, more)
    | _ =>
      match cs with
      | '#' :: '-' :: d :: rest =>
        if isDigit d then
          let back := (d :: rest).takeWhile isDigit
          let n := decimalDigits back
          if length < n then .error .notFound
          else
            match (d :: rest).drop back.length with
            | ']' :: more => .ok (length - n, more)
            | _ => .error .malformed
        else .error .malformed
      | '#' :: ']' :: more => .ok (length, more)
      | _ => .error .malformed

/-- Whether a member's key matches a key of a path, comparing the text they stand for. -/
def keyMatches (memberKey name : String) (plain : Bool) : Bool :=
  let wanted := if plain then name else String.ofList (JsonValue.unescape name.toList)
  String.ofList (JsonValue.unescape memberKey.toList) == wanted

namespace JsonValue

/-- The value at the rest of a path, within a number of steps. -/
def find : Nat → JsonValue → List Char → Except PathStop JsonValue
  | 0, _, _ => .error .notFound
  | _ + 1, v, [] => .ok v
  | n + 1, v, '.' :: rest => do
    let (k, tail) ← readKey rest
    match v, k with
    | .object members, .key name plain =>
      match members.find? fun (mk, _) => keyMatches mk name plain with
      | some (_, child) => find n child tail
      | none => .error .notFound
    | _, _ => .error .notFound
  | n + 1, v, '[' :: rest =>
    match v with
    | .array items => do
      let (i, tail) ← readIndex items.length rest
      match items[i]? with
      | some child => find n child tail
      | none => .error .notFound
    | _ => .error .notFound
  | _ + 1, _, _ => .error .malformed

/-- What an edit does at the place a path names. -/
inductive Edit where
  | insert
  | replace
  | set
  | remove
  deriving DecidableEq

/-- Whether an edit adds a value where there is none. -/
def Edit.adds (e : Edit) : Bool := e = .insert || e = .set

mutual

/-- Applies an edit at the rest of a path within a value, within a number of steps: answers
the value after. The walk ends with `notFound` where the path leads nowhere the edit may go. -/
def edit : Nat → Edit → JsonValue → JsonValue → List Char → Except PathStop JsonValue
  | 0, _, _, _, _ => .error .notFound
  | _ + 1, e, value, v, [] => .ok (if e = .replace || e = .set then value else v)
  | n + 1, e, value, v, '.' :: rest => do
    let (k, tail) ← readKey rest
    match v, k with
    | .object members, .key name plain =>
      match members.findIdx? fun (mk, _) => keyMatches mk name plain with
      | some j =>
        if tail.isEmpty && e = .remove then return .object (members.eraseIdx j)
        else
          match members[j]? with
          | some (mk, child) => return .object (members.set j (mk, ← edit n e value child tail))
          | none => .error .notFound
      | none =>
        if e.adds then
          let sub ← build n e value tail
          let label := if plain then escape name else name
          return .object (members ++ [(label, sub)])
        else .error .notFound
    | _, _ => .error .notFound
  | n + 1, e, value, v, '[' :: rest =>
    match v with
    | .array items => do
      let (i, tail) ← readIndex items.length rest
      match items[i]? with
      | some child =>
        if tail.isEmpty && e = .remove then return .array (items.eraseIdx i)
        else return .array (items.set i (← edit n e value child tail))
      | none =>
        if i = items.length && e.adds then return .array (items ++ [← build n e value tail])
        else .error .notFound
    | _ => .error .notFound
  | _ + 1, _, _, _, _ => .error .malformed

/-- The value to add for the rest of a path: the value itself at its end, or else an object or
array holding it, as the next step asks. -/
def build : Nat → Edit → JsonValue → List Char → Except PathStop JsonValue
  | 0, _, _, _ => .error .notFound
  | _ + 1, _, value, [] => .ok value
  | n + 1, e, value, '.' :: rest => edit n e value (.object []) ('.' :: rest)
  | n + 1, e, value, cs => edit n e value (.array []) cs

end

/-- Merges a patch into a value, as RFC 7396 describes: an object patch sets or, with null,
removes the members it names, recursively; any other patch replaces the value. -/
def mergePatch : Nat → JsonValue → JsonValue → JsonValue
  | 0, v, _ => v
  | n + 1, v, .object patch =>
    let base := match v with
      | .object members => members
      | _ => []
    .object (patch.foldl (fun (members : List (String × JsonValue)) (k, p) =>
      let same := fun (mk : String × JsonValue) => unescape mk.1.toList == unescape k.toList
      match p with
      | .null => members.filter fun m => !same m
      | p =>
        match members.find? same with
        | some (mk, old) => members.map fun m => if same m then (mk, mergePatch n old p) else m
        | none => members ++ [(k, mergePatch n .null p)]) base)
  | _ + 1, _, patch => patch

end JsonValue

end RoleSync.Sql
