import RoleSync.Sql.JsonBinary
import RoleSync.Sql.JsonPath
/-!
The JSON functions and the -> and ->> operators.

A database value becomes JSON by its storage class: NULL is null, numbers are their text, and
text is a quoted string, unless the text was made by a JSON function, in which case it is read
as JSON. A blob becomes JSON only when it holds JSON in binary form.

A JSON argument is read from text, JSON5 allowed, or from a blob in binary form; a blob that is
not in binary form is read as text. JSON that cannot be read is an error, and so is a path that
does not start with `$` or that is malformed where a walk reaches it.
-/

namespace RoleSync.Sql

set_option autoImplicit false

/-- The error of JSON that cannot be read. -/
def malformedJson : Failure := .run "malformed JSON"

/-- The error of a malformed path. -/
def badPath (path : String) : Failure :=
  .run ("bad JSON path: '" ++ String.ofList (path.toList.flatMap fun c => if c = '\'' then [c, c] else [c]) ++ "'")

/-- The JSON of a database value; text that came from a JSON function is read as JSON. -/
def jsonOfValue (v : Value) (isJson : Bool) : Except Failure JsonValue :=
  match v with
  | .null => .ok .null
  | .integer i => .ok (.number (toString i))
  | .real r =>
    if r.isNaN then .ok .null
    else if r.isInf then .ok (.number (if 0 < r then "9.0e+999" else "-9.0e+999"))
    else .ok (.number (Double.render r))
  | .text s =>
    if isJson then
      match JsonValue.parse? s with
      | some (j, _) => .ok j
      | none => .error malformedJson
    else .ok (.string (JsonValue.escape s))
  | .blob b =>
    if JsonBinary.isBinary b then
      match JsonBinary.decode? b with
      | some j => .ok j
      | none => .error malformedJson
    else .error (.run "JSON cannot hold BLOB values")

/-- Reads a JSON argument; NULL has none. -/
def jsonArgument (v : Value) : Except Failure (Option JsonValue) :=
  let fromText (s : String) : Except Failure (Option JsonValue) :=
    match JsonValue.parse? s with
    | some (j, _) => .ok (some j)
    | none => .error malformedJson
  match v with
  | .null => .ok none
  | .blob b =>
    if JsonBinary.isBinary b then
      match JsonBinary.decode? b with
      | some j => .ok (some j)
      | none => .error malformedJson
    else fromText (bytesText b)
  | v => fromText ((v.asText?).getD "")

/-- The value at a path in a JSON value: none where it leads nowhere. -/
def jsonFind (j : JsonValue) (path : String) : Except Failure (Option JsonValue) :=
  match path.toList with
  | '$' :: rest =>
    match j.find (rest.length + 1) rest with
    | .ok v => .ok (some v)
    | .error .notFound => .ok none
    | .error .malformed => .error (badPath path)
  | _ => .error (badPath path)

/-- The value at an optional path of a JSON argument: none when the argument or the path is
NULL, or the path leads nowhere. -/
def jsonAt (doc : Value) (path : Option Value) : Except Failure (Option JsonValue) := do
  match ← jsonArgument doc with
  | none => return none
  | some j =>
    match path with
    | none => return some j
    | some .null => return none
    | some p => jsonFind j ((p.asText?).getD "")

/-- The path that the right operand of -> or ->> names: a path as written when it starts with
`$`; otherwise an integer is a position, counting back from the end when negative, a name of
letters, digits and underscores is a key, a bracketed text is a step as written, and any other
text is a quoted key. -/
def arrowPath (v : Value) : String :=
  let text := (v.asText?).getD ""
  match v with
  | .integer i => if i < 0 then "$[#" ++ toString i ++ "]" else "$[" ++ toString i ++ "]"
  | _ =>
    if text.startsWith "$" then text
    else if text.toList.all fun c => JsonValue.isAlnum c || c = '_' then "$." ++ text
    else if text.startsWith "[" && 3 ≤ text.length && text.endsWith "]" then "$" ++ text
    else "$.\"" ++ text ++ "\""

/-- Applies an edit at a path: the value after. A path of `$` alone names the whole value. -/
def jsonEdit (e : JsonValue.Edit) (j value : JsonValue) (path : String) :
    Except Failure JsonValue :=
  match path.toList with
  | ['$'] => .ok (if e = .replace || e = .set then value else j)
  | '$' :: rest =>
    match JsonValue.edit (rest.length + 2) e value j rest with
    | .ok v => .ok v
    | .error .notFound => .ok j
    | .error .malformed => .error (badPath path)
  | _ => .error (badPath path)

/-- Writes a value with line breaks and indentation, as json_pretty does: each item and member
on a line of its own, indented one step deeper than its array or object. -/
def JsonValue.pretty (indent : String) : Nat → Nat → JsonValue → String
  | 0, _, v => v.write
  | n + 1, depth, .array items =>
    if items.isEmpty then "[]"
    else
      let inner := String.join (List.replicate (depth + 1) indent)
      "[\n" ++ ",\n".intercalate (items.map fun v => inner ++ pretty indent n (depth + 1) v) ++
        "\n" ++ String.join (List.replicate depth indent) ++ "]"
  | n + 1, depth, .object members =>
    if members.isEmpty then "\x7b\x7d"
    else
      let inner := String.join (List.replicate (depth + 1) indent)
      "\x7b\n" ++ ",\n".intercalate (members.map fun (k, v) =>
        inner ++ "\"" ++ k ++ "\": " ++ pretty indent n (depth + 1) v) ++
        "\n" ++ String.join (List.replicate depth indent) ++ "\x7d"
  | _ + 1, _, v => v.write

/-- A bound on the depth of a value's nesting: the length of its text. -/
def JsonValue.depthBound (v : JsonValue) : Nat := v.write.length + 1

/-- The names of the JSON functions and the argument counts each takes. -/
def jsonArity? (name : String) : Option (Nat → Bool) :=
  match name with
  | "json" | "json_quote" => some (· = 1)
  | "json_valid" | "json_type" | "json_array_length" | "json_pretty" =>
    some fun n => n = 1 || n = 2
  | "json_array" | "json_object" => some fun _ => true
  | "json_extract" | "json_insert" | "json_replace" | "json_set" | "json_remove" => some (1 ≤ ·)
  | "json_patch" | "->" | "->>" => some (· = 2)
  | _ => none

/-- Whether the text a JSON function gives is itself JSON, to be taken as such by another;
json_extract gives JSON when it answers several paths at once, and for one path when it
answers an array or an object. -/
def givesJson (name : String) (arguments : Nat) : Bool :=
  ["json", "json_array", "json_object", "json_quote", "json_insert", "json_replace", "json_set",
    "json_remove", "json_patch", "json_group_array", "json_group_object", "->"].contains name ||
    (name = "json_extract" && 2 < arguments)

/-- Applies an edit function, json_insert, json_replace or json_set, to its arguments: a
document, then paths and values in pairs. -/
def editPairs (e : JsonValue.Edit) (name : String) (args : List (Value × Bool)) :
    Except Failure Value := do
  if args.length % 2 = 0 then throw (.run (name ++ "() needs an odd number of arguments"))
  match args with
  | [] => return .null
  | (doc, _) :: pairs =>
    match ← jsonArgument doc with
    | none => return .null
    | some j =>
      let rec go : List (Value × Bool) → JsonValue → Except Failure JsonValue
        | (p, _) :: (v, isJson) :: rest, j => do
          match p with
          | .null => go rest j
          | p =>
            let value ← jsonOfValue v isJson
            go rest (← jsonEdit e j value ((p.asText?).getD ""))
        | _, j => return j
      return .text (← go pairs j).write

/-- Applies a JSON function to its arguments, each marked with whether it came from a JSON
function. -/
def callJson (name : String) (args : List (Value × Bool)) : Except Failure Value :=
  let arg (i : Nat) : Value := ((args[i]?).map (·.1)).getD .null
  let path (i : Nat) : Option Value := if i < args.length then some (arg i) else none
  match name with
  | "json" => do
    match ← jsonArgument (arg 0) with
    | none => return .null
    | some j => return .text j.write
  | "json_valid" => do
    let flags ← if args.length = 2 then
        let f := (arg 1).toInt
        if f < 1 || 15 < f then throw (.run "FLAGS parameter to json_valid() must be between 1 and 15")
        else pure f.toNat
      else pure 1
    let fromText (s : String) : Value :=
      if flags % 4 = 0 then .integer 0
      else
        match JsonValue.parse? s with
        | some (_, extended) => .integer (if (flags / 2) % 2 = 1 || !extended then 1 else 0)
        | none => .integer 0
    match arg 0 with
    | .null => return .null
    | .blob b =>
      if JsonBinary.isBinary b then
        if (flags / 4) % 2 = 1 then return .integer 1
        else if (flags / 8) % 2 = 1 then return .integer (if (JsonBinary.decode? b).isSome then 1 else 0)
        else return .integer 0
      else return fromText (bytesText b)
    | v => return fromText ((v.asText?).getD "")
  | "json_quote" => do
    let (v, isJson) := (args.head?).getD (.null, false)
    return .text (← jsonOfValue v isJson).write
  | "json_array" => do
    let items ← args.mapM fun (v, isJson) => jsonOfValue v isJson
    return .text (JsonValue.array items).write
  | "json_object" => do
    if args.length % 2 = 1 then
      throw (.run "json_object() requires an even number of arguments")
    let rec pairs : List (Value × Bool) → Except Failure (List (String × JsonValue))
      | (k, _) :: (v, isJson) :: rest => do
        match k with
        | .text key => return (JsonValue.escape key, ← jsonOfValue v isJson) :: (← pairs rest)
        | _ => throw (.run "json_object() labels must be TEXT")
      | _ => return []
    return .text (JsonValue.object (← pairs args)).write
  | "json_type" => do
    match ← jsonAt (arg 0) (path 1) with
    | some j => return .text j.typeName
    | none => return .null
  | "json_array_length" => do
    match ← jsonAt (arg 0) (path 1) with
    | some (.array items) => return .integer items.length
    | some _ => return .integer 0
    | none => return .null
  | "json_extract" => do
    match args.drop 1 with
    | [] => return .null
    | [(p, _)] =>
      match ← jsonAt (arg 0) (some p) with
      | some j => return j.toValue
      | none => return .null
    | paths => do
      match ← jsonArgument (arg 0) with
      | none => return .null
      | some j =>
        if paths.any (·.1.isNull) then return .null
        let found ← paths.mapM fun (p, _) => jsonFind j ((p.asText?).getD "")
        return .text (JsonValue.array (found.map (·.getD .null))).write
  | "->" | "->>" => do
    if (arg 1).isNull then return .null
    match ← jsonAt (arg 0) (some (.text (arrowPath (arg 1)))) with
    | some j => return (if name = "->" then .text j.write else j.toValue)
    | none => return .null
  | "json_insert" => editPairs .insert name args
  | "json_replace" => editPairs .replace name args
  | "json_set" => editPairs .set name args
  | "json_remove" => do
    match ← jsonArgument (arg 0) with
    | none => return .null
    | some j =>
      let rec go : List (Value × Bool) → JsonValue → Except Failure (Option JsonValue)
        | (p, _) :: rest, j => do
          match p with
          | .null => return none
          | p =>
            let text := (p.asText?).getD ""
            if text = "$" then return none
            go rest (← jsonEdit .remove j .null text)
        | [], j => return some j
      match ← go (args.drop 1) j with
      | some j => return .text j.write
      | none => return .null
  | "json_patch" => do
    match ← jsonArgument (arg 0) with
    | none => return .null
    | some target =>
      match ← jsonArgument (arg 1) with
      | none => return .null
      | some patch => return .text (target.mergePatch (patch.depthBound + 1) patch).write
  | "json_pretty" => do
    match ← jsonArgument (arg 0) with
    | none => return .null
    | some j =>
      let indent := match path 1 with
        | some .null | none => "    "
        | some v => (v.asText?).getD ""
      return .text (j.pretty indent j.depthBound 0)
  | _ => .ok .null

/-- Folds the values of a group into a JSON array, as json_group_array does. -/
def groupArray (values : List Value) (isJson : Bool) : Except Failure Value := do
  let items ← values.mapM fun v => jsonOfValue v isJson
  return .text (JsonValue.array items).write

/-- Folds the keys and values of a group into a JSON object, as json_group_object does; rows
with a NULL key are left out. -/
def groupObject (pairs : List (Value × Value)) (isJson : Bool) : Except Failure Value := do
  let members ← (pairs.filter fun (k, _) => !k.isNull).mapM fun (k, v) => do
    return (JsonValue.escape ((k.asText?).getD ""), ← jsonOfValue v isJson)
  return .text (JsonValue.object members).write

end RoleSync.Sql
