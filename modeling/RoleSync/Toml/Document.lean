import RoleSync.Toml.Scalar
/-!
Reading a TOML document into a `Value`.

A document is read line by line into a tree of `Node`s, which remembers how each table came to
be: a table is *implicit* while no header has named it, and *dotted* when a dotted key made it.
These marks decide which definitions may follow:

* a `[table]` header may name a table that does not exist yet, or one that is implicit and was
  not made by dotted keys;
* an `[[array]]` header adds a table to an array of tables, or starts one;
* a dotted key may only pass through implicit tables, and the table it writes into must itself
  have been made by dotted keys;
* no key is written twice, and a value (an inline table or array included) is never extended.

Headers walk into the last table of an array of tables. The readers take a fuel argument no
smaller than the number of characters left, so every step that consumes a character has one.
-/

namespace RoleSync.Toml

set_option autoImplicit false

/-- A table or value of a document under construction. -/
inductive Node where
  /-- A value written after an equals sign. -/
  | value (v : Value)
  /-- A table, with its marks and its entries in the order they were written. -/
  | table (isImplicit isDotted : Bool) (entries : List (String × Node))
  /-- An array of tables, each given by its entries. -/
  | tables (items : List (List (String × Node)))

/-- The entries of a table under construction. -/
abbrev Entries := List (String × Node)

namespace Entries

/-- The node under a key. -/
def find? (es : Entries) (k : String) : Option Node := (List.find? (·.1 == k) es).map (·.2)

/-- Sets the node under a key, in place when the key is present, else at the end. -/
def put (es : Entries) (k : String) (n : Node) : Entries :=
  if es.any (·.1 == k) then es.map fun e => if e.1 == k then (k, n) else e
  else es ++ [(k, n)]

/-- Applies a change to the table at a path of keys, as a header does: a missing table on the
way is made implicit, and an array of tables is entered at its last table. With dotted keys only
implicit tables may be passed. -/
def atPath (dotted : Bool) (f : Entries → Except Unit Entries) : List String → Entries →
    Except Unit Entries
  | [], es => f es
  | k :: ks, es =>
    match find? es k with
    | none => do
      let sub ← atPath dotted f ks []
      pure (put es k (.table true dotted sub))
    | some (.table imp dot sub) =>
      if dotted && !imp then .error ()
      else do
        let sub' ← atPath dotted f ks sub
        pure (put es k (.table imp dot sub'))
    | some (.tables items) =>
      match items.getLast? with
      | none => .error ()
      | some item => do
        let item' ← atPath dotted f ks item
        pure (put es k (.tables (items.dropLast ++ [item'])))
    | some (.value _) => .error ()

/-- Writes a value under a dotted key. The tables on the way are made (implicit and dotted) or
entered when implicit, and the table the key ends in must have been made by dotted keys. -/
def insertDotted (v : Value) : List String → Entries → Except Unit Entries
  | [], _ => .error ()
  | [k], es => if (find? es k).isSome then .error () else .ok (es ++ [(k, .value v)])
  | k :: k2 :: ks, es =>
    match find? es k with
    | none => do
      let sub ← insertDotted v (k2 :: ks) []
      pure (put es k (.table true true sub))
    | some (.table imp dot sub) =>
      if !imp || (ks.isEmpty && !dot) then .error ()
      else do
        let sub' ← insertDotted v (k2 :: ks) sub
        pure (put es k (.table imp dot sub'))
    | some (.tables items) =>
      match items.getLast? with
      | none => .error ()
      | some item =>
        if ks.isEmpty then .error ()
        else do
          let item' ← insertDotted v (k2 :: ks) item
          pure (put es k (.tables (items.dropLast ++ [item'])))
    | some (.value _) => .error ()

/-- Opens the table a header names: a new one, or an implicit one not made by dotted keys. -/
def openTable (keys : List String) (root : Entries) : Except Unit Entries :=
  match keys.getLast? with
  | none => .error ()
  | some k =>
    atPath false (fun es =>
      match find? es k with
      | none => .ok (es ++ [(k, .table false false [])])
      | some (.table true false sub) => .ok (put es k (.table false false sub))
      | _ => .error ()) keys.dropLast root

/-- Adds a table to the array of tables an array header names, starting the array if needed. -/
def openArrayTable (keys : List String) (root : Entries) : Except Unit Entries :=
  match keys.getLast? with
  | none => .error ()
  | some k =>
    atPath false (fun es =>
      match find? es k with
      | none => .ok (es ++ [(k, .tables [[]])])
      | some (.tables items) => .ok (put es k (.tables (items ++ [[]])))
      | _ => .error ()) keys.dropLast root

end Entries

mutual

/-- The value a node stands for. -/
def Node.toValue : Node → Value
  | .value v => v
  | .table _ _ es => .table (entriesToValue es)
  | .tables items => .array (itemsToValue items)

/-- The entries of a finished table. -/
def entriesToValue : List (String × Node) → List (String × Value)
  | [] => []
  | (k, n) :: rest => (k, n.toValue) :: entriesToValue rest

/-- The tables of a finished array of tables. -/
def itemsToValue : List (List (String × Node)) → List Value
  | [] => []
  | es :: rest => .table (entriesToValue es) :: itemsToValue rest

end

/-! ## Layout: blanks, comments and line ends -/

/-- Drops blanks within a line. -/
def skipSpaces (cs : List Char) : List Char := cs.dropWhile isSpace

/-- Reads the rest of a comment and its line end; a comment may hold no control character
but the tab. -/
def commentRest : List Char → Option (List Char)
  | [] => some []
  | '\n' :: rest => some rest
  | '\r' :: '\n' :: rest => some rest
  | c :: rest => if isForbiddenControl c then none else commentRest rest

/-- Reads the end of a line: blanks, an optional comment and a newline or the end of input. -/
def lineEnd (cs : List Char) : Option (List Char) :=
  match skipSpaces cs with
  | [] => some []
  | '\n' :: rest => some rest
  | '\r' :: '\n' :: rest => some rest
  | '#' :: rest => commentRest rest
  | _ => none

/-- Drops blanks, newlines and comments, as between the items of an array. -/
def skipLayout (inComment : Bool) : List Char → Option (List Char)
  | [] => some []
  | c :: rest =>
    if inComment then
      if c = '\n' then skipLayout false rest
      else if c = '\r' then
        match rest with
        | '\n' :: more => skipLayout false more
        | _ => none
      else if isForbiddenControl c then none
      else skipLayout true rest
    else if isSpace c || c = '\n' then skipLayout false rest
    else if c = '\r' then
      match rest with
      | '\n' :: more => skipLayout false more
      | _ => some (c :: rest)
    else if c = '#' then skipLayout true rest
    else some (c :: rest)

/-! ## Keys and values -/

/-- Reads a key without dots: bare, or a one-line string of either kind. -/
def simpleKey (cs : List Char) : Option (String × List Char) :=
  match cs with
  | '"' :: rest => basicString [] rest
  | '\'' :: rest => literalString [] rest
  | _ =>
    let k := cs.takeWhile isBareKeyChar
    if k.isEmpty then none else some (String.ofList k, cs.dropWhile isBareKeyChar)

/-- Reads a dotted key; blanks may stand around the dots. -/
def dottedKey : Nat → List Char → Option (List String × List Char)
  | 0, _ => none
  | n + 1, cs => do
    let (k, rest) ← simpleKey (skipSpaces cs)
    match skipSpaces rest with
    | '.' :: more => do
      let (ks, rest2) ← dottedKey n more
      pure (k :: ks, rest2)
    | r => pure ([k], r)

/-- The deepest nesting a document may have: the most parts of a key, and the most arrays and
inline tables around a value. -/
def maxDepth : Nat := 80

/-- Reads a key, with enough fuel for every dot in it; a key of more parts than the nesting
limit is refused. -/
def readKey (cs : List Char) : Option (List String × List Char) := do
  let (keys, rest) ← dottedKey (cs.length + 1) cs
  if keys.length ≤ maxDepth then some (keys, rest) else none

mutual

/-- Reads a value inside the given number of arrays and inline tables. -/
def readValue : Nat → Nat → List Char → Option (Value × List Char)
  | 0, _, _ => none
  | n + 1, depth, cs =>
    match cs with
    | '"' :: '"' :: '"' :: rest =>
      (longString '"' true [] (.text 0) (dropOpeningNewline rest)).map fun (s, r) => (.string s, r)
    | '"' :: rest => (basicString [] rest).map fun (s, r) => (.string s, r)
    | '\'' :: '\'' :: '\'' :: rest =>
      (longString '\'' false [] (.text 0) (dropOpeningNewline rest)).map
        fun (s, r) => (.string s, r)
    | '\'' :: rest => (literalString [] rest).map fun (s, r) => (.string s, r)
    | '[' :: rest => if depth < maxDepth then readArray n (depth + 1) [] rest else none
    | '{' :: rest => if depth < maxDepth then readInline n (depth + 1) [] rest else none
    | _ =>
      let (tok, rest) := bareToken cs
      (scalar? tok).map fun v => (v, rest)

/-- Reads the items of an array after its opening bracket; a trailing comma is allowed, and
newlines and comments may stand between the items. -/
def readArray : Nat → Nat → List Value → List Char → Option (Value × List Char)
  | 0, _, _, _ => none
  | n + 1, depth, acc, cs => do
    let cs ← skipLayout false cs
    match cs with
    | ']' :: rest => some (.array acc.reverse, rest)
    | _ => do
      let (v, rest) ← readValue n depth cs
      let rest ← skipLayout false rest
      match rest with
      | ',' :: more => readArray n depth (v :: acc) more
      | ']' :: more => some (.array (v :: acc).reverse, more)
      | _ => none

/-- Reads the entries of an inline table after its opening brace; a trailing comma is allowed,
and newlines and comments may stand between the entries. -/
def readInline : Nat → Nat → Entries → List Char → Option (Value × List Char)
  | 0, _, _, _ => none
  | n + 1, depth, es, cs => do
    let cs ← skipLayout false cs
    match cs with
    | '}' :: rest => some (.table (entriesToValue es), rest)
    | _ => do
      let (keys, rest) ← readKey cs
      match skipSpaces rest with
      | '=' :: more => do
        let (v, rest2) ← readValue n depth (skipSpaces more)
        let es2 ← (Entries.insertDotted v keys es).toOption
        let rest3 ← skipLayout false rest2
        match rest3 with
        | ',' :: more2 => readInline n depth es2 more2
        | '}' :: more2 => some (.table (entriesToValue es2), more2)
        | _ => none
      | _ => none

end

/-! ## Documents -/

/-- A document being read: the tree so far and the path of the table that key-value lines
write into. -/
structure Reading where
  root : Entries
  current : List String

/-- Reads the lines of a document. -/
def readLines : Nat → Reading → List Char → Option Reading
  | 0, _, _ => none
  | n + 1, st, cs =>
    match skipSpaces cs with
    | [] => some st
    | '\n' :: rest => readLines n st rest
    | '\r' :: '\n' :: rest => readLines n st rest
    | '#' :: rest => do
      let r ← commentRest rest
      readLines n st r
    | '[' :: '[' :: rest => do
      let (keys, r1) ← readKey rest
      match skipSpaces r1 with
      | ']' :: ']' :: r2 => do
        let root ← (Entries.openArrayTable keys st.root).toOption
        let r3 ← lineEnd r2
        readLines n ⟨root, keys⟩ r3
      | _ => none
    | '[' :: rest => do
      let (keys, r1) ← readKey rest
      match skipSpaces r1 with
      | ']' :: r2 => do
        let root ← (Entries.openTable keys st.root).toOption
        let r3 ← lineEnd r2
        readLines n ⟨root, keys⟩ r3
      | _ => none
    | line => do
      let (keys, r1) ← readKey line
      match skipSpaces r1 with
      | '=' :: r2 => do
        let (v, r3) ← readValue (2 * r2.length + 2) 0 (skipSpaces r2)
        let root ← (Entries.atPath false (Entries.insertDotted v keys) st.current st.root).toOption
        let r4 ← lineEnd r3
        readLines n ⟨root, st.current⟩ r4
      | _ => none

/-- Reads a document, after an optional byte order mark, into its root table; none when the
text is no TOML document. -/
def parse? (text : String) : Option Value :=
  let cs := match text.toList with
    | '\uFEFF' :: rest => rest
    | cs => cs
  (readLines (cs.length + 1) ⟨[], []⟩ cs).map fun st => .table (entriesToValue st.root)

end RoleSync.Toml
